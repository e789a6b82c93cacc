import OpcuaGds.Foundation.JsonPython
import OpcuaGds.Gds.Database

/-! # Validation of certificate requests

`extract_csr_identity` and `RuntimeAdapter.validate_csr`: what a CSR asks for, and the checks
against the application and the component profile that come before signing.
-/

namespace OpcuaGds.Gds

/-! ## Identity of a CSR -/

/-- An entry of the subject alternative names. -/
inductive GeneralName where
  | uniformResourceIdentifier (value : String)
  | dnsName (value : String)
  | ipAddress (text : String)
  | other
  deriving DecidableEq, Repr

/-- The key usages that the code asks for. -/
structure KeyUsage where
  digitalSignature : Bool
  keyEncipherment : Bool
  keyCertSign : Bool
  deriving DecidableEq, Repr

inductive ExtendedKeyUsage where
  | serverAuth
  | clientAuth
  | other (dottedString : String)
  deriving DecidableEq, Repr

structure CsrExtensions where
  subjectAlternativeName : Option (List GeneralName)
  keyUsage : Option KeyUsage
  extendedKeyUsage : Option (List ExtendedKeyUsage)
  deriving DecidableEq, Repr

/-- A CSR that was parsed. Its extensions may still be unreadable, and the verification of its
signature may raise, when the key is of an unsupported type. -/
structure Csr where
  subject : String
  fingerprintSha256 : String
  signatureValid : Option Bool
  extensions : Option CsrExtensions
  deriving DecidableEq, Repr

/-- The result of `extract_csr_identity`. -/
structure CsrIdentity where
  subject : String
  uriSans : List String
  dnsSans : List String
  ipSans : List String
  keyUsage : List String
  extendedKeyUsage : List String
  deriving DecidableEq, Repr

namespace GeneralName

def uri? : GeneralName → Option String
  | .uniformResourceIdentifier value => some value
  | _ => none

def dns? : GeneralName → Option String
  | .dnsName value => some value
  | _ => none

def ip? : GeneralName → Option String
  | .ipAddress text => some text
  | _ => none

end GeneralName

def KeyUsage.names (usage : KeyUsage) : List String :=
  (if usage.digitalSignature then ["digitalSignature"] else []) ++
    (if usage.keyEncipherment then ["keyEncipherment"] else []) ++
    (if usage.keyCertSign then ["keyCertSign"] else [])

def ExtendedKeyUsage.name : ExtendedKeyUsage → String
  | .serverAuth => "serverAuth"
  | .clientAuth => "clientAuth"
  | .other dottedString => dottedString

/-- `extract_csr_identity`; `none` where reading the extensions raises. -/
def extractCsrIdentity (csr : Csr) : Option CsrIdentity :=
  csr.extensions.map fun extensions =>
    let san := extensions.subjectAlternativeName.getD []
    { subject := csr.subject
      uriSans := san.filterMap GeneralName.uri?
      dnsSans := san.filterMap GeneralName.dns?
      ipSans := san.filterMap GeneralName.ip?
      keyUsage := (extensions.keyUsage.map KeyUsage.names).getD []
      extendedKeyUsage := (extensions.extendedKeyUsage.getD []).map ExtendedKeyUsage.name }

/-! ## Checks -/

/-- The columns of `component_profiles` that the checks read. -/
structure EnrollmentRules where
  componentType : String
  certificateFormat : String
  compatibilityRulesJson : Json
  enrollmentPolicyJson : Json

/-- `_as_dict`. -/
def asDict : Json → List (String × Json)
  | .obj fields => fields
  | _ => []

/-- `set(value)`; `none` for an exception. -/
def setOf? : Json → Option (List Json)
  | .arr items => if items.all Json.isScalar then some items else none
  | .str text => some (text.toList.map fun c => .str (String.singleton c))
  | .obj fields => some (fields.map fun field => .str field.1)
  | _ => none

/-- A member of a set of texts. -/
def isMemberOf (texts : List String) : Json → Bool
  | .str text => texts.contains text
  | _ => false

namespace EnrollmentRules

variable (rules : EnrollmentRules)

/-- `self.enrollment_policy`. -/
def enrollmentPolicy : List (String × Json) := asDict rules.enrollmentPolicyJson

/-- The usages that `compatibility_rules` requires under a key. -/
def requiredUsage? (key : String) : Option (List Json) :=
  setOf? (((asDict rules.compatibilityRulesJson).lookup key).getD (.arr []))

/-- `isinstance(allowed_zones, list) and app.get("zone") not in allowed_zones`. -/
def forbidsZone (zone : Zone) : Bool :=
  match rules.enrollmentPolicy.lookup "allowed_zones" with
  | some (.arr allowedZones) => !allowedZones.any (isMemberOf [zone.name])
  | _ => false

def allowsPrivateIpSans : Bool :=
  ((rules.enrollmentPolicy.lookup "allow_private_ip_sans").getD (.bool true)).truthy

end EnrollmentRules

/-- The names that the code takes for wildcards. -/
def isWildcard (dnsName : String) : Bool := "*.".isPrefixOf dnsName

section Validation

-- `ipaddress.ip_address(text).is_private`, with `none` for a `ValueError`.
variable (isPrivate : String → Option Bool) (rules : EnrollmentRules)

/-- The check of the URI SANs. -/
def uriSanErrors (identity : CsrIdentity) (app : Application) : List String :=
  let appUri := PythonText.strip app.applicationUri
  if appUri ≠ "" ∧ identity.uriSans ≠ [] ∧ appUri ∉ identity.uriSans then
    ["csr_uri_san_mismatch"]
  else []

/-- The check of one IP SAN. -/
def ipSanErrors (ipText : String) : List String :=
  match isPrivate ipText with
  | some true => ["private_ip_san_rejected"]
  | some false => []
  | none => ["invalid_ip_san"]

/-- The check of the usages that a profile requires. -/
def usageErrors (error : String) (required : List Json) (present : List String) : List String :=
  if required ≠ [] ∧ !required.all (isMemberOf present) then [error] else []

/-- The errors of `validate_csr`, with the identity that it extracts. There are no warnings;
`none` where it raises. -/
def validateCsr (csr : Csr) (app : Application) : Option (List String × CsrIdentity) := do
  let identity ← extractCsrIdentity csr
  let requiredEku ← rules.requiredUsage? "required_extended_key_usage"
  let requiredKu ← rules.requiredUsage? "required_key_usage"
  some (
    uriSanErrors identity app ++
      (identity.dnsSans.filter isWildcard).map (fun _ => "wildcard_dns_san_rejected") ++
      (if rules.forbidsZone app.zone then ["zone_not_allowed_by_profile"] else []) ++
      (if rules.allowsPrivateIpSans then [] else identity.ipSans.flatMap (ipSanErrors isPrivate)) ++
      usageErrors "extended_key_usage_missing_required" requiredEku identity.extendedKeyUsage ++
      usageErrors "key_usage_missing_required" requiredKu identity.keyUsage,
    identity)

/-! ## Binding of an accepted CSR -/

/-- What an accepted CSR is bound to. -/
structure IdentityBound (identity : CsrIdentity) (app : Application) : Prop where
  uriSans : ∀ uri ∈ identity.uriSans, uri = app.applicationUri
  dnsSans : ∀ name ∈ identity.dnsSans, isWildcard name = false
  extendedKeyUsage : ∀ required,
    rules.requiredUsage? "required_extended_key_usage" = some required →
    ∀ usage ∈ required, isMemberOf identity.extendedKeyUsage usage = true
  keyUsage : ∀ required, rules.requiredUsage? "required_key_usage" = some required →
    ∀ usage ∈ required, isMemberOf identity.keyUsage usage = true

/-- The grounds on which a CSR is not accepted. -/
inductive NotAccepted (identity : CsrIdentity) (app : Application) : Prop where
  | uri (named : PythonText.strip app.applicationUri ≠ "")
      (present : identity.uriSans ≠ [])
      (absent : PythonText.strip app.applicationUri ∉ identity.uriSans)
  | wildcard (name : String) (member : name ∈ identity.dnsSans) (wild : isWildcard name = true)
  | zone (forbidden : rules.forbidsZone app.zone = true)
  | ip (checked : rules.allowsPrivateIpSans = false) (text : String)
      (member : text ∈ identity.ipSans) (refused : isPrivate text ≠ some false)
  | unreadable (key : String)
      (isKey : key = "required_extended_key_usage" ∨ key = "required_key_usage")
      (raises : rules.requiredUsage? key = none)
  | extendedKeyUsage (required : List Json) (usage : Json)
      (requires : rules.requiredUsage? "required_extended_key_usage" = some required)
      (member : usage ∈ required) (missing : isMemberOf identity.extendedKeyUsage usage = false)
  | keyUsage (required : List Json) (usage : Json)
      (requires : rules.requiredUsage? "required_key_usage" = some required)
      (member : usage ∈ required) (missing : isMemberOf identity.keyUsage usage = false)

variable {isPrivate rules} {csr : Csr} {app : Application} {identity : CsrIdentity}

theorem uriSanErrors_eq_nil_iff :
    uriSanErrors identity app = [] ↔ (PythonText.strip app.applicationUri ≠ "" →
      identity.uriSans ≠ [] → PythonText.strip app.applicationUri ∈ identity.uriSans) := by
  rw [uriSanErrors]
  split
  · rename_i mismatch
    simp [mismatch]
  · rename_i matching
    simp only [true_iff]
    intro named present
    by_contra absent
    exact matching ⟨named, present, absent⟩

theorem ipSanErrors_eq_nil_iff {ipText : String} :
    ipSanErrors isPrivate ipText = [] ↔ isPrivate ipText = some false := by
  rw [ipSanErrors]
  split <;> simp_all

theorem usageErrors_eq_nil_iff {error : String} {required : List Json} {present : List String} :
    usageErrors error required present = [] ↔
      ∀ usage ∈ required, isMemberOf present usage = true := by
  rw [usageErrors]
  split
  · rename_i missing
    simp only [Bool.not_eq_true', List.all_eq_false] at missing
    simpa using missing.2
  · rename_i complete
    simp only [true_iff]
    intro usage member
    by_contra missing
    refine complete ⟨List.ne_nil_of_mem member, ?_⟩
    rw [Bool.not_eq_true', List.all_eq_false]
    exact ⟨usage, member, missing⟩

/-- A CSR is accepted exactly when there is no ground against it. -/
theorem validateCsr_eq_nil_iff :
    validateCsr isPrivate rules csr app = some ([], identity) ↔
      extractCsrIdentity csr = some identity ∧ ¬ NotAccepted isPrivate rules identity app := by
  simp only [validateCsr, Option.bind_eq_bind, Option.bind_eq_some_iff, Option.some.injEq,
    Prod.mk.injEq, List.append_eq_nil_iff, List.map_eq_nil_iff, List.filter_eq_nil_iff,
    uriSanErrors_eq_nil_iff, usageErrors_eq_nil_iff]
  constructor
  · rintro ⟨_, extracted, requiredEku, isEku, requiredKu, isKu,
      ⟨⟨⟨⟨⟨uri, dns⟩, zone⟩, ip⟩, eku⟩, ku⟩, rfl⟩
    refine ⟨extracted, fun refused => ?_⟩
    cases refused with
    | uri named present absent => exact absent (uri named present)
    | wildcard name member wild => exact dns name member wild
    | zone forbidden =>
        rw [if_pos forbidden] at zone
        cases zone
    | ip checked text member refused =>
        rw [if_neg (by rw [checked]; decide), List.flatMap_eq_nil_iff] at ip
        exact refused (ipSanErrors_eq_nil_iff.mp (ip text member))
    | unreadable key isKey raises =>
        rcases isKey with rfl | rfl
        · rw [raises] at isEku
          cases isEku
        · rw [raises] at isKu
          cases isKu
    | extendedKeyUsage required usage requires member missing =>
        cases isEku.symm.trans requires
        rw [eku usage member] at missing
        cases missing
    | keyUsage required usage requires member missing =>
        cases isKu.symm.trans requires
        rw [ku usage member] at missing
        cases missing
  · rintro ⟨extracted, accepted⟩
    have readable (key : String)
        (isKey : key = "required_extended_key_usage" ∨ key = "required_key_usage") :
        ∃ required, rules.requiredUsage? key = some required := by
      cases found : rules.requiredUsage? key with
      | none => exact absurd (.unreadable key isKey found) accepted
      | some required => exact ⟨required, rfl⟩
    obtain ⟨requiredEku, isEku⟩ := readable "required_extended_key_usage" (Or.inl rfl)
    obtain ⟨requiredKu, isKu⟩ := readable "required_key_usage" (Or.inr rfl)
    refine ⟨identity, extracted, requiredEku, isEku, requiredKu, isKu,
      ⟨⟨⟨⟨⟨?_, ?_⟩, ?_⟩, ?_⟩, ?_⟩, ?_⟩, rfl⟩
    · intro named present
      by_contra absent
      exact accepted (.uri named present absent)
    · intro name member wild
      exact accepted (.wildcard name member wild)
    · rw [if_neg fun forbidden => accepted (.zone forbidden)]
    · split
      · rfl
      · rename_i checked
        rw [List.flatMap_eq_nil_iff]
        intro text member
        rw [ipSanErrors_eq_nil_iff]
        by_contra refused
        exact accepted (.ip (by simpa using checked) text member refused)
    · intro usage member
      by_contra missing
      exact accepted (.extendedKeyUsage requiredEku usage isEku member (by simpa using missing))
    · intro usage member
      by_contra missing
      exact accepted (.keyUsage requiredKu usage isKu member (by simpa using missing))

/-- An accepted CSR is bound to all that the checks ask for, up to its URI SANs. -/
theorem identityBound_of_uriSans (accepted : ¬ NotAccepted isPrivate rules identity app)
    (uriSans : ∀ uri ∈ identity.uriSans, uri = app.applicationUri) :
    IdentityBound rules identity app where
  uriSans := uriSans
  dnsSans name member := by
    by_contra wild
    exact accepted (.wildcard name member (by simpa using wild))
  extendedKeyUsage required requires usage member := by
    by_contra missing
    exact accepted (.extendedKeyUsage required usage requires member (by simpa using missing))
  keyUsage required requires usage member := by
    by_contra missing
    exact accepted (.keyUsage required usage requires member (by simpa using missing))

variable (isPrivate rules) in
/-- A CSR without errors is bound to the application if and only if all its URI SANs are the
URI of the application, or there is a ground against it. -/
theorem accepted_csr_bound_iff (csr : Csr) (app : Application) :
    (∀ identity, validateCsr isPrivate rules csr app = some ([], identity) →
        IdentityBound rules identity app) ↔
      ∀ identity, extractCsrIdentity csr = some identity →
        (∀ uri ∈ identity.uriSans, uri = app.applicationUri) ∨
          NotAccepted isPrivate rules identity app := by
  refine forall_congr' fun identity => ?_
  rw [validateCsr_eq_nil_iff]
  constructor
  · intro bound extracted
    by_cases refused : NotAccepted isPrivate rules identity app
    · exact Or.inr refused
    · exact Or.inl (bound ⟨extracted, refused⟩).uriSans
  · rintro condition ⟨extracted, accepted⟩
    exact identityBound_of_uriSans accepted ((condition extracted).resolve_right accepted)

end Validation

/-! ## A CSR with the URI of another application -/

/-- The checks of the built-in profile `open62541-client`. -/
def clientRules : EnrollmentRules where
  componentType := "client"
  certificateFormat := "pem"
  compatibilityRulesJson := .obj [
    ("required_key_usage", .arr [.str "digitalSignature", .str "keyEncipherment"]),
    ("required_extended_key_usage", .arr [.str "clientAuth"]),
    ("reject_wildcard_dns_sans", .bool true)]
  enrollmentPolicyJson := .obj [
    ("auto_issue_allowed", .bool true),
    ("manual_approval_required", .bool false),
    ("allowed_zones", .arr [.str "OT", .str "DMZ"]),
    ("allow_private_ip_sans", .bool true),
    ("renewal_threshold_days", .int 7)]

def clientApplication : Application where
  id := 1
  applicationUri := "urn:client"
  commonName := "client"
  zone := .dmz
  role := .client
  componentType := some "client"
  status := "active"

/-- A CSR that names two applications. -/
def twoUriCsr : Csr where
  subject := "CN=client"
  fingerprintSha256 := "csr-1"
  signatureValid := some true
  extensions := some {
    subjectAlternativeName := some [.uniformResourceIdentifier "urn:client",
      .uniformResourceIdentifier "urn:server"]
    keyUsage := some ⟨true, true, false⟩
    extendedKeyUsage := some [.clientAuth] }

/-- It is accepted for one of them, and not bound to it. -/
theorem two_uri_csr_not_bound :
    ¬ ∀ identity, validateCsr (fun _ => some false) clientRules twoUriCsr clientApplication =
        some ([], identity) → IdentityBound clientRules identity clientApplication := by
  intro bound
  have accepted : validateCsr (fun _ => some false) clientRules twoUriCsr clientApplication =
      some ([], ⟨"CN=client", ["urn:client", "urn:server"], [], [],
        ["digitalSignature", "keyEncipherment"], ["clientAuth"]⟩) := by
    decide +kernel
  have foreign := (bound _ accepted).uriSans "urn:server" (by simp)
  exact absurd foreign (by decide)

end OpcuaGds.Gds
