import OpcuaGds.Foundation.Fallible
import OpcuaGds.Gds.PackageManifest
import OpcuaGds.Gds.ServedArtifact

/-! # Freshness evidence of the CRLs

`VaultClient` reads a root and an intermediate CRL and says of each that its freshness was
verified. The flag goes into the metadata of signed artifacts and of package manifests.
-/

namespace OpcuaGds.Gds

/-- The settings that decide which CRLs are read and whether their age counts. -/
structure VaultSettings where
  rootPkiMount : String
  intermediatePkiMount : String
  rootIssuerId : String
  intermediateIssuerId : String
  rootCrlMode : String
  intermediateCrlMode : String
  strictCrlFreshness : Bool

/-- What a parsed CRL shows; its moments are UTC. -/
structure ParsedCrl where
  issuer : String
  lastUpdate : Timestamp.DateTime
  nextUpdate : Option Timestamp.DateTime
  der : List UInt8

/-- `load_pem_x509_crl` and `load_der_x509_crl`, or the texts of their exceptions. -/
structure CrlParser where
  loadPem : List UInt8 → Except String ParsedCrl
  loadDer : List UInt8 → Except String ParsedCrl

structure VaultResponse where
  contentType : String
  content : List UInt8

/-- What Vault answers at the moment of one fetch, and the clock that the freshness check
reads. No answer is an exception of the request: no token, a sealed Vault, an HTTP error. -/
structure CrlFetch where
  answer : String → Option VaultResponse
  now : Timestamp.DateTime

inductive VaultError where
  | unavailable
  /-- Neither parser reads the response. -/
  | unreadable (message : String)
  | runtimeError (message : String)
  /-- The CRL has no nextUpdate, and `None` has no `replace`. -/
  | attributeError
  deriving DecidableEq, Repr

/-- The arguments of one call of `_get_crl_from_endpoint`. -/
structure CrlEndpoint where
  mount : String
  path : String
  source : String
  issuerId : Option String

/-- The dictionary that `_get_crl_from_endpoint` returns; its encoding is always base64. -/
structure CrlRecord where
  mount : String
  contentType : String
  crlBase64 : String
  source : String
  endpoint : String
  issuerId : Option String
  issuer : String
  lastUpdate : String
  nextUpdate : String
  sha256 : String
  freshnessVerified : Bool

/-- The two records of `get_crl_bundle`; the rest of its dictionary is made of them. -/
structure CrlBundle where
  root : CrlRecord
  intermediate : CrlRecord

def CrlBundle.crlFreshnessVerified (bundle : CrlBundle) : Bool :=
  bundle.root.freshnessVerified && bundle.intermediate.freshnessVerified

/-- `crl_metadata`, as both writers copy it from the bundle. -/
def CrlBundle.crlMetadata (bundle : CrlBundle) : List (String × Json) :=
  [("root_crl_source", .str bundle.root.source),
    ("root_pki_mount", .str bundle.root.mount),
    ("root_issuer_id", bundle.root.issuerId.elim .null .str),
    ("root_crl_issuer", .str bundle.root.issuer),
    ("root_crl_next_update", .str bundle.root.nextUpdate),
    ("root_crl_sha256", .str bundle.root.sha256),
    ("intermediate_pki_mount", .str bundle.intermediate.mount),
    ("intermediate_crl_issuer", .str bundle.intermediate.issuer),
    ("intermediate_crl_next_update", .str bundle.intermediate.nextUpdate),
    ("intermediate_crl_sha256", .str bundle.intermediate.sha256),
    ("crl_freshness_verified", .bool bundle.crlFreshnessVerified)]

/-- `crl_bundle`, as both writers make it. -/
def CrlBundle.crls (bundle : CrlBundle) : List (String × Json) :=
  [("root_crl_base64", .str bundle.root.crlBase64),
    ("intermediate_crl_base64", .str bundle.intermediate.crlBase64)]

/-- What `_get_or_regenerate_signed_artifact` hands to the signer. -/
def CrlBundle.vaultMaterial (bundle : CrlBundle) (caChainPem : String) : VaultMaterial where
  caChainPem := caChainPem
  crlBase64 := bundle.intermediate.crlBase64
  crlBundle := bundle.crls
  crlMetadata := bundle.crlMetadata

/-- `_safe_crl_bundle`: after an exception both dictionaries are empty. -/
def safeCrlBundle (fetched : Except VaultError CrlBundle) :
    List (String × Json) × List (String × Json) :=
  match fetched with
  | .ok bundle => (bundle.crls, bundle.crlMetadata)
  | .error _ => ([], [])

/-- `issue_certificate_package` puts both dictionaries into the manifest. -/
def PackageMaterial.withCrls (material : PackageMaterial)
    (fetched : Except VaultError CrlBundle) : PackageMaterial :=
  { material with
    crlBundle := (safeCrlBundle fetched).1
    crlMetadata := (safeCrlBundle fetched).2 }

section Fetching

variable (parser : CrlParser) (sha256Hex : List UInt8 → String) (settings : VaultSettings)

/-- `_crl_response_to_der`. -/
def crlResponseToDer (response : VaultResponse) : Except VaultError (List UInt8) :=
  let body := response.content
  let pem : Except VaultError (List UInt8) :=
    ((parser.loadPem body).mapError .unreadable).map ParsedCrl.der
  if textBytes "-----BEGIN X509 CRL-----" <:+: body ∨ textBytes "-----BEGIN CRL-----" <:+: body ∨
      "pem".toList <:+: (PythonText.lower response.contentType).toList then
    pem
  else
    match parser.loadDer body with
    | .ok crl => .ok crl.der
    | .error _ => pem

/-- The strict part of `_parse_crl_metadata`. Its check for a missing nextUpdate is left out:
the attribute error comes before it. -/
def checkFreshness (endpoint : CrlEndpoint) (nextUpdate now : Timestamp.DateTime) :
    Except VaultError Unit :=
  if settings.strictCrlFreshness then
    Fallible.check (now.micros < nextUpdate.micros)
      (.runtimeError ("CRL from " ++ endpoint.path ++ " expired at " ++ toRfc3339Utc nextUpdate))
  else .ok ()

/-- `_parse_crl_metadata`, with the rest of the record around it. -/
def parseCrlMetadata (endpoint : CrlEndpoint) (contentType : String) (crlDer : List UInt8)
    (now : Timestamp.DateTime) : Except VaultError CrlRecord := do
  let crl ← (parser.loadDer crlDer).mapError fun message =>
    .runtimeError ("unparsable CRL from " ++ endpoint.path ++ ": " ++ message)
  let nextUpdate ← Fallible.orRaise .attributeError crl.nextUpdate
  checkFreshness settings endpoint nextUpdate now
  return {
    mount := endpoint.mount
    contentType := contentType
    crlBase64 := String.ofList (Base64.encode crlDer)
    source := endpoint.source
    endpoint := endpoint.path
    issuerId := endpoint.issuerId
    issuer := crl.issuer
    lastUpdate := toRfc3339Utc crl.lastUpdate
    nextUpdate := toRfc3339Utc nextUpdate
    sha256 := sha256Hex crlDer
    freshnessVerified := true }

/-- `_get_crl_from_endpoint`. -/
def getCrlFromEndpoint (endpoint : CrlEndpoint) (fetch : CrlFetch) :
    Except VaultError CrlRecord := do
  let response ← Fallible.orRaise .unavailable (fetch.answer endpoint.path)
  let crlDer ← crlResponseToDer parser response
  parseCrlMetadata parser sha256Hex settings endpoint response.contentType crlDer fetch.now

/-- Where `get_root_crl` reads. -/
def rootEndpoint : Except VaultError CrlEndpoint :=
  let mount := settings.rootPkiMount
  let issuerId := PythonText.strip settings.rootIssuerId
  if PythonText.lower settings.rootCrlMode = "issuer_specific" then
    if issuerId = "" then
      .error (.runtimeError
        "GDS__VAULT__ROOT_ISSUER_ID is required for issuer_specific root CRL mode")
    else
      .ok {
        mount := mount
        path := "/v1/" ++ mount ++ "/issuer/" ++ issuerId ++ "/crl/pem"
        source := "issuer_specific"
        issuerId := some issuerId }
  else
    .ok {
      mount := mount
      path := "/v1/" ++ mount ++ "/crl/pem"
      source := "mount"
      issuerId := none }

/-- Where `get_intermediate_crl` reads. -/
def intermediateEndpoint : CrlEndpoint :=
  let mount := settings.intermediatePkiMount
  let issuerId := PythonText.strip settings.intermediateIssuerId
  if PythonText.lower settings.intermediateCrlMode = "issuer_specific" ∧ issuerId ≠ "" then
    { mount := mount
      path := "/v1/" ++ mount ++ "/issuer/" ++ issuerId ++ "/crl/pem"
      source := "issuer_specific"
      issuerId := some issuerId }
  else
    { mount := mount
      path := "/v1/" ++ mount ++ "/crl/pem"
      source := "mount"
      issuerId := if issuerId = "" then none else some issuerId }

def getRootCrl (fetch : CrlFetch) : Except VaultError CrlRecord := do
  let endpoint ← rootEndpoint settings
  getCrlFromEndpoint parser sha256Hex settings endpoint fetch

def getIntermediateCrl (fetch : CrlFetch) : Except VaultError CrlRecord :=
  getCrlFromEndpoint parser sha256Hex settings (intermediateEndpoint settings) fetch

/-- `get_crl_bundle`: one fetch after the other. -/
def getCrlBundle (rootFetch intermediateFetch : CrlFetch) : Except VaultError CrlBundle := do
  let root ← getRootCrl parser sha256Hex settings rootFetch
  let intermediate ← getIntermediateCrl parser sha256Hex settings intermediateFetch
  return { root := root, intermediate := intermediate }

end Fetching

/-! ## What a bundle was made of -/

section Fetched

variable (parser : CrlParser) (settings : VaultSettings)

/-- The CRL that a fetch reads from an endpoint. -/
def CrlFetch.crl? (fetch : CrlFetch) (endpoint : CrlEndpoint) : Option ParsedCrl := do
  let response ← fetch.answer endpoint.path
  let crlDer ← (crlResponseToDer parser response).toOption
  (parser.loadDer crlDer).toOption

/-- The nextUpdate of the root CRL, where there is an endpoint and a CRL that shows one. -/
def CrlFetch.rootNextUpdate? (fetch : CrlFetch) : Option Timestamp.DateTime := do
  let endpoint ← (rootEndpoint settings).toOption
  let crl ← fetch.crl? parser endpoint
  crl.nextUpdate

def CrlFetch.intermediateNextUpdate? (fetch : CrlFetch) : Option Timestamp.DateTime := do
  let crl ← fetch.crl? parser (intermediateEndpoint settings)
  crl.nextUpdate

/-- At the time of its fetch each of the two CRLs had a later nextUpdate. -/
def BothFresh (rootFetch intermediateFetch : CrlFetch) : Prop :=
  (∃ nextUpdate ∈ rootFetch.rootNextUpdate? parser settings,
      rootFetch.now.micros < nextUpdate.micros) ∧
    ∃ nextUpdate ∈ intermediateFetch.intermediateNextUpdate? parser settings,
      intermediateFetch.now.micros < nextUpdate.micros

/-- Both CRLs can be read and show a nextUpdate, and for one of them it is past. -/
def OneExpired (rootFetch intermediateFetch : CrlFetch) : Prop :=
  ∃ rootNext ∈ rootFetch.rootNextUpdate? parser settings,
    ∃ intermediateNext ∈ intermediateFetch.intermediateNextUpdate? parser settings,
      rootNext.micros ≤ rootFetch.now.micros ∨
        intermediateNext.micros ≤ intermediateFetch.now.micros

end Fetched

/-- `crl_freshness_verified` in the metadata of a signed document. -/
def freshnessFlag (document : Json) : Option Json :=
  (document.field? "crl_metadata").bind (Json.field? "crl_freshness_verified")

/-- Where the bundle, an artifact or a manifest says that the freshness was verified, both
CRLs were fresh. -/
structure FreshnessHonest {PrivateKey PublicKey : Type} (crypto : Crypto PrivateKey PublicKey)
    (parser : CrlParser) (settings : VaultSettings) (rootFetch intermediateFetch : CrlFetch) :
    Prop where
  bundle : ∀ bundle,
    getCrlBundle parser crypto.sha256Hex settings rootFetch intermediateFetch = .ok bundle →
      bundle.crlFreshnessVerified = true → BothFresh parser settings rootFetch intermediateFetch
  artifact : ∀ bundle,
    getCrlBundle parser crypto.sha256Hex settings rootFetch intermediateFetch = .ok bundle →
      ∀ (signer : TrustArtifactSigner PrivateKey) trustList certs caChainPem artifactRevision reason
        generatedAt signed,
        signer.buildSignedArtifact crypto trustList certs (bundle.vaultMaterial caChainPem)
            artifactRevision reason generatedAt = some signed →
          freshnessFlag signed.artifact = some (.bool true) →
            BothFresh parser settings rootFetch intermediateFetch
  manifest : ∀ (signer : TrustArtifactSigner PrivateKey) material previous,
    freshnessFlag (packageManifest crypto signer (PackageMaterial.withCrls material
        (getCrlBundle parser crypto.sha256Hex settings rootFetch intermediateFetch)) previous) =
      some (.bool true) → BothFresh parser settings rootFetch intermediateFetch

section Evidence

variable {parser : CrlParser} {sha256Hex : List UInt8 → String} {settings : VaultSettings}
  {rootFetch intermediateFetch : CrlFetch}

theorem checkFreshness_eq_ok {endpoint : CrlEndpoint} {nextUpdate now : Timestamp.DateTime}
    {done : Unit} :
    checkFreshness settings endpoint nextUpdate now = .ok done ↔
      (settings.strictCrlFreshness = true → now.micros < nextUpdate.micros) := by
  unfold checkFreshness
  split
  · rename_i strict
    rw [Fallible.check_eq_ok]
    exact ⟨fun later _ => later, fun later => later strict⟩
  · rename_i lax
    exact iff_of_true rfl fun strict => absurd strict lax

/-- A record is made of a CRL with a nextUpdate, which only strict freshness compares with the
clock. -/
theorem exists_getCrlFromEndpoint {endpoint : CrlEndpoint} {fetch : CrlFetch} :
    (∃ record, getCrlFromEndpoint parser sha256Hex settings endpoint fetch = .ok record) ↔
      ∃ nextUpdate ∈ (fetch.crl? parser endpoint).bind ParsedCrl.nextUpdate,
        settings.strictCrlFreshness = true → fetch.now.micros < nextUpdate.micros := by
  simp only [getCrlFromEndpoint, parseCrlMetadata, CrlFetch.crl?, Fallible.bind_eq_ok,
    Fallible.orRaise_eq_ok, Fallible.mapError_eq_ok, checkFreshness_eq_ok, Option.bind_eq_bind,
    Option.bind_eq_some_iff, Option.mem_def,
    Fallible.toOption_eq_some]
  constructor
  · rintro ⟨record, response, answered, crlDer, decoded, crl, loaded, nextUpdate, present, _, fresh,
      _⟩
    exact ⟨nextUpdate, ⟨crl, ⟨response, answered, crlDer, decoded, loaded⟩, present⟩, fresh⟩
  · rintro ⟨nextUpdate, ⟨crl, ⟨response, answered, crlDer, decoded, loaded⟩, present⟩, fresh⟩
    exact ⟨_, response, answered, crlDer, decoded, crl, loaded, nextUpdate, present, (), fresh, rfl⟩

/-- Every record says that the freshness was verified. -/
theorem freshnessVerified_of_ok {endpoint : CrlEndpoint} {fetch : CrlFetch} {record : CrlRecord}
    (read : getCrlFromEndpoint parser sha256Hex settings endpoint fetch = .ok record) :
    record.freshnessVerified = true := by
  simp only [getCrlFromEndpoint, parseCrlMetadata, Fallible.bind_eq_ok] at read
  obtain ⟨_, _, _, _, _, _, _, _, _, _, made⟩ := read
  cases made
  rfl

/-- A bundle comes of two CRLs with a nextUpdate, and always says that they are fresh. -/
theorem crlFreshnessVerified_of_ok {bundle : CrlBundle}
    (read : getCrlBundle parser sha256Hex settings rootFetch intermediateFetch = .ok bundle) :
    bundle.crlFreshnessVerified = true := by
  obtain ⟨root, rootRead, read⟩ := Fallible.bind_eq_ok.mp read
  obtain ⟨intermediate, intermediateRead, read⟩ := Fallible.bind_eq_ok.mp read
  obtain ⟨endpoint, _, rootRead⟩ := Fallible.bind_eq_ok.mp rootRead
  cases read
  rw [CrlBundle.crlFreshnessVerified, freshnessVerified_of_ok rootRead,
    freshnessVerified_of_ok intermediateRead, Bool.and_true]

theorem exists_getRootCrl {fetch : CrlFetch} :
    (∃ record, getRootCrl parser sha256Hex settings fetch = .ok record) ↔
      ∃ nextUpdate ∈ fetch.rootNextUpdate? parser settings,
        settings.strictCrlFreshness = true → fetch.now.micros < nextUpdate.micros := by
  simp only [getRootCrl, CrlFetch.rootNextUpdate?, Fallible.bind_eq_ok, Option.bind_eq_bind,
    Option.mem_def, Option.bind_eq_some_iff, Fallible.toOption_eq_some]
  constructor
  · rintro ⟨record, endpoint, chosen, read⟩
    obtain ⟨nextUpdate, found, fresh⟩ := exists_getCrlFromEndpoint.mp ⟨record, read⟩
    exact ⟨nextUpdate, ⟨endpoint, chosen, Option.bind_eq_some_iff.mp found⟩, fresh⟩
  · rintro ⟨nextUpdate, ⟨endpoint, chosen, found⟩, fresh⟩
    obtain ⟨record, read⟩ := exists_getCrlFromEndpoint.mpr
      ⟨nextUpdate, Option.bind_eq_some_iff.mpr found, fresh⟩
    exact ⟨record, endpoint, chosen, read⟩

theorem exists_getIntermediateCrl {fetch : CrlFetch} :
    (∃ record, getIntermediateCrl parser sha256Hex settings fetch = .ok record) ↔
      ∃ nextUpdate ∈ fetch.intermediateNextUpdate? parser settings,
        settings.strictCrlFreshness = true → fetch.now.micros < nextUpdate.micros :=
  exists_getCrlFromEndpoint

theorem exists_getCrlBundle :
    (∃ bundle, getCrlBundle parser sha256Hex settings rootFetch intermediateFetch = .ok bundle) ↔
      (∃ record, getRootCrl parser sha256Hex settings rootFetch = .ok record) ∧
        ∃ record, getIntermediateCrl parser sha256Hex settings intermediateFetch = .ok record := by
  constructor
  · rintro ⟨bundle, read⟩
    obtain ⟨root, rootRead, read⟩ := Fallible.bind_eq_ok.mp read
    obtain ⟨intermediate, intermediateRead, _⟩ := Fallible.bind_eq_ok.mp read
    exact ⟨⟨root, rootRead⟩, intermediate, intermediateRead⟩
  · rintro ⟨⟨root, rootRead⟩, intermediate, intermediateRead⟩
    exact ⟨⟨root, intermediate⟩, Fallible.bind_eq_ok.mpr ⟨root, rootRead,
      Fallible.bind_eq_ok.mpr ⟨intermediate, intermediateRead, rfl⟩⟩⟩

/-- A bundle is made of two fresh CRLs under strict freshness, and otherwise of any that show a
nextUpdate. -/
theorem bothFresh_of_bundle
    (holds : settings.strictCrlFreshness = true ∨
      ¬ OneExpired parser settings rootFetch intermediateFetch)
    {bundle : CrlBundle}
    (read : getCrlBundle parser sha256Hex settings rootFetch intermediateFetch = .ok bundle) :
    BothFresh parser settings rootFetch intermediateFetch := by
  obtain ⟨root, intermediate⟩ := exists_getCrlBundle.mp ⟨bundle, read⟩
  obtain ⟨rootNext, rootFound, rootFresh⟩ := exists_getRootCrl.mp root
  obtain ⟨intermediateNext, intermediateFound, intermediateFresh⟩ :=
    exists_getIntermediateCrl.mp intermediate
  rcases holds with strict | noneExpired
  · exact ⟨⟨rootNext, rootFound, rootFresh strict⟩,
      intermediateNext, intermediateFound, intermediateFresh strict⟩
  · have both : ¬ (rootNext.micros ≤ rootFetch.now.micros ∨
        intermediateNext.micros ≤ intermediateFetch.now.micros) := fun expired =>
      noneExpired ⟨rootNext, rootFound, intermediateNext, intermediateFound, expired⟩
    rw [not_or, not_le, not_le] at both
    exact ⟨⟨rootNext, rootFound, both.1⟩, intermediateNext, intermediateFound, both.2⟩

/-- Without strict freshness an expired pair is bundled. -/
theorem bundle_of_oneExpired (lax : settings.strictCrlFreshness = false)
    (expired : OneExpired parser settings rootFetch intermediateFetch) :
    (∃ bundle,
        getCrlBundle parser sha256Hex settings rootFetch intermediateFetch = .ok bundle) ∧
      ¬ BothFresh parser settings rootFetch intermediateFetch := by
  have notStrict : settings.strictCrlFreshness ≠ true := by
    rw [lax]
    exact Bool.false_ne_true
  obtain ⟨rootNext, rootFound, intermediateNext, intermediateFound, past⟩ := expired
  refine ⟨exists_getCrlBundle.mpr ⟨?_, ?_⟩, ?_⟩
  · exact exists_getRootCrl.mpr ⟨rootNext, rootFound, fun strict => absurd strict notStrict⟩
  · exact exists_getIntermediateCrl.mpr
      ⟨intermediateNext, intermediateFound, fun strict => absurd strict notStrict⟩
  · rintro ⟨⟨rootOwn, rootHas, rootFresh⟩, intermediateOwn, intermediateHas, intermediateFresh⟩
    rw [Option.mem_def] at rootFound rootHas intermediateFound intermediateHas
    rw [rootFound, Option.some.injEq] at rootHas
    rw [intermediateFound, Option.some.injEq] at intermediateHas
    subst rootHas intermediateHas
    exact past.elim rootFresh.not_ge intermediateFresh.not_ge

/-- The evidence is honest exactly if freshness is strict, or of two CRLs that can be read and
show a nextUpdate none has expired. -/
theorem freshness_honest_iff {PrivateKey PublicKey : Type} (crypto : Crypto PrivateKey PublicKey)
    (parser : CrlParser) (settings : VaultSettings) (rootFetch intermediateFetch : CrlFetch) :
    FreshnessHonest crypto parser settings rootFetch intermediateFetch ↔
      settings.strictCrlFreshness = true ∨
        ¬ OneExpired parser settings rootFetch intermediateFetch := by
  constructor
  · intro honest
    rw [or_iff_not_imp_left, Bool.not_eq_true]
    intro lax expired
    obtain ⟨⟨bundle, read⟩, stale⟩ := bundle_of_oneExpired lax expired
    exact stale (honest.bundle bundle read (crlFreshnessVerified_of_ok read))
  · intro holds
    refine ⟨?_, ?_, ?_⟩
    · intro bundle read _
      exact bothFresh_of_bundle holds read
    · intro bundle read signer trustList certs caChainPem artifactRevision reason generatedAt signed
        _ _
      exact bothFresh_of_bundle holds read
    · intro signer material previous flag
      rw [freshnessFlag, packageManifest_field? crypto signer _ previous (by decide)] at flag
      cases read : getCrlBundle parser crypto.sha256Hex settings rootFetch intermediateFetch with
      | error failure =>
          rw [read] at flag
          exact nomatch flag
      | ok bundle => exact bothFresh_of_bundle holds read

end Evidence

/-! ## An expired pair -/

/-- Every body is a CRL that was to be replaced at the example moment. -/
def expiredCrl (body : List UInt8) : Except String ParsedCrl :=
  .ok {
    issuer := "CN=ca"
    lastUpdate := exampleMoment
    nextUpdate := some exampleMoment
    der := body }

def laxSettings : VaultSettings where
  rootPkiMount := "pki-root"
  intermediatePkiMount := "pki-int"
  rootIssuerId := "f4e8"
  intermediateIssuerId := ""
  rootCrlMode := "issuer_specific"
  intermediateCrlMode := "mount_or_issuer"
  strictCrlFreshness := false

/-- Half a minute after the CRLs expired. -/
def lateFetch : CrlFetch where
  answer := fun _ => some { contentType := "application/pkix-crl", content := [1] }
  now := { exampleMoment with second := 30, validTime := by decide }

theorem expired_crls_called_fresh :
    ¬ FreshnessHonest transparentCrypto ⟨expiredCrl, expiredCrl⟩ laxSettings lateFetch
      lateFetch := by
  intro honest
  have expired : OneExpired ⟨expiredCrl, expiredCrl⟩ laxSettings lateFetch lateFetch := by
    refine ⟨exampleMoment, ?_, exampleMoment, ?_, .inl ?_⟩
    · decide +kernel
    · decide +kernel
    · decide
  obtain ⟨⟨bundle, read⟩, stale⟩ := bundle_of_oneExpired rfl expired
  exact stale (honest.bundle bundle read (crlFreshnessVerified_of_ok read))

end OpcuaGds.Gds
