import OpcuaGds.Foundation.Fallible
import OpcuaGds.Foundation.JsonPython
import OpcuaGds.Gds.ArtifactSigning

/-! # Verification of signed artifacts

`verify_signed_artifact` of the agent: the checks of an artifact against its
signature record and the pinned trust anchor, in the order of the source, and what
an acceptance says.
-/

namespace OpcuaGds.Agent

open Gds (Crypto)

/-- How an operation fails: with an `ArtifactVerificationError`, with a `ValueError`
of its own, or with an exception of the language or of a library. -/
inductive Failure where
  | rejected (code message : String)
  | valueError (message : String)
  | raised
  deriving DecidableEq, Repr

/-- `canonical_artifact_payload`. -/
def canonicalArtifactPayload (artifact : Json) : Json :=
  let get (key : String) : Json := (artifact.field? key).getD .null
  let optional (key : String) : List (String × Json) :=
    match artifact.field? key with
    | some value => [(key, value)]
    | none => []
  .obj ([
    ("artifact_type", get "artifact_type"),
    ("schema_version", get "schema_version"),
    ("zone", get "zone"),
    ("role", get "role"),
    ("version", get "version"),
    ("artifact_revision", get "artifact_revision"),
    ("artifact_reason", get "artifact_reason"),
    ("generated_at", get "generated_at"),
    ("expires_at", get "expires_at"),
    ("ca_chain_pem", get "ca_chain_pem"),
    ("crl_base64", get "crl_base64"),
    ("certificates", (artifact.field? "certificates").getD (.arr [])),
    ("signer", (artifact.field? "signer").getD (.obj []))] ++
    optional "crl_bundle" ++ optional "crl_metadata")

/-- `normalize_signed_artifact_for_verification`. -/
def normalizeSignedArtifactForVerification : Json → Json
  | .obj fields => .obj (Json.eraseField "ttl_remaining_seconds" fields)
  | artifact => artifact

/-- `parse_rfc3339_utc`, as an instant in microseconds. -/
def parseRfc3339Utc (value : String) : Option Int :=
  Timestamp.instant? (PythonText.replaceChar 'Z' "+00:00".toList value.toList)

/-- Raise an `ArtifactVerificationError` unless the condition holds. -/
def require (condition : Prop) [Decidable condition] (code message : String) :
    Except Failure Unit :=
  if condition then .ok () else .error (.rejected code message)

/-- Raise a `ValueError` unless the condition holds. -/
def ensure (condition : Prop) [Decidable condition] (message : String) : Except Failure Unit :=
  if condition then .ok () else .error (.valueError message)

/-- The result of an operation that may raise. -/
def attempt {α : Type} : Option α → Except Failure α
  | some value => .ok value
  | none => .error .raised

/-- Equality of a JSON value with a Python text. -/
def isText (text : String) : Json → Bool
  | .str value => value == text
  | _ => false

def isNull : Json → Bool
  | .null => true
  | _ => false

/-- The checks of zone, role, type and revision. -/
def checkHeader (artifact : Json) (zone role : String) : Except Failure Unit := do
  let get (key : String) : Json := (artifact.field? key).getD .null
  require (isText zone (get "zone")) "malformed_artifact"
    ("artifact zone mismatch: " ++ (get "zone").toStr ++ " != " ++ zone)
  require (isText role (get "role")) "malformed_artifact"
    ("artifact role mismatch: " ++ (get "role").toStr ++ " != " ++ role)
  require (PythonText.lower ((artifact.field? "artifact_type").getD (.str "")).toStr =
    "opcua_trustlist") "malformed_artifact" "artifact_type must be opcua_trustlist"
  require (isNull (get "artifact_revision") = false) "malformed_artifact"
    "artifact_revision missing from artifact"

/-- The algorithm of a signer must be Ed25519 when it is given. -/
def checkAlgorithm (owner : String) (signer : Json) : Except Failure Unit := do
  let algorithm ← attempt (signer.get? "algorithm" (.str ""))
  let name := PythonText.lower algorithm.toStr
  require (name = "" ∨ name = "ed25519") "unsupported_signer"
    ("unsupported " ++ owner ++ " signer algorithm: " ++ algorithm.toStr)

/-- The signer that the artifact names. -/
def checkArtifactSigner (signer : Json) (trustAnchorFp : String) :
    Except Failure Unit := do
  checkAlgorithm "artifact" signer
  let fingerprint ← attempt (signer.get? "fingerprint_sha256" (.str ""))
  require (PythonText.lower fingerprint.toStr = PythonText.lower trustAnchorFp)
    "signer_fingerprint_mismatch" "artifact signer fingerprint does not match pinned trust anchor"

/-- The signer that the signature record names; its fingerprint may be missing. -/
def checkSignatureSigner (signer : Json) (trustAnchorFp : String) :
    Except Failure Unit := do
  checkAlgorithm "signature" signer
  let fingerprint ← attempt (signer.get? "fingerprint_sha256" (.str ""))
  let name := PythonText.lower fingerprint.toStr
  require (name = "" ∨ name = PythonText.lower trustAnchorFp)
    "signer_fingerprint_mismatch" "signature signer fingerprint does not match pinned trust anchor"

/-- The digest that the signature record declares, when it declares one. -/
def checkDigest (signature : Json) (digest : String) : Except Failure Unit :=
  let declared := PythonText.lower ((signature.field? "artifact_sha256").getD (.str "")).toStr
  require (declared = "" ∨ declared = PythonText.lower digest) "canonical_hash_mismatch"
    "artifact hash mismatch"

/-- A number of the signature record must be the artifact's, when it is given. -/
def checkNumber (field : String) (signature artifact : Json) :
    Except Failure Unit :=
  let declared := (signature.field? field).getD .null
  if isNull declared then .ok ()
  else do
    let declared ← attempt declared.toInt?
    let own ← attempt ((artifact.field? field).getD .null).toInt?
    require (declared = own) "malformed_artifact"
      ("signature " ++ field ++ " does not match artifact " ++ field)

/-- A time of the signature record must be the artifact's, when it is given. -/
def checkMoment (field : String) (signature artifact : Json) :
    Except Failure Unit :=
  let declared := (signature.field? field).getD .null
  if declared.truthy then do
    let declared ← attempt (parseRfc3339Utc declared.toStr)
    let own ← attempt (parseRfc3339Utc ((artifact.field? field).getD .null).toStr)
    require (declared = own) "malformed_artifact"
      ("signature " ++ field ++ " does not match artifact " ++ field)
  else .ok ()

/-- `base64.b64decode` of a JSON value; only texts can be decoded. -/
def b64decode : Json → Option (List UInt8)
  | .str value => Base64.decode value.toList
  | _ => none

section Verification

variable {PrivateKey PublicKey : Type} (crypto : Crypto PrivateKey PublicKey)

/-- The detached signature over the canonical bytes. -/
def checkSignature (signature : Json) (canonical : List UInt8) (trustAnchorPub : PublicKey) :
    Except Failure Unit :=
  let encoded := (signature.field? "signature_base64").getD .null
  if encoded.truthy then
    match b64decode encoded with
    | none => .error (.rejected "malformed_artifact" "invalid detached signature encoding")
    | some bytes =>
        require (crypto.scheme.verify trustAnchorPub bytes canonical = true) "signature_invalid"
          "detached signature verification failed"
  else .error (.rejected "malformed_artifact" "missing detached signature")

/-- `verify_signed_artifact`: the digest and the length of the canonical bytes. -/
def verifySignedArtifact (artifact signature : Json) (zone role : String)
    (trustAnchorPub : PublicKey) (trustAnchorFp : String) :
    Except Failure (String × Nat) :=
  if artifact.isObject then do
    let artifact := normalizeSignedArtifactForVerification artifact
    checkHeader artifact zone role
    checkArtifactSigner ((artifact.field? "signer").getD (.obj [])) trustAnchorFp
    let signer ← attempt (signature.get? "signer" (.obj []))
    checkSignatureSigner signer trustAnchorFp
    let canonical := (canonicalArtifactPayload artifact).canonicalBytes
    let digest := crypto.sha256Hex canonical
    checkDigest signature digest
    checkNumber "version" signature artifact
    checkNumber "artifact_revision" signature artifact
    checkMoment "generated_at" signature artifact
    checkMoment "expires_at" signature artifact
    checkSignature crypto signature canonical trustAnchorPub
    .ok (digest, canonical.length)
  else .error .raised

end Verification

/-! ## What the checks say -/

theorem require_eq_ok {condition : Prop} [Decidable condition] {code message : String}
    {result : Unit} : require condition code message = .ok result ↔ condition := by
  unfold require
  by_cases holds : condition
  · simp [holds]
  · simp [holds]

theorem ensure_eq_ok {condition : Prop} [Decidable condition] {message : String}
    {result : Unit} : ensure condition message = .ok result ↔ condition := by
  unfold ensure
  by_cases holds : condition
  · simp [holds]
  · simp [holds]

theorem attempt_eq_ok {α : Type} {value : Option α} {result : α} :
    attempt value = .ok result ↔ value = some result := by
  cases value <;> simp [attempt]

theorem isText_iff {text : String} {value : Json} :
    isText text value = true ↔ value = .str text := by
  cases value <;> simp [isText]

theorem isNull_iff {value : Json} : isNull value = true ↔ value = .null := by
  cases value <;> simp [isNull]

theorem field?_normalizeSignedArtifact {key : String} (other : key ≠ "ttl_remaining_seconds")
    (artifact : Json) :
    (normalizeSignedArtifactForVerification artifact).field? key = artifact.field? key := by
  cases artifact with
  | obj fields => exact Json.lookup_eraseField_of_ne other fields
  | _ => rfl

theorem checkHeader_eq_ok {artifact : Json} {zone role : String} {result : Unit} :
    checkHeader artifact zone role = .ok result ↔
      artifact.field? "zone" = some (.str zone) ∧ artifact.field? "role" = some (.str role) ∧
        PythonText.lower ((artifact.field? "artifact_type").getD (.str "")).toStr =
          "opcua_trustlist" ∧
        ∃ revision, artifact.field? "artifact_revision" = some revision ∧ revision ≠ .null := by
  have present {key text : String} : (artifact.field? key).getD .null = .str text ↔
      artifact.field? key = some (.str text) := by
    cases artifact.field? key <;> simp
  have notNull : isNull ((artifact.field? "artifact_revision").getD .null) = false ↔
      ∃ revision, artifact.field? "artifact_revision" = some revision ∧ revision ≠ .null := by
    rw [← Bool.not_eq_true, isNull_iff]
    cases artifact.field? "artifact_revision" <;> simp
  simp only [checkHeader, Fallible.bind_eq_ok, Fallible.exists_check, require_eq_ok, isText_iff,
    present, notNull]

theorem checkAlgorithm_eq_ok {owner : String} {signer : Json} {result : Unit} :
    checkAlgorithm owner signer = .ok result ↔
      ∃ algorithm, signer.get? "algorithm" (.str "") = some algorithm ∧
        (PythonText.lower algorithm.toStr = "" ∨
          PythonText.lower algorithm.toStr = "ed25519") := by
  simp only [checkAlgorithm, Fallible.bind_eq_ok, attempt_eq_ok, require_eq_ok]

theorem checkArtifactSigner_eq_ok {signer : Json} {trustAnchorFp : String} {result : Unit} :
    checkArtifactSigner signer trustAnchorFp = .ok result ↔
      checkAlgorithm "artifact" signer = .ok () ∧
        ∃ fingerprint, signer.get? "fingerprint_sha256" (.str "") = some fingerprint ∧
          PythonText.lower fingerprint.toStr = PythonText.lower trustAnchorFp := by
  simp only [checkArtifactSigner, Fallible.bind_eq_ok, Fallible.exists_check, attempt_eq_ok,
    require_eq_ok]

theorem checkSignatureSigner_eq_ok {signer : Json} {trustAnchorFp : String} {result : Unit} :
    checkSignatureSigner signer trustAnchorFp = .ok result ↔
      checkAlgorithm "signature" signer = .ok () ∧
        ∃ fingerprint, signer.get? "fingerprint_sha256" (.str "") = some fingerprint ∧
          (PythonText.lower fingerprint.toStr = "" ∨
            PythonText.lower fingerprint.toStr = PythonText.lower trustAnchorFp) := by
  simp only [checkSignatureSigner, Fallible.bind_eq_ok, Fallible.exists_check, attempt_eq_ok,
    require_eq_ok]

section Verification

variable {PrivateKey PublicKey : Type} (crypto : Crypto PrivateKey PublicKey)

/-- A signature check that ends well: the decoded signature verifies. -/
theorem checkSignature_eq_ok {signature : Json} {canonical : List UInt8}
    {trustAnchorPub : PublicKey} {result : Unit} :
    checkSignature crypto signature canonical trustAnchorPub = .ok result ↔
      ∃ encoded bytes, signature.field? "signature_base64" = some (.str encoded) ∧
        encoded ≠ "" ∧ Base64.decode encoded.toList = some bytes ∧
        crypto.scheme.verify trustAnchorPub bytes canonical = true := by
  unfold checkSignature
  cases found : signature.field? "signature_base64" with
  | none => simp [Json.truthy]
  | some value =>
      cases value with
      | str encoded =>
          simp only [Option.getD_some, Json.truthy, bne_iff_ne, b64decode]
          by_cases empty : encoded = ""
          · simp [empty]
          · cases decoded : Base64.decode encoded.toList with
            | none => simp [empty, decoded]
            | some bytes => simp [empty, decoded, require_eq_ok]
      | _ =>
          simp only [Option.getD_some, b64decode]
          split <;> simp

/-- Everything that an acceptance says about the record and the artifact. -/
theorem verifySignedArtifact_eq_ok {artifact signature : Json} {zone role : String}
    {trustAnchorPub : PublicKey} {trustAnchorFp : String} {result : String × Nat} :
    verifySignedArtifact crypto artifact signature zone role trustAnchorPub trustAnchorFp =
        .ok result ↔
      let signed := normalizeSignedArtifactForVerification artifact
      let canonical := (canonicalArtifactPayload signed).canonicalBytes
      artifact.isObject = true ∧ checkHeader signed zone role = .ok () ∧
        checkArtifactSigner ((signed.field? "signer").getD (.obj [])) trustAnchorFp = .ok () ∧
        (∃ signer, signature.get? "signer" (.obj []) = some signer ∧
          checkSignatureSigner signer trustAnchorFp = .ok ()) ∧
        checkDigest signature (crypto.sha256Hex canonical) = .ok () ∧
        checkNumber "version" signature signed = .ok () ∧
        checkNumber "artifact_revision" signature signed = .ok () ∧
        checkMoment "generated_at" signature signed = .ok () ∧
        checkMoment "expires_at" signature signed = .ok () ∧
        checkSignature crypto signature canonical trustAnchorPub = .ok () ∧
        result = (crypto.sha256Hex canonical, canonical.length) := by
  unfold verifySignedArtifact
  by_cases object : artifact.isObject = true
  · rw [if_pos object]
    simp only [Fallible.bind_eq_ok, Fallible.exists_check, attempt_eq_ok, Except.ok.injEq, object,
      true_and]
    constructor
    · rintro ⟨header, own, signer, found, record, digest, version, revision, generated, expires,
        verified, rfl⟩
      exact ⟨header, own, ⟨signer, found, record⟩, digest, version, revision, generated, expires,
        verified, rfl⟩
    · rintro ⟨header, own, ⟨signer, found, record⟩, digest, version, revision, generated, expires,
        verified, rfl⟩
      exact ⟨header, own, signer, found, record, digest, version, revision, generated, expires,
        verified, rfl⟩
  · simp [object]

end Verification

end OpcuaGds.Agent
