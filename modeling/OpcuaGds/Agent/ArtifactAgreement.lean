import OpcuaGds.Agent.ArtifactVerification
import OpcuaGds.Gds.ArtifactRegeneration

/-! # Agreement of GDS and agent on signed artifacts

What GDS signs is what the agent verifies: the two canonical payloads are the same
function, they depend on a document only up to field order, and the signature record
of a stored row passes every check against the artifact it was made for and against
no other.
-/

namespace OpcuaGds.Agent

open Gds (Crypto TrustArtifactSigner SignedArtifact VaultMaterial getTrustlistArtifactSignature
  toRfc3339Utc toList_toRfc3339Utc)

/-- What storage and transport make of a document: the order of fields is lost, and
a `ttl_remaining_seconds` field may have been added. -/
def Carried (original received : Json) : Prop :=
  ∃ fields, received = .obj fields ∧
    Json.Agrees (.obj (Json.eraseField "ttl_remaining_seconds" fields)) original

/-! ## Canonical payloads -/

/-- The two implementations select the same fields with the same defaults. -/
theorem canonicalArtifactPayload_eq :
    canonicalArtifactPayload = Gds.canonicalArtifactPayload := rfl

/-- The fields of the payload, as read through any accessor. -/
def payloadFields (read : String → Option Json) : List (String × Json) :=
  let optional (key : String) : List (String × Json) :=
    match read key with
    | some value => [(key, value)]
    | none => []
  [("artifact_type", (read "artifact_type").getD .null),
    ("schema_version", (read "schema_version").getD .null),
    ("zone", (read "zone").getD .null),
    ("role", (read "role").getD .null),
    ("version", (read "version").getD .null),
    ("artifact_revision", (read "artifact_revision").getD .null),
    ("artifact_reason", (read "artifact_reason").getD .null),
    ("generated_at", (read "generated_at").getD .null),
    ("expires_at", (read "expires_at").getD .null),
    ("ca_chain_pem", (read "ca_chain_pem").getD .null),
    ("crl_base64", (read "crl_base64").getD .null),
    ("certificates", (read "certificates").getD (.arr [])),
    ("signer", (read "signer").getD (.obj []))] ++
    optional "crl_bundle" ++ optional "crl_metadata"

theorem canonicalArtifactPayload_eq_payloadFields (artifact : Json) :
    canonicalArtifactPayload artifact =
      .obj (payloadFields fun key => artifact.field? key) := rfl

/-- Normalizing the payload is taking the payload of the normalized fields. -/
theorem normalizeFields_payloadFields (read : String → Option Json) :
    Json.normalizeFields (payloadFields read) =
      payloadFields fun key => (read key).map Json.normalize := by
  have default (found : Option Json) {value : Json} (normal : value.normalize = value) :
      (found.getD value).normalize = (found.map Json.normalize).getD value := by
    cases found with
    | none => exact normal
    | some _ => rfl
  have null := fun found => default found (show Json.null.normalize = .null from rfl)
  have array := fun found => default found (show (Json.arr []).normalize = .arr [] from rfl)
  have object := fun found => default found (show (Json.obj []).normalize = .obj [] from rfl)
  unfold payloadFields
  simp only [Json.normalizeFields_eq_map, List.map_append, List.map_cons, List.map_nil, null,
    array, object]
  cases read "crl_bundle" <;> cases read "crl_metadata" <;> rfl

/-- Documents that agree have canonical payloads that agree. -/
theorem canonicalArtifactPayload_agrees {left right : Json} (agrees : Json.Agrees left right) :
    Json.Agrees (canonicalArtifactPayload left) (canonicalArtifactPayload right) := by
  have read : (fun key => (left.field? key).map Json.normalize) =
      fun key => (right.field? key).map Json.normalize := funext agrees.field?
  rw [Json.Agrees, canonicalArtifactPayload_eq_payloadFields,
    canonicalArtifactPayload_eq_payloadFields, Json.normalize, Json.normalize,
    normalizeFields_payloadFields, normalizeFields_payloadFields, read]

theorem Carried.agrees {original received : Json} (carried : Carried original received) :
    Json.Agrees (normalizeSignedArtifactForVerification received) original := by
  obtain ⟨fields, rfl, agrees⟩ := carried
  exact agrees

theorem Carried.isObject {original received : Json} (carried : Carried original received) :
    received.isObject = true := by
  obtain ⟨fields, rfl, _⟩ := carried
  rfl

/-- A field of the original other than the added one is found in what was received. -/
theorem Carried.field?_eq_some {original received value : Json} {key : String}
    (carried : Carried original received) (other : key ≠ "ttl_remaining_seconds")
    (found : original.field? key = some value) :
    ∃ arrived, received.field? key = some arrived ∧ Json.Agrees arrived value := by
  obtain ⟨fields, rfl, agrees⟩ := carried
  obtain ⟨arrived, here, same⟩ := agrees.field?_eq_some found
  rw [Json.field?, Json.lookup_eraseField_of_ne other] at here
  exact ⟨arrived, here, same⟩

/-! ## Times -/

/-- A time that the database shows in any zone is read back. -/
theorem parseRfc3339Utc_reading {utc : Timestamp.DateTime} (reading : Timestamp.Reading utc) :
    parseRfc3339Utc reading.text = some (utc.micros : Int) := by
  have noZ : 'Z' ∉ Timestamp.isoformat reading.shown reading.offset :=
    Timestamp.notMem_isoformat (by decide) (by decide) (by decide) (by decide) _ _
  have chars : reading.text.toList = Timestamp.isoformat reading.shown reading.offset :=
    String.toList_ofList
  rw [parseRfc3339Utc, chars, PythonText.replaceChar_of_notMem noZ]
  exact Timestamp.instant?_isoformat reading.sameInstant

/-- A time that GDS wrote into the artifact is read back. -/
theorem parseRfc3339Utc_toRfc3339Utc (moment : Timestamp.DateTime) :
    parseRfc3339Utc (toRfc3339Utc moment) = some (moment.micros : Int) := by
  have noZ := Timestamp.notMem_dateTime (c := 'Z') (by decide) (by decide) (by decide) moment
  have restored : PythonText.replaceChar 'Z' "+00:00".toList (toRfc3339Utc moment).toList =
      Timestamp.isoformat moment .utc := by
    rw [toList_toRfc3339Utc, PythonText.replaceChar_append, PythonText.replaceChar_of_notMem noZ,
      Timestamp.isoformat, List.append_assoc, List.cons_append]
    rfl
  rw [parseRfc3339Utc, restored]
  exact Timestamp.instant?_isoformat (by simp [Timestamp.Offset.micros, Timestamp.Offset.utc])

/-- There is no white space around a written time. -/
theorem strip_toRfc3339Utc (moment : Timestamp.DateTime) :
    PythonText.strip (toRfc3339Utc moment) = toRfc3339Utc moment := by
  apply PythonText.strip_eq_self
  rw [toList_toRfc3339Utc]
  intro c member
  rw [← Bool.not_eq_true]
  intro space
  rcases List.mem_append.mp member with inMoment | inZone
  · have other : Timestamp.clockChar c = false := by
      rw [← Bool.not_eq_true]
      intro clock
      simp only [Timestamp.clockChar, Char.isDigit, Bool.or_eq_true, Bool.and_eq_true,
        decide_eq_true_eq, beq_iff_eq, ge_iff_le, UInt32.le_iff_toNat_le] at clock
      rcases clock with (digit | rfl) | rfl
      · change 48 ≤ c.toNat ∧ c.toNat ≤ 57 at digit
        simp only [PythonText.isSpace, Bool.or_eq_true, Bool.and_eq_true, decide_eq_true_eq,
          beq_iff_eq] at space
        omega
      · exact absurd space (by decide)
      · exact absurd space (by decide)
    have notDash : c ≠ '-' := by
      rintro rfl
      exact absurd space (by decide)
    have notT : c ≠ 'T' := by
      rintro rfl
      exact absurd space (by decide)
    exact Timestamp.notMem_dateTime other notDash notT moment inMoment
  · rw [List.mem_singleton.mp inZone] at space
    exact absurd space (by decide)

/-! ## The artifact and its record -/

section Agreement

variable {PrivateKey PublicKey : Type} {crypto : Crypto PrivateKey PublicKey}
  {signer : TrustArtifactSigner PrivateKey} {trustList : Gds.TrustList} {certs : List Json}
  {material : VaultMaterial} {artifactRevision : Nat} {reason : String}
  {generatedAt : Timestamp.DateTime} {signed : SignedArtifact}

/-- What building an artifact returns. -/
theorem buildSignedArtifact_eq_some
    (built : signer.buildSignedArtifact crypto trustList certs material artifactRevision reason
      generatedAt = some signed) :
    signed.artifact = signer.artifactDocument crypto trustList.zone trustList.role
        trustList.version certs material artifactRevision reason signed.generatedAt
        signed.expiresAt ∧
      signed.artifactBytes = (canonicalArtifactPayload signed.artifact).canonicalBytes ∧
      signed.artifactSha256 = crypto.sha256Hex signed.artifactBytes ∧
      signed.signatureBase64 = String.ofList
        (Base64.encode (crypto.scheme.sign signer.privateKey signed.artifactBytes)) ∧
      signed.signerFingerprintSha256 = signer.fingerprintSha256 crypto := by
  simp only [TrustArtifactSigner.buildSignedArtifact, Option.bind_eq_bind,
    Option.bind_eq_some_iff, Option.some.injEq] at built
  obtain ⟨expiresAt, _, rfl⟩ := built
  simp only [canonicalArtifactPayload_eq, and_self]

/-- The canonical bytes of what arrives are the bytes that were signed. -/
theorem Carried.canonicalBytes_eq {received : Json} (carried : Carried signed.artifact received)
    (built : signer.buildSignedArtifact crypto trustList certs material artifactRevision reason
      generatedAt = some signed) :
    (canonicalArtifactPayload (normalizeSignedArtifactForVerification received)).canonicalBytes =
      signed.artifactBytes := by
  obtain ⟨_, bytes, _⟩ := buildSignedArtifact_eq_some built
  rw [bytes]
  exact Json.canonicalBytes_eq_iff.mpr (canonicalArtifactPayload_agrees carried.agrees)

/-- The header of what arrives passes. -/
theorem Carried.checkHeader {received : Json} (carried : Carried signed.artifact received)
    (built : signer.buildSignedArtifact crypto trustList certs material artifactRevision reason
      generatedAt = some signed) :
    checkHeader (normalizeSignedArtifactForVerification received) trustList.zone.name
      trustList.role.name = .ok () := by
  obtain ⟨artifact, _⟩ := buildSignedArtifact_eq_some built
  have agrees := carried.agrees
  rw [artifact] at agrees
  rw [checkHeader_eq_ok]
  refine ⟨agrees.field?_scalar rfl rfl, agrees.field?_scalar rfl rfl, ?_,
    .int artifactRevision, agrees.field?_scalar rfl rfl, nofun⟩
  have kind : (normalizeSignedArtifactForVerification received).field? "artifact_type" =
      some (.str "opcua_trustlist") := agrees.field?_scalar rfl rfl
  rw [kind]
  decide

/-- The signer that GDS wrote into the artifact, as it arrives. -/
theorem Carried.signer_arrives {received : Json} (carried : Carried signed.artifact received)
    (built : signer.buildSignedArtifact crypto trustList certs material artifactRevision reason
      generatedAt = some signed) :
    ∃ arrived, received.field? "signer" = some arrived ∧ arrived.isObject = true ∧
      arrived.field? "algorithm" = some (.str "ed25519") ∧
      arrived.field? "fingerprint_sha256" = some (.str (signer.fingerprintSha256 crypto)) := by
  obtain ⟨artifact, _⟩ := buildSignedArtifact_eq_some built
  rw [artifact] at carried
  have notAdded : "signer" ≠ "ttl_remaining_seconds" := by decide
  obtain ⟨arrived, here, agrees⟩ := carried.field?_eq_some notAdded rfl
  exact ⟨arrived, here, agrees.isObject, agrees.field?_scalar rfl rfl,
    agrees.field?_scalar rfl rfl⟩

/-- The signer that arrives is the pinned one. -/
theorem Carried.checkArtifactSigner {received : Json}
    (carried : Carried signed.artifact received)
    (built : signer.buildSignedArtifact crypto trustList certs material artifactRevision reason
      generatedAt = some signed) :
    checkArtifactSigner (((normalizeSignedArtifactForVerification received).field?
      "signer").getD (.obj [])) (signer.fingerprintSha256 crypto) = .ok () := by
  obtain ⟨arrived, here, object, algorithm, fingerprint⟩ := carried.signer_arrives built
  obtain ⟨fields, rfl, _⟩ := carried
  have kept : (normalizeSignedArtifactForVerification (.obj fields)).field? "signer" =
      some arrived := (Json.lookup_eraseField_of_ne (by decide) fields).trans here
  have get (key : String) {value : Json} (found : arrived.field? key = some value) :
      arrived.get? key (.str "") = some value := by
    rw [Json.get?, if_pos object, found, Option.getD_some]
  rw [kept, Option.getD_some, checkArtifactSigner_eq_ok, checkAlgorithm_eq_ok]
  refine ⟨⟨_, get _ algorithm, Or.inr ?_⟩, _, get _ fingerprint, rfl⟩
  decide

section Record

variable {db : Gds.Database} {stored : Json}
  {row : Gds.TrustArtifact} {shownGeneratedAt : Timestamp.Reading row.generatedAt}
  {shownExpiresAt : Timestamp.Reading row.expiresAt}

/-- The signer that the record names is the pinned one. -/
theorem checkSignatureSigner_record (carried : Carried signed.artifact stored)
    (built : signer.buildSignedArtifact crypto trustList certs material artifactRevision reason
      generatedAt = some signed)
    (fingerprint : row.signerFingerprintSha256 = signer.fingerprintSha256 crypto) :
    ∃ named, (getTrustlistArtifactSignature trustList.zone trustList.role row stored
        shownGeneratedAt shownExpiresAt).get? "signer" (.obj []) = some named ∧
      checkSignatureSigner named (signer.fingerprintSha256 crypto) = .ok () := by
  obtain ⟨arrived, here, _, algorithm, _⟩ := carried.signer_arrives built
  have named : (getTrustlistArtifactSignature trustList.zone trustList.role row stored
      shownGeneratedAt shownExpiresAt).get? "signer" (.obj []) = some (.obj [
        ("key_id", .str row.signerKeyId),
        ("algorithm", (((stored.field? "signer").getD (.obj [])).field? "algorithm").getD
          (.str "ed25519")),
        ("fingerprint_sha256", .str row.signerFingerprintSha256)]) := rfl
  rw [here, Option.getD_some, algorithm, Option.getD_some, fingerprint] at named
  have ed25519 : PythonText.lower "ed25519" = "ed25519" := by decide
  refine ⟨_, named, ?_⟩
  rw [checkSignatureSigner_eq_ok, checkAlgorithm_eq_ok]
  exact ⟨⟨_, rfl, Or.inr ed25519⟩, _, rfl, Or.inr rfl⟩

/-- A number of the record is the artifact's. -/
theorem checkNumber_of_eq {field : String} {signature artifact : Json} {value : Int}
    (declared : signature.field? field = some (.int value))
    (own : artifact.field? field = some (.int value)) :
    checkNumber field signature artifact = .ok () := by
  rw [checkNumber, declared, own]
  refine (if_neg Bool.false_ne_true).trans (Fallible.bind_eq_ok.mpr ⟨value, rfl, ?_⟩)
  exact Fallible.bind_eq_ok.mpr ⟨value, rfl, require_eq_ok.mpr rfl⟩

/-- A time of the record is the artifact's. -/
theorem checkMoment_of_eq {field : String} {signature artifact : Json}
    {moment : Timestamp.DateTime} (reading : Timestamp.Reading moment)
    (declared : signature.field? field = some (.str reading.text))
    (own : artifact.field? field = some (.str (toRfc3339Utc moment))) :
    checkMoment field signature artifact = .ok () := by
  rw [checkMoment, declared, own, Option.getD_some, Option.getD_some]
  split
  · rw [Json.toStr_str, Json.toStr_str, parseRfc3339Utc_reading, parseRfc3339Utc_toRfc3339Utc]
    refine Fallible.bind_eq_ok.mpr ⟨_, attempt_eq_ok.mpr rfl, ?_⟩
    exact Fallible.bind_eq_ok.mpr ⟨_, attempt_eq_ok.mpr rfl, require_eq_ok.mpr rfl⟩
  · rfl

end Record

variable (crypto signer trustList certs material reason generatedAt) in
/-- GDS and agent agree on the artifacts that GDS signs: the agent computes the bytes
that were signed, accepts the artifact under its record, and accepts under that record
no artifact with another canonical payload. -/
theorem signed_artifact_agreement (ideal : crypto.scheme.Ideal) (db : Gds.Database)
    (built : signer.buildSignedArtifact crypto trustList certs material
      (db.newTrustArtifact trustList.zone trustList.role trustList.version signed
        reason).artifactRevision reason generatedAt = some signed)
    {stored received : Json} (storedCarried : Carried signed.artifact stored)
    (carried : Carried signed.artifact received) :
    let row := db.newTrustArtifact trustList.zone trustList.role trustList.version signed reason
    let trustAnchorPub := crypto.scheme.publicKey signer.privateKey
    ∀ (shownGeneratedAt : Timestamp.Reading row.generatedAt)
      (shownExpiresAt : Timestamp.Reading row.expiresAt),
    let signature := getTrustlistArtifactSignature trustList.zone trustList.role row stored
      shownGeneratedAt shownExpiresAt
    (canonicalArtifactPayload (normalizeSignedArtifactForVerification received)).canonicalBytes =
        signed.artifactBytes ∧
      verifySignedArtifact crypto received signature trustList.zone.name trustList.role.name
        trustAnchorPub (crypto.sha256Hex (crypto.publicKeyDer trustAnchorPub)) =
          .ok (signed.artifactSha256, signed.artifactBytes.length) ∧
      ∀ (other : Json) (zone role trustAnchorFp : String) (result : String × Nat),
        verifySignedArtifact crypto other signature zone role trustAnchorPub trustAnchorFp =
            .ok result →
          Json.Agrees
            (canonicalArtifactPayload (normalizeSignedArtifactForVerification other))
            (Gds.canonicalArtifactPayload signed.artifact) := by
  intro row trustAnchorPub shownGeneratedAt shownExpiresAt signature
  obtain ⟨artifact, bytes, digest, encoded, fingerprint⟩ := buildSignedArtifact_eq_some built
  have canonical := carried.canonicalBytes_eq built
  have agrees := carried.agrees
  rw [artifact] at agrees
  have recorded : signature.field? "signature_base64" = some (.str signed.signatureBase64) := rfl
  have decoded : Base64.decode signed.signatureBase64.toList =
      some (crypto.scheme.sign signer.privateKey signed.artifactBytes) := by
    rw [encoded, String.toList_ofList, Base64.decode_encode]
  have notEmpty : signed.signatureBase64 ≠ "" := by
    intro empty
    have blank : Base64.decode "".toList = some [] := rfl
    rw [empty, blank, Option.some.injEq] at decoded
    exact ideal.nonempty _ _ decoded.symm
  refine ⟨canonical, ?accepted, ?only⟩
  case accepted =>
    rw [verifySignedArtifact_eq_ok]
    refine ⟨carried.isObject, carried.checkHeader built, carried.checkArtifactSigner built,
      checkSignatureSigner_record storedCarried built fingerprint, ?digest,
      checkNumber_of_eq rfl (agrees.field?_scalar rfl rfl),
      checkNumber_of_eq rfl (agrees.field?_scalar rfl rfl),
      checkMoment_of_eq shownGeneratedAt rfl (agrees.field?_scalar rfl rfl),
      checkMoment_of_eq shownExpiresAt rfl (agrees.field?_scalar rfl rfl), ?detached, ?_⟩
    case digest =>
      rw [canonical, ← digest]
      exact require_eq_ok.mpr (Or.inr rfl)
    case detached =>
      rw [canonical, checkSignature_eq_ok]
      refine ⟨signed.signatureBase64, _, recorded, notEmpty, decoded, ideal.complete _ _⟩
    · rw [canonical, digest]
  case only =>
    intro other zone role trustAnchorFp result accepted
    rw [verifySignedArtifact_eq_ok] at accepted
    obtain ⟨_, _, _, _, _, _, _, _, _, verified, _⟩ := accepted
    obtain ⟨text, sig, found, _, sigDecoded, holds⟩ := (checkSignature_eq_ok crypto).mp verified
    rw [recorded, Option.some.injEq, Json.str.injEq] at found
    subst found
    rw [decoded, Option.some.injEq] at sigDecoded
    subst sigDecoded
    rw [ideal.verify_sign_iff, bytes, Json.canonicalBytes_eq_iff] at holds
    exact holds

end Agreement

def exampleMoment : Timestamp.DateTime where
  year := 2026
  month := 1
  day := 2
  hour := 3
  minute := 4
  second := 5
  microsecond := 6
  validDate := by decide
  validTime := by decide

def exampleTrustList : Gds.TrustList where
  id := 1
  zone := .ot
  role := .server
  version := 3
  members := []
  publishedAt := 0

def exampleSigner : TrustArtifactSigner Unit where
  privateKey := ()
  keyId := "gds"
  ttlSeconds := 900

def exampleDatabase : Gds.Database where
  applications := []
  certificates := []
  packages := []
  packageEvents := []
  trustLists := [exampleTrustList]
  trustArtifacts := []

def exampleArtifact? : Option SignedArtifact :=
  exampleSigner.buildSignedArtifact Gds.transparentCrypto exampleTrustList []
    { caChainPem := "ca", crlBase64 := "AA==", crlBundle := [], crlMetadata := [] } 1
    "version_changed" exampleMoment

/-- The artifact arrives with a lifetime in front and is accepted under its record. -/
theorem artifact_with_ttl_accepted :
    ∃ (signed : SignedArtifact) (fields : List (String × Json)) (signature : Json),
      exampleArtifact? = some signed ∧ signed.artifact = .obj fields ∧
        verifySignedArtifact Gds.transparentCrypto
          (.obj (("ttl_remaining_seconds", .int 900) :: fields)) signature "OT" "server" () "key" =
            .ok (signed.artifactSha256, signed.artifactBytes.length) := by
  have computed : exampleArtifact?.isSome = true := by decide +kernel
  obtain ⟨signed, built⟩ := Option.isSome_iff_exists.mp computed
  obtain ⟨artifact, _⟩ := buildSignedArtifact_eq_some built
  have stored : Carried signed.artifact signed.artifact := by
    rw [artifact]
    exact ⟨_, rfl, rfl⟩
  obtain ⟨fields, isFields⟩ : ∃ fields, signed.artifact = .obj fields := by
    rw [artifact]
    exact ⟨_, rfl⟩
  have received : Carried signed.artifact
      (.obj (("ttl_remaining_seconds", .int 900) :: fields)) := by
    rw [artifact] at isFields ⊢
    cases isFields
    exact ⟨_, rfl, rfl⟩
  have agreement := signed_artifact_agreement Gds.transparentCrypto exampleSigner exampleTrustList
    [] _ "version_changed" exampleMoment Gds.transparentCrypto_ideal exampleDatabase built stored
    received (Timestamp.Reading.utc _) (Timestamp.Reading.utc _)
  exact ⟨signed, fields, _, built, isFields, agreement.2.1⟩

end OpcuaGds.Agent
