import OpcuaGds.Foundation.Base64
import OpcuaGds.Foundation.JsonText
import OpcuaGds.Foundation.Signature
import OpcuaGds.Foundation.TimestampText
import OpcuaGds.Gds.TrustList

/-! # Signed trust artifacts

`TrustArtifactSigner`: the artifact document of a trust list version, its canonical
payload, and the detached signature over the payload's bytes.
-/

namespace OpcuaGds.Gds

/-- `_to_rfc3339_utc` of a UTC moment. -/
def toRfc3339Utc (moment : Timestamp.DateTime) : String :=
  String.ofList (PythonText.replaceAll "+00:00".toList "Z".toList 0
    (Timestamp.isoformat moment .utc))

theorem toList_toRfc3339Utc (moment : Timestamp.DateTime) :
    (toRfc3339Utc moment).toList = (moment.dateText ++ 'T' :: moment.timeText) ++ "Z".toList := by
  have parts : Timestamp.isoformat moment .utc =
      (moment.dateText ++ 'T' :: moment.timeText) ++ "+00:00".toList := by
    rw [Timestamp.isoformat, List.append_assoc, List.cons_append]
    rfl
  have noPlus := Timestamp.notMem_dateTime (c := '+') (by decide) (by decide) (by decide) moment
  have chars : (toRfc3339Utc moment).toList =
      PythonText.replaceAll "+00:00".toList "Z".toList 0 (Timestamp.isoformat moment .utc) :=
    String.toList_ofList
  rw [chars, parts]
  exact PythonText.replaceAll_suffix noPlus _ _

/-- `canonical_artifact_payload`: the signed fields of an artifact, the two CRL
fields only when they are present. -/
def canonicalArtifactPayload (artifact : Json) : Json :=
  let get (key : String) : Json := (artifact.field? key).getD .null
  let optional (key : String) : List (String × Json) :=
    match artifact.field? key with
    | some value => [(key, value)]
    | none => []
  .obj ([
    ("artifact_type", get "artifact_type"),
    ("schema_version", get "schema_version"),
    ("zone", get "zone"),
    ("role", get "role"),
    ("version", get "version"),
    ("artifact_revision", get "artifact_revision"),
    ("artifact_reason", get "artifact_reason"),
    ("generated_at", get "generated_at"),
    ("expires_at", get "expires_at"),
    ("ca_chain_pem", get "ca_chain_pem"),
    ("crl_base64", get "crl_base64"),
    ("certificates", (artifact.field? "certificates").getD (.arr [])),
    ("signer", (artifact.field? "signer").getD (.obj []))] ++
    optional "crl_bundle" ++ optional "crl_metadata")

/-- What the Vault client supplies for one artifact. -/
structure VaultMaterial where
  caChainPem : String
  crlBase64 : String
  crlBundle : List (String × Json)
  crlMetadata : List (String × Json)

/-- The JSON object of a certificate row. -/
def TrustedCertificate.toJson (row : Database.TrustedCertificate) : Json :=
  .obj [
    ("certificate_id", .int row.certificateId),
    ("application_uri", .str row.applicationUri),
    ("common_name", .str row.commonName),
    ("zone", .str row.zone.name),
    ("role", .str row.role.name),
    ("component_type", row.componentType.elim .null .str),
    ("fingerprint_sha256", .str row.fingerprintSha256),
    ("pem", .str row.pem)]

/-- The arithmetic that signing rests on: a signature scheme, SHA-256 as lower-case
hexadecimal text, and the DER form of a public key. -/
structure Crypto (PrivateKey PublicKey : Type) where
  scheme : SignatureScheme PrivateKey PublicKey
  sha256Hex : List UInt8 → String
  publicKeyDer : PublicKey → List UInt8

/-- `TrustArtifactSigner`. -/
structure TrustArtifactSigner (PrivateKey : Type) where
  privateKey : PrivateKey
  keyId : String
  ttlSeconds : Int

/-- `SignedArtifact`. -/
structure SignedArtifact where
  artifact : Json
  artifactBytes : List UInt8
  artifactSha256 : String
  signatureBase64 : String
  signerFingerprintSha256 : String
  signerKeyId : String
  generatedAt : Timestamp.DateTime
  expiresAt : Timestamp.DateTime

section Signing

variable {PrivateKey PublicKey : Type} (crypto : Crypto PrivateKey PublicKey)

def TrustArtifactSigner.fingerprintSha256 (signer : TrustArtifactSigner PrivateKey) : String :=
  crypto.sha256Hex (crypto.publicKeyDer (crypto.scheme.publicKey signer.privateKey))

/-- The artifact document. -/
def TrustArtifactSigner.artifactDocument (signer : TrustArtifactSigner PrivateKey)
    (zone : Zone) (role : Role) (version : Nat) (certs : List Json) (material : VaultMaterial)
    (artifactRevision : Nat) (reason : String) (generatedAt expiresAt : Timestamp.DateTime) :
    Json :=
  .obj [
    ("artifact_type", .str "opcua_trustlist"),
    ("schema_version", .int 1),
    ("zone", .str zone.name),
    ("role", .str role.name),
    ("version", .int version),
    ("artifact_revision", .int artifactRevision),
    ("artifact_reason", .str reason),
    ("generated_at", .str (toRfc3339Utc generatedAt)),
    ("expires_at", .str (toRfc3339Utc expiresAt)),
    ("ca_chain_pem", .str material.caChainPem),
    ("crl_base64", .str material.crlBase64),
    ("crl_bundle", .obj material.crlBundle),
    ("crl_metadata", .obj material.crlMetadata),
    ("certificates", .arr certs),
    ("signer", .obj [
      ("key_id", .str signer.keyId),
      ("algorithm", .str "ed25519"),
      ("fingerprint_sha256", .str (signer.fingerprintSha256 crypto))])]

/-- `build_signed_artifact`; the only failure is an expiry past the year 9999. -/
def TrustArtifactSigner.buildSignedArtifact (signer : TrustArtifactSigner PrivateKey)
    (trustList : TrustList) (certs : List Json) (material : VaultMaterial)
    (artifactRevision : Nat) (reason : String) (generatedAt : Timestamp.DateTime) :
    Option SignedArtifact := do
  let expiresAt ← generatedAt.addMicros? (signer.ttlSeconds * 1000000)
  let artifact := signer.artifactDocument crypto trustList.zone trustList.role trustList.version
    certs material artifactRevision reason generatedAt expiresAt
  let canonicalBytes := (canonicalArtifactPayload artifact).canonicalBytes
  some {
    artifact := artifact
    artifactBytes := canonicalBytes
    artifactSha256 := crypto.sha256Hex canonicalBytes
    signatureBase64 := String.ofList
      (Base64.encode (crypto.scheme.sign signer.privateKey canonicalBytes))
    signerFingerprintSha256 := signer.fingerprintSha256 crypto
    signerKeyId := signer.keyId
    generatedAt := generatedAt
    expiresAt := expiresAt }

end Signing

/-- The certificate identifiers that an artifact document lists. -/
def artifactCertificateIds (artifact : Json) : List Nat :=
  match artifact.field? "certificates" with
  | some (.arr entries) => entries.filterMap fun entry =>
      match entry.field? "certificate_id" with
      | some (.int id) => some id.toNat
      | _ => none
  | _ => []

/-- A certificate row is listed under its identifier. -/
theorem artifactCertificateIds_artifactDocument {PrivateKey PublicKey : Type}
    (crypto : Crypto PrivateKey PublicKey) (signer : TrustArtifactSigner PrivateKey) (zone : Zone)
    (role : Role) (version : Nat) (rows : List Database.TrustedCertificate)
    (material : VaultMaterial) (artifactRevision : Nat) (reason : String)
    (generatedAt expiresAt : Timestamp.DateTime) :
    artifactCertificateIds (signer.artifactDocument crypto zone role version
      (rows.map TrustedCertificate.toJson) material artifactRevision reason generatedAt expiresAt) =
        rows.map Database.TrustedCertificate.certificateId := by
  have certificates : (signer.artifactDocument crypto zone role version
      (rows.map TrustedCertificate.toJson) material artifactRevision reason generatedAt
      expiresAt).field? "certificates" = some (.arr (rows.map TrustedCertificate.toJson)) := rfl
  simp only [artifactCertificateIds, certificates, List.filterMap_map]
  exact List.filterMap_eq_map_iff_forall_eq_some.mpr fun row _ => rfl

/-- `get_trustlist_artifact_signature`: the signature record of a row, next to the
artifact served for it; the database shows the two times in its own zone. -/
def getTrustlistArtifactSignature (zone : Zone) (role : Role) (row : TrustArtifact)
    (artifact : Json) (generatedAt : Timestamp.Reading row.generatedAt)
    (expiresAt : Timestamp.Reading row.expiresAt) : Json :=
  .obj [
    ("zone", .str zone.name),
    ("role", .str role.name),
    ("version", .int row.trustlistVersion),
    ("artifact_revision", .int row.artifactRevision),
    ("artifact_sha256", .str row.artifactSha256),
    ("signature_base64", .str row.signatureBase64),
    ("generated_at", .str generatedAt.text),
    ("expires_at", .str expiresAt.text),
    ("signer", .obj [
      ("key_id", .str row.signerKeyId),
      ("algorithm", (((artifact.field? "signer").getD (.obj [])).field? "algorithm").getD
        (.str "ed25519")),
      ("fingerprint_sha256", .str row.signerFingerprintSha256)])]

/-- A scheme that shows what it computes on: a signature is the message behind a
mark, a hash is the text of the bytes. -/
def transparentCrypto : Crypto Unit Unit where
  scheme := {
    publicKey := fun _ => ()
    sign := fun _ message => 83 :: message
    verify := fun _ signature message => signature == 83 :: message }
  sha256Hex := fun bytes => String.ofList (bytes.map fun byte => Char.ofNat byte.toNat)
  publicKeyDer := fun _ => [107, 101, 121]

theorem transparentCrypto_ideal : transparentCrypto.scheme.Ideal where
  complete _ message := beq_self_eq_true (83 :: message)
  binding _ signature message other verified otherVerified := by
    have first : signature = 83 :: message := eq_of_beq verified
    have second : signature = 83 :: other := eq_of_beq otherVerified
    exact List.tail_eq_of_cons_eq (first.symm.trans second)
  nonempty _ message := List.cons_ne_nil _ message

end OpcuaGds.Gds
