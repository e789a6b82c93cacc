import OpcuaGds.Agent.ArtifactAgreement
import OpcuaGds.Gds.PackageManifest

/-! # Verification of package manifests

`verify_certificate_package_manifest` of the agent, in the order of the source, and
its agreement with what GDS issues: an issued manifest passes under its signature
record, and no other manifest does, the letter case of its hash and a `signature`
field aside.
-/

namespace OpcuaGds.Agent

open Gds (Crypto TrustArtifactSigner PackageMaterial PreviousPackage packageManifest
  packageSignaturePayload signedPackageRow)

/-- `canonical_package_manifest`; the argument is a dictionary. -/
def canonicalPackageManifest : Json → Json
  | .obj fields =>
      .obj (Json.eraseField "signature" (Json.setField "manifest_sha256" (.str "") fields))
  | manifest => manifest

/-- The lower-case text of a field. -/
def lowerField (key : String) (document : Json) : String :=
  PythonText.lower ((document.field? key).getD (.str "")).toStr

/-- A value of the hash tree. -/
def isDigestText : Json → Bool
  | .str value => value.length == 64
  | _ => false

/-- The checks of schema, identifier and signer. -/
def checkPackageHeader (manifest : Json) (trustAnchorFp : String) : Except Failure Unit := do
  let schema ← attempt (manifest.get? "schema" .null)
  require (isText "labshock_certificate_package_v1" schema) "malformed_package"
    "unsupported package schema"
  require (PythonText.strip ((manifest.field? "package_id").getD (.str "")).toStr ≠ "")
    "malformed_package" "missing package_id"
  let signer := (manifest.field? "signer").getD (.obj [])
  require (signer.isObject = true) "malformed_package" "missing package signer"
  require (lowerField "algorithm" signer = "ed25519") "unsupported_signer"
    "unsupported package signer algorithm"
  require (lowerField "fingerprint_sha256" signer = PythonText.lower trustAnchorFp)
    "signer_fingerprint_mismatch" "package signer fingerprint does not match pinned trust anchor"

/-- The hash of the record, the hash in the manifest and the computed one. -/
def checkPackageHash (manifest signature : Json) (digest : String) : Except Failure Unit := do
  let declared ← attempt (signature.get? "manifest_sha256" (.str ""))
  require (PythonText.lower declared.toStr = lowerField "manifest_sha256" manifest)
    "canonical_hash_mismatch" "package signature hash does not match manifest hash"
  require (PythonText.lower digest = lowerField "manifest_sha256" manifest)
    "canonical_hash_mismatch" "package manifest hash mismatch"

/-- The shape of the hash tree. -/
def checkFilesSha256 (manifest : Json) : Except Failure Unit :=
  match (manifest.field? "files_sha256").getD (.obj []) with
  | .obj files =>
      require (∀ file ∈ files, isDigestText file.2 = true) "malformed_package"
        "invalid package file hash tree"
  | _ => .error (.rejected "malformed_package" "files_sha256 must be an object")

section Verification

variable {PrivateKey PublicKey : Type} (crypto : Crypto PrivateKey PublicKey)

/-- `package_manifest_sha256`. -/
def packageManifestSha256 (manifest : Json) : String :=
  crypto.sha256Hex (canonicalPackageManifest manifest).canonicalBytes

/-- The signer of the record and the signature over the canonical manifest. -/
def checkPackageSignature (manifest signature : Json) (trustAnchorPub : PublicKey)
    (trustAnchorFp : String) : Except Failure Unit := do
  let fingerprint ← attempt
    (((signature.field? "signer").getD (.obj [])).get? "fingerprint_sha256" (.str ""))
  require (PythonText.lower fingerprint.toStr = PythonText.lower trustAnchorFp)
    "signer_fingerprint_mismatch"
    "package signature signer fingerprint does not match pinned trust anchor"
  let encoded := PythonText.strip ((signature.field? "signature_base64").getD (.str "")).toStr
  require (encoded ≠ "") "malformed_package" "missing package manifest signature"
  let bytes ← attempt (Base64.decode encoded.toList)
  require (crypto.scheme.verify trustAnchorPub bytes
      (canonicalPackageManifest manifest).canonicalBytes = true)
    "signature_invalid" "package manifest signature verification failed"

/-- `verify_certificate_package_manifest`. -/
def verifyCertificatePackageManifest (manifest signature : Json) (trustAnchorPub : PublicKey)
    (trustAnchorFp : String) : Except Failure String := do
  checkPackageHeader manifest trustAnchorFp
  let digest := packageManifestSha256 crypto manifest
  checkPackageHash manifest signature digest
  checkFilesSha256 manifest
  checkPackageSignature crypto manifest signature trustAnchorPub trustAnchorFp
  .ok digest

/-! ## What the checks say -/

theorem checkPackageHeader_eq_ok {manifest : Json} {trustAnchorFp : String} {result : Unit} :
    checkPackageHeader manifest trustAnchorFp = .ok result ↔
      manifest.get? "schema" .null = some (.str "labshock_certificate_package_v1") ∧
        PythonText.strip ((manifest.field? "package_id").getD (.str "")).toStr ≠ "" ∧
        ((manifest.field? "signer").getD (.obj [])).isObject = true ∧
        lowerField "algorithm" ((manifest.field? "signer").getD (.obj [])) = "ed25519" ∧
        lowerField "fingerprint_sha256" ((manifest.field? "signer").getD (.obj [])) =
          PythonText.lower trustAnchorFp := by
  simp only [checkPackageHeader, Fallible.bind_eq_ok, Fallible.exists_check, attempt_eq_ok,
    require_eq_ok,
    isText_iff]
  constructor
  · rintro ⟨_, found, rfl, rest⟩
    exact ⟨found, rest⟩
  · rintro ⟨found, rest⟩
    exact ⟨_, found, rfl, rest⟩

theorem checkPackageHash_eq_ok {manifest signature : Json} {digest : String} {result : Unit} :
    checkPackageHash manifest signature digest = .ok result ↔
      (∃ declared, signature.get? "manifest_sha256" (.str "") = some declared ∧
        PythonText.lower declared.toStr = lowerField "manifest_sha256" manifest) ∧
      PythonText.lower digest = lowerField "manifest_sha256" manifest := by
  simp only [checkPackageHash, Fallible.bind_eq_ok, Fallible.exists_check, attempt_eq_ok,
    require_eq_ok]
  constructor
  · rintro ⟨declared, found, same, own⟩
    exact ⟨⟨declared, found, same⟩, own⟩
  · rintro ⟨⟨declared, found, same⟩, own⟩
    exact ⟨declared, found, same, own⟩

theorem checkFilesSha256_eq_ok {manifest : Json} {result : Unit} :
    checkFilesSha256 manifest = .ok result ↔
      ∃ files, (manifest.field? "files_sha256").getD (.obj []) = .obj files ∧
        ∀ file ∈ files, isDigestText file.2 = true := by
  unfold checkFilesSha256
  cases (manifest.field? "files_sha256").getD (.obj []) <;> simp [require_eq_ok]

theorem checkPackageSignature_eq_ok {manifest signature : Json} {trustAnchorPub : PublicKey}
    {trustAnchorFp : String} {result : Unit} :
    checkPackageSignature crypto manifest signature trustAnchorPub trustAnchorFp = .ok result ↔
      (∃ fingerprint,
        ((signature.field? "signer").getD (.obj [])).get? "fingerprint_sha256" (.str "") =
          some fingerprint ∧
        PythonText.lower fingerprint.toStr = PythonText.lower trustAnchorFp) ∧
      ∃ bytes,
        PythonText.strip ((signature.field? "signature_base64").getD (.str "")).toStr ≠ "" ∧
        Base64.decode (PythonText.strip
          ((signature.field? "signature_base64").getD (.str "")).toStr).toList = some bytes ∧
        crypto.scheme.verify trustAnchorPub bytes
          (canonicalPackageManifest manifest).canonicalBytes = true := by
  simp only [checkPackageSignature, Fallible.bind_eq_ok, Fallible.exists_check, attempt_eq_ok,
    require_eq_ok]
  constructor
  · rintro ⟨fingerprint, found, same, nonempty, bytes, decoded, verified⟩
    exact ⟨⟨fingerprint, found, same⟩, bytes, nonempty, decoded, verified⟩
  · rintro ⟨⟨fingerprint, found, same⟩, bytes, nonempty, decoded, verified⟩
    exact ⟨fingerprint, found, same, nonempty, bytes, decoded, verified⟩

/-- Everything that an acceptance says. -/
theorem verifyCertificatePackageManifest_eq_ok {manifest signature : Json}
    {trustAnchorPub : PublicKey} {trustAnchorFp digest : String} :
    verifyCertificatePackageManifest crypto manifest signature trustAnchorPub trustAnchorFp =
        .ok digest ↔
      checkPackageHeader manifest trustAnchorFp = .ok () ∧
        checkPackageHash manifest signature (packageManifestSha256 crypto manifest) = .ok () ∧
        checkFilesSha256 manifest = .ok () ∧
        checkPackageSignature crypto manifest signature trustAnchorPub trustAnchorFp = .ok () ∧
        packageManifestSha256 crypto manifest = digest := by
  simp only [verifyCertificatePackageManifest, Fallible.bind_eq_ok, Fallible.exists_check,
    Except.ok.injEq]

end Verification

/-! ## Agreement with what GDS issues -/

/-- What storage and transport make of a manifest: the order of fields is lost, and a
`signature` field may have been added. -/
def PackageCarried (original received : Json) : Prop :=
  ∃ fields, received = .obj fields ∧
    Json.Agrees (.obj (Json.eraseField "signature" fields)) original

theorem canonicalPackageManifest_eq :
    canonicalPackageManifest = Gds.canonicalPackageManifest := rfl

/-- The canonical manifest has the fields of the manifest but two. -/
theorem canonicalPackageManifest_field? {key : String} (notSignature : key ≠ "signature")
    (notHash : key ≠ "manifest_sha256") (manifest : Json) :
    (canonicalPackageManifest manifest).field? key = manifest.field? key := by
  cases manifest with
  | obj fields =>
      rw [canonicalPackageManifest, Json.field?, Json.lookup_eraseField_of_ne notSignature,
        Json.lookup_setField_of_ne notHash, Json.field?]
  | _ => rfl

theorem canonicalPackageManifest_isObject (manifest : Json) :
    (canonicalPackageManifest manifest).isObject = manifest.isObject := by
  cases manifest <;> rfl

section Agreement

variable {PrivateKey PublicKey : Type} {crypto : Crypto PrivateKey PublicKey}
  {signer : TrustArtifactSigner PrivateKey} {material : PackageMaterial}
  {previous : Option PreviousPackage}

/-- A manifest whose canonical form is the signed one has its fields. -/
theorem signed_field?_eq_some {manifest value : Json} {key : String}
    (agrees : Json.Agrees (canonicalPackageManifest manifest)
      (.obj (Gds.manifestFields crypto signer material previous)))
    (notSignature : key ≠ "signature") (notHash : key ≠ "manifest_sha256")
    (found : (Gds.manifestFields crypto signer material previous).lookup key = some value) :
    ∃ arrived, manifest.field? key = some arrived ∧ Json.Agrees arrived value := by
  obtain ⟨arrived, here, same⟩ := agrees.field?_eq_some found
  rw [canonicalPackageManifest_field? notSignature notHash] at here
  exact ⟨arrived, here, same⟩

theorem signed_field?_scalar {manifest value : Json} {key : String}
    (agrees : Json.Agrees (canonicalPackageManifest manifest)
      (.obj (Gds.manifestFields crypto signer material previous)))
    (notSignature : key ≠ "signature") (notHash : key ≠ "manifest_sha256")
    (found : (Gds.manifestFields crypto signer material previous).lookup key = some value)
    (isScalar : value.isScalar = true) : manifest.field? key = some value := by
  obtain ⟨arrived, here, same⟩ := signed_field?_eq_some agrees notSignature notHash found
  rw [here, same.eq_of_isScalar isScalar]

theorem HexId.strip_ne_empty (id : Gds.HexId) : PythonText.strip id.text ≠ "" := by
  have solid : ∀ c ∈ id.text.toList, PythonText.isSpace c = false := by
    have all : "0123456789abcdef".toList.all (fun c => !PythonText.isSpace c) = true := by decide
    exact fun c member => (Bool.not_eq_true' _).mp (List.all_eq_true.mp all c (id.digits c member))
  intro empty
  rw [PythonText.strip_eq_self solid] at empty
  have length := id.length_eq
  rw [empty] at length
  cases length

/-- The header of a manifest whose canonical form is the signed one. -/
theorem checkPackageHeader_signed {manifest : Json}
    (agrees : Json.Agrees (canonicalPackageManifest manifest)
      (.obj (Gds.manifestFields crypto signer material previous))) :
    checkPackageHeader manifest (signer.fingerprintSha256 crypto) = .ok () := by
  have object : manifest.isObject = true :=
    (canonicalPackageManifest_isObject manifest).symm.trans agrees.isObject
  have schema : manifest.field? "schema" = some (.str "labshock_certificate_package_v1") :=
    signed_field?_scalar agrees (by decide) (by decide) rfl rfl
  have packageId : manifest.field? "package_id" = some (.str material.packageId.text) :=
    signed_field?_scalar agrees (by decide) (by decide) rfl rfl
  obtain ⟨named, found, same⟩ :=
    signed_field?_eq_some agrees (show "signer" ≠ "signature" by decide) (by decide) rfl
  have algorithm : named.field? "algorithm" = some (.str "ed25519") := same.field?_scalar rfl rfl
  have fingerprint :
      named.field? "fingerprint_sha256" = some (.str (signer.fingerprintSha256 crypto)) :=
    same.field?_scalar rfl rfl
  rw [checkPackageHeader_eq_ok, found, packageId, Json.get?, if_pos object, schema]
  refine ⟨rfl, HexId.strip_ne_empty _, same.isObject, ?_, ?_⟩
  · rw [lowerField, Option.getD_some, algorithm]
    decide
  · rw [lowerField, Option.getD_some, fingerprint]
    rfl

/-- The hash tree of a manifest whose canonical form is the signed one. -/
theorem checkFilesSha256_signed (hexDigests : ∀ bytes, (crypto.sha256Hex bytes).length = 64)
    {manifest : Json}
    (agrees : Json.Agrees (canonicalPackageManifest manifest)
      (.obj (Gds.manifestFields crypto signer material previous))) :
    checkFilesSha256 manifest = .ok () := by
  obtain ⟨files, found, same⟩ :=
    signed_field?_eq_some agrees (show "files_sha256" ≠ "signature" by decide) (by decide) rfl
  rw [checkFilesSha256_eq_ok, found, Option.getD_some]
  cases files with
  | obj entries =>
      refine ⟨entries, rfl, fun entry member => ?_⟩
      obtain ⟨other, listed, _, agree⟩ := same.exists_field member
      obtain ⟨bytes, digest⟩ := Gds.packageFilesSha256_digest crypto _ other listed
      rw [digest] at agree
      rw [agree.eq_of_isScalar rfl, isDigestText, hexDigests, beq_self_eq_true]
  | _ => cases same.isObject

section Record

variable {stored record : Json}

variable (signer) in
/-- The signature of the record decodes to the signature that was made. -/
theorem decode_signature (nonempty : ∀ key message, crypto.scheme.sign key message ≠ [])
    (payload : Json) :
    PythonText.strip (signer.signCanonicalPayload crypto payload) ≠ "" ∧
      Base64.decode (PythonText.strip (signer.signCanonicalPayload crypto payload)).toList =
        some (crypto.scheme.sign signer.privateKey payload.canonicalBytes) := by
  have text : signer.signCanonicalPayload crypto payload = String.ofList
      (Base64.encode (crypto.scheme.sign signer.privateKey payload.canonicalBytes)) := rfl
  rw [text, Base64.strip_encode, String.toList_ofList, Base64.decode_encode]
  exact ⟨Base64.ofList_encode_ne_empty (nonempty _ _), rfl⟩

/-- What the verifier reads of a record that arrives. -/
theorem record_reads
    (storedAgrees : Json.Agrees stored (packageManifest crypto signer material previous))
    (recordAgrees : Json.Agrees record
      (packageSignaturePayload (signedPackageRow crypto signer material previous stored))) :
    record.isObject = true ∧
      record.field? "manifest_sha256" = some (.str
        (Gds.manifestSha256 crypto (packageManifest crypto signer material previous))) ∧
      record.field? "signature_base64" = some (.str (signer.signCanonicalPayload crypto
        (.obj (Gds.manifestFields crypto signer material previous)))) ∧
      ∃ named, record.field? "signer" = some named ∧
        named.get? "fingerprint_sha256" (.str "") =
          some (.str (signer.fingerprintSha256 crypto)) := by
  have object : stored.isObject = true := storedAgrees.isObject
  obtain ⟨own, ownFound, ownAgrees⟩ := storedAgrees.field?_eq_some
    (Gds.packageManifest_field? crypto signer material previous
      (show "signer" ≠ "manifest_sha256" by decide))
  have ownObject : own.isObject = true := ownAgrees.isObject
  have ownFingerprint :
      own.field? "fingerprint_sha256" = some (.str (signer.fingerprintSha256 crypto)) :=
    ownAgrees.field?_scalar rfl rfl
  have payload : ∃ keyId algorithm,
      (packageSignaturePayload (signedPackageRow crypto signer material previous stored)).field?
        "signer" = some (.obj [("key_id", keyId), ("algorithm", algorithm),
          ("fingerprint_sha256", .str (signer.fingerprintSha256 crypto))]) := by
    refine ⟨(own.field? "key_id").getD .null, (own.field? "algorithm").getD (.str "ed25519"), ?_⟩
    simp only [packageSignaturePayload, signedPackageRow, object, if_true, ownFound,
      Option.getD_some, ownObject, ownFingerprint]
    rfl
  obtain ⟨keyId, algorithm, payload⟩ := payload
  obtain ⟨named, found, same⟩ := recordAgrees.field?_eq_some payload
  refine ⟨recordAgrees.isObject, recordAgrees.field?_scalar rfl rfl,
    recordAgrees.field?_scalar rfl rfl, named, found, ?_⟩
  rw [Json.get?, same.isObject, same.field?_scalar rfl rfl]
  rfl

/-- Exactly the manifests with the signed canonical form and the recorded hash, letter
case aside, are accepted under the record of an issued package. -/
theorem accepted_iff (ideal : crypto.scheme.Ideal)
    (hexDigests : ∀ bytes, (crypto.sha256Hex bytes).length = 64)
    (storedAgrees : Json.Agrees stored (packageManifest crypto signer material previous))
    (recordAgrees : Json.Agrees record
      (packageSignaturePayload (signedPackageRow crypto signer material previous stored)))
    {manifest : Json} {digest : String} :
    verifyCertificatePackageManifest crypto manifest record
        (crypto.scheme.publicKey signer.privateKey) (signer.fingerprintSha256 crypto) =
          .ok digest ↔
      Json.Agrees (canonicalPackageManifest manifest)
          (.obj (Gds.manifestFields crypto signer material previous)) ∧
        lowerField "manifest_sha256" manifest = PythonText.lower
          (Gds.manifestSha256 crypto (packageManifest crypto signer material previous)) ∧
        digest = Gds.manifestSha256 crypto (packageManifest crypto signer material previous) := by
  obtain ⟨object, hash, signature, named, found, fingerprint⟩ :=
    record_reads storedAgrees recordAgrees
  have declared : record.get? "manifest_sha256" (.str "") = some (.str
      (Gds.manifestSha256 crypto (packageManifest crypto signer material previous))) := by
    rw [Json.get?, if_pos object, hash, Option.getD_some]
  obtain ⟨nonempty, decoded⟩ := decode_signature signer ideal.nonempty
    (.obj (Gds.manifestFields crypto signer material previous))
  rw [verifyCertificatePackageManifest_eq_ok]
  constructor
  · rintro ⟨-, hashes, -, verified, rfl⟩
    obtain ⟨⟨other, otherFound, same⟩, -⟩ := checkPackageHash_eq_ok.mp hashes
    rw [declared, Option.some.injEq] at otherFound
    subst otherFound
    obtain ⟨-, bytes, -, otherDecoded, holds⟩ := (checkPackageSignature_eq_ok crypto).mp verified
    rw [signature, Option.getD_some, Json.toStr_str, decoded, Option.some.injEq] at otherDecoded
    subst otherDecoded
    rw [ideal.verify_sign_iff, Json.canonicalBytes_eq_iff] at holds
    refine ⟨holds, same.symm, ?_⟩
    rw [packageManifestSha256, Json.canonicalBytes_eq_iff.mpr holds]
    rfl
  · rintro ⟨agrees, own, rfl⟩
    have bytes : (canonicalPackageManifest manifest).canonicalBytes =
        (Json.obj (Gds.manifestFields crypto signer material previous)).canonicalBytes :=
      Json.canonicalBytes_eq_iff.mpr agrees
    have computed : packageManifestSha256 crypto manifest =
        Gds.manifestSha256 crypto (packageManifest crypto signer material previous) := by
      rw [packageManifestSha256, bytes]
      rfl
    refine ⟨checkPackageHeader_signed agrees, ?hashes, checkFilesSha256_signed hexDigests agrees,
      ?verified, computed⟩
    case hashes =>
      rw [checkPackageHash_eq_ok, computed, own]
      exact ⟨⟨_, declared, rfl⟩, rfl⟩
    case verified =>
      rw [checkPackageSignature_eq_ok, found, signature, bytes]
      exact ⟨⟨_, fingerprint, rfl⟩, _, nonempty, decoded, ideal.complete _ _⟩

end Record

/-- What arrives has the signed canonical form. -/
theorem PackageCarried.agrees {received : Json}
    (carried : PackageCarried (packageManifest crypto signer material previous) received) :
    Json.Agrees (canonicalPackageManifest received)
      (.obj (Gds.manifestFields crypto signer material previous)) := by
  obtain ⟨fields, rfl, agrees⟩ := carried
  rw [canonicalPackageManifest, Json.eraseField_setField (by decide)]
  exact agrees.setField "manifest_sha256" (.str "") rfl

/-- What arrives has the hash of the manifest. -/
theorem PackageCarried.lowerField_hash {received : Json}
    (carried : PackageCarried (packageManifest crypto signer material previous) received) :
    lowerField "manifest_sha256" received = PythonText.lower
      (Gds.manifestSha256 crypto (packageManifest crypto signer material previous)) := by
  obtain ⟨fields, rfl, agrees⟩ := carried
  have hash := agrees.field?_scalar
    (Gds.packageManifest_manifestSha256 crypto signer material previous) rfl
  rw [Json.field?, Json.lookup_eraseField_of_ne (by decide)] at hash
  rw [lowerField, Json.field?, hash, Option.getD_some, Json.toStr_str]

variable (crypto signer material previous) in
/-- An issued manifest is accepted under its signature record after storage and
transport, and a manifest with any other field, or another hash than in letter case, is
not. -/
theorem package_manifest_agreement (ideal : crypto.scheme.Ideal)
    (hexDigests : ∀ bytes, (crypto.sha256Hex bytes).length = 64) {stored received record : Json}
    (storedAgrees : Json.Agrees stored (packageManifest crypto signer material previous))
    (carried : PackageCarried (packageManifest crypto signer material previous) received)
    (recordAgrees : Json.Agrees record
      (packageSignaturePayload (signedPackageRow crypto signer material previous stored))) :
    let manifest := packageManifest crypto signer material previous
    let trustAnchorPub := crypto.scheme.publicKey signer.privateKey
    let trustAnchorFp := crypto.sha256Hex (crypto.publicKeyDer trustAnchorPub)
    verifyCertificatePackageManifest crypto received record trustAnchorPub trustAnchorFp =
        .ok (Gds.manifestSha256 crypto manifest) ∧
      ∀ other : Json,
        (∃ key, key ≠ "signature" ∧ key ≠ "manifest_sha256" ∧
            ¬Json.SameField key other manifest) ∨
          lowerField "manifest_sha256" other ≠
            PythonText.lower (Gds.manifestSha256 crypto manifest) →
        ∀ digest, verifyCertificatePackageManifest crypto other record trustAnchorPub
          trustAnchorFp ≠ .ok digest := by
  intro manifest trustAnchorPub trustAnchorFp
  refine ⟨?accepted, ?rejected⟩
  case accepted =>
    apply (accepted_iff ideal hexDigests storedAgrees recordAgrees).mpr
    exact ⟨carried.agrees, carried.lowerField_hash, rfl⟩
  case rejected =>
    intro other differs digest accepted
    obtain ⟨agrees, hash, -⟩ :=
      (accepted_iff ideal hexDigests storedAgrees recordAgrees).mp accepted
    rcases differs with ⟨key, notSignature, notHash, differs⟩ | differs
    · apply differs
      have same := agrees.field? key
      rw [canonicalPackageManifest_field? notSignature notHash] at same
      rw [Json.SameField, same, Gds.packageManifest_field? crypto signer material previous notHash]
      rfl
    · exact differs hash

end Agreement

/-! ## An issued package -/

def examplePackageId : Gds.HexId where
  text := "0123456789abcdef0123456789abcdef"
  length_eq := by decide
  digits := by
    have all : "0123456789abcdef0123456789abcdef".toList.all
        (fun c => decide (c ∈ "0123456789abcdef".toList)) = true := by decide +kernel
    exact fun c member => of_decide_eq_true (List.all_eq_true.mp all c member)

/-- A client package of the default `open62541-client` profile. -/
def exampleMaterial : PackageMaterial where
  applicationUri := "urn:dataprotect:opcua:dmz-gateway-client"
  runtimeInstanceId := "dmz-gateway-client"
  profileName := "open62541-client"
  componentType := some "client"
  role := "southbound-client"
  issuedCert := {
    pem := "certificate"
    fingerprintSha256 := "fingerprint"
    serialNumber := "1"
    notBefore := exampleMoment
    notAfter := exampleMoment }
  caChain := "chain"
  crl := "crl"
  crlBundle := []
  crlMetadata := []
  adapter := {
    runtimeFamily := "open62541"
    trustStoreLayout := [
      ("application_certificate", .str "own/certs/application.pem"),
      ("issuer_chain", .str "issuers/certs/ca-chain.pem"),
      ("issuer_crl", .str "issuers/crl/current.crl.b64"),
      ("trusted_certs_dir", .str "trusted/certs"),
      ("trusted_crl_dir", .str "trusted/crl")] }
  compatibility := {
    status := "COMPATIBLE"
    riskLevel := "LOW"
    blockingReasons := []
    warnings := []
    details := [] }
  packageId := examplePackageId
  createdAt := exampleMoment

/-- The first package of a material, as the example signer issues it. -/
def issuedManifest (material : PackageMaterial) : Json :=
  packageManifest Gds.digestCrypto exampleSigner material none

/-- Its signature record. -/
def issuedRecord (material : PackageMaterial) : Json :=
  packageSignaturePayload
    (signedPackageRow Gds.digestCrypto exampleSigner material none (issuedManifest material))

theorem issued_accepted (material : PackageMaterial) :
    verifyCertificatePackageManifest Gds.digestCrypto (issuedManifest material)
        (issuedRecord material) () (Gds.digestCrypto.sha256Hex (Gds.digestCrypto.publicKeyDer ())) =
          .ok (Gds.manifestSha256 Gds.digestCrypto (issuedManifest material)) := by
  have carried : PackageCarried (issuedManifest material) (issuedManifest material) :=
    ⟨_, rfl, Json.Agrees.refl _⟩
  exact (accepted_iff Gds.digestCrypto_ideal Gds.digestCrypto_length
    (Json.Agrees.refl (issuedManifest material)) (Json.Agrees.refl (issuedRecord material))).mpr
      ⟨carried.agrees, carried.lowerField_hash, rfl⟩

/-- The manifest of the example as it is issued. -/
def exampleManifest : Json :=
  packageManifest Gds.digestCrypto exampleSigner exampleMaterial none

/-- Its signature record. -/
def exampleRecord : Json :=
  packageSignaturePayload
    (signedPackageRow Gds.digestCrypto exampleSigner exampleMaterial none exampleManifest)

/-- The first issued package is accepted, and refused with another generation. -/
theorem first_package_accepted :
    verifyCertificatePackageManifest Gds.digestCrypto exampleManifest exampleRecord ()
        (Gds.digestCrypto.sha256Hex (Gds.digestCrypto.publicKeyDer ())) =
          .ok (Gds.manifestSha256 Gds.digestCrypto exampleManifest) ∧
      ∀ digest, verifyCertificatePackageManifest Gds.digestCrypto
        (.obj (Json.setField "generation" (.int 2)
          (Gds.manifestFields Gds.digestCrypto exampleSigner exampleMaterial none)))
        exampleRecord () (Gds.digestCrypto.sha256Hex (Gds.digestCrypto.publicKeyDer ())) ≠
          .ok digest := by
  have carried : PackageCarried exampleManifest exampleManifest := ⟨_, rfl, rfl⟩
  have agreement := package_manifest_agreement Gds.digestCrypto exampleSigner exampleMaterial none
    Gds.digestCrypto_ideal Gds.digestCrypto_length (Json.Agrees.refl _) carried
    (Json.Agrees.refl _)
  refine ⟨agreement.1, agreement.2 _ (Or.inl ⟨"generation", by decide, by decide, ?_⟩)⟩
  intro same
  have one : some (Json.int 2) = some (Json.int 1) := same
  cases one

/-- The example with its hash in capital letters. -/
def capitalManifest : Json :=
  .obj (Json.setField "manifest_sha256"
    (.str (PythonText.upper (Gds.manifestSha256 Gds.digestCrypto exampleManifest)))
    (Gds.manifestFields Gds.digestCrypto exampleSigner exampleMaterial none))

/-- Capital letters in a digest do not matter to a comparison in lower case. -/
theorem lower_upper_digest (bytes : List UInt8) :
    PythonText.lower (PythonText.upper (Gds.digestCrypto.sha256Hex bytes)) =
      PythonText.lower (Gds.digestCrypto.sha256Hex bytes) := by
  have digit : ∀ d < 16, (PythonText.upperChar (Nat.digitChar d)).map PythonText.lowerChar =
      [PythonText.lowerChar (Nat.digitChar d)] := by
    decide
  have digits (value count : Nat) :
      ((Gds.hexDigits value count).flatMap PythonText.upperChar).map PythonText.lowerChar =
        (Gds.hexDigits value count).map PythonText.lowerChar := by
    induction count generalizing value with
    | zero => rfl
    | succ count ih =>
        rw [Gds.hexDigits, List.flatMap_cons, List.map_append, ih,
          digit _ (Nat.mod_lt _ (by decide)), List.map_cons, List.singleton_append]
  have first :
      (PythonText.upperChar 'f').map PythonText.lowerChar = [PythonText.lowerChar 'f'] := by
    decide
  rw [Gds.digestCrypto, PythonText.upper, PythonText.lower, PythonText.lower,
    String.toList_ofList, String.toList_ofList, List.flatMap_cons, List.map_append, digits, first,
    List.map_cons, List.singleton_append]

/-- A manifest that differs from the issued one in a field is accepted. -/
theorem capital_hash_accepted :
    ¬Json.SameField "manifest_sha256" capitalManifest exampleManifest ∧
      verifyCertificatePackageManifest Gds.digestCrypto capitalManifest exampleRecord ()
        (Gds.digestCrypto.sha256Hex (Gds.digestCrypto.publicKeyDer ())) =
          .ok (Gds.manifestSha256 Gds.digestCrypto exampleManifest) := by
  have hash : capitalManifest.field? "manifest_sha256" =
      some (.str (PythonText.upper (Gds.manifestSha256 Gds.digestCrypto exampleManifest))) :=
    Json.lookup_setField_self _ _ _
  constructor
  · intro same
    have own : exampleManifest.field? "manifest_sha256" =
        some (.str (Gds.manifestSha256 Gds.digestCrypto exampleManifest)) :=
      Gds.packageManifest_manifestSha256 _ _ _ _
    rw [Json.SameField, hash, own, Option.map_some, Option.map_some, Option.some.injEq,
      Json.normalize, Json.normalize, Json.str.injEq, Gds.manifestSha256] at same
    have heads := congrArg (fun text : String => text.toList.head?) same
    simp only [Gds.digestCrypto, PythonText.upper, String.toList_ofList] at heads
    exact absurd heads (by decide)
  · have canonical : Json.Agrees (canonicalPackageManifest capitalManifest)
        (.obj (Gds.manifestFields Gds.digestCrypto exampleSigner exampleMaterial none)) := rfl
    apply (accepted_iff Gds.digestCrypto_ideal Gds.digestCrypto_length
      (Json.Agrees.refl _) (Json.Agrees.refl exampleRecord)).mpr
    refine ⟨canonical, ?_, rfl⟩
    rw [lowerField, hash, Option.getD_some, Json.toStr_str]
    exact lower_upper_digest _

end OpcuaGds.Agent
