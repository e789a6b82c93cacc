import OpcuaGds.Foundation.FileTree
import OpcuaGds.Gds.ArtifactSigning

/-! # Package manifests

The manifest that `issue_certificate_package` writes for a certificate package: the
hash tree of the package files, the manifest document with its own hash inside, the
signature over the canonical manifest, and the signature record of the stored row.
-/

namespace OpcuaGds.Gds

/-! ## Package layout -/

/-- `RuntimeCompatibility`. -/
structure RuntimeCompatibility where
  status : String
  riskLevel : String
  blockingReasons : List String
  warnings : List String
  details : List (String × Json)

/-- A runtime adapter, as far as packages are concerned. -/
structure RuntimeAdapter where
  runtimeFamily : String
  trustStoreLayout : List (String × Json)

/-- The result of `generate_package_layout`. -/
structure PackageLayout where
  runtimeFamily : String
  layout : List (String × Json)
  files : List (String × Json)

/-- `generate_package_layout`; a path that is no text stands for its text. -/
def RuntimeAdapter.generatePackageLayout (adapter : RuntimeAdapter)
    (certificatePem caChainPem crlBase64 : String) : PackageLayout :=
  let path (key default : String) : String :=
    ((adapter.trustStoreLayout.lookup key).getD (.str default)).toStr
  { runtimeFamily := adapter.runtimeFamily
    layout := adapter.trustStoreLayout
    files :=
      Json.setField (path "issuer_crl" "issuers/crl/current.crl.b64") (.str crlBase64)
        (Json.setField (path "issuer_chain" "issuers/certs/ca-chain.pem") (.str caChainPem)
          [(path "application_certificate" "own/certs/application.pem", .str certificatePem)]) }

def texts (values : List String) : Json := .arr (values.map .str)

/-- `generate_install_plan`. -/
def RuntimeAdapter.generateInstallPlan (adapter : RuntimeAdapter) (layout : PackageLayout)
    (compatibility : RuntimeCompatibility) : Json :=
  .obj [
    ("runtime_write_enabled", .bool false),
    ("dry_run_only", .bool true),
    ("runtime_family", .str adapter.runtimeFamily),
    ("target_layout", .obj layout.layout),
    ("steps", texts [
      "verify_signed_manifest",
      "verify_payload_hash_tree",
      "verify_runtime_compatibility",
      "create_shadow_trust_store",
      "evaluate_approval_and_maintenance_window",
      "prepare_activation_dry_run_only"]),
    ("blocked", .bool (compatibility.status != "COMPATIBLE")),
    ("blocking_reasons", texts compatibility.blockingReasons),
    ("warnings", texts compatibility.warnings)]

/-! ## Manifest -/

/-- `uuid4().hex`: thirty-two lower-case hexadecimal digits. -/
structure HexId where
  text : String
  length_eq : text.length = 32
  digits : ∀ c ∈ text.toList, c ∈ "0123456789abcdef".toList

/-- What `parse_pem_certificate` returns of the issued certificate. -/
structure IssuedCertificate where
  pem : String
  fingerprintSha256 : String
  serialNumber : String
  notBefore : Timestamp.DateTime
  notAfter : Timestamp.DateTime

/-- The columns that are read of the package to be superseded. -/
structure PreviousPackage where
  packageId : String
  generation : Nat
  deriving DecidableEq, Repr

/-- What `issue_certificate_package` has at hand when it writes the manifest. -/
structure PackageMaterial where
  applicationUri : String
  runtimeInstanceId : String
  profileName : String
  componentType : Option String
  role : String
  issuedCert : IssuedCertificate
  caChain : String
  crl : String
  crlBundle : List (String × Json)
  crlMetadata : List (String × Json)
  adapter : RuntimeAdapter
  compatibility : RuntimeCompatibility
  packageId : HexId
  createdAt : Timestamp.DateTime

/-- `int(previous_package["generation"]) + 1 if previous_package else 1`. -/
def nextGeneration (previous : Option PreviousPackage) : Nat :=
  previous.elim 1 fun package => package.generation + 1

/-- `canonical_package_manifest`; the argument is a dictionary. -/
def canonicalPackageManifest : Json → Json
  | .obj fields =>
      .obj (Json.eraseField "signature" (Json.setField "manifest_sha256" (.str "") fields))
  | manifest => manifest

section Manifest

variable {PrivateKey PublicKey : Type} (crypto : Crypto PrivateKey PublicKey)

/-- `sha256_text`. -/
def sha256Text (value : String) : String := crypto.sha256Hex (textBytes value)

/-- `package_files_sha256`. -/
def packageFilesSha256 (files : List (String × Json)) : List (String × Json) :=
  (files.insertionSort Json.FieldLe).map fun file =>
    (file.1, .str (sha256Text crypto file.2.toStr))

/-- `package_payload_sha256`. -/
def packagePayloadSha256 (filesSha256 : List (String × Json)) : String :=
  crypto.sha256Hex (Json.obj filesSha256).canonicalBytes

/-- `manifest_sha256`. -/
def manifestSha256 (manifest : Json) : String :=
  crypto.sha256Hex (canonicalPackageManifest manifest).canonicalBytes

/-- The fields of the manifest with an empty hash. -/
def manifestFields (signer : TrustArtifactSigner PrivateKey) (material : PackageMaterial)
    (previous : Option PreviousPackage) : List (String × Json) :=
  let layout := material.adapter.generatePackageLayout material.issuedCert.pem material.caChain
    material.crl
  let filesSha256 := packageFilesSha256 crypto layout.files
  let componentType := (material.componentType.filter (· ≠ "")).getD material.role
  [("schema", .str "labshock_certificate_package_v1"),
    ("schema_version", .int 1),
    ("package_id", .str material.packageId.text),
    ("generation", .int (nextGeneration previous)),
    ("supersedes_package_id", previous.elim .null fun package => .str package.packageId),
    ("supersedes_generation", previous.elim .null fun package => .int package.generation),
    ("application_uri", .str material.applicationUri),
    ("runtime_instance_id", .str material.runtimeInstanceId),
    ("profile_name", .str material.profileName),
    ("component_type", .str componentType),
    ("certificate_fingerprint_sha256", .str material.issuedCert.fingerprintSha256),
    ("certificate_serial", .str material.issuedCert.serialNumber),
    ("not_before", .str (toRfc3339Utc material.issuedCert.notBefore)),
    ("not_after", .str (toRfc3339Utc material.issuedCert.notAfter)),
    ("certificate_pem", .str material.issuedCert.pem),
    ("ca_chain_pem", .str material.caChain),
    ("crl_base64", .str material.crl),
    ("crl_bundle", .obj material.crlBundle),
    ("crl_metadata", .obj material.crlMetadata),
    ("install_plan", material.adapter.generateInstallPlan layout material.compatibility),
    ("rollback_metadata", .obj [
      ("rollback_supported", .bool true),
      ("previous_generation_required", .bool true),
      ("runtime_write_enabled", .bool false)]),
    ("compatibility", .obj [
      ("status", .str material.compatibility.status),
      ("risk_level", .str material.compatibility.riskLevel),
      ("blocking_reasons", texts material.compatibility.blockingReasons),
      ("warnings", texts material.compatibility.warnings),
      ("details", .obj material.compatibility.details)]),
    ("lifecycle_state", .str "PACKAGED"),
    ("payload_sha256", .str (packagePayloadSha256 crypto filesSha256)),
    ("files_sha256", .obj filesSha256),
    ("manifest_sha256", .str ""),
    ("created_at", .str (toRfc3339Utc material.createdAt)),
    ("signer", .obj [
      ("key_id", .str signer.keyId),
      ("algorithm", .str "ed25519"),
      ("fingerprint_sha256", .str (signer.fingerprintSha256 crypto))])]

/-- `manifest`, once its hash is in. -/
def packageManifest (signer : TrustArtifactSigner PrivateKey) (material : PackageMaterial)
    (previous : Option PreviousPackage) : Json :=
  let fields := manifestFields crypto signer material previous
  .obj (Json.setField "manifest_sha256" (.str (manifestSha256 crypto (.obj fields))) fields)

/-- The `signature_base64` of `sign_canonical_payload`. -/
def TrustArtifactSigner.signCanonicalPayload (signer : TrustArtifactSigner PrivateKey)
    (payload : Json) : String :=
  String.ofList (Base64.encode (crypto.scheme.sign signer.privateKey payload.canonicalBytes))

/-- The columns of `certificate_packages` that its signature record shows; the document
is what the store gives back. -/
structure SignedPackageRow where
  packageId : String
  generation : Nat
  manifestJson : Json
  manifestSha256 : String
  signatureBase64 : String

/-- The row that `insert_certificate_package` stores for a manifest, with the document
as it is read back. -/
def signedPackageRow (signer : TrustArtifactSigner PrivateKey) (material : PackageMaterial)
    (previous : Option PreviousPackage) (stored : Json) : SignedPackageRow :=
  let manifest := packageManifest crypto signer material previous
  { packageId := material.packageId.text
    generation := nextGeneration previous
    manifestJson := stored
    manifestSha256 := manifestSha256 crypto manifest
    signatureBase64 := signer.signCanonicalPayload crypto (canonicalPackageManifest manifest) }

end Manifest

/-- `package_signature_payload`. -/
def packageSignaturePayload (row : SignedPackageRow) : Json :=
  let manifest := if row.manifestJson.isObject then row.manifestJson else .obj []
  let signer := (manifest.field? "signer").getD (.obj [])
  let signer := if signer.isObject then signer else .obj []
  .obj [
    ("package_id", .str row.packageId),
    ("generation", .int row.generation),
    ("manifest_sha256", .str row.manifestSha256),
    ("signature_base64", .str row.signatureBase64),
    ("signer", .obj [
      ("key_id", (signer.field? "key_id").getD .null),
      ("algorithm", (signer.field? "algorithm").getD (.str "ed25519")),
      ("fingerprint_sha256", (signer.field? "fingerprint_sha256").getD .null)])]

/-! ## What the manifest says -/

section Manifest

variable {PrivateKey PublicKey : Type} (crypto : Crypto PrivateKey PublicKey)
  (signer : TrustArtifactSigner PrivateKey) (material : PackageMaterial)
  (previous : Option PreviousPackage)

theorem packageManifest_manifestSha256 :
    (packageManifest crypto signer material previous).field? "manifest_sha256" =
      some (.str (manifestSha256 crypto (packageManifest crypto signer material previous))) :=
  Json.lookup_setField_self _ _ _

/-- The other fields of the manifest are those that are signed. -/
theorem packageManifest_field? {key : String} (other : key ≠ "manifest_sha256") :
    (packageManifest crypto signer material previous).field? key =
      (manifestFields crypto signer material previous).lookup key :=
  Json.lookup_setField_of_ne other _ _

/-- Every entry of the hash tree is a digest. -/
theorem packageFilesSha256_digest (files : List (String × Json)) :
    ∀ entry ∈ packageFilesSha256 crypto files,
      ∃ bytes, entry.2 = .str (crypto.sha256Hex bytes) := by
  intro entry member
  obtain ⟨file, _, rfl⟩ := List.mem_map.mp member
  exact ⟨_, rfl⟩

end Manifest

/-- The last hexadecimal digits of a number, the lowest first. -/
def hexDigits (value : Nat) : Nat → List Char
  | 0 => []
  | count + 1 => Nat.digitChar (value % 16) :: hexDigits (value / 16) count

theorem length_hexDigits (value count : Nat) : (hexDigits value count).length = count := by
  induction count generalizing value with
  | zero => rfl
  | succ count ih => rw [hexDigits, List.length_cons, ih]

/-- A scheme that shows what it signs, with digests of sixty-four characters. -/
def digestCrypto : Crypto Unit Unit where
  scheme := transparentCrypto.scheme
  sha256Hex := fun bytes => String.ofList
    ('f' :: hexDigits (bytes.foldl (fun sum byte => sum * 257 + byte.toNat + 1) 0) 63)
  publicKeyDer := fun _ => [107, 101, 121]

theorem digestCrypto_ideal : digestCrypto.scheme.Ideal := transparentCrypto_ideal

theorem digestCrypto_length (bytes : List UInt8) :
    (digestCrypto.sha256Hex bytes).length = 64 := by
  rw [digestCrypto, String.length_ofList, List.length_cons, length_hexDigits]

end OpcuaGds.Gds
