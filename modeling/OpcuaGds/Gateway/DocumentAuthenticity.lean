import OpcuaGds.Agent.ArtifactVerification
import OpcuaGds.Gateway.TrustApply

/-! # What an apply of the gateway rests on

The metadata check looks at the signature record of a document and compares a fingerprint;
no signature is verified, and the files are written from fields that no signature covers.
An authenticated apply depends on the signed parts of its document alone.
-/

namespace OpcuaGds.Gateway

open Gds (Crypto)

/-! ## Authenticated applies -/

/-- The signature record of the document holds a signature of its artifact, under a key with
the pinned fingerprint. -/
def SignatureVerifies {PrivateKey PublicKey : Type} (crypto : Crypto PrivateKey PublicKey)
    (settings : GdsSettings) (trustDoc : Json) : Prop :=
  ∃ pinned publicKey signed encoded signature,
    settings.pinned = some pinned ∧
    CText.equalsIgnoreCase (crypto.sha256Hex (crypto.publicKeyDer publicKey)) pinned = true ∧
    artifact trustDoc = some signed ∧
    valuestring? (item (artifactSignature trustDoc) "signature_base64") = some encoded ∧
    Base64.decode encoded.toList = some signature ∧
    crypto.scheme.verify publicKey signature
      (Agent.canonicalArtifactPayload
        (Agent.normalizeSignedArtifactForVerification signed)).canonicalBytes = true

/-- The documents carry the same artifact and the same signature record. -/
structure SameSigned (left right : TrustSource) : Prop where
  artifact : artifact left.trustDoc = artifact right.trustDoc
  signature : artifactSignature left.trustDoc = artifactSignature right.trustDoc

/-- The two applies leave the same bytes at every path. -/
def SameFiles (left right : FileWrites) : Prop :=
  ∀ path, (FileTree.written left).read path = (FileTree.written right).read path

section Applies

variable {PrivateKey PublicKey : Type} (crypto : Crypto PrivateKey PublicKey) (ssl : OpenSsl)
  (target : GdsTarget) (settings : GdsSettings) (cache : TargetCache) (allowCertificate : Bool)

/-- The cache holds a document for the apply that is not refused before the first write. -/
structure Accepted : Prop where
  ownPki : target.config.remotePeerReadOnly = false
  writeEnabled : settings.runtimeWriteEnabled = true
  passes : ∃ source, trustPayloadFromCacheOrEnrollment cache allowCertificate = some source ∧
    PassesMetadata settings source.trustDoc

/-- A document that is applied carries a signature that verifies, while that is required, and
its signed parts determine the files. -/
structure AppliesAuthenticated : Prop where
  verified : ∀ source, acceptedSource target.config settings cache allowCertificate = some source →
    settings.requireSignedArtifacts = true → SignatureVerifies crypto settings source.trustDoc
  determined : ∀ source other otherCache,
    acceptedSource target.config settings cache allowCertificate = some source →
      acceptedSource target.config settings otherCache allowCertificate = some other →
        SameSigned source other →
          SameFiles
            (applyTrustOrCertificateOne ssl target.config settings cache allowCertificate).writes
            (applyTrustOrCertificateOne ssl target.config settings otherCache
              allowCertificate).writes

end Applies

theorem accepted_iff {target : GdsTarget} {settings : GdsSettings} {cache : TargetCache}
    {allowCertificate : Bool} :
    Accepted target settings cache allowCertificate ↔
      ∃ source, acceptedSource target.config settings cache allowCertificate = some source := by
  constructor
  · rintro ⟨ownPki, enabled, source, found, passes⟩
    exact ⟨source, acceptedSource_eq_some.mpr ⟨ownPki, enabled, found, passes⟩⟩
  · rintro ⟨source, accepted⟩
    obtain ⟨ownPki, enabled, found, passes⟩ := acceptedSource_eq_some.mp accepted
    exact ⟨ownPki, enabled, source, found, passes⟩

/-! ## Replacing an unsigned field -/

/-- The document with a field put in front of its fields. -/
def override (document : Json) (name : String) (value : Json) : Json :=
  match document with
  | .obj fields => .obj ((name, value) :: fields)
  | _ => .obj [(name, value)]

theorem getObjectItem_override (document value : Json) (name other : String) :
    getObjectItem (override document name value) other =
      if CText.ofText name = other then some value else getObjectItem document other := by
  cases document with
  | obj fields => exact getObjectItem_cons _ _ _
  | _ => exact getObjectItem_cons _ _ _

/-- The document with another CA chain next to its artifact. -/
def withCaChain (trustDoc : Json) (caChain : String) : Json :=
  override trustDoc "trust_material"
    (override ((trustMaterial trustDoc).getD .null) "ca_chain_pem" (.str caChain))

section WithCaChain

variable (trustDoc : Json) (caChain : String)

theorem trustMaterial_withCaChain :
    trustMaterial (withCaChain trustDoc caChain) =
      some (override ((trustMaterial trustDoc).getD .null) "ca_chain_pem" (.str caChain)) := by
  rw [trustMaterial, withCaChain, getObjectItem_override, if_pos (by decide)]

theorem caChain_withCaChain :
    item (trustMaterial (withCaChain trustDoc caChain)) "ca_chain_pem" = some (.str caChain) := by
  rw [trustMaterial_withCaChain]
  exact (getObjectItem_override _ _ _ _).trans (if_pos (by decide))

variable {name : String}

/-- The other fields of the trust material stay. -/
theorem item_withCaChain (other : "ca_chain_pem" ≠ name) :
    item (trustMaterial (withCaChain trustDoc caChain)) name =
      item (trustMaterial trustDoc) name := by
  have plain : CText.ofText "ca_chain_pem" = "ca_chain_pem" := by decide
  rw [trustMaterial_withCaChain, item, Option.bind_some, getObjectItem_override, plain,
    if_neg other]
  cases trustMaterial trustDoc <;> rfl

theorem getObjectItem_withCaChain (other : "trust_material" ≠ name) :
    getObjectItem (withCaChain trustDoc caChain) name = getObjectItem trustDoc name := by
  have plain : CText.ofText "trust_material" = "trust_material" := by decide
  rw [withCaChain, getObjectItem_override, plain, if_neg other]

theorem artifact_withCaChain : artifact (withCaChain trustDoc caChain) = artifact trustDoc :=
  item_withCaChain trustDoc caChain (by decide)

theorem artifactSignature_withCaChain :
    artifactSignature (withCaChain trustDoc caChain) = artifactSignature trustDoc :=
  item_withCaChain trustDoc caChain (by decide)

/-- The metadata check does not see the difference. -/
theorem passesMetadata_withCaChain {settings : GdsSettings}
    (passes : PassesMetadata settings trustDoc) :
    PassesMetadata settings (withCaChain trustDoc caChain) := by
  have fingerprint : signerFingerprint (withCaChain trustDoc caChain) =
      signerFingerprint trustDoc := by
    rw [signerFingerprint, artifactSignature_withCaChain, signerFingerprint]
  have metadata : crlMetadata (withCaChain trustDoc caChain) = crlMetadata trustDoc := by
    rw [crlMetadata, artifact_withCaChain, item_withCaChain trustDoc caChain (by decide),
      crlMetadata]
  constructor
  · rw [getObjectItem_withCaChain trustDoc caChain (by decide)]
    exact passes.noPrivateKey
  · rw [artifactSignature_withCaChain, fingerprint]
    exact passes.signaturePresent
  · rw [fingerprint]
    exact passes.matchesPin
  · rw [metadata]
    exact passes.crlFresh

end WithCaChain

/-- A cache whose only document is the source with another CA chain. -/
def cacheWithCaChain (source : TrustSource) (caChain : String) : TargetCache := fun leaf =>
  match source.ownerDoc with
  | none =>
      if leaf = "trust-material.json" then some (withCaChain source.trustDoc caChain) else none
  | some ownerDoc =>
      if leaf = "renewal-result.json" then
        some (override ownerDoc "trust_distribution" (withCaChain source.trustDoc caChain))
      else none

theorem trustPayload_ownerDoc {cache : TargetCache} {source : TrustSource}
    (found : trustPayloadFromCacheOrEnrollment cache false = some source) :
    source.ownerDoc = none := by
  obtain ⟨doc, _, rfl⟩ := Option.map_eq_some_iff.mp found
  rfl

theorem trustPayload_cacheWithCaChain {cache : TargetCache} {allowCertificate : Bool}
    {source : TrustSource}
    (found : trustPayloadFromCacheOrEnrollment cache allowCertificate = some source)
    (caChain : String) :
    ∃ ownerDoc, trustPayloadFromCacheOrEnrollment (cacheWithCaChain source caChain)
      allowCertificate = some ⟨withCaChain source.trustDoc caChain, ownerDoc⟩ := by
  obtain ⟨trustDoc, ownerDoc⟩ := source
  cases ownerDoc with
  | none => cases allowCertificate <;> exact ⟨none, rfl⟩
  | some ownerDoc =>
      cases allowCertificate with
      | false => cases trustPayload_ownerDoc found
      | true =>
          have item : getObjectItem (override ownerDoc "trust_distribution"
              (withCaChain trustDoc caChain)) "trust_distribution" =
                some (withCaChain trustDoc caChain) := by
            rw [getObjectItem_override, if_pos (by decide)]
          refine ⟨some (override ownerDoc "trust_distribution" (withCaChain trustDoc caChain)), ?_⟩
          have first : cacheWithCaChain ⟨trustDoc, some ownerDoc⟩ caChain "renewal-result.json" =
              some (override ownerDoc "trust_distribution" (withCaChain trustDoc caChain)) := rfl
          simp only [trustPayloadFromCacheOrEnrollment, trustDistribution, first, item]
          rfl

/-! ## The file of the CA chain -/

theorem getLast?_append (front : String) {ending : String} {c : Char}
    (last : ending.toList.getLast? = some c) : (front ++ ending).toList.getLast? = some c := by
  rw [String.toList_append, List.getLast?_append, last, Option.some_or]

theorem getLast?_join (dir : String) {name : String} {c : Char}
    (last : name.toList.getLast? = some c) :
    (FileTree.join dir name).toList.getLast? = some c :=
  getLast?_append _ last

theorem getLast?_certPath (target : GdsTarget) :
    target.config.certPath.toList.getLast? ≠ some 'm' := by
  cases target <;> decide

section Writes

variable {ssl : OpenSsl} {target : GdsTarget} {settings : GdsSettings}

/-- No other file than the chain itself ends like it. -/
theorem getLast?_of_mem_crls {trustDoc : Json} {writes : FileWrites}
    (applied : applyCrls ssl target.config settings trustDoc = some writes)
    {file : String × List UInt8} (member : file ∈ writes) :
    file.1.toList.getLast? ≠ some 'm' := by
  obtain ⟨stem, _, ending, known, path⟩ := path_of_mem_applyCrls applied member
  have last : ending.toList.getLast? = some 'l' ∨ ending.toList.getLast? = some '4' := by
    simp only [List.mem_cons, List.not_mem_nil, or_false] at known
    rcases known with rfl | rfl
    · exact Or.inl (by decide)
    · exact Or.inr (by decide)
  rcases path with path | path <;> rcases last with last | last <;>
    · rw [path, getLast?_join _ (getLast?_append stem last)]
      decide

theorem getLast?_of_mem_certs {count : Nat} {entries : List Json} {file : String × List UInt8}
    (member : file ∈ applyTrustedCerts ssl target.config count entries) :
    file.1.toList.getLast? ≠ some 'm' := by
  obtain ⟨cert, _, pem, _, _, path | path⟩ := mem_applyTrustedCerts member
  · have last : ".der".toList.getLast? = some 'r' := by decide
    rw [path, getLast?_join _ (getLast?_append _ last)]
    decide
  · have last : "ot_server.der".toList.getLast? = some 'r' := by decide
    rw [path, getLast?_join _ last]
    decide

/-- With a chain of no blocks, its text is the file of the chain. -/
theorem read_caChain {source : TrustSource} {caChain : String}
    (isChain : valuestring? (item (trustMaterial source.trustDoc) "ca_chain_pem") = some caChain)
    (noBlocks : chainBlocks caChain.length caChain.toList = []) :
    (FileTree.written (applyTrustSource ssl target.config settings source).writes).read
      (FileTree.join target.config.issuerCerts "ca-chain.pem") = some (textBytes caChain) := by
  let path := FileTree.join target.config.issuerCerts "ca-chain.pem"
  have lastOf : path.toList.getLast? = some 'm' := getLast?_join _ (by decide)
  have others {back : FileWrites} (ends : ∀ file ∈ back, file.1.toList.getLast? ≠ some 'm') :
      (FileTree.written ((path, textBytes caChain) :: back)).read path =
        some (textBytes caChain) := by
    have first : (path, textBytes caChain) :: back = [] ++ (path, textBytes caChain) :: back := rfl
    rw [FileTree.written, first]
    apply FileTree.read_perform_last fun _ => rfl
    intro file member same
    exact ends file member (same ▸ lastOf)
  have chain : applyCaChain ssl target.config caChain = [(path, textBytes caChain)] := by
    rw [applyCaChain, noBlocks]
    rfl
  unfold applyTrustSource
  simp only [chainWrites, isChain, chain]
  split
  · exact others nofun
  · rename_i crls applied
    dsimp only
    rw [List.append_assoc, List.append_assoc, List.singleton_append]
    apply others
    intro file member
    rcases List.mem_append.mp member with inCrls | member
    · exact getLast?_of_mem_crls applied inCrls
    · rcases List.mem_append.mp member with inCerts | inOwn
      · exact getLast?_of_mem_certs inCerts
      · rw [path_of_mem_ownCertificateWrites inOwn]
        exact getLast?_certPath target

end Writes

/-! ## When an apply is authenticated -/

section Applies

variable {PrivateKey PublicKey : Type} {crypto : Crypto PrivateKey PublicKey} {ssl : OpenSsl}
  {target : GdsTarget} {settings : GdsSettings} {cache : TargetCache} {allowCertificate : Bool}

/-- Some chain text without blocks is not what was written. -/
theorem exists_other_chain (content : Option (List UInt8)) :
    ∃ caChain : String, CText.ofText caChain = caChain ∧
      chainBlocks caChain.length caChain.toList = [] ∧ content ≠ some (textBytes caChain) := by
  by_cases same : content = some (textBytes "a")
  · refine ⟨"b", by decide, by decide, ?_⟩
    rw [same]
    decide
  · exact ⟨"a", by decide, by decide, same⟩

variable (ssl) in
/-- The files of an accepted apply depend on its unsigned CA chain. -/
theorem not_determined {source : TrustSource}
    (accepted : acceptedSource target.config settings cache allowCertificate = some source) :
    ∃ other otherCache,
      acceptedSource target.config settings otherCache allowCertificate = some other ∧
        SameSigned source other ∧
        ¬ SameFiles
          (applyTrustOrCertificateOne ssl target.config settings cache allowCertificate).writes
          (applyTrustOrCertificateOne ssl target.config settings otherCache
            allowCertificate).writes := by
  obtain ⟨ownPki, enabled, found, passes⟩ := acceptedSource_eq_some.mp accepted
  obtain ⟨caChain, noNul, noBlocks, differs⟩ := exists_other_chain
    ((FileTree.written (applyTrustOrCertificateOne ssl target.config settings cache
      allowCertificate).writes).read (FileTree.join target.config.issuerCerts "ca-chain.pem"))
  obtain ⟨ownerDoc, otherFound⟩ := trustPayload_cacheWithCaChain found caChain
  have otherAccepted : acceptedSource target.config settings (cacheWithCaChain source caChain)
      allowCertificate = some ⟨withCaChain source.trustDoc caChain, ownerDoc⟩ :=
    acceptedSource_eq_some.mpr
      ⟨ownPki, enabled, otherFound, passesMetadata_withCaChain source.trustDoc caChain passes⟩
  refine ⟨_, _, otherAccepted, ⟨(artifact_withCaChain _ _).symm,
    (artifactSignature_withCaChain _ _).symm⟩, fun same => ?_⟩
  have isChain : valuestring? (item (trustMaterial (withCaChain source.trustDoc caChain))
      "ca_chain_pem") = some caChain := by
    rw [caChain_withCaChain, valuestring?, noNul]
  have written := same (FileTree.join target.config.issuerCerts "ca-chain.pem")
  have other : applyTrustOrCertificateOne ssl target.config settings
      (cacheWithCaChain source caChain) allowCertificate =
        applyTrustSource ssl target.config settings
          ⟨withCaChain source.trustDoc caChain, ownerDoc⟩ := by
    rw [applyTrustOrCertificateOne, otherAccepted]
  rw [other, read_caChain isChain noBlocks] at written
  exact differs written

end Applies

/-! A document with a signature that is none, applied under the default settings. -/

def defaultSettings : GdsSettings where
  runtimeWriteEnabled := true
  requireSignedArtifacts := true
  strictCrlFreshness := true
  requireRevocationLists := true
  trustAnchorFingerprint := some "key"

def forgedDocument (caChain : String) : Json :=
  .obj [("trust_material", .obj [
    ("ca_chain_pem", .str caChain),
    ("artifact", .obj [
      ("crl_bundle", .obj [("root_crl_base64", .str "AAAA"),
        ("intermediate_crl_base64", .str "AAAA")]),
      ("crl_metadata", .obj [("crl_freshness_verified", .bool true)])]),
    ("artifact_signature", .obj [("signature_base64", .str "AAAA"),
      ("signer", .obj [("fingerprint_sha256", .str "KEY")])])])]

def forgedCache (caChain : String) : TargetCache := fun leaf =>
  if leaf = "trust-material.json" then some (forgedDocument caChain) else none

def exampleSsl : OpenSsl where
  base64Decode := fun text => Base64.decode text.toList
  pemCertToDer := fun _ => none

theorem acceptedSource_forged :
    acceptedSource GdsTarget.dmzGatewayClient.config defaultSettings (forgedCache "first") false =
      some ⟨forgedDocument "first", none⟩ := by
  apply acceptedSource_eq_some.mpr
  refine ⟨rfl, rfl, rfl, ?_⟩
  apply validateSignedArtifactMetadata_eq_none.mp
  decide +kernel

end OpcuaGds.Gateway
