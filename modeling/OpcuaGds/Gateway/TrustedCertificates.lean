import OpcuaGds.Gateway.TrustApply

/-! # The trusted certificates after many applies

What stands in the directory that a gateway loads its trust list from, after any sequence
of applies: an apply adds and overwrites files, and none is ever removed.
-/

namespace OpcuaGds.Gateway

/-- One apply: the settings, the cache as it is then, the command, and which of its writes
the file system grants. -/
structure GatewayApply where
  settings : GdsSettings
  cache : TargetCache
  allowCertificate : Bool
  granted : Nat → Bool

section Runs

variable (ssl : OpenSsl) (target : GdsTarget)

def GatewayApply.result (apply : GatewayApply) : ApplyResult :=
  applyTrustOrCertificateOne ssl target.config apply.settings apply.cache apply.allowCertificate

def GatewayApply.perform (apply : GatewayApply) (tree : FileTree) : FileTree :=
  tree.perform apply.granted 0 (apply.result ssl target).writes

/-- The files after applies made one after the other. -/
def performApplies (applies : List GatewayApply) (tree : FileTree) : FileTree :=
  applies.foldl (fun tree apply => apply.perform ssl target tree) tree

/-- The entry is one of the applied document and holds a certificate that can be read. -/
def GatewayApply.ListsAs (apply : GatewayApply) (cert : Json) (der : List UInt8) : Prop :=
  ∃ source, acceptedSource target.config apply.settings apply.cache apply.allowCertificate =
      some source ∧
    cert ∈ certificateEntries source.trustDoc ∧
    ∃ pem, valuestring? (getObjectItem cert "pem") = some pem ∧ ssl.pemCertToDer pem = some der

/-- The bytes are those of a certificate that the applied document lists. -/
def GatewayApply.Lists (apply : GatewayApply) (der : List UInt8) : Prop :=
  ∃ cert, apply.ListsAs ssl target cert der

/-- The certificates that the applied document lists. -/
def GatewayApply.listed (apply : GatewayApply) : List (List UInt8) :=
  match acceptedSource target.config apply.settings apply.cache apply.allowCertificate with
  | none => []
  | some source => (certificateEntries source.trustDoc).filterMap fun cert =>
      (valuestring? (getObjectItem cert "pem")).bind ssl.pemCertToDer

theorem GatewayApply.lists_iff {apply : GatewayApply} {der : List UInt8} :
    apply.Lists ssl target der ↔ der ∈ apply.listed ssl target := by
  unfold Lists ListsAs listed
  cases acceptedSource target.config apply.settings apply.cache apply.allowCertificate with
  | none => simp
  | some source => simp [List.mem_filterMap, Option.bind_eq_some_iff]

instance (apply : GatewayApply) (der : List UInt8) : Decidable (apply.Lists ssl target der) :=
  decidable_of_iff _ (GatewayApply.lists_iff ssl target).symm

/-- The file names that belong to the CA certificates. -/
def isCaAlias (path : String) : Bool :=
  ["root_ca.der", "vault_intermediate.der"].contains (FileTree.nameOf path)

end Runs

/-! ## What one apply writes into the directory -/

section Runs

variable {ssl : OpenSsl} {target : GdsTarget} {apply : GatewayApply}

/-- A file in the directory of the trusted certificates. -/
def IsTrustedFile (target : GdsTarget) (path : String) : Prop :=
  path = FileTree.join target.config.trustedCerts (FileTree.nameOf path)

/-- A path in another directory is none of the directory. -/
theorem not_isTrustedFile {path dir : String} (inOther : ∃ name, path = FileTree.join dir name)
    (isLocal : target.config.remotePeerReadOnly = false) (inPki : dir ∈ target.config.pkiDirs)
    (isOther : dir ≠ target.config.trustedCerts) : ¬ IsTrustedFile target path := by
  obtain ⟨name, rfl⟩ := inOther
  exact join_ne_join isLocal inPki (by simp) isOther _ _

theorem isCaAlias_of_path {path name : String}
    (isName : name ∈ ["root_ca.der", "vault_intermediate.der"])
    (isPath : path = FileTree.join target.config.trustedCerts name) : isCaAlias path = true := by
  have plain : '/' ∉ name.toList := by
    simp only [List.mem_cons, List.not_mem_nil, or_false] at isName
    rcases isName with rfl | rfl <;> decide
  rw [isCaAlias, isPath, FileTree.nameOf_join plain, List.contains_iff_mem]
  exact isName

variable (ssl) in
/-- The writes for the peer certificates follow those of the chain and the CRLs. -/
theorem applyTrustSource_writes (settings : GdsSettings) (source : TrustSource)
    (isLocal : target.config.remotePeerReadOnly = false) :
    ∃ front, (∀ file ∈ front, IsTrustedFile target file.1 → isCaAlias file.1 = true) ∧
      ((applyTrustSource ssl target.config settings source).writes = front ∨
        (applyTrustSource ssl target.config settings source).writes =
          front ++ (applyTrustedCerts ssl target.config 0 (certificateEntries source.trustDoc) ++
            ownCertificateWrites ssl target.config source.ownerDoc)) ∧
      ((applyTrustSource ssl target.config settings source).succeeded = true →
        (applyTrustSource ssl target.config settings source).writes =
          front ++ (applyTrustedCerts ssl target.config 0 (certificateEntries source.trustDoc) ++
            ownCertificateWrites ssl target.config source.ownerDoc)) := by
  obtain ⟨certsApart, crlsApart⟩ := pkiDirs_distinct isLocal
  have inChain : ∀ file ∈ chainWrites ssl target.config source.trustDoc,
      IsTrustedFile target file.1 → isCaAlias file.1 = true := by
    intro file member inDir
    rcases path_of_mem_chainWrites member with ⟨_, _, path⟩ | ⟨name, isName, isPath⟩
    · exact absurd inDir (not_isTrustedFile ⟨_, path⟩ isLocal (by simp) certsApart)
    · exact isCaAlias_of_path isName isPath
  unfold applyTrustSource
  cases crls : applyCrls ssl target.config settings source.trustDoc with
  | none => exact ⟨_, inChain, Or.inl rfl, nofun⟩
  | some writes =>
      refine ⟨chainWrites ssl target.config source.trustDoc ++ writes, ?_, Or.inr ?_, fun _ => ?_⟩
      · intro file member inDir
        rcases List.mem_append.mp member with chain | crl
        · exact inChain file chain inDir
        · obtain ⟨stem, _, ending, _, path | path⟩ := path_of_mem_applyCrls crls crl
          · exact absurd inDir (not_isTrustedFile ⟨_, path⟩ isLocal (by simp)
              (crlsApart _ (by simp)).2.2)
          · exact absurd inDir (not_isTrustedFile ⟨_, path⟩ isLocal (by simp)
              (crlsApart _ (by simp)).2.2)
      · exact List.append_assoc _ _ _
      · exact List.append_assoc _ _ _

/-- A file of the peer certificates, or the own certificate, that stands in the directory is a
listed certificate. -/
theorem lists_of_mem_peers {source : TrustSource}
    (accepted : acceptedSource target.config apply.settings apply.cache apply.allowCertificate =
      some source) {file : String × List UInt8}
    (member : file ∈ applyTrustedCerts ssl target.config 0 (certificateEntries source.trustDoc) ++
      ownCertificateWrites ssl target.config source.ownerDoc)
    {name : String} (inDir : file.1 = FileTree.join target.config.trustedCerts name) :
    apply.Lists ssl target file.2 := by
  have isLocal := (acceptedSource_eq_some.mp accepted).1
  rcases List.mem_append.mp member with listed | own
  · obtain ⟨cert, inEntries, pem, hasPem, read, _⟩ := mem_applyTrustedCerts listed
    exact ⟨cert, source, accepted, inEntries, pem, hasPem, read⟩
  · rw [path_of_mem_ownCertificateWrites own] at inDir
    exact absurd inDir (certPath_ne_join_pkiDirs isLocal (by simp) name)

/-- Everything that an apply puts into the directory, save the CA aliases, is a certificate
that its document lists. -/
theorem lists_of_mem_writes {file : String × List UInt8}
    (member : file ∈ (apply.result ssl target).writes) (inDir : IsTrustedFile target file.1)
    (notAlias : isCaAlias file.1 = false) : apply.Lists ssl target file.2 := by
  unfold GatewayApply.result applyTrustOrCertificateOne at member
  split at member
  · cases member
  · rename_i source accepted
    have isLocal := (acceptedSource_eq_some.mp accepted).1
    obtain ⟨front, aliases, writes, _⟩ :=
      applyTrustSource_writes ssl apply.settings source isLocal
    have inFront (early : file ∈ front) : apply.Lists ssl target file.2 :=
      absurd (aliases file early inDir) (Bool.eq_false_iff.mp notAlias)
    rcases writes with same | same
    · exact inFront (same ▸ member)
    · rw [same] at member
      rcases List.mem_append.mp member with early | peers
      · exact inFront early
      · exact lists_of_mem_peers accepted peers inDir

/-! ## Any number of applies -/

/-- A file of the directory was there from the start or was listed by one of the applies. -/
theorem mem_performApplies {applies : List GatewayApply} {tree : FileTree}
    {file : String × List UInt8} (member : file ∈ performApplies ssl target applies tree)
    (inDir : IsTrustedFile target file.1) (notAlias : isCaAlias file.1 = false) :
    file ∈ tree ∨ ∃ apply ∈ applies, apply.Lists ssl target file.2 := by
  induction applies generalizing tree with
  | nil => exact Or.inl member
  | cons apply rest ih =>
      rcases ih member with before | ⟨later, inRest, lists⟩
      · rcases FileTree.mem_perform before with start | written
        · exact Or.inl start
        · exact Or.inr ⟨apply, List.mem_cons_self, lists_of_mem_writes written inDir notAlias⟩
      · exact Or.inr ⟨later, List.mem_cons_of_mem _ inRest, lists⟩

theorem performApplies_concat (earlier : List GatewayApply) (last : GatewayApply)
    (tree : FileTree) :
    performApplies ssl target (earlier ++ [last]) tree =
      last.perform ssl target (performApplies ssl target earlier tree) := by
  rw [performApplies, List.foldl_append]
  rfl

variable (target) in
/-- An entry that can be read is written under its name. -/
theorem mem_applyTrustedCerts_of_entry {cert : Json} {pem : String} {der : List UInt8}
    (hasPem : valuestring? (getObjectItem cert "pem") = some pem)
    (read : ssl.pemCertToDer pem = some der) {entries : List Json} (listed : cert ∈ entries)
    (count : Nat) :
    (FileTree.join target.config.trustedCerts (certificateName cert ++ ".der"), der) ∈
      applyTrustedCerts ssl target.config count entries := by
  induction entries generalizing count with
  | nil => cases listed
  | cons first rest ih =>
      rw [applyTrustedCerts]
      rcases List.mem_cons.mp listed with rfl | later
      · rw [hasPem]
        apply List.mem_append_left
        apply List.mem_append_left
        rw [writePemCertDer, read]
        exact List.mem_singleton_self _
      · split
        · exact ih later count
        · exact List.mem_append_right _ (ih later (count + 1))

/-- After a successful apply whose writes are granted, the file of every listed entry holds a
certificate that the document lists. -/
theorem exists_read_of_listsAs {tree : FileTree}
    (succeeded : (apply.result ssl target).succeeded = true)
    (granted : ∀ i, apply.granted i = true) {cert : Json} {der : List UInt8}
    (lists : apply.ListsAs ssl target cert der) :
    ∃ content, (apply.perform ssl target tree).read
        (FileTree.join target.config.trustedCerts (certificateName cert ++ ".der")) =
          some content ∧ apply.Lists ssl target content := by
  obtain ⟨source, accepted, inEntries, pem, hasPem, read⟩ := lists
  have isLocal := (acceptedSource_eq_some.mp accepted).1
  have result : apply.result ssl target =
      applyTrustSource ssl target.config apply.settings source := by
    rw [GatewayApply.result, applyTrustOrCertificateOne, accepted]
  obtain ⟨front, _, _, writes⟩ := applyTrustSource_writes ssl apply.settings source isLocal
  rw [result] at succeeded
  have entry := mem_applyTrustedCerts_of_entry target hasPem read inEntries 0
  obtain ⟨content, written, found⟩ := FileTree.exists_read_perform granted
    (List.mem_append_left (ownCertificateWrites ssl target.config source.ownerDoc) entry)
  refine ⟨content, ?_, lists_of_mem_peers accepted written rfl⟩
  rw [GatewayApply.perform, result, writes succeeded, FileTree.perform_append]
  exact found

/-- The trusted certificates after any applies to one target, the last of which succeeded:
each file that is no CA alias was there at the start or holds a certificate that one of the
applies lists; no file that was there before the last apply is gone, and one that it does not
write is as it was; and what it lists is there, when its writes are granted. -/
theorem trusted_certificates_after_applies (ssl : OpenSsl) (target : GdsTarget)
    (start : FileTree) (earlier : List GatewayApply) (last : GatewayApply)
    (succeeded : (last.result ssl target).succeeded = true) :
    let before := performApplies ssl target earlier start
    let after := performApplies ssl target (earlier ++ [last]) start
    (∀ file ∈ after.filesIn target.config.trustedCerts, isCaAlias file.1 = false →
        file ∈ start ∨ ∃ apply ∈ earlier ++ [last], apply.Lists ssl target file.2) ∧
      (∀ path, (before.read path).isSome = true → (after.read path).isSome = true) ∧
      (∀ path, (∀ write ∈ (last.result ssl target).writes, path ≠ write.1) →
        after.read path = before.read path) ∧
      ((∀ i, last.granted i = true) → ∀ cert der, last.ListsAs ssl target cert der →
        ∃ content, after.read
            (FileTree.join target.config.trustedCerts (certificateName cert ++ ".der")) =
              some content ∧ last.Lists ssl target content) := by
  dsimp only
  refine ⟨?listed, ?kept, ?unwritten, ?present⟩
  case listed =>
    intro file member notAlias
    obtain ⟨inTree, inDir⟩ := FileTree.mem_filesIn.mp member
    exact mem_performApplies inTree inDir notAlias
  case kept =>
    intro path present
    rw [performApplies_concat]
    exact FileTree.isSome_read_perform present
  case unwritten =>
    intro path others
    rw [performApplies_concat]
    exact FileTree.read_perform_of_ne others
  case present =>
    intro granted cert der lists
    rw [performApplies_concat]
    exact exists_read_of_listsAs succeeded granted lists

end Runs

/-! A gateway that applies a trust list with two peers, and then one without the second. -/

/-- Every text is a certificate with its characters as DER form. -/
def peerSsl : OpenSsl where
  base64Decode := fun _ => none
  pemCertToDer := fun pem => some (textBytes pem)

def peerEntry (peer : String) : Json :=
  .obj [("application_uri", .str peer), ("pem", .str peer)]

def peerApply (peers : List String) : GatewayApply where
  settings := {
    runtimeWriteEnabled := true
    requireSignedArtifacts := true
    strictCrlFreshness := true
    requireRevocationLists := true
    trustAnchorFingerprint := none }
  cache := fun leaf =>
    if leaf = "trust-material.json" then
      some (.obj [("trust_material", .obj [
        ("certificates", .arr (peers.map peerEntry)),
        ("artifact", .obj [
          ("crl_bundle", .obj [("root_crl_base64", .str "AAAA"),
            ("intermediate_crl_base64", .str "AAAA")]),
          ("crl_metadata", .obj [("crl_freshness_verified", .bool true)])]),
        ("artifact_signature", .obj [("signature_base64", .str "AAAA"),
          ("signer", .obj [("fingerprint_sha256", .str "key")])])])])
    else none
  allowCertificate := false
  granted := fun _ => true

theorem peer_apply_succeeded :
    ((peerApply ["urn:a"]).result peerSsl .dmzGatewayServer).succeeded = true := by
  decide +kernel

/-- The second apply leaves in the directory what the two trust lists hold. -/
theorem peer_files_listed :
    ((peerApply ["urn:a"]).result peerSsl .dmzGatewayServer).succeeded = true ∧
      ∀ file ∈ (performApplies peerSsl .dmzGatewayServer
          ([peerApply ["urn:a", "urn:b"]] ++ [peerApply ["urn:a"]]) []).filesIn
            GdsTarget.dmzGatewayServer.config.trustedCerts,
        isCaAlias file.1 = false →
          file ∈ ([] : FileTree) ∨
            ∃ apply ∈ [peerApply ["urn:a", "urn:b"]] ++ [peerApply ["urn:a"]],
              apply.Lists peerSsl .dmzGatewayServer file.2 :=
  ⟨peer_apply_succeeded,
    (trusted_certificates_after_applies peerSsl .dmzGatewayServer []
      [peerApply ["urn:a", "urn:b"]] (peerApply ["urn:a"]) peer_apply_succeeded).1⟩

/-- The peer that the second trust list lacks is still in the directory and loaded from it. -/
theorem removed_certificate_stays :
    let after := performApplies peerSsl .dmzGatewayServer
      [peerApply ["urn:a", "urn:b"], peerApply ["urn:a"]] []
    ((peerApply ["urn:a"]).result peerSsl .dmzGatewayServer).succeeded = true ∧
      ¬ (∀ file ∈ after.filesIn GdsTarget.dmzGatewayServer.config.trustedCerts,
        isCaAlias file.1 = false →
          (peerApply ["urn:a"]).Lists peerSsl .dmzGatewayServer file.2) ∧
      textBytes "urn:b" ∈
        loadTrustListFromDir GdsTarget.dmzGatewayServer.config.trustedCerts after := by
  decide +kernel

end OpcuaGds.Gateway
