import OpcuaGds.Gateway.TrustApply

/-! # Where an apply writes

The writes of an apply, its receipt included, against the places that it may write to. File
names come from texts of the server; the private key of the target is none of the places.
-/

namespace OpcuaGds.Gateway

open FileTree (WriteEnd join)

/-! ## The private key and the receipt -/

/-- `key_path`; a remote peer has none. -/
def GdsTarget.keyPath : GdsTarget → Option String
  | .dmzGatewayClient => some "/app/pki/southbound/own/private/client.key.der"
  | .dmzGatewayServer => some "/app/pki/northbound/own/private/server.key.der"
  | .otServer => none

/-- What the receipt takes from OpenSSL and cJSON. -/
structure ReceiptTools where
  sha256Hex : List UInt8 → String
  printUnformatted : Json → String

/-- `cache_path`. -/
def TargetConfig.cachePath (config : TargetConfig) (cacheDir leaf : String) : String :=
  join (join cacheDir config.name) leaf

/-- `file_sha256_hex`, into a buffer that is empty before. -/
def fileSha256Hex (tools : ReceiptTools) (path : Option String) (tree : FileTree) : String :=
  ((path.bind fun path => tree.read path).map tools.sha256Hex).getD ""

/-- The receipt of an apply. -/
def applyReceipt (config : TargetConfig) (certificateMode : Bool) (keyBefore keyAfter : String) :
    Json :=
  .obj [("schema", .str "labshock_dmz_gateway_gds_apply_v1"), ("target", .str config.name),
    ("application_uri", .str config.applicationUri),
    ("apply_mode", .str (if certificateMode then "certificate_and_trust" else "trust_only")),
    ("runtime_mutation_performed", .bool true), ("runtime_restart_automatic", .bool false),
    ("own_certificate_touched", .bool certificateMode), ("private_key_touched", .bool false),
    ("private_key_sha256_unchanged", .bool (keyBefore != "" && keyBefore == keyAfter)),
    ("own_certificate_path", .str config.certPath)]

/-! ## The writes of an apply -/

section Course

variable (ssl : OpenSsl) (tools : ReceiptTools) (target : GdsTarget) (settings : GdsSettings)
  (cacheDir : String) (cache : TargetCache) (allowCertificate : Bool) (ends : Nat → WriteEnd)
  (before : FileTree)

/-- What is left of the files of the document. -/
def materialCourse : FileWrites :=
  FileTree.attempted ends 0
    (applyTrustOrCertificateOne ssl target.config settings cache allowCertificate).writes

/-- The receipt, over the files that the material leaves. -/
def receiptWrite : String × List UInt8 :=
  let certificateMode := (acceptedSource target.config settings cache allowCertificate).any
    fun source => source.ownerDoc.isSome
  let after := FileTree.writeAll
    (materialCourse ssl target settings cache allowCertificate ends) before
  (target.config.cachePath cacheDir "apply-receipt.json",
    textBytes (tools.printUnformatted (applyReceipt target.config certificateMode
      (fileSha256Hex tools target.keyPath before) (fileSha256Hex tools target.keyPath after))))

/-- What an apply leaves in the files that it opens: the material, and the receipt when it gets
so far. -/
def applyCourse : FileWrites :=
  let result := applyTrustOrCertificateOne ssl target.config settings cache allowCertificate
  materialCourse ssl target settings cache allowCertificate ends ++
    if result.succeeded then
      FileTree.attempted ends result.writes.length
        [receiptWrite ssl tools target settings cacheDir cache allowCertificate ends before]
    else []

/-- The files after an apply. -/
def applied : FileTree :=
  FileTree.writeAll
    (applyCourse ssl tools target settings cacheDir cache allowCertificate ends before) before

end Course

/-! ## The places -/

/-- Where an apply may write: a file of one of the four directories, the own certificate, the
receipt. A remote peer has no such place. -/
def MayWrite (target : GdsTarget) (cacheDir path : String) : Prop :=
  target.config.remotePeerReadOnly = false ∧
    ((∃ dir ∈ target.config.pkiDirs, ∃ name, FileTree.IsFileName name ∧ path = join dir name) ∨
      path = target.config.certPath ∨
      path = target.config.cachePath cacheDir "apply-receipt.json")

section Places

variable {target : GdsTarget} {cacheDir path keyPath : String}

theorem keyPath_apart (isKey : target.keyPath = some keyPath) :
    (∀ dir ∈ target.config.pkiDirs, ¬ dir.toList <+: keyPath.toList) ∧
      target.config.certPath ≠ keyPath ∧
      ∃ dir name, keyPath = join dir name ∧ '/' ∉ name.toList ∧ name ≠ "apply-receipt.json" := by
  cases target with
  | dmzGatewayClient =>
      cases isKey
      exact ⟨by decide +kernel, by decide, "/app/pki/southbound/own/private", "client.key.der",
        by decide, by decide, by decide⟩
  | dmzGatewayServer =>
      cases isKey
      exact ⟨by decide +kernel, by decide, "/app/pki/northbound/own/private", "server.key.der",
        by decide, by decide, by decide⟩
  | otServer => cases isKey

/-- The private key of a target is none of the places. -/
theorem MayWrite.ne_keyPath (mayWrite : MayWrite target cacheDir path)
    (isKey : target.keyPath = some keyPath) : keyPath ≠ path := by
  obtain ⟨inPki, notCertificate, dir, name, isPath, plain, notReceipt⟩ := keyPath_apart isKey
  rcases mayWrite.2 with ⟨pkiDir, member, other, -, rfl⟩ | rfl | rfl
  · rintro rfl
    apply inPki pkiDir member
    rw [join, String.append_assoc, String.toList_append]
    exact List.prefix_append _ _
  · exact notCertificate.symm
  · rw [isPath]
    exact FileTree.join_ne_of_name plain (by decide) notReceipt _ _

end Places

/-! ## Every write is in its place -/

section Confined

variable {ssl : OpenSsl} {tools : ReceiptTools} {target : GdsTarget} {settings : GdsSettings}
  {cacheDir : String} {cache : TargetCache} {allowCertificate : Bool} {ends : Nat → WriteEnd}
  {before : FileTree} {file : String × List UInt8}

/-- The files of the directories. -/
theorem mayWrite_join (isLocal : target.config.remotePeerReadOnly = false) {dir name : String}
    (inPki : dir ∈ target.config.pkiDirs) (isFile : FileTree.IsFileName name) :
    MayWrite target cacheDir (join dir name) :=
  ⟨isLocal, Or.inl ⟨dir, inPki, name, isFile, rfl⟩⟩

theorem mayWrite_of_mem_chain (isLocal : target.config.remotePeerReadOnly = false)
    {trustDoc : Json} (member : file ∈ chainWrites ssl target.config trustDoc) :
    MayWrite target cacheDir file.1 := by
  rcases path_of_mem_chainWrites member with ⟨name, isFile, path⟩ | ⟨name, known, path⟩
  · rw [path]
    exact mayWrite_join isLocal (by simp) isFile
  · rw [path]
    refine mayWrite_join isLocal (by simp) ?_
    simp only [List.mem_cons, List.not_mem_nil, or_false] at known
    rcases known with rfl | rfl
    · exact ⟨by decide, by decide⟩
    · exact ⟨by decide, by decide⟩

theorem mayWrite_of_mem_crls (isLocal : target.config.remotePeerReadOnly = false)
    {trustDoc : Json} {writes : FileWrites}
    (applied : applyCrls ssl target.config settings trustDoc = some writes)
    (member : file ∈ writes) : MayWrite target cacheDir file.1 := by
  obtain ⟨stem, isStem, ending, isEnding, path⟩ := path_of_mem_applyCrls applied member
  have stemPart : FileTree.IsNamePart stem :=
    (by decide : ∀ stem ∈ crlStems, FileTree.IsNamePart stem) stem isStem
  have endingPart : FileTree.IsNamePart ending ∧ 3 ≤ ending.length :=
    (by decide : ∀ ending ∈ [".crl", ".crl.b64"],
      FileTree.IsNamePart ending ∧ 3 ≤ ending.length) ending isEnding
  have isFile := FileTree.IsFileName.append stemPart endingPart.1 endingPart.2
  rcases path with path | path
  · rw [path]
    exact mayWrite_join isLocal (by simp) isFile
  · rw [path]
    exact mayWrite_join isLocal (by simp) isFile

theorem mayWrite_of_mem_certs (isLocal : target.config.remotePeerReadOnly = false) {count : Nat}
    {entries : List Json} (member : file ∈ applyTrustedCerts ssl target.config count entries) :
    MayWrite target cacheDir file.1 := by
  obtain ⟨cert, -, -, -, -, path⟩ := mem_applyTrustedCerts member
  have isFile : FileTree.IsFileName (certificateName cert ++ ".der") :=
    .append (sanitizeFilename_part _) (by decide) (by decide)
  rcases path with path | path
  · rw [path]
    exact mayWrite_join isLocal (by simp) isFile
  · rw [path]
    exact mayWrite_join isLocal (by simp) ⟨by decide, by decide⟩

/-- The files of a document are in their places. -/
theorem mayWrite_of_mem_source (isLocal : target.config.remotePeerReadOnly = false)
    {source : TrustSource}
    (member : file ∈ (applyTrustSource ssl target.config settings source).writes) :
    MayWrite target cacheDir file.1 := by
  unfold applyTrustSource at member
  dsimp only at member
  split at member
  case h_1 => exact mayWrite_of_mem_chain isLocal member
  case h_2 writes applied =>
    rcases List.mem_append.mp member with earlier | own
    · rcases List.mem_append.mp earlier with earliest | listed
      · rcases List.mem_append.mp earliest with chain | crl
        · exact mayWrite_of_mem_chain isLocal chain
        · exact mayWrite_of_mem_crls isLocal applied crl
      · exact mayWrite_of_mem_certs isLocal listed
    · exact ⟨isLocal, Or.inr (Or.inl (path_of_mem_ownCertificateWrites own))⟩

theorem mayWrite_of_mem_apply
    (member : file ∈
      (applyTrustOrCertificateOne ssl target.config settings cache allowCertificate).writes) :
    MayWrite target cacheDir file.1 := by
  unfold applyTrustOrCertificateOne at member
  split at member
  case h_1 => cases member
  case h_2 source accepted =>
    exact mayWrite_of_mem_source (acceptedSource_eq_some.mp accepted).1 member

/-- An apply of a remote peer does not succeed. -/
theorem isLocal_of_succeeded
    (succeeded : (applyTrustOrCertificateOne ssl target.config settings cache
      allowCertificate).succeeded = true) : target.config.remotePeerReadOnly = false := by
  unfold applyTrustOrCertificateOne at succeeded
  split at succeeded
  case h_1 => cases succeeded
  case h_2 source accepted => exact (acceptedSource_eq_some.mp accepted).1

theorem mayWrite_of_mem_material
    (member : file ∈ materialCourse ssl target settings cache allowCertificate ends) :
    MayWrite target cacheDir file.1 := by
  obtain ⟨write, written, path⟩ := FileTree.path_of_mem_attempted member
  rw [path]
  exact mayWrite_of_mem_apply written

theorem mayWrite_of_mem_course
    (member : file ∈ applyCourse ssl tools target settings cacheDir cache allowCertificate ends
      before) : MayWrite target cacheDir file.1 := by
  rcases List.mem_append.mp member with material | receipt
  · exact mayWrite_of_mem_material material
  · split at receipt
    case isTrue succeeded =>
      obtain ⟨write, written, path⟩ := FileTree.path_of_mem_attempted receipt
      cases List.mem_singleton.mp written
      exact ⟨isLocal_of_succeeded succeeded, Or.inr (Or.inr path)⟩
    case isFalse => cases receipt

/-- What an apply has no place for keeps its file. -/
theorem read_writeAll_of_places {writes : FileWrites} {path : String}
    (places : ∀ file ∈ writes, MayWrite target cacheDir file.1)
    (other : ∀ place, MayWrite target cacheDir place → path ≠ place) :
    (FileTree.writeAll writes before).read path = before.read path := by
  rw [FileTree.read_writeAll, FileTree.lastWritten_eq_none]
  · rfl
  · exact fun write member => other write.1 (places write member)

variable (ssl tools target settings cacheDir cache allowCertificate ends before)

/-- The receipt compares the hash of the key with itself: it reports the key as unchanged
whenever there is one to hash. -/
theorem receiptWrite_eq :
    receiptWrite ssl tools target settings cacheDir cache allowCertificate ends before =
      (target.config.cachePath cacheDir "apply-receipt.json",
        textBytes (tools.printUnformatted (applyReceipt target.config
          ((acceptedSource target.config settings cache allowCertificate).any
            fun source => source.ownerDoc.isSome)
          (fileSha256Hex tools target.keyPath before)
          (fileSha256Hex tools target.keyPath before)))) := by
  have places : ∀ file ∈ materialCourse ssl target settings cache allowCertificate ends,
      MayWrite target cacheDir file.1 := fun _ member => mayWrite_of_mem_material member
  have sameKey : fileSha256Hex tools target.keyPath (FileTree.writeAll
      (materialCourse ssl target settings cache allowCertificate ends) before) =
        fileSha256Hex tools target.keyPath before := by
    cases isKey : target.keyPath with
    | none => rfl
    | some keyPath =>
        rw [fileSha256Hex, fileSha256Hex, Option.bind_some, Option.bind_some,
          read_writeAll_of_places places fun _ mayWrite => mayWrite.ne_keyPath isKey]
  rw [receiptWrite, sameKey]

/-- Whatever the documents of the server and however its writes end, an apply writes to the
places of its target only, all other files stay as they are, and so does the private key. -/
theorem apply_writes_confined :
    (∀ file ∈ applyCourse ssl tools target settings cacheDir cache allowCertificate ends before,
      MayWrite target cacheDir file.1) ∧
    (∀ path, ¬ MayWrite target cacheDir path →
      (applied ssl tools target settings cacheDir cache allowCertificate ends before).read path =
        before.read path) ∧
    ∀ keyPath, target.keyPath = some keyPath →
      (applied ssl tools target settings cacheDir cache allowCertificate ends before).read keyPath =
        before.read keyPath := by
  have places : ∀ file ∈ applyCourse ssl tools target settings cacheDir cache allowCertificate
      ends before, MayWrite target cacheDir file.1 := fun _ member => mayWrite_of_mem_course member
  refine ⟨places, fun path outside => ?_, fun keyPath isKey => ?_⟩
  · exact read_writeAll_of_places places fun place mayWrite same => outside (same ▸ mayWrite)
  · exact read_writeAll_of_places places fun place mayWrite => mayWrite.ne_keyPath isKey

end Confined

end OpcuaGds.Gateway
