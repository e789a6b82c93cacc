import OpcuaGds.Foundation.FailedWrites
import OpcuaGds.Gateway.TrustApply
import Mathlib.Data.List.Flatten

/-! # Whether an apply is atomic and complete

An apply writes the CA chain before it looks at the revocation lists, skips what it cannot
decode and looks at no outcome of a write. What has to hold of the document and of the
writes for its result to be true of the files.
-/

namespace OpcuaGds.Gateway

open FileTree (WriteEnd attempted lastWritten writeAll SameFiles join)

section Applies

variable (ssl : OpenSsl) (config : TargetConfig) (settings : GdsSettings)

/-! ## The files of a document -/

/-- A file with the bytes that a text of the document decodes to, if it can be decoded. -/
abbrev ExpectedFile := String × Option (List UInt8)

/-- The file name of a numbered certificate of the chain. -/
def numberedName (index : Nat) : String := "ca-chain-" ++ toString index ++ ".der"

/-- The certificates of the chain under their numbers. -/
def blockFiles : Nat → List (List Char) → List ExpectedFile
  | _, [] => []
  | index, block :: rest =>
      (join config.issuerCerts (numberedName index),
          ssl.pemCertToDer (String.ofList (block ++ ['\n']))) :: blockFiles (index + 1) rest

/-- The CA chain as text and certificate by certificate. -/
def chainFiles (trustDoc : Json) : List ExpectedFile :=
  match valuestring? (item (trustMaterial trustDoc) "ca_chain_pem") with
  | none => []
  | some caChain =>
      (join config.issuerCerts "ca-chain.pem", some (textBytes caChain)) ::
        blockFiles ssl config 1 (chainBlocks caChain.length caChain.toList)

/-- A file of both CRL directories. -/
def crlFilePair (name : String) (content : Option (List UInt8)) : List ExpectedFile :=
  [(join config.issuerCrl name, content), (join config.trustedCrl name, content)]

/-- The CRLs of a document by alias. -/
def documentCrls (trustDoc : Json) : List (String × String) :=
  let named (crlAlias : String) (crl : Option Json) :=
    ((valuestring? crl).map fun text => (crlAlias, text)).toList
  match crlBundle trustDoc with
  | some (.obj fields) =>
      named "root_ca" (getObjectItem (.obj fields) "root_crl_base64") ++
        named "vault_intermediate" (getObjectItem (.obj fields) "intermediate_crl_base64")
  | _ => named "vault_intermediate" (item (trustMaterial trustDoc) "crl_base64")

/-- The files of a CRL: its text, its bytes, and those of the intermediate once more. -/
def crlFiles (crl : String × String) : List ExpectedFile :=
  crlFilePair config (crl.1 ++ ".crl.b64") (some (textBytes crl.2)) ++
    crlFilePair config (crl.1 ++ ".crl") (ssl.base64Decode crl.2) ++
    if crl.1 = "vault_intermediate" then
      crlFilePair config "current.crl" (ssl.base64Decode crl.2)
    else []

/-- The file of a trusted certificate. -/
def certificateFile (cert : Json) : Option ExpectedFile :=
  (valuestring? (getObjectItem cert "pem")).map fun pem =>
    (join config.trustedCerts (certificateName cert ++ ".der"), ssl.pemCertToDer pem)

/-- The CA chain, the CRLs and every trusted certificate of a document. -/
def documentFiles (trustDoc : Json) : List ExpectedFile :=
  chainFiles ssl config trustDoc ++ (documentCrls trustDoc).flatMap (crlFiles ssl config) ++
    (certificateEntries trustDoc).filterMap (certificateFile ssl config)

/-! ## What an apply promises -/

/-- The files after an apply whose writes end in the given ways. -/
def applyFiles (cache : TargetCache) (allowCertificate : Bool) (ends : Nat → WriteEnd)
    (tree : FileTree) : FileTree :=
  writeAll (attempted ends 0
    (applyTrustOrCertificateOne ssl config settings cache allowCertificate).writes) tree

/-- An apply that returns 0 has changed no file, and one that returns 1 has put every file
of its document on disk. -/
structure ApplyAtomic (cache : TargetCache) (allowCertificate : Bool) (ends : Nat → WriteEnd)
    (tree : FileTree) : Prop where
  unchanged :
    (applyTrustOrCertificateOne ssl config settings cache allowCertificate).succeeded = false →
      SameFiles (applyFiles ssl config settings cache allowCertificate ends tree) tree
  complete :
    (applyTrustOrCertificateOne ssl config settings cache allowCertificate).succeeded = true →
      ∀ source, acceptedSource config settings cache allowCertificate = some source →
        ∀ file ∈ documentFiles ssl config source.trustDoc, ∃ content, file.2 = some content ∧
          (applyFiles ssl config settings cache allowCertificate ends tree).read file.1 =
            some content

/-! ## When it keeps the promise -/

/-- The revocation lists are required, and the document does not carry both as texts. -/
def RevocationListsMissing (trustDoc : Json) : Prop :=
  settings.requireRevocationLists = true ∧
    ¬ ∃ fields, crlBundle trustDoc = some (.obj fields) ∧
      (valuestring? (getObjectItem (.obj fields) "root_crl_base64")).isSome = true ∧
      (valuestring? (getObjectItem (.obj fields) "intermediate_crl_base64")).isSome = true

/-- The writes leave the file with the content: the last of them that was not refused does,
or all were refused and the file has it already. -/
def Lands (writes : FileWrites) (tree : FileTree) (path : String) (content : List UInt8) : Prop :=
  lastWritten writes path = some content ∨
    lastWritten writes path = none ∧ tree.read path = some content

/-- Nothing that the writes leave differs from what the file held. -/
def Harmless (writes : FileWrites) (tree : FileTree) : Prop :=
  ∀ path content, lastWritten writes path = some content → tree.read path = some content

/-- Every text of the document that stands for bytes can be decoded. -/
def Decodes (trustDoc : Json) : Prop :=
  ∀ file ∈ documentFiles ssl config trustDoc, file.2.isSome = true

/-- The writes of an apply that gets past the revocation lists. -/
def documentWrites (source : TrustSource) : FileWrites :=
  chainWrites ssl config source.trustDoc ++
    (documentCrls source.trustDoc).flatMap (fun crl => applyCrlAlias ssl config crl.1 crl.2) ++
    applyTrustedCerts ssl config 0 (certificateEntries source.trustDoc) ++
    ownCertificateWrites ssl config source.ownerDoc

/-- Where the revocation lists are missing, no CA file gets new content; else every text
decodes and the writes leave every file of the document with its content. -/
structure ApplyHolds (source : TrustSource) (ends : Nat → WriteEnd) (tree : FileTree) : Prop where
  missing : RevocationListsMissing settings source.trustDoc →
    Harmless (attempted ends 0 (chainWrites ssl config source.trustDoc)) tree
  decodes : ¬ RevocationListsMissing settings source.trustDoc →
    Decodes ssl config source.trustDoc
  lands : ¬ RevocationListsMissing settings source.trustDoc →
    ∀ file ∈ documentFiles ssl config source.trustDoc, ∀ content, file.2 = some content →
      Lands (attempted ends 0 (documentWrites ssl config source)) tree file.1 content

variable {ssl config settings}

theorem harmless_iff {writes : FileWrites} {tree : FileTree} :
    Harmless writes tree ↔ SameFiles (writeAll writes tree) tree := by
  constructor
  · intro harmless path
    rw [FileTree.read_writeAll]
    cases last : lastWritten writes path with
    | none => rfl
    | some content => exact (harmless path content last).symm
  · intro same path content last
    rw [← same path, FileTree.read_writeAll, last]
    rfl

theorem lands_iff {writes : FileWrites} {tree : FileTree} {path : String}
    {content : List UInt8} :
    Lands writes tree path content ↔ (writeAll writes tree).read path = some content := by
  rw [Lands, FileTree.read_writeAll]
  cases lastWritten writes path with
  | none => simp
  | some last => simp

/-- The CRL of an item is written as those that the document lists. -/
theorem applyCrlItem_eq (crlAlias : String) (crl : Option Json) :
    applyCrlItem ssl config crlAlias crl =
      ((valuestring? crl).map fun text => (crlAlias, text)).toList.flatMap
        fun crl => applyCrlAlias ssl config crl.1 crl.2 := by
  unfold applyCrlItem
  cases valuestring? crl with
  | none => rfl
  | some text => exact (List.append_nil _).symm

/-- The CRL part fails exactly where the revocation lists are missing. -/
theorem applyCrls_of_missing {trustDoc : Json}
    (missing : RevocationListsMissing settings trustDoc) :
    applyCrls ssl config settings trustDoc = none := by
  obtain ⟨required, lacking⟩ := missing
  unfold applyCrls
  split
  · rename_i fields bundle
    refine if_pos ⟨required, ?_⟩
    by_contra both
    simp only [not_or, Bool.not_eq_true, Option.isNone_eq_false_iff] at both
    exact lacking ⟨fields, bundle, both⟩
  · exact if_pos required

theorem applyCrls_of_present {trustDoc : Json}
    (present : ¬ RevocationListsMissing settings trustDoc) :
    applyCrls ssl config settings trustDoc = some ((documentCrls trustDoc).flatMap
      fun crl => applyCrlAlias ssl config crl.1 crl.2) := by
  unfold applyCrls
  split
  · rename_i fields bundle
    have passes : ¬ (settings.requireRevocationLists = true ∧
        ((valuestring? (getObjectItem (.obj fields) "root_crl_base64")).isNone = true ∨
          (valuestring?
            (getObjectItem (.obj fields) "intermediate_crl_base64")).isNone = true)) := by
      rintro ⟨required, lacking⟩
      refine present ⟨required, ?_⟩
      rintro ⟨others, same, root, intermediate⟩
      rw [bundle] at same
      cases same
      rcases lacking with lacking | lacking
      · rw [Option.isNone_iff_eq_none.mp lacking] at root
        cases root
      · rw [Option.isNone_iff_eq_none.mp lacking] at intermediate
        cases intermediate
    simp only [if_neg passes, applyCrlItem_eq, documentCrls, bundle, List.flatMap_append]
  · rename_i noBundle
    have optional : ¬ settings.requireRevocationLists = true := by
      intro required
      refine present ⟨required, ?_⟩
      rintro ⟨fields, bundle, _⟩
      exact noBundle fields bundle
    simp only [if_neg optional, applyCrlItem_eq, documentCrls]

variable {cache : TargetCache} {allowCertificate : Bool} {ends : Nat → WriteEnd}
  {tree : FileTree} {source : TrustSource}

variable (ssl) in
/-- An apply that fails after the metadata check has written the chain. -/
theorem apply_of_missing
    (accepted : acceptedSource config settings cache allowCertificate = some source)
    (missing : RevocationListsMissing settings source.trustDoc) :
    applyTrustOrCertificateOne ssl config settings cache allowCertificate =
      ⟨chainWrites ssl config source.trustDoc, false⟩ := by
  simp only [applyTrustOrCertificateOne, accepted, applyTrustSource,
    applyCrls_of_missing missing]

variable (ssl) in
theorem apply_of_present
    (accepted : acceptedSource config settings cache allowCertificate = some source)
    (present : ¬ RevocationListsMissing settings source.trustDoc) :
    applyTrustOrCertificateOne ssl config settings cache allowCertificate =
      ⟨documentWrites ssl config source, true⟩ := by
  simp only [applyTrustOrCertificateOne, accepted, applyTrustSource,
    applyCrls_of_present present]
  rfl

end Applies

/-- Whatever the writes come to. -/
theorem applyAtomic_iff_holds (ssl : OpenSsl) (config : TargetConfig) (settings : GdsSettings)
    (cache : TargetCache) (allowCertificate : Bool) (ends : Nat → WriteEnd) (tree : FileTree) :
    ApplyAtomic ssl config settings cache allowCertificate ends tree ↔
      ∀ source, acceptedSource config settings cache allowCertificate = some source →
        ApplyHolds ssl config settings source ends tree := by
  cases accepted : acceptedSource config settings cache allowCertificate with
  | none =>
      have nothing : applyTrustOrCertificateOne ssl config settings cache allowCertificate =
          ⟨[], false⟩ := by
        rw [applyTrustOrCertificateOne, accepted]
      refine iff_of_true ⟨fun _ => ?_, fun succeeded => ?_⟩ nofun
      · rw [applyFiles, nothing]
        exact SameFiles.refl tree
      · rw [nothing] at succeeded
        cases succeeded
  | some source =>
      by_cases missing : RevocationListsMissing settings source.trustDoc
      · have result := apply_of_missing ssl accepted missing
        constructor
        · rintro ⟨unchanged, _⟩ other ⟨⟩
          refine ⟨fun _ => ?_, fun present => absurd missing present,
            fun present => absurd missing present⟩
          have same := unchanged (by rw [result])
          rwa [applyFiles, result, ← harmless_iff] at same
        · intro holds
          refine ⟨fun _ => ?_, fun succeeded => ?_⟩
          · rw [applyFiles, result]
            exact harmless_iff.mp ((holds source rfl).missing missing)
          · rw [result] at succeeded
            cases succeeded
      · have result := apply_of_present ssl accepted missing
        constructor
        · rintro ⟨_, complete⟩ other ⟨⟩
          have files := complete (by rw [result]) source accepted
          rw [applyFiles, result] at files
          refine ⟨fun absent => absurd absent missing, fun _ file member => ?_,
            fun _ file member content expected => ?_⟩
          · obtain ⟨content, expected, _⟩ := files file member
            rw [expected]
            rfl
          · obtain ⟨found, same, read⟩ := files file member
            rw [expected, Option.some.injEq] at same
            exact lands_iff.mpr (same ▸ read)
        · intro holds
          refine ⟨fun failed => ?_, fun _ other same file member => ?_⟩
          · rw [result] at failed
            cases failed
          · rw [accepted, Option.some.injEq] at same
            subst same
            obtain ⟨content, expected⟩ :=
              Option.isSome_iff_exists.mp ((holds source rfl).decodes missing file member)
            rw [applyFiles, result]
            exact ⟨content, expected,
              lands_iff.mp ((holds source rfl).lands missing file member content expected)⟩

/-! ## When no write fails -/

/-- Entries that share a file carry one certificate. -/
def NamesAgree (ssl : OpenSsl) (trustDoc : Json) : Prop :=
  ∀ cert ∈ certificateEntries trustDoc, ∀ other ∈ certificateEntries trustDoc,
    certificateName cert = certificateName other →
      ∀ pem, valuestring? (getObjectItem cert "pem") = some pem →
        ∀ otherPem, valuestring? (getObjectItem other "pem") = some otherPem →
          ssl.pemCertToDer pem = ssl.pemCertToDer otherPem

/-- The writes of files whose content is known. -/
def plannedWrites (files : List ExpectedFile) : FileWrites :=
  files.filterMap fun file => file.2.map fun content => (file.1, content)

theorem mem_plannedWrites {files : List ExpectedFile} {write : String × List UInt8} :
    write ∈ plannedWrites files ↔ (write.1, some write.2) ∈ files := by
  simp only [plannedWrites, List.mem_filterMap, Option.map_eq_some_iff]
  constructor
  · rintro ⟨⟨path, expected⟩, member, content, known, rfl⟩
    cases known
    exact member
  · intro member
    exact ⟨_, member, write.2, rfl, rfl⟩

/-- Files of different paths are written with their content. -/
theorem lastWritten_plannedWrites {files : List ExpectedFile}
    (distinct : (files.map Prod.fst).Nodup) {file : ExpectedFile} (member : file ∈ files) :
    lastWritten (plannedWrites files) file.1 = file.2 := by
  have unique : ∀ content, (file.1, some content) ∈ files → file.2 = some content := by
    intro content other
    have same := List.inj_on_of_nodup_map distinct member other rfl
    rw [same]
  cases last : lastWritten (plannedWrites files) file.1 with
  | some content =>
      exact (unique content (mem_plannedWrites.mp (FileTree.mem_of_lastWritten last))).symm
  | none =>
      cases expected : file.2 with
      | none => rfl
      | some content =>
          have written : (file.1, content) ∈ plannedWrites files :=
            mem_plannedWrites.mpr (expected ▸ member)
          obtain ⟨_, found⟩ := FileTree.exists_lastWritten written
          rw [last] at found
          cases found

section Done

variable {ssl : OpenSsl} {target : GdsTarget}

theorem lastWritten_writePemCertDer (path pem : String) :
    lastWritten (writePemCertDer ssl path pem) path = ssl.pemCertToDer pem := by
  unfold writePemCertDer
  split
  · rename_i der read
    rw [read, FileTree.lastWritten_cons, if_pos rfl]
    rfl
  · rename_i unread
    rw [unread]
    rfl

theorem lastWritten_writePemCertDer_of_ne {path other : String} (distinct : other ≠ path)
    (pem : String) : lastWritten (writePemCertDer ssl path pem) other = none :=
  FileTree.lastWritten_eq_none fun _ member => by
    rw [(path_of_mem_writePemCertDer member).1]
    exact distinct

theorem numberedName_inj {first second : Nat} (same : numberedName first = numberedName second) :
    first = second := by
  have digits : toString first = toString second :=
    (String.append_right_inj _).mp ((String.append_left_inj _).mp same)
  exact natRepr_inj digits

theorem numberedName_ne (index : Nat) : numberedName index ≠ "ca-chain.pem" := by
  intro same
  have chars := congrArg (fun name => name.toList[8]?) same
  simp [numberedName] at chars

theorem blockFiles_path {index : Nat} {blocks : List (List Char)} {file : ExpectedFile}
    (member : file ∈ blockFiles ssl target.config index blocks) :
    ∃ number, index ≤ number ∧ file.1 = join target.config.issuerCerts (numberedName number) := by
  induction blocks generalizing index with
  | nil => cases member
  | cons block rest ih =>
      rcases List.mem_cons.mp member with rfl | later
      · exact ⟨index, le_rfl, rfl⟩
      · obtain ⟨number, above, path⟩ := ih later
        exact ⟨number, Nat.le_of_succ_le above, path⟩

/-- The numbered certificates are those of the blocks from the index on. -/
theorem chainBlockWrites_path {index : Nat} {blocks : List (List Char)}
    {write : String × List UInt8}
    (member : write ∈ chainBlockWrites ssl target.config index blocks) :
    (∃ number, index ≤ number ∧
      write.1 = join target.config.issuerCerts (numberedName number)) ∨
      ∃ name, write.1 = join target.config.trustedCerts name := by
  obtain ⟨number, above, numbered | aliased⟩ := number_of_mem_chainBlockWrites member
  · exact Or.inl ⟨number, above, numbered⟩
  · exact Or.inr ⟨_, aliased⟩

variable (isLocal : target.config.remotePeerReadOnly = false)
include isLocal

/-- The files of the chain in the trusted directory are none of the issuer's. -/
theorem issuer_ne_trusted (name other : String) :
    join target.config.issuerCerts name ≠ join target.config.trustedCerts other :=
  join_ne_join isLocal (by simp) (by simp)
    (pkiDirs_distinct isLocal).1 _ _

/-- Each certificate of the chain is written to its numbered file once. -/
theorem lastWritten_chainBlockWrites {index : Nat} {blocks : List (List Char)}
    {file : ExpectedFile} (member : file ∈ blockFiles ssl target.config index blocks) :
    lastWritten (chainBlockWrites ssl target.config index blocks) file.1 = file.2 := by
  induction blocks generalizing index with
  | nil => cases member
  | cons block rest ih =>
      obtain ⟨number, above, path⟩ := blockFiles_path member
      rw [chainBlockWrites, FileTree.lastWritten_append, FileTree.lastWritten_append]
      have noAlias (name pem : String) :
          lastWritten (if target.config.isSouthbound then
            writePemCertDer ssl (join target.config.trustedCerts name) pem else []) file.1 =
              none := by
        split
        · rw [path]
          exact lastWritten_writePemCertDer_of_ne (issuer_ne_trusted isLocal _ name) pem
        · rfl
      rw [noAlias, Option.none_or]
      rcases List.mem_cons.mp member with here | later
      · have others : lastWritten (chainBlockWrites ssl target.config (index + 1) rest)
            file.1 = none := by
          apply FileTree.lastWritten_eq_none
          intro write written same
          rw [here] at same
          rcases chainBlockWrites_path written with ⟨next, beyond, nextPath⟩ | ⟨name, trusted⟩
          · rw [nextPath, FileTree.join_right_inj] at same
            have := numberedName_inj same
            omega
          · exact issuer_ne_trusted isLocal _ name (same.trans trusted)
        rw [others, Option.none_or, here]
        exact lastWritten_writePemCertDer _ _
      · obtain ⟨next, beyond, nextPath⟩ := blockFiles_path later
        have others (pem : String) : lastWritten (writePemCertDer ssl
            (join target.config.issuerCerts (numberedName index)) pem) file.1 = none := by
          apply lastWritten_writePemCertDer_of_ne
          intro same
          rw [nextPath, FileTree.join_right_inj] at same
          have := numberedName_inj same
          omega
        have numbered := others (String.ofList (block ++ ['\n']))
        rw [numberedName] at numbered
        rw [ih later, numbered, Option.or_none]

theorem lastWritten_chainWrites {trustDoc : Json} {file : ExpectedFile}
    (member : file ∈ chainFiles ssl target.config trustDoc) :
    lastWritten (chainWrites ssl target.config trustDoc) file.1 = file.2 := by
  unfold chainFiles at member
  unfold chainWrites
  cases hasChain : valuestring? (item (trustMaterial trustDoc) "ca_chain_pem") with
  | none =>
      rw [hasChain] at member
      cases member
  | some caChain =>
      rw [hasChain] at member
      simp only [applyCaChain, FileTree.lastWritten_cons]
      rcases List.mem_cons.mp member with here | numbered
      · have others : lastWritten (chainBlockWrites ssl target.config 1
            (chainBlocks caChain.length caChain.toList)) file.1 = none := by
          apply FileTree.lastWritten_eq_none
          intro write written same
          rw [here] at same
          rcases chainBlockWrites_path written with ⟨number, _, path⟩ | ⟨name, trusted⟩
          · rw [path, FileTree.join_right_inj] at same
            exact numberedName_ne number same.symm
          · exact issuer_ne_trusted isLocal _ name (same.trans trusted)
        rw [others, Option.none_or, here, if_pos rfl]
      · obtain ⟨number, _, path⟩ := blockFiles_path numbered
        have notText : file.1 ≠ join target.config.issuerCerts "ca-chain.pem" := by
          intro same
          rw [path, FileTree.join_right_inj] at same
          exact numberedName_ne number same
        rw [lastWritten_chainBlockWrites isLocal numbered, if_neg notText, Option.or_none]

/-- Where the files of a CRL are. -/
def crlPaths (config : TargetConfig) (crlAlias : String) : List String :=
  let names := [crlAlias ++ ".crl.b64", crlAlias ++ ".crl"] ++
    if crlAlias = "vault_intermediate" then ["current.crl"] else []
  names.flatMap fun name => [join config.issuerCrl name, join config.trustedCrl name]

omit isLocal in
variable (ssl) in
theorem crlFiles_paths (crl : String × String) :
    (crlFiles ssl target.config crl).map Prod.fst = crlPaths target.config crl.1 := by
  unfold crlFiles crlPaths
  by_cases intermediate : crl.1 = "vault_intermediate"
  · rw [if_pos intermediate, if_pos intermediate]
    rfl
  · rw [if_neg intermediate, if_neg intermediate]
    rfl

omit isLocal in
/-- The CRLs of a document have the two aliases. -/
theorem documentCrls_aliases (trustDoc : Json) :
    ((documentCrls trustDoc).map Prod.fst).Sublist ["root_ca", "vault_intermediate"] := by
  have one (crlAlias : String) (crl : Option Json) :
      (((valuestring? crl).map fun text => (crlAlias, text)).toList.map Prod.fst).Sublist
        [crlAlias] := by
    cases valuestring? crl with
    | none => exact List.nil_sublist _
    | some text => exact List.Sublist.refl _
  unfold documentCrls
  dsimp only
  split
  · rw [List.map_append]
    exact (one "root_ca" _).append (one "vault_intermediate" _)
  · exact (one "vault_intermediate" _).trans (List.sublist_cons_self _ _)

/-- The files of the CRLs of a document are all different. -/
theorem documentCrls_distinct (trustDoc : Json) :
    (((documentCrls trustDoc).flatMap (crlFiles ssl target.config)).map Prod.fst).Nodup := by
  have all : (["root_ca", "vault_intermediate"].flatMap (crlPaths target.config)).Nodup := by
    cases target with
    | dmzGatewayClient => decide +kernel
    | dmzGatewayServer => decide +kernel
    | otServer => cases isLocal
  have paths : ((documentCrls trustDoc).flatMap (crlFiles ssl target.config)).map Prod.fst =
      ((documentCrls trustDoc).map Prod.fst).flatMap (crlPaths target.config) := by
    rw [List.map_flatMap, List.flatMap_map]
    simp only [crlFiles_paths]
  rw [paths]
  exact all.sublist ((documentCrls_aliases trustDoc).flatMap _)

omit isLocal in
/-- The bytes of a CRL are written as the files of the CRL. -/
theorem applyCrlAlias_eq (crl : String × String) :
    applyCrlAlias ssl target.config crl.1 crl.2 =
      plannedWrites (crlFiles ssl target.config crl) := by
  unfold applyCrlAlias crlFiles
  by_cases intermediate : crl.1 = "vault_intermediate"
  · simp only [if_pos intermediate]
    cases ssl.base64Decode crl.2 with
    | none => rfl
    | some der => rfl
  · simp only [if_neg intermediate]
    cases ssl.base64Decode crl.2 with
    | none => rfl
    | some der => rfl

theorem lastWritten_documentCrls {trustDoc : Json} {file : ExpectedFile}
    (member : file ∈ (documentCrls trustDoc).flatMap (crlFiles ssl target.config)) :
    lastWritten ((documentCrls trustDoc).flatMap
      fun crl => applyCrlAlias ssl target.config crl.1 crl.2) file.1 = file.2 := by
  have planned : ((documentCrls trustDoc).flatMap
      fun crl => applyCrlAlias ssl target.config crl.1 crl.2) =
        plannedWrites ((documentCrls trustDoc).flatMap (crlFiles ssl target.config)) := by
    simp only [applyCrlAlias_eq, plannedWrites, List.filterMap_flatMap]
  rw [planned]
  exact lastWritten_plannedWrites (documentCrls_distinct isLocal trustDoc) member

omit isLocal in
/-- The entries after the first are written under their names only. -/
theorem mem_laterTrustedCerts {count : Nat} {entries : List Json} {write : String × List UInt8}
    (member : write ∈ applyTrustedCerts ssl target.config (count + 1) entries) :
    ∃ cert ∈ entries, (∃ pem, valuestring? (getObjectItem cert "pem") = some pem) ∧
      write.1 = join target.config.trustedCerts (certificateName cert ++ ".der") := by
  induction entries generalizing count with
  | nil => cases member
  | cons first rest ih =>
      have inRest {count : Nat}
          (later : write ∈ applyTrustedCerts ssl target.config (count + 1) rest) :
          ∃ cert ∈ first :: rest, (∃ pem, valuestring? (getObjectItem cert "pem") = some pem) ∧
            write.1 = join target.config.trustedCerts (certificateName cert ++ ".der") := by
        obtain ⟨cert, listed, facts⟩ := ih later
        exact ⟨cert, List.mem_cons_of_mem _ listed, facts⟩
      rw [applyTrustedCerts] at member
      split at member
      · exact inRest member
      · rename_i pem hasPem
        rw [if_neg (fun first => absurd first.2 (Nat.succ_ne_zero count)),
          List.append_nil] at member
        rcases List.mem_append.mp member with own | later
        · exact ⟨first, List.mem_cons_self, ⟨pem, hasPem⟩, (path_of_mem_writePemCertDer own).1⟩
        · exact inRest later

omit isLocal in
/-- The last entry of a name decides what its file holds. -/
theorem lastWritten_applyTrustedCerts (target : GdsTarget) {entries : List Json} (cert : Json)
    {pem : String} {der : List UInt8} (member : cert ∈ entries)
    (hasPem : valuestring? (getObjectItem cert "pem") = some pem)
    (agree : ∀ other ∈ entries, certificateName other = certificateName cert →
      ∀ otherPem, valuestring? (getObjectItem other "pem") = some otherPem →
        ssl.pemCertToDer otherPem = some der) (count : Nat) :
    lastWritten (applyTrustedCerts ssl target.config count entries)
      (join target.config.trustedCerts (certificateName cert ++ ".der")) = some der := by
  induction entries generalizing cert pem count with
  | nil => cases member
  | cons first rest ih =>
      have laterAgree : ∀ other ∈ rest, certificateName other = certificateName cert →
          ∀ otherPem, valuestring? (getObjectItem other "pem") = some otherPem →
            ssl.pemCertToDer otherPem = some der :=
        fun other listed => agree other (List.mem_cons_of_mem _ listed)
      rw [applyTrustedCerts]
      cases firstPem : valuestring? (getObjectItem first "pem") with
      | none =>
          have later : cert ∈ rest := (List.mem_cons.mp member).resolve_left fun same => by
            rw [same, firstPem] at hasPem
            cases hasPem
          exact ih cert later hasPem laterAgree count
      | some text =>
          simp only [FileTree.lastWritten_append]
          by_cases again : ∃ other ∈ rest, certificateName other = certificateName cert ∧
              ∃ otherPem, valuestring? (getObjectItem other "pem") = some otherPem
          · obtain ⟨other, listed, sameName, otherPem, hasOther⟩ := again
            have later := ih other listed hasOther
              (fun third inRest same => laterAgree third inRest (same.trans sameName)) (count + 1)
            rw [sameName] at later
            rw [later]
            rfl
          · have isFirst : cert = first := (List.mem_cons.mp member).resolve_right fun later =>
              again ⟨cert, later, rfl, pem, hasPem⟩
            subst isFirst
            have noLater : lastWritten (applyTrustedCerts ssl target.config (count + 1) rest)
                (join target.config.trustedCerts (certificateName cert ++ ".der")) = none := by
              apply FileTree.lastWritten_eq_none
              intro write written same
              obtain ⟨other, listed, hasOther, path⟩ := mem_laterTrustedCerts written
              rw [path, FileTree.join_right_inj] at same
              exact again ⟨other, listed, ((String.append_left_inj _).mp same).symm, hasOther⟩
            have own := agree cert List.mem_cons_self rfl text firstPem
            rw [noLater, Option.none_or, lastWritten_writePemCertDer, own]
            split
            · by_cases peer : join target.config.trustedCerts (certificateName cert ++ ".der") =
                  join target.config.trustedCerts "ot_server.der"
              · rw [peer, lastWritten_writePemCertDer, own]
                rfl
              · rw [lastWritten_writePemCertDer_of_ne peer]
                rfl
            · rfl

omit isLocal in
theorem chainFiles_path {trustDoc : Json} {file : ExpectedFile}
    (member : file ∈ chainFiles ssl target.config trustDoc) :
    ∃ name, file.1 = join target.config.issuerCerts name := by
  unfold chainFiles at member
  split at member
  · cases member
  · rcases List.mem_cons.mp member with rfl | numbered
    · exact ⟨_, rfl⟩
    · obtain ⟨number, _, path⟩ := blockFiles_path numbered
      exact ⟨_, path⟩

omit isLocal in
theorem crlPaths_dir {crlAlias path : String} (member : path ∈ crlPaths target.config crlAlias) :
    ∃ dir ∈ [target.config.issuerCrl, target.config.trustedCrl], ∃ name, path = join dir name := by
  obtain ⟨name, _, inDirs⟩ := List.mem_flatMap.mp member
  simp only [List.mem_cons, List.not_mem_nil, or_false] at inDirs
  rcases inDirs with rfl | rfl
  · exact ⟨_, by simp, name, rfl⟩
  · exact ⟨_, by simp, name, rfl⟩

omit isLocal in
theorem documentCrls_dir {trustDoc : Json} {file : ExpectedFile}
    (member : file ∈ (documentCrls trustDoc).flatMap (crlFiles ssl target.config)) :
    ∃ dir ∈ [target.config.issuerCrl, target.config.trustedCrl],
      ∃ name, file.1 = join dir name := by
  obtain ⟨crl, _, inFiles⟩ := List.mem_flatMap.mp member
  apply crlPaths_dir
  rw [← crlFiles_paths]
  exact List.mem_map_of_mem inFiles

/-- No CRL is written to a file of another kind. -/
theorem lastWritten_crls_of_dir {trustDoc : Json} {dir name : String}
    (inDirs : dir ∈ target.config.pkiDirs) (distinct : dir ∉ [target.config.issuerCrl,
      target.config.trustedCrl]) :
    lastWritten ((documentCrls trustDoc).flatMap
      fun crl => applyCrlAlias ssl target.config crl.1 crl.2) (join dir name) = none := by
  apply FileTree.lastWritten_eq_none
  intro write written same
  obtain ⟨crl, _, inAlias⟩ := List.mem_flatMap.mp written
  rw [applyCrlAlias_eq, mem_plannedWrites] at inAlias
  obtain ⟨other, otherDir, _, path⟩ := crlPaths_dir
    (crlFiles_paths ssl crl ▸ List.mem_map_of_mem inAlias)
  have isOther := (pkiDirs_distinct isLocal).2 other otherDir
  have apart : dir ≠ other := fun here => distinct (here ▸ otherDir)
  exact join_ne_join isLocal inDirs isOther.1 apart _ _ (same.trans path)

/-- No trusted certificate is written to a file of another kind. -/
theorem lastWritten_certificates_of_dir {entries : List Json} {dir name : String}
    (inDirs : dir ∈ target.config.pkiDirs) (distinct : dir ≠ target.config.trustedCerts) :
    lastWritten (applyTrustedCerts ssl target.config 0 entries) (join dir name) = none := by
  apply FileTree.lastWritten_eq_none
  intro write written same
  obtain ⟨_, _, _, _, _, named | peer⟩ := mem_applyTrustedCerts written
  · rw [named] at same
    exact join_ne_join isLocal inDirs (by simp) distinct _ _ same
  · rw [peer] at same
    exact join_ne_join isLocal inDirs (by simp) distinct _ _ same

/-- The own certificate is none of the files of a trust document. -/
theorem lastWritten_own_of_dir {ownerDoc : Option Json} {dir name : String}
    (inDirs : dir ∈ target.config.pkiDirs) :
    lastWritten (ownCertificateWrites ssl target.config ownerDoc) (join dir name) = none := by
  apply FileTree.lastWritten_eq_none
  intro write written same
  rw [path_of_mem_ownCertificateWrites written] at same
  exact certPath_ne_join_pkiDirs isLocal inDirs name same.symm

/-- The last write to a file of the document has the content of the document. -/
theorem lastWritten_documentWrites {source : TrustSource}
    (agree : NamesAgree ssl source.trustDoc) {file : ExpectedFile} {content : List UInt8}
    (member : file ∈ documentFiles ssl target.config source.trustDoc)
    (expected : file.2 = some content) :
    lastWritten (documentWrites ssl target.config source) file.1 = some content := by
  obtain ⟨certsApart, crlsApart⟩ := pkiDirs_distinct isLocal
  have issuer := target.config.issuerCerts_mem_pkiDirs
  have trusted := target.config.trustedCerts_mem_pkiDirs
  unfold documentWrites
  simp only [FileTree.lastWritten_append]
  rcases List.mem_append.mp member with earlier | certificate
  · rcases List.mem_append.mp earlier with chain | crl
    · have written := lastWritten_chainWrites isLocal chain
      obtain ⟨name, path⟩ := chainFiles_path chain
      have noCrl : target.config.issuerCerts ∉
          [target.config.issuerCrl, target.config.trustedCrl] :=
        fun here => (crlsApart _ here).2.1 rfl
      rw [written, path, lastWritten_own_of_dir isLocal issuer,
        lastWritten_certificates_of_dir isLocal issuer certsApart,
        lastWritten_crls_of_dir isLocal issuer noCrl, expected]
      rfl
    · have written := lastWritten_documentCrls isLocal crl
      obtain ⟨dir, isCrlDir, name, path⟩ := documentCrls_dir crl
      obtain ⟨inDirs, _, apart⟩ := crlsApart dir isCrlDir
      rw [written, path, lastWritten_own_of_dir isLocal inDirs,
        lastWritten_certificates_of_dir isLocal inDirs apart, expected]
      rfl
  · obtain ⟨cert, listed, isFile⟩ := List.mem_filterMap.mp certificate
    obtain ⟨pem, hasPem, same⟩ := Option.map_eq_some_iff.mp isFile
    subst same
    have written := lastWritten_applyTrustedCerts target cert listed hasPem
      (fun other inEntries sameName otherPem hasOther =>
        (agree other inEntries cert listed sameName otherPem hasOther pem hasPem).trans expected) 0
    rw [written, lastWritten_own_of_dir isLocal trusted]
    rfl

end Done

/-- What the document has to meet where every write is done: without the revocation lists
the CA files are there already, and with them every text decodes and entries that share a
file agree. -/
structure DocumentHolds (ssl : OpenSsl) (config : TargetConfig) (settings : GdsSettings)
    (trustDoc : Json) (tree : FileTree) : Prop where
  missing : RevocationListsMissing settings trustDoc →
    Harmless (chainWrites ssl config trustDoc) tree
  decodes : ¬ RevocationListsMissing settings trustDoc → Decodes ssl config trustDoc
  agree : ¬ RevocationListsMissing settings trustDoc → NamesAgree ssl trustDoc

theorem applyHolds_iff_of_done {ssl : OpenSsl} {target : GdsTarget} {settings : GdsSettings}
    {source : TrustSource} {ends : Nat → WriteEnd} {tree : FileTree}
    (isLocal : target.config.remotePeerReadOnly = false) (all : ∀ index, ends index = .done) :
    ApplyHolds ssl target.config settings source ends tree ↔
      DocumentHolds ssl target.config settings source.trustDoc tree := by
  constructor
  · rintro ⟨missing, decodes, lands⟩
    rw [FileTree.attempted_of_done all] at missing
    refine ⟨missing, decodes, fun present => ?_⟩
    intro cert listed other otherListed sameName pem hasPem otherPem hasOther
    have inFiles {entry : Json} {text : String}
        (inEntries : entry ∈ certificateEntries source.trustDoc)
        (hasText : valuestring? (getObjectItem entry "pem") = some text) :
        (join target.config.trustedCerts (certificateName entry ++ ".der"),
          ssl.pemCertToDer text) ∈ documentFiles ssl target.config source.trustDoc := by
      refine List.mem_append_right _ (List.mem_filterMap.mpr ⟨entry, inEntries, ?_⟩)
      rw [certificateFile, hasText, Option.map_some]
    obtain ⟨der, read⟩ := Option.isSome_iff_exists.mp
      (decodes present _ (inFiles listed hasPem))
    obtain ⟨otherDer, otherRead⟩ := Option.isSome_iff_exists.mp
      (decodes present _ (inFiles otherListed hasOther))
    have first := lands_iff.mp (lands present _ (inFiles listed hasPem) der read)
    have second := lands_iff.mp (lands present _ (inFiles otherListed hasOther) otherDer otherRead)
    rw [sameName] at first
    dsimp only at first second read otherRead
    rw [first, Option.some.injEq] at second
    rw [read, otherRead, second]
  · rintro ⟨missing, decodes, agree⟩
    refine ⟨?_, decodes, ?_⟩
    · rw [FileTree.attempted_of_done all]
      exact missing
    · intro present file member content expected
      rw [FileTree.attempted_of_done all]
      exact Or.inl (lastWritten_documentWrites isLocal (agree present) member expected)

/-- An apply is atomic and complete exactly where it is refused before its first write or
`ApplyHolds`; where no write fails the latter is a condition on the document and on the CA
files that are there. -/
theorem apply_atomic_iff (ssl : OpenSsl) (target : GdsTarget) (settings : GdsSettings)
    (cache : TargetCache) (allowCertificate : Bool) (ends : Nat → WriteEnd) (tree : FileTree) :
    (ApplyAtomic ssl target.config settings cache allowCertificate ends tree ↔
        ∀ source, acceptedSource target.config settings cache allowCertificate = some source →
          ApplyHolds ssl target.config settings source ends tree) ∧
      ((∀ index, ends index = .done) →
        (ApplyAtomic ssl target.config settings cache allowCertificate ends tree ↔
          ∀ source, acceptedSource target.config settings cache allowCertificate = some source →
            DocumentHolds ssl target.config settings source.trustDoc tree)) := by
  have general :=
    applyAtomic_iff_holds ssl target.config settings cache allowCertificate ends tree
  refine ⟨general, fun all => general.trans ?_⟩
  refine forall_congr' fun source => forall_congr' fun accepted => ?_
  exact applyHolds_iff_of_done (acceptedSource_eq_some.mp accepted).1 all

/-! ## Two applies that break the promise -/

/-- Texts that start with `M` are base64, and every text is a certificate. -/
def plainSsl : OpenSsl where
  base64Decode := fun text => if text.front = 'M' then some (textBytes text) else none
  pemCertToDer := fun pem => some (textBytes pem)

def revocationSettings : GdsSettings where
  runtimeWriteEnabled := true
  requireSignedArtifacts := false
  strictCrlFreshness := false
  requireRevocationLists := true
  trustAnchorFingerprint := none

def materialCache (material : List (String × Json)) : TargetCache := fun leaf =>
  if leaf = "trust-material.json" then some (.obj [("trust_material", .obj material)]) else none

/-- A document without revocation lists is refused after its chain is written. A document
whose second CRL is no base64 is applied, and the CRL of before stays. -/
theorem refused_chain_written_and_old_crl_kept :
    ¬ ApplyAtomic plainSsl GdsTarget.dmzGatewayServer.config revocationSettings
        (materialCache [("ca_chain_pem", .str "chain")]) false (fun _ => .done) [] ∧
      ¬ ApplyAtomic plainSsl GdsTarget.dmzGatewayServer.config revocationSettings
        (materialCache [("crl_bundle", .obj [("root_crl_base64", .str "MA=="),
          ("intermediate_crl_base64", .str "?")])]) false (fun _ => .done)
        [("/app/pki/northbound/issuer/crl/vault_intermediate.crl", [1])] := by
  constructor
  · rintro ⟨unchanged, _⟩
    have same := unchanged (by decide +kernel)
      "/app/pki/northbound/issuer/certs/ca-chain.pem"
    exact absurd same (by decide +kernel)
  · rintro ⟨_, complete⟩
    obtain ⟨content, expected, _⟩ := complete (by decide +kernel) _ rfl
      ("/app/pki/northbound/issuer/crl/vault_intermediate.crl", none) (by decide +kernel)
    cases expected

end OpcuaGds.Gateway
