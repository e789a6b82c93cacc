import OpcuaGds.Agent.ActivationSuccess
import OpcuaGds.Agent.StageAtomicity
import OpcuaGds.Foundation.TouchedFiles

/-! # What an activation and an apply leave alone

Whether they return or raise: the private keys of every target, and all files but the staged
paths, or but the CA, CRL and peer certificate files of a trust-only apply.
-/

namespace OpcuaGds.Agent

open FileTree (OnlyTouches Changed LeftAt courseOf lastWritten isTemporary dirPart)

section Statements

/-- `fingerprint_sha256` as the artifact has it. -/
def IsFingerprint (text : String) : Prop :=
  text.toList.length = 64 ∧ ∀ c ∈ text.toList, c ∈ "0123456789abcdefABCDEF".toList

/-- Every certificate of the artifact has its fingerprint. -/
def HexFingerprints (artifact : Json) : Prop :=
  ∀ cert ∈ certificateEntries artifact, cert.isObject = true →
    ∃ fp, cert.field? "fingerprint_sha256" = some (.str fp) ∧ IsFingerprint fp

variable (layout : StageLayout)

/-- A file of the CA chain in a certificate directory. -/
def IsCaFile (path : String) : Prop :=
  ∃ dir ∈ [layout.issuerCertsDir, layout.trustedCertsDir], ∃ name, IsCaName name ∧
    path = FileTree.join dir name

/-- `CN[fingerprint]` in the trusted directory. -/
def IsPeerFile (path : String) : Prop :=
  ∃ cn fp ending, '/' ∉ cn.toList ∧ IsFingerprint fp ∧ ending ∈ [".pem", ".der"] ∧
    path = FileTree.join layout.trustedCertsDir (cn ++ "[" ++ fp ++ "]" ++ ending)

/-- A CRL directly in one of some directories. -/
def IsCrlIn (dirs : List String) (path : String) : Prop :=
  isCrlFile path = true ∧ ∃ dir ∈ dirs, path = FileTree.join dir (FileTree.nameOf path)

/-- The CA, CRL and peer certificate files in the directories of the layout. -/
def IsLayoutFile (path : String) : Prop :=
  IsCaFile layout path ∨ IsPeerFile layout path ∨
    IsCrlIn [layout.issuerCrlDir, layout.trustedCrlDir] path

/-- What an apply may write: also CRLs in the directory of older servers. -/
def IsApplyFile (path : String) : Prop :=
  IsLayoutFile layout path ∨ IsCrlIn (compatCrlDir layout).toList path

/-- An apply leaves the private keys of all targets and every file that is not its own; a
temporary file may stay beside one of its own. -/
structure ApplyFrame (before after : FileTree) : Prop where
  keys : ∀ target, ∀ path ∈ targetPrivateKeyCandidates target, after.read path = before.read path
  others : OnlyTouches (IsApplyFile layout) before after

/-- The temporary files that operations of an activation leave have names without a
separator. -/
def PlainLeftovers (outcomes : ActivationOutcomes) : Prop :=
  ∀ name content, outcomes.probe = .refused (some (name, content)) ∨
    (∃ rel, outcomes.copy rel = .stops (some (name, content))) → '/' ∉ name.toList

/-- An activation leaves the private keys of all targets and every file that no staged path
leads to; a temporary file may stay where no file was, which is not a private key. -/
structure ActivationFrame (input : ActivationInput) (outcomes : ActivationOutcomes)
    (before after : FileTree) : Prop where
  keys : ∀ target, ∀ path ∈ targetPrivateKeyCandidates target,
    (before.read path).isSome ∨ PlainLeftovers outcomes → after.read path = before.read path
  others : ∀ path, (∃ entry ∈ input.copied, resolveInside entry.1 = some path) ∨
    after.read path = before.read path ∨
      before.read path = none ∧ ∃ content, Temporary input outcomes path content

end Statements

/-! ## Activation -/

section Activation

variable {crypto : RuntimeCrypto} {input : ActivationInput} {outcomes : ActivationOutcomes}
  {state : RuntimeState}

variable (crypto input outcomes state) in
/-- Whether it raises or not, an activation works file by file. -/
theorem activation_keeps_files (path : String) :
    FileKeptOrStaged input outcomes state.runtime
      (activatePackageRuntime crypto input outcomes state).2.runtime path := by
  rcases called : activatePackageRuntime crypto input outcomes state with ⟨result, after⟩
  cases result with
  | error message =>
      have kept := (activation_error (congrArg Prod.fst called)).2 path
      rwa [called] at kept
  | ok result =>
      cases result with
      | alreadyActivated =>
          obtain ⟨rfl, _⟩ := already_activated_inv called
          exact .inl rfl
      | activated receipt =>
          obtain ⟨keySha256, changes, _, copies, _⟩ := activated_inv called
          have keeps := copies_keep_files crypto input outcomes state.runtime path
          rwa [copies] at keeps

/-- Nothing that stays beside a copied file or at the root is a private key. -/
theorem not_temporary_of_candidate {target path : String} {content : List UInt8}
    (candidate : path ∈ targetPrivateKeyCandidates target) (plain : PlainLeftovers outcomes) :
    ¬ Temporary input outcomes path content := by
  have inPrivate : '/' ∈ path.toList ∧ ∃ front, dirPart path = front ++ "/" ∧
      "private" ∈ splitPath front := by
    have all : ∀ path ∈ privateKeyPlaces, '/' ∈ path.toList ∧
          ∃ front ∈ ["own/private", "private", "ApplCerts/own/private"],
            dirPart path = front ++ "/" ∧ "private" ∈ splitPath front := by decide +kernel
    obtain ⟨slash, front, _, dir, among⟩ := all path (candidate_mem candidate)
    exact ⟨slash, front, dir, among⟩
  obtain ⟨slash, front, dir, among⟩ := inPrivate
  rintro (⟨name, refused, rfl⟩ | ⟨entry, member, copiedPath, _, staged, name, stops, rfl⟩)
  · exact plain name content (.inl refused) slash
  · have namePlain := plain name content (.inr ⟨_, stops⟩)
    rw [FileTree.dirPart_append namePlain, FileTree.dirPart_dirPart] at dir
    have way : "private" ∈ splitPath copiedPath := by
      rw [← FileTree.dirPart_append_nameOf copiedPath, dir]
      exact mem_splitPath_append _ among
    have preserved := isPreserved_of_private (mem_splitPath_of_led staged.1 way (by decide))
    exact Bool.false_ne_true ((copied_plain entry member).symm.trans preserved)

variable (crypto input outcomes state) in
theorem activation_frame :
    ActivationFrame input outcomes state.runtime
      (activatePackageRuntime crypto input outcomes state).2.runtime where
  keys := by
    intro target path candidate held
    rcases activation_keeps_files crypto input outcomes state path with
      same | ⟨content, _, ⟨entry, member, staged⟩ | ⟨free, temporary⟩⟩
    · exact same
    · have preserved := isPreserved_of_leads candidate staged.1
      exact absurd ((copied_plain entry member).symm.trans preserved) Bool.false_ne_true
    · rcases held with there | plain
      · rw [free] at there
        cases there
      · exact absurd temporary (not_temporary_of_candidate candidate plain)
  others := by
    intro path
    rcases activation_keeps_files crypto input outcomes state path with
      same | ⟨content, _, ⟨entry, member, staged⟩ | ⟨free, temporary⟩⟩
    · exact .inr (.inl same)
    · exact .inl ⟨entry, member, staged.1⟩
    · exact .inr (.inr ⟨free, content, temporary⟩)

end Activation

/-! ## Apply -/

section Apply

variable {env : StageEnvironment} {layout : StageLayout} {outcomes : StageOutcomes}
  {uuids : Nat → String} {artifact : Json} {allowed : String → Prop} {tree : FileTree}

/-- A sequence of two calls touches what either touches. -/
theorem touches_bind {first : Except FileTree FileTree} {next : FileTree → Except FileTree FileTree}
    (touches : OnlyTouches allowed tree (leftFiles first))
    (later : ∀ middle, OnlyTouches allowed middle (leftFiles (next middle))) :
    OnlyTouches allowed tree (leftFiles (first >>= next)) := by
  cases first with
  | error left => exact touches
  | ok middle => exact touches.trans (later middle)

theorem StagePart.run_touches {part : StagePart} (optional : String → Bool)
    (outcome : Nat → FileTree.WriteOutcome)
    (permanent : ∀ write ∈ part.writes, isTemporary write.1 = false)
    (within : ∀ write ∈ part.writes, allowed write.1) (tree : FileTree) :
    OnlyTouches allowed tree (leftFiles (part.run optional outcome tree)) := by
  obtain ⟨after, ran, changed, _⟩ := StagePart.run_spec optional outcome permanent tree
  have left : leftFiles (part.run optional outcome tree) = after := by
    rw [ran]
    split <;> rfl
  rw [left]
  exact FileTree.tryWrites_touches optional outcome within 0 changed

/-! ### The files of the parts -/

theorem inCrlDir_cases {path : String} (inDir : inCrlDir layout path = true)
    (isCrl : isCrlFile path = true) : IsApplyFile layout path := by
  obtain ⟨dir, active, here⟩ := inCrlDir_iff.mp inDir
  rcases List.mem_append.mp active with inLayout | compat
  · exact .inl (.inr (.inr ⟨isCrl, dir, inLayout, here⟩))
  · exact .inr ⟨isCrl, dir, compat, here⟩

variable (env layout artifact) in
theorem caPart_files : ∀ write ∈ (caPart env layout artifact).writes, IsCaFile layout write.1 := by
  apply mem_part_of_adds
  apply adds_writeCaChain
  · exact fun name isName _ => ⟨_, List.mem_cons_self, name, isName, rfl⟩
  · exact fun name isName _ => ⟨_, List.mem_cons_of_mem _ List.mem_cons_self, name, isName, rfl⟩

theorem notMem_fileNameText (text : String) : '/' ∉ (fileNameText text).toList := by
  rw [fileNameText, String.toList_ofList]
  intro member
  obtain ⟨c, _, replaced⟩ := List.mem_map.mp member
  split at replaced
  · cases replaced
  · rename_i other
    exact other (.inl replaced)

theorem isFingerprint_lower {text : String} (isFingerprint : IsFingerprint text) :
    IsFingerprint (PythonText.lower text) := by
  have spelled : "0123456789abcdefABCDEF".toList = ['0', '1', '2', '3', '4', '5', '6', '7', '8',
      '9', 'a', 'b', 'c', 'd', 'e', 'f', 'A', 'B', 'C', 'D', 'E', 'F'] := by decide
  have digits : ("0123456789abcdefABCDEF".toList.all fun c =>
      "0123456789abcdefABCDEF".toList.contains (PythonText.lowerChar c)) = true := by
    rw [spelled]
    decide
  obtain ⟨length, hex⟩ := isFingerprint
  rw [IsFingerprint, PythonText.lower, String.toList_ofList, List.length_map]
  refine ⟨length, fun c member => ?_⟩
  obtain ⟨d, among, rfl⟩ := List.mem_map.mp member
  exact List.contains_iff_mem.mp (List.all_eq_true.mp digits d (hex d among))

variable (env layout uuids) in
theorem certificatePart_files (fingerprints : HexFingerprints artifact) :
    ∀ write ∈ (certificatePart env layout uuids artifact).writes, IsPeerFile layout write.1 := by
  apply mem_part_of_adds
  apply adds_writeCertificates
  rintro name ⟨cert, member, isObject, fresh, ending, among, rfl⟩ _
  obtain ⟨fp, given, isFingerprint⟩ := fingerprints cert member isObject
  refine ⟨fileNameText ((cert.field? "common_name").getD (.str "peer")).toStr, PythonText.lower fp,
    ending, notMem_fileNameText _, isFingerprint_lower isFingerprint, among, ?_⟩
  simp only [certificateFile, given, Option.getD_some]
  rfl

/-! ### The parts -/

theorem removeUnlinked_touches (tree : FileTree) :
    OnlyTouches (IsApplyFile layout) tree (removeUnlinked layout outcomes tree) := by
  refine .of_changed (removeUnlinked_changed tree) (fun path content removed => ?_) nofun
  split at removed
  · rename_i isAlias
    rw [removedAlias, Bool.and_eq_true, Bool.and_eq_true] at isAlias
    exact inCrlDir_cases isAlias.1.1 (isCrlFile_of_alias isAlias.1.2)
  · cases removed

theorem restoreFiles_touches (before written : FileTree) :
    OnlyTouches (IsApplyFile layout) written
      (restoreFiles outcomes (snapshotReadable layout outcomes before) written) := by
  have isCrl : ∀ file ∈ snapshotReadable layout outcomes before, IsApplyFile layout file.1 := by
    intro file member
    obtain ⟨_, inDir, isCrl, _⟩ := mem_snapshotReadable.mp member
    exact inCrlDir_cases inDir isCrl
  have permanent : ∀ file ∈ snapshotReadable layout outcomes before, isTemporary file.1 = false :=
    fun file member => permanent_of_crlFile (mem_snapshotReadable.mp member).2.2.1
  refine .of_changed (restoreFiles_changed outcomes permanent written) ?_ ?_
  · intro path content restored
    split at restored
    · obtain ⟨last, found, _⟩ := Option.map_eq_some_iff.mp restored
      exact isCrl _ (FileTree.mem_of_lastWritten found)
    · cases restored
  · rintro path ⟨file, member, _, name, _, _, rfl⟩
    exact ⟨file.1, isCrl file member, FileTree.dirPart_beside _ _⟩

variable (env layout outcomes artifact) in
theorem applyCrls_touches (tree : FileTree) :
    OnlyTouches (IsApplyFile layout) tree
      (leftFiles (applyCrls env layout outcomes artifact tree)) := by
  have removed : OnlyTouches (IsApplyFile layout) tree (removeUnlinked layout outcomes tree) :=
    removeUnlinked_touches tree
  have wrote := removed.trans
    (StagePart.run_touches (isOptionalCrl layout) outcomes.crlWrite
      (crlPart_permanent layout artifact) (fun write member =>
        have kind := crlPart_writes layout artifact write member
        inCrlDir_cases kind.1 (isCrlFile_of_alias kind.2))
      (removeUnlinked layout outcomes tree))
  by_cases incoming : IncomingCrls artifact
  · cases ran : (crlPart layout artifact).run (isOptionalCrl layout) outcomes.crlWrite
        (removeUnlinked layout outcomes tree) with
    | error written =>
        rw [ran] at wrote
        rw [applyCrls_of_stopped incoming ran]
        exact wrote
    | ok written =>
        rw [ran] at wrote
        rw [applyCrls_of_written env incoming ran]
        split
        · exact wrote
        · split
          · exact wrote.trans (restoreFiles_touches tree written)
          · exact wrote
  · rw [applyCrls, if_pos (not_not.mp incoming)]
    exact .refl tree

variable (env layout outcomes uuids) in
/-- Whether it raises or not, an apply touches its own files only. -/
theorem apply_touches (fingerprints : HexFingerprints artifact) (tree : FileTree) :
    OnlyTouches (IsApplyFile layout) tree
      (leftFiles (applyTargetStageMaterial env layout outcomes uuids artifact tree)) := by
  unfold applyTargetStageMaterial
  split
  · exact .refl tree
  · split
    · exact .refl tree
    · refine touches_bind ?_ fun afterCa => touches_bind ?_ fun afterDir => touches_bind ?_ ?_
      · exact StagePart.run_touches _ _
          (fun write member => (caPart_writes env layout artifact write member).1.1)
          (fun write member => .inl (.inl (caPart_files env layout artifact write member))) tree
      · rw [makeCompatDir]
        split <;> exact .refl afterCa
      · exact applyCrls_touches env layout outcomes artifact afterDir
      · exact StagePart.run_touches _ _
          (fun write member => (certificatePart_writes env layout uuids artifact write member).1.1)
          (fun write member =>
            .inl (.inr (.inl (certificatePart_files env layout uuids fingerprints write member))))

/-! ### Private keys -/

/-- Names of CA files have no separator, and a letter that no private key has in its name. -/
theorem caName_chars {name : String} (isName : IsCaName name) :
    '/' ∉ name.toList ∧ 'h' ∈ name.toList := by
  rcases isName with fixed | ⟨index, rfl⟩
  · revert name
    decide
  · have digits : '/' ∉ (toString index).toList := by
      intro member
      rw [Nat.toString_eq_repr, Nat.toList_repr] at member
      exact absurd (Nat.isDigit_of_mem_toDigits (by decide) (by decide) member) (by decide)
    simp only [String.toList_append, List.mem_append, digits, or_false]
    exact ⟨by decide, .inl (.inl (by decide))⟩

theorem notMem_peerName {cn fp ending : String} (plain : '/' ∉ cn.toList)
    (isFingerprint : IsFingerprint fp) (among : ending ∈ [".pem", ".der"]) :
    '/' ∉ (cn ++ "[" ++ fp ++ "]" ++ ending).toList := by
  have notHex : '/' ∉ fp.toList := fun member =>
    absurd (isFingerprint.2 '/' member) (by decide)
  have notEnding : '/' ∉ ending.toList := by
    revert ending
    decide
  simp only [String.toList_append, List.mem_append, plain, notHex, notEnding, or_false, false_or]
  decide

/-- A file of a CA chain or of a peer certificate shows it by its name. -/
theorem not_certificateFile_of_name {path : String} (notCa : 'h' ∉ (FileTree.nameOf path).toList)
    (notPeer : '[' ∉ (FileTree.nameOf path).toList) :
    ¬ IsCaFile layout path ∧ ¬ IsPeerFile layout path := by
  refine ⟨?_, ?_⟩
  · rintro ⟨dir, _, name, isName, rfl⟩
    obtain ⟨plain, letter⟩ := caName_chars isName
    rw [FileTree.nameOf_join plain] at notCa
    exact notCa letter
  · rintro ⟨cn, fp, ending, plain, isFingerprint, among, rfl⟩
    rw [FileTree.nameOf_join (notMem_peerName plain isFingerprint among)] at notPeer
    exact notPeer (by simp [String.toList_append])

/-- No place of a private key is a file of an apply. -/
theorem not_applyFile_of_candidate {target path : String}
    (candidate : path ∈ targetPrivateKeyCandidates target) : ¬ IsApplyFile layout path := by
  have all : ∀ path ∈ privateKeyPlaces, isCrlFile path = false ∧
      'h' ∉ (FileTree.nameOf path).toList ∧ '[' ∉ (FileTree.nameOf path).toList := by
    decide +kernel
  obtain ⟨notCrl, noLetter, noBracket⟩ := all path (candidate_mem candidate)
  obtain ⟨notCa, notPeer⟩ : ¬ IsCaFile layout path ∧ ¬ IsPeerFile layout path :=
    not_certificateFile_of_name noLetter noBracket
  have noCrl (dirs : List String) : ¬ IsCrlIn dirs path := fun isCrl =>
    Bool.false_ne_true (notCrl.symm.trans isCrl.1)
  rintro ((isCa | isPeer | isCrl) | isCrl)
  · exact notCa isCa
  · exact notPeer isPeer
  · exact noCrl _ isCrl
  · exact noCrl _ isCrl

theorem permanent_of_candidate {target path : String}
    (candidate : path ∈ targetPrivateKeyCandidates target) : isTemporary path = false := by
  have all : ∀ path ∈ privateKeyPlaces, isTemporary path = false := by decide +kernel
  exact all path (candidate_mem candidate)

variable (env layout outcomes uuids) in
theorem apply_frame (fingerprints : HexFingerprints artifact) (tree : FileTree) :
    ApplyFrame layout tree
      (leftFiles (applyTargetStageMaterial env layout outcomes uuids artifact tree)) where
  keys := fun _ _ candidate => (apply_touches env layout outcomes uuids fingerprints tree).read_eq
    (not_applyFile_of_candidate candidate) (permanent_of_candidate candidate)
  others := apply_touches env layout outcomes uuids fingerprints tree

end Apply

/-- Activations and trust-only applies leave the private keys of all targets, and all files but
their own. -/
theorem runtime_frame :
    (∀ (crypto : RuntimeCrypto) (input : ActivationInput) (outcomes : ActivationOutcomes)
        (state : RuntimeState), ActivationFrame input outcomes state.runtime
          (activatePackageRuntime crypto input outcomes state).2.runtime) ∧
      ∀ (env : StageEnvironment) (targetCfg : Json) (outcomes : StageOutcomes)
        (uuids : Nat → String) (artifact : Json) (tree : FileTree), HexFingerprints artifact →
          ApplyFrame (targetStageLayout targetCfg) tree (leftFiles
            (applyTargetStageMaterial env (targetStageLayout targetCfg) outcomes uuids artifact
              tree)) :=
  ⟨activation_frame, fun env targetCfg outcomes uuids _ tree fingerprints =>
    apply_frame env (targetStageLayout targetCfg) outcomes uuids fingerprints tree⟩

/-! ## The CRLs of older servers -/

def opcuaServerCfg : Json :=
  .obj [("target", .str "opcua-server"), ("layout_kind", .str "open62541-opcua-server"),
    ("trusted_certs_dir", .str "ApplCerts/trusted/certs"),
    ("trusted_crl_dir", .str "ApplCerts/trusted/crl"),
    ("issuer_certs_dir", .str "ApplCerts/issuer/certs"),
    ("issuer_crl_dir", .str "ApplCerts/issuer/crl")]

/-- A root CRL and one peer certificate. -/
def crlArtifact : Json :=
  .obj [("crl_bundle", .obj [("root_crl_base64", .str "AA==")]),
    ("certificates", .arr [.obj [("common_name", .str "peer"),
      ("fingerprint_sha256", .str (String.ofList (List.replicate 64 '0')))]])]

theorem isFingerprint_zeros : IsFingerprint (String.ofList (List.replicate 64 '0')) := by
  rw [IsFingerprint, String.toList_ofList, List.length_replicate]
  refine ⟨rfl, fun c among => ?_⟩
  rw [(List.mem_replicate.mp among).2]
  decide

theorem crlArtifact_fingerprints : HexFingerprints crlArtifact := by
  intro cert member _
  have only : certificateEntries crlArtifact = [.obj [("common_name", .str "peer"),
      ("fingerprint_sha256", .str (String.ofList (List.replicate 64 '0')))]] := rfl
  rw [only, List.mem_singleton] at member
  subst member
  exact ⟨_, rfl, isFingerprint_zeros⟩

/-- The apply also writes the CRL into a directory that the layout does not name. -/
theorem compat_crl_outside_layout :
    ¬ OnlyTouches (IsLayoutFile (targetStageLayout opcuaServerCfg)) []
      (leftFiles (applyTargetStageMaterial freshCrls (targetStageLayout opcuaServerCfg) smoothStage
        (fun _ => "") crlArtifact [])) := by
  intro touches
  have notLayout : ¬ IsLayoutFile (targetStageLayout opcuaServerCfg)
      "ApplCerts/issuers/crl/root_ca.crl" := by
    obtain ⟨notCa, notPeer⟩ :
        ¬ IsCaFile (targetStageLayout opcuaServerCfg) "ApplCerts/issuers/crl/root_ca.crl" ∧
          ¬ IsPeerFile (targetStageLayout opcuaServerCfg) "ApplCerts/issuers/crl/root_ca.crl" :=
      not_certificateFile_of_name (by decide +kernel) (by decide +kernel)
    rintro (isCa | isPeer | ⟨_, inDir⟩)
    · exact notCa isCa
    · exact notPeer isPeer
    · revert inDir
      decide +kernel
  have same := touches.read_eq notLayout (by decide +kernel)
  revert same
  decide +kernel

theorem crlArtifact_frame :
    ApplyFrame (targetStageLayout opcuaServerCfg) [("ApplCerts/own/private/server.key.der", [9])]
      (leftFiles (applyTargetStageMaterial freshCrls (targetStageLayout opcuaServerCfg) smoothStage
        (fun _ => "") crlArtifact [("ApplCerts/own/private/server.key.der", [9])])) :=
  runtime_frame.2 freshCrls opcuaServerCfg smoothStage (fun _ => "") crlArtifact _
    crlArtifact_fingerprints

end OpcuaGds.Agent
