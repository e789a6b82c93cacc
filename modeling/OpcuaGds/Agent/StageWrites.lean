import OpcuaGds.Agent.StageMaterial

/-! # The steps of the writer

What each step of `_write_target_stage_material` adds to the log and to the tree, when
it ends well, and on what it depends.
-/

namespace OpcuaGds.Agent

section Readings

variable (pemCertToDer : String → Option (List UInt8))
  (crlNextUpdate : List UInt8 → Option (Option Int))

/-- Every certificate of the chain can be read. -/
def ChainReadable (caChain : String) : Prop :=
  ∀ pem ∈ splitPemChain caChain, ∃ der, pemCertToDer pem = some der

/-- A CRL text: nothing to write, or bytes, or text that cannot be decoded. -/
def crlRead (crlBase64 : String) : Option (Option (List UInt8)) :=
  if crlBase64 = "" then none else some (Base64.decode crlBase64.toList)

/-- A CRL that is absent, or decodes to a CRL with a next update. -/
def CrlUsable (crlBase64 : String) : Prop :=
  ∀ read, crlRead crlBase64 = some read →
    ∃ content nextUpdate, read = some content ∧ crlNextUpdate content = some (some nextUpdate)

end Readings

theorem crlRead_eq_none_iff {crlBase64 : String} : crlRead crlBase64 = none ↔ crlBase64 = "" := by
  unfold crlRead
  split <;> simp_all

/-! ## Added files -/

/-- The files after a step, whether it returns or raises. -/
def StageStep.tree : StageStep → FileTree
  | .ok state => state.tree
  | .error state => state.tree

/-- The step keeps the log and appends allowed files to it; the tree gets no others. -/
structure Adds (allowed : String × List UInt8 → Prop) (before : StageState)
    (step : StageStep) : Prop where
  log : ∃ suffix, step.log = before.log ++ suffix ∧ ∀ file ∈ suffix, allowed file
  tree : ∀ file ∈ step.tree, file ∈ before.tree ∨ allowed file

namespace Adds

variable {allowed : String × List UInt8 → Prop} {before middle : StageState} {step : StageStep}

theorem nothing (same : step.log = before.log) (fewer : ∀ file ∈ step.tree, file ∈ before.tree) :
    Adds allowed before step where
  log := ⟨[], by rw [same, List.append_nil], fun _ member => nomatch member⟩
  tree := fun file member => Or.inl (fewer file member)

theorem refl (before : StageState) : Adds allowed before (.ok before) :=
  .nothing rfl fun _ member => member

theorem raised (before : StageState) : Adds allowed before (.error before) :=
  .nothing rfl fun _ member => member

theorem trans (first : Adds allowed before (.ok middle)) (second : Adds allowed middle step) :
    Adds allowed before step := by
  obtain ⟨front, frontLog, frontAllowed⟩ := first.log
  obtain ⟨back, backLog, backAllowed⟩ := second.log
  refine ⟨⟨front ++ back, ?_, ?_⟩, ?_⟩
  · have middleLog : middle.log = before.log ++ front := frontLog
    rw [backLog, middleLog, List.append_assoc]
  · intro file member
    rcases List.mem_append.mp member with inFront | inBack
    · exact frontAllowed file inFront
    · exact backAllowed file inBack
  · intro file member
    rcases second.tree file member with earlier | allowed
    · exact first.tree file earlier
    · exact Or.inr allowed

theorem bind {next : StageState → StageStep} (first : Adds allowed before step)
    (rest : ∀ after, step = .ok after → Adds allowed after (next after)) :
    Adds allowed before (step >>= next) := by
  cases step with
  | error state => exact ⟨first.log, first.tree⟩
  | ok state => exact first.trans (rest state rfl)

theorem mono {weaker : String × List UInt8 → Prop} (adds : Adds allowed before step)
    (weaken : ∀ file, allowed file → weaker file) : Adds weaker before step := by
  obtain ⟨suffix, log, inSuffix⟩ := adds.log
  refine ⟨⟨suffix, log, fun file member => weaken file (inSuffix file member)⟩, ?_⟩
  intro file member
  exact (adds.tree file member).imp_right (weaken file)

theorem write {dir name : String} {content : List UInt8}
    (isAllowed : allowed (FileTree.join dir name, content)) (state : StageState) :
    Adds allowed state (.ok (state.write dir name content)) where
  log := by
    refine ⟨[(FileTree.join dir name, content)], rfl, ?_⟩
    intro file member
    rw [List.mem_singleton] at member
    exact member ▸ isAllowed
  tree := by
    intro file member
    rcases FileTree.mem_write member with rfl | earlier
    · exact Or.inr isAllowed
    · exact Or.inl earlier

/-- What was logged under a path first stays the first. -/
theorem read_of_some {path : String} {content : List UInt8} (adds : Adds allowed before step)
    (found : before.log.read path = some content) : step.log.read path = some content := by
  obtain ⟨suffix, log, _⟩ := adds.log
  rw [log, FileTree.read, List.lookup_append, ← FileTree.read, found, Option.some_or]

/-- A step that does not write a path leaves it as it was. -/
theorem read_of_ne {path : String} (adds : Adds (fun file => file.1 ≠ path) before step) :
    step.log.read path = before.log.read path := by
  obtain ⟨suffix, log, others⟩ := adds.log
  have absent : List.lookup path suffix = none :=
    List.lookup_eq_none_iff.mpr fun file member =>
      bne_iff_ne.mpr (Ne.symm (others file member))
  rw [log, FileTree.read, FileTree.read, List.lookup_append, absent, Option.or_none]

end Adds

/-! ## The CA chain -/

/-- The names of the files that the writer puts into the certificate directories. -/
def IsCertificateName (name : String) : Prop :=
  hasSuffix ".pem" name = true ∨ hasSuffix ".der" name = true

theorem hasSuffix_append (front suffix : String) : hasSuffix suffix (front ++ suffix) = true := by
  rw [hasSuffix, String.toList_append, List.isSuffixOf_iff_suffix]
  exact List.suffix_append _ _

theorem isCertificateName_pem (name : String) : IsCertificateName (name ++ ".pem") :=
  .inl (hasSuffix_append name ".pem")

theorem isCertificateName_der (name : String) : IsCertificateName (name ++ ".der") :=
  .inr (hasSuffix_append name ".der")

section Writer

variable {env : StageEnvironment} {layout : StageLayout}

theorem writeChainDer_eq_ok {chain : List String} {index : Nat} {state after : StageState}
    (written : writeChainDer env layout index chain state = .ok after) :
    ∀ pem ∈ chain, ∃ der, env.pemCertToDer pem = some der := by
  induction chain generalizing index state with
  | nil => exact fun pem member => nomatch member
  | cons first rest ih =>
      rw [writeChainDer] at written
      cases read : env.pemCertToDer first with
      | none => rw [read] at written; cases written
      | some der =>
          rw [read] at written
          intro pem member
          rcases List.mem_cons.mp member with rfl | later
          · exact ⟨der, read⟩
          · exact ih written pem later

theorem writeChainDer_isOk {chain : List String}
    (readable : ∀ pem ∈ chain, ∃ der, env.pemCertToDer pem = some der) (index : Nat)
    (state : StageState) : ∃ after, writeChainDer env layout index chain state = .ok after := by
  induction chain generalizing index state with
  | nil => exact ⟨state, rfl⟩
  | cons first rest ih =>
      obtain ⟨der, read⟩ := readable first List.mem_cons_self
      rw [writeChainDer, read]
      exact ih (fun pem member => readable pem (List.mem_cons_of_mem _ member)) _ _

theorem chainReadable_of_ok {caChain : String} {state after : StageState}
    (written : writeCaChain env layout caChain state = .ok after) :
    ChainReadable env.pemCertToDer caChain := by
  rw [writeCaChain] at written
  split at written
  · rename_i empty
    subst empty
    exact fun pem member => nomatch member
  · obtain ⟨middle, first, _⟩ := Fallible.bind_eq_ok.mp written
    exact writeChainDer_eq_ok first

/-- The CA chain is written to the end when every certificate can be read. -/
theorem writeCaChain_isOk {caChain : String} (readable : ChainReadable env.pemCertToDer caChain)
    (state : StageState) : ∃ after, writeCaChain env layout caChain state = .ok after := by
  rw [writeCaChain]
  split
  · exact ⟨state, rfl⟩
  · obtain ⟨middle, first⟩ : ∃ after, writeChainDer env layout 1 (splitPemChain caChain)
        ((state.write layout.issuerCertsDir "ca-chain.pem" (textBytes caChain)).write
          layout.trustedCertsDir "ca-chain.pem" (textBytes caChain)) = .ok after :=
      writeChainDer_isOk readable 1 _
    cases chain : splitPemChain caChain with
    | nil =>
        rw [chain] at first
        exact ⟨middle, Fallible.bind_eq_ok.mpr ⟨middle, first, rfl⟩⟩
    | cons block rest =>
        rw [ChainReadable, chain] at readable
        obtain ⟨interDer, inter⟩ := readable block List.mem_cons_self
        obtain ⟨rootDer, root⟩ := readable _ (List.getLast_mem (List.cons_ne_nil block rest))
        rw [chain] at first
        have aliases :
            ∃ after, writeChainAliases env layout (block :: rest) middle = .ok after := by
          rw [writeChainAliases, root, inter]
          exact ⟨_, rfl⟩
        obtain ⟨after, second⟩ := aliases
        exact ⟨after, Fallible.bind_eq_ok.mpr ⟨middle, first, second⟩⟩

/-- The names of the files of a CA chain. -/
def IsCaName (name : String) : Prop :=
  name ∈ ["ca-chain.pem", "labshock_root_ca.der", "labshock_intermediate_ca.der"] ∨
    ∃ index : Nat, name = "ca-chain-" ++ toString index ++ ".der"

theorem IsCaName.isCertificateName {name : String} (isName : IsCaName name) :
    IsCertificateName name := by
  rcases isName with fixed | ⟨index, rfl⟩
  · revert name
    unfold IsCertificateName
    decide
  · exact isCertificateName_der _

section Allowed

variable {allowed : String × List UInt8 → Prop}

theorem adds_writeChainDer
    (issuer : ∀ name, IsCaName name → ∀ content,
      allowed (FileTree.join layout.issuerCertsDir name, content))
    (trusted : ∀ name, IsCaName name → ∀ content,
      allowed (FileTree.join layout.trustedCertsDir name, content))
    (index : Nat) (chain : List String) (state : StageState) :
    Adds allowed state (writeChainDer env layout index chain state) := by
  induction chain generalizing index state with
  | nil => exact .refl state
  | cons first rest ih =>
      rw [writeChainDer]
      split
      · exact .raised state
      · have isName : IsCaName ("ca-chain-" ++ toString index ++ ".der") := .inr ⟨index, rfl⟩
        exact ((Adds.write (issuer _ isName _) state).trans (.write (trusted _ isName _) _)).trans
          (ih _ _)

theorem adds_writeChainAliases
    (trusted : ∀ name, IsCaName name → ∀ content,
      allowed (FileTree.join layout.trustedCertsDir name, content))
    (chain : List String) (state : StageState) :
    Adds allowed state (writeChainAliases env layout chain state) := by
  unfold writeChainAliases
  split
  · exact .refl state
  · split
    · exact (Adds.write (trusted _ (.inl (by decide)) _) state).trans
        (.write (trusted _ (.inl (by decide)) _) _)
    · exact .raised state

/-- The text of the chain is the first file of all. -/
theorem writeCaChain_first
    (issuer : ∀ name, IsCaName name → ∀ content,
      allowed (FileTree.join layout.issuerCertsDir name, content))
    (trusted : ∀ name, IsCaName name → ∀ content,
      allowed (FileTree.join layout.trustedCertsDir name, content))
    {caChain : String} (notEmpty : caChain ≠ "") (state : StageState) :
    Adds allowed (state.write layout.issuerCertsDir "ca-chain.pem" (textBytes caChain))
      (writeCaChain env layout caChain state) := by
  rw [writeCaChain, if_neg notEmpty]
  have copied := Adds.write
    (trusted "ca-chain.pem" (.inl (by decide)) (textBytes caChain))
    (state.write layout.issuerCertsDir "ca-chain.pem" (textBytes caChain))
  apply copied.trans
  apply Adds.bind (adds_writeChainDer issuer trusted _ _ _)
  intro after _
  exact adds_writeChainAliases trusted _ _

theorem adds_writeCaChain
    (issuer : ∀ name, IsCaName name → ∀ content,
      allowed (FileTree.join layout.issuerCertsDir name, content))
    (trusted : ∀ name, IsCaName name → ∀ content,
      allowed (FileTree.join layout.trustedCertsDir name, content))
    (caChain : String) (state : StageState) :
    Adds allowed state (writeCaChain env layout caChain state) := by
  by_cases empty : caChain = ""
  · rw [writeCaChain, if_pos empty]
    exact .refl state
  · exact (Adds.write (issuer _ (.inl (by decide)) _) state).trans
      (writeCaChain_first issuer trusted empty state)

end Allowed

/-! ## The CRLs -/

/-- A CRL step depends on what its text decodes to. -/
theorem writeCrl_eq (stem crlBase64 : String) (state : StageState) :
    writeCrl layout stem crlBase64 state =
      match crlRead crlBase64 with
      | none => .ok state
      | some none => .error state
      | some (some content) =>
          let state := writeCrlDirs layout (stem ++ ".crl") content state
          if stem = "vault_intermediate" then
            .ok ((state.write layout.issuerCrlDir "current.crl" content).write
              layout.trustedCrlDir "current.crl" content)
          else .ok state := by
  unfold writeCrl crlRead
  split
  · rfl
  · cases Base64.decode crlBase64.toList <;> rfl

/-- The CRL stage depends on what the two texts decode to. -/
theorem writeCrls_congr {rootCrl otherRoot intermediateCrl otherIntermediate : String}
    (root : crlRead rootCrl = crlRead otherRoot)
    (absent : intermediateCrl = "" ↔ otherIntermediate = "")
    (intermediate : crlRead rootCrl ≠ some none →
      crlRead intermediateCrl = crlRead otherIntermediate) (state : StageState) :
    writeCrls env layout rootCrl intermediateCrl state =
      writeCrls env layout otherRoot otherIntermediate state := by
  unfold writeCrls
  simp only [← crlRead_eq_none_iff] at absent ⊢
  simp only [← root, absent, writeCrl_eq]
  by_cases failed : crlRead rootCrl = some none
  · rw [failed]
    simp [bind, Except.bind]
  · rw [intermediate failed]

theorem issuerCrlDir_active : layout.issuerCrlDir ∈ activeCrlDirs layout :=
  List.mem_cons_self

theorem trustedCrlDir_active : layout.trustedCrlDir ∈ activeCrlDirs layout :=
  List.mem_cons_of_mem _ List.mem_cons_self

section Allowed

variable {allowed : String × List UInt8 → Prop}

theorem adds_writeDirs {dirs : List String} {name : String} {content : List UInt8}
    (isAllowed : ∀ dir ∈ dirs, allowed (FileTree.join dir name, content)) (state : StageState) :
    Adds allowed state
      (.ok (dirs.foldl (fun state dir => state.write dir name content) state)) := by
  induction dirs generalizing state with
  | nil => exact .refl state
  | cons dir rest ih =>
      have later := ih (fun dir member => isAllowed dir (List.mem_cons_of_mem _ member))
        (state.write dir name content)
      exact (Adds.write (isAllowed dir List.mem_cons_self) state).trans later

/-- The files that one CRL step may write. -/
def CrlAllowed (layout : StageLayout) (allowed : String × List UInt8 → Prop)
    (stem crlBase64 : String) : Prop :=
  ∀ content, crlRead crlBase64 = some (some content) →
    ∀ dir ∈ activeCrlDirs layout, allowed (FileTree.join dir (stem ++ ".crl"), content) ∧
      (stem = "vault_intermediate" → allowed (FileTree.join dir "current.crl", content))

theorem adds_currentCrl {stem crlBase64 : String} {content : List UInt8} {before state : StageState}
    (isAllowed : CrlAllowed layout allowed stem crlBase64)
    (read : crlRead crlBase64 = some (some content))
    (dirs : Adds allowed before (.ok state)) :
    Adds allowed before
      (if stem = "vault_intermediate" then
        .ok ((state.write layout.issuerCrlDir "current.crl" content).write
          layout.trustedCrlDir "current.crl" content)
      else .ok state) := by
  split
  · rename_i isIntermediate
    have issuer := (isAllowed content read _ issuerCrlDir_active).2 isIntermediate
    have trusted := (isAllowed content read _ trustedCrlDir_active).2 isIntermediate
    exact (dirs.trans (.write issuer state)).trans (.write trusted _)
  · exact dirs

theorem adds_writeCrl {stem crlBase64 : String}
    (isAllowed : CrlAllowed layout allowed stem crlBase64) (state : StageState) :
    Adds allowed state (writeCrl layout stem crlBase64 state) := by
  rw [writeCrl_eq]
  cases read : crlRead crlBase64 with
  | none => exact .refl state
  | some decoded =>
      cases decoded with
      | none => exact .raised state
      | some content =>
          apply adds_currentCrl isAllowed read
          exact adds_writeDirs (fun dir active => (isAllowed content read dir active).1) state

/-- A CRL with bytes goes to the issuer directory first. -/
theorem writeCrl_first {stem crlBase64 : String} {content : List UInt8}
    (isAllowed : CrlAllowed layout allowed stem crlBase64)
    (read : crlRead crlBase64 = some (some content)) (state : StageState) :
    Adds allowed (state.write layout.issuerCrlDir (stem ++ ".crl") content)
      (writeCrl layout stem crlBase64 state) := by
  rw [writeCrl_eq, read]
  apply adds_currentCrl isAllowed read
  have others : ∀ dir ∈ layout.trustedCrlDir :: (compatCrlDir layout).toList,
      allowed (FileTree.join dir (stem ++ ".crl"), content) := fun dir member =>
    (isAllowed content read dir (List.mem_cons_of_mem _ member)).1
  exact adds_writeDirs others _

theorem mem_snapshotCrlDirs {file : String × List UInt8} {tree : FileTree} :
    file ∈ snapshotCrlDirs layout tree →
      file ∈ tree ∧ ∃ dir ∈ activeCrlDirs layout, ∃ name, file.1 = FileTree.join dir name := by
  intro member
  obtain ⟨dir, active, inDir⟩ := List.mem_flatMap.mp member
  have listed := FileTree.mem_filesIn.mp (List.mem_of_mem_filter inDir)
  exact ⟨listed.1, dir, active, _, listed.2⟩

theorem adds_restoreCrlSnapshot {snapshot : FileTree} (isAllowed : ∀ file ∈ snapshot, allowed file)
    (state : StageState) : Adds allowed state (.error (restoreCrlSnapshot snapshot state)) := by
  induction snapshot generalizing state with
  | nil => exact .raised state
  | cons file rest ih =>
      have one : Adds allowed state
          (.ok { tree := state.tree.write file.1 file.2, log := state.log ++ [file] }) := by
        refine ⟨⟨[file], rfl, ?_⟩, ?_⟩
        · intro other member
          rw [List.mem_singleton] at member
          exact member ▸ isAllowed file List.mem_cons_self
        · intro other member
          rcases FileTree.mem_write member with rfl | earlier
          · exact Or.inr (isAllowed file List.mem_cons_self)
          · exact Or.inl earlier
      exact one.trans (ih (fun file member => isAllowed file (List.mem_cons_of_mem _ member)) _)

theorem mem_removeStaleGdsCrlAliases {file : String × List UInt8} {tree : FileTree}
    (member : file ∈ removeStaleGdsCrlAliases layout tree) : file ∈ tree := by
  have files (stale tree : FileTree) {file : String × List UInt8}
      (member : file ∈ stale.foldl (fun tree file => tree.delete file.1) tree) : file ∈ tree := by
    induction stale generalizing tree with
    | nil => exact member
    | cons first rest ih => exact List.mem_of_mem_filter (ih _ member)
  unfold removeStaleGdsCrlAliases at member
  generalize activeCrlDirs layout = dirs at member
  induction dirs generalizing tree with
  | nil => exact member
  | cons dir rest ih => exact files _ tree (ih member)

theorem adds_writeCrls {rootCrl intermediateCrl : String} {state : StageState}
    (root : CrlAllowed layout allowed "root_ca" rootCrl)
    (intermediate : CrlAllowed layout allowed "vault_intermediate" intermediateCrl)
    (snapshot : ∀ file ∈ snapshotCrlDirs layout state.tree, allowed file) :
    Adds allowed state (writeCrls env layout rootCrl intermediateCrl state) := by
  unfold writeCrls
  split
  · exact .refl state
  · have removed : Adds allowed state
        (.ok { state with tree := removeStaleGdsCrlAliases layout state.tree }) :=
      .nothing rfl fun file member => mem_removeStaleGdsCrlAliases member
    apply removed.trans
    apply Adds.bind (adds_writeCrl root _)
    intro first _
    apply Adds.bind (adds_writeCrl intermediate _)
    intro second _
    split
    · exact adds_restoreCrlSnapshot snapshot second
    · exact .refl second

end Allowed

theorem crlAllowed_trivial (stem crlBase64 : String) :
    CrlAllowed layout (fun _ => True) stem crlBase64 :=
  fun _ _ _ _ => ⟨trivial, fun _ => trivial⟩

/-- A root CRL with bytes is the first CRL file. -/
theorem writeCrls_first_root {rootCrl intermediateCrl : String} {content : List UInt8}
    (read : crlRead rootCrl = some (some content)) (state : StageState) :
    Adds (fun _ => True)
      (StageState.write { state with tree := removeStaleGdsCrlAliases layout state.tree }
        layout.issuerCrlDir "root_ca.crl" content)
      (writeCrls env layout rootCrl intermediateCrl state) := by
  have notEmpty : ¬ (rootCrl = "" ∧ intermediateCrl = "") := by
    intro both
    rw [crlRead_eq_none_iff.mpr both.1] at read
    cases read
  rw [writeCrls, if_neg notEmpty]
  apply Adds.bind (writeCrl_first (crlAllowed_trivial "root_ca" rootCrl) read _)
  intro first _
  apply Adds.bind (adds_writeCrl (crlAllowed_trivial _ _) _)
  intro second _
  split
  · exact adds_restoreCrlSnapshot (fun _ _ => trivial) second
  · exact .refl second

theorem writeCrl_isOk {stem crlBase64 : String} (decodes : crlRead crlBase64 ≠ some none)
    (state : StageState) : ∃ after, writeCrl layout stem crlBase64 state = .ok after := by
  rw [writeCrl_eq]
  split
  · exact ⟨_, rfl⟩
  · rename_i failed
    exact absurd failed decodes
  · dsimp only
    split
    · exact ⟨_, rfl⟩
    · exact ⟨_, rfl⟩

/-- An intermediate CRL with bytes is the first CRL file after the root CRL. -/
theorem writeCrls_first_intermediate {allowed : String × List UInt8 → Prop}
    {rootCrl intermediateCrl : String} {content : List UInt8}
    (rootDecodes : crlRead rootCrl ≠ some none)
    (root : CrlAllowed layout allowed "root_ca" rootCrl)
    (read : crlRead intermediateCrl = some (some content)) (state : StageState) :
    ∃ first, Adds allowed state (.ok first) ∧
      Adds (fun _ => True)
        (first.write layout.issuerCrlDir "vault_intermediate.crl" content)
        (writeCrls env layout rootCrl intermediateCrl state) := by
  have notEmpty : ¬ (rootCrl = "" ∧ intermediateCrl = "") := by
    intro both
    rw [crlRead_eq_none_iff.mpr both.2] at read
    cases read
  obtain ⟨first, rootWritten⟩ : ∃ after, writeCrl layout "root_ca" rootCrl
      { state with tree := removeStaleGdsCrlAliases layout state.tree } = .ok after :=
    writeCrl_isOk rootDecodes _
  have removed : Adds allowed state
      (.ok { state with tree := removeStaleGdsCrlAliases layout state.tree }) :=
    .nothing rfl fun file member => mem_removeStaleGdsCrlAliases member
  have written := adds_writeCrl root
    { state with tree := removeStaleGdsCrlAliases layout state.tree }
  rw [rootWritten] at written
  refine ⟨first, removed.trans written, ?_⟩
  rw [writeCrls, if_neg notEmpty]
  simp only [rootWritten, bind, Except.bind]
  apply Adds.bind
    (writeCrl_first (crlAllowed_trivial "vault_intermediate" intermediateCrl) read first)
  intro second _
  split
  · exact adds_restoreCrlSnapshot (fun _ _ => trivial) second
  · exact .refl second

/-! ## CRLs that pass the validation -/

theorem StageState.read_write_of_read {state : StageState} {path dir name : String}
    {content written : List UInt8} (found : state.tree.read path = some content)
    (same : FileTree.join dir name = path → written = content) :
    (state.write dir name written).tree.read path = some content := by
  by_cases here : FileTree.join dir name = path
  · rw [← here, same here]
    exact FileTree.read_write_self _ _ _
  · exact (FileTree.read_write_of_ne (Ne.symm here) _ _).trans found

theorem read_writeDirs_of_read {path name : String} {content written : List UInt8}
    (same : ∀ dir, FileTree.join dir name = path → written = content) (dirs : List String)
    {state : StageState} (found : state.tree.read path = some content) :
    (dirs.foldl (fun state dir => state.write dir name written) state).tree.read path =
      some content := by
  induction dirs generalizing state with
  | nil => exact found
  | cons dir rest ih => exact ih (StageState.read_write_of_read found (same dir))

theorem writeCrl_reads {stem crlBase64 : String} {decoded : Option (List UInt8)}
    (notCurrent : ∀ dir otherDir,
      FileTree.join dir "current.crl" ≠ FileTree.join otherDir (stem ++ ".crl"))
    (read : crlRead crlBase64 = some decoded) {state after : StageState}
    (written : writeCrl layout stem crlBase64 state = .ok after) :
    ∃ content, decoded = some content ∧
      after.tree.read (FileTree.join layout.issuerCrlDir (stem ++ ".crl")) = some content := by
  rw [writeCrl_eq, read] at written
  cases decoded with
  | none => cases written
  | some content =>
      have dirs : (writeCrlDirs layout (stem ++ ".crl") content state).tree.read
          (FileTree.join layout.issuerCrlDir (stem ++ ".crl")) = some content :=
        read_writeDirs_of_read (fun _ _ => rfl)
          (layout.trustedCrlDir :: (compatCrlDir layout).toList)
          (FileTree.read_write_self _ _ state.tree)
      dsimp only at written
      split at written
      · cases written
        exact ⟨content, rfl, StageState.read_write_of_read
          (StageState.read_write_of_read dirs fun same => absurd same (notCurrent _ _))
          fun same => absurd same (notCurrent _ _)⟩
      · cases written
        exact ⟨content, rfl, dirs⟩

theorem writeCrl_keeps {stem crlBase64 path : String} {content : List UInt8}
    (other : ∀ dir, FileTree.join dir (stem ++ ".crl") ≠ path)
    (notCurrent : ∀ dir, FileTree.join dir "current.crl" ≠ path) {state after : StageState}
    (found : state.tree.read path = some content)
    (written : writeCrl layout stem crlBase64 state = .ok after) :
    after.tree.read path = some content := by
  rw [writeCrl_eq] at written
  split at written
  · cases written
    exact found
  · cases written
  · rename_i bytes _
    have dirs : (writeCrlDirs layout (stem ++ ".crl") bytes state).tree.read path =
        some content :=
      read_writeDirs_of_read (fun dir same => absurd same (other dir)) _ found
    dsimp only at written
    split at written
    · cases written
      exact StageState.read_write_of_read
        (StageState.read_write_of_read dirs fun same => absurd same (notCurrent _))
        fun same => absurd same (notCurrent _)
    · cases written
      exact dirs

/-- A CRL in the issuer directory that the validation lets pass has a next update. -/
theorem nextUpdate_of_noProblems {tree : FileTree} {name : String} {content : List UInt8}
    (noProblems : hasCrlProblems env layout tree = false) (plain : '/' ∉ name.toList)
    (isCrl : hasSuffix ".crl" (PythonText.lower name) = true)
    (notEncoded : hasSuffix ".crl.b64" (PythonText.lower name) = false)
    (found : tree.read (FileTree.join layout.issuerCrlDir name) = some content) :
    ∃ nextUpdate, env.crlNextUpdate content = some (some nextUpdate) := by
  have named := FileTree.nameOf_join plain layout.issuerCrlDir
  have listed : (FileTree.join layout.issuerCrlDir name, content) ∈
      tree.filesIn layout.issuerCrlDir :=
    FileTree.mem_filesIn.mpr ⟨FileTree.mem_of_read found, by rw [named]⟩
  rw [hasCrlProblems, List.any_eq_false] at noProblems
  have inDir := noProblems _ issuerCrlDir_active
  rw [Bool.not_eq_true, List.any_eq_false] at inDir
  have file := inDir _ listed
  simp only [isCrlFile, isCrlProblem, named, isCrl, notEncoded, Bool.true_or, Bool.true_and,
    Bool.false_eq_true, if_false, Option.bind_some] at file
  cases read : env.crlNextUpdate content with
  | none => rw [read] at file; exact absurd rfl file
  | some moment =>
      cases moment with
      | none => rw [read] at file; exact absurd rfl file
      | some nextUpdate => exact ⟨nextUpdate, rfl⟩

theorem crlsUsable_of_ok {rootCrl intermediateCrl : String} {state after : StageState}
    (written : writeCrls env layout rootCrl intermediateCrl state = .ok after) :
    CrlUsable env.crlNextUpdate rootCrl ∧ CrlUsable env.crlNextUpdate intermediateCrl := by
  have rootPlain : '/' ∉ ("root_ca" ++ ".crl").toList := by decide
  have intermediatePlain : '/' ∉ ("vault_intermediate" ++ ".crl").toList := by decide
  have currentPlain : '/' ∉ "current.crl".toList := by decide
  rw [writeCrls] at written
  split at written
  · rename_i empty
    constructor
    · intro read found
      rw [crlRead_eq_none_iff.mpr empty.1] at found
      cases found
    · intro read found
      rw [crlRead_eq_none_iff.mpr empty.2] at found
      cases found
  · obtain ⟨first, rootWritten, rest⟩ := Fallible.bind_eq_ok.mp written
    obtain ⟨second, intermediateWritten, validated⟩ := Fallible.bind_eq_ok.mp rest
    have noProblems : hasCrlProblems env layout second.tree = false := by
      split at validated
      · cases validated
      · rwa [Bool.not_eq_true] at *
    constructor
    · intro decoded read
      obtain ⟨content, here, stored⟩ := writeCrl_reads
        (FileTree.join_ne_of_name currentPlain rootPlain (by decide)) read rootWritten
      have kept := writeCrl_keeps
        (fun dir => FileTree.join_ne_of_name intermediatePlain rootPlain (by decide) dir _)
        (fun dir => FileTree.join_ne_of_name currentPlain rootPlain (by decide) dir _)
        stored intermediateWritten
      obtain ⟨nextUpdate, usable⟩ := nextUpdate_of_noProblems noProblems rootPlain (by decide)
        (by decide) kept
      exact ⟨content, nextUpdate, here, usable⟩
    · intro decoded read
      obtain ⟨content, here, stored⟩ := writeCrl_reads
        (FileTree.join_ne_of_name currentPlain intermediatePlain (by decide)) read
        intermediateWritten
      obtain ⟨nextUpdate, usable⟩ := nextUpdate_of_noProblems noProblems intermediatePlain
        (by decide) (by decide) stored
      exact ⟨content, nextUpdate, here, usable⟩

/-! ## Peer certificates -/

/-- The names of the files of peer certificates. -/
def IsPeerName (entries : List Json) (name : String) : Prop :=
  ∃ cert ∈ entries, cert.isObject = true ∧
    ∃ fresh, ∃ ending ∈ [".pem", ".der"], name = (certificateFile fresh cert).1 ++ ending

theorem IsPeerName.isCertificateName {entries : List Json} {name : String}
    (isName : IsPeerName entries name) : IsCertificateName name := by
  obtain ⟨cert, _, _, fresh, ending, among, rfl⟩ := isName
  rcases List.mem_pair.mp among with rfl | rfl
  · exact isCertificateName_pem _
  · exact isCertificateName_der _

section Allowed

variable {allowed : String × List UInt8 → Prop}

theorem adds_writeCertificate {cert : Json}
    (trusted : ∀ name, IsPeerName [cert] name → ∀ content,
      allowed (FileTree.join layout.trustedCertsDir name, content))
    (fresh : String) (state : StageState) :
    Adds allowed state (writeCertificate env layout fresh cert state) := by
  have peer (isObject : cert.isObject = true) (ending : String) (among : ending ∈ [".pem", ".der"])
      (content : List UInt8) : allowed (FileTree.join layout.trustedCertsDir
        ((certificateFile fresh cert).1 ++ ending), content) :=
    trusted _ ⟨cert, List.mem_singleton_self cert, isObject, fresh, ending, among, rfl⟩ content
  unfold writeCertificate
  split
  · rename_i isObject
    have pem := peer isObject ".pem" (by decide)
    have der := peer isObject ".der" (by decide)
    dsimp only
    split
    · exact .refl state
    · split
      · exact (Adds.write (pem _) state).trans (.raised _)
      · exact (Adds.write (pem _) state).trans (.write (der _) _)
  · exact .raised state

theorem adds_writeCertificates {entries : List Json}
    (trusted : ∀ name, IsPeerName entries name → ∀ content,
      allowed (FileTree.join layout.trustedCertsDir name, content))
    (uuids : Nat → String) (index : Nat) (state : StageState) :
    Adds allowed state (writeCertificates env layout uuids index entries state) := by
  induction entries generalizing index state with
  | nil => exact .refl state
  | cons cert rest ih =>
      rw [writeCertificates]
      apply Adds.bind
      · apply adds_writeCertificate
        rintro name ⟨other, member, others⟩
        exact trusted name ⟨other, List.mem_cons.mpr (.inl (List.mem_singleton.mp member)), others⟩
      · intro after _
        refine ih (fun name isName => trusted name ?_) _ _
        obtain ⟨other, member, others⟩ := isName
        exact ⟨other, List.mem_cons_of_mem _ member, others⟩

end Allowed

end Writer

end OpcuaGds.Agent
