import OpcuaGds.Agent.StageWrites
import OpcuaGds.Foundation.FailedWrites

/-! # Trust material and operations that fail

`_write_target_stage_material` on a runtime tree, with the outcome of every operation on
files. The parts of the writer are the writes that it attempts in order; the first that fails
ends the call, and only CRLs that the validation refuses are rolled back.
-/

namespace OpcuaGds.Agent

open FileTree (WriteOutcome tryWrites)

/-- How the operations on files of one call turn out. -/
structure StageOutcomes where
  dirsMade : Bool
  caWrite : Nat → WriteOutcome
  compatDirMade : Bool
  snapshotRead : String → Bool
  unlinked : String → Bool
  crlWrite : Nat → WriteOutcome
  validationRead : String → Bool
  restore : String → WriteOutcome
  certificateWrite : Nat → WriteOutcome

/-- A part of the writer: its writes, and whether it comes to its end when none fails. -/
structure StagePart where
  writes : FileWrites
  complete : Bool

def StageStep.part : StageStep → StagePart
  | .ok state => ⟨state.log, true⟩
  | .error state => ⟨state.log, false⟩

/-- The files after a part, in `.error` when it raises. -/
def StagePart.run (part : StagePart) (optional : String → Bool) (outcome : Nat → WriteOutcome)
    (tree : FileTree) : Except FileTree FileTree :=
  match tryWrites optional outcome 0 part.writes tree with
  | .error left => .error left
  | .ok after => if part.complete then .ok after else .error after

section Writer

variable (env : StageEnvironment) (layout : StageLayout) (outcomes : StageOutcomes)
  (uuids : Nat → String) (artifact : Json)

def caPart : StagePart := (writeCaChain env layout (caChainText artifact) ⟨[], []⟩).part

def crlPart : StagePart :=
  StageStep.part do
    let state ← writeCrl layout "root_ca" (rootCrlText artifact) ⟨[], []⟩
    writeCrl layout "vault_intermediate" (intermediateCrlText artifact) state

def certificatePart : StagePart :=
  (writeCertificates env layout uuids 0 (certificateEntries artifact) ⟨[], []⟩).part

/-- `optional_atomic_write_bytes` is used for the aliases in the compat directory. -/
def isOptionalCrl (path : String) : Bool :=
  match compatCrlDir layout with
  | none => false
  | some dir =>
      [FileTree.join dir "root_ca.crl", FileTree.join dir "vault_intermediate.crl"].contains
      path

/-- `_snapshot_crl_dirs`; a file that cannot be read is passed over. -/
def snapshotReadable (tree : FileTree) : FileTree :=
  (snapshotCrlDirs layout tree).filter fun file => outcomes.snapshotRead file.1

/-- `_remove_stale_gds_crl_aliases`; a file that cannot be removed stays. -/
def removeUnlinked (tree : FileTree) : FileTree :=
  (activeCrlDirs layout).foldl (fun tree dir =>
    ((tree.filesIn dir).filter fun file => isGdsCrlAlias file.1 && outcomes.unlinked file.1).foldl
      (fun tree file => tree.delete file.1) tree) tree

/-- A CRL file that cannot be read ends `_validate_crl_dirs` with its `OSError`. -/
def validationRaises (tree : FileTree) : Bool :=
  (activeCrlDirs layout).any fun dir =>
    (tree.filesIn dir).any fun file => isCrlFile file.1 && !outcomes.validationRead file.1

/-- One file of `_restore_crl_snapshot`; errors are only logged. -/
def restoreFile (file : String × List UInt8) (tree : FileTree) : FileTree :=
  match outcomes.restore file.1 with
  | .done => tree.write file.1 file.2
  | .fails _ leftover => tree.leave file.1 (leftover.map fun left => (left.1.text, left.2))

def restoreFiles (snapshot tree : FileTree) : FileTree :=
  snapshot.foldl (fun tree file => restoreFile outcomes file tree) tree

/-- Clean, write, validate, and roll back when there are problems. -/
def applyCrls (tree : FileTree) : Except FileTree FileTree :=
  if rootCrlText artifact = "" ∧ intermediateCrlText artifact = "" then .ok tree
  else do
    let snapshot := snapshotReadable layout outcomes tree
    let written ← (crlPart layout artifact).run (isOptionalCrl layout) outcomes.crlWrite
      (removeUnlinked layout outcomes tree)
    if validationRaises layout outcomes written then .error written
    else if hasCrlProblems env layout written then .error (restoreFiles outcomes snapshot written)
    else .ok written

/-- `compat_crl_dir.mkdir`. -/
def makeCompatDir (tree : FileTree) : Except FileTree FileTree :=
  if (compatCrlDir layout).isSome ∧ outcomes.compatDirMade = false then .error tree else .ok tree

/-- `_write_target_stage_material`. -/
def applyTargetStageMaterial (tree : FileTree) : Except FileTree FileTree :=
  if outcomes.dirsMade = false then .error tree
  else if artifact.isObject = false then .error tree
  else do
    let tree ← (caPart env layout artifact).run (fun _ => false) outcomes.caWrite tree
    let tree ← makeCompatDir layout outcomes tree
    let tree ← applyCrls env layout outcomes artifact tree
    (certificatePart env layout uuids artifact).run (fun _ => false) outcomes.certificateWrite tree

end Writer

/-- The files that a call leaves. -/
def leftFiles : Except FileTree FileTree → FileTree
  | .ok tree => tree
  | .error tree => tree

/-! ## Without failures -/

/-- What a step leaves, in `.error` when it raises. -/
def StageStep.files : StageStep → Except FileTree FileTree
  | .ok state => .ok state.tree
  | .error state => .error state.tree

/-- The writes of the part, none of which fails. -/
def StagePart.replay (part : StagePart) (state : StageState) : StageStep :=
  let after : StageState :=
    ⟨FileTree.writeAll part.writes state.tree, state.log ++ part.writes⟩
  if part.complete then .ok after else .error after

/-- The writes of a step do not depend on the files. -/
def MakesWrites (step : StageState → StageStep) : Prop :=
  ∃ part : StagePart, ∀ state, step state = part.replay state

namespace MakesWrites

variable {step next : StageState → StageStep}

theorem ok : MakesWrites fun state => .ok state := by
  refine ⟨⟨[], true⟩, fun state => ?_⟩
  rw [StagePart.replay, if_pos rfl, List.append_nil]
  rfl

theorem raised : MakesWrites fun state => .error state := by
  refine ⟨⟨[], false⟩, fun state => ?_⟩
  rw [StagePart.replay, if_neg Bool.false_ne_true, List.append_nil]
  rfl

theorem write (dir name : String) (content : List UInt8) :
    MakesWrites fun state => .ok (state.write dir name content) :=
  ⟨⟨[(FileTree.join dir name, content)], true⟩, fun _ => rfl⟩

theorem bind (first : MakesWrites step) (second : MakesWrites next) :
    MakesWrites fun state => step state >>= next := by
  obtain ⟨part, replays⟩ := first
  obtain ⟨rest, later⟩ := second
  refine ⟨if part.complete then ⟨part.writes ++ rest.writes, rest.complete⟩ else part,
    fun state => ?_⟩
  dsimp only
  rw [replays, StagePart.replay]
  cases complete : part.complete with
  | false =>
      rw [if_neg Bool.false_ne_true, if_neg Bool.false_ne_true, StagePart.replay, complete]
      rfl
  | true =>
      rw [if_pos rfl, if_pos rfl]
      refine (later _).trans ?_
      simp only [StagePart.replay, FileTree.writeAll, List.foldl_append, List.append_assoc]

/-- A step is its part, run without a failure. -/
theorem run_eq (makes : MakesWrites step) {outcome : Nat → WriteOutcome}
    (all : ∀ index, outcome index = .done) (optional : String → Bool) (tree log : FileTree) :
    (step ⟨[], []⟩).part.run optional outcome tree = (step ⟨tree, log⟩).files := by
  obtain ⟨⟨writes, complete⟩, replays⟩ := makes
  rw [replays, replays, StagePart.replay, StagePart.replay]
  cases complete with
  | false =>
      simp only [Bool.false_eq_true, if_false, StageStep.part, StagePart.run,
        FileTree.tryWrites_of_done all, List.nil_append, StageStep.files]
  | true =>
      simp only [if_true, StageStep.part, StagePart.run, FileTree.tryWrites_of_done all,
        List.nil_append, StageStep.files]

end MakesWrites

section Parts

variable {env : StageEnvironment} {layout : StageLayout} {uuids : Nat → String}

theorem makesWrites_chainDer (index : Nat) (chain : List String) :
    MakesWrites (writeChainDer env layout index chain) := by
  induction chain generalizing index with
  | nil => exact .ok
  | cons pem rest ih =>
      cases read : env.pemCertToDer pem with
      | none =>
          have step : writeChainDer env layout index (pem :: rest) = fun state => .error state :=
            funext fun state => by rw [writeChainDer, read]
          rw [step]
          exact .raised
      | some der =>
          let name := "ca-chain-" ++ toString index ++ ".der"
          have step : writeChainDer env layout index (pem :: rest) = fun state =>
              (Except.ok (state.write layout.issuerCertsDir name der) : StageStep) >>= fun state =>
                (Except.ok (state.write layout.trustedCertsDir name der) : StageStep) >>=
                  writeChainDer env layout (index + 1) rest :=
            funext fun state => by rw [writeChainDer, read]; rfl
          rw [step]
          exact (MakesWrites.write _ _ _).bind ((MakesWrites.write _ _ _).bind (ih _))

theorem makesWrites_chainAliases (chain : List String) :
    MakesWrites (writeChainAliases env layout chain) := by
  unfold writeChainAliases
  cases chain with
  | nil => exact .ok
  | cons first rest =>
      dsimp only
      cases env.pemCertToDer ((first :: rest).getLast (List.cons_ne_nil _ _)) with
      | none => exact .raised
      | some rootDer =>
          cases env.pemCertToDer first with
          | none => exact .raised
          | some interDer => exact (MakesWrites.write _ _ _).bind (MakesWrites.write _ _ _)

theorem makesWrites_caChain (caChain : String) :
    MakesWrites (writeCaChain env layout caChain) := by
  unfold writeCaChain
  by_cases empty : caChain = ""
  · simp only [if_pos empty]
    exact .ok
  · simp only [if_neg empty]
    exact (MakesWrites.write _ _ _).bind ((MakesWrites.write _ _ _).bind
      ((makesWrites_chainDer _ _).bind (makesWrites_chainAliases _)))

theorem makesWrites_crlDirs (dirs : List String) (name : String) (content : List UInt8) :
    MakesWrites fun state =>
      .ok (dirs.foldl (fun state dir => state.write dir name content) state) := by
  induction dirs with
  | nil => exact .ok
  | cons dir rest ih => exact (MakesWrites.write dir name content).bind ih

theorem makesWrites_crl (stem crlBase64 : String) :
    MakesWrites (writeCrl layout stem crlBase64) := by
  unfold writeCrl
  by_cases empty : crlBase64 = ""
  · simp only [if_pos empty]
    exact .ok
  · simp only [if_neg empty]
    cases Base64.decode crlBase64.toList with
    | none => exact .raised
    | some content =>
        dsimp only
        by_cases intermediate : stem = "vault_intermediate"
        · simp only [if_pos intermediate]
          exact (makesWrites_crlDirs _ _ _).bind ((MakesWrites.write _ _ _).bind
            (MakesWrites.write _ _ _))
        · simp only [if_neg intermediate]
          exact makesWrites_crlDirs _ _ _

theorem makesWrites_certificate (fresh : String) (cert : Json) :
    MakesWrites (writeCertificate env layout fresh cert) := by
  unfold writeCertificate
  cases cert.isObject with
  | false => exact .raised
  | true =>
      simp only [if_true]
      by_cases empty : (certificateFile fresh cert).2 = ""
      · simp only [if_pos empty]
        exact .ok
      · simp only [if_neg empty]
        cases env.pemCertToDer (certificateFile fresh cert).2 with
        | none => exact (MakesWrites.write _ _ _).bind .raised
        | some der => exact (MakesWrites.write _ _ _).bind (MakesWrites.write _ _ _)

theorem makesWrites_certificates (index : Nat) (entries : List Json) :
    MakesWrites (writeCertificates env layout uuids index entries) := by
  induction entries generalizing index with
  | nil => exact .ok
  | cons cert rest ih => exact (makesWrites_certificate _ _).bind (ih _)

end Parts

/-- No operation fails. -/
structure StageOutcomes.Smooth (outcomes : StageOutcomes) : Prop where
  dirsMade : outcomes.dirsMade = true
  caWrite : ∀ index, outcomes.caWrite index = .done
  compatDirMade : outcomes.compatDirMade = true
  snapshotRead : ∀ path, outcomes.snapshotRead path = true
  unlinked : ∀ path, outcomes.unlinked path = true
  crlWrite : ∀ index, outcomes.crlWrite index = .done
  validationRead : ∀ path, outcomes.validationRead path = true
  restore : ∀ path, outcomes.restore path = .done
  certificateWrite : ∀ index, outcomes.certificateWrite index = .done

section Smooth

variable {env : StageEnvironment} {layout : StageLayout} {outcomes : StageOutcomes}
  {uuids : Nat → String} {artifact : Json} (smooth : outcomes.Smooth)
include smooth

theorem restoreFiles_of_smooth (snapshot : FileTree) (state : StageState) :
    restoreFiles outcomes snapshot state.tree = (restoreCrlSnapshot snapshot state).tree := by
  induction snapshot generalizing state with
  | nil => rfl
  | cons file rest ih =>
      rw [restoreFiles, List.foldl_cons, restoreFile, smooth.restore, ← restoreFiles]
      exact ih { tree := state.tree.write file.1 file.2, log := state.log ++ [file] }

theorem applyCrls_of_smooth (state : StageState) :
    applyCrls env layout outcomes artifact state.tree =
      (writeCrls env layout (rootCrlText artifact) (intermediateCrlText artifact) state).files := by
  have snapshot : snapshotReadable layout outcomes state.tree = snapshotCrlDirs layout state.tree :=
    List.filter_eq_self.mpr fun file _ => smooth.snapshotRead file.1
  have removed : removeUnlinked layout outcomes state.tree =
      removeStaleGdsCrlAliases layout state.tree := by
    simp only [removeUnlinked, removeStaleGdsCrlAliases, smooth.unlinked, Bool.and_true]
  have noRaise (tree : FileTree) : validationRaises layout outcomes tree = false := by
    simp [validationRaises, smooth.validationRead]
  have makes : MakesWrites fun state => writeCrl layout "root_ca" (rootCrlText artifact) state >>=
      writeCrl layout "vault_intermediate" (intermediateCrlText artifact) :=
    (makesWrites_crl _ _).bind (makesWrites_crl _ _)
  have parts := makes.run_eq smooth.crlWrite (isOptionalCrl layout)
    (removeStaleGdsCrlAliases layout state.tree) state.log
  unfold applyCrls writeCrls
  split
  · rfl
  · simp only [snapshot, removed, noRaise, crlPart]
    rw [parts]
    cases root : writeCrl layout "root_ca" (rootCrlText artifact)
      ⟨removeStaleGdsCrlAliases layout state.tree, state.log⟩ with
    | error left => rfl
    | ok first =>
        simp only [bind, Except.bind]
        cases writeCrl layout "vault_intermediate" (intermediateCrlText artifact) first with
        | error left => rfl
        | ok second =>
            simp only [StageStep.files, Bool.false_eq_true, if_false]
            split
            · exact congrArg Except.error (restoreFiles_of_smooth smooth _ second)
            · rfl

/-- Without failures the files are those of `writeTargetStageMaterial`. -/
theorem applyTargetStageMaterial_of_smooth (tree : FileTree) :
    applyTargetStageMaterial env layout outcomes uuids artifact tree =
      (writeTargetStageMaterial env layout uuids artifact tree).files := by
  have makes : MakesWrites (writeCaChain env layout (caChainText artifact)) :=
    makesWrites_caChain _
  have caChain := makes.run_eq smooth.caWrite (fun _ => false) tree []
  unfold applyTargetStageMaterial writeTargetStageMaterial
  rw [smooth.dirsMade, if_neg (Ne.symm Bool.false_ne_true)]
  cases artifact.isObject with
  | false => rfl
  | true =>
      rw [if_neg (Ne.symm Bool.false_ne_true), if_pos rfl, caPart, caChain]
      cases writeCaChain env layout (caChainText artifact) ⟨tree, []⟩ with
      | error left => rfl
      | ok first =>
          have made : makeCompatDir layout outcomes first.tree = .ok first.tree :=
            if_neg fun fails => Bool.false_ne_true (fails.2.symm.trans smooth.compatDirMade)
          simp only [StageStep.files, bind, Except.bind, made]
          rw [applyCrls_of_smooth smooth first]
          cases writeCrls env layout (rootCrlText artifact) (intermediateCrlText artifact) first
            with
          | error left => rfl
          | ok second =>
              exact (makesWrites_certificates 0 (certificateEntries artifact)).run_eq
                smooth.certificateWrite (fun _ => false) second.tree second.log

end Smooth

end OpcuaGds.Agent
