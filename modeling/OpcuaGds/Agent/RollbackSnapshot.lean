import OpcuaGds.Agent.ActivationAtomicity
import OpcuaGds.Foundation.Transition

/-! # The rollback snapshot of a plan

Every attempt to activate a plan writes its snapshot into the same directory. When the
snapshot is that of the runtime before the first attempt.
-/

namespace OpcuaGds.Agent

section Statements

variable (crypto : RuntimeCrypto)

/-- One attempt to activate the plan, with what its file operations meet. -/
structure Attempt where
  input : ActivationInput
  outcomes : ActivationOutcomes

def RuntimeState.attempt (state : RuntimeState) (attempt : Attempt) : Option RuntimeState :=
  some (activatePackageRuntime crypto attempt.input attempt.outcomes state).2

/-- The state before the first attempt of a plan. -/
def RuntimeState.unplanned (runtime : FileTree) : RuntimeState := ⟨runtime, [], none, []⟩

/-- If a manifest is stored, it and the snapshot directory list exactly the files of `initial`
that hold no private key, with their contents. -/
structure RuntimeState.SnapshotOf (initial : FileTree) (state : RuntimeState) : Prop where
  listed : ∀ manifest, state.manifest = some manifest →
    (manifest.copiedFiles.map Prod.fst).Nodup ∧ ∀ path sha256,
      (path, sha256) ∈ manifest.copiedFiles ↔
        isPrivateFile path = false ∧
          ∃ content, initial.read path = some content ∧ sha256 = crypto.sha256Hex content
  stored : ∀ manifest, state.manifest = some manifest → ∀ path content,
    state.snapshot.read path = some content ↔
      isPrivateFile path = false ∧ initial.read path = some content

/-- An attempt that goes on to the snapshot finds the files of `initial` that hold no private
key, under names without a backslash, and no temporary file stays in the snapshot directory. -/
def RuntimeState.StartsFrom (initial : FileTree) (state : RuntimeState) (attempt : Attempt) :
    Prop :=
  ∀ keySha256, prepareActivation crypto attempt.input attempt.outcomes state.runtime =
      .ok (keySha256, true) →
    ∀ path, isPrivateFile path = false →
      state.runtime.read path = initial.read path ∧
        ((initial.read path).isSome → slashes path = path ∧
          ∀ leftover, attempt.outcomes.snapshotCopy path = .stops leftover → leftover = none)

end Statements

section Snapshot

variable {crypto : RuntimeCrypto} {outcomes : ActivationOutcomes} {initial snapshot : FileTree}
  {files : FileTree} {state : RuntimeState}

/-- Every file of the directory is one of `initial` that holds no private key. -/
def Within (initial snapshot : FileTree) : Prop :=
  ∀ path content, snapshot.read path = some content →
    isPrivateFile path = false ∧ initial.read path = some content

theorem Within.write {path : String} {content : List UInt8} (within : Within initial snapshot)
    (plain : isPrivateFile path = false) (held : initial.read path = some content) :
    Within initial (snapshot.write path content) := by
  intro other otherContent found
  by_cases here : other = path
  · subst here
    rw [FileTree.read_write_self] at found
    cases found
    exact ⟨plain, held⟩
  · rw [FileTree.read_write_of_ne here] at found
    exact within other otherContent found

/-- A file of the snapshot that is to be copied can be: its content is that of `initial`, its
name has no backslash and its failing copy leaves nothing. -/
def Copyable (outcomes : ActivationOutcomes) (initial : FileTree) (file : String × List UInt8) :
    Prop :=
  isPrivateFile file.1 = false → initial.read file.1 = some file.2 ∧ slashes file.1 = file.1 ∧
    ∀ leftover, outcomes.snapshotCopy file.1 = .stops leftover → leftover = none

/-- The copies into the snapshot keep it within `initial`. -/
theorem snapshotCopies_within (copyable : ∀ file ∈ files, Copyable outcomes initial file)
    (within : Within initial snapshot) :
    Within initial (leftRuntime (snapshotCopies crypto outcomes files snapshot)) := by
  induction files generalizing snapshot with
  | nil => exact within
  | cons file files ih =>
      obtain ⟨path, content⟩ := file
      obtain ⟨here, later⟩ := List.forall_mem_cons.mp copyable
      rw [snapshotCopies]
      split
      · exact ih later within
      · rename_i plain
        obtain ⟨held, named, clean⟩ := here (Bool.eq_false_iff.mpr plain)
        have grown := within.write (Bool.eq_false_iff.mpr plain) held
        dsimp only at named grown
        rw [snapshotPath_of_slashes named, named]
        split
        · rename_i leftover stops
          rw [clean leftover stops]
          exact within
        · split
          · exact grown
          · rw [leftRuntime_map ((path, crypto.sha256Hex content) :: ·)]
            exact ih later grown

/-- No file of the directory goes away. -/
theorem snapshotCopies_isSome {path : String} (there : (snapshot.read path).isSome = true) :
    ((leftRuntime (snapshotCopies crypto outcomes files snapshot)).read path).isSome = true := by
  induction files generalizing snapshot with
  | nil => exact there
  | cons file files ih =>
      obtain ⟨name, content⟩ := file
      have grown := FileTree.isSome_read_write there (snapshotPath name) content
      rw [snapshotCopies]
      split
      · exact ih there
      · split
        · rw [leftRuntime, FileTree.read_leave_of_isSome there]
          exact there
        · split
          · exact grown
          · rw [leftRuntime_map ((slashes name, crypto.sha256Hex content) :: ·)]
            exact ih grown

/-- Copies that do not raise list every file without a private key, and store it. -/
theorem snapshotCopies_ok {copied : List (String × String)} {left : FileTree}
    (copyable : ∀ file ∈ files, Copyable outcomes initial file) (within : Within initial snapshot)
    (taken : snapshotCopies crypto outcomes files snapshot = .ok (copied, left)) :
    copied = (files.filter fun file => !isPrivateFile file.1).map
        (fun file => (file.1, crypto.sha256Hex file.2)) ∧
      ∀ file ∈ files, isPrivateFile file.1 = false → left.read file.1 = some file.2 := by
  induction files generalizing snapshot copied with
  | nil =>
      cases taken
      exact ⟨rfl, fun file member => absurd member List.not_mem_nil⟩
  | cons file files ih =>
      obtain ⟨path, content⟩ := file
      obtain ⟨here, later⟩ := List.forall_mem_cons.mp copyable
      rw [snapshotCopies] at taken
      split at taken
      · rename_i hidden
        obtain ⟨listed, stored⟩ := ih later within taken
        refine ⟨?_, List.forall_mem_cons.mpr ⟨?_, stored⟩⟩
        · rw [List.filter_cons_of_neg (by rw [hidden]; exact Bool.false_ne_true)]
          exact listed
        · intro plain
          rw [hidden] at plain
          cases plain
      · rename_i plain
        have plain : isPrivateFile path = false := Bool.eq_false_iff.mpr plain
        obtain ⟨held, named, clean⟩ := here plain
        have grown := within.write plain held
        dsimp only at named held grown
        rw [snapshotPath_of_slashes named, named] at taken
        split at taken
        · cases taken
        · split at taken
          · cases taken
          · cases rest : snapshotCopies crypto outcomes files (snapshot.write path content) with
            | error raised => rw [rest] at taken; cases taken
            | ok others =>
                rw [rest] at taken
                cases taken
                obtain ⟨listed, stored⟩ := ih later grown rest
                have present : ((leftRuntime (snapshotCopies crypto outcomes files
                    (snapshot.write path content))).read path).isSome = true :=
                  snapshotCopies_isSome (by rw [FileTree.read_write_self]; rfl)
                have final : Within initial (leftRuntime (snapshotCopies crypto outcomes files
                    (snapshot.write path content))) := snapshotCopies_within later grown
                refine ⟨?_, List.forall_mem_cons.mpr ⟨fun _ => ?_, stored⟩⟩
                · rw [List.filter_cons_of_pos (by rw [plain]; rfl), List.map_cons]
                  exact congrArg ((path, crypto.sha256Hex content) :: ·) listed
                · rw [rest] at present final
                  obtain ⟨other, found⟩ := Option.isSome_iff_exists.mp present
                  have same := (final path other found).2.symm.trans held
                  exact found.trans same

/-! ## What an attempt keeps -/

/-- The snapshot directory is within `initial`, and complete if a manifest is stored. -/
structure RuntimeState.Keeps (crypto : RuntimeCrypto) (initial : FileTree) (state : RuntimeState) :
    Prop where
  within : Within initial state.snapshot
  faithful : state.SnapshotOf crypto initial

theorem RuntimeState.Keeps.congr {other : RuntimeState} (keeps : state.Keeps crypto initial)
    (sameSnapshot : other.snapshot = state.snapshot)
    (sameManifest : other.manifest = state.manifest) :
    other.Keeps crypto initial := by
  obtain ⟨within, listed, stored⟩ := keeps
  rw [← sameSnapshot] at within stored
  rw [← sameManifest] at listed stored
  exact ⟨within, listed, stored⟩

/-- More files of `initial` in the directory leave the stored manifest true. -/
theorem RuntimeState.Keeps.grow {left : FileTree} (keeps : state.Keeps crypto initial)
    (within : Within initial left)
    (kept : ∀ path, (state.snapshot.read path).isSome = true → (left.read path).isSome = true) :
    RuntimeState.Keeps crypto initial { state with snapshot := left } := by
  refine ⟨within, keeps.faithful.listed, fun manifest written path content =>
    ⟨within path content, ?_⟩⟩
  intro plainHeld
  have before := (keeps.faithful.stored manifest written path content).mpr plainHeld
  obtain ⟨other, found⟩ := Option.isSome_iff_exists.mp (kept path (by rw [before]; rfl))
  have same := (within path other found).2.symm.trans plainHeld.2
  exact found.trans same

/-- The list of the copied files names the files of `initial` without private keys. -/
theorem listed_files {runtime : FileTree}
    (complete : ∀ path, isPrivateFile path = false → runtime.read path = initial.read path) :
    (((runtime.listing.filter fun file => !isPrivateFile file.1).map
        fun file => (file.1, crypto.sha256Hex file.2)).map Prod.fst).Nodup ∧
      ∀ path sha256, (path, sha256) ∈ (runtime.listing.filter fun file =>
          !isPrivateFile file.1).map (fun file => (file.1, crypto.sha256Hex file.2)) ↔
        isPrivateFile path = false ∧
          ∃ content, initial.read path = some content ∧ sha256 = crypto.sha256Hex content := by
  constructor
  · rw [List.map_map]
    exact (FileTree.nodup_listing runtime).sublist (List.filter_sublist.map Prod.fst)
  · intro path sha256
    rw [List.mem_map]
    constructor
    · rintro ⟨⟨name, content⟩, member, same⟩
      obtain ⟨rfl, rfl⟩ := Prod.mk.inj same
      obtain ⟨there, plain⟩ := List.mem_filter.mp member
      have plain : isPrivateFile name = false := by simpa using plain
      exact ⟨plain, content, (complete name plain).symm.trans (FileTree.mem_listing.mp there), rfl⟩
    · rintro ⟨plain, content, held, rfl⟩
      have there := FileTree.mem_listing.mpr ((complete path plain).trans held)
      exact ⟨(path, content), List.mem_filter.mpr ⟨there, by rw [plain]; rfl⟩, rfl⟩

/-- The snapshot of a runtime whose files without private keys are those of `initial`. -/
theorem snapshot_keeps (keeps : state.Keeps crypto initial)
    (copyable : ∀ file ∈ state.runtime.listing, Copyable outcomes initial file)
    (complete : ∀ path, isPrivateFile path = false →
      state.runtime.read path = initial.read path) :
    (∀ raised, snapshotRuntimeNonPrivate crypto outcomes state = .error raised →
      raised.2.Keeps crypto initial) ∧
    ∀ taken, snapshotRuntimeNonPrivate crypto outcomes state = .ok taken →
      taken.Keeps crypto initial := by
  have within : Within initial (leftRuntime (snapshotCopies crypto outcomes state.runtime.listing
      state.snapshot)) := snapshotCopies_within copyable keeps.within
  have kept (path : String) (there : (state.snapshot.read path).isSome = true) :
      ((leftRuntime (snapshotCopies crypto outcomes state.runtime.listing
        state.snapshot)).read path).isSome = true := snapshotCopies_isSome there
  have grown := keeps.grow within kept
  unfold snapshotRuntimeNonPrivate
  cases copies : snapshotCopies crypto outcomes state.runtime.listing state.snapshot with
  | error failed =>
      rw [copies] at grown
      refine ⟨fun raised result => ?_, nofun⟩
      cases result
      exact grown
  | ok done =>
      obtain ⟨listed, stored⟩ := snapshotCopies_ok copyable keeps.within copies
      rw [copies] at grown
      dsimp only
      split
      · refine ⟨fun raised result => ?_, nofun⟩
        cases result
        exact grown
      · refine ⟨nofun, fun taken result => ?_⟩
        cases result
        refine ⟨grown.within, fun manifest written => ?_, fun manifest _ path content =>
          ⟨grown.within path content, fun plainHeld => ?_⟩⟩
        · cases written
          exact listed ▸ listed_files complete
        · have held : state.runtime.read path = some content :=
            (complete path plainHeld.1).trans plainHeld.2
          exact stored (path, content) (FileTree.mem_listing.mpr held) plainHeld.1

theorem finishActivation_snapshot {input : ActivationInput} {keySha256 : String}
    {changed : List ChangedFile} :
    (finishActivation crypto input outcomes keySha256 changed state).2.snapshot = state.snapshot ∧
      (finishActivation crypto input outcomes keySha256 changed state).2.manifest =
        state.manifest := by
  unfold finishActivation
  split
  · exact ⟨rfl, rfl⟩
  · split <;> exact ⟨rfl, rfl⟩

/-- An attempt that starts from the files of `initial` keeps the snapshot. -/
theorem attempt_keeps (attempt : Attempt) (keeps : state.Keeps crypto initial)
    (starts : state.StartsFrom crypto initial attempt) :
    (activatePackageRuntime crypto attempt.input attempt.outcomes state).2.Keeps
      crypto initial := by
  unfold activatePackageRuntime
  cases prepared : prepareActivation crypto attempt.input attempt.outcomes state.runtime with
  | error raised => exact keeps.congr rfl rfl
  | ok done =>
      obtain ⟨keySha256, mismatched⟩ := done
      cases mismatched with
      | false => exact keeps
      | true =>
          dsimp only
          rw [if_pos rfl]
          have files := starts keySha256 prepared
          have copyable : ∀ file ∈ state.runtime.listing,
              Copyable attempt.outcomes initial file := by
            rintro ⟨path, content⟩ member plain
            obtain ⟨same, named⟩ := files path plain
            have held : initial.read path = some content :=
              same.symm.trans (FileTree.mem_listing.mp member)
            exact ⟨held, named (by rw [held]; rfl)⟩
          obtain ⟨onRaise, onDone⟩ :=
            snapshot_keeps keeps copyable fun path plain => (files path plain).1
          rcases replaceRuntime_cases crypto attempt.input attempt.outcomes state keySha256 with
            ⟨failed, snapshot, result⟩ | ⟨taken, snapshot, stopped | copied⟩
          · rw [result]
            exact onRaise failed snapshot
          · obtain ⟨failed, _, result⟩ := stopped
            rw [result]
            exact (onDone taken snapshot).congr rfl rfl
          · obtain ⟨done, _, result⟩ := copied
            rw [result]
            exact (onDone taken snapshot).congr finishActivation_snapshot.1
              finishActivation_snapshot.2

end Snapshot

/-- In a run of attempts each of which, if it goes on to the snapshot, starts from the files
before the first attempt, the stored snapshot is always that of these files. -/
theorem snapshot_before_mutation (crypto : RuntimeCrypto) (runtime : FileTree)
    (attempts : List Attempt)
    (starts : Transition.EveryStep (RuntimeState.attempt crypto)
      (fun state attempt _ => state.StartsFrom crypto runtime attempt)
      (.unplanned runtime) attempts) :
    Transition.EveryStep (RuntimeState.attempt crypto)
      (fun _ _ next => next.SnapshotOf crypto runtime) (.unplanned runtime) attempts := by
  have preserved : ∀ state attempt next, RuntimeState.Keeps crypto runtime state →
      RuntimeState.attempt crypto state attempt = some next →
        state.StartsFrom crypto runtime attempt → next.Keeps crypto runtime := by
    intro state attempt next keeps stepped startsHere
    cases stepped
    exact attempt_keeps attempt keeps startsHere
  have every := starts.every_state preserved ⟨nofun, nofun, nofun⟩
  exact every.imp fun _ _ _ keeps => keeps.faithful

/-! ## Two attempts -/

/-- The stage with its chain. -/
def wholeStage : ActivationInput :=
  { brokenStage with
    shadow := [("own/certs/client_certificate.pem", [2]), ("trusted/certs/ca-chain.pem", [3])] }

theorem attempt_eq_some {crypto : RuntimeCrypto} {state next : RuntimeState} {attempt : Attempt} :
    state.attempt crypto attempt = some next ↔
      (activatePackageRuntime crypto attempt.input attempt.outcomes state).2 = next :=
  Option.some_inj

/-- The second activation of a plan finds nothing to do. -/
theorem snapshot_kept_when_repeated :
    Transition.EveryStep (RuntimeState.attempt plainCrypto)
      (fun _ _ next => next.SnapshotOf plainCrypto fuxaRuntime.runtime)
      (.unplanned fuxaRuntime.runtime)
      [⟨wholeStage, smoothOutcomes⟩, ⟨wholeStage, smoothOutcomes⟩] := by
  apply snapshot_before_mutation
  intro next stepped
  refine ⟨fun keySha256 _ path plain => ⟨rfl, fun there => ⟨?_, nofun⟩⟩, ?_⟩
  · have named : ∀ file ∈ fuxaRuntime.runtime, slashes file.1 = file.1 := by decide +kernel
    obtain ⟨content, found⟩ := Option.isSome_iff_exists.mp there
    exact named (path, content) (FileTree.mem_of_read found)
  · intro last _
    refine ⟨fun keySha256 prepared => ?_, trivial⟩
    have done : prepareActivation plainCrypto wholeStage smoothOutcomes
        (activatePackageRuntime plainCrypto wholeStage smoothOutcomes
          (.unplanned fuxaRuntime.runtime)).2.runtime = .ok ("09", false) := by decide +kernel
    have after := attempt_eq_some.mp stepped
    dsimp only at after prepared
    rw [after, prepared] at done
    cases done

/-- A retry after an attempt that stopped midway stores the half-changed runtime. -/
theorem retry_snapshots_changed_runtime :
    ¬ Transition.EveryStep (RuntimeState.attempt plainCrypto)
      (fun _ _ next => next.SnapshotOf plainCrypto fuxaRuntime.runtime)
      (.unplanned fuxaRuntime.runtime)
      [⟨brokenStage, smoothOutcomes⟩, ⟨wholeStage, smoothOutcomes⟩] := by
  intro every
  obtain ⟨_, later⟩ := every _ (attempt_eq_some.mpr rfl)
  obtain ⟨⟨_, stored⟩, _⟩ := later _ (attempt_eq_some.mpr rfl)
  dsimp only at stored
  have outcome : (activatePackageRuntime plainCrypto wholeStage smoothOutcomes
      (activatePackageRuntime plainCrypto brokenStage smoothOutcomes
        (.unplanned fuxaRuntime.runtime)).2).2.manifest.isSome = true ∧
      (activatePackageRuntime plainCrypto wholeStage smoothOutcomes
        (activatePackageRuntime plainCrypto brokenStage smoothOutcomes
          (.unplanned fuxaRuntime.runtime)).2).2.snapshot.read
            "own/certs/client_certificate.pem" = some [2] := by decide +kernel
  obtain ⟨manifest, written⟩ := Option.isSome_iff_exists.mp outcome.1
  have held := ((stored manifest written _ _).mp outcome.2).2
  have before : fuxaRuntime.runtime.read "own/certs/client_certificate.pem" = some [1] := rfl
  rw [before] at held
  cases held

end OpcuaGds.Agent
