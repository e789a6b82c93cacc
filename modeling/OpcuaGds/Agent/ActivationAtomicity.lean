import OpcuaGds.Agent.RuntimeActivation

/-! # What an activation leaves behind

An activation replaces the staged files one by one and takes nothing back when it raises.
What each file of the runtime then holds, and when the runtime is as before.
-/

namespace OpcuaGds.Agent

open FileTree (SameFiles NothingLeft dirPart)

section Statements

variable (crypto : RuntimeCrypto) (input : ActivationInput) (outcomes : ActivationOutcomes)

/-- The staged files that are not preserved, in the order of the copies. -/
def ActivationInput.copied : List (String × String) :=
  input.sortedChecksums.filter fun entry => !isPreservedRuntimePath entry.1

/-- The file that a staged path leads to, with its staged content. -/
def ActivationInput.Staged (entry : String × String) (path : String) (content : List UInt8) :
    Prop :=
  resolveInside entry.1 = some path ∧ input.shadow.read path = some content

/-- The copy of a staged file meets no failure. -/
def Settles (entry : String × String) : Prop :=
  ∃ path content, input.Staged entry path content ∧ outcomes.copy entry.1 = .replaces true ∧
    crypto.sha256Hex content = entry.2

/-- The runtime has the staged file already. -/
def InPlace (runtime : FileTree) (entry : String × String) : Prop :=
  ∀ path content, input.Staged entry path content → runtime.read path = some content

/-- The copy of a staged file fails and changes nothing: the file is not replaced, or it was
the staged file already, and no temporary file stays. -/
def StopsClean (runtime : FileTree) (entry : String × String) : Prop :=
  ¬ Settles crypto input outcomes entry ∧ ∀ path content, input.Staged entry path content →
    (∀ readBack, outcomes.copy entry.1 = .replaces readBack → runtime.read path = some content) ∧
      ∀ leftover, outcomes.copy entry.1 = .stops leftover → NothingLeft runtime path leftover

/-- The copies stop at a file without changing anything, those before it being in place. -/
def StopsUnchanged (runtime : FileTree) : List (String × String) → Prop
  | [] => False
  | entry :: rest =>
      StopsClean crypto input outcomes runtime entry ∨
        Settles crypto input outcomes entry ∧ InPlace input runtime entry ∧
          StopsUnchanged runtime rest

/-- The probe of the mount, when it is made and fails, leaves no file. -/
def ProbeClean (runtime : FileTree) : Prop :=
  input.target ∈ ["fuxa", "opcua-server", "dmz-gateway-client", "dmz-gateway-server"] →
    outcomes.rootAvailable = true → ∀ leftover, outcomes.probe = .refused leftover →
      NothingLeft runtime "" leftover

/-- A failure comes before anything changed: the probe leaves no file, and the checks fail,
or the snapshot fails, or the copies stop before they change a file. -/
def FailsUnchanged (state : RuntimeState) : Prop :=
  ProbeClean input outcomes state.runtime ∧
    ∀ prepared, prepareActivation crypto input outcomes state.runtime = .ok prepared →
      (∃ raised, snapshotRuntimeNonPrivate crypto outcomes state = .error raised) ∨
        StopsUnchanged crypto input outcomes state.runtime input.copied

/-- A temporary file that some failed operation of the call leaves. -/
def Temporary (path : String) (content : List UInt8) : Prop :=
  (∃ name, outcomes.probe = .refused (some (name, content)) ∧ path = dirPart "" ++ name) ∨
    ∃ entry ∈ input.copied, ∃ copiedPath staged, input.Staged entry copiedPath staged ∧
      ∃ name, outcomes.copy entry.1 = .stops (some (name, content)) ∧
        path = dirPart copiedPath ++ name

/-- What a call may make of one path of the runtime: it keeps its file, it gets its staged
file, or a temporary file stays where no file was. -/
def FileKeptOrStaged (before after : FileTree) (path : String) : Prop :=
  after.read path = before.read path ∨
    ∃ content, after.read path = some content ∧
      ((∃ entry ∈ input.copied, input.Staged entry path content) ∨
        before.read path = none ∧ Temporary input outcomes path content)

end Statements

section Copies

variable {crypto : RuntimeCrypto} {input : ActivationInput} {outcomes : ActivationOutcomes}
  {runtime left : FileTree} {entry : String × String} {entries : List (String × String)}

theorem Staged.unique {path other : String} {content otherContent : List UInt8}
    (first : input.Staged entry path content) (second : input.Staged entry other otherContent) :
    path = other ∧ content = otherContent := by
  obtain ⟨led, held⟩ := first
  obtain ⟨otherLed, otherHeld⟩ := second
  have same : path = other := Option.some.inj (led.symm.trans otherLed)
  subst same
  exact ⟨rfl, Option.some.inj (held.symm.trans otherHeld)⟩

/-! ## One file -/

theorem copyStagedFile_of_staged {path : String} {content : List UInt8}
    (staged : input.Staged entry path content) (runtime : FileTree) :
    copyStagedFile crypto input outcomes entry.1 entry.2 runtime =
      copyPresentFile crypto outcomes entry.1 entry.2 path content runtime := by
  obtain ⟨led, held⟩ := staged
  simp only [copyStagedFile, led, held]

variable (crypto outcomes) in
theorem copyStagedFile_of_not_staged (missing : ¬ ∃ path content, input.Staged entry path content)
    (runtime : FileTree) :
    ∃ message, copyStagedFile crypto input outcomes entry.1 entry.2 runtime =
      .error (message, runtime) := by
  rw [copyStagedFile]
  cases led : resolveInside entry.1 with
  | none => exact ⟨_, rfl⟩
  | some path =>
      cases held : input.shadow.read path with
      | none => exact ⟨_, by dsimp only; rw [held]⟩
      | some content => exact absurd ⟨path, content, led, held⟩ missing

/-- A copy without a failure writes the staged file. -/
theorem copyStagedFile_ok {change : ChangedFile}
    (copied : copyStagedFile crypto input outcomes entry.1 entry.2 runtime = .ok (change, left)) :
    Settles crypto input outcomes entry ∧
      ∃ path content, input.Staged entry path content ∧ left = runtime.write path content := by
  by_cases staged : ∃ path content, input.Staged entry path content
  · obtain ⟨path, content, staged⟩ := staged
    rw [copyStagedFile_of_staged staged, copyPresentFile] at copied
    cases outcome : outcomes.copy entry.1 with
    | stops leftover => rw [outcome] at copied; cases copied
    | replaces readBack =>
        rw [outcome] at copied
        dsimp only at copied
        split at copied
        · cases copied
        · split at copied
          · cases copied
          · rename_i back matching
            cases copied
            rw [Bool.not_eq_false] at back
            rw [not_not] at matching
            exact ⟨⟨path, content, staged, back ▸ outcome, matching⟩, path, content, staged, rfl⟩
  · obtain ⟨message, raised⟩ := copyStagedFile_of_not_staged crypto outcomes staged runtime
    rw [raised] at copied
    cases copied

/-- A copy that raises leaves the runtime with the staged file written, with a temporary file
or as it was. -/
theorem copyStagedFile_error {message : String}
    (raised : copyStagedFile crypto input outcomes entry.1 entry.2 runtime =
      .error (message, left)) :
    ¬ Settles crypto input outcomes entry ∧
      ((¬ (∃ path content, input.Staged entry path content) ∧ left = runtime) ∨
        ∃ path content, input.Staged entry path content ∧
          ((∃ leftover, outcomes.copy entry.1 = .stops leftover ∧
              left = runtime.leave path leftover) ∨
            ∃ readBack, outcomes.copy entry.1 = .replaces readBack ∧
              left = runtime.write path content)) := by
  by_cases staged : ∃ path content, input.Staged entry path content
  · obtain ⟨path, content, staged⟩ := staged
    rw [copyStagedFile_of_staged staged, copyPresentFile] at raised
    cases outcome : outcomes.copy entry.1 with
    | stops leftover =>
        rw [outcome] at raised
        cases raised
        refine ⟨?_, .inr ⟨path, content, staged, .inl ⟨leftover, rfl, rfl⟩⟩⟩
        rintro ⟨_, _, _, settled, _⟩
        rw [outcome] at settled
        cases settled
    | replaces readBack =>
        rw [outcome] at raised
        dsimp only at raised
        have settledIff (settles : Settles crypto input outcomes entry) :
            readBack = true ∧ crypto.sha256Hex content = entry.2 := by
          obtain ⟨other, otherContent, otherStaged, settled, matching⟩ := settles
          rw [outcome] at settled
          obtain ⟨rfl, rfl⟩ := Staged.unique staged otherStaged
          cases settled
          exact ⟨rfl, matching⟩
        split at raised
        · rename_i unread
          cases raised
          refine ⟨fun settles => ?_, .inr ⟨path, content, staged, .inr ⟨readBack, rfl, rfl⟩⟩⟩
          exact Bool.false_ne_true (unread.symm.trans (settledIff settles).1)
        · split at raised
          · rename_i different
            cases raised
            exact ⟨fun settles => different (settledIff settles).2,
              .inr ⟨path, content, staged, .inr ⟨readBack, rfl, rfl⟩⟩⟩
          · cases raised
  · refine ⟨?_, .inl ⟨staged, ?_⟩⟩
    · rintro ⟨path, content, there, _⟩
      exact staged ⟨path, content, there⟩
    · obtain ⟨other, otherRaised⟩ :=
        copyStagedFile_of_not_staged crypto outcomes staged runtime
      rw [otherRaised] at raised
      cases raised
      rfl

/-! ## The loop -/

theorem inPlace_iff {path : String} {content : List UInt8}
    (staged : input.Staged entry path content) :
    InPlace input runtime entry ↔ runtime.read path = some content := by
  constructor
  · exact fun place => place path content staged
  · intro there other otherContent otherStaged
    obtain ⟨rfl, rfl⟩ := Staged.unique staged otherStaged
    exact there

theorem InPlace.congr (same : SameFiles left runtime) :
    InPlace input left entry ↔ InPlace input runtime entry :=
  forall_congr' fun path => forall_congr' fun content => by rw [same path]

theorem StopsClean.congr (same : SameFiles left runtime) :
    StopsClean crypto input outcomes left entry ↔
      StopsClean crypto input outcomes runtime entry := by
  unfold StopsClean NothingLeft
  simp only [same _]

theorem StopsUnchanged.congr (same : SameFiles left runtime) :
    StopsUnchanged crypto input outcomes left entries ↔
      StopsUnchanged crypto input outcomes runtime entries := by
  induction entries with
  | nil => exact Iff.rfl
  | cons entry entries ih =>
      rw [StopsUnchanged, StopsUnchanged, StopsClean.congr same, InPlace.congr same, ih]

/-- A run of copies that all settle stops nowhere. -/
theorem not_stopsUnchanged_of_settles
    (settle : ∀ entry ∈ entries, Settles crypto input outcomes entry) :
    ¬ StopsUnchanged crypto input outcomes runtime entries := by
  induction entries with
  | nil => exact id
  | cons entry entries ih =>
      rintro (⟨stops, _⟩ | ⟨_, _, later⟩)
      · exact stops (settle entry List.mem_cons_self)
      · exact ih (fun other member => settle other (List.mem_cons_of_mem _ member)) later

/-- The runtime that the copies leave, whether they raise or not. -/
def leftRuntime {α : Type} (result : Except (String × FileTree) (α × FileTree)) : FileTree :=
  match result with
  | .ok done => done.2
  | .error raised => raised.2

theorem leftRuntime_map {α β : Type} (change : α → β)
    (result : Except (String × FileTree) (α × FileTree)) :
    leftRuntime (result.map fun done => (change done.1, done.2)) = leftRuntime result := by
  cases result <;> rfl

/-- The copies look at the staged files that are not preserved. -/
theorem copyStagedFiles_filter (runtime : FileTree) :
    copyStagedFiles crypto input outcomes
        (entries.filter fun entry => !isPreservedRuntimePath entry.1) runtime =
      copyStagedFiles crypto input outcomes entries runtime := by
  induction entries generalizing runtime with
  | nil => rfl
  | cons entry entries ih =>
      obtain ⟨rel, expected⟩ := entry
      rw [List.filter_cons]
      cases kept : isPreservedRuntimePath rel with
      | true => simp only [kept, Bool.not_true, Bool.false_eq_true, if_false, copyStagedFiles,
          if_true, ih]
      | false =>
          simp only [kept, Bool.not_false, if_true, copyStagedFiles, Bool.false_eq_true, if_false,
            ih]

/-- What the copies of some staged files may make of one path. -/
def CopiesKeepOrStage (input : ActivationInput) (outcomes : ActivationOutcomes)
    (entries : List (String × String)) (before after : FileTree) (path : String) : Prop :=
  after.read path = before.read path ∨
    ∃ content, after.read path = some content ∧
      ((∃ entry ∈ entries, input.Staged entry path content) ∨
        before.read path = none ∧ ∃ entry ∈ entries, ∃ copiedPath staged,
          input.Staged entry copiedPath staged ∧
            ∃ name, outcomes.copy entry.1 = .stops (some (name, content)) ∧
              path = dirPart copiedPath ++ name)

theorem CopiesKeepOrStage.mono {before after : FileTree} {path : String}
    {more : List (String × String)} (within : entries ⊆ more)
    (kept : CopiesKeepOrStage input outcomes entries before after path) :
    CopiesKeepOrStage input outcomes more before after path := by
  rcases kept with same | ⟨content, found, ⟨entry, member, staged⟩ | ⟨free, entry, member, rest⟩⟩
  · exact .inl same
  · exact .inr ⟨content, found, .inl ⟨entry, within member, staged⟩⟩
  · exact .inr ⟨content, found, .inr ⟨free, entry, within member, rest⟩⟩

/-- A staged file that was written keeps its path through the later copies. -/
theorem CopiesKeepOrStage.trans_write {path written : String} {content : List UInt8}
    {after : FileTree} (first : input.Staged entry written content) (member : entry ∈ entries)
    (kept : CopiesKeepOrStage input outcomes entries (runtime.write written content) after path) :
    CopiesKeepOrStage input outcomes entries runtime after path := by
  by_cases here : path = written
  · subst here
    have there : after.read path = some content := by
      rcases kept with same | ⟨other, found, ⟨_, _, staged⟩ | ⟨free, _⟩⟩
      · rw [same, FileTree.read_write_self]
      · have sameContent : some other = some content := staged.2.symm.trans first.2
        rw [found, sameContent]
      · rw [FileTree.read_write_self] at free
        cases free
    exact .inr ⟨content, there, .inl ⟨entry, member, first⟩⟩
  · have untouched := FileTree.read_write_of_ne here content runtime
    unfold CopiesKeepOrStage at kept
    rwa [untouched] at kept

theorem copyStagedFile_keeps {message : String} (path : String)
    (raised : copyStagedFile crypto input outcomes entry.1 entry.2 runtime =
      .error (message, left)) : CopiesKeepOrStage input outcomes [entry] runtime left path := by
  obtain ⟨_, ⟨_, rfl⟩ | ⟨copiedPath, staged, isStaged, ⟨leftover, stops, rfl⟩ | ⟨_, _, rfl⟩⟩⟩ :=
    copyStagedFile_error raised
  · exact .inl rfl
  · rcases FileTree.read_leave copiedPath path leftover runtime with
      same | ⟨free, name, content, rfl, here, found⟩
    · exact .inl same
    · exact .inr ⟨content, found, .inr ⟨free, entry, List.mem_singleton_self entry, copiedPath,
        staged, isStaged, name, stops, here⟩⟩
  · exact .trans_write isStaged (List.mem_singleton_self entry) (.inl rfl)

theorem copyStagedFiles_cons_error {raised : String × FileTree}
    (plain : isPreservedRuntimePath entry.1 = false)
    (failed : copyStagedFile crypto input outcomes entry.1 entry.2 runtime = .error raised) :
    copyStagedFiles crypto input outcomes (entry :: entries) runtime = .error raised := by
  rw [copyStagedFiles, if_neg (Bool.eq_false_iff.mp plain), failed]

theorem copyStagedFiles_cons_ok {change : ChangedFile} {copied : FileTree}
    (plain : isPreservedRuntimePath entry.1 = false)
    (done : copyStagedFile crypto input outcomes entry.1 entry.2 runtime = .ok (change, copied)) :
    copyStagedFiles crypto input outcomes (entry :: entries) runtime =
      (copyStagedFiles crypto input outcomes entries copied).map
        fun result => (change :: result.1, result.2) := by
  rw [copyStagedFiles, if_neg (Bool.eq_false_iff.mp plain), done]

/-- Copies that do not raise copy the first file, and then the others. -/
theorem copyStagedFiles_cons_eq_ok {changes : List ChangedFile}
    (plain : isPreservedRuntimePath entry.1 = false)
    (copied : copyStagedFiles crypto input outcomes (entry :: entries) runtime =
      .ok (changes, left)) :
    ∃ change next others,
      copyStagedFile crypto input outcomes entry.1 entry.2 runtime = .ok (change, next) ∧
      copyStagedFiles crypto input outcomes entries next = .ok (others, left) ∧
      changes = change :: others := by
  cases first : copyStagedFile crypto input outcomes entry.1 entry.2 runtime with
  | error raised =>
      rw [copyStagedFiles_cons_error plain first] at copied
      cases copied
  | ok done =>
      rw [copyStagedFiles_cons_ok plain first] at copied
      cases rest : copyStagedFiles crypto input outcomes entries done.2 with
      | error raised =>
          rw [rest] at copied
          cases copied
      | ok others =>
          rw [rest] at copied
          cases copied
          exact ⟨_, _, _, rfl, rest, rfl⟩

/-- Whether the copies raise or not, every path keeps its file, gets its staged file, or a
temporary file stays where none was. -/
theorem copyStagedFiles_keeps (plain : ∀ entry ∈ entries, isPreservedRuntimePath entry.1 = false)
    (path : String) :
    CopiesKeepOrStage input outcomes entries runtime
      (leftRuntime (copyStagedFiles crypto input outcomes entries runtime)) path := by
  induction entries generalizing runtime with
  | nil => exact .inl rfl
  | cons entry entries ih =>
      obtain ⟨here, later⟩ := List.forall_mem_cons.mp plain
      cases copied : copyStagedFile crypto input outcomes entry.1 entry.2 runtime with
      | error raised =>
          rw [copyStagedFiles_cons_error here copied]
          exact (copyStagedFile_keeps path copied).mono
            (List.cons_subset_cons _ (List.nil_subset _))
      | ok done =>
          obtain ⟨_, written, content, staged, wrote⟩ := copyStagedFile_ok copied
          rw [copyStagedFiles_cons_ok here copied, leftRuntime_map (done.1 :: ·), wrote]
          exact .trans_write staged List.mem_cons_self
            ((ih later).mono (List.subset_cons_self _ _))

variable (crypto outcomes) in
/-- A staged file in place stays through the copies. -/
theorem copyStagedFiles_stays (plain : ∀ entry ∈ entries, isPreservedRuntimePath entry.1 = false)
    {path : String} {content : List UInt8} (staged : input.Staged entry path content)
    (there : runtime.read path = some content) :
    (leftRuntime (copyStagedFiles crypto input outcomes entries runtime)).read path =
      some content := by
  rcases copyStagedFiles_keeps plain path with same | ⟨other, found, ⟨_, _, again⟩ | ⟨free, _⟩⟩
  · rw [same, there]
  · have sameContent : some other = some content := again.2.symm.trans staged.2
    rw [found, sameContent]
  · rw [there] at free
    cases free

/-- Copies that do not raise settle and put every staged file in place. -/
theorem copyStagedFiles_ok (plain : ∀ entry ∈ entries, isPreservedRuntimePath entry.1 = false)
    {changes : List ChangedFile}
    (copied : copyStagedFiles crypto input outcomes entries runtime = .ok (changes, left)) :
    ∀ entry ∈ entries, Settles crypto input outcomes entry ∧ InPlace input left entry := by
  induction entries generalizing runtime changes with
  | nil => nofun
  | cons entry entries ih =>
      obtain ⟨here, later⟩ := List.forall_mem_cons.mp plain
      obtain ⟨_, next, _, first, rest, rfl⟩ := copyStagedFiles_cons_eq_ok here copied
      obtain ⟨settles, written, content, staged, wrote⟩ := copyStagedFile_ok first
      have there : next.read written = some content := by
        rw [wrote, FileTree.read_write_self]
      have stays := copyStagedFiles_stays crypto outcomes later staged there
      rw [rest] at stays
      refine List.forall_mem_cons.mpr ⟨⟨settles, (inPlace_iff staged).mpr stays⟩, ?_⟩
      exact ih later rest

/-- Copies that raise leave the runtime as it was exactly if they stop before they change
anything. -/
theorem copyStagedFiles_error_iff
    (plain : ∀ entry ∈ entries, isPreservedRuntimePath entry.1 = false) {message : String}
    (raised : copyStagedFiles crypto input outcomes entries runtime = .error (message, left)) :
    SameFiles left runtime ↔ StopsUnchanged crypto input outcomes runtime entries := by
  induction entries generalizing runtime with
  | nil => cases raised
  | cons entry entries ih =>
      obtain ⟨here, later⟩ := List.forall_mem_cons.mp plain
      cases first : copyStagedFile crypto input outcomes entry.1 entry.2 runtime with
      | error failed =>
          rw [copyStagedFiles_cons_error here first] at raised
          cases raised
          obtain ⟨fails, effect⟩ := copyStagedFile_error first
          have cleanOnly : StopsUnchanged crypto input outcomes runtime (entry :: entries) ↔
              StopsClean crypto input outcomes runtime entry :=
            ⟨fun h => h.resolve_right fun settled => fails settled.1, .inl⟩
          rw [cleanOnly, StopsClean, and_iff_right fails]
          rcases effect with ⟨missing, rfl⟩ | ⟨path, content, staged, ⟨leftover, stops, rfl⟩ |
            ⟨readBack, replaced, rfl⟩⟩
          · exact iff_of_true (SameFiles.refl left)
              fun path content staged => absurd ⟨path, content, staged⟩ missing
          · rw [FileTree.sameFiles_leave_iff, stops]
            constructor
            · intro nothing other otherContent otherStaged
              obtain ⟨rfl, rfl⟩ := Staged.unique staged otherStaged
              exact ⟨nofun, fun again same => by cases same; exact nothing⟩
            · intro clean
              exact (clean path content staged).2 leftover rfl
          · rw [FileTree.sameFiles_write_iff, replaced]
            constructor
            · intro there other otherContent otherStaged
              obtain ⟨rfl, rfl⟩ := Staged.unique staged otherStaged
              exact ⟨fun _ _ => there, nofun⟩
            · intro clean
              exact (clean path content staged).1 readBack rfl
      | ok done =>
          obtain ⟨settles, path, content, staged, wrote⟩ := copyStagedFile_ok first
          have goesOn : StopsUnchanged crypto input outcomes runtime (entry :: entries) ↔
              runtime.read path = some content ∧
                StopsUnchanged crypto input outcomes runtime entries := by
            rw [← inPlace_iff staged]
            exact ⟨fun h => (h.resolve_left fun clean => clean.1 settles).2,
              fun h => .inr ⟨settles, h⟩⟩
          rw [copyStagedFiles_cons_ok here first] at raised
          cases rest : copyStagedFiles crypto input outcomes entries done.2 with
          | ok others =>
              rw [rest] at raised
              cases raised
          | error failed =>
              rw [rest] at raised
              cases raised
              have sameIff := ih later rest
              have there : done.2.read path = some content := by
                rw [wrote, FileTree.read_write_self]
              have stays := copyStagedFiles_stays crypto outcomes later staged there
              rw [rest] at stays
              rw [goesOn]
              by_cases place : runtime.read path = some content
              · have same : SameFiles done.2 runtime :=
                  wrote ▸ FileTree.sameFiles_write_iff.mpr place
                rw [and_iff_right place, ← StopsUnchanged.congr same, ← sameIff]
                exact forall_congr' fun other => by rw [same other]
              · refine iff_of_false (fun same => place ?_) (fun h => place h.1)
                rw [← same path]
                exact stays

end Copies

section Activation

variable {crypto : RuntimeCrypto} {input : ActivationInput} {outcomes : ActivationOutcomes}
  {state : RuntimeState}

/-! ## Before the copies -/

/-- A snapshot that is taken touches neither the runtime nor the receipts. -/
theorem snapshot_untouched {after : RuntimeState}
    (taken : snapshotRuntimeNonPrivate crypto outcomes state = .ok after) :
    after.runtime = state.runtime ∧ after.receipts = state.receipts := by
  unfold snapshotRuntimeNonPrivate at taken
  split at taken
  · cases taken
  · split at taken
    · cases taken
    · cases taken
      exact ⟨rfl, rfl⟩

theorem snapshot_error_runtime {raised : String × RuntimeState}
    (failed : snapshotRuntimeNonPrivate crypto outcomes state = .error raised) :
    raised.2.runtime = state.runtime := by
  unfold snapshotRuntimeNonPrivate at failed
  split at failed
  · cases failed
    rfl
  · split at failed
    · cases failed
      rfl
    · cases failed

theorem probeClean_of_open {runtime : FileTree} {opened : Unit}
    (opens : openRuntime input outcomes runtime = .ok opened) :
    ProbeClean input outcomes runtime := by
  intro enabled available leftover refused
  rw [openRuntime, if_neg (not_not.mpr enabled), if_neg (by rw [available]; exact nofun),
    refused] at opens
  cases opens

/-- Checks that raise leave the runtime as it was, or with a file of the probe. -/
theorem prepareActivation_error {runtime left : FileTree} {message : String}
    (raised : prepareActivation crypto input outcomes runtime = .error (message, left)) :
    left = runtime ∧ ProbeClean input outcomes runtime ∨
      ∃ leftover, outcomes.probe = .refused leftover ∧ left = runtime.leave "" leftover ∧
        (ProbeClean input outcomes runtime ↔ NothingLeft runtime "" leftover) := by
  unfold prepareActivation at raised
  split at raised
  · rename_i failed opened
    cases raised
    unfold openRuntime at opened
    split at opened
    · rename_i disabled
      cases opened
      exact .inl ⟨rfl, fun enabled => absurd enabled disabled⟩
    · rename_i enabled
      split at opened
      · rename_i unavailable
        cases opened
        refine .inl ⟨rfl, fun _ available => ?_⟩
        rw [unavailable] at available
        cases available
      · rename_i available
        split at opened
        · cases opened
        · rename_i leftover refused
          cases opened
          refine .inr ⟨leftover, refused, rfl, fun clean => ?_, fun nothing _ _ again same => ?_⟩
          · exact clean (not_not.mp enabled) (Bool.not_eq_false _ ▸ available) leftover refused
          · cases refused.symm.trans same
            exact nothing
  · rename_i opened
    split at raised
    · cases raised
      exact .inl ⟨rfl, probeClean_of_open opened⟩
    · split at raised
      · cases raised
        exact .inl ⟨rfl, probeClean_of_open opened⟩
      · cases raised

theorem prepareActivation_ok {runtime : FileTree} {prepared : String × Bool}
    (done : prepareActivation crypto input outcomes runtime = .ok prepared) :
    ProbeClean input outcomes runtime := by
  unfold prepareActivation at done
  split at done
  · cases done
  · rename_i opened
    exact probeClean_of_open opened

/-- The runtime has no file with the recorded hash where the staged file goes. -/
def Differs (crypto : RuntimeCrypto) (runtime : FileTree) (entry : String × String) : Prop :=
  ∃ path, resolveInside entry.1 = some path ∧
    ∀ content, runtime.read path = some content → crypto.sha256Hex content ≠ entry.2

/-- The comparison reports something only if a staged file is missing in the runtime or
different. -/
theorem exists_of_mismatch {runtime : FileTree} {entries mismatches : List (String × String)}
    (compared : runtimeStageMismatches crypto input outcomes runtime entries = .ok mismatches)
    (reported : mismatches ≠ []) :
    ∃ entry ∈ entries, isPreservedRuntimePath entry.1 = false ∧ Differs crypto runtime entry := by
  induction entries generalizing mismatches with
  | nil => cases compared; exact absurd rfl reported
  | cons entry entries ih =>
      obtain ⟨rel, expected⟩ := entry
      have later {others : List (String × String)}
          (rest : runtimeStageMismatches crypto input outcomes runtime entries = .ok others)
          (some : others ≠ []) : ∃ entry ∈ (rel, expected) :: entries,
            isPreservedRuntimePath entry.1 = false ∧ Differs crypto runtime entry := by
        obtain ⟨found, member, plain⟩ := ih rest some
        exact ⟨found, List.mem_cons_of_mem _ member, plain⟩
      rw [runtimeStageMismatches] at compared
      split at compared
      · exact later compared reported
      · rename_i plain
        split at compared
        · cases compared
        · rename_i path led
          have here (differs : ∀ content, runtime.read path = some content →
              crypto.sha256Hex content ≠ expected) : ∃ entry ∈ (rel, expected) :: entries,
              isPreservedRuntimePath entry.1 = false ∧ Differs crypto runtime entry :=
            ⟨_, List.mem_cons_self, Bool.eq_false_iff.mpr plain, path, led, differs⟩
          split at compared
          · rename_i missing
            exact here fun content found => nomatch missing.symm.trans found
          · rename_i content found
            split at compared
            · cases compared
            · split at compared
              · rename_i different
                refine here fun other again => ?_
                cases found.symm.trans again
                exact different
              · exact later compared reported

/-- A runtime that the checks find to differ from the stage does differ from it. -/
theorem exists_differs {runtime : FileTree} {keySha256 : String}
    (prepared : prepareActivation crypto input outcomes runtime = .ok (keySha256, true)) :
    ∃ entry ∈ input.copied, Differs crypto runtime entry := by
  unfold prepareActivation at prepared
  split at prepared
  · cases prepared
  · split at prepared
    · cases prepared
    · split at prepared
      · cases prepared
      · rename_i mismatches compared
        have reported : mismatches ≠ [] := by
          rintro rfl
          cases prepared
        obtain ⟨entry, member, plain, differs⟩ := exists_of_mismatch compared reported
        exact ⟨entry, List.mem_filter.mpr ⟨member, by rw [plain]; rfl⟩, differs⟩

/-- Copies that settle change a runtime that differs from the stage. -/
theorem not_sameFiles_of_copied {runtime left : FileTree} {changes : List ChangedFile}
    (differs : ∃ entry ∈ input.copied, Differs crypto runtime entry)
    (plain : ∀ entry ∈ input.copied, isPreservedRuntimePath entry.1 = false)
    (copied : copyStagedFiles crypto input outcomes input.copied runtime = .ok (changes, left)) :
    ¬ SameFiles left runtime := by
  intro same
  obtain ⟨entry, member, path, led, differs⟩ := differs
  obtain ⟨⟨other, content, staged, _, matching⟩, place⟩ :=
    copyStagedFiles_ok plain copied entry member
  cases led.symm.trans staged.1
  have found := place path content staged
  rw [same path] at found
  exact differs content found matching

theorem copied_plain : ∀ entry ∈ input.copied, isPreservedRuntimePath entry.1 = false := by
  intro entry member
  simpa using (List.mem_filter.mp member).2

/-! ## The whole call -/

theorem finishActivation_runtime (keySha256 : String) (changed : List ChangedFile) :
    (finishActivation crypto input outcomes keySha256 changed state).2.runtime = state.runtime := by
  unfold finishActivation
  split
  · rfl
  · split <;> rfl

variable (crypto input outcomes state) in
/-- The cases of the part after the checks: the snapshot raises, the copies raise, or the
copies are done. -/
theorem replaceRuntime_cases (keySha256 : String) :
    (∃ raised, snapshotRuntimeNonPrivate crypto outcomes state = .error raised ∧
      replaceRuntime crypto input outcomes keySha256 state = (.error raised.1, raised.2)) ∨
    ∃ taken, snapshotRuntimeNonPrivate crypto outcomes state = .ok taken ∧
      ((∃ raised, copyStagedFiles crypto input outcomes input.copied state.runtime = .error raised ∧
          replaceRuntime crypto input outcomes keySha256 state =
            (.error raised.1, { taken with runtime := raised.2 })) ∨
        ∃ done, copyStagedFiles crypto input outcomes input.copied state.runtime = .ok done ∧
          replaceRuntime crypto input outcomes keySha256 state =
            finishActivation crypto input outcomes keySha256 done.1
              { taken with runtime := done.2 }) := by
  unfold replaceRuntime
  cases snapshot : snapshotRuntimeNonPrivate crypto outcomes state with
  | error raised => exact .inl ⟨raised, rfl, rfl⟩
  | ok taken =>
      refine .inr ⟨taken, rfl, ?_⟩
      rw [ActivationInput.copied, copyStagedFiles_filter]
      dsimp only
      rw [(snapshot_untouched snapshot).1]
      cases copyStagedFiles crypto input outcomes input.sortedChecksums state.runtime with
      | error raised => exact .inl ⟨raised, rfl, rfl⟩
      | ok done => exact .inr ⟨done, rfl, rfl⟩

theorem fileKept_of_copies {before after : FileTree} {path : String}
    (kept : CopiesKeepOrStage input outcomes input.copied before after path) :
    FileKeptOrStaged input outcomes before after path := by
  rcases kept with same | ⟨content, found, staged | ⟨free, temporary⟩⟩
  · exact .inl same
  · exact .inr ⟨content, found, .inl staged⟩
  · exact .inr ⟨content, found, .inr ⟨free, .inr temporary⟩⟩

variable (crypto input outcomes) in
theorem copies_keep_files (runtime : FileTree) (path : String) :
    FileKeptOrStaged input outcomes runtime
      (leftRuntime (copyStagedFiles crypto input outcomes input.copied runtime)) path :=
  fileKept_of_copies (copyStagedFiles_keeps copied_plain path)

/-- What an activation that raises leaves of the runtime. -/
theorem activation_error {message : String}
    (raised : (activatePackageRuntime crypto input outcomes state).1 = .error message) :
    (SameFiles (activatePackageRuntime crypto input outcomes state).2.runtime state.runtime ↔
        FailsUnchanged crypto input outcomes state) ∧
      ∀ path, FileKeptOrStaged input outcomes state.runtime
        (activatePackageRuntime crypto input outcomes state).2.runtime path := by
  unfold activatePackageRuntime FailsUnchanged at *
  cases prepared : prepareActivation crypto input outcomes state.runtime with
  | error failed =>
      simp only [reduceCtorEq, IsEmpty.forall_iff, implies_true, and_true]
      rcases prepareActivation_error prepared with
        ⟨same, clean⟩ | ⟨leftover, refused, left, cleanIff⟩
      · rw [same]
        exact ⟨iff_of_true (SameFiles.refl _) clean, fun path => .inl rfl⟩
      · rw [left, cleanIff]
        refine ⟨FileTree.sameFiles_leave_iff, fun path => ?_⟩
        rcases FileTree.read_leave "" path leftover state.runtime with
          same | ⟨free, name, content, rfl, here, found⟩
        · exact .inl same
        · exact .inr ⟨content, found, .inr ⟨free, .inl ⟨name, refused, here⟩⟩⟩
  | ok done =>
      obtain ⟨keySha256, mismatched⟩ := done
      have clean := prepareActivation_ok prepared
      rw [prepared] at raised
      dsimp only at raised ⊢
      cases mismatched with
      | false => cases raised
      | true =>
          rw [if_pos rfl] at raised ⊢
          simp only [and_iff_right clean, Except.ok.injEq, forall_eq']
          rcases replaceRuntime_cases crypto input outcomes state keySha256 with
            ⟨failed, snapshot, result⟩ | ⟨taken, snapshot, ended⟩
          · rw [result, snapshot_error_runtime snapshot]
            exact ⟨iff_of_true (SameFiles.refl _) (.inl ⟨failed, snapshot⟩), fun path => .inl rfl⟩
          · have passed : ¬ ∃ raised, snapshotRuntimeNonPrivate crypto outcomes state =
                .error raised := by
              rintro ⟨other, failedToo⟩
              cases snapshot.symm.trans failedToo
            have keeps := copies_keep_files crypto input outcomes state.runtime
            rw [or_iff_right passed]
            rcases ended with ⟨failed, copies, result⟩ | ⟨done, copies, result⟩
            · rw [copies] at keeps
              rw [result]
              exact ⟨copyStagedFiles_error_iff copied_plain copies, keeps⟩
            · rw [copies] at keeps
              have settles : ∀ entry ∈ input.copied, Settles crypto input outcomes entry :=
                fun entry member => (copyStagedFiles_ok copied_plain copies entry member).1
              rw [result, finishActivation_runtime]
              refine ⟨iff_of_false ?_ (not_stopsUnchanged_of_settles settles), keeps⟩
              exact not_sameFiles_of_copied (exists_differs prepared) copied_plain copies

/-- An activation that returns as activated has put every staged file that is not preserved
in place. -/
theorem activation_complete {receipt : ActivationReceipt}
    (activated : (activatePackageRuntime crypto input outcomes state).1 =
      .ok (.activated receipt)) {entry : String × String} (member : entry ∈ input.stageChecksums)
    (plain : isPreservedRuntimePath entry.1 = false) :
    ∃ path content, input.Staged entry path content ∧
      (activatePackageRuntime crypto input outcomes state).2.runtime.read path = some content := by
  have copiedEntry : entry ∈ input.copied := by
    refine List.mem_filter.mpr ⟨(List.mem_insertionSort _).mpr member, ?_⟩
    rw [plain]
    rfl
  unfold activatePackageRuntime at *
  cases prepared : prepareActivation crypto input outcomes state.runtime with
  | error failed => rw [prepared] at activated; cases activated
  | ok done =>
      obtain ⟨keySha256, mismatched⟩ := done
      rw [prepared] at activated
      dsimp only at activated ⊢
      cases mismatched with
      | false => cases activated
      | true =>
          rw [if_pos rfl] at activated ⊢
          rcases replaceRuntime_cases crypto input outcomes state keySha256 with
            ⟨failed, _, result⟩ | ⟨taken, _, ⟨failed, _, result⟩ | ⟨done, copies, result⟩⟩
          · rw [result] at activated
            cases activated
          · rw [result] at activated
            cases activated
          · obtain ⟨⟨path, content, staged, _⟩, place⟩ :=
              copyStagedFiles_ok copied_plain copies entry copiedEntry
            rw [result, finishActivation_runtime]
            exact ⟨path, content, staged, place path content staged⟩

end Activation

/-- An activation works file by file. If it raises, each path of the runtime has the file it
had, its staged file, or a temporary file where no file was; and the runtime is as before
exactly if the failure comes before anything changed. If it returns as activated, every staged
file that is not preserved is in place. -/
theorem activation_effect (crypto : RuntimeCrypto) (input : ActivationInput)
    (outcomes : ActivationOutcomes) (state : RuntimeState) :
    (∀ message, (activatePackageRuntime crypto input outcomes state).1 = .error message →
      (SameFiles (activatePackageRuntime crypto input outcomes state).2.runtime state.runtime ↔
          FailsUnchanged crypto input outcomes state) ∧
        ∀ path, FileKeptOrStaged input outcomes state.runtime
          (activatePackageRuntime crypto input outcomes state).2.runtime path) ∧
      ∀ receipt, (activatePackageRuntime crypto input outcomes state).1 = .ok (.activated receipt) →
        ∀ entry ∈ input.stageChecksums, isPreservedRuntimePath entry.1 = false →
          ∃ path content, input.Staged entry path content ∧
            (activatePackageRuntime crypto input outcomes state).2.runtime.read path =
              some content :=
  ⟨fun _ raised => activation_error raised,
    fun _ activated _ member plain => activation_complete activated member plain⟩

/-! ## A missing file after a replaced one -/

/-- Digests that tell all files apart, and key pairs of one byte. -/
def plainCrypto : RuntimeCrypto where
  sha256Hex := fun bytes => String.ofList
    (bytes.flatMap fun byte => [Nat.digitChar (byte.toNat / 16), Nat.digitChar (byte.toNat % 16)])
  publicKeyOfCertificate := fun _ => some [7]
  publicKeyOfPrivateKey := fun _ => some [7]

/-- A stage with a new certificate, and a chain that is gone when it is copied. -/
def brokenStage : ActivationInput where
  target := "fuxa"
  runtimeRoot := "/runtime/fuxa/PKI"
  certificatePem := "certificate"
  packageId := "pkg-1"
  planId := "plan-1"
  shadow := [("own/certs/client_certificate.pem", [2])]
  stageChecksums := [("own/certs/client_certificate.pem", "02"),
    ("trusted/certs/ca-chain.pem", "03")]

def smoothOutcomes : ActivationOutcomes where
  rootAvailable := true
  probe := .granted
  keyRead := true
  comparedRead := fun _ => true
  snapshotCopy := fun _ => .replaces true
  manifestWritten := true
  copy := fun _ => .replaces true
  keyReadAfter := true
  receiptWritten := true

/-- Without failures the snapshot is taken. -/
theorem snapshotCopies_smooth (crypto : RuntimeCrypto) (files snapshot : FileTree) :
    ∃ taken, snapshotCopies crypto smoothOutcomes files snapshot = .ok taken := by
  induction files generalizing snapshot with
  | nil => exact ⟨_, rfl⟩
  | cons file files ih =>
      obtain ⟨path, content⟩ := file
      rw [snapshotCopies]
      split
      · exact ih snapshot
      · obtain ⟨taken, rest⟩ := ih (snapshot.write (snapshotPath path) content)
        simp only [smoothOutcomes, Bool.true_eq_false, if_false] at rest ⊢
        rw [rest]
        exact ⟨_, rfl⟩

theorem snapshot_smooth (crypto : RuntimeCrypto) (state : RuntimeState) :
    ∃ taken, snapshotRuntimeNonPrivate crypto smoothOutcomes state = .ok taken := by
  obtain ⟨⟨copied, snapshot⟩, taken⟩ := snapshotCopies_smooth crypto state.runtime.listing
    state.snapshot
  rw [snapshotRuntimeNonPrivate, taken]
  exact ⟨_, rfl⟩

def fuxaRuntime : RuntimeState where
  runtime := [("own/certs/client_certificate.pem", [1]), ("own/private/private_key.pem", [9])]
  snapshot := []
  manifest := none
  receipts := []

/-- The call raises after the certificate of the runtime was replaced. -/
theorem activation_not_atomic :
    (activatePackageRuntime plainCrypto brokenStage smoothOutcomes fuxaRuntime).1 =
        .error "staged file missing: trusted/certs/ca-chain.pem" ∧
      ¬ SameFiles (activatePackageRuntime plainCrypto brokenStage smoothOutcomes
        fuxaRuntime).2.runtime fuxaRuntime.runtime := by
  have outcome : activatePackageRuntime plainCrypto brokenStage smoothOutcomes fuxaRuntime =
      (.error "staged file missing: trusted/certs/ca-chain.pem",
        { runtime := [("own/certs/client_certificate.pem", [2]),
            ("own/private/private_key.pem", [9])]
          snapshot := [("own/certs/client_certificate.pem", [1])]
          manifest := some ⟨[("own/certs/client_certificate.pem", "01")],
            ["own/private/private_key.pem"]⟩
          receipts := [] }) := by
    decide +kernel
  rw [outcome]
  refine ⟨rfl, fun same => ?_⟩
  exact absurd (same "own/certs/client_certificate.pem") (by decide +kernel)

end OpcuaGds.Agent
