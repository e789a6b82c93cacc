import OpcuaGds.Agent.QuarantineMoves
import OpcuaGds.Foundation.Transition

/-! # What a quarantine records

The calls that activate one plan, one after the other. The files move one by one and the records
follow at the end, and every call that comes so far writes tombstones of its own: what was moved
stays on record when the call that moves it ends well and the later ones write nothing over it.
-/

namespace OpcuaGds.Agent

open Gds (Crypto)

/-! ## A loop that nothing ends -/

section Loop

variable {sha256Hex : List UInt8 → String} {outcomes : QuarantineOutcomes} {item : Json}
  {candidates : List Json} {path : String} {runtime after : FileTree}

variable (sha256Hex candidates) in
/-- What the loop does where no candidate ends it. -/
structure MovesAll (files : QuarantineFiles) (course : MoveCourse) : Prop where
  finishes : course.raises = false
  cleared : ∀ item ∈ candidates, candidateFile item course.files.runtime = none
  absent : ∀ path, files.runtime.read path = none →
    course.files.runtime.read path = none ∧
      course.files.quarantine.read path = files.quarantine.read path
  moved : ∀ path content, files.runtime.read path = some content →
    course.files.runtime.read path = some content ∨
      (course.files.runtime.read path = none ∧
        course.files.quarantine.read path = some content ∧
        ∃ item ∈ candidates, candidateFile item files.runtime = some (path, content) ∧
          movedRecord sha256Hex item content ∈ course.moved)
  recorded : ∀ record ∈ course.moved, ∃ item ∈ candidates, ∃ path content,
    candidateFile item files.runtime = some (path, content) ∧
      record = movedRecord sha256Hex item content ∧ course.files.runtime.read path = none

/-- A candidate without a file stays without one where no file is added. -/
theorem candidateFile_eq_none_of_absent
    (absent : ∀ path, runtime.read path = none → after.read path = none)
    (empty : candidateFile item runtime = none) : candidateFile item after = none := by
  unfold candidateFile at empty ⊢
  split
  · rfl
  · rename_i kept
    rw [if_neg kept] at empty
    cases led : resolveInside (candidatePath item) with
    | none => rfl
    | some path =>
        rw [led, Option.bind_some, Option.map_eq_none_iff, fileAt] at empty
        rw [Option.bind_some, Option.map_eq_none_iff, fileAt]
        split
        · rfl
        · rename_i file
          rw [if_neg file] at empty
          exact absent path empty

theorem moveCandidates_movesAll (sha256Hex : List UInt8 → String) (files : QuarantineFiles)
    (passes : ∀ item ∈ candidates, ¬Halts outcomes files.runtime item) :
    MovesAll sha256Hex candidates files (moveCandidates sha256Hex outcomes candidates files) := by
  induction candidates generalizing files with
  | nil => exact ⟨rfl, nofun, fun _ gone => ⟨gone, rfl⟩, fun _ _ there => .inl there, nofun⟩
  | cons item rest ih =>
      have step := moveCandidate_cases sha256Hex outcomes item files
      have here := passes item List.mem_cons_self
      have later : ∀ other ∈ rest, ¬Halts outcomes files.runtime other := fun other among =>
        passes other (List.mem_cons_of_mem _ among)
      rw [moveCandidates]
      generalize moveCandidate sha256Hex outcomes item files = result at step ⊢
      cases step with
      | skips inside none =>
          have course := ih files later
          refine ⟨course.finishes, List.forall_mem_cons.mpr ⟨?_, course.cleared⟩, course.absent,
            fun path content there => ?_, fun record among => ?_⟩
          · exact candidateFile_eq_none_of_absent
              (fun path gone => (course.absent path gone).1) none
          · rcases course.moved path content there with kept | ⟨gone, copied, other, among, rest⟩
            · exact .inl kept
            · exact .inr ⟨gone, copied, other, List.mem_cons_of_mem _ among, rest⟩
          · obtain ⟨other, inRest, rest⟩ := course.recorded record among
            exact ⟨other, List.mem_cons_of_mem _ inRest, rest⟩
      | raises left halts same => exact absurd halts here
      | moves path content inside found clears =>
          have there := (candidateFile_read found).2
          have course := ih (files.move path content) fun other among halts =>
            later other among ((halts_delete clears).mp halts)
          have gone : (files.move path content).runtime.read path = none := by
            rw [QuarantineFiles.move, FileTree.read_delete, if_pos rfl]
          refine ⟨course.finishes, List.forall_mem_cons.mpr ⟨?_, course.cleared⟩,
            fun other absent => ?_, fun other bytes held => ?_, ?_⟩
          · refine candidateFile_eq_none_of_absent (fun _ none => (course.absent _ none).1) ?_
            rw [Option.eq_none_iff_forall_ne_some]
            intro again left
            obtain ⟨distinct, same⟩ := candidateFile_delete.mp left
            rw [found] at same
            cases same
            exact distinct rfl
          · have distinct : other ≠ path := by
              rintro rfl
              rw [there] at absent
              cases absent
            have still : (files.move path content).runtime.read other = none := by
              rw [QuarantineFiles.move, FileTree.read_delete, if_neg distinct, absent]
            obtain ⟨stays, copied⟩ := course.absent other still
            refine ⟨stays, copied.trans ?_⟩
            rw [QuarantineFiles.move, FileTree.read_write_of_ne distinct]
          · by_cases same : other = path
            · subst same
              have sameBytes : content = bytes := Option.some.inj (there.symm.trans held)
              subst sameBytes
              obtain ⟨stays, copied⟩ := course.absent other gone
              refine .inr ⟨stays, copied.trans ?_, item, List.mem_cons_self, found,
                List.mem_cons_self⟩
              rw [QuarantineFiles.move, FileTree.read_write_self]
            · have still : (files.move path content).runtime.read other = some bytes := by
                rw [QuarantineFiles.move, FileTree.read_delete, if_neg same, held]
              rcases course.moved other bytes still with
                kept | ⟨left, copied, taken, among, file, rest⟩
              · exact .inl kept
              · exact .inr ⟨left, copied, taken, List.mem_cons_of_mem _ among,
                  (candidateFile_delete.mp file).2, List.mem_cons_of_mem _ rest⟩
          · refine List.forall_mem_cons.mpr ⟨?_, fun record among => ?_⟩
            · exact ⟨item, List.mem_cons_self, path, content, found, rfl,
                (course.absent path gone).1⟩
            · obtain ⟨other, inRest, where_, bytes, file, rest⟩ := course.recorded record among
              exact ⟨other, List.mem_cons_of_mem _ inRest, where_, bytes,
                (candidateFile_delete.mp file).2, rest⟩

/-- What is recorded was taken. -/
theorem takes_of_moved (sha256Hex : List UInt8 → String) (files : QuarantineFiles)
    (moved : (moveCandidates sha256Hex outcomes candidates files).moved ≠ []) :
    ∃ path, Takes outcomes files.runtime candidates path := by
  induction candidates generalizing files with
  | nil => exact absurd rfl moved
  | cons item rest ih =>
      have step := moveCandidate_cases sha256Hex outcomes item files
      rw [moveCandidates] at moved
      simp only [takes_cons]
      generalize moveCandidate sha256Hex outcomes item files = result at step moved
      cases step with
      | skips inside absent =>
          obtain ⟨path, takes⟩ := ih files moved
          refine ⟨path, .inr ⟨?_, takes⟩⟩
          rintro (escapes | ⟨_, _, found, _⟩)
          · exact inside escapes
          · rw [absent] at found
            cases found
      | raises left halts same => exact absurd rfl moved
      | moves path content inside found clears => exact ⟨path, .inl ⟨⟨content, found⟩, clears⟩⟩

end Loop

/-! ## The calls of one plan -/

section Statements

variable {PrivateKey PublicKey : Type} (crypto : Crypto PrivateKey PublicKey)
  (sha256Hex : List UInt8 → String) (target planId : String) (plan : Json)

/-- One activation of a plan: what it is given and finds, and how its operations on files turn
out. -/
structure QuarantineCall (PrivateKey : Type) (target planId : String) (plan : Json) where
  input : QuarantineInput PrivateKey
  outcomes : QuarantineOutcomes
  ofTarget : input.target = target
  ofPlanId : input.planId = planId
  found : input.plan = some plan

/-- The files and records after one more activation of the plan. -/
def quarantineStep (state : QuarantineState) (call : QuarantineCall PrivateKey target planId plan) :
    Option QuarantineState :=
  some (activateRevocationQuarantine crypto sha256Hex call.input call.outcomes state).2

/-- There are no records of the plan. -/
structure QuarantineState.Fresh (state : QuarantineState) : Prop where
  tombstones : state.tombstones = none
  receipts : ∀ file ∈ state.receipts, file.2.planId ≠ planId

/-- A record is about a path and its bytes. -/
structure MovedFile.Records (moved : MovedFile) (path : String) (content : List UInt8) : Prop where
  source : resolveInside moved.fromPath = some path
  destination : resolveInside moved.toPath = some path
  digest : moved.sha256 = sha256Hex content

/-- Every file of the start is still there, or it is in quarantine and in both records; a
quarantine that moved something validates as long as what it moved stays where it is. -/
structure QuarantineKept (start state : QuarantineState) : Prop where
  files : ∀ path content, start.files.runtime.read path = some content →
    state.files.runtime.read path = some content ∨
      (state.files.runtime.read path = none ∧
        state.files.quarantine.read path = some content ∧
        (∃ records, state.tombstones = some records ∧
          ∃ moved ∈ records, moved.Records sha256Hex path content) ∧
        ∃ file ∈ state.receipts, file.2.planId = planId ∧
          ∃ moved ∈ file.2.movedFiles, moved.Records sha256Hex path content)
  validates : (∃ path, (start.files.runtime.read path).isSome = true ∧
      state.files.runtime.read path = none) →
    ∀ files : QuarantineFiles,
      (∀ path content, start.files.runtime.read path = some content →
        state.files.runtime.read path = none →
          files.quarantine.read path = some content ∧ files.runtime.read path = none) →
      ∃ validation, validateRevocationQuarantine sha256Hex files target planId (some plan)
          state.receipts = .ok validation ∧ validation.status = "validated"

/-! ## Calls that keep the records -/

/-- The tombstones list no file. -/
def QuarantineState.NothingMoved (state : QuarantineState) : Prop :=
  ∀ records, state.tombstones = some records → records = []

section Calls

variable {target planId plan} (state : QuarantineState)
  (call : QuarantineCall PrivateKey target planId plan)

/-- A call that moves something comes to its end, and its receipt is the newest of the plan. -/
structure QuarantineCall.Completes : Prop where
  passes : ∀ item ∈ quarantineCandidates plan,
    ¬Halts call.outcomes state.files.runtime item
  tombstones : call.outcomes.tombstonesWritten = true
  receipt : call.outcomes.receiptWritten = true
  newest : ∀ file ∈ state.receipts, file.2.planId = planId → file.1 ≤ receiptName call.input
  plain : ∀ item ∈ quarantineCandidates plan,
    (candidateFile item state.files.runtime).isSome = true →
      normalizeRelativePath (candidatePath item) = candidatePath item

/-- A receipt of the plan with moved files sorts after the one of this call. -/
def QuarantineCall.Precedes : Prop :=
  ∃ file ∈ state.receipts, file.2.planId = planId ∧ file.2.movedFiles ≠ [] ∧
    receiptName call.input < file.1

/-- A write probe that stays has a name that is not in the plan; the call that moves something
completes; after it no call writes tombstones, nor a receipt that is newer. -/
structure QuarantineCall.Careful : Prop where
  probe : ∀ name content, call.outcomes.probe = .refused (some (name, content)) →
    ∀ item ∈ quarantineCandidates plan,
      resolveInside (candidatePath item) ≠ some (FileTree.dirPart "" ++ name)
  first : state.NothingMoved → Proceeds crypto call.input call.outcomes plan →
    (∃ path, Takes call.outcomes state.files.runtime (quarantineCandidates plan) path) →
      call.Completes state
  later : ¬state.NothingMoved →
    ¬(Proceeds crypto call.input call.outcomes plan ∧ call.outcomes.tombstonesWritten = true) ∧
      (Refuses crypto call.input → call.outcomes.receiptWritten = true →
        call.Precedes state)

end Calls

end Statements

/-! ## What the calls keep -/

section Invariants

variable {sha256Hex : List UInt8 → String} {target planId : String} {plan : Json}

variable (planId plan) in
/-- Nothing was moved so far. -/
structure Untouched (start state : QuarantineState) : Prop where
  runtime : ∀ path, (start.files.runtime.read path).isSome = true →
    state.files.runtime.read path = start.files.runtime.read path
  candidates : ∀ item ∈ quarantineCandidates plan, ∀ path,
    resolveInside (candidatePath item) = some path →
      state.files.runtime.read path = start.files.runtime.read path
  tombstones : state.NothingMoved
  receipts : ∀ file ∈ state.receipts, file.2.planId = planId → file.2.movedFiles = []

variable (sha256Hex target planId plan) in
/-- The files of the plan were moved, and the records say so. -/
structure Quarantined (start state : QuarantineState) (records : List MovedFile)
    (receipt : String × QuarantineReceipt) : Prop where
  enabled : target ∈ ["fuxa", "opcua-server"]
  named : planId ≠ ""
  tombstones : state.tombstones = some records
  someMoved : records ≠ []
  moved : receipt.2.movedFiles = records
  status : receipt.2.status = "quarantined"
  ofPlan : receipt.2.planId = planId
  written : receipt ∈ state.receipts.newestFirst
  others : ∀ file ∈ state.receipts, file.2.planId = planId →
    file = receipt ∨ file.1 < receipt.1 ∧ file.2.movedFiles = []
  cleared : ∀ item ∈ quarantineCandidates plan, ¬Escapes item ∧
    candidateFile item state.files.runtime = none
  files : ∀ path content, start.files.runtime.read path = some content →
    state.files.runtime.read path = some content ∨
      (state.files.runtime.read path = none ∧
        state.files.quarantine.read path = some content ∧
        ∃ moved ∈ records, moved.Records sha256Hex path content)
  recorded : ∀ record ∈ records, ∃ item ∈ quarantineCandidates plan, ∃ path content,
    candidateFile item start.files.runtime = some (path, content) ∧
      record = movedRecord sha256Hex item content ∧
      normalizeRelativePath (candidatePath item) = candidatePath item ∧
      state.files.runtime.read path = none

end Invariants

section Steps

variable {PrivateKey PublicKey : Type} {crypto : Crypto PrivateKey PublicKey}
  {sha256Hex : List UInt8 → String} {target planId : String} {plan item : Json}
  {input : QuarantineInput PrivateKey} {outcomes : QuarantineOutcomes}
  {start state after : QuarantineState} {left right : FileTree}

/-- The file of a candidate is what there is at its path. -/
theorem candidateFile_congr (same : ∀ path, resolveInside (candidatePath item) = some path →
    left.read path = right.read path) : candidateFile item left = candidateFile item right := by
  refine ite_congr rfl (fun _ => rfl) fun _ => Option.bind_congr fun path led => ?_
  rw [fileAt, fileAt, same path led]

variable (sha256Hex outcomes) in
/-- A loop over candidates without files changes nothing. -/
theorem moveCandidates_of_cleared (candidates : List Json) (files : QuarantineFiles)
    (cleared : ∀ item ∈ candidates, ¬Escapes item ∧ candidateFile item files.runtime = none) :
    moveCandidates sha256Hex outcomes candidates files = ⟨[], files, false⟩ := by
  induction candidates with
  | nil => rfl
  | cons item rest ih =>
      obtain ⟨inside, absent⟩ := cleared item List.mem_cons_self
      have step := moveCandidate_cases sha256Hex outcomes item files
      rw [moveCandidates]
      generalize moveCandidate sha256Hex outcomes item files = result at step ⊢
      cases step with
      | skips => exact ih fun other among => cleared other (List.mem_cons_of_mem _ among)
      | raises left halts =>
          rcases halts with escapes | ⟨path, content, found, _⟩
          · exact absurd escapes inside
          · rw [absent] at found
            cases found
      | moves path content _ found =>
          rw [absent] at found
          cases found

variable (sha256Hex input outcomes plan state) in
/-- What is written after the loop: nothing, the tombstones, or the tombstones and a receipt. -/
inductive PerformCase : QuarantineState → Prop where
  | raises (ends : (moveCandidates sha256Hex outcomes (quarantineCandidates plan)
      state.files).raises = true ∨ outcomes.tombstonesWritten = false) : PerformCase { state with
      files := (moveCandidates sha256Hex outcomes (quarantineCandidates plan) state.files).files }
  | tombstones (written : outcomes.tombstonesWritten = true)
      (unwritten : outcomes.receiptWritten = false) : PerformCase {
        files := (moveCandidates sha256Hex outcomes (quarantineCandidates plan) state.files).files
        tombstones := some
          (moveCandidates sha256Hex outcomes (quarantineCandidates plan) state.files).moved
        receipts := state.receipts }
  | receipt (receipt : QuarantineReceipt) (written : outcomes.tombstonesWritten = true)
      (ofPlan : receipt.planId = input.planId)
      (moved : receipt.movedFiles =
        (moveCandidates sha256Hex outcomes (quarantineCandidates plan) state.files).moved)
      (status : receipt.movedFiles ≠ [] → receipt.status = "quarantined") : PerformCase {
        files := (moveCandidates sha256Hex outcomes (quarantineCandidates plan) state.files).files
        tombstones := some
          (moveCandidates sha256Hex outcomes (quarantineCandidates plan) state.files).moved
        receipts := state.receipts.put (receiptName input) receipt }

variable (sha256Hex plan input outcomes state) in
theorem performQuarantine_cases (warnings : List String) :
    PerformCase sha256Hex plan input outcomes state
      (performQuarantine sha256Hex input outcomes plan warnings state).2 := by
  simp only [performQuarantine]
  split
  · rename_i ends
    exact .raises ends
  · rename_i finishes
    simp only [not_or, Bool.not_eq_true, Bool.not_eq_false] at finishes
    unfold writeReceipt
    split
    · rename_i unwritten
      exact .tombstones finishes.2 unwritten
    · refine .receipt _ finishes.2 rfl rfl fun moved => ?_
      dsimp only at moved ⊢
      rw [if_neg (by rwa [List.isEmpty_iff])]

/-- A receipt has a name that a search of the directory finds. -/
theorem isJsonName_receiptName (input : QuarantineInput PrivateKey) :
    DirectoryListing.isJsonName (receiptName input) = true := by
  rw [DirectoryListing.isJsonName, receiptName, List.isSuffixOf_iff_suffix, String.toList_append]
  exact List.suffix_append _ _

/-- What a step does to the runtime at the path of a candidate, where nothing is moved. -/
theorem Idle.read_candidate (idle : Idle crypto input outcomes state after)
    (apart : ∀ name content, outcomes.probe = .refused (some (name, content)) →
      ∀ item ∈ quarantineCandidates plan,
        resolveInside (candidatePath item) ≠ some (FileTree.dirPart "" ++ name))
    (among : item ∈ quarantineCandidates plan) {path : String}
    (led : resolveInside (candidatePath item) = some path) :
    after.files.runtime.read path = state.files.runtime.read path := by
  rcases idle.runtime with same | ⟨leftover, probe, left⟩
  · rw [same]
  · rw [left]
    rcases FileTree.read_leave "" path leftover state.files.runtime with
      same | ⟨_, name, content, stays, here, _⟩
    · exact same
    · rw [stays] at probe
      exact absurd (here ▸ led) (apart name content probe item among)

variable {call : QuarantineCall PrivateKey target planId plan}

/-- A call that takes a file and comes to its end records what it takes. -/
theorem Untouched.quarantined (untouched : Untouched planId plan start state)
    (completes : call.Completes state) (proceeds : Proceeds crypto call.input call.outcomes plan)
    (takes : ∃ path, Takes call.outcomes state.files.runtime (quarantineCandidates plan) path)
    {next : QuarantineState}
    (written : PerformCase sha256Hex plan call.input call.outcomes state next) :
    ∃ records receipt, Quarantined sha256Hex target planId plan start next records receipt := by
  have course := moveCandidates_movesAll sha256Hex state.files completes.passes
  have sameFile (item : Json) (among : item ∈ quarantineCandidates plan) :
      candidateFile item state.files.runtime = candidateFile item start.files.runtime :=
    candidateFile_congr (untouched.candidates item among)
  have someMoved : (moveCandidates sha256Hex call.outcomes (quarantineCandidates plan)
      state.files).moved ≠ [] := by
    obtain ⟨path, front, item, back, parts, _, ⟨content, found⟩, _⟩ := takes
    have inPlan : item ∈ quarantineCandidates plan :=
      parts ▸ List.mem_append_right front List.mem_cons_self
    obtain ⟨led, there⟩ := candidateFile_read found
    rcases course.moved path content there with stays | ⟨_, _, _, _, _, among⟩
    · have again : candidateFile item (moveCandidates sha256Hex call.outcomes
          (quarantineCandidates plan) state.files).files.runtime =
            candidateFile item state.files.runtime := by
        refine candidateFile_congr fun other same => ?_
        rw [led, Option.some.injEq] at same
        rw [← same, stays, there]
      rw [course.cleared item inPlan, found] at again
      cases again
    · exact List.ne_nil_of_mem among
  cases written with
  | raises ends =>
      rw [course.finishes, completes.tombstones] at ends
      exact ends.elim (nomatch ·) (nomatch ·)
  | tombstones _ unwritten =>
      rw [completes.receipt] at unwritten
      cases unwritten
  | receipt receipt _ ofPlan moved status =>
      refine ⟨receipt.movedFiles, (receiptName call.input, receipt), ?_⟩
      exact {
        enabled := call.ofTarget ▸ proceeds.target
        named := call.ofPlanId ▸ proceeds.planId
        tombstones := congrArg some moved.symm
        someMoved := moved ▸ someMoved
        moved := rfl
        status := status (moved ▸ someMoved)
        ofPlan := ofPlan.trans call.ofPlanId
        written := DirectoryListing.mem_newestFirst.mpr
          ⟨DirectoryListing.mem_put.mpr (.inl rfl), isJsonName_receiptName call.input⟩
        others := fun file among ofPlan => by
          rcases DirectoryListing.mem_put.mp among with new | ⟨old, distinct⟩
          · exact .inl new
          · exact .inr ⟨lt_of_le_of_ne (completes.newest file old ofPlan) distinct,
              untouched.receipts file old ofPlan⟩
        cleared := fun item among =>
          ⟨fun escapes => completes.passes item among (.inl escapes), course.cleared item among⟩
        files := fun path content there => by
          have held := (untouched.runtime path (by rw [there]; rfl)).trans there
          rcases course.moved path content held with stays | ⟨gone, copied, item, _, found, listed⟩
          · exact .inl stays
          · have led := (candidateFile_read found).1
            rw [← moved] at listed
            exact .inr ⟨gone, copied, movedRecord sha256Hex item content, listed, led, led, rfl⟩
        recorded := fun record among => by
          rw [moved] at among
          obtain ⟨item, inPlan, path, content, found, same, gone⟩ := course.recorded record among
          have plain := completes.plain item inPlan (by rw [found]; rfl)
          exact ⟨item, inPlan, path, content, (sameFile item inPlan).symm.trans found, same, plain,
            gone⟩ }

/-- A call that moves nothing leaves nothing moved. -/
theorem Untouched.of_idle (untouched : Untouched planId plan start state)
    (apart : ∀ name content, call.outcomes.probe = .refused (some (name, content)) →
      ∀ item ∈ quarantineCandidates plan,
        resolveInside (candidatePath item) ≠ some (FileTree.dirPart "" ++ name))
    (idle : Idle crypto call.input call.outcomes state after) :
    Untouched planId plan start after := by
  refine ⟨fun path there => ?_, fun item among path led => ?_, ?_, fun file among ofPlan => ?_⟩
  · have same := untouched.runtime path there
    exact (idle.read (same ▸ there)).trans same
  · exact (idle.read_candidate apart among led).trans (untouched.candidates item among path led)
  · rw [QuarantineState.NothingMoved, idle.tombstones]
    exact untouched.tombstones
  · rcases idle.receipts with same | ⟨_, receipt, _, moved, put⟩
    · exact untouched.receipts file (same ▸ among) ofPlan
    · rw [put, DirectoryListing.mem_put] at among
      rcases among with new | ⟨old, _⟩
      · rw [new]
        exact moved
      · exact untouched.receipts file old ofPlan

/-- A call that is not yet careful of records moves nothing, or it moves and records. -/
theorem Untouched.step (untouched : Untouched planId plan start state)
    (careful : call.Careful crypto state) :
    let next := (activateRevocationQuarantine crypto sha256Hex call.input call.outcomes state).2
    Untouched planId plan start next ∨ ∃ records receipt,
      Quarantined sha256Hex target planId plan start next records receipt := by
  have outcome := activate_cases crypto sha256Hex call.input call.outcomes state
  dsimp only
  generalize activateRevocationQuarantine crypto sha256Hex call.input call.outcomes state = result
    at outcome ⊢
  cases outcome with
  | stops _ idle never =>
      exact .inl (untouched.of_idle careful.probe idle)
  | performs other warnings proceeds =>
      have same : other = plan := Option.some.inj (proceeds.found.symm.trans call.found)
      subst same
      have written := performQuarantine_cases sha256Hex other call.input call.outcomes state
        warnings
      by_cases takes : ∃ path,
        Takes call.outcomes state.files.runtime (quarantineCandidates other) path
      · have completes := careful.first untouched.tombstones proceeds takes
        exact .inr (untouched.quarantined completes proceeds takes written)
      · have none : (moveCandidates sha256Hex call.outcomes (quarantineCandidates other)
            state.files).moved = [] := by
          by_contra moved
          exact takes (takes_of_moved sha256Hex state.files moved)
        have kept (path : String) : (moveCandidates sha256Hex call.outcomes
            (quarantineCandidates other) state.files).files.runtime.read path =
              state.files.runtime.read path := by
          refine Option.ext fun content => (read_moveCandidates sha256Hex _ _).trans ?_
          exact and_iff_left fun taken => takes ⟨path, taken⟩
        generalize (performQuarantine sha256Hex call.input call.outcomes other warnings state).2 =
          next at written ⊢
        have runtime (path : String) (there : (start.files.runtime.read path).isSome = true) :=
          (kept path).trans (untouched.runtime path there)
        have candidates (item : Json) (among : item ∈ quarantineCandidates other) (path : String)
            (led : resolveInside (candidatePath item) = some path) :=
          (kept path).trans (untouched.candidates item among path led)
        cases written with
        | raises =>
            exact .inl ⟨runtime, candidates, untouched.tombstones, untouched.receipts⟩
        | tombstones =>
            refine .inl ⟨runtime, candidates, fun records same => ?_, untouched.receipts⟩
            exact (Option.some.inj same).symm.trans none
        | receipt receipt _ ofPlan moved =>
            refine .inl ⟨runtime, candidates, fun records same => ?_, fun file among ofPlan => ?_⟩
            · exact (Option.some.inj same).symm.trans none
            · rcases DirectoryListing.mem_put.mp among with new | ⟨old, _⟩
              · rw [new]
                exact moved.trans none
              · exact untouched.receipts file old ofPlan

/-- A receipt that sorts before one with moved files sorts before the one of the move. -/
theorem Quarantined.newer {records : List MovedFile} {receipt : String × QuarantineReceipt}
    (quarantined : Quarantined sha256Hex target planId plan start state records receipt)
    (precedes : call.Precedes state) : receiptName call.input < receipt.1 := by
  obtain ⟨file, among, ofPlan, moved, before⟩ := precedes
  rcases quarantined.others file among ofPlan with same | ⟨_, none⟩
  · rw [← same]
    exact before
  · exact absurd none moved

/-- A call that moves nothing leaves what was moved and the records of it, when its receipt is not
the newest. -/
theorem Quarantined.of_idle {records : List MovedFile} {receipt : String × QuarantineReceipt}
    (quarantined : Quarantined sha256Hex target planId plan start state records receipt)
    (apart : ∀ name content, call.outcomes.probe = .refused (some (name, content)) →
      ∀ item ∈ quarantineCandidates plan,
        resolveInside (candidatePath item) ≠ some (FileTree.dirPart "" ++ name))
    (older : Refuses crypto call.input → call.outcomes.receiptWritten = true →
      call.Precedes state)
    (idle : Idle crypto call.input call.outcomes state after) :
    Quarantined sha256Hex target planId plan start after records receipt := by
  have same (item : Json) (among : item ∈ quarantineCandidates plan) (path : String)
      (led : resolveInside (candidatePath item) = some path) :=
    idle.read_candidate apart among led
  refine {
    quarantined with
    tombstones := idle.tombstones.trans quarantined.tombstones
    written := ?_
    others := ?_
    cleared := fun item among => ⟨(quarantined.cleared item among).1,
      (candidateFile_congr (same item among)).trans (quarantined.cleared item among).2⟩
    files := ?_
    recorded := ?_ }
  · obtain ⟨held, json⟩ := DirectoryListing.mem_newestFirst.mp quarantined.written
    refine DirectoryListing.mem_newestFirst.mpr ⟨?_, json⟩
    rcases idle.receipts with kept | ⟨⟨refuses, written⟩, _, _, _, put⟩
    · rw [kept]
      exact held
    · rw [put, DirectoryListing.mem_put]
      exact .inr ⟨held, (quarantined.newer (older refuses written)).ne'⟩
  · intro file among ofPlan
    rcases idle.receipts with kept | ⟨⟨refuses, written⟩, _, _, moved, put⟩
    · rw [kept] at among
      exact quarantined.others file among ofPlan
    · rw [put, DirectoryListing.mem_put] at among
      rcases among with new | ⟨old, _⟩
      · rw [new]
        exact .inr ⟨quarantined.newer (older refuses written), moved⟩
      · exact quarantined.others file old ofPlan
  · intro path content there
    rcases quarantined.files path content there with stays | ⟨gone, copied, record, among, about⟩
    · refine .inl ((idle.read ?_).trans stays)
      rw [stays]
      rfl
    · obtain ⟨item, inPlan, _, _, _, sameRecord, _, _⟩ := quarantined.recorded record among
      have led := about.source
      rw [sameRecord] at led
      rw [idle.quarantine]
      exact .inr ⟨(same item inPlan path led).trans gone, copied, record, among, about⟩
  · intro record among
    obtain ⟨item, inPlan, path, content, found, sameRecord, plain, gone⟩ :=
      quarantined.recorded record among
    exact ⟨item, inPlan, path, content, found, sameRecord, plain,
      (same item inPlan path (candidateFile_read found).1).trans gone⟩

/-- After the files were moved, a careful call leaves them and the records as they are. -/
theorem Quarantined.step {records : List MovedFile} {receipt : String × QuarantineReceipt}
    (quarantined : Quarantined sha256Hex target planId plan start state records receipt)
    (careful : call.Careful crypto state) :
    Quarantined sha256Hex target planId plan start
      (activateRevocationQuarantine crypto sha256Hex call.input call.outcomes state).2 records
      receipt := by
  have some : ¬state.NothingMoved := fun nothing =>
    quarantined.someMoved (nothing records quarantined.tombstones)
  obtain ⟨noTombstones, older⟩ := careful.later some
  have outcome := activate_cases crypto sha256Hex call.input call.outcomes state
  generalize activateRevocationQuarantine crypto sha256Hex call.input call.outcomes state = result
    at outcome ⊢
  cases outcome with
  | stops _ idle never =>
      exact quarantined.of_idle careful.probe older idle
  | performs other warnings proceeds =>
      have same : other = plan := Option.some.inj (proceeds.found.symm.trans call.found)
      subst same
      have course := moveCandidates_of_cleared sha256Hex call.outcomes
        (quarantineCandidates other) state.files quarantined.cleared
      have written := performQuarantine_cases sha256Hex other call.input call.outcomes state
        warnings
      generalize (performQuarantine sha256Hex call.input call.outcomes other warnings state).2 =
        next at written ⊢
      cases written with
      | raises =>
          rw [course]
          exact quarantined
      | tombstones written => exact absurd ⟨proceeds, written⟩ noTombstones
      | receipt _ written => exact absurd ⟨proceeds, written⟩ noTombstones

theorem Untouched.kept (untouched : Untouched planId plan start state) :
    QuarantineKept sha256Hex target planId plan start state where
  files := fun path content there =>
    .inl ((untouched.runtime path (by rw [there]; rfl)).trans there)
  validates := fun gone => by
    obtain ⟨path, there, none⟩ := gone
    rw [← untouched.runtime path there, none] at there
    cases there

/-- The receipt of the move is the newest of the plan. -/
theorem Quarantined.latest {records : List MovedFile} {receipt : String × QuarantineReceipt}
    (quarantined : Quarantined sha256Hex target planId plan start state records receipt) :
    latestQuarantineReceipt state.receipts planId = some receipt.2 := by
  rw [latestQuarantineReceipt, List.find?_map, DirectoryListing.find?_newestFirst
    quarantined.written (decide_eq_true quarantined.ofPlan), Option.map_some]
  intro other among ofPlan
  have held := (DirectoryListing.mem_newestFirst.mp among).1
  exact (quarantined.others other held (of_decide_eq_true ofPlan)).imp_right And.left

/-- What was moved is found in quarantine, and not in the runtime. -/
theorem validateMoved_status {files : QuarantineFiles} {receipt : QuarantineReceipt}
    (status : receipt.status = "quarantined")
    (each : ∀ moved ∈ receipt.movedFiles,
      recordedFile (normalizeRelativePath moved.fromPath) files.runtime = none ∧
        ∃ content, recordedFile moved.toPath files.quarantine = some content ∧
          PythonText.lower (PythonText.strip moved.sha256) = sha256Hex content) :
    (validateMoved sha256Hex files receipt).status = "validated" := by
  have listed {moved : MovedFile} (among : moved ∈ checkedFiles receipt) :=
    each moved (List.mem_of_mem_filter among)
  have missing : (checkedFiles receipt).filter (fun moved =>
      (recordedFile moved.toPath files.quarantine).isNone) = [] := by
    refine List.filter_eq_nil_iff.mpr fun moved among => ?_
    obtain ⟨_, content, found, _⟩ := listed among
    rw [found]
    exact Bool.false_ne_true
  have still : ((checkedFiles receipt).map fun moved =>
      normalizeRelativePath moved.fromPath).filter (fun rel =>
        (recordedFile rel files.runtime).isSome) = [] := by
    refine List.filter_eq_nil_iff.mpr fun rel among => ?_
    obtain ⟨moved, inChecked, same⟩ := List.mem_map.mp among
    rw [← same, (listed inChecked).1]
    exact Bool.false_ne_true
  have mismatches : (checkedFiles receipt).filterMap (fun moved =>
      (recordedFile moved.toPath files.quarantine).bind fun content =>
        let expected := PythonText.lower (PythonText.strip moved.sha256)
        if expected ≠ "" ∧ expected ≠ sha256Hex content then
          some (moved.toPath, expected, sha256Hex content)
        else none) = [] := by
    refine List.filterMap_eq_nil_iff.mpr fun moved among => ?_
    obtain ⟨_, content, found, digest⟩ := listed among
    rw [found, Option.bind_some]
    exact if_neg fun differs => differs.2 digest
  simp only [validateMoved]
  rw [missing, still, mismatches]
  exact if_pos ⟨status, rfl⟩

/-- The path of a candidate with a file leads to a file in every tree. -/
theorem recordedFile_eq {runtime : FileTree} {path : String} {content : List UInt8}
    (found : candidateFile item runtime = some (path, content)) (tree : FileTree) :
    recordedFile (candidatePath item) tree = tree.read path := by
  unfold candidateFile at found
  split at found
  · cases found
  · obtain ⟨led, resolved, there⟩ := Option.bind_eq_some_iff.mp found
    obtain ⟨held, read, same⟩ := Option.map_eq_some_iff.mp there
    unfold fileAt at read
    split at read
    · cases read
    · rename_i file
      rw [recordedFile, resolved, Option.bind_some, fileAt, if_neg file]
      exact congrArg tree.read (Prod.mk.inj same).1

theorem Quarantined.kept (hexDigests : ∀ content,
      PythonText.lower (PythonText.strip (sha256Hex content)) = sha256Hex content)
    {records : List MovedFile} {receipt : String × QuarantineReceipt}
    (quarantined : Quarantined sha256Hex target planId plan start state records receipt) :
    QuarantineKept sha256Hex target planId plan start state where
  files := by
    intro path content there
    rcases quarantined.files path content there with stays | ⟨gone, copied, record, among, about⟩
    · exact .inl stays
    · have held := (DirectoryListing.mem_newestFirst.mp quarantined.written).1
      exact .inr ⟨gone, copied, ⟨records, quarantined.tombstones, record, among, about⟩, receipt,
        held, quarantined.ofPlan, record, quarantined.moved ▸ among, about⟩
  validates := by
    intro _ files stays
    have some : ¬(receipt.2.movedFiles.isEmpty = true ∧ receipt.2.status = "not_applicable") := by
      intro none
      exact quarantined.someMoved (quarantined.moved ▸ List.isEmpty_iff.mp none.1)
    refine ⟨validateMoved sha256Hex files receipt.2, ?_, validateMoved_status quarantined.status ?_⟩
    · rw [validateRevocationQuarantine, if_neg (not_not.mpr quarantined.enabled),
        if_neg quarantined.named, quarantined.latest]
      exact if_neg some
    · intro moved among
      rw [quarantined.moved] at among
      obtain ⟨item, _, path, content, found, same, plain, gone⟩ := quarantined.recorded moved among
      obtain ⟨led, there⟩ := candidateFile_read found
      obtain ⟨copied, absent⟩ := stays path content there gone
      rw [same]
      refine ⟨?_, content, (recordedFile_eq found files.quarantine).trans copied,
        hexDigests content⟩
      rw [movedRecord, plain]
      exact (recordedFile_eq found files.runtime).trans absent

theorem QuarantineState.Fresh.untouched (fresh : start.Fresh planId) :
    Untouched planId plan start start where
  runtime := fun _ _ => rfl
  candidates := fun _ _ _ _ => rfl
  tombstones := fun records same => by
    rw [fresh.tombstones] at same
    cases same
  receipts := fun file among ofPlan => absurd ofPlan (fresh.receipts file among)

variable (sha256Hex state) in
/-- A call that gets to the candidates does what the loop does. -/
theorem activate_of_proceeds (proceeds : Proceeds crypto input outcomes plan) :
    ∃ warnings, activateRevocationQuarantine crypto sha256Hex input outcomes state =
      performQuarantine sha256Hex input outcomes plan warnings state := by
  have outcome := activate_cases crypto sha256Hex input outcomes state
  generalize activateRevocationQuarantine crypto sha256Hex input outcomes state = result
    at outcome ⊢
  cases outcome with
  | stops _ _ never => exact absurd proceeds (never plan)
  | performs other warnings goes =>
      have same : other = plan := Option.some.inj (goes.found.symm.trans proceeds.found)
      exact ⟨warnings, by rw [same]⟩

/-- After the files were moved, a call that gets to the candidates and writes tombstones leaves
tombstones without a file. -/
theorem Quarantined.forgotten {records : List MovedFile} {receipt : String × QuarantineReceipt}
    (quarantined : Quarantined sha256Hex target planId plan start state records receipt)
    (proceeds : Proceeds crypto call.input call.outcomes plan)
    (written : call.outcomes.tombstonesWritten = true) :
    ¬QuarantineKept sha256Hex target planId plan start
      (activateRevocationQuarantine crypto sha256Hex call.input call.outcomes state).2 := by
  intro kept
  obtain ⟨warnings, performed⟩ := activate_of_proceeds sha256Hex state proceeds
  have course := moveCandidates_of_cleared sha256Hex call.outcomes
    (quarantineCandidates plan) state.files quarantined.cleared
  have outcome := performQuarantine_cases sha256Hex plan call.input call.outcomes state warnings
  rw [performed] at kept
  generalize (performQuarantine sha256Hex call.input call.outcomes plan warnings state).2 = next
    at outcome kept
  obtain ⟨record, among⟩ := List.exists_mem_of_ne_nil _ quarantined.someMoved
  obtain ⟨item, _, path, content, found, _, _, gone⟩ := quarantined.recorded record among
  have there := (candidateFile_read found).2
  have lost : next.files = state.files ∧ next.tombstones = some [] := by
    cases outcome with
    | raises ends =>
        rw [course, written] at ends
        exact ends.elim (nomatch ·) (nomatch ·)
    | tombstones => rw [course]; exact ⟨rfl, rfl⟩
    | receipt => rw [course]; exact ⟨rfl, rfl⟩
  rcases kept.files path content there with
    stays | ⟨_, _, ⟨listed, tombstones, moved, inside, _⟩, _⟩
  · rw [lost.1, gone] at stays
    cases stays
  · rw [lost.2, Option.some.injEq] at tombstones
    rw [← tombstones] at inside
    cases inside

/-- Every run of careful calls keeps what it moves, and the records of it, after every call. -/
theorem quarantine_calls_keep (hexDigests : ∀ content,
      PythonText.lower (PythonText.strip (sha256Hex content)) = sha256Hex content)
    (fresh : start.Fresh planId)
    {calls : List (QuarantineCall PrivateKey target planId plan)}
    (careful : Transition.EveryStep (quarantineStep crypto sha256Hex target planId plan)
      (fun state call _ => call.Careful crypto state) start calls) :
    Transition.EveryStep (quarantineStep crypto sha256Hex target planId plan)
      (fun _ _ next => QuarantineKept sha256Hex target planId plan start next) start calls := by
  let invariant (state : QuarantineState) : Prop := Untouched planId plan start state ∨
    ∃ records receipt, Quarantined sha256Hex target planId plan start state records receipt
  have preserved (state : QuarantineState) (call : QuarantineCall PrivateKey target planId plan)
      (next : QuarantineState) (kept : invariant state)
      (stepped : quarantineStep crypto sha256Hex target planId plan state call = some next)
      (cautious : call.Careful crypto state) : invariant next := by
    rw [← Option.some.inj stepped]
    rcases kept with untouched | ⟨records, receipt, quarantined⟩
    · exact untouched.step cautious
    · exact .inr ⟨records, receipt, quarantined.step cautious⟩
  refine (careful.every_state preserved (.inl fresh.untouched)).imp fun _ _ next kept => ?_
  rcases kept with untouched | ⟨records, receipt, quarantined⟩
  · exact untouched.kept
  · exact quarantined.kept hexDigests

end Steps

/-- The runtime with the certificate of the plan, before any activation. -/
def revokedState : QuarantineState where
  files := ⟨[("trusted/certs/p", [1])], []⟩
  tombstones := none
  receipts := []

/-- The digest of the certificate. -/
def revokedDigest (_ : List UInt8) : String :=
  "4bf5122f344554c53bde2ebb8cd2b7e3d1600ad631c385a5d7cce23c7785459a"

/-- A call at a time, which writes its records or not. -/
def quarantineCallAt (generatedAt : String) (written : Bool) :
    QuarantineCall Unit "fuxa" "q" replacedPlan where
  input := replacedInput generatedAt
  outcomes := allDone written
  ofTarget := rfl
  ofPlanId := rfl
  found := rfl

theorem revokedState_fresh : revokedState.Fresh "q" := ⟨rfl, nofun⟩

theorem revokedState_takes :
    Takes (quarantineCallAt "t" true).outcomes revokedState.files.runtime
      (quarantineCandidates replacedPlan) "trusted/certs/p" := by
  rw [replacedPlan_candidates]
  exact ⟨[], _, [], rfl, nofun, ⟨[1], replacedPlan_file 1⟩, rfl, rfl, rfl⟩

theorem revokedState_completes : (quarantineCallAt "t" true).Completes revokedState where
  passes := by
    rw [replacedPlan_candidates, List.forall_mem_singleton]
    exact not_halts_of_clears (replacedPlan_file 1) ⟨rfl, rfl, rfl⟩
  tombstones := rfl
  receipt := rfl
  newest := nofun
  plain := by
    rw [replacedPlan_candidates, List.forall_mem_singleton]
    intro _
    decide +kernel

theorem revokedState_careful :
    (quarantineCallAt "t" true).Careful Gds.transparentCrypto revokedState where
  probe := nofun
  first := fun _ _ _ => revokedState_completes
  later := fun some => absurd (fun _ listed => nomatch listed) some

/-- The first call quarantines the certificate. -/
theorem revokedState_quarantined : ∃ records receipt,
    Quarantined revokedDigest "fuxa" "q" replacedPlan revokedState
      (activateRevocationQuarantine Gds.transparentCrypto revokedDigest
        (quarantineCallAt "t" true).input (quarantineCallAt "t" true).outcomes revokedState).2
      records receipt := by
  have proceeds := replacedInput_proceeds "t" true
  obtain ⟨warnings, performed⟩ := activate_of_proceeds revokedDigest revokedState proceeds
  exact revokedState_fresh.untouched.quarantined revokedState_completes proceeds
    ⟨_, revokedState_takes⟩ (performed ▸ performQuarantine_cases _ _ _ _ _ warnings)

/-- A second call that fails to write keeps the records of the first. -/
theorem second_call_fails_to_write :
    Transition.EveryStep
      (quarantineStep Gds.transparentCrypto revokedDigest "fuxa" "q" replacedPlan)
      (fun _ _ next => QuarantineKept revokedDigest "fuxa" "q" replacedPlan revokedState next)
      revokedState [quarantineCallAt "t" true, quarantineCallAt "u" false] := by
  have digest : PythonText.lower (PythonText.strip (revokedDigest [1])) = revokedDigest [1] := by
    decide +kernel
  refine quarantine_calls_keep (fun _ => digest) revokedState_fresh ?_
  intro next stepped
  refine ⟨revokedState_careful, fun last _ => ⟨?_, trivial⟩⟩
  obtain ⟨records, receipt, quarantined⟩ := revokedState_quarantined
  have after : (activateRevocationQuarantine Gds.transparentCrypto revokedDigest
      (quarantineCallAt "t" true).input (quarantineCallAt "t" true).outcomes revokedState).2 =
      next := Option.some.inj stepped
  rw [after] at quarantined
  exact {
    probe := nofun
    first := fun none => absurd (none records quarantined.tombstones) quarantined.someMoved
    later := fun _ => ⟨fun writes => Bool.false_ne_true writes.2,
      fun _ writes => absurd writes Bool.false_ne_true⟩ }

/-- A second call that finds nothing to move forgets what the first one moved. -/
theorem second_call_forgets :
    ¬Transition.EveryStep
      (quarantineStep Gds.transparentCrypto revokedDigest "fuxa" "q" replacedPlan)
      (fun _ _ next => QuarantineKept revokedDigest "fuxa" "q" replacedPlan revokedState next)
      revokedState [quarantineCallAt "t" true, quarantineCallAt "u" true] := by
  intro kept
  obtain ⟨records, receipt, quarantined⟩ := revokedState_quarantined
  have second := ((kept _ rfl).2 _ rfl).1
  have proceeds : Proceeds Gds.transparentCrypto (quarantineCallAt "u" true).input
      (quarantineCallAt "u" true).outcomes replacedPlan := replacedInput_proceeds "u" true
  exact quarantined.forgotten proceeds rfl second

end OpcuaGds.Agent
