import OpcuaGds.Agent.QuarantinePaths

/-! # What a quarantine moves

The files that an activation takes out of the runtime, from what is there when it begins. The
activation goes by the paths of the plan; the fingerprints in it are carried into the records
without a look at the files.
-/

namespace OpcuaGds.Agent

open Gds (Crypto)

section Statements

variable (outcomes : QuarantineOutcomes)

/-- The path and the bytes of the file that a candidate is about, where it is eligible and the
file is there. -/
def candidateFile (item : Json) (runtime : FileTree) : Option (String × List UInt8) :=
  if item.isObject = false ∨ candidatePath item = "" ∨
      isQuarantineEligible (candidatePath item) = false then none
  else
    (resolveInside (candidatePath item)).bind fun path =>
      (fileAt (candidatePath item) path runtime).map fun content => (path, content)

/-- An eligible candidate leads out of the runtime. -/
def Escapes (item : Json) : Prop :=
  (item.isObject = true ∧ candidatePath item ≠ "" ∧
    isQuarantineEligible (candidatePath item) = true) ∧
    resolveInside (candidatePath item) = none

/-- The file of a path can be read, copied, read back and removed. -/
structure Clears (path : String) : Prop where
  read : outcomes.readBefore path = true
  copied : outcomes.copy path = .replaces true
  removed : outcomes.unlink path = true

/-- A candidate ends the loop, by the runtime at its beginning. -/
def Halts (runtime : FileTree) (item : Json) : Prop :=
  Escapes item ∨ ∃ path content, candidateFile item runtime = some (path, content) ∧
    ¬Clears outcomes path

/-- The loop comes to a candidate whose file it can move. -/
def Takes (runtime : FileTree) (candidates : List Json) (path : String) : Prop :=
  ∃ front item back, candidates = front ++ item :: back ∧
    (∀ earlier ∈ front, ¬Halts outcomes runtime earlier) ∧
    (∃ content, candidateFile item runtime = some (path, content)) ∧ Clears outcomes path

end Statements

/-! ## One candidate -/

section Candidate

variable {sha256Hex : List UInt8 → String} {outcomes : QuarantineOutcomes} {item : Json}
  {files left next : QuarantineFiles} {moved : MovedFile}

/-- The record of a moved file. -/
def movedRecord (sha256Hex : List UInt8 → String) (item : Json) (content : List UInt8) :
    MovedFile where
  fromPath := candidatePath item
  toPath := candidatePath item
  sha256 := sha256Hex content
  certificateId := (item.field? "certificate_id").getD .null
  serialNumber := (item.field? "serial_number").getD .null
  fingerprintSha256 := (item.field? "fingerprint_sha256").getD .null
  revokedAt := (item.field? "revoked_at").getD .null

/-- The files after one move. -/
def QuarantineFiles.move (files : QuarantineFiles) (path : String) (content : List UInt8) :
    QuarantineFiles where
  runtime := files.runtime.delete path
  quarantine := files.quarantine.write path content

/-- What a candidate can lead to. -/
inductive CandidateCase (sha256Hex : List UInt8 → String) (outcomes : QuarantineOutcomes)
    (item : Json) (files : QuarantineFiles) : MoveStep → Prop where
  | skips (inside : ¬Escapes item) (absent : candidateFile item files.runtime = none) :
      CandidateCase sha256Hex outcomes item files .skips
  | raises (left : QuarantineFiles) (halts : Halts outcomes files.runtime item)
      (runtime : left.runtime = files.runtime) :
      CandidateCase sha256Hex outcomes item files (.raises left)
  | moves (path : String) (content : List UInt8) (inside : ¬Escapes item)
      (found : candidateFile item files.runtime = some (path, content))
      (clears : Clears outcomes path) :
      CandidateCase sha256Hex outcomes item files
        (.moves (movedRecord sha256Hex item content) (files.move path content))

theorem moveCandidate_cases (sha256Hex : List UInt8 → String) (outcomes : QuarantineOutcomes)
    (item : Json) (files : QuarantineFiles) :
    CandidateCase sha256Hex outcomes item files (moveCandidate sha256Hex outcomes item files) := by
  unfold moveCandidate
  by_cases skipped : item.isObject = false ∨ candidatePath item = "" ∨
      isQuarantineEligible (candidatePath item) = false
  · have inside : ¬Escapes item := by
      intro escapes
      obtain ⟨⟨object, named, eligible⟩, _⟩ := escapes
      rw [object, eligible] at skipped
      exact skipped.elim (nomatch ·) fun rest => rest.elim named (nomatch ·)
    have absent : candidateFile item files.runtime = none := by
      rw [candidateFile, if_pos skipped]
    rw [if_pos skipped]
    exact .skips inside absent
  · rw [if_neg skipped]
    simp only [not_or, Bool.not_eq_false] at skipped
    cases led : resolveInside (candidatePath item) with
    | none => exact .raises files (.inl ⟨skipped, led⟩) rfl
    | some path =>
        have inside : ¬Escapes item := fun escapes => by
          rw [escapes.2] at led
          cases led
        have whole : candidateFile item files.runtime =
            (fileAt (candidatePath item) path files.runtime).map fun content =>
              (path, content) := by
          rw [candidateFile, if_neg (by simpa using skipped), led, Option.bind_some]
        dsimp only
        cases there : fileAt (candidatePath item) path files.runtime with
        | none => exact .skips inside (by rw [whole, there, Option.map_none])
        | some content =>
            have found : candidateFile item files.runtime = some (path, content) := by
              rw [whole, there, Option.map_some]
            have stuck (unclear : ¬Clears outcomes path) : Halts outcomes files.runtime item :=
              .inr ⟨path, content, found, unclear⟩
            simp only [movePresentFile]
            cases read : outcomes.readBefore path with
            | false =>
                refine .raises files (stuck fun clears => ?_) rfl
                exact Bool.false_ne_true (read.symm.trans clears.read)
            | true =>
                rw [if_neg (by decide)]
                cases copied : outcomes.copy path with
                | stops leftover =>
                    refine .raises _ (stuck fun clears => ?_) rfl
                    have replaces := clears.copied
                    rw [copied] at replaces
                    cases replaces
                | replaces readBack =>
                    by_cases fails : readBack = false ∨ outcomes.unlink path = false
                    · simp only [if_pos fails]
                      refine .raises _ (stuck fun clears => ?_) rfl
                      have replaces := clears.copied
                      rw [copied, CopyOutcome.replaces.injEq] at replaces
                      rw [replaces, clears.removed] at fails
                      exact fails.elim (nomatch ·) (nomatch ·)
                    · simp only [if_neg fails]
                      simp only [not_or, Bool.not_eq_false] at fails
                      exact .moves path content inside found
                        ⟨read, by rw [copied, fails.1], fails.2⟩

end Candidate

/-! ## The loop -/

section Loop

variable {outcomes : QuarantineOutcomes} {runtime : FileTree} {item : Json} {rest : List Json}
  {path other : String} {content : List UInt8}

/-- A file that was removed is not found again. -/
theorem candidateFile_delete :
    candidateFile item (runtime.delete other) = some (path, content) ↔
      path ≠ other ∧ candidateFile item runtime = some (path, content) := by
  unfold candidateFile
  split
  · exact iff_of_false nofun fun found => nomatch found.2
  · cases resolveInside (candidatePath item) with
    | none => exact iff_of_false nofun fun found => nomatch found.2
    | some led =>
        simp only [Option.bind_some, fileAt, FileTree.read_delete]
        split
        · exact iff_of_false nofun fun found => nomatch found.2
        · by_cases gone : led = other
          · rw [if_pos gone]
            refine iff_of_false nofun fun found => ?_
            obtain ⟨_, _, same⟩ := Option.map_eq_some_iff.mp found.2
            exact found.1 ((Prod.mk.inj same).1.symm.trans gone)
          · rw [if_neg gone]
            refine ⟨fun found => ⟨?_, found⟩, And.right⟩
            obtain ⟨_, _, same⟩ := Option.map_eq_some_iff.mp found
            exact (Prod.mk.inj same).1 ▸ gone

theorem candidateFile_read (found : candidateFile item runtime = some (path, content)) :
    resolveInside (candidatePath item) = some path ∧ runtime.read path = some content := by
  unfold candidateFile at found
  split at found
  · cases found
  · obtain ⟨led, resolved, there⟩ := Option.bind_eq_some_iff.mp found
    obtain ⟨held, read, same⟩ := Option.map_eq_some_iff.mp there
    cases same
    unfold fileAt at read
    split at read
    · cases read
    · exact ⟨resolved, read⟩

theorem not_escapes_of_file (found : candidateFile item runtime = some (path, content)) :
    ¬Escapes item := by
  intro escapes
  exact nomatch escapes.2.symm.trans (candidateFile_read found).1

theorem not_halts_of_clears (found : candidateFile item runtime = some (path, content))
    (clears : Clears outcomes path) : ¬Halts outcomes runtime item := by
  intro halts
  rcases halts with escapes | stuck
  · exact not_escapes_of_file found escapes
  · obtain ⟨_, _, again, unclear⟩ := stuck
    rw [found] at again
    cases again
    exact unclear clears

theorem halts_delete (clears : Clears outcomes other) :
    Halts outcomes (runtime.delete other) item ↔ Halts outcomes runtime item := by
  refine or_congr_right (exists_congr fun path => exists_congr fun content => ?_)
  rw [candidateFile_delete]
  constructor
  · exact fun stuck => ⟨stuck.1.2, stuck.2⟩
  · intro stuck
    refine ⟨⟨?_, stuck.1⟩, stuck.2⟩
    rintro rfl
    exact stuck.2 clears

theorem takes_delete (clears : Clears outcomes other) (distinct : path ≠ other) :
    Takes outcomes (runtime.delete other) rest path ↔ Takes outcomes runtime rest path := by
  unfold Takes
  simp only [halts_delete clears, candidateFile_delete, ne_eq, distinct, not_false_eq_true,
    true_and]

theorem takes_cons :
    Takes outcomes runtime (item :: rest) path ↔
      ((∃ content, candidateFile item runtime = some (path, content)) ∧ Clears outcomes path) ∨
        ¬Halts outcomes runtime item ∧ Takes outcomes runtime rest path := by
  constructor
  · intro takes
    obtain ⟨front, taken, back, parts, reached, found, clears⟩ := takes
    cases front with
    | nil =>
        cases parts
        exact .inl ⟨found, clears⟩
    | cons first front =>
        cases parts
        exact .inr ⟨reached _ List.mem_cons_self, front, taken, back, rfl,
          fun earlier member => reached _ (List.mem_cons_of_mem _ member), found, clears⟩
  · intro takes
    rcases takes with here | later
    · exact ⟨[], item, rest, rfl, nofun, here.1, here.2⟩
    · obtain ⟨passes, front, taken, back, parts, reached, found, clears⟩ := later
      exact ⟨item :: front, taken, back, by rw [parts, List.cons_append],
        List.forall_mem_cons.mpr ⟨passes, reached⟩, found, clears⟩

/-- What the loop leaves in the runtime is what it does not take. -/
theorem read_moveCandidates (sha256Hex : List UInt8 → String) (candidates : List Json)
    (files : QuarantineFiles) :
    (moveCandidates sha256Hex outcomes candidates files).files.runtime.read path = some content ↔
      files.runtime.read path = some content ∧
        ¬Takes outcomes files.runtime candidates path := by
  induction candidates generalizing files with
  | nil =>
      refine (and_iff_left ?_).symm
      rintro ⟨front, _, _, parts, _⟩
      cases front <;> cases parts
  | cons item rest ih =>
      have step := moveCandidate_cases sha256Hex outcomes item files
      rw [moveCandidates, takes_cons]
      generalize moveCandidate sha256Hex outcomes item files = result at step ⊢
      cases step with
      | skips inside absent =>
          have passes : ¬Halts outcomes files.runtime item := by
            rintro (escapes | ⟨_, _, found, _⟩)
            · exact inside escapes
            · rw [absent] at found
              cases found
          rw [ih files]
          simp only [absent, passes, not_false_eq_true, true_and, exists_const, false_and,
            false_or, reduceCtorEq]
      | raises left halts same =>
          rw [same]
          refine (and_iff_left ?_).symm
          rintro (⟨⟨_, found⟩, clears⟩ | ⟨passes, _⟩)
          · exact not_halts_of_clears found clears halts
          · exact passes halts
      | moves taken bytes inside found clears =>
          have passes := not_halts_of_clears found clears
          refine (ih (files.move taken bytes)).trans ?_
          rw [QuarantineFiles.move, FileTree.read_delete]
          by_cases here : path = taken
          · subst here
            rw [if_pos rfl]
            exact iff_of_false (fun left => nomatch left.1)
              fun left => left.2 (.inl ⟨⟨_, found⟩, clears⟩)
          · have other : ¬((∃ content, candidateFile item files.runtime = some (path, content)) ∧
                Clears outcomes path) := by
              rintro ⟨⟨_, again⟩, _⟩
              rw [found] at again
              cases again
              exact here rfl
            rw [if_neg here, takes_delete clears here]
            simp only [other, passes, not_false_eq_true, true_and, false_or]

end Loop

/-! ## The activation -/

section Activation

variable {PrivateKey PublicKey : Type} {crypto : Crypto PrivateKey PublicKey}
  {sha256Hex : List UInt8 → String} {input : QuarantineInput PrivateKey}
  {outcomes : QuarantineOutcomes} {state : QuarantineState} {plan : Json} {path : String}

variable (crypto input outcomes plan) in
/-- The call gets to the loop over the candidates of a plan. -/
structure Proceeds : Prop where
  target : input.target ∈ ["fuxa", "opcua-server"]
  planId : input.planId ≠ ""
  found : input.plan = some plan
  ready : textOf plan "decision" = "ready_for_quarantine"
  gate : ∃ warnings, quarantineGate crypto input plan = .ok ([], warnings)
  candidates : quarantineCandidates plan ≠ []
  root : outcomes.rootAvailable = true
  probe : outcomes.probe = .granted
  directories : outcomes.directoriesMade = true

variable (crypto input) in
/-- The call answers with a receipt and looks at no file. -/
def Refuses : Prop :=
  ∃ plan, input.plan = some plan ∧ (textOf plan "decision" ≠ "ready_for_quarantine" ∨
    ∃ reasons warnings, quarantineGate crypto input plan = .ok (reasons, warnings) ∧
      (quarantineCandidates plan = [] ∨ reasons ≠ []))

variable (crypto input outcomes state) in
/-- A call that moves nothing: a write probe may stay in the runtime, and there may be one more
receipt, without moved files. -/
structure Idle (after : QuarantineState) : Prop where
  runtime : after.files.runtime = state.files.runtime ∨ ∃ leftover,
    outcomes.probe = .refused leftover ∧
      after.files.runtime = state.files.runtime.leave "" leftover
  quarantine : after.files.quarantine = state.files.quarantine
  tombstones : after.tombstones = state.tombstones
  receipts : after.receipts = state.receipts ∨
    (Refuses crypto input ∧ outcomes.receiptWritten = true) ∧ ∃ receipt,
      receipt.planId = input.planId ∧ receipt.movedFiles = [] ∧
        after.receipts = state.receipts.put (receiptName input) receipt

theorem Idle.refl : Idle crypto input outcomes state state where
  runtime := .inl rfl
  quarantine := rfl
  tombstones := rfl
  receipts := .inl rfl

theorem Idle.read {after : QuarantineState} (idle : Idle crypto input outcomes state after)
    (there : (state.files.runtime.read path).isSome = true) :
    after.files.runtime.read path = state.files.runtime.read path := by
  rcases idle.runtime with same | ⟨leftover, _, left⟩
  · rw [same]
  · rw [left]
    exact FileTree.read_leave_of_isSome there

theorem idle_writeReceipt {receipt : QuarantineReceipt} (refuses : Refuses crypto input)
    (planId : receipt.planId = input.planId) (moved : receipt.movedFiles = []) :
    Idle crypto input outcomes state (writeReceipt input outcomes receipt state).2 := by
  unfold writeReceipt
  split
  · exact .refl
  · rename_i written
    rw [Bool.not_eq_false] at written
    exact ⟨.inl rfl, rfl, rfl, .inr ⟨⟨refuses, written⟩, receipt, planId, moved, rfl⟩⟩

variable (crypto sha256Hex input outcomes state) in
/-- What a call can lead to. -/
inductive ActivationCase : Except Failure QuarantineReceipt × QuarantineState → Prop where
  | stops (result : Except Failure QuarantineReceipt × QuarantineState)
      (idle : Idle crypto input outcomes state result.2)
      (never : ∀ plan, ¬Proceeds crypto input outcomes plan) : ActivationCase result
  | performs (plan : Json) (warnings : List String)
      (proceeds : Proceeds crypto input outcomes plan) :
      ActivationCase (performQuarantine sha256Hex input outcomes plan warnings state)

/-- A ready plan whose gates are open, with its directories and the write probe. -/
theorem openQuarantine_cases (warnings : List String)
    (proceeds : outcomes.rootAvailable = true → outcomes.probe = .granted →
      outcomes.directoriesMade = true → Proceeds crypto input outcomes plan) :
    ActivationCase crypto sha256Hex input outcomes state
      (match openQuarantine outcomes state.files with
        | (.error failure, files) => (.error failure, { state with files })
        | (.ok _, files) =>
            performQuarantine sha256Hex input outcomes plan warnings { state with files }) := by
  unfold openQuarantine
  cases root : outcomes.rootAvailable with
  | false => exact .stops _ .refl fun _ goes => nomatch root.symm.trans goes.root
  | true =>
      rw [if_neg (by decide)]
      cases probe : outcomes.probe with
      | refused leftover =>
          refine .stops _ ⟨.inr ⟨leftover, probe, rfl⟩, rfl, rfl, .inl rfl⟩ fun _ goes => ?_
          exact nomatch probe.symm.trans goes.probe
      | granted =>
          cases made : outcomes.directoriesMade with
          | false => exact .stops _ .refl fun _ goes => nomatch made.symm.trans goes.directories
          | true => exact .performs plan warnings (proceeds root probe made)

variable (crypto sha256Hex input outcomes state) in
theorem activate_cases :
    ActivationCase crypto sha256Hex input outcomes state
      (activateRevocationQuarantine crypto sha256Hex input outcomes state) := by
  unfold activateRevocationQuarantine
  by_cases target : input.target ∈ ["fuxa", "opcua-server"]
  · rw [if_neg (not_not.mpr target)]
    by_cases planId : input.planId = ""
    · rw [if_pos planId]
      exact .stops _ .refl fun _ goes => goes.planId planId
    · rw [if_neg planId]
      cases found : input.plan with
      | none => exact .stops _ .refl fun _ goes => nomatch found.symm.trans goes.found
      | some plan =>
          have only {other : Json} (goes : Proceeds crypto input outcomes other) : other = plan :=
            Option.some.inj (goes.found.symm.trans found)
          dsimp only
          by_cases ready : textOf plan "decision" = "ready_for_quarantine"
          · rw [if_neg (not_not.mpr ready), activateReadyPlan]
            cases gate : quarantineGate crypto input plan with
            | error failure =>
                refine .stops _ .refl fun other goes => ?_
                obtain ⟨warnings, open_⟩ := goes.gate
                rw [only goes, gate] at open_
                cases open_
            | ok reasons =>
                obtain ⟨blockingReasons, warnings⟩ := reasons
                dsimp only
                by_cases empty : (quarantineCandidates plan).isEmpty = true
                · rw [if_pos empty]
                  have none := List.isEmpty_iff.mp empty
                  have refuses : Refuses crypto input :=
                    ⟨plan, found, .inr ⟨_, _, gate, .inl none⟩⟩
                  refine .stops _ (idle_writeReceipt refuses rfl rfl) fun other goes => ?_
                  exact goes.candidates (only goes ▸ none)
                · rw [if_neg empty]
                  by_cases blocked : blockingReasons = []
                  · rw [if_neg (not_not.mpr blocked)]
                    subst blocked
                    refine openQuarantine_cases warnings fun root probe directories => ?_
                    exact ⟨target, planId, found, ready, ⟨warnings, gate⟩,
                      fun none => empty (List.isEmpty_iff.mpr none), root, probe, directories⟩
                  · rw [if_pos blocked]
                    have refuses : Refuses crypto input :=
                      ⟨plan, found, .inr ⟨_, _, gate, .inr blocked⟩⟩
                    refine .stops _ (idle_writeReceipt refuses rfl rfl) fun other goes => ?_
                    obtain ⟨_, open_⟩ := goes.gate
                    rw [only goes, gate] at open_
                    cases open_
                    exact blocked rfl
          · rw [if_pos ready]
            have refuses : Refuses crypto input := ⟨plan, found, .inl ready⟩
            refine .stops _ (idle_writeReceipt refuses rfl rfl) fun other goes => ready ?_
            exact only goes ▸ goes.ready
  · rw [if_pos target]
    exact .stops _ .refl fun _ goes => target goes.target

@[simp] theorem writeReceipt_files (receipt : QuarantineReceipt) :
    (writeReceipt input outcomes receipt state).2.files = state.files := by
  unfold writeReceipt
  split <;> rfl

theorem performQuarantine_files (warnings : List String) :
    (performQuarantine sha256Hex input outcomes plan warnings state).2.files =
      (moveCandidates sha256Hex outcomes (quarantineCandidates plan) state.files).files := by
  simp only [performQuarantine]
  split
  · rfl
  · rw [writeReceipt_files]

/-- An activation keeps a file of the runtime, or it gets to the candidates and takes it. -/
theorem removed_iff (held : (state.files.runtime.read path).isSome = true) :
    (activateRevocationQuarantine crypto sha256Hex input outcomes state).2.files.runtime.read
        path = none ↔
      ∃ plan, Proceeds crypto input outcomes plan ∧
        Takes outcomes state.files.runtime (quarantineCandidates plan) path := by
  obtain ⟨content, read⟩ := Option.isSome_iff_exists.mp held
  have outcome := activate_cases crypto sha256Hex input outcomes state
  generalize activateRevocationQuarantine crypto sha256Hex input outcomes state = result
    at outcome ⊢
  cases outcome with
  | stops _ idle never =>
      rw [idle.read held, read]
      exact iff_of_false nofun fun goes => goes.elim fun plan both => never plan both.1
  | performs plan warnings proceeds =>
      have only {other : Json} (goes : Proceeds crypto input outcomes other) : other = plan :=
        Option.some.inj (goes.found.symm.trans proceeds.found)
      rw [performQuarantine_files, Option.eq_none_iff_forall_ne_some]
      by_cases takes : Takes outcomes state.files.runtime (quarantineCandidates plan) path
      · exact iff_of_true (fun bytes left => ((read_moveCandidates sha256Hex _ _).mp left).2 takes)
          ⟨plan, proceeds, takes⟩
      · refine iff_of_false (fun gone => gone content ?_) fun goes => ?_
        · exact (read_moveCandidates sha256Hex _ _).mpr ⟨read, takes⟩
        · obtain ⟨other, same, taken⟩ := goes
          exact takes (only same ▸ taken)

variable (certificateMetadata : List UInt8 → Option CertificateMetadata)

/-- A candidate for the path records the fingerprint of the bytes, which are a certificate. -/
def IsRecorded (candidates : List Json) (path : String) (content : List UInt8) : Prop :=
  ∃ metadata, certificateMetadata content = some metadata ∧
    ∃ item ∈ candidates, resolveInside (candidatePath item) = some path ∧
      loweredText item "fingerprint_sha256" =
        PythonText.lower (PythonText.strip metadata.fingerprintSha256)

variable (input state) in
/-- Every file that is gone from the runtime was, when it was moved, a certificate with the
fingerprint that the plan records for it, and neither a private key nor an own certificate. -/
def MovesOnlyPlanned (after : QuarantineState) : Prop :=
  ∀ path content, state.files.runtime.read path = some content →
    after.files.runtime.read path = none →
      (∃ plan, input.plan = some plan ∧
        IsRecorded certificateMetadata (quarantineCandidates plan) path content) ∧
      isPrivateFile path = false ∧ ¬IsOwnFile path

/-- What the loop takes is neither a private key nor an own certificate. -/
theorem takes_public {runtime : FileTree} {candidates : List Json}
    (takes : Takes outcomes runtime candidates path) :
    isPrivateFile path = false ∧ ¬IsOwnFile path := by
  obtain ⟨front, item, back, _, _, ⟨content, found⟩, _⟩ := takes
  unfold candidateFile at found
  split at found
  · cases found
  · rename_i kept
    simp only [not_or, Bool.not_eq_false] at kept
    obtain ⟨led, resolved, there⟩ := Option.bind_eq_some_iff.mp found
    obtain ⟨bytes, read, same⟩ := Option.map_eq_some_iff.mp there
    cases same
    have file : pathName (candidatePath item) ≠ ".." := by
      intro directory
      rw [fileAt, if_pos directory] at read
      cases read
    by_cases named : pathParts (candidatePath item) = []
    · have root : path = "" := by
        unfold resolveInside at resolved
        split at resolved
        · cases resolved
        · rw [named] at resolved
          exact (Option.some.inj resolved).symm
      rw [root]
      have noDirs : (splitPath "").dropLast = [] := by decide
      refine ⟨by decide, fun own => ?_⟩
      obtain ⟨dir, among, _⟩ := own
      rw [noDirs] at among
      cases among
    · obtain ⟨before, dirs, relParts, parts, within⟩ := splitPath_of_led resolved named file
      exact ⟨not_private_of_eligible kept.2.2 resolved (nameOf_of_splitPath parts),
        not_own_of_eligible kept.2.2 relParts parts within⟩

/-- A quarantine moves only what was planned exactly if the files that it gets to are still those
that the plan records. -/
theorem quarantine_moves_planned_iff :
    MovesOnlyPlanned input state certificateMetadata
        (activateRevocationQuarantine crypto sha256Hex input outcomes state).2 ↔
      ∀ plan, Proceeds crypto input outcomes plan → ∀ path,
        Takes outcomes state.files.runtime (quarantineCandidates plan) path →
          ∀ content, state.files.runtime.read path = some content →
            IsRecorded certificateMetadata (quarantineCandidates plan) path content := by
  constructor
  · intro planned plan proceeds path takes content read
    have held : (state.files.runtime.read path).isSome = true := by rw [read]; rfl
    obtain ⟨⟨other, found, recorded⟩, _⟩ :=
      planned path content read ((removed_iff held).mpr ⟨plan, proceeds, takes⟩)
    cases proceeds.found.symm.trans found
    exact recorded
  · intro still path content read gone
    have held : (state.files.runtime.read path).isSome = true := by rw [read]; rfl
    obtain ⟨plan, proceeds, takes⟩ := (removed_iff held).mp gone
    exact ⟨⟨plan, proceeds.found, still plan proceeds path takes content read⟩,
      takes_public takes⟩

end Activation

/-! ## From the plan to the activation -/

section DryRun

variable {certificateMetadata : List UInt8 → Option CertificateMetadata}
  {readable : String → Bool} {runtime : FileTree} {planId reportPath preflightPath : String}
  {report plan item : Json}

theorem mem_runtimeCertEntries {key : String × String} {entry : String × CertificateMetadata}
    (among : (key, entry) ∈ runtimeCertEntries certificateMetadata readable runtime) :
    ∃ path content, runtime.read path = some content ∧
      certificateMetadata content = some entry.2 ∧ entry.1 = slashes path := by
  obtain ⟨⟨path, content⟩, listed, made⟩ := List.mem_filterMap.mp among
  split at made
  · cases made
  · obtain ⟨metadata, parsed, made⟩ := Option.bind_eq_some_iff.mp made
    dsimp only at made parsed
    split at made
    · cases made
    · rw [Option.some.injEq, Prod.mk.injEq] at made
      rw [← made.2]
      exact ⟨path, content, FileTree.mem_listing.mp listed, parsed, rfl⟩

theorem mem_activeRevokedEntries
    {entries : List ((String × String) × (String × CertificateMetadata))}
    {revokedByFp : List (String × Json)} {affected : List Json}
    (among : item ∈ activeRevokedEntries entries revokedByFp affected) :
    ∃ key entry revokedMeta, (key, entry) ∈ entries ∧
      item = candidateFromRuntimeEntry entry revokedMeta := by
  obtain ⟨affectedEntry, _, made⟩ := List.mem_filterMap.mp among
  split at made
  · cases made
  · dsimp only at made
    split at made
    · cases made
    · obtain ⟨entry, found, same⟩ := Option.map_eq_some_iff.mp made
      obtain ⟨front, back, parts, _⟩ := List.lookup_eq_some_iff.mp found
      have inEntries := parts ▸ List.mem_append_right front List.mem_cons_self
      exact ⟨_, entry, _, List.mem_reverse.mp inEntries, same.symm⟩

/-- The candidates of a plan that a dry run writes are among the revoked entries that it found. -/
theorem quarantineCandidates_dryRun
    (planned : quarantineRevokedDryRun certificateMetadata readable runtime planId reportPath
      preflightPath report = some plan) (among : item ∈ quarantineCandidates plan) :
    ∃ revokedByFp affected, item ∈ activeRevokedEntries
      (runtimeCertEntries certificateMetadata readable runtime) revokedByFp affected := by
  unfold quarantineRevokedDryRun at planned
  split at planned
  · cases planned
    cases among
  · obtain ⟨revokedKnown, _, planned⟩ := Option.bind_eq_some_iff.mp planned
    dsimp only at planned
    split at planned
    · cases planned
      exact ⟨_, _, List.mem_of_mem_filter among⟩
    · split at planned
      · cases planned
        exact ⟨_, _, List.mem_of_mem_filter among⟩
      · cases planned
        exact ⟨_, _, List.mem_of_mem_filter among⟩

/-- A candidate of a dry run has the path of a file of the runtime in its normal form, and the
fingerprint that the file had. -/
theorem dryRun_candidate
    (planned : quarantineRevokedDryRun certificateMetadata readable runtime planId reportPath
      preflightPath report = some plan) (among : item ∈ quarantineCandidates plan) :
    ∃ path content metadata, runtime.read path = some content ∧
      certificateMetadata content = some metadata ∧
      textOf item "relative_path" = normalizeRelativePath (slashes path) ∧
      textOf item "fingerprint_sha256" =
        PythonText.lower (PythonText.strip metadata.fingerprintSha256) := by
  obtain ⟨_, _, active⟩ := quarantineCandidates_dryRun planned among
  obtain ⟨key, entry, revokedMeta, inEntries, rfl⟩ := mem_activeRevokedEntries active
  obtain ⟨path, content, read, parsed, named⟩ := mem_runtimeCertEntries inEntries
  exact ⟨path, content, entry.2, read, parsed, by rw [← named]; rfl, rfl⟩

end DryRun

def replacedMetadata : List UInt8 → Option CertificateMetadata
  | [1] => some ⟨"a1", "CN=old", "16"⟩
  | [2] => some ⟨"b2", "CN=new", "17"⟩
  | _ => none

/-- A report that the certificate with the fingerprint `a1` is revoked. -/
def replacedReport : Json := .obj [
  ("certificates_revoked_known", .arr [.obj [("fingerprint_sha256", .str "a1")]]),
  ("runtime_trust_entries_affected", .arr [.obj [("relative_path", .str "trusted/certs/p"),
    ("fingerprint_sha256", .str "a1")]])]

def replacedPlan : Json :=
  (quarantineRevokedDryRun replacedMetadata (fun _ => true) [("trusted/certs/p", [1])] "q" "r" "f"
    replacedReport).getD .null

def replacedInput (generatedAt : String) : QuarantineInput Unit where
  target := "fuxa"
  planId := "q"
  generatedAt := generatedAt
  receiptId := "i"
  plan := some replacedPlan
  runtimeWriteEnabled := true
  mountMode := "rw"
  runtimeActivationTargets := ["fuxa"]
  gate := fuxaInputs (fuxaApprovals "plan-a")
  rollbackPreflight := some ("f", .obj [("decision", .str "eligible")])
  reportExists := fun _ => true

/-- Every file is moved; the records are written or not. -/
def allDone (written : Bool) : QuarantineOutcomes where
  rootAvailable := true
  probe := .granted
  directoriesMade := true
  readBefore := fun _ => true
  copy := fun _ => .replaces true
  unlink := fun _ => true
  tombstonesWritten := written
  receiptWritten := written

theorem replacedPlan_candidates : quarantineCandidates replacedPlan = [candidateFromRuntimeEntry
    ("trusted/certs/p", ⟨"a1", "CN=old", "16"⟩) (.obj [("fingerprint_sha256", .str "a1")])] := by
  rfl

/-- The gates of the call are open. -/
theorem replacedInput_gate (generatedAt : String) :
    quarantineGate Gds.transparentCrypto (replacedInput generatedAt) replacedPlan =
      .ok ([], []) := by
  have approval : loadActiveApprovalForTarget Gds.transparentCrypto gateSigner
      (fuxaApprovals "plan-a") "fuxa" "single" gateMoment.micros =
      .ok (summarizeApprovals "single" [(fuxaApproval "plan-a").2]) := by
    rw [loadActiveApprovalForTarget, load_fuxaApprovals]
    rfl
  have opened : maintenanceWindowStatus (fuxaInputs (fuxaApprovals "plan-a")).zoneinfo "fuxa"
      (fuxaInputs (fuxaApprovals "plan-a")).maintenancePolicy gateMoment.micros =
      ⟨"open", true, false, none, "UTC", true, true, defaultTargetPolicy "fuxa"⟩ := by
    decide +kernel
  have window : maintenanceWindowStatus (replacedInput generatedAt).gate.zoneinfo
      (replacedInput generatedAt).target (replacedInput generatedAt).gate.maintenancePolicy
      (replacedInput generatedAt).gate.now =
      ⟨"open", true, false, none, "UTC", true, true, defaultTargetPolicy "fuxa"⟩ := opened
  have level : PythonText.lower (defaultTargetPolicy "fuxa").approvalLevel = "single" := by
    decide +kernel
  have preflight : preflightReasons (replacedInput generatedAt) = .ok ([], []) := rfl
  rw [quarantineGate, window, preflight]
  dsimp only
  rw [level]
  refine (congrArg (fun found => Except.bind found _) approval).trans ?_
  rfl

/-- The call gets to the candidates. -/
theorem replacedInput_proceeds (generatedAt : String) (written : Bool) :
    Proceeds Gds.transparentCrypto (replacedInput generatedAt) (allDone written) replacedPlan where
  target := List.mem_cons_self
  planId := (by decide : "q" ≠ "")
  found := rfl
  ready := by decide +kernel
  gate := ⟨[], replacedInput_gate generatedAt⟩
  candidates := by
    rw [replacedPlan_candidates]
    exact List.cons_ne_nil _ _
  root := rfl
  probe := rfl
  directories := rfl

/-- The candidate of the plan is about the certificate. -/
theorem replacedPlan_file (content : UInt8) :
    candidateFile (candidateFromRuntimeEntry ("trusted/certs/p", ⟨"a1", "CN=old", "16"⟩)
      (.obj [("fingerprint_sha256", .str "a1")])) [("trusted/certs/p", [content])] =
      some ("trusted/certs/p", [content]) := by
  have resolved : resolveInside (candidatePath (candidateFromRuntimeEntry
      ("trusted/certs/p", ⟨"a1", "CN=old", "16"⟩) (.obj [("fingerprint_sha256", .str "a1")]))) =
      some "trusted/certs/p" := by
    decide +kernel
  rw [candidateFile, if_neg (by decide +kernel), resolved, Option.bind_some, fileAt,
    if_neg (by decide +kernel)]
  rfl

/-- A certificate was renewed under the name of the revoked one after the plan was made: the new
certificate is moved. -/
theorem renewed_certificate_moved :
    ¬MovesOnlyPlanned (replacedInput "t") ⟨⟨[("trusted/certs/p", [2])], []⟩, none, []⟩
      replacedMetadata (activateRevocationQuarantine Gds.transparentCrypto (fun _ => "")
        (replacedInput "t") (allDone true) ⟨⟨[("trusted/certs/p", [2])], []⟩, none, []⟩).2 := by
  rw [quarantine_moves_planned_iff]
  intro still
  have takes : Takes (allDone true) [("trusted/certs/p", [2])] (quarantineCandidates replacedPlan)
      "trusted/certs/p" := by
    rw [replacedPlan_candidates]
    exact ⟨[], _, [], rfl, nofun, ⟨[2], replacedPlan_file 2⟩, rfl, rfl, rfl⟩
  obtain ⟨metadata, parsed, item, among, _, same⟩ :=
    still replacedPlan (replacedInput_proceeds "t" true) "trusted/certs/p" takes [2] (by decide)
  cases parsed
  rw [replacedPlan_candidates, List.mem_singleton] at among
  rw [among] at same
  revert same
  decide +kernel

end OpcuaGds.Agent
