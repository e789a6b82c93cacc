import OpcuaGds.Agent.ActivationAtomicity
import OpcuaGds.Agent.KeyPaths

/-! # What a successful activation leaves

An activation that returns leaves every staged file that is not preserved in the runtime, and
the private key where it was. A second activation of the same stage finds nothing to copy.
-/

namespace OpcuaGds.Agent

section Statements

variable (crypto : RuntimeCrypto) (input : ActivationInput) (outcomes : ActivationOutcomes)

/-- The runtime has a file with the recorded hash where the staged file goes. -/
def Matches (crypto : RuntimeCrypto) (runtime : FileTree) (entry : String × String) : Prop :=
  ∃ path content, resolveInside entry.1 = some path ∧ runtime.read path = some content ∧
    crypto.sha256Hex content = entry.2

/-- The files that the comparison opens can be read. -/
def Comparable (entries : List (String × String)) : Prop :=
  ∀ entry ∈ entries, ∀ path, resolveInside entry.1 = some path → outcomes.comparedRead path = true

/-- The mount, the private key and the compared files can be used. -/
structure Accessible : Prop where
  rootAvailable : outcomes.rootAvailable = true
  probe : outcomes.probe = .granted
  keyRead : outcomes.keyRead = true
  compared : Comparable outcomes input.copied

/-- What a call that returns leaves, with or without copies. -/
structure Completed (before after : RuntimeState) : Prop where
  isMatch : ∀ entry ∈ input.copied, Matches crypto after.runtime entry
  others : ∀ path, (∀ entry ∈ input.copied, resolveInside entry.1 ≠ some path) →
    after.runtime.read path = before.runtime.read path
  opened : openRuntime input outcomes before.runtime = .ok ()
  verified : ∃ keySha256, verifiedKeySha256 crypto input outcomes before.runtime = .ok keySha256

/-- What a call that returns as activated has done. -/
structure Activated (before after : RuntimeState) (receipt : ActivationReceipt) : Prop where
  differs : ∃ entry ∈ input.copied, Differs crypto before.runtime entry
  settles : ∀ entry ∈ input.copied, Settles crypto input outcomes entry
  inPlace : ∀ entry ∈ input.copied, InPlace input after.runtime entry
  changedFiles : receipt.changedFiles.map ChangedFile.relativePath = input.copied.map Prod.fst
  names : receipt.status = "activated" ∧ receipt.packageId = input.packageId ∧
    receipt.planId = input.planId
  receipts : after.receipts = receipt :: before.receipts

end Statements

section Comparison

variable {crypto : RuntimeCrypto} {input : ActivationInput} {outcomes : ActivationOutcomes}
  {runtime left : FileTree} {entries : List (String × String)}

theorem runtimeStageMismatches_filter :
    runtimeStageMismatches crypto input outcomes runtime
        (entries.filter fun entry => !isPreservedRuntimePath entry.1) =
      runtimeStageMismatches crypto input outcomes runtime entries := by
  induction entries with
  | nil => rfl
  | cons entry entries ih =>
      obtain ⟨rel, expected⟩ := entry
      rw [List.filter_cons]
      cases kept : isPreservedRuntimePath rel with
      | true =>
          simp only [kept, Bool.not_true, Bool.false_eq_true, if_false, runtimeStageMismatches,
            if_true, ih]
      | false =>
          simp only [kept, Bool.not_false, if_true, runtimeStageMismatches, Bool.false_eq_true,
            if_false, ih]

/-- A comparison that reports nothing found every file with its hash. -/
theorem matches_of_no_mismatch
    (plain : ∀ entry ∈ entries, isPreservedRuntimePath entry.1 = false)
    (compared : runtimeStageMismatches crypto input outcomes runtime entries = .ok []) :
    ∀ entry ∈ entries, Matches crypto runtime entry := by
  induction entries with
  | nil => nofun
  | cons entry entries ih =>
      obtain ⟨rel, expected⟩ := entry
      obtain ⟨here, later⟩ := List.forall_mem_cons.mp plain
      have notPreserved : ¬ (isPreservedRuntimePath rel = true) := Bool.eq_false_iff.mp here
      have added {mismatch : String × String} : (runtimeStageMismatches crypto input outcomes
          runtime entries).map (mismatch :: ·) ≠ .ok [] := by
        cases runtimeStageMismatches crypto input outcomes runtime entries <;> nofun
      rw [runtimeStageMismatches, if_neg notPreserved] at compared
      split at compared
      · cases compared
      · rename_i path led
        split at compared
        · exact absurd compared added
        · rename_i content found
          split at compared
          · cases compared
          · split at compared
            · exact absurd compared added
            · rename_i same
              exact List.forall_mem_cons.mpr
                ⟨⟨path, content, led, found, not_not.mp same⟩, ih later compared⟩

variable (input outcomes) in
/-- Where every file has its hash, the comparison reports nothing, or cannot open a file. -/
theorem no_mismatch_of_matches (found : ∀ entry ∈ entries, Matches crypto runtime entry)
    (plain : ∀ entry ∈ entries, isPreservedRuntimePath entry.1 = false) :
    (Comparable outcomes entries ∧
        runtimeStageMismatches crypto input outcomes runtime entries = .ok []) ∨
      (¬ Comparable outcomes entries ∧
        runtimeStageMismatches crypto input outcomes runtime entries = .error osError) := by
  induction entries with
  | nil => exact .inl ⟨nofun, rfl⟩
  | cons entry entries ih =>
      obtain ⟨rel, expected⟩ := entry
      obtain ⟨⟨path, content, led, held, same⟩, foundLater⟩ := List.forall_mem_cons.mp found
      obtain ⟨here, later⟩ := List.forall_mem_cons.mp plain
      have notPreserved : ¬ (isPreservedRuntimePath rel = true) := Bool.eq_false_iff.mp here
      have comparable : Comparable outcomes ((rel, expected) :: entries) ↔
          outcomes.comparedRead path = true ∧ Comparable outcomes entries := by
        rw [Comparable, List.forall_mem_cons]
        refine and_congr_left' ⟨fun readable => readable path led, fun read other otherLed => ?_⟩
        rwa [Option.some.inj (otherLed.symm.trans led)]
      rw [runtimeStageMismatches, if_neg notPreserved, comparable]
      simp only [led, held, same, ne_eq, not_true_eq_false, if_false]
      cases outcomes.comparedRead path with
      | false => exact .inr ⟨fun readable => Bool.false_ne_true readable.1, rfl⟩
      | true =>
          simp only [true_and, Bool.true_eq_false, if_false]
          exact ih foundLater later

theorem matches_of_inPlace {entry : String × String} (settles : Settles crypto input outcomes entry)
    (place : InPlace input runtime entry) : Matches crypto runtime entry := by
  obtain ⟨path, content, staged, _, same⟩ := settles
  exact ⟨path, content, staged.1, place path content staged, same⟩

/-- Copies that do not raise write nothing but the places of staged files. -/
theorem copyStagedFiles_others
    (plain : ∀ entry ∈ entries, isPreservedRuntimePath entry.1 = false)
    {changes : List ChangedFile}
    (copied : copyStagedFiles crypto input outcomes entries runtime = .ok (changes, left))
    {path : String} (elsewhere : ∀ entry ∈ entries, resolveInside entry.1 ≠ some path) :
    left.read path = runtime.read path := by
  have keeps : CopiesKeepOrStage input outcomes entries runtime
      (leftRuntime (copyStagedFiles crypto input outcomes entries runtime)) path :=
    copyStagedFiles_keeps plain path
  rw [copied] at keeps
  rcases keeps with same | ⟨content, _, ⟨entry, member, staged⟩ | ⟨_, entry, member, rest⟩⟩
  · exact same
  · exact absurd staged.1 (elsewhere entry member)
  · obtain ⟨_, _, _, _, stops, _⟩ := rest
    obtain ⟨⟨_, _, _, replaced, _⟩, _⟩ := copyStagedFiles_ok plain copied entry member
    rw [stops] at replaced
    cases replaced

theorem copyStagedFile_relativePath {entry : String × String} {done : ChangedFile × FileTree}
    (copied : copyStagedFile crypto input outcomes entry.1 entry.2 runtime = .ok done) :
    done.1.relativePath = entry.1 := by
  unfold copyStagedFile copyPresentFile at copied
  split at copied
  · cases copied
  · split at copied
    · cases copied
    · split at copied
      · cases copied
      · split at copied
        · cases copied
        · split at copied
          · cases copied
          · cases copied
            rfl

/-- The record of the changes names the files in the order of the copies. -/
theorem copyStagedFiles_changes
    (plain : ∀ entry ∈ entries, isPreservedRuntimePath entry.1 = false)
    {changes : List ChangedFile}
    (copied : copyStagedFiles crypto input outcomes entries runtime = .ok (changes, left)) :
    changes.map ChangedFile.relativePath = entries.map Prod.fst := by
  induction entries generalizing runtime changes with
  | nil => cases copied; rfl
  | cons entry entries ih =>
      obtain ⟨here, later⟩ := List.forall_mem_cons.mp plain
      obtain ⟨_, _, _, first, rest, rfl⟩ := copyStagedFiles_cons_eq_ok here copied
      rw [List.map_cons, List.map_cons, copyStagedFile_relativePath first, ih later rest]

end Comparison

/-! ## The whole call -/

section Activation

variable {crypto : RuntimeCrypto} {input : ActivationInput} {outcomes : ActivationOutcomes}
  {state after : RuntimeState}

/-- Checks that pass have opened the runtime, matched the key and compared the files. -/
theorem prepareActivation_eq_ok {runtime : FileTree} {keySha256 : String} {mismatched : Bool}
    (prepared : prepareActivation crypto input outcomes runtime = .ok (keySha256, mismatched)) :
    openRuntime input outcomes runtime = .ok () ∧
      verifiedKeySha256 crypto input outcomes runtime = .ok keySha256 ∧
        ∃ mismatches, runtimeStageMismatches crypto input outcomes runtime input.copied =
          .ok mismatches ∧ mismatched = !mismatches.isEmpty := by
  rw [ActivationInput.copied, runtimeStageMismatches_filter]
  unfold prepareActivation at prepared
  split at prepared
  · cases prepared
  · rename_i opened
    split at prepared
    · cases prepared
    · rename_i verified
      split at prepared
      · cases prepared
      · rename_i mismatches compared
        cases prepared
        exact ⟨opened, verified, mismatches, compared, rfl⟩

/-- A call that returns without copies has found every staged file in the runtime. -/
theorem already_activated_inv
    (returned : activatePackageRuntime crypto input outcomes state =
      (.ok .alreadyActivated, after)) :
    after = state ∧ ∃ keySha256,
      prepareActivation crypto input outcomes state.runtime = .ok (keySha256, false) := by
  unfold activatePackageRuntime at returned
  split at returned
  · cases returned
  · rename_i keySha256 mismatched prepared
    cases mismatched with
    | false =>
        cases returned
        exact ⟨rfl, keySha256, prepared⟩
    | true =>
        rw [if_pos rfl] at returned
        exfalso
        rcases replaceRuntime_cases crypto input outcomes state keySha256 with
          ⟨_, _, result⟩ | ⟨taken, _, ⟨_, _, result⟩ | ⟨done, _, result⟩⟩
        · rw [result] at returned
          cases returned
        · rw [result] at returned
          cases returned
        · rw [result, finishActivation] at returned
          split at returned
          · cases returned
          · split at returned <;> cases returned

/-- A call that returns as activated has made every copy, and written the receipt. -/
theorem activated_inv {receipt : ActivationReceipt}
    (returned : activatePackageRuntime crypto input outcomes state =
      (.ok (.activated receipt), after)) :
    ∃ keySha256 changes, prepareActivation crypto input outcomes state.runtime =
        .ok (keySha256, true) ∧
      copyStagedFiles crypto input outcomes input.copied state.runtime =
        .ok (changes, after.runtime) ∧
      receipt.changedFiles = changes ∧ (receipt.status = "activated" ∧
        receipt.packageId = input.packageId ∧ receipt.planId = input.planId) ∧
      after.receipts = receipt :: state.receipts := by
  unfold activatePackageRuntime at returned
  split at returned
  · cases returned
  · rename_i keySha256 mismatched prepared
    cases mismatched with
    | false => cases returned
    | true =>
        rw [if_pos rfl] at returned
        rcases replaceRuntime_cases crypto input outcomes state keySha256 with
          ⟨_, _, result⟩ | ⟨taken, snapshot, ⟨_, _, result⟩ | ⟨⟨changes, left⟩, copies, result⟩⟩
        · rw [result] at returned
          cases returned
        · rw [result] at returned
          cases returned
        · rw [result, finishActivation] at returned
          split at returned
          · cases returned
          · split at returned
            · cases returned
            · cases returned
              refine ⟨keySha256, changes, prepared, copies, rfl, ⟨rfl, rfl, rfl⟩, ?_⟩
              rw [(snapshot_untouched snapshot).2]

theorem activated_of_returned {receipt : ActivationReceipt}
    (returned : activatePackageRuntime crypto input outcomes state =
      (.ok (.activated receipt), after)) :
    Activated crypto input outcomes state after receipt := by
  obtain ⟨keySha256, changes, prepared, copies, recorded, names, receipts⟩ :=
    activated_inv returned
  have copied := copyStagedFiles_ok copied_plain copies
  refine ⟨exists_differs prepared, fun entry member => (copied entry member).1,
    fun entry member => (copied entry member).2, ?_, names, receipts⟩
  rw [recorded]
  exact copyStagedFiles_changes copied_plain copies

/-- What a call that returns leaves. -/
theorem completed_of_returned {result : ActivationResult}
    (returned : activatePackageRuntime crypto input outcomes state = (.ok result, after)) :
    Completed crypto input outcomes state after := by
  cases result with
  | alreadyActivated =>
      obtain ⟨rfl, keySha256, prepared⟩ := already_activated_inv returned
      obtain ⟨opened, verified, mismatches, compared, none⟩ := prepareActivation_eq_ok prepared
      have nothing : mismatches = [] := by
        cases mismatches with
        | nil => rfl
        | cons _ _ => cases none
      subst nothing
      exact ⟨matches_of_no_mismatch copied_plain compared, fun _ _ => rfl, opened, keySha256,
        verified⟩
  | activated receipt =>
      obtain ⟨keySha256, changes, prepared, copies, _⟩ := activated_inv returned
      obtain ⟨opened, verified, _⟩ := prepareActivation_eq_ok prepared
      refine ⟨fun entry member => ?_, fun path elsewhere => ?_, opened, keySha256, verified⟩
      · obtain ⟨settles, place⟩ := copyStagedFiles_ok copied_plain copies entry member
        exact matches_of_inPlace settles place
      · exact copyStagedFiles_others copied_plain copies elsewhere

/-- The file of the private key is the one it was. -/
theorem Completed.read_candidate (completed : Completed crypto input outcomes state after)
    {target path : String} (candidate : path ∈ targetPrivateKeyCandidates target) :
    after.runtime.read path = state.runtime.read path := by
  refine completed.others path fun entry member led => ?_
  have preserved := isPreserved_of_leads candidate led
  exact Bool.false_ne_true ((copied_plain entry member).symm.trans preserved)

theorem Completed.runtimePrivateKey_eq (completed : Completed crypto input outcomes state after)
    (target : String) : runtimePrivateKey target after.runtime =
      runtimePrivateKey target state.runtime := by
  rw [runtimePrivateKey, runtimePrivateKey]
  congr 1
  exact List.filterMap_congr fun path candidate => completed.read_candidate candidate

/-! ## The second call -/

/-- The runtime that a successful call leaves opens where the mount can be used. -/
theorem Completed.openRuntime_eq (completed : Completed crypto input outcomes state after)
    (again : ActivationOutcomes) (runtime : FileTree) :
    (again.rootAvailable = true ∧ again.probe = .granted ∧
        openRuntime input again runtime = .ok ()) ∨
      ¬ (again.rootAvailable = true ∧ again.probe = .granted) ∧
        ∃ message left, openRuntime input again runtime = .error (message, left) := by
  have enabled : ¬ (input.target ∉
      ["fuxa", "opcua-server", "dmz-gateway-client", "dmz-gateway-server"]) := by
    intro disabled
    have opened := completed.opened
    rw [openRuntime, if_pos disabled] at opened
    cases opened
  rw [openRuntime, if_neg enabled]
  cases available : again.rootAvailable with
  | false => exact .inr ⟨fun usable => Bool.false_ne_true usable.1, _, _, rfl⟩
  | true =>
      simp only [Bool.true_eq_false, if_false, true_and]
      cases probed : again.probe with
      | granted => exact .inl ⟨rfl, rfl⟩
      | refused leftover =>
          refine .inr ⟨?_, _, _, rfl⟩
          intro usable
          cases usable

/-- The key of the runtime that a successful call leaves fits the certificate again. -/
theorem Completed.verified_again (completed : Completed crypto input outcomes state after)
    (again : ActivationOutcomes) :
    (again.keyRead = true ∧ ∃ keySha256,
        verifiedKeySha256 crypto input again after.runtime = .ok keySha256) ∨
      again.keyRead = false ∧
        verifiedKeySha256 crypto input again after.runtime = .error osError := by
  obtain ⟨keySha256, verified⟩ := completed.verified
  unfold verifiedKeySha256 at verified ⊢
  rw [completed.runtimePrivateKey_eq]
  split at verified
  · cases verified
  · rename_i given
    rw [if_neg given]
    split at verified
    · cases verified
    · rename_i key found
      split at verified
      · cases verified
      · rename_i certificateKey parsed
        split at verified
        · cases verified
        · cases read : again.keyRead with
          | false => exact .inr ⟨rfl, rfl⟩
          | true => exact .inl ⟨rfl, keySha256, verified⟩

end Activation

def isActivated : Except String ActivationResult → Bool
  | .ok (.activated _) => true
  | _ => false

theorem exists_receipt (outcome : Except String ActivationResult × RuntimeState)
    (activated : isActivated outcome.1 = true) :
    ∃ receipt, outcome = (.ok (.activated receipt), outcome.2) := by
  obtain ⟨result, after⟩ := outcome
  cases result with
  | error message => cases activated
  | ok result =>
      cases result with
      | alreadyActivated => cases activated
      | activated receipt => exact ⟨receipt, rfl⟩

/-- A second activation of a stage, after one that returned, reports the stage as activated and
changes nothing, when the mount, the private key and the staged files in the runtime can be
used. Otherwise it raises, writes neither receipt nor snapshot, and leaves the runtime as it
was, except for a file of the probe. -/
theorem activation_idempotent (crypto : RuntimeCrypto) (input : ActivationInput)
    (outcomes again : ActivationOutcomes) (state after : RuntimeState) (result : ActivationResult)
    (returned : activatePackageRuntime crypto input outcomes state = (.ok result, after)) :
    (Accessible input again →
        activatePackageRuntime crypto input again after = (.ok .alreadyActivated, after)) ∧
      (¬ Accessible input again → ∃ message left,
        activatePackageRuntime crypto input again after =
            (.error message, { after with runtime := left }) ∧
          (left = after.runtime ∨ ∃ leftover, again.probe = .refused leftover ∧
            left = after.runtime.leave "" leftover)) := by
  have completed := completed_of_returned returned
  have compared : runtimeStageMismatches crypto input again after.runtime
      (input.sortedChecksums.filter fun entry => !isPreservedRuntimePath entry.1) =
        runtimeStageMismatches crypto input again after.runtime input.sortedChecksums :=
    runtimeStageMismatches_filter
  have whole : (Accessible input again ∧ ∃ keySha256,
        prepareActivation crypto input again after.runtime = .ok (keySha256, false)) ∨
      ¬ Accessible input again ∧ ∃ raised,
        prepareActivation crypto input again after.runtime = .error raised := by
    unfold prepareActivation
    rw [← compared]
    rcases completed.openRuntime_eq again after.runtime with
      ⟨available, probed, opened⟩ | ⟨unusable, message, left, opened⟩
    · rw [opened]
      rcases completed.verified_again again with ⟨read, keySha256, verified⟩ | ⟨unread, verified⟩
      · rw [verified]
        rcases no_mismatch_of_matches input again completed.isMatch copied_plain with
          ⟨comparable, nothing⟩ | ⟨notComparable, raised⟩
        · exact .inl ⟨⟨available, probed, read, comparable⟩, keySha256, by
            rw [ActivationInput.copied] at nothing
            rw [nothing]
            rfl⟩
        · exact .inr ⟨fun usable => notComparable usable.compared, _, by
            rw [ActivationInput.copied] at raised
            rw [raised]⟩
      · rw [verified]
        refine .inr ⟨fun usable => ?_, _, rfl⟩
        exact Bool.false_ne_true (unread.symm.trans usable.keyRead)
    · rw [opened]
      exact .inr ⟨fun usable => unusable ⟨usable.rootAvailable, usable.probe⟩, _, rfl⟩
  unfold activatePackageRuntime
  rcases whole with ⟨usable, keySha256, prepared⟩ | ⟨unusable, ⟨message, left⟩, prepared⟩
  · rw [prepared]
    exact ⟨fun _ => rfl, fun unusable => absurd usable unusable⟩
  · refine ⟨fun usable => absurd usable unusable, fun _ => ⟨message, left, ?_, ?_⟩⟩
    · rw [prepared]
    · rcases prepareActivation_error prepared with ⟨same, _⟩ | ⟨leftover, refused, same, _⟩
      · exact .inl same
      · exact .inr ⟨leftover, refused, same⟩

/-- A stage with a new certificate only. -/
def renewedStage : ActivationInput :=
  { brokenStage with stageChecksums := [("own/certs/client_certificate.pem", "02")] }

def renewedReceipt : ActivationReceipt where
  status := "activated"
  target := "fuxa"
  packageId := "pkg-1"
  planId := "plan-1"
  changedFiles := [⟨"own/certs/client_certificate.pem", "updated", some "01", "02"⟩]
  preservedFiles := []
  privateKeySha256Before := "09"
  privateKeySha256After := "09"

theorem renewed_activated_once :
    ∃ after, activatePackageRuntime plainCrypto renewedStage smoothOutcomes fuxaRuntime =
          (.ok (.activated renewedReceipt), after) ∧
        activatePackageRuntime plainCrypto renewedStage smoothOutcomes after =
          (.ok .alreadyActivated, after) := by
  have first : activatePackageRuntime plainCrypto renewedStage smoothOutcomes fuxaRuntime =
      (.ok (.activated renewedReceipt),
        { runtime := [("own/certs/client_certificate.pem", [2]),
            ("own/private/private_key.pem", [9])]
          snapshot := [("own/certs/client_certificate.pem", [1])]
          manifest := some ⟨[("own/certs/client_certificate.pem", "01")],
            ["own/private/private_key.pem"]⟩
          receipts := [renewedReceipt] }) := by
    decide +kernel
  have accessible : Accessible renewedStage smoothOutcomes :=
    ⟨rfl, rfl, rfl, fun _ _ _ _ => rfl⟩
  exact ⟨_, first, (activation_idempotent plainCrypto renewedStage smoothOutcomes
    smoothOutcomes fuxaRuntime _ _ first).1 accessible⟩

end OpcuaGds.Agent
