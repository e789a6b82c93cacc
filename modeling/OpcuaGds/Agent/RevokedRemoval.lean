import OpcuaGds.Agent.QuarantineRecords
import OpcuaGds.Agent.RevokedTrust

/-! # What a revocation removes

A pull, a plan made from its report and an activation of that plan, when none of them is refused,
take the certificates that the inventory revokes out of the runtime, where their places are
eligible, and nothing else.
-/

namespace OpcuaGds.Agent

open Gds (Crypto)

/-! ## The activation -/

section Activation

variable {sha256Hex : List UInt8 → String} {outcomes : QuarantineOutcomes}
  {candidates : List Json} {files : QuarantineFiles}

/-- A loop that comes to its end was halted by no candidate. -/
theorem not_halts_of_finishes
    (finishes : (moveCandidates sha256Hex outcomes candidates files).raises = false) :
    ∀ item ∈ candidates, ¬Halts outcomes files.runtime item := by
  induction candidates generalizing files with
  | nil => exact nofun
  | cons item rest ih =>
      have step := moveCandidate_cases sha256Hex outcomes item files
      rw [moveCandidates] at finishes
      generalize moveCandidate sha256Hex outcomes item files = result at step finishes
      cases step with
      | skips inside absent =>
          refine List.forall_mem_cons.mpr ⟨?_, ih finishes⟩
          rintro (escapes | ⟨_, _, found, _⟩)
          · exact inside escapes
          · rw [absent] at found
            cases found
      | raises left halts same => cases finishes
      | moves path content inside found clears =>
          refine List.forall_mem_cons.mpr ⟨not_halts_of_clears found clears, ?_⟩
          intro other among halts
          exact ih finishes other among ((halts_delete clears).mpr halts)

variable {PrivateKey PublicKey : Type} {crypto : Crypto PrivateKey PublicKey}
  {input : QuarantineInput PrivateKey} {state after : QuarantineState}
  {receipt : QuarantineReceipt} {plan : Json}

theorem writeReceipt_eq_ok {written : QuarantineReceipt} {left : QuarantineState}
    (answer : writeReceipt input outcomes written left = (.ok receipt, after)) :
    after.files = left.files ∧ receipt = written := by
  rw [writeReceipt] at answer
  split at answer
  · cases answer
  · cases answer
    exact ⟨rfl, rfl⟩

theorem performQuarantine_eq_ok {warnings : List String}
    (ran : performQuarantine sha256Hex input outcomes plan warnings state = (.ok receipt, after)) :
    (moveCandidates sha256Hex outcomes (quarantineCandidates plan) state.files).raises = false ∧
      after.files =
        (moveCandidates sha256Hex outcomes (quarantineCandidates plan) state.files).files := by
  rw [performQuarantine] at ran
  dsimp only at ran
  split at ran
  · cases ran
  · rename_i finishes
    rw [not_or, Bool.not_eq_true] at finishes
    exact ⟨finishes.1, (writeReceipt_eq_ok ran).1⟩

/-- A ready plan whose activation is not blocked has all its candidates moved. -/
theorem moved_of_ready
    (ran : activateReadyPlan crypto sha256Hex input outcomes plan state = (.ok receipt, after))
    (unblocked : receipt.status ≠ "blocked") :
    (∀ item ∈ quarantineCandidates plan, ¬Halts outcomes state.files.runtime item) ∧
      after.files.runtime = (moveCandidates sha256Hex outcomes (quarantineCandidates plan)
        state.files).files.runtime := by
  rw [activateReadyPlan] at ran
  split at ran
  · cases ran
  · rename_i blockingReasons warnings gate
    dsimp only at ran
    split at ran
    · rename_i empty
      rw [List.isEmpty_iff.mp empty]
      exact ⟨List.forall_mem_nil _, congrArg QuarantineFiles.runtime (writeReceipt_eq_ok ran).1⟩
    · split at ran
      · obtain ⟨_, rfl⟩ := writeReceipt_eq_ok ran
        exact absurd rfl unblocked
      · split at ran
        · cases ran
        · rename_i files opened
          have same : files = state.files := by
            rw [openQuarantine] at opened
            split at opened
            · cases opened
            · split at opened
              · cases opened
              · split at opened
                · cases opened
                · exact (Prod.mk.inj opened).2.symm
          subst same
          obtain ⟨finishes, left⟩ := performQuarantine_eq_ok ran
          exact ⟨not_halts_of_finishes finishes, congrArg QuarantineFiles.runtime left⟩

/-- An activation that is not blocked leaves what is the file of no candidate, where a plan is
ready exactly if it has candidates. -/
theorem left_of_unblocked
    (ran : activateRevocationQuarantine crypto sha256Hex input outcomes state =
      (.ok receipt, after)) (unblocked : receipt.status ≠ "blocked") :
    ∃ plan, input.plan = some plan ∧
      ((textOf plan "decision" = "ready_for_quarantine" ↔ quarantineCandidates plan ≠ []) →
        ∀ path content, after.files.runtime.read path = some content ↔
          state.files.runtime.read path = some content ∧
            ¬∃ item ∈ quarantineCandidates plan,
              candidateFile item state.files.runtime = some (path, content)) := by
  rw [activateRevocationQuarantine] at ran
  split at ran
  · cases ran
  · split at ran
    · cases ran
    · split at ran
      · cases ran
      · rename_i plan found
        refine ⟨plan, found, fun ready path content => ?_⟩
        split at ran
        · rename_i idle
          have none : quarantineCandidates plan = [] := by
            by_contra some
            exact idle (ready.mpr some)
          rw [(writeReceipt_eq_ok ran).1, none]
          simp
        · obtain ⟨passes, left⟩ := moved_of_ready ran unblocked
          rw [left, read_moveCandidates]
          refine and_congr_right fun held => not_congr ?_
          constructor
          · rintro ⟨front, item, back, parts, _, ⟨bytes, isFile⟩, _⟩
            obtain rfl := Option.some.inj ((candidateFile_read isFile).2.symm.trans held)
            exact ⟨item, parts ▸ List.mem_append_right front List.mem_cons_self, isFile⟩
          · rintro ⟨item, among, isFile⟩
            obtain ⟨front, back, parts⟩ := List.append_of_mem among
            refine ⟨front, item, back, parts, fun earlier member => passes earlier ?_,
              ⟨content, isFile⟩, ?_⟩
            · rw [parts]
              exact List.mem_append_left _ member
            · by_contra unclear
              exact passes item among (.inr ⟨path, content, isFile, unclear⟩)

end Activation

/-! ## Plain paths -/

/-- A path that is its own normal form and leads to itself. -/
structure PlainPath (path : String) : Prop where
  normal : normalizeRelativePath path = path
  inside : resolveInside path = some path
  named : pathName path ≠ ".."

section Plain

variable {path rel fp : String} {content : List UInt8} {item : Json} {runtime : FileTree}

theorem PlainPath.normal_slashes (plain : PlainPath path) :
    normalizeRelativePath (slashes path) = path := by
  have unslashed : slashes path = path :=
    slashes_of_notMem (plain.normal ▸ notMem_normalize path)
  rw [unslashed, plain.normal]

theorem PlainPath.not_private (plain : PlainPath path)
    (eligible : isQuarantineEligible path = true) : isPrivateFile path = false := by
  have led : resolveInside (normalizeRelativePath path) = some path := by
    rw [plain.normal, plain.inside]
  have parts : pathParts path ≠ [] := by
    intro none
    have root := plain.inside
    rw [resolveInside, none] at root
    split at root
    · cases root
    · cases root
      exact absurd eligible (by decide)
  obtain ⟨_, dirs, _, split, _⟩ := splitPath_of_led plain.inside parts plain.named
  refine not_private_of_eligible (plain.normal.symm ▸ eligible) led ?_
  rw [plain.normal]
  exact nameOf_of_splitPath split

/-- A candidate of a plain path is about the file of the path. -/
theorem candidateFile_of_plain (plain : PlainPath path) (isObject : item.isObject = true)
    (isPath : textOf item "relative_path" = path) (eligible : isQuarantineEligible path = true) :
    candidateFile item runtime = (runtime.read path).map fun content => (path, content) := by
  have named : path ≠ "" := by
    rintro rfl
    exact absurd eligible (by decide)
  rw [candidateFile, candidatePath, isPath, plain.normal, if_neg, plain.inside, Option.bind_some,
    fileAt, if_neg plain.named]
  simp [isObject, named, eligible]

end Plain

/-! ## One revocation from end to end -/

section Pass

variable {PrivateKey PublicKey : Type} (crypto : Crypto PrivateKey PublicKey)
  (sha256Hex : List UInt8 → String)
  (certificateMetadata : List UInt8 → Option CertificateMetadata)
  (loadCrl : List UInt8 → Option (List Int)) (revocationDir : String)

/-- A pull, a planning from its report and an activation of that plan, with fresh ids, for one
target; no command is refused. -/
structure RevocationPass (records : AgentRecords) (target : String) (pull : RevocationPull)
    (inventory : List Json) (source : RevocationTarget) (planning : QuarantinePlanning)
    (input : QuarantineInput PrivateKey) (outcomes : QuarantineOutcomes) : Prop where
  fetched : fetchCertificateInventory pull.inventory = .ok inventory
  only : ∀ other ∈ pull.runtimeTargets, other.name = target → other = source
  available : source.rootAvailable = true ∧ planning.rootAvailable = true
  ofTarget : planning.target = target ∧ input.target = target
  ofReport : planning.reportId = source.reportId ∧ source.reportId ≠ ""
  freshReport : ∀ file ∈ (records target).reports, ∀ report, file.2 = some report →
    textOf report "report_id" ≠ source.reportId ∧ textContains source.reportId file.1 = false
  planned : ∃ plan, (planQuarantineOnce certificateMetadata revocationDir planning
      (pullRevocationUpdateOnce certificateMetadata loadCrl pull records).1).2 = .ok plan ∧
    textOf plan "reason" ≠ "revocation_report_missing"
  ofPlan : input.planId = planning.planId
  freshPlan : ∀ file ∈ (records target).plans, ∀ plan, file.2 = some plan →
    textOf plan "plan_id" ≠ planning.planId
  activated : ∃ receipt, (activateQuarantineOnce crypto sha256Hex input outcomes
      (planQuarantineOnce certificateMetadata revocationDir planning
        (pullRevocationUpdateOnce certificateMetadata loadCrl pull records).1).1).2 =
          .ok receipt ∧ receipt.status ≠ "blocked"

/-- The file is an eligible certificate that both inspections can read and the inventory
revokes. -/
structure Condemned (inventory : List Json) (source : RevocationTarget)
    (planning : QuarantinePlanning) (path : String) (content : List UInt8) : Prop where
  eligible : isQuarantineEligible path = true
  readable : source.readable path = true ∧ planning.readable path = true
  revoked : ∃ metadata, certificateMetadata content = some metadata ∧
    PythonText.lower (PythonText.strip metadata.fingerprintSha256) ≠ "" ∧
      Revokes inventory (PythonText.lower (PythonText.strip metadata.fingerprintSha256))

variable {crypto sha256Hex certificateMetadata loadCrl revocationDir} {records : AgentRecords}
  {target : String} {pull : RevocationPull} {inventory : List Json} {source : RevocationTarget}
  {planning : QuarantinePlanning} {input : QuarantineInput PrivateKey}
  {outcomes : QuarantineOutcomes}

/-- In a plain runtime an inspection shows a certificate at the path of its file. -/
theorem shows_of_plain (readable : String → Bool) {tree : FileTree}
    (plain : ∀ path content, tree.read path = some content → PlainPath path) {path fp : String} :
    Shows certificateMetadata readable tree path fp ↔
      ∃ content metadata, tree.read path = some content ∧ isPrivateFile path = false ∧
        readable path = true ∧ certificateMetadata content = some metadata ∧
          PythonText.lower (PythonText.strip metadata.fingerprintSha256) = fp := by
  constructor
  · rintro ⟨file, content, metadata, read, isPublic, isReadable, parsed, rfl, same⟩
    rw [(plain file content read).normal_slashes]
    exact ⟨content, metadata, read, isPublic, isReadable, parsed, same⟩
  · rintro ⟨content, metadata, read, isPublic, isReadable, parsed, same⟩
    exact ⟨path, content, metadata, read, isPublic, isReadable, parsed,
      (plain path content read).normal_slashes, same⟩

/-- The files of the candidates are the certificates that the inventory revokes. -/
theorem candidate_iff {runtime : FileTree} {report plan : Json}
    {planId reportPath preflightPath : String}
    (plain : ∀ path content, runtime.read path = some content → PlainPath path)
    (built : buildRevocationReport certificateMetadata loadCrl pull
      (revokedCertificates inventory) source runtime = .ok report)
    (planned : quarantineRevokedDryRun certificateMetadata planning.readable runtime planId
      reportPath preflightPath report = some plan) (available : source.rootAvailable = true)
    {path : String} {content : List UInt8} (held : runtime.read path = some content) :
    (∃ item ∈ quarantineCandidates plan, candidateFile item runtime = some (path, content)) ↔
      Condemned certificateMetadata inventory source planning path content := by
  have isObject : ∀ item ∈ quarantineCandidates plan, item.isObject = true := by
    intro item among
    obtain ⟨_, _, active⟩ := quarantineCandidates_dryRun planned among
    obtain ⟨_, _, _, _, rfl⟩ := mem_activeRevokedEntries active
    rfl
  have inspected : inspectedTree source.rootAvailable runtime = runtime := if_pos available
  constructor
  · rintro ⟨item, among, isFile⟩
    obtain ⟨⟨eligible, _, named⟩, affects, shown⟩ :=
      (plans_iff planned).mp ⟨item, among, rfl, rfl⟩
    obtain ⟨_, revokes, reported⟩ := (affects_iff built).mp affects
    rw [inspected] at reported
    obtain ⟨bytes, metadata, read, _, readable, parsed, same⟩ := (shows_of_plain _ plain).mp shown
    obtain ⟨_, _, _, _, wasReadable, _, _⟩ := (shows_of_plain _ plain).mp reported
    rw [candidateFile_of_plain (plain _ bytes read) (isObject item among) rfl eligible, read]
      at isFile
    obtain ⟨rfl, rfl⟩ := Prod.mk.inj (Option.some.inj isFile)
    exact ⟨eligible, ⟨wasReadable, readable⟩, metadata, parsed, same ▸ named, same ▸ revokes⟩
  · rintro ⟨eligible, ⟨wasReadable, readable⟩, metadata, parsed, named, revokes⟩
    have isPlain := plain path content held
    have isPublic := isPlain.not_private eligible
    have some : path ≠ "" := by
      rintro rfl
      exact absurd eligible (by decide)
    have shown := (shows_of_plain planning.readable plain).mpr
      ⟨content, metadata, held, isPublic, readable, parsed, rfl⟩
    have affects := (affects_iff built).mpr ⟨named, revokes, inspected.symm ▸
      (shows_of_plain _ plain).mpr ⟨content, metadata, held, isPublic, wasReadable, parsed, rfl⟩⟩
    obtain ⟨item, among, isPath, _⟩ :=
      (plans_iff planned).mpr ⟨⟨eligible, some, named⟩, affects, shown⟩
    refine ⟨item, among, ?_⟩
    rw [candidateFile_of_plain isPlain (isObject item among) isPath eligible, held]
    rfl

/-- A planning that answers has a plan made from the report that it finds, and leaves it in the
directory of the target. -/
theorem planQuarantineOnce_eq_ok {plan : Json}
    (made : (planQuarantineOnce certificateMetadata revocationDir planning records).2 = .ok plan) :
    ∃ found reportPath, loadRevocationReport (records planning.target).reports planning.reportId =
        .ok found ∧
      quarantineRevokedDryRun certificateMetadata planning.readable
        (inspectedTree planning.rootAvailable (records planning.target).runtime) planning.planId
        reportPath planning.preflightPath ((found.bind Prod.snd).getD .null) = some plan ∧
      (planQuarantineOnce certificateMetadata revocationDir planning records).1 planning.target =
        { records planning.target with
          plans := (records planning.target).plans.put
            (documentName planning.generatedAt planning.planId) (some plan) } := by
  rw [planQuarantineOnce] at made ⊢
  dsimp only at made ⊢
  cases loaded : loadRevocationReport (records planning.target).reports planning.reportId with
  | error failure =>
      rw [loaded] at made
      cases made
  | ok found =>
      rw [loaded] at made
      dsimp only at made ⊢
      refine ⟨found, found.elim "" fun file =>
        FileTree.join (FileTree.join revocationDir planning.target) file.1, rfl, ?_⟩
      split at made
      · cases made
      · rename_i planned
        split at made
        · cases made
        · rename_i written
          cases made
          refine ⟨planned, ?_⟩
          rw [if_neg written]
          exact Function.update_self ..

/-- A plan that does not miss its report is made from an object. -/
theorem isObject_of_planned {readable : String → Bool} {tree : FileTree} {report plan : Json}
    {planId reportPath preflightPath : String}
    (planned : quarantineRevokedDryRun certificateMetadata readable tree planId reportPath
      preflightPath report = some plan)
    (found : textOf plan "reason" ≠ "revocation_report_missing") : report.isObject = true := by
  rw [quarantineRevokedDryRun] at planned
  split at planned
  · cases planned
    exact absurd rfl found
  · rename_i isObject
    exact Bool.not_eq_false _ ▸ isObject

/-- The plan is made from the report of the pull, and the only one with its id. -/
theorem RevocationPass.made_from_report
    (pass : RevocationPass crypto sha256Hex certificateMetadata loadCrl revocationDir records
      target pull inventory source planning input outcomes) : ∃ report plan reportPath reports,
    buildRevocationReport certificateMetadata loadCrl pull (revokedCertificates inventory) source
      (records target).runtime = .ok report ∧
    quarantineRevokedDryRun certificateMetadata planning.readable (records target).runtime
      planning.planId reportPath planning.preflightPath report = some plan ∧
    (planQuarantineOnce certificateMetadata revocationDir planning
      (pullRevocationUpdateOnce certificateMetadata loadCrl pull records).1).1 target =
        { records target with
          reports := reports
          plans := (records target).plans.put
            (documentName planning.generatedAt planning.planId) (some plan) } := by
  obtain ⟨plan, made, isFound⟩ := pass.planned
  obtain ⟨found, reportPath, loaded, planned, left⟩ := planQuarantineOnce_eq_ok made
  rw [pass.ofTarget.1] at loaded planned left
  rw [left]
  -- the report that the planning finds has the id of the pull's
  have isObject := isObject_of_planned planned isFound
  rw [loadRevocationReport, if_pos (pass.ofReport.1 ▸ pass.ofReport.2)] at loaded
  cases found with
  | none => cases isObject
  | some file =>
      obtain ⟨among, report, isReport, matched⟩ := reportWithId_eq_ok loaded
      rw [Option.bind_some, isReport, Option.getD_some] at planned
      rw [pass.ofReport.1] at matched
      have new : file ∉ (records target).reports := by
        intro old
        obtain ⟨otherId, otherName⟩ := pass.freshReport file old report isReport
        exact matched.elim otherId fun named => Bool.false_ne_true (otherName.symm.trans named)
      have inReports := (DirectoryListing.mem_newestFirst.mp among).1
      rcases pull_adds target with same | ⟨other, fetched, adds⟩
      · rw [same] at inReports
        exact absurd inReports new
      · obtain rfl := Except.ok.inj (pass.fetched.symm.trans fetched)
        obtain ⟨reports, unchanged⟩ := adds.others
        obtain ⟨inspected, member, made, named, built, isMade⟩ :=
          (adds.reports file inReports).resolve_left new
        obtain rfl := pass.only inspected member named
        obtain rfl := Option.some.inj (isMade.symm.trans isReport)
        rw [unchanged, inspectedTree, if_pos pass.available.2] at planned
        rw [unchanged]
        exact ⟨made, plan, reportPath, reports, built, planned, rfl⟩

variable {after : AgentRecords}

/-- A revocation that nothing interrupts leaves a file of a plain runtime there exactly if it is
not a certificate that the inventory revokes. -/
theorem revoked_trust_removed
    (pass : RevocationPass crypto sha256Hex certificateMetadata loadCrl revocationDir records
      target pull inventory source planning input outcomes)
    (plain : ∀ path content, (records target).runtime.read path = some content → PlainPath path)
    (reached : Transition.run
      (revocationStep crypto sha256Hex certificateMetadata loadCrl revocationDir) records
        [.pull pull, .plan planning, .activate input outcomes] = some after)
    (path : String) (content : List UInt8) :
    (after target).runtime.read path = some content ↔
      (records target).runtime.read path = some content ∧
        ¬Condemned certificateMetadata inventory source planning path content := by
  cases reached
  obtain ⟨report, plan, reportPath, reports, built, planned, left⟩ := pass.made_from_report
  obtain ⟨receipt, activated, unblocked⟩ := pass.activated
  generalize (planQuarantineOnce certificateMetadata revocationDir planning
    (pullRevocationUpdateOnce certificateMetadata loadCrl pull records).1).1 = ready
    at activated left ⊢
  obtain rfl := pass.ofTarget.2
  obtain ⟨found, isFound, leaves⟩ := left_of_unblocked
    (Prod.ext activated rfl : activateRevocationQuarantine crypto sha256Hex (input.finding ready)
      outcomes ((ready input.target).ofPlan input.planId) = (.ok receipt, _)) unblocked
  obtain ⟨_, _, ready_iff⟩ := dryRun_candidates planned
  -- the plan that the activation finds is the one that was made
  obtain ⟨sameId, file, among, isFile⟩ := loadQuarantinePlan_eq_some isFound
  have isPlan : found = plan := by
    rw [left] at among
    rcases DirectoryListing.mem_put.mp among with rfl | ⟨old, _⟩
    · exact (Option.some.inj isFile).symm
    · exact absurd (sameId.trans pass.ofPlan) (pass.freshPlan file old found isFile)
  subst isPlan
  have runtime : ((ready input.target).ofPlan input.planId).files.runtime =
      (records input.target).runtime := by
    rw [left]
    rfl
  have leaves := leaves ready_iff path content
  rw [runtime] at leaves
  rw [activateQuarantineOnce_self]
  exact leaves.trans (and_congr_right fun held => not_congr
    (candidate_iff plain built planned pass.available.1 held))

end Pass

/-! ## The revocation of one of two certificates -/

def revocationInventory : List Json :=
  match fetchCertificateInventory revocationPull.inventory with
  | .ok inventory => inventory
  | .error _ => []

/-- An activation that gets to the candidate is not blocked. -/
theorem revocationCandidate_answered {records : AgentRecords} {plan : Json}
    (runtime : (records "fuxa").runtime = (revocationStart "fuxa").runtime)
    (proceeds : Proceeds Gds.transparentCrypto ((replacedInput "t").finding records) (allDone true)
      plan) (candidates : quarantineCandidates plan = [revocationCandidate]) :
    ∃ receipt, (activateQuarantineOnce Gds.transparentCrypto revocationDigest (replacedInput "t")
      (allDone true) records).2 = .ok receipt ∧ receipt.status ≠ "blocked" := by
  have passes : ∀ item ∈ quarantineCandidates plan,
      ¬Halts (allDone true) ((records "fuxa").ofPlan "q").files.runtime item := by
    rw [candidates, List.forall_mem_singleton, TargetRecords.ofPlan, runtime]
    exact not_halts_of_clears revocationCandidate_file ⟨rfl, rfl, rfl⟩
  have finishes := (moveCandidates_movesAll revocationDigest _ passes).finishes
  obtain ⟨warnings, performed⟩ := activate_of_proceeds revocationDigest
    ((records "fuxa").ofPlan "q") proceeds
  have answer : (activateQuarantineOnce Gds.transparentCrypto revocationDigest
      (replacedInput "t") (allDone true) records).2 =
        (performQuarantine revocationDigest ((replacedInput "t").finding records) (allDone true)
          plan warnings ((records "fuxa").ofPlan "q")).1 := congrArg Prod.fst performed
  have ends : ¬((moveCandidates revocationDigest (allDone true) (quarantineCandidates plan)
      ((records "fuxa").ofPlan "q").files).raises = true ∨
        (allDone true).tombstonesWritten = false) :=
    not_or.mpr ⟨Bool.eq_false_iff.mp finishes, by decide⟩
  rw [answer, performQuarantine, if_neg ends, writeReceipt, if_neg (by decide)]
  refine ⟨_, rfl, ?_⟩
  dsimp only
  split <;> decide

theorem revocationPass : RevocationPass Gds.transparentCrypto revocationDigest replacedMetadata
    (fun _ => none) "d" revocationStart "fuxa" revocationPull revocationInventory revocationSource
    revocationPlanning (replacedInput "t") (allDone true) where
  fetched := rfl
  only := by simp [revocationPull]
  available := ⟨rfl, rfl⟩
  ofTarget := ⟨rfl, rfl⟩
  ofReport := ⟨rfl, by decide⟩
  freshReport := nofun
  planned := ⟨_, rfl, by decide +kernel⟩
  ofPlan := rfl
  freshPlan := nofun
  activated := by
    obtain ⟨plan, proceeds, candidates⟩ := revocationReady_proceeds
    have runtime : (revocationReady "fuxa").runtime = (revocationStart "fuxa").runtime := by
      decide +kernel
    exact revocationCandidate_answered runtime proceeds candidates

theorem revocationStart_plain : ∀ path content,
    (revocationStart "fuxa").runtime.read path = some content → PlainPath path := by
  intro path content held
  rcases List.mem_cons.mp (FileTree.mem_of_read held) with same | later
  · cases same
    exact ⟨by decide +kernel, by decide +kernel, by decide +kernel⟩
  · cases List.mem_singleton.mp later
    exact ⟨by decide +kernel, by decide +kernel, by decide +kernel⟩

/-- The revoked certificate is gone, and the other one is there. -/
theorem revoked_one_removed : ∃ after,
    Transition.run (revocationStep Gds.transparentCrypto revocationDigest replacedMetadata
        (fun _ => none) "d") revocationStart
      [.pull revocationPull, .plan revocationPlanning,
        .activate (replacedInput "t") (allDone true)] = some after ∧
    ∀ path content, (after "fuxa").runtime.read path = some content ↔
      (revocationStart "fuxa").runtime.read path = some content ∧
        ¬Condemned replacedMetadata revocationInventory revocationSource revocationPlanning path
          content := by
  have reached : ∃ after, Transition.run (revocationStep Gds.transparentCrypto revocationDigest
      replacedMetadata (fun _ => none) "d") revocationStart
        [.pull revocationPull, .plan revocationPlanning,
          .activate (replacedInput "t") (allDone true)] = some after := ⟨_, rfl⟩
  obtain ⟨after, reached⟩ := reached
  exact ⟨after, reached, revoked_trust_removed revocationPass revocationStart_plain reached⟩

end OpcuaGds.Agent
