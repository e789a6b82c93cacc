import OpcuaGds.Agent.ActivationAtomicity
import OpcuaGds.Agent.PackageStaging
import OpcuaGds.Foundation.Transition

/-! # The names of the CRLs that the agent writes

Trust-only applies and package activations on the runtime of one target. A trust-only apply
removes the controlled aliases before it writes; which CRLs of earlier calls it finds, and
which of them its validation may reject.
-/

namespace OpcuaGds.Agent

open FileTree (Changed lastWritten)

/-- The runtime of a target, with the paths of every CRL file that the agent wrote. -/
structure CrlRuntime where
  state : RuntimeState
  ownCrls : List String
  deriving DecidableEq

/-- A trust-only apply, or the activation of a package that was staged for it. -/
inductive CrlEvent where
  | trustOnly (env : StageEnvironment) (outcomes : StageOutcomes) (uuids : Nat → String)
      (artifact : Json)
  | activation (env : StageEnvironment) (crypto : RuntimeCrypto) (outcomes : ActivationOutcomes)
      (manifest : Json) (planId : String)

/-- One call; a stage that cannot be written is not activated. -/
def CrlRuntime.step (targetCfg : Json) (runtime : CrlRuntime) : CrlEvent → Option CrlRuntime
  | .trustOnly env outcomes uuids artifact =>
      let layout := targetStageLayout targetCfg
      let left := leftFiles
        (applyTargetStageMaterial env layout outcomes uuids artifact runtime.state.runtime)
      some {
        state := { runtime.state with runtime := left }
        ownCrls := runtime.ownCrls ++ (crlPart layout artifact).writes.map Prod.fst }
  | .activation env crypto outcomes manifest planId =>
      match writePackageStageMaterial env targetCfg manifest [] with
      | .error _ => some runtime
      | .ok staged =>
          let input := stagedPackage crypto targetCfg manifest planId staged.tree
          some {
            state := (activatePackageRuntime crypto input outcomes runtime.state).2
            ownCrls := runtime.ownCrls ++ (staged.tree.map Prod.fst).filter isCrlFile }

/-- A call always returns. -/
theorem CrlRuntime.step_eq_some (targetCfg : Json) (runtime : CrlRuntime) (event : CrlEvent) :
    ∃ next, runtime.step targetCfg event = some next := by
  cases event with
  | trustOnly => exact ⟨_, rfl⟩
  | activation =>
      rw [step]
      split <;> exact ⟨_, rfl⟩

section Statements

variable (env : StageEnvironment) (layout : StageLayout) (outcomes : StageOutcomes)
  (uuids : Nat → String) (artifact : Json)

/-- The files that `_validate_crl_dirs` scans, when the apply comes to it. -/
def scannedFiles (tree : FileTree) : Except FileTree FileTree := do
  let tree ← (caPart env layout artifact).run (fun _ => false) outcomes.caWrite tree
  let tree ← makeCompatDir layout outcomes tree
  (crlPart layout artifact).run (isOptionalCrl layout) outcomes.crlWrite
    (removeUnlinked layout outcomes tree)

/-- The validation reports this file. -/
def BlamedCrl (tree : FileTree) (path : String) : Prop :=
  ∃ scanned, scannedFiles env layout outcomes artifact tree = .ok scanned ∧
    ∃ dir ∈ activeCrlDirs layout, ∃ content, (path, content) ∈ scanned.filesIn dir ∧
      isCrlFile path = true ∧ isCrlProblem env (path, content) = true

/-- Every CRL that comes in passes the validation. -/
def FreshCrls : Prop :=
  ∀ write ∈ (crlPart layout artifact).writes, isCrlProblem env write = false

/-- Of earlier CRLs of the agent, an apply that returns leaves those that it wrote itself, and
its validation reports none when the CRLs that come in are fresh. -/
def HandlesOwnCrls (before : CrlRuntime) : Prop :=
  (∀ after, applyTargetStageMaterial env layout outcomes uuids artifact before.state.runtime =
      .ok after → ∀ path ∈ before.ownCrls, after.read path = none ∨
        ∃ content, (path, content) ∈ (crlPart layout artifact).writes ∧
          after.read path = some content) ∧
    (FreshCrls env layout artifact →
      ∀ path, BlamedCrl env layout outcomes artifact before.state.runtime path →
        path ∉ before.ownCrls)

end Statements

/-- The next apply, if it has CRLs and can remove files, handles the CRLs of earlier calls. -/
def CrlRuntime.Handles (targetCfg : Json) (before : CrlRuntime) : CrlEvent → Prop
  | .trustOnly env outcomes uuids artifact =>
      IncomingCrls artifact → (∀ path, outcomes.unlinked path = true) →
        HandlesOwnCrls env (targetStageLayout targetCfg) outcomes uuids artifact before
  | .activation .. => True

/-- The package has no CRL, or gives it the names and directories of a trust-only apply; and
its certificate and its chain are not named as CRLs. -/
def CrlEvent.Controlled (targetCfg : Json) : CrlEvent → Prop
  | .trustOnly .. => True
  | .activation _ _ _ manifest _ =>
      (manifestText manifest "crl_base64" = "" ∨
        ∀ path, HoldsPackageCrl (packageLayout targetCfg manifest) path → isCrlFile path = true →
          inCrlDir (targetStageLayout targetCfg) path = true ∧ isGdsCrlAlias path = true) ∧
        ∀ path, IsPackageChoice (packageLayout targetCfg manifest) path → isCrlFile path = false

/-- Every CRL of the agent is a controlled alias in a directory that an apply cleans. -/
def CrlRuntime.AllControlled (targetCfg : Json) (runtime : CrlRuntime) : Prop :=
  ∀ path ∈ runtime.ownCrls,
    inCrlDir (targetStageLayout targetCfg) path = true ∧ isGdsCrlAlias path = true

/-! ## One apply -/

section Apply

variable {env : StageEnvironment} {layout : StageLayout} {outcomes : StageOutcomes}
  {uuids : Nat → String} {artifact : Json} {tree before after : FileTree} {path : String}

theorem applyCrls_ok (incoming : IncomingCrls artifact)
    (applied : applyCrls env layout outcomes artifact before = .ok after) :
    (crlPart layout artifact).run (isOptionalCrl layout) outcomes.crlWrite
      (removeUnlinked layout outcomes before) = .ok after := by
  cases ran : (crlPart layout artifact).run (isOptionalCrl layout) outcomes.crlWrite
      (removeUnlinked layout outcomes before) with
  | error stopped =>
      rw [applyCrls_of_stopped incoming ran] at applied
      cases applied
  | ok written =>
      rw [applyCrls_of_written env incoming ran] at applied
      split at applied
      · cases applied
      · split at applied
        · cases applied
        · exact applied

/-- After the CRLs are written, an alias that can be removed holds what was written to it. -/
theorem read_alias_of_written (inDir : inCrlDir layout path = true)
    (isAlias : isGdsCrlAlias path = true) (unlinked : outcomes.unlinked path = true)
    (ran : (crlPart layout artifact).run (isOptionalCrl layout) outcomes.crlWrite
      (removeUnlinked layout outcomes before) = .ok after) :
    after.read path = none ∨ ∃ content, (path, content) ∈ (crlPart layout artifact).writes ∧
      after.read path = some content := by
  obtain ⟨written, same, changed, _⟩ := StagePart.run_spec
    (isOptionalCrl layout) outcomes.crlWrite
    (crlPart_permanent layout artifact) (removeUnlinked layout outcomes before)
  have sameFiles : written = after := by
    rw [ran] at same
    split at same
    · exact (Except.ok.inj same).symm
    · cases same
  have removed : removedAlias layout outcomes path = true := by
    rw [removedAlias, inDir, isAlias, unlinked]
    rfl
  have held := changed.permanent path (permanent_of_crlFile (isCrlFile_of_alias isAlias))
  rw [sameFiles, read_removeUnlinked, if_pos removed] at held
  cases last : lastWritten (FileTree.courseOf (isOptionalCrl layout) outcomes.crlWrite 0
      (crlPart layout artifact).writes).written path with
  | none =>
      rw [last] at held
      exact .inl held
  | some content =>
      rw [last] at held
      exact .inr ⟨content, FileTree.courseOf_written_subset _ _ _ _
        (FileTree.mem_of_lastWritten last), held⟩

/-- The peer certificates change no CRL. -/
theorem sameCrls_of_certificates
    (ran : (certificatePart env layout uuids artifact).run (fun _ => false)
      outcomes.certificateWrite before = .ok after) : SameCrls after before := by
  obtain ⟨written, same, changed, _⟩ := StagePart.run_spec (fun _ => false)
    outcomes.certificateWrite
    (fun write member => (certificatePart_writes env layout uuids artifact write member).1.1) before
  have sameFiles : written = after := by
    rw [ran] at same
    split at same
    · exact (Except.ok.inj same).symm
    · cases same
  rw [← sameFiles]
  exact sameCrls_of_changed (certificateCourse_kind env layout outcomes uuids artifact) changed

theorem apply_ok_cases (applied : applyTargetStageMaterial env layout outcomes uuids artifact tree =
      .ok after) :
    ∃ afterCa afterCrls, applyCrls env layout outcomes artifact afterCa = .ok afterCrls ∧
      (certificatePart env layout uuids artifact).run (fun _ => false)
        outcomes.certificateWrite afterCrls = .ok after := by
  unfold applyTargetStageMaterial at applied
  split at applied
  · cases applied
  · split at applied
    · cases applied
    · obtain ⟨_, _, rest⟩ := Fallible.bind_eq_ok.mp applied
      obtain ⟨afterCa, _, rest⟩ := Fallible.bind_eq_ok.mp rest
      obtain ⟨afterCrls, crls, certificates⟩ := Fallible.bind_eq_ok.mp rest
      exact ⟨afterCa, afterCrls, crls, certificates⟩

/-- The scanned files under an alias that could be removed are those that were written. -/
theorem mem_run_of_alias (inDir : inCrlDir layout path = true)
    (isAlias : isGdsCrlAlias path = true) (unlinked : outcomes.unlinked path = true)
    (ran : (crlPart layout artifact).run (isOptionalCrl layout) outcomes.crlWrite
      (removeUnlinked layout outcomes before) = .ok after) {content : List UInt8}
    (member : (path, content) ∈ after) : (path, content) ∈ (crlPart layout artifact).writes := by
  have wrote : FileTree.tryWrites (isOptionalCrl layout) outcomes.crlWrite 0
      (crlPart layout artifact).writes (removeUnlinked layout outcomes before) = .ok after := by
    rw [StagePart.run] at ran
    split at ran
    · cases ran
    · rename_i made
      split at ran
      · cases ran
        exact made
      · cases ran
  rcases FileTree.mem_tryWrites wrote member with earlier | written | temporary
  · have there := FileTree.isSome_read_iff.mpr ⟨content, earlier⟩
    have removed : removedAlias layout outcomes path = true := by
      rw [removedAlias, inDir, isAlias, unlinked]
      rfl
    rw [read_removeUnlinked, if_pos removed] at there
    cases there
  · exact written
  · rw [permanent_of_crlFile (isCrlFile_of_alias isAlias)] at temporary
    cases temporary

/-- An apply that meets only controlled aliases of the agent handles them. -/
theorem handlesOwnCrls_of_controlled {runtime : CrlRuntime}
    (controlled : ∀ path ∈ runtime.ownCrls,
      inCrlDir layout path = true ∧ isGdsCrlAlias path = true)
    (incoming : IncomingCrls artifact) (unlinked : ∀ path, outcomes.unlinked path = true) :
    HandlesOwnCrls env layout outcomes uuids artifact runtime := by
  constructor
  · intro after applied path own
    obtain ⟨inDir, isAlias⟩ := controlled path own
    obtain ⟨_, afterCrls, crls, certificates⟩ := apply_ok_cases applied
    have same := sameCrls_of_certificates certificates path (isCrlFile_of_alias isAlias)
    rw [same]
    exact read_alias_of_written inDir isAlias (unlinked path) (applyCrls_ok incoming crls)
  · intro fresh path blamed own
    obtain ⟨inDir, isAlias⟩ := controlled path own
    obtain ⟨scanned, scans, dir, _, content, listed, _, problem⟩ := blamed
    obtain ⟨_, _, rest⟩ := Fallible.bind_eq_ok.mp scans
    obtain ⟨_, _, ran⟩ := Fallible.bind_eq_ok.mp rest
    have written := mem_run_of_alias inDir isAlias (unlinked path) ran
      (FileTree.mem_filesIn.mp listed).1
    rw [fresh _ written] at problem
    cases problem

end Apply

/-! ## Runs -/

theorem allControlled_step {targetCfg : Json} {runtime next : CrlRuntime} {event : CrlEvent}
    (all : runtime.AllControlled targetCfg)
    (stepped : runtime.step targetCfg event = some next) (controlled : event.Controlled targetCfg) :
    next.AllControlled targetCfg := by
  cases event with
  | trustOnly env outcomes uuids artifact =>
      cases stepped
      intro path member
      rcases List.mem_append.mp member with earlier | now
      · exact all path earlier
      · obtain ⟨write, written, rfl⟩ := List.mem_map.mp now
        exact crlPart_writes _ _ write written
  | activation env crypto outcomes manifest planId =>
      rw [CrlRuntime.step] at stepped
      split at stepped
      · cases stepped
        exact all
      · rename_i staged written
        cases stepped
        obtain ⟨crls, choices⟩ := controlled
        intro path member
        rcases List.mem_append.mp member with earlier | now
        · exact all path earlier
        · obtain ⟨file, isCrl⟩ := List.mem_filter.mp now
          obtain ⟨held, inStage, rfl⟩ := List.mem_map.mp file
          rcases stage_files written held inStage with isName | choice | ⟨notEmpty, holds⟩
          · rw [(certificatePath_kind isName).1] at isCrl
            cases isCrl
          · rw [choices _ choice] at isCrl
            cases isCrl
          · exact crls.resolve_left notEmpty _ holds isCrl

def fuxaCfg : Json := .obj [("target", .str "fuxa")]

/-- CRLs of one byte: the first is valid until day 10, every other one until day 30. -/
def crlCalendar (day : Int) : StageEnvironment where
  pemCertToDer := fun _ => none
  crlNextUpdate := fun crl => some (some (if crl = [1] then 10 else 30))
  now := day
  strictFreshness := true

def packageActivation (crlBase64 : String) : CrlEvent :=
  .activation (crlCalendar 5) plainCrypto smoothOutcomes
    (.obj [("package_id", .str "pkg-1"), ("certificate_pem", .str "certificate"),
      ("crl_base64", .str crlBase64)]) "plan-1"

def laterArtifact : Json :=
  .obj [("crl_bundle", .obj [("intermediate_crl_base64", .str "Ag==")])]

def laterApply : CrlEvent := .trustOnly (crlCalendar 20) smoothStage (fun _ => "") laterArtifact

/-- The runtime after the activation, with the CRLs that it wrote. -/
def activatedRuntime : CrlRuntime :=
  (CrlRuntime.step fuxaCfg ⟨fuxaRuntime, []⟩ (packageActivation "AQ==")).getD ⟨fuxaRuntime, []⟩

theorem activatedRuntime_left :
    activatedRuntime.ownCrls =
        ["trusted/crl/current.crl", "issuers/crl/current.crl.crl", "issuers/crl/current.crl.b64"] ∧
      activatedRuntime.state.runtime =
        [("trusted/crl/current.crl", [1]),
          ("trusted/certs/application.pem", textBytes "certificate"),
          ("issuers/crl/current.crl.crl", [1]), ("issuers/crl/current.crl.b64", textBytes "AQ=="),
          ("own/certs/client_certificate.pem", [1]), ("own/private/private_key.pem", [9])] := by
  decide +kernel

theorem package_crl_stays :
    "issuers/crl/current.crl.crl" ∈ activatedRuntime.ownCrls ∧
      BlamedCrl (crlCalendar 20) (targetStageLayout fuxaCfg) smoothStage laterArtifact
        activatedRuntime.state.runtime "issuers/crl/current.crl.crl" := by
  obtain ⟨own, left⟩ := activatedRuntime_left
  have scans : scannedFiles (crlCalendar 20) (targetStageLayout fuxaCfg) smoothStage laterArtifact
      activatedRuntime.state.runtime =
        .ok [("trusted/crl/current.crl", [2]), ("issuers/crl/current.crl", [2]),
          ("trusted/crl/vault_intermediate.crl", [2]), ("issuers/crl/vault_intermediate.crl", [2]),
          ("trusted/certs/application.pem", textBytes "certificate"),
          ("issuers/crl/current.crl.crl", [1]), ("own/certs/client_certificate.pem", [1]),
          ("own/private/private_key.pem", [9])] := by
    rw [left]
    decide +kernel
  refine ⟨by rw [own]; decide, _, scans, "issuers/crl", by decide +kernel, [1], ?_⟩
  exact ⟨FileTree.mem_filesIn.mpr ⟨by decide +kernel, by decide +kernel⟩, by decide +kernel,
    by decide +kernel⟩

end OpcuaGds.Agent
