import OpcuaGds.Foundation.Json
import OpcuaGds.Foundation.PythonText
import OpcuaGds.Foundation.Transition
import Mathlib.Logic.Function.Basic

/-! # Lifecycle of a certificate package

`update_certificate_package_lifecycle` reads the package row, decides which state
to store and writes it. The decision on one row comes first; then the calls of
several writers run side by side, each as a read, a write and a commit, in every
order that Postgres allows under READ COMMITTED.
-/

namespace OpcuaGds.Gds

/-- The states of a package, in the order of `PACKAGE_LIFECYCLE_ORDER`. -/
inductive LifecycleState where
  | issued
  | packaged
  | pulled
  | verified
  | staged
  | approved
  | activated
  | rolledBack
  | revoked
  | expired
  deriving DecidableEq, Repr

namespace LifecycleState

/-- `PACKAGE_LIFECYCLE_ORDER`. -/
def order : LifecycleState → Nat
  | .issued => 10
  | .packaged => 20
  | .pulled => 30
  | .verified => 40
  | .staged => 50
  | .approved => 60
  | .activated => 70
  | .rolledBack => 80
  | .revoked => 90
  | .expired => 100

def name : LifecycleState → String
  | .issued => "ISSUED"
  | .packaged => "PACKAGED"
  | .pulled => "PULLED"
  | .verified => "VERIFIED"
  | .staged => "STAGED"
  | .approved => "APPROVED"
  | .activated => "ACTIVATED"
  | .rolledBack => "ROLLED_BACK"
  | .revoked => "REVOKED"
  | .expired => "EXPIRED"

/-- The states that `PACKAGE_LIFECYCLE_ORDER` knows. -/
def known : List LifecycleState :=
  [.issued, .packaged, .pulled, .verified, .staged, .approved, .activated, .rolledBack, .revoked,
    .expired]

def ofName? (text : String) : Option LifecycleState := known.find? fun state => state.name = text

/-- Every state is read back from its stored name. -/
theorem ofName?_name (state : LifecycleState) : ofName? state.name = some state := by
  cases state <;> decide

end LifecycleState

/-- The columns of `certificate_packages` that a lifecycle update reads or writes. -/
structure PackageRow where
  packageId : String
  lifecycleState : LifecycleState
  status : String
  deriving DecidableEq, Repr

/-- A row of `package_events`. -/
structure PackageEvent where
  packageId : String
  eventType : String
  actor : String
  details : List (String × Json)

/-- The arguments of one call of `update_certificate_package_lifecycle`. -/
structure LifecycleUpdate where
  requested : String
  actor : String
  details : List (String × Json)

/-- The check on the requested state, before the database is touched. -/
def requestedState (text : String) : Except String LifecycleState :=
  match LifecycleState.ofName? (PythonText.upper text) with
  | some state => .ok state
  | none => .error ("unsupported package lifecycle state: " ++ PythonText.upper text)

/-- The state that is stored: the requested one, unless it is before the one read. -/
def targetState (requested current : LifecycleState) : LifecycleState :=
  if requested.order < current.order then current else requested

/-- The details of the event, which say so when the request was ignored. -/
def eventDetails (requested current : LifecycleState) (details : List (String × Json)) :
    List (String × Json) :=
  if requested.order < current.order then
    Json.setField "transition_ignored" (.str "non_regressive_lifecycle_state")
      (Json.setField "requested_lifecycle_state" (.str requested.name) details)
  else details

/-- The `UPDATE` of the package row. -/
def PackageRow.store (row : PackageRow) (target : LifecycleState) : PackageRow :=
  { row with
    lifecycleState := target
    status := if target = .revoked then "revoked" else row.status }

/-- The row that is inserted into `package_events`. -/
def lifecycleEvent (packageId : String) (update : LifecycleUpdate)
    (requested current : LifecycleState) : PackageEvent where
  packageId := packageId
  eventType := "package_" ++ PythonText.lower requested.name
  actor := update.actor
  details := eventDetails requested current update.details

@[simp] theorem PackageRow.store_lifecycleState (row : PackageRow) (target : LifecycleState) :
    (row.store target).lifecycleState = target := rfl

/-- One decision never goes below the state it read. -/
theorem order_targetState (requested current : LifecycleState) :
    (targetState requested current).order = max requested.order current.order := by
  unfold targetState
  split
  · rename_i below
    exact (max_eq_right below.le).symm
  · rename_i notBelow
    exact (max_eq_left (not_lt.mp notBelow)).symm

/-! ## The two callers -/

/-- `PackageLifecycleEventBody`; its type admits no state before `PULLED`. -/
structure PackageLifecycleEventBody where
  lifecycleState : LifecycleState
  reportable : lifecycleState ≠ .issued ∧ lifecycleState ≠ .packaged
  eventType : Option String
  details : List (String × Json)

/-- The event type of a body, with the default for a missing or empty one. -/
def PackageLifecycleEventBody.resolvedEventType (body : PackageLifecycleEventBody) : String :=
  match body.eventType with
  | some "" | none => "package_" ++ PythonText.lower body.lifecycleState.name
  | some eventType => eventType

/-- The update that `post_certificate_package_event` asks for. An event of another
type than the default one is recorded without an update. -/
def agentUpdate (body : PackageLifecycleEventBody) (actor : String) : Option LifecycleUpdate :=
  if body.resolvedEventType = "package_" ++ PythonText.lower body.lifecycleState.name then
    some {
      requested := body.lifecycleState.name
      actor := actor
      details := Json.setField "source_interface" (.str "ot_agent_pull")
        (Json.setField "event_type" (.str body.resolvedEventType) body.details) }
  else none

/-- The update that `revoke_certificate` asks for, once for each package. -/
def revocationUpdate (actor : String) (certificateId : Int) (fingerprint reason : Json)
    (correlationId : String) : LifecycleUpdate where
  requested := "REVOKED"
  actor := actor
  details := [("event_type", .str "package_revoked"), ("source_interface", .str "rest_revoke"),
    ("certificate_id", .int certificateId), ("fingerprint_sha256", fingerprint),
    ("reason", reason), ("correlation_id", .str correlationId)]

/-! ## Concurrent calls on one package -/

/-- How far one call has come. -/
inductive Session where
  | idle
  /-- The row was read and the decision made. -/
  | decided (update : LifecycleUpdate) (requested current : LifecycleState)
  /-- `UPDATE` and `INSERT` were executed, the transaction is open. -/
  | written (update : LifecycleUpdate) (requested current : LifecycleState)
  | returned (row : Option PackageRow)
  | raised (error : String)

/-- One package as the database holds it, with the calls that work on it. -/
structure PackageStore (Writer : Type*) where
  /-- The committed row. -/
  row : Option PackageRow
  packageEvents : List PackageEvent
  /-- The row lock between an `UPDATE` and the end of its transaction, with the
  version that is not committed yet. -/
  lock : Option (Writer × PackageRow)
  sessions : Writer → Session

/-- The steps of a call. A transaction may also be rolled back at any point. -/
inductive LifecycleStep (Writer : Type*) where
  | read (writer : Writer) (update : LifecycleUpdate)
  | write (writer : Writer)
  | commit (writer : Writer)
  | rollback (writer : Writer)

namespace PackageStore

variable {Writer : Type*} [DecidableEq Writer]

/-- A package before any call. -/
def quiet (row : Option PackageRow) (packageEvents : List PackageEvent) : PackageStore Writer where
  row := row
  packageEvents := packageEvents
  lock := none
  sessions := fun _ => .idle

def setSession (store : PackageStore Writer) (writer : Writer) (session : Session) :
    PackageStore Writer :=
  { store with sessions := Function.update store.sessions writer session }

/-- The session after the `SELECT`, which takes no lock and sees the committed row. -/
def readSession (row : Option PackageRow) (update : LifecycleUpdate) : Session :=
  match requestedState update.requested, row with
  | .error message, _ => .raised message
  | .ok _, none => .returned none
  | .ok requested, some row => .decided update requested row.lifecycleState

/-- One step. An `UPDATE` waits for the lock and then works on the committed row,
but the state it stores was chosen at the read. -/
def step (store : PackageStore Writer) : LifecycleStep Writer → Option (PackageStore Writer)
  | .read writer update =>
      match store.sessions writer with
      | .idle => some (store.setSession writer (readSession store.row update))
      | _ => none
  | .write writer =>
      match store.sessions writer, store.lock, store.row with
      | .decided update requested current, none, some row =>
          some { store.setSession writer (.written update requested current) with
            lock := some (writer, row.store (targetState requested current)) }
      | _, _, _ => none
  | .commit writer =>
      match store.sessions writer, store.lock with
      | .written update requested current, some (holder, version) =>
          if holder = writer then
            some { store.setSession writer (.returned (some version)) with
              row := some version
              packageEvents := store.packageEvents ++
                [lifecycleEvent version.packageId update requested current]
              lock := none }
          else none
      | _, _ => none
  | .rollback writer =>
      match store.sessions writer with
      | .decided _ _ _ => some (store.setSession writer (.raised "transaction rolled back"))
      | .written _ _ _ =>
          some { store.setSession writer (.raised "transaction rolled back") with lock := none }
      | _ => none

/-- The order value of the stored state. -/
def storedOrder (store : PackageStore Writer) : Nat :=
  (store.row.map fun row => row.lifecycleState.order).getD 0

omit [DecidableEq Writer] in
theorem storedOrder_of_row {store : PackageStore Writer} {row : PackageRow}
    (stored : store.row = some row) : store.storedOrder = row.lifecycleState.order := by
  simp only [storedOrder, stored, Option.map_some, Option.getD_some]

/-- Whoever holds the row lock has an update open, and the version it will commit
is that update applied to the committed row. -/
def LockExplained (store : PackageStore Writer) : Prop :=
  ∀ writer version, store.lock = some (writer, version) →
    ∃ update requested current row, store.sessions writer = .written update requested current ∧
      store.row = some row ∧ version = row.store (targetState requested current)

omit [DecidableEq Writer] in
theorem lockExplained_quiet (row : Option PackageRow) (packageEvents : List PackageEvent) :
    (quiet row packageEvents : PackageStore Writer).LockExplained := by
  intro writer version held
  cases held

theorem LockExplained.setSession {store : PackageStore Writer} {writer : Writer} {session : Session}
    (explained : store.LockExplained)
    (free : ∀ update requested current, store.sessions writer ≠ .written update requested current) :
    (store.setSession writer session).LockExplained := by
  intro holder version held
  obtain ⟨update, requested, current, row, open_, stored, known⟩ := explained holder version held
  refine ⟨update, requested, current, row, ?_, stored, known⟩
  have other : holder ≠ writer := by
    rintro rfl
    exact free update requested current open_
  simpa only [PackageStore.setSession, Function.update_of_ne other] using open_

/-- What each step can do. -/
theorem step_cases {before after : PackageStore Writer} {event : LifecycleStep Writer}
    (stepped : step before event = some after) :
    (∃ writer update, event = .read writer update ∧ before.sessions writer = .idle ∧
      after = before.setSession writer (readSession before.row update)) ∨
    (∃ writer update requested current row, event = .write writer ∧
      before.sessions writer = .decided update requested current ∧ before.lock = none ∧
      before.row = some row ∧
      after = { before.setSession writer (.written update requested current) with
        lock := some (writer, row.store (targetState requested current)) }) ∨
    (∃ writer update requested current version, event = .commit writer ∧
      before.sessions writer = .written update requested current ∧
      before.lock = some (writer, version) ∧
      after = { before.setSession writer (.returned (some version)) with
        row := some version
        packageEvents := before.packageEvents ++
          [lifecycleEvent version.packageId update requested current]
        lock := none }) ∨
    (∃ writer update requested current, event = .rollback writer ∧
      before.sessions writer = .decided update requested current ∧
      after = before.setSession writer (.raised "transaction rolled back")) ∨
    (∃ writer update requested current, event = .rollback writer ∧
      before.sessions writer = .written update requested current ∧
      after = { before.setSession writer (.raised "transaction rolled back") with
        lock := none }) := by
  cases event with
  | read writer update =>
      simp only [step] at stepped
      split at stepped
      · rename_i idle
        exact .inl ⟨writer, update, rfl, idle, (Option.some.inj stepped).symm⟩
      · cases stepped
  | write writer =>
      simp only [step] at stepped
      split at stepped
      · rename_i update requested current row session free stored
        exact .inr (.inl ⟨writer, update, requested, current, row, rfl, session, free, stored,
          (Option.some.inj stepped).symm⟩)
      · cases stepped
  | commit writer =>
      simp only [step] at stepped
      split at stepped
      · rename_i update requested current holder version session held
        split at stepped
        · rename_i same
          subst same
          exact .inr (.inr (.inl ⟨holder, update, requested, current, version, rfl, session, held,
            (Option.some.inj stepped).symm⟩))
        · cases stepped
      · cases stepped
  | rollback writer =>
      simp only [step] at stepped
      split at stepped
      · rename_i update requested current session
        exact .inr (.inr (.inr (.inl ⟨writer, update, requested, current, rfl, session,
          (Option.some.inj stepped).symm⟩)))
      · rename_i update requested current session
        exact .inr (.inr (.inr (.inr ⟨writer, update, requested, current, rfl, session,
          (Option.some.inj stepped).symm⟩)))
      · cases stepped

theorem LockExplained.step {before after : PackageStore Writer} {event : LifecycleStep Writer}
    (explained : before.LockExplained) (stepped : PackageStore.step before event = some after) :
    after.LockExplained := by
  rcases step_cases stepped with ⟨writer, update, rfl, idle, rfl⟩ |
    ⟨writer, update, requested, current, row, rfl, session, free, stored, rfl⟩ |
    ⟨writer, update, requested, current, version, rfl, session, held, rfl⟩ |
    ⟨writer, update, requested, current, rfl, session, rfl⟩ |
    ⟨writer, update, requested, current, rfl, session, rfl⟩
  · exact explained.setSession fun _ _ _ => by rw [idle]; exact Session.noConfusion
  · intro holder version held
    cases held
    exact ⟨update, requested, current, row, Function.update_self .., stored, rfl⟩
  · intro holder version held
    cases held
  · exact explained.setSession fun _ _ _ => by rw [session]; exact Session.noConfusion
  · intro holder version held
    cases held

/-- When a call commits, the state it asked for or the state it had read is not
before the state stored by then. -/
def CommitsUpToDate (before : PackageStore Writer) (event : LifecycleStep Writer)
    (_ : PackageStore Writer) : Prop :=
  ∀ writer update requested current row, event = .commit writer →
    before.sessions writer = .written update requested current → before.row = some row →
      row.lifecycleState.order ≤ requested.order ∨ row.lifecycleState.order ≤ current.order

/-- Only a commit moves the stored state, and it moves it forward exactly when it
is up to date. -/
theorem storedOrder_step_le_iff {before after : PackageStore Writer} {event : LifecycleStep Writer}
    (explained : before.LockExplained) (stepped : step before event = some after) :
    before.storedOrder ≤ after.storedOrder ↔ before.CommitsUpToDate event after := by
  rcases step_cases stepped with ⟨writer, update, rfl, idle, rfl⟩ |
    ⟨writer, update, requested, current, row, rfl, session, free, stored, rfl⟩ |
    ⟨writer, update, requested, current, version, rfl, session, held, rfl⟩ |
    ⟨writer, update, requested, current, rfl, session, rfl⟩ |
    ⟨writer, update, requested, current, rfl, session, rfl⟩
  · exact iff_of_true le_rfl fun _ _ _ _ _ same => nomatch same
  · exact iff_of_true le_rfl fun _ _ _ _ _ same => nomatch same
  · obtain ⟨_, _, _, row, own, stored, rfl⟩ := explained writer version held
    rw [session] at own
    cases own
    rw [storedOrder_of_row stored, storedOrder_of_row rfl, PackageRow.store_lifecycleState,
      order_targetState, le_max_iff]
    constructor
    · intro forward other _ _ _ otherRow same otherSession otherStored
      cases same
      rw [session] at otherSession
      cases otherSession
      rw [stored] at otherStored
      cases otherStored
      exact forward
    · intro upToDate
      exact upToDate writer update requested current row rfl session stored
  · exact iff_of_true le_rfl fun _ _ _ _ _ same => nomatch same
  · exact iff_of_true le_rfl fun _ _ _ _ _ same => nomatch same

/-- In a run of any calls of any writers the stored state never moves backwards
if and only if every commit is up to date. -/
theorem lifecycle_never_decreases_iff (row : Option PackageRow)
    (packageEvents : List PackageEvent) (events : List (LifecycleStep Writer)) :
    Transition.NeverDecreases step storedOrder (quiet row packageEvents) events ↔
      Transition.EveryStep step CommitsUpToDate (quiet row packageEvents) events := by
  rw [Transition.neverDecreases_iff_everyStep]
  exact Transition.EveryStep.congr LockExplained
    (fun _ _ _ explained stepped => explained.step stepped)
    (fun _ _ _ explained stepped => storedOrder_step_le_iff explained stepped) events
    (lockExplained_quiet row packageEvents)

/-! A staged package whose agent reports the activation while the certificate is
being revoked. -/

def racingRow : PackageRow where
  packageId := "pkg-1"
  lifecycleState := .staged
  status := "active"

def activationReport : PackageLifecycleEventBody where
  lifecycleState := .activated
  reportable := by decide
  eventType := none
  details := []

/-- The two updates: by the agent (`true`) and by the revocation (`false`). -/
def racingUpdate : Bool → LifecycleUpdate
  | true => (agentUpdate activationReport "ot-agent").getD (revocationUpdate "" 0 .null .null "")
  | false => revocationUpdate "operator" 7 (.str "ab") (.str "key compromise") "corr-1"

def racingSteps : List (LifecycleStep Bool) :=
  [.read true (racingUpdate true), .read false (racingUpdate false), .write false, .commit false,
    .write true, .commit true]

/-- The revocation is lost: after `REVOKED` was stored, `ACTIVATED` is. -/
theorem revoked_package_stored_as_activated :
    ((Transition.run step (quiet (some racingRow) []) (racingSteps.take 4)).bind
        fun store => store.row.map PackageRow.lifecycleState) = some .revoked ∧
      ((Transition.run step (quiet (some racingRow) []) racingSteps).bind
        fun store => store.row.map PackageRow.lifecycleState) = some .activated ∧
      ¬ Transition.NeverDecreases step storedOrder (quiet (some racingRow) []) racingSteps := by
  refine ⟨rfl, rfl, fun never => ?_⟩
  have lowered := never (racingSteps.take 4) (racingSteps.drop 4) (by simp) _ _ rfl rfl
  exact absurd lowered (by decide)

end PackageStore

end OpcuaGds.Gds
