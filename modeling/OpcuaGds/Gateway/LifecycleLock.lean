import OpcuaGds.Foundation.Transition
import OpcuaGds.Gateway.TrustDocument

/-! # Processes of the gateway container

The background lifecycle loop, the main program with its start-up bootstrap and the commands
of the command line run side by side. Only the loop takes the lock file.
-/

namespace OpcuaGds.Gateway

/-! ## Calls -/

/-- The commands that run once for each target. -/
inductive Subcommand where
  | discover
  | pullTrust
  | enroll
  | renew
  | renewalCheck
  | applyTrust
  | applyCertificate
  | validate
  | lifecycleOnce
  deriving DecidableEq, Repr

namespace Subcommand

/-- The second argument of `run_for_target`. -/
def includesRemotePeers : Subcommand → Bool
  | .discover | .pullTrust | .validate => true
  | _ => false

/-- A lifecycle cycle or an apply. -/
def isExclusive : Subcommand → Bool
  | .lifecycleOnce | .applyTrust | .applyCertificate => true
  | _ => false

end Subcommand

/-- One command under way on one target. -/
structure Call where
  subcommand : Subcommand
  target : GdsTarget
  deriving DecidableEq, Repr

/-- The order of `TARGETS`. -/
def allTargets : List GdsTarget := [.dmzGatewayClient, .dmzGatewayServer, .otServer]

/-- The targets of `run_for_target`; an unknown name has none. -/
def runForTarget (targetName : String) (includeRemotePeers : Bool) : List GdsTarget :=
  if targetName = "all" then
    allTargets.filter fun target => !target.config.remotePeerReadOnly || includeRemotePeers
  else (allTargets.find? fun target => target.config.name == targetName).toList

def callsFor (subcommand : Subcommand) (targetName : String) : List Call :=
  (runForTarget targetName subcommand.includesRemotePeers).map fun target =>
    ⟨subcommand, target⟩

/-! ## Processes -/

/-- The environment variables that `gds_startup_bootstrap` reads. -/
structure BootstrapSettings where
  enabled : Bool
  discoverOnStart : Bool
  pullTrustOnStart : Bool
  applyTrustOnStart : Bool
  lifecycleEnabled : Bool

/-- How a process is started. -/
inductive Invocation where
  | mainProgram (settings : BootstrapSettings)
  | command (subcommand : Subcommand) (targetName : String)
  | lifecycleLoop (targetName : String)

/-- Where a process stands. A batch runs its phases in order and ends after one in which a call
failed; the loop has been started, or it holds the lock file. -/
inductive Process where
  | batch (current : Option Call) (succeeded : Bool) (phases : List (List Call))
  | loopStarting (targetName : String)
  | loop (targetName : String) (stop : Bool) (current : Option GdsTarget)
      (rest : List GdsTarget)
  deriving DecidableEq, Repr

/-- The phases of `gds_startup_bootstrap`. -/
def bootstrapPhases (settings : BootstrapSettings) : List (List Call) :=
  if settings.enabled then
    (if settings.discoverOnStart then [callsFor .discover "all"] else []) ++
      (if settings.pullTrustOnStart then [callsFor .pullTrust "all"] else []) ++
      (if settings.applyTrustOnStart then [callsFor .applyTrust "all"] else []) ++
      (if settings.lifecycleEnabled then [callsFor .lifecycleOnce "all"] else [])
  else []

def Invocation.process : Invocation → Process
  | .mainProgram settings => .batch none true (bootstrapPhases settings)
  | .command subcommand targetName => .batch none true [callsFor subcommand targetName]
  | .lifecycleLoop targetName => .loopStarting targetName

namespace Process

/-- What a process does next, by whether the lock file exists and how a call under way ends:
the lock file after it, and the process unless it exits. -/
def next (lockFile returned : Bool) : Process → Bool × Option Process
  | .batch (some _) succeeded phases =>
      (lockFile, some (.batch none (succeeded && returned) phases))
  | .batch none succeeded ((call :: calls) :: phases) =>
      (lockFile, some (.batch (some call) succeeded (calls :: phases)))
  | .batch none succeeded ([] :: phases) =>
      (lockFile, if succeeded then some (.batch none true phases) else none)
  | .batch none _ [] => (lockFile, none)
  | .loopStarting targetName =>
      -- `lifecycle_lock_acquire` creates the file, unless it exists
      if lockFile then (true, none) else (true, some (.loop targetName false none []))
  | .loop targetName stop (some _) rest => (lockFile, some (.loop targetName stop none rest))
  | .loop targetName stop none (target :: rest) =>
      (lockFile, some (.loop targetName stop (some target) rest))
  | .loop targetName stop none [] =>
      if stop then (false, none)
      else (lockFile, some (.loop targetName stop none (runForTarget targetName false)))

/-- `SIGTERM` or `SIGINT`: only the loop that has begun asks for its flag. -/
def signalled : Process → Process
  | .loop targetName _ current rest => .loop targetName true current rest
  | process => process

/-- The call that is under way. -/
def working : Process → Option Call
  | .batch current _ _ => current
  | .loopStarting _ => none
  | .loop _ _ current _ => current.map fun target => ⟨.lifecycleOnce, target⟩

/-- The call that the process begins next. -/
def beginning : Process → Option Call
  | .batch none _ ((call :: _) :: _) => some call
  | .loop _ _ none (target :: _) => some ⟨.lifecycleOnce, target⟩
  | _ => none

def isLoop : Process → Bool
  | .batch _ _ _ => false
  | _ => true

def holdsLock : Process → Bool
  | .loop _ _ _ _ => true
  | _ => false

/-- The process executes a lifecycle cycle or an apply on the target. -/
def WorksOn (process : Process) (target : GdsTarget) : Prop :=
  ∃ call, process.working = some call ∧ call.subcommand.isExclusive = true ∧ call.target = target

end Process

/-! ## The container -/

structure Container where
  lockFile : Bool
  processes : Nat → Option Process

/-- A process starts, does what it does next, is signalled, or is killed. -/
inductive ContainerEvent where
  | start (pid : Nat) (invocation : Invocation)
  | run (pid : Nat) (returned : Bool)
  | signal (pid : Nat)
  | kill (pid : Nat)

/-- If the event starts a process, it is a background loop. -/
def ContainerEvent.StartsLoop : ContainerEvent → Prop
  | .start _ invocation => ∃ targetName, invocation = .lifecycleLoop targetName
  | _ => True

namespace Container

/-- A container without processes; the lock file of an earlier run may be there. -/
def initial (lockFile : Bool) : Container := ⟨lockFile, fun _ => none⟩

def put (container : Container) (pid : Nat) (process : Option Process) : Container :=
  { container with processes := Function.update container.processes pid process }

def step (container : Container) : ContainerEvent → Option Container
  | .start pid invocation =>
      if container.processes pid = none then some (container.put pid (some invocation.process))
      else none
  | .run pid returned =>
      (container.processes pid).map fun process =>
        let (lockFile, after) := process.next container.lockFile returned
        { container.put pid after with lockFile := lockFile }
  | .signal pid =>
      (container.processes pid).map fun process => container.put pid (some process.signalled)
  | .kill pid => (container.processes pid).map fun _ => container.put pid none

/-- No two processes execute a cycle or an apply on one target. -/
def Exclusive (container : Container) : Prop :=
  ∀ first process, container.processes first = some process →
    ∀ second other, container.processes second = some other →
      ∀ target, process.WorksOn target → other.WorksOn target → first = second

/-- A process begins a cycle or an apply while another one is at work on the target only if
both hold the lock. -/
def BeginsInTurn (container : Container) : ContainerEvent → Prop
  | .run pid _ =>
      ∀ process, container.processes pid = some process →
        ∀ call, process.beginning = some call → call.subcommand.isExclusive = true →
          ∀ other busy, other ≠ pid → container.processes other = some busy →
            busy.WorksOn call.target → process.holdsLock = true ∧ busy.holdsLock = true
  | _ => True

/-- A process that holds the lock is the only one, and the lock file is there. -/
structure LockHeld (container : Container) : Prop where
  present : ∀ pid process, container.processes pid = some process → process.holdsLock = true →
    container.lockFile = true
  unique : ∀ first process, container.processes first = some process →
    ∀ second other, container.processes second = some other →
      process.holdsLock = true → other.holdsLock = true → first = second

end Container

/-! ## One step of a process -/

namespace Process

variable {process after : Process} {lockFile locked returned : Bool} {target : GdsTarget}

theorem not_worksOn (idle : process.working = none) : ¬ process.WorksOn target := by
  rintro ⟨call, working, _⟩
  rw [idle] at working
  cases working

/-- After its step a process is at work on what it began, or on nothing. -/
theorem working_next (stepped : process.next lockFile returned = (locked, some after)) :
    after.working = process.beginning := by
  unfold next at stepped
  split at stepped
  case h_3 => split at stepped <;> cases stepped; rfl
  case h_4 => cases stepped
  case h_5 => cases lockFile <;> cases stepped; rfl
  case h_8 => split at stepped <;> cases stepped; rfl
  all_goals cases stepped; rfl

theorem next_of_beginning {call : Call} (begins : process.beginning = some call) :
    ∃ later, process.next lockFile returned = (lockFile, some later) ∧
      later.working = some call := by
  unfold beginning at begins
  split at begins
  · cases begins
    exact ⟨_, rfl, rfl⟩
  · cases begins
    exact ⟨_, rfl, rfl⟩
  · cases begins

/-- The lock file is there after a process took it, and goes with the process that held it. -/
theorem holdsLock_next {later : Option Process}
    (stepped : process.next lockFile returned = (locked, later)) :
    (locked = lockFile ∧
        ∀ next, later = some next → next.holdsLock = process.holdsLock) ∨
      (lockFile = false ∧ locked = true ∧ process.holdsLock = false) ∨
      (lockFile = true ∧ locked = true ∧ later = none) ∨
      (process.holdsLock = true ∧ locked = false ∧ later = none) := by
  unfold next at stepped
  split at stepped
  case h_3 =>
    split at stepped
    · cases stepped; exact .inl ⟨rfl, by rintro _ ⟨⟩; rfl⟩
    · cases stepped; exact .inl ⟨rfl, nofun⟩
  case h_5 =>
    cases lockFile with
    | true => cases stepped; exact .inr (.inr (.inl ⟨rfl, rfl, rfl⟩))
    | false => cases stepped; exact .inr (.inl ⟨rfl, rfl, rfl⟩)
  case h_8 =>
    split at stepped
    · cases stepped; exact .inr (.inr (.inr ⟨rfl, rfl, rfl⟩))
    · cases stepped; exact .inl ⟨rfl, by rintro _ ⟨⟩; rfl⟩
  case h_4 => cases stepped; exact .inl ⟨rfl, nofun⟩
  all_goals cases stepped; exact .inl ⟨rfl, by rintro _ ⟨⟩; rfl⟩

theorem isLoop_next (isLoop : process.isLoop = true)
    (stepped : process.next lockFile returned = (locked, some after)) : after.isLoop = true := by
  cases process with
  | batch => cases isLoop
  | loopStarting targetName =>
      cases lockFile <;> cases stepped
      rfl
  | loop targetName stop current rest =>
      cases current with
      | some target => cases stepped; rfl
      | none =>
          cases rest with
          | cons target rest => cases stepped; rfl
          | nil => cases stop <;> cases stepped; rfl

theorem holdsLock_of_beginning {call : Call} (isLoop : process.isLoop = true)
    (begins : process.beginning = some call) : process.holdsLock = true := by
  cases process with
  | batch => cases isLoop
  | loopStarting => cases begins
  | loop => rfl

theorem holdsLock_of_working {call : Call} (isLoop : process.isLoop = true)
    (working : process.working = some call) : process.holdsLock = true := by
  cases process with
  | batch => cases isLoop
  | loopStarting => cases working
  | loop => rfl

theorem isLoop_signalled : process.signalled.isLoop = process.isLoop := by
  cases process <;> rfl

theorem working_signalled : process.signalled.working = process.working := by
  cases process <;> rfl

theorem holdsLock_signalled : process.signalled.holdsLock = process.holdsLock := by
  cases process <;> rfl

end Process

theorem Invocation.working_process (invocation : Invocation) :
    invocation.process.working = none := by
  cases invocation <;> rfl

theorem Invocation.holdsLock_process (invocation : Invocation) :
    invocation.process.holdsLock = false := by
  cases invocation <;> rfl

/-! ## One step of the container -/

namespace Container

variable {container next : Container} {event : ContainerEvent} {pid : Nat}
  {after : Option Process}

theorem put_self : (container.put pid after).processes pid = after := Function.update_self _ _ _

theorem put_of_ne {other : Nat} (distinct : other ≠ pid) :
    (container.put pid after).processes other = container.processes other :=
  Function.update_of_ne distinct _ _

/-- A step changes one process. -/
theorem exclusive_put_iff (exclusive : container.Exclusive) (lockFile : Bool) :
    ({ container.put pid after with lockFile := lockFile } : Container).Exclusive ↔
      ∀ process, after = some process → ∀ target, process.WorksOn target →
        ∀ other busy, other ≠ pid → container.processes other = some busy →
          ¬ busy.WorksOn target := by
  constructor
  · intro kept process isAfter target works other busy distinct found alsoWorks
    have here : (container.put pid after).processes pid = some process := put_self.trans isAfter
    have there : (container.put pid after).processes other = some busy :=
      (put_of_ne distinct).trans found
    exact distinct (kept other busy there pid process here target alsoWorks works)
  · intro apart first process isFirst second other isSecond target works alsoWorks
    by_cases firstHere : first = pid
    · by_cases secondHere : second = pid
      · rw [firstHere, secondHere]
      · subst firstHere
        exact absurd alsoWorks
          (apart process (put_self.symm.trans isFirst) target works second other
          secondHere ((put_of_ne secondHere).symm.trans isSecond))
    · by_cases secondHere : second = pid
      · subst secondHere
        exact absurd works
          (apart other (put_self.symm.trans isSecond) target alsoWorks first process
          firstHere ((put_of_ne firstHere).symm.trans isFirst))
      · exact exclusive first process ((put_of_ne firstHere).symm.trans isFirst) second other
          ((put_of_ne secondHere).symm.trans isSecond) target works alsoWorks

/-- The lock stays held when a process goes on with or without it. -/
theorem LockHeld.put (held : container.LockHeld)
    (kept : ∀ process, after = some process → process.holdsLock = true →
      ∃ before, container.processes pid = some before ∧ before.holdsLock = true) :
    (container.put pid after).LockHeld := by
  have before : ∀ other process, (container.put pid after).processes other = some process →
      process.holdsLock = true →
        ∃ earlier, container.processes other = some earlier ∧ earlier.holdsLock = true := by
    intro other process found holds
    by_cases here : other = pid
    · subst here
      exact kept process (put_self.symm.trans found) holds
    · exact ⟨process, (put_of_ne here).symm.trans found, holds⟩
  constructor
  · intro other process found holds
    obtain ⟨earlier, wasFound, held'⟩ := before other process found holds
    exact held.present other earlier wasFound held'
  · intro first process isFirst second other isSecond holds alsoHolds
    obtain ⟨earlier, wasFirst, held'⟩ := before first process isFirst holds
    obtain ⟨former, wasSecond, alsoHeld⟩ := before second other isSecond alsoHolds
    exact held.unique first earlier wasFirst second former wasSecond held' alsoHeld

/-- The lock is held rightly where no other process holds it. -/
theorem lockHeld_of_alone {lockFile : Bool}
    (alone : ∀ other busy, other ≠ pid → container.processes other = some busy →
      busy.holdsLock = false)
    (present : ∀ process, after = some process → process.holdsLock = true → lockFile = true) :
    ({ container.put pid after with lockFile := lockFile } : Container).LockHeld := by
  have here : ∀ other process, (container.put pid after).processes other = some process →
      process.holdsLock = true → other = pid := by
    intro other process found holds
    by_contra distinct
    have not := alone other process distinct ((put_of_ne distinct).symm.trans found)
    rw [holds] at not
    cases not
  constructor
  · intro other process found holds
    have isHere := here other process found holds
    subst isHere
    exact present process (put_self.symm.trans found) holds
  · intro first process isFirst second other isSecond holds alsoHolds
    rw [here first process isFirst holds, here second other isSecond alsoHolds]

/-- Taking the lock, working under it and giving it back leave it with at most one process. -/
theorem LockHeld.step (held : container.LockHeld)
    (stepped : container.step event = some next) : next.LockHeld := by
  cases event with
  | start pid invocation =>
      simp only [Container.step] at stepped
      split at stepped <;> cases stepped
      refine held.put fun process isProcess holds => ?_
      cases isProcess
      rw [invocation.holdsLock_process] at holds
      cases holds
  | signal pid =>
      obtain ⟨process, found, rfl⟩ := Option.map_eq_some_iff.mp stepped
      refine held.put fun after isAfter holds => ⟨process, found, ?_⟩
      cases isAfter
      rwa [Process.holdsLock_signalled] at holds
  | kill pid =>
      obtain ⟨process, found, rfl⟩ := Option.map_eq_some_iff.mp stepped
      exact held.put nofun
  | run pid returned =>
      obtain ⟨process, found, rfl⟩ := Option.map_eq_some_iff.mp stepped
      obtain ⟨⟨locked, later⟩, taken⟩ :
          ∃ result, process.next container.lockFile returned = result :=
        ⟨_, rfl⟩
      rw [taken]
      obtain ⟨rfl, same⟩ | ⟨free, rfl, _⟩ | ⟨wasHeld, rfl, rfl⟩ | ⟨holds, rfl, rfl⟩ :=
        Process.holdsLock_next taken
      · refine held.put fun after isAfter holds => ⟨process, found, ?_⟩
        rwa [same after isAfter] at holds
      · refine lockHeld_of_alone (fun other busy distinct isBusy => ?_) fun _ _ _ => rfl
        by_contra holds
        have present := held.present other busy isBusy (by simpa using holds)
        rw [free] at present
        cases present
      · have kept : (container.put pid none).LockHeld := held.put nofun
        exact ⟨fun _ _ _ _ => rfl, kept.unique⟩
      · refine lockHeld_of_alone (fun other busy distinct isBusy => ?_) nofun
        by_contra alsoHolds
        exact distinct (held.unique other busy isBusy pid process found
          (by simpa using alsoHolds) holds)

/-- The exclusion lasts over a step exactly when nothing begins out of turn. -/
theorem exclusive_step_iff (held : container.LockHeld) (exclusive : container.Exclusive)
    (stepped : container.step event = some next) :
    next.Exclusive ↔ container.BeginsInTurn event := by
  cases event with
  | start pid invocation =>
      simp only [Container.step] at stepped
      split at stepped <;> cases stepped
      refine iff_of_true ((exclusive_put_iff exclusive _).mpr ?_) trivial
      intro process isProcess target works
      cases isProcess
      exact absurd works (Process.not_worksOn invocation.working_process)
  | signal pid =>
      obtain ⟨process, found, rfl⟩ := Option.map_eq_some_iff.mp stepped
      refine iff_of_true ((exclusive_put_iff exclusive _).mpr ?_) trivial
      intro after isAfter target works other busy distinct isBusy alsoWorks
      cases isAfter
      rw [Process.WorksOn, Process.working_signalled] at works
      exact distinct (exclusive other busy isBusy pid process found target alsoWorks works)
  | kill pid =>
      obtain ⟨process, found, rfl⟩ := Option.map_eq_some_iff.mp stepped
      exact iff_of_true ((exclusive_put_iff exclusive _).mpr nofun) trivial
  | run pid returned =>
      obtain ⟨process, found, rfl⟩ := Option.map_eq_some_iff.mp stepped
      obtain ⟨⟨locked, later⟩, taken⟩ :
          ∃ result, process.next container.lockFile returned = result :=
        ⟨_, rfl⟩
      rw [taken]
      refine (exclusive_put_iff exclusive locked).trans ⟨fun apart => ?_, fun inTurn => ?_⟩
      · intro runs isRuns call begins isExclusive other busy distinct isBusy works
        cases found.symm.trans isRuns
        obtain ⟨after, isAfter, working⟩ := Process.next_of_beginning begins
        cases taken.symm.trans isAfter
        exact absurd works
          (apart after rfl call.target ⟨call, working, isExclusive, rfl⟩ other busy distinct isBusy)
      · rintro after rfl _ ⟨call, working, isExclusive, rfl⟩ other busy distinct isBusy works
        have begins : process.beginning = some call :=
          (Process.working_next taken).symm.trans working
        obtain ⟨holds, alsoHolds⟩ :=
          inTurn process found call begins isExclusive other busy distinct isBusy works
        exact distinct (held.unique other busy isBusy pid process found alsoHolds holds)

/-- Processes that are all background loops. -/
def OnlyLoops (container : Container) : Prop :=
  ∀ pid process, container.processes pid = some process → process.isLoop = true

theorem OnlyLoops.put (loops : container.OnlyLoops)
    (isLoop : ∀ process, after = some process → process.isLoop = true) :
    (container.put pid after).OnlyLoops := by
  intro other process found
  by_cases here : other = pid
  · subst here
    exact isLoop process (put_self.symm.trans found)
  · exact loops other process ((put_of_ne here).symm.trans found)

theorem OnlyLoops.step (loops : container.OnlyLoops) (onlyLoops : event.StartsLoop)
    (stepped : container.step event = some next) : next.OnlyLoops := by
  cases event with
  | start pid invocation =>
      simp only [Container.step] at stepped
      split at stepped <;> cases stepped
      obtain ⟨targetName, rfl⟩ := onlyLoops
      exact loops.put fun process isProcess => by cases isProcess; rfl
  | signal pid =>
      obtain ⟨process, found, rfl⟩ := Option.map_eq_some_iff.mp stepped
      refine loops.put fun after isAfter => ?_
      cases isAfter
      rw [Process.isLoop_signalled, loops pid process found]
  | kill pid =>
      obtain ⟨process, found, rfl⟩ := Option.map_eq_some_iff.mp stepped
      exact loops.put nofun
  | run pid returned =>
      obtain ⟨process, found, rfl⟩ := Option.map_eq_some_iff.mp stepped
      exact loops.put fun after isAfter =>
        Process.isLoop_next (loops pid process found) (Prod.ext rfl isAfter)

/-- Background loops wait for each other: the lock is what a loop needs to begin a cycle. -/
theorem OnlyLoops.beginsInTurn (loops : container.OnlyLoops) : container.BeginsInTurn event := by
  cases event with
  | run pid returned =>
      intro process found call begins _ other busy _ isBusy ⟨busyCall, working, _⟩
      exact ⟨Process.holdsLock_of_beginning (loops pid process found) begins,
        Process.holdsLock_of_working (loops other busy isBusy) working⟩
  | start | signal | kill => trivial

/-- As long as only background loops are started, they exclude each other. -/
theorem loops_exclusive (lockFile : Bool) (events : List ContainerEvent)
    (onlyLoops : ∀ event ∈ events, event.StartsLoop) :
    Transition.EveryStep step (fun _ _ next => next.Exclusive) (.initial lockFile) events := by
  have any : Transition.EveryStep step (fun _ _ _ => True) (.initial lockFile) events :=
    Transition.EveryStep.of_forall (fun _ => True) (fun _ _ _ _ _ => trivial)
      (fun _ _ _ _ _ => trivial) events trivial
  have preserved : ∀ container event next,
      container.LockHeld ∧ container.Exclusive ∧ container.OnlyLoops →
        step container event = some next → True ∧ event.StartsLoop →
          next.LockHeld ∧ next.Exclusive ∧ next.OnlyLoops := by
    rintro container event next ⟨held, exclusive, loops⟩ stepped ⟨-, starts⟩
    exact ⟨held.step stepped, (exclusive_step_iff held exclusive stepped).mpr loops.beginsInTurn,
      loops.step starts stepped⟩
  have kept := (any.and_event onlyLoops).every_state preserved ⟨⟨nofun, nofun⟩, nofun, nofun⟩
  exact kept.imp fun _ _ _ invariant => invariant.2.1

end Container

end OpcuaGds.Gateway
