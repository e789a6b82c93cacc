import OpcuaGds.Foundation.Transition
import OpcuaGds.Gateway.Whitelist
import Mathlib.Logic.Function.Basic

/-! # The southbound client and the main loop

The client that mirrors the points of the OT server into the cache, and the loop of `main`
that initialises it, connects it and polls. What the OPC UA library, the files and the
clock answer comes with each cycle.
-/

namespace OpcuaGds.Gateway

/-- `UA_StatusCode`; `UA_STATUSCODE_GOOD` is zero. -/
abbrev StatusCode := UInt32

def StatusCode.good : StatusCode := 0

/-! ## The cache -/

/-- An entry of the cache; a double is kept as its bits. -/
structure CacheValue where
  valid : Bool
  boolValue : Bool
  doubleValue : UInt64
  int32Value : Int32
  timestamp : Int
  deriving DecidableEq, Repr

abbrev Cache := Nat → CacheValue

/-- `cache_init`. -/
def cacheInit : Cache := fun _ =>
  { valid := false, boolValue := false, doubleValue := 0, int32Value := 0, timestamp := 0 }

def cacheSetBool (cache : Cache) (idx : Nat) (value : Bool) (now : Int) : Cache :=
  Function.update cache idx
    { cache idx with valid := true, boolValue := value, timestamp := now }

def cacheSetDouble (cache : Cache) (idx : Nat) (value : UInt64) (now : Int) : Cache :=
  Function.update cache idx
    { cache idx with valid := true, doubleValue := value, timestamp := now }

def cacheSetInt32 (cache : Cache) (idx : Nat) (value : Int32) (now : Int) : Cache :=
  Function.update cache idx
    { cache idx with valid := true, int32Value := value, timestamp := now }

/-! ## The client -/

/-- `SouthboundContext`: whether the client pointer is set, and the namespace index. -/
structure SouthboundContext where
  client : Bool
  nsIdx : UInt16
  deriving DecidableEq, Repr

/-- A value as `UA_Variant_hasScalarType` sees it; `other` also stands for no value. -/
inductive Variant where
  | bool (value : Bool)
  | double (value : UInt64)
  | int32 (value : Int32)
  | other
  deriving DecidableEq, Repr

/-- The answer to the read of one point, with the time at which it is stored. -/
structure PointRead where
  status : StatusCode
  value : Variant
  storedAt : Int
  deriving DecidableEq, Repr

/-- What `southbound_init` meets: the new client, files that are not empty, and the
encryption configuration. -/
structure InitAnswers where
  clientNew : Bool
  certificate : Bool
  privateKey : Bool
  trustOt : Bool
  trustIntermediate : Bool
  trustRoot : Bool
  encryption : StatusCode
  deriving DecidableEq, Repr

structure ConnectAnswers where
  connectUsername : StatusCode
  getNamespaceIndex : StatusCode
  nsIdx : UInt16
  deriving DecidableEq, Repr

/-- `southbound_init`. -/
def southboundInit (answers : InitAnswers) : SouthboundContext × Bool :=
  if !answers.clientNew then (⟨false, 0⟩, false)
  else if !answers.certificate || !answers.privateKey then (⟨true, 0⟩, false)
  else if !answers.trustOt || !answers.trustIntermediate || !answers.trustRoot then
    (⟨true, 0⟩, false)
  else if answers.encryption ≠ .good then (⟨true, 0⟩, false)
  else (⟨true, 0⟩, true)

/-- `southbound_connect`. -/
def southboundConnect (answers : ConnectAnswers) (ctx : SouthboundContext) :
    SouthboundContext × Bool :=
  if !ctx.client then (ctx, false)
  else if answers.connectUsername ≠ .good then (ctx, false)
  else if answers.getNamespaceIndex ≠ .good then (ctx, false)
  else ({ ctx with nsIdx := answers.nsIdx }, true)

/-- `southbound_clear`. -/
def southboundClear (ctx : SouthboundContext) : SouthboundContext :=
  if ctx.client then { ctx with client := false } else ctx

/-- One round of the loop over the points: a read that failed or a value of another type
is passed over. -/
def pollPoint (point : GatewayPoint) (idx : Nat) (read : PointRead) (cache : Cache) : Cache :=
  if read.status ≠ .good then cache
  else
    match point.type, read.value with
    | .bool, .bool value => cacheSetBool cache idx value read.storedAt
    | .double, .double value => cacheSetDouble cache idx value read.storedAt
    | .int32, .int32 value => cacheSetInt32 cache idx value read.storedAt
    | _, _ => cache

def pollPoints (reads : Nat → PointRead) : List GatewayPoint → Nat → Cache → Cache
  | [], _, cache => cache
  | point :: rest, idx, cache =>
      pollPoints reads rest (idx + 1) (pollPoint point idx (reads idx) cache)

/-- `southbound_poll_once`; neither a failed read nor a failed write of the batch is
counted. -/
def southboundPollOnce (ctx : SouthboundContext) (reads : Nat → PointRead) (cache : Cache) :
    Cache × Bool :=
  if !ctx.client then (cache, false) else (pollPoints reads gatewayPoints 0 cache, true)

/-! ## The main loop -/

/-- The variables of the loop. -/
structure LoopState where
  ctx : SouthboundContext
  initialized : Bool
  connected : Bool
  cache : Cache
  nextHeartbeat : Int

/-- What the surroundings answer during one cycle. -/
structure CycleAnswers where
  init : InitAnswers
  connect : ConnectAnswers
  reads : Nat → PointRead
  now : Int
  heartbeatSentAt : Int

/-- The flags of a heartbeat event. -/
structure Heartbeat where
  southboundInitialized : Bool
  southboundConnected : Bool
  deriving DecidableEq, Repr

/-- What one cycle called, and the event it sent. -/
structure CycleReport where
  initCalled : Bool
  connectCalled : Bool
  pollResult : Option Bool
  heartbeat : Option Heartbeat
  deriving DecidableEq, Repr

/-- One cycle of `while(running)`. -/
def mainLoopCycle (healthIntervalSeconds : Int) (state : LoopState) (answers : CycleAnswers) :
    LoopState × CycleReport :=
  let init := if state.initialized then (state.ctx, true) else southboundInit answers.init
  if !init.2 then
    ({ state with ctx := init.1 }, ⟨!state.initialized, false, none, none⟩)
  else
    let connect := if state.connected then (init.1, true)
      else southboundConnect answers.connect init.1
    if !connect.2 then
      ({ state with ctx := southboundClear connect.1, initialized := false },
        ⟨!state.initialized, !state.connected, none, none⟩)
    else
      let poll := southboundPollOnce connect.1 answers.reads state.cache
      if !poll.2 then
        ({ state with
            ctx := southboundClear connect.1
            initialized := false
            connected := false
            cache := poll.1 },
          ⟨!state.initialized, !state.connected, some false, none⟩)
      else
        let isDue : Bool := state.nextHeartbeat ≤ answers.now
        ({  ctx := connect.1
            initialized := true
            connected := true
            cache := poll.1
            nextHeartbeat := if isDue then answers.heartbeatSentAt + healthIntervalSeconds
              else state.nextHeartbeat },
          ⟨!state.initialized, !state.connected, some true,
            if isDue then some ⟨true, true⟩ else none⟩)

def LoopState.initial : LoopState where
  ctx := ⟨false, 0⟩
  initialized := false
  connected := false
  cache := cacheInit
  nextHeartbeat := 0

def mainLoopStep (healthIntervalSeconds : Int) (state : LoopState) (answers : CycleAnswers) :
    Option LoopState :=
  some (mainLoopCycle healthIntervalSeconds state answers).1

/-! ## Polls -/

/-- Some point is read in the cycle. -/
def CycleAnswers.ReadsSome (answers : CycleAnswers) : Prop :=
  ∃ idx < gatewayPoints.length, (answers.reads idx).status = .good

/-- Whether a cycle comes to poll: the client is or gets initialised, and is or gets
connected. -/
def LoopState.ComesToPoll (state : LoopState) (answers : CycleAnswers) : Prop :=
  (state.initialized = true ∨ (southboundInit answers.init).2 = true) ∧
    (state.connected = true ∨
      answers.connect.connectUsername = .good ∧ answers.connect.getNamespaceIndex = .good)

/-- An initialised loop has a client, and only such a loop is connected. -/
structure LoopState.Consistent (state : LoopState) : Prop where
  client : state.initialized = true → state.ctx.client = true
  initialized : state.connected = true → state.initialized = true

theorem LoopState.consistent_initial : LoopState.initial.Consistent := ⟨nofun, nofun⟩

theorem southboundInit_client {answers : InitAnswers} (done : (southboundInit answers).2 = true) :
    (southboundInit answers).1.client = true := by
  unfold southboundInit at done ⊢
  split
  · rename_i noClient
    rw [if_pos noClient] at done
    cases done
  · split
    · rfl
    · split
      · rfl
      · split <;> rfl

theorem southboundConnect_of_client (answers : ConnectAnswers) {ctx : SouthboundContext}
    (client : ctx.client = true) :
    (southboundConnect answers ctx).1.client = true ∧
      ((southboundConnect answers ctx).2 = true ↔
        answers.connectUsername = .good ∧ answers.getNamespaceIndex = .good) := by
  rw [southboundConnect, client]
  by_cases username : answers.connectUsername = .good
  · by_cases namespaceIndex : answers.getNamespaceIndex = .good
    · simp [username, namespaceIndex]
    · simp [username, namespaceIndex, client]
  · simp [username, client]

/-- With a client, a poll reports success whatever was read. -/
theorem southboundPollOnce_of_client {ctx : SouthboundContext} (client : ctx.client = true)
    (reads : Nat → PointRead) (cache : Cache) :
    southboundPollOnce ctx reads cache = (pollPoints reads gatewayPoints 0 cache, true) := by
  rw [southboundPollOnce, client]
  rfl

/-- The client of a cycle, after the first block of the loop. -/
theorem initialised_client {state : LoopState} (consistent : state.Consistent)
    (answers : CycleAnswers) :
    ∃ ctx ok, (if state.initialized then (state.ctx, true) else southboundInit answers.init) =
        (ctx, ok) ∧ (ok = true → ctx.client = true) ∧
      (ok = true ↔ state.initialized = true ∨ (southboundInit answers.init).2 = true) := by
  cases initialized : state.initialized with
  | true => exact ⟨_, _, rfl, fun _ => consistent.client initialized, by simp⟩
  | false =>
      exact ⟨(southboundInit answers.init).1, (southboundInit answers.init).2, rfl,
        southboundInit_client, by simp⟩

/-- The client after the second block. -/
theorem connected_client {ctx : SouthboundContext} (client : ctx.client = true)
    (connected : Bool) (answers : ConnectAnswers) :
    ∃ after ok, (if connected then (ctx, true) else southboundConnect answers ctx) =
        (after, ok) ∧ after.client = true ∧
      (ok = true ↔ connected = true ∨
        answers.connectUsername = .good ∧ answers.getNamespaceIndex = .good) := by
  cases connected with
  | true => exact ⟨_, _, rfl, client, by simp⟩
  | false =>
      obtain ⟨stays, connects⟩ := southboundConnect_of_client answers client
      exact ⟨(southboundConnect answers ctx).1, (southboundConnect answers ctx).2, rfl, stays,
        connects.trans (by simp)⟩

/-- What a cycle leaves: when it comes to poll, the poll reports success and the loop is
connected; otherwise it did not poll and is not connected. -/
structure CycleOutcome (state : LoopState) (answers : CycleAnswers)
    (after : LoopState × CycleReport) : Prop where
  consistent : after.1.Consistent
  polled : state.ComesToPoll answers →
    after.2.pollResult = some true ∧ after.1.connected = true
  notPolled : ¬ state.ComesToPoll answers →
    after.2.pollResult = none ∧ after.1.connected = false

theorem mainLoopCycle_outcome (healthIntervalSeconds : Int) {state : LoopState}
    (consistent : state.Consistent) (answers : CycleAnswers) :
    CycleOutcome state answers (mainLoopCycle healthIntervalSeconds state answers) := by
  obtain ⟨ctx, ready, init, client, initialises⟩ := initialised_client consistent answers
  rw [mainLoopCycle, init]
  cases ready with
  | false =>
      have notInitialised : ¬ state.initialized = true := fun initialized =>
        absurd (initialises.mpr (.inl initialized)) nofun
      have notConnected : state.connected = false := by
        rw [← Bool.not_eq_true]
        exact fun connected => notInitialised (consistent.initialized connected)
      refine ⟨⟨fun initialized => absurd initialized notInitialised, consistent.initialized⟩,
        fun comes => absurd (initialises.mpr comes.1) nofun, fun _ => ⟨rfl, notConnected⟩⟩
  | true =>
      obtain ⟨connectedCtx, connects, connect, stays, isConnected⟩ :=
        connected_client (client rfl) state.connected answers.connect
      simp only [connect, Bool.not_true, Bool.false_eq_true, if_false]
      cases connects with
      | false =>
          have notConnected : state.connected = false := by
            rw [← Bool.not_eq_true]
            exact fun connected => absurd (isConnected.mpr (.inl connected)) nofun
          refine ⟨⟨nofun, fun connected => ?_⟩, fun comes => absurd (isConnected.mpr comes.2) nofun,
            fun _ => ⟨rfl, notConnected⟩⟩
          exact absurd (notConnected.symm.trans connected) nofun
      | true =>
          simp only [southboundPollOnce_of_client stays]
          refine ⟨⟨fun _ => stays, fun _ => rfl⟩, fun _ => ⟨rfl, rfl⟩, fun stops => ?_⟩
          exact absurd ⟨initialises.mp rfl, isConnected.mp rfl⟩ stops

/-! ## Dead sessions -/

/-- The law of one cycle: a poll in which no point is read reports failure, the loop leaves
the connected state, and whatever comes next, the next cycle initialises the client and
connects it before it polls; and the loop ends the cycle connected only if it read some
point in it. -/
structure NoticesDeadSession (healthIntervalSeconds : Int) (state : LoopState)
    (answers : CycleAnswers) (next : LoopState) : Prop where
  reported : state.ComesToPoll answers → ¬ answers.ReadsSome →
    (mainLoopCycle healthIntervalSeconds state answers).2.pollResult = some false
  left : state.ComesToPoll answers → ¬ answers.ReadsSome → next.connected = false
  restarts : state.ComesToPoll answers → ¬ answers.ReadsSome → ∀ later,
    (mainLoopCycle healthIntervalSeconds next later).2.initCalled = true ∧
      ((mainLoopCycle healthIntervalSeconds next later).2.pollResult.isSome →
        (mainLoopCycle healthIntervalSeconds next later).2.connectCalled = true)
  connected : next.connected = true → state.ComesToPoll answers ∧ answers.ReadsSome

/-- The law holds of a cycle exactly when a poll, if there is one, reads some point. -/
theorem noticesDeadSession_iff (healthIntervalSeconds : Int) {state : LoopState}
    (consistent : state.Consistent) (answers : CycleAnswers) :
    NoticesDeadSession healthIntervalSeconds state answers
        (mainLoopCycle healthIntervalSeconds state answers).1 ↔
      (state.ComesToPoll answers → answers.ReadsSome) := by
  have outcome := mainLoopCycle_outcome healthIntervalSeconds consistent answers
  constructor
  · intro notices comes
    exact (notices.connected (outcome.polled comes).2).2
  · intro reads
    refine ⟨fun comes dead => absurd (reads comes) dead,
      fun comes dead => absurd (reads comes) dead,
      fun comes dead => absurd (reads comes) dead, fun connected => ?_⟩
    by_cases comes : state.ComesToPoll answers
    · exact ⟨comes, reads comes⟩
    · exact absurd ((outcome.notPolled comes).2.symm.trans connected) nofun

/-- Along a run the law holds of every cycle exactly when every poll of the run reads some
point. -/
theorem dead_session_noticed_iff (healthIntervalSeconds : Int) (cycles : List CycleAnswers) :
    Transition.EveryStep (mainLoopStep healthIntervalSeconds)
        (NoticesDeadSession healthIntervalSeconds) .initial cycles ↔
      Transition.EveryStep (mainLoopStep healthIntervalSeconds)
        (fun state answers _ => state.ComesToPoll answers → answers.ReadsSome) .initial
        cycles := by
  refine Transition.EveryStep.congr LoopState.Consistent ?_ ?_ cycles LoopState.consistent_initial
  · intro state answers next consistent stepped
    cases stepped
    exact (mainLoopCycle_outcome healthIntervalSeconds consistent answers).consistent
  · intro state answers next consistent stepped
    cases stepped
    exact noticesDeadSession_iff healthIntervalSeconds consistent answers

/-! The OT server answers once; then every read fails with
`UA_STATUSCODE_BADCONNECTIONCLOSED`. -/

def goodInit : InitAnswers := ⟨true, true, true, true, true, true, .good⟩

def aliveCycle : CycleAnswers where
  init := goodInit
  connect := ⟨.good, .good, 2⟩
  reads := fun _ => ⟨.good, .bool true, 10⟩
  now := 10
  heartbeatSentAt := 10

def deadCycle : CycleAnswers :=
  { aliveCycle with
    reads := fun _ => ⟨0x80AE0000, .other, 11⟩
    now := 310 }

/-- After the second cycle the loop is still connected, and it says so in a heartbeat,
though no point was read. -/
theorem dead_session_reported_connected :
    ¬ Transition.EveryStep (mainLoopStep 300) (NoticesDeadSession 300) .initial
        [aliveCycle, deadCycle] ∧
      ((Transition.run (mainLoopStep 300) .initial [aliveCycle]).map fun state =>
        (mainLoopCycle 300 state deadCycle).2) =
          some ⟨false, false, some true, some ⟨true, true⟩⟩ := by
  refine ⟨fun every => ?_, by decide +kernel⟩
  have second := ((every _ rfl).2 _ rfl).1
  obtain ⟨idx, _, read⟩ := (second.connected (by decide +kernel)).2
  have closed : (0x80AE0000 : StatusCode) ≠ .good := by decide
  exact closed read

end OpcuaGds.Gateway
