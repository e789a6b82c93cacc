import OpcuaGds.Gateway.Southbound

/-! # The clients of the main loop

The calls of the main loop to the OPC UA library, with the clients that the library has made. A
call on a client that is not in the right phase is a fault: a use after the deletion, a second
deletion, a read without a connection. The library itself is more lenient.
-/

namespace OpcuaGds.Gateway

/-! ## Clients -/

inductive ClientPhase where
  | absent
  | allocated
  | configured
  | connected
  | deleted
  deriving DecidableEq, Repr

/-- All clients that were ever made, by number. -/
structure ClientTable where
  fresh : Nat
  phase : Nat → ClientPhase

namespace ClientTable

def empty : ClientTable := ⟨0, fun _ => .absent⟩

def setPhase (table : ClientTable) (client : Nat) (phase : ClientPhase) : ClientTable :=
  { table with phase := Function.update table.phase client phase }

/-- A call that needs one phase and leads to another. -/
def call (table : ClientTable) (client : Nat) (needs leads : ClientPhase) : Option ClientTable :=
  if table.phase client = needs then some (table.setPhase client leads) else none

/-- `UA_Client_new`. -/
def new (table : ClientTable) : ClientTable :=
  { table.setPhase table.fresh .allocated with fresh := table.fresh + 1 }

/-- `UA_ClientConfig_setDefaultEncryption`. -/
def setDefaultEncryption (table : ClientTable) (client : Nat) (status : StatusCode) :
    Option ClientTable :=
  table.call client .allocated (if status = .good then .configured else .allocated)

/-- `UA_Client_connectUsername`. -/
def connectUsername (table : ClientTable) (client : Nat) (status : StatusCode) :
    Option ClientTable :=
  table.call client .configured (if status = .good then .connected else .configured)

/-- `UA_Client_getNamespaceIndex` and `UA_Client_readValueAttribute`. -/
def read (table : ClientTable) (client : Nat) : Option ClientTable :=
  table.call client .connected .connected

/-- `UA_Client_disconnect`. -/
def disconnect (table : ClientTable) (client : Nat) : Option ClientTable :=
  table.call client .connected .configured

/-- `UA_Client_delete`. -/
def delete (table : ClientTable) (client : Nat) : Option ClientTable :=
  table.call client .configured .deleted

end ClientTable

/-! ## The loop -/

/-- The variables of the loop; the client is given by its number. -/
structure HandleLoop where
  client : Option Nat
  initialized : Bool
  connected : Bool
  table : ClientTable

namespace HandleLoop

def initial : HandleLoop := ⟨none, false, false, .empty⟩

/-- `southbound_init`: with whether it returns 1. -/
def southboundInit (loop : HandleLoop) (answers : InitAnswers) : Option (HandleLoop × Bool) :=
  if !answers.clientNew then some ({ loop with client := none }, false)
  else
    let client := loop.table.fresh
    let loop := { loop with client := some client, table := loop.table.new }
    if !answers.certificate || !answers.privateKey then some (loop, false)
    else if !answers.trustOt || !answers.trustIntermediate || !answers.trustRoot then
      some (loop, false)
    else do
      let table ← loop.table.setDefaultEncryption client answers.encryption
      return ({ loop with table := table }, answers.encryption = .good)

/-- `southbound_connect`. -/
def southboundConnect (loop : HandleLoop) (answers : ConnectAnswers) :
    Option (HandleLoop × Bool) :=
  match loop.client with
  | none => some (loop, false)
  | some client => do
      let table ← loop.table.connectUsername client answers.connectUsername
      if answers.connectUsername ≠ .good then return ({ loop with table := table }, false)
      let table ← table.read client
      if answers.getNamespaceIndex ≠ .good then
        let table ← table.disconnect client
        return ({ loop with table := table }, false)
      return ({ loop with table := table }, true)

/-- `southbound_poll_once`. -/
def southboundPollOnce (loop : HandleLoop) : Option (HandleLoop × Bool) :=
  match loop.client with
  | none => some (loop, false)
  | some client => do
      let table ← gatewayPoints.foldlM (fun table _ => table.read client) loop.table
      return ({ loop with table := table }, true)

/-- `southbound_disconnect`. -/
def southboundDisconnect (loop : HandleLoop) : Option HandleLoop :=
  match loop.client with
  | none => some loop
  | some client => (loop.table.disconnect client).map fun table => { loop with table := table }

/-- `southbound_clear`. -/
def southboundClear (loop : HandleLoop) : Option HandleLoop :=
  match loop.client with
  | none => some loop
  | some client =>
      (loop.table.delete client).map fun table => { loop with client := none, table := table }

def initIfNeeded (loop : HandleLoop) (answers : InitAnswers) : Option (HandleLoop × Bool) :=
  if loop.initialized then some (loop, true) else loop.southboundInit answers

def connectIfNeeded (loop : HandleLoop) (answers : ConnectAnswers) :
    Option (HandleLoop × Bool) :=
  if loop.connected then some (loop, true) else loop.southboundConnect answers

/-- What a cycle does once the client is initialised. -/
def connectAndPoll (loop : HandleLoop) (answers : ConnectAnswers) : Option HandleLoop := do
  let (loop, isConnected) ← loop.connectIfNeeded answers
  if !isConnected then
    let loop ← loop.southboundClear
    return { loop with initialized := false }
  let loop := { loop with connected := true }
  let (loop, polled) ← loop.southboundPollOnce
  if !polled then
    let loop ← loop.southboundDisconnect
    let loop ← loop.southboundClear
    return { loop with initialized := false, connected := false }
  return loop

/-- One cycle of `while(running)`. -/
def cycle (loop : HandleLoop) (answers : CycleAnswers) : Option HandleLoop := do
  let (loop, ready) ← loop.initIfNeeded answers.init
  if !ready then return loop
  { loop with initialized := true }.connectAndPoll answers.connect

/-- What follows the loop. -/
def shutdown (loop : HandleLoop) : Option HandleLoop := do
  let loop ← if loop.connected then loop.southboundDisconnect else some loop
  if loop.initialized then loop.southboundClear else some loop

/-- The cycle makes a client and fails to initialise it. -/
def losesClient (loop : HandleLoop) (answers : CycleAnswers) : Bool :=
  !loop.initialized && answers.init.clientNew && !(Gateway.southboundInit answers.init).2

/-- The clients that a run makes and fails to initialise. -/
def lostClients : HandleLoop → List CycleAnswers → List Nat
  | _, [] => []
  | loop, answers :: rest =>
      (if loop.losesClient answers then [loop.table.fresh] else []) ++
        match loop.cycle answers with
        | none => []
        | some next => next.lostClients rest

end HandleLoop

/-! ## Phases -/

namespace ClientTable

variable {table : ClientTable} {client : Nat} {phase : ClientPhase}

@[simp] theorem setPhase_fresh : (table.setPhase client phase).fresh = table.fresh := rfl

@[simp] theorem setPhase_phase (other : Nat) :
    (table.setPhase client phase).phase other =
      if other = client then phase else table.phase other := by
  by_cases same : other = client
  · simp [setPhase, same]
  · simp [setPhase, same]

@[simp] theorem new_fresh : table.new.fresh = table.fresh + 1 := rfl

@[simp] theorem new_phase (other : Nat) :
    table.new.phase other = if other = table.fresh then .allocated else table.phase other :=
  setPhase_phase other

theorem call_of_phase {needs leads : ClientPhase} (holds : table.phase client = needs) :
    table.call client needs leads = some (table.setPhase client leads) := if_pos holds

/-- A phase that stays the same is no change. -/
theorem setPhase_self (holds : table.phase client = phase) :
    table.setPhase client phase = table := by
  rw [setPhase, ← holds, Function.update_eq_self]

theorem read_of_connected (connected : table.phase client = .connected) :
    table.read client = some table := by
  rw [read, call_of_phase connected, setPhase_self connected]

end ClientTable

namespace HandleLoop

/-- The phase that a client has: that of the current client if it is initialised, and otherwise
whether its initialisation failed. -/
def expectedPhase (lost : List Nat) (loop : HandleLoop) (client : Nat) : ClientPhase :=
  if loop.initialized ∧ loop.client = some client then
    if loop.connected then .connected else .configured
  else if client ∈ lost then .allocated
  else if client < loop.table.fresh then .deleted
  else .absent

/-- What every cycle keeps. -/
structure Sound (lost : List Nat) (loop : HandleLoop) : Prop where
  phases : ∀ client, loop.table.phase client = loop.expectedPhase lost client
  initialized : loop.connected = true → loop.initialized = true
  current : loop.initialized = true →
    ∃ client, loop.client = some client ∧ client ∉ lost ∧ client < loop.table.fresh
  lostMade : ∀ client ∈ lost, client < loop.table.fresh

theorem sound_initial : initial.Sound [] where
  phases := by simp [initial, ClientTable.empty, expectedPhase]
  initialized := by simp [initial]
  current := by simp [initial]
  lostMade := by simp

variable {lost : List Nat} {loop : HandleLoop}

/-- The current client is deleted. -/
theorem Sound.clear (sound : ({ loop with connected := false } : HandleLoop).Sound lost)
    (initialized : loop.initialized = true) :
    ∃ table, loop.southboundClear = some { loop with client := none, table := table } ∧
      (⟨none, false, false, table⟩ : HandleLoop).Sound lost := by
  obtain ⟨client, isClient, kept, made⟩ := sound.current initialized
  simp only at isClient made
  have phase : loop.table.phase client = .configured := by
    have found := sound.phases client
    simpa [expectedPhase, initialized, isClient] using found
  refine ⟨loop.table.setPhase client .deleted, ?_, fun other => ?_, by simp, by simp,
    sound.lostMade⟩
  · rw [southboundClear, isClient]
    simp only [ClientTable.delete, ClientTable.call_of_phase phase, Option.map_some]
  · have before := sound.phases other
    by_cases same : other = client
    · subst same
      simp [expectedPhase, kept, made]
    · have notCurrent : loop.client ≠ some other := by
        intro isOther
        exact same (Option.some.inj (isOther.symm.trans isClient))
      simp only [expectedPhase, notCurrent, and_false, if_false] at before
      rw [ClientTable.setPhase_phase, if_neg same, before]
      simp [expectedPhase]
      rfl

/-- The current client is disconnected. -/
theorem Sound.disconnect (sound : loop.Sound lost) (connected : loop.connected = true) :
    ∃ table, loop.southboundDisconnect = some { loop with table := table } ∧
      ({ loop with connected := false, table := table } : HandleLoop).Sound lost := by
  have initialized := sound.initialized connected
  obtain ⟨client, isClient, kept, made⟩ := sound.current initialized
  have phase : loop.table.phase client = .connected := by
    have found := sound.phases client
    simpa [expectedPhase, initialized, isClient, connected] using found
  refine ⟨loop.table.setPhase client .configured, ?_, fun other => ?_, by simp, sound.current,
    sound.lostMade⟩
  · rw [southboundDisconnect, isClient]
    simp only [ClientTable.disconnect, ClientTable.call_of_phase phase, Option.map_some]
  · have before := sound.phases other
    by_cases same : other = client
    · subst same
      simp [expectedPhase, initialized, isClient]
    · have notCurrent : loop.client ≠ some other := by
        intro isOther
        exact same (Option.some.inj (isOther.symm.trans isClient))
      simp only [expectedPhase, notCurrent, and_false, if_false] at before
      rw [ClientTable.setPhase_phase, if_neg same, before]
      simp [expectedPhase, notCurrent]
      rfl

/-- A client that is made and not initialised is lost. -/
theorem Sound.made (sound : loop.Sound lost) (fresh : loop.initialized = false) :
    ({ loop with client := some loop.table.fresh, table := loop.table.new } : HandleLoop).Sound
      (lost ++ [loop.table.fresh]) := by
  refine ⟨fun other => ?_, sound.initialized, ?_, fun other member => ?_⟩
  · have before := sound.phases other
    simp only [expectedPhase, fresh, Bool.false_eq_true, false_and, if_false] at before
    simp only [expectedPhase, fresh, Bool.false_eq_true, false_and, if_false,
      ClientTable.new_phase, ClientTable.new_fresh, List.mem_append, List.mem_singleton, before]
    by_cases same : other = loop.table.fresh
    · simp [same]
    · by_cases isLost : other ∈ lost
      · simp [same, isLost]
      · have order : other < loop.table.fresh + 1 ↔ other < loop.table.fresh := by omega
        simp [same, isLost, order]
  · simp [fresh]
  · simp only [ClientTable.new_fresh]
    rcases List.mem_append.mp member with earlier | here
    · exact Nat.lt_succ_of_lt (sound.lostMade other earlier)
    · cases List.mem_singleton.mp here
      exact Nat.lt_succ_self _

/-- A client that is made and configured is the initialised one. -/
theorem Sound.configured (sound : loop.Sound lost) (fresh : loop.initialized = false) :
    ({ loop with
        client := some loop.table.fresh
        initialized := true
        table := loop.table.new.setPhase loop.table.fresh .configured } : HandleLoop).Sound
      lost := by
  have closed : loop.connected = false := by
    rw [← Bool.not_eq_true]
    intro connected
    rw [sound.initialized connected] at fresh
    cases fresh
  have notLost : loop.table.fresh ∉ lost := fun member =>
    Nat.lt_irrefl _ (sound.lostMade _ member)
  refine ⟨fun other => ?_, fun _ => rfl, fun _ => ⟨_, rfl, notLost, Nat.lt_succ_self _⟩,
    fun other member => Nat.lt_succ_of_lt (sound.lostMade other member)⟩
  have before := sound.phases other
  simp only [expectedPhase, fresh, Bool.false_eq_true, false_and, if_false] at before
  by_cases same : other = loop.table.fresh
  · simp [expectedPhase, same, closed]
  · have order : other < loop.table.fresh + 1 ↔ other < loop.table.fresh := by omega
    have notCurrent : ¬loop.table.fresh = other := fun here => same here.symm
    simp [expectedPhase, same, notCurrent, before, order]

/-- Without a client, nothing is current. -/
theorem Sound.noClient (sound : loop.Sound lost) (fresh : loop.initialized = false) :
    ({ loop with client := none } : HandleLoop).Sound lost := by
  refine ⟨fun other => ?_, sound.initialized, by simp [fresh], sound.lostMade⟩
  have before := sound.phases other
  simpa [expectedPhase, fresh] using before

/-- What an initialisation leaves. -/
theorem southboundInit_eq (answers : InitAnswers) :
    loop.southboundInit answers = some
      (if answers.clientNew then
        if (Gateway.southboundInit answers).2 then
          ({ loop with
              client := some loop.table.fresh
              table := loop.table.new.setPhase loop.table.fresh .configured }, true)
        else ({ loop with client := some loop.table.fresh, table := loop.table.new }, false)
      else ({ loop with client := none }, false)) := by
  have made : loop.table.new.phase loop.table.fresh = .allocated := by simp
  rw [southboundInit, Gateway.southboundInit]
  cases isNew : answers.clientNew with
  | false => simp
  | true =>
      by_cases own : (!answers.certificate || !answers.privateKey) = true
      · simp [own]
      · by_cases trust :
            (!answers.trustOt || !answers.trustIntermediate || !answers.trustRoot) = true
        · simp [own, trust]
        · by_cases good : answers.encryption = .good
          · simp [own, trust, good, ClientTable.setDefaultEncryption,
              ClientTable.call_of_phase made]
          · simp [own, trust, good, ClientTable.setDefaultEncryption,
              ClientTable.call_of_phase made, ClientTable.setPhase_self made]

/-- An initialisation leaves an initialised client, or a lost one if it made one. -/
theorem Sound.init (sound : loop.Sound lost) (fresh : loop.initialized = false)
    (answers : CycleAnswers) :
    ∃ next ready, loop.southboundInit answers.init = some (next, ready) ∧
      next.connected = loop.connected ∧
      (ready = true → loop.losesClient answers = false ∧
        ({ next with initialized := true } : HandleLoop).Sound lost) ∧
      (ready = false →
        next.Sound (lost ++ if loop.losesClient answers then [loop.table.fresh] else [])) := by
  rw [southboundInit_eq]
  cases isNew : answers.init.clientNew with
  | false =>
      refine ⟨_, _, rfl, rfl, by simp, fun _ => ?_⟩
      simpa [losesClient, isNew] using sound.noClient fresh
  | true =>
      cases done : (Gateway.southboundInit answers.init).2 with
      | true =>
          refine ⟨_, _, rfl, rfl, fun _ => ⟨by simp [losesClient, done], ?_⟩, by simp⟩
          exact sound.configured fresh
      | false =>
          refine ⟨_, _, rfl, rfl, by simp, fun _ => ?_⟩
          simpa [losesClient, isNew, done, fresh] using sound.made fresh

/-- What a connection attempt leaves. -/
theorem southboundConnect_eq {client : Nat} (isClient : loop.client = some client)
    (phase : loop.table.phase client = .configured) (answers : ConnectAnswers) :
    loop.southboundConnect answers = some
      (if answers.connectUsername = .good ∧ answers.getNamespaceIndex = .good then
        ({ loop with table := loop.table.setPhase client .connected }, true)
      else (loop, false)) := by
  have same : ({ loop with client := some client } : HandleLoop) = loop := by
    rw [← isClient]
  rw [southboundConnect, isClient]
  by_cases username : answers.connectUsername = .good
  · have opened : (loop.table.setPhase client .connected).phase client = .connected := by simp
    have closed : (loop.table.setPhase client .connected).setPhase client .configured =
        loop.table := by
      simp [ClientTable.setPhase, ← phase]
    by_cases namespaceIndex : answers.getNamespaceIndex = .good
    · simp [username, namespaceIndex, ClientTable.connectUsername,
        ClientTable.call_of_phase phase, ClientTable.read_of_connected opened]
    · simp [username, namespaceIndex, ClientTable.connectUsername,
        ClientTable.call_of_phase phase, ClientTable.read_of_connected opened,
        ClientTable.disconnect, ClientTable.call_of_phase opened, closed, same]
  · simp [username, ClientTable.connectUsername, ClientTable.call_of_phase phase,
      ClientTable.setPhase_self phase, same]

theorem southboundPollOnce_eq {client : Nat} (isClient : loop.client = some client)
    (phase : loop.table.phase client = .connected) :
    loop.southboundPollOnce = some (loop, true) := by
  have reads (points : List GatewayPoint) :
      points.foldlM (fun table _ => table.read client) loop.table = some loop.table := by
    induction points with
    | nil => rfl
    | cons point rest ih =>
        rw [List.foldlM_cons, ClientTable.read_of_connected phase]
        exact ih
  have same : ({ loop with client := some client } : HandleLoop) = loop := by
    rw [← isClient]
  rw [southboundPollOnce, isClient]
  simp only [reads]
  exact congrArg (fun next => some (next, true)) same

theorem Sound.connect (sound : loop.Sound lost) (initialized : loop.initialized = true)
    (closed : loop.connected = false) (answers : ConnectAnswers) :
    ∃ next ready, loop.southboundConnect answers = some (next, ready) ∧
      next.initialized = true ∧ next.connected = false ∧
      (ready = true → ({ next with connected := true } : HandleLoop).Sound lost) ∧
      (ready = false → ({ next with connected := false } : HandleLoop).Sound lost) := by
  obtain ⟨client, isClient, kept, made⟩ := sound.current initialized
  have phase : loop.table.phase client = .configured := by
    rw [sound.phases, expectedPhase, if_pos ⟨initialized, isClient⟩, closed]
    rfl
  rw [southboundConnect_eq isClient phase]
  by_cases answered : answers.connectUsername = .good ∧ answers.getNamespaceIndex = .good
  · rw [if_pos answered]
    refine ⟨_, _, rfl, initialized, closed,
      fun _ => ⟨fun other => ?_, fun _ => initialized, ?_, ?_⟩, by simp⟩
    · have before := sound.phases other
      by_cases same : other = client
      · simp [expectedPhase, same, initialized, isClient]
      · have notCurrent : ¬client = other := fun here => same here.symm
        simp only [expectedPhase, initialized, isClient, Option.some.injEq, notCurrent,
          and_false, if_false] at before
        rw [ClientTable.setPhase_phase, if_neg same, before]
        simp only [expectedPhase, initialized, isClient, Option.some.injEq, notCurrent,
          and_false, if_false]
        rfl
    · exact sound.current
    · exact sound.lostMade
  · rw [if_neg answered]
    refine ⟨_, _, rfl, initialized, closed, by simp, fun _ => ?_⟩
    rw [← closed]
    exact sound

/-- A poll leaves a connected loop as it is. -/
theorem Sound.poll (sound : loop.Sound lost) (connected : loop.connected = true) :
    loop.southboundPollOnce = some (loop, true) := by
  have initialized := sound.initialized connected
  obtain ⟨client, isClient, kept, made⟩ := sound.current initialized
  apply southboundPollOnce_eq isClient
  rw [sound.phases, expectedPhase, if_pos ⟨initialized, isClient⟩, connected]
  rfl

theorem Sound.connectAndPoll (sound : loop.Sound lost) (initialized : loop.initialized = true)
    (answers : ConnectAnswers) :
    ∃ next, loop.connectAndPoll answers = some next ∧ next.Sound lost := by
  cases connected : loop.connected with
  | true =>
      refine ⟨loop, ?_, sound⟩
      have same : ({ loop with connected := true } : HandleLoop) = loop := by
        rw [← connected]
      simp [HandleLoop.connectAndPoll, connectIfNeeded, connected, same, sound.poll connected]
  | false =>
      obtain ⟨next, ready, attempt, stays, shut, opened, refused⟩ :=
        sound.connect initialized connected answers
      cases ready with
      | true =>
          refine ⟨{ next with connected := true }, ?_, opened rfl⟩
          simp [HandleLoop.connectAndPoll, connectIfNeeded, connected, attempt,
            (opened rfl).poll rfl]
      | false =>
          obtain ⟨table, cleared, left⟩ := (refused rfl).clear stays
          refine ⟨_, ?_, left⟩
          simp [HandleLoop.connectAndPoll, connectIfNeeded, connected, attempt, cleared, shut]

/-- A cycle is without fault and keeps the phases. -/
theorem Sound.cycle (sound : loop.Sound lost) (answers : CycleAnswers) :
    ∃ next, loop.cycle answers = some next ∧
      next.Sound (lost ++ if loop.losesClient answers then [loop.table.fresh] else []) := by
  cases initialized : loop.initialized with
  | true =>
      obtain ⟨next, done, left⟩ := sound.connectAndPoll initialized answers.connect
      refine ⟨next, ?_, by simpa [losesClient, initialized] using left⟩
      have same : ({ loop with initialized := true } : HandleLoop) = loop := by
        rw [← initialized]
      simp [HandleLoop.cycle, initIfNeeded, initialized, same, done]
  | false =>
      obtain ⟨next, ready, attempt, stays, made, refused⟩ := sound.init initialized answers
      cases ready with
      | false =>
          refine ⟨next, ?_, refused rfl⟩
          simp [HandleLoop.cycle, initIfNeeded, initialized, attempt]
      | true =>
          obtain ⟨keeps, kept⟩ := made rfl
          obtain ⟨last, done, left⟩ := kept.connectAndPoll rfl answers.connect
          refine ⟨last, ?_, by simpa [keeps] using left⟩
          simp [HandleLoop.cycle, initIfNeeded, initialized, attempt, done]

/-- A run is without fault and keeps the phases. -/
theorem Sound.run (cycles : List CycleAnswers) :
    ∀ {lost : List Nat} {loop : HandleLoop}, loop.Sound lost →
      ∃ final, Transition.run HandleLoop.cycle loop cycles = some final ∧
        final.Sound (lost ++ loop.lostClients cycles) := by
  induction cycles with
  | nil =>
      intro lost loop sound
      exact ⟨loop, rfl, by simpa [lostClients] using sound⟩
  | cons answers rest ih =>
      intro lost loop sound
      obtain ⟨next, done, kept⟩ := sound.cycle answers
      obtain ⟨final, run, left⟩ := ih kept
      refine ⟨final, ?_, ?_⟩
      · rw [Transition.run_cons, done]
        exact run
      · rw [lostClients, done, ← List.append_assoc]
        exact left

/-- What follows the loop leaves no client but the lost ones. -/
theorem Sound.shutdown (sound : loop.Sound lost) :
    ∃ stopped, loop.shutdown = some stopped ∧
      (⟨none, false, false, stopped.table⟩ : HandleLoop).Sound lost := by
  cases initialized : loop.initialized with
  | false =>
      have connected : loop.connected = false := by
        rw [← Bool.not_eq_true]
        intro connected
        simp [sound.initialized connected] at initialized
      refine ⟨loop, by simp [HandleLoop.shutdown, initialized, connected], ?_⟩
      simpa [initialized, connected] using sound.noClient initialized
  | true =>
      cases connected : loop.connected with
      | false =>
          have closed : ({ loop with connected := false } : HandleLoop).Sound lost := by
            rw [← connected]
            exact sound
          obtain ⟨table, cleared, left⟩ := closed.clear initialized
          refine ⟨{ loop with client := none, table := table }, ?_, left⟩
          simp [HandleLoop.shutdown, initialized, connected, cleared]
      | true =>
          obtain ⟨closedTable, disconnected, closed⟩ := sound.disconnect connected
          obtain ⟨table, cleared, left⟩ :=
            @Sound.clear lost { loop with table := closedTable } closed initialized
          refine ⟨{ loop with client := none, table := table }, ?_, left⟩
          simpa [HandleLoop.shutdown, initialized, connected, disconnected] using cleared

/-! ## The loop without the table -/

/-- The two models of the loop have the same flags. -/
structure Agrees (loop : HandleLoop) (state : LoopState) : Prop where
  client : state.ctx.client = loop.client.isSome
  initialized : state.initialized = loop.initialized
  connected : state.connected = loop.connected

theorem agrees_initial : initial.Agrees .initial := ⟨rfl, rfl, rfl⟩

theorem southboundInit_client_eq (answers : InitAnswers) :
    (Gateway.southboundInit answers).1.client = answers.clientNew := by
  rw [Gateway.southboundInit]
  split_ifs <;> simp_all

theorem southboundInit_agrees {answers : InitAnswers} {next : HandleLoop} {ready : Bool}
    (attempt : loop.southboundInit answers = some (next, ready)) :
    next.client.isSome = (Gateway.southboundInit answers).1.client ∧
      ready = (Gateway.southboundInit answers).2 ∧
      next.initialized = loop.initialized ∧ next.connected = loop.connected := by
  rw [southboundInit_eq, Option.some.injEq] at attempt
  rw [southboundInit_client_eq]
  cases isNew : answers.clientNew with
  | false =>
      simp only [isNew, Bool.false_eq_true, if_false, Prod.mk.injEq] at attempt
      obtain ⟨rfl, rfl⟩ := attempt
      simp [Gateway.southboundInit, isNew]
  | true =>
      simp only [isNew, if_true] at attempt
      split at attempt
      · obtain ⟨rfl, rfl⟩ := Prod.mk.inj attempt
        simp [*]
      · obtain ⟨rfl, rfl⟩ := Prod.mk.inj attempt
        simp [*]

theorem southboundConnect_agrees {answers : ConnectAnswers} {next : HandleLoop} {ready : Bool}
    (attempt : loop.southboundConnect answers = some (next, ready)) {ctx : SouthboundContext}
    (same : ctx.client = loop.client.isSome) :
    (∃ table, next = { loop with table := table }) ∧
      ready = (Gateway.southboundConnect answers ctx).2 ∧
      (Gateway.southboundConnect answers ctx).1.client = loop.client.isSome := by
  rw [southboundConnect] at attempt
  cases isClient : loop.client with
  | none =>
      simp only [isClient, Option.some.injEq, Prod.mk.injEq] at attempt
      obtain ⟨rfl, rfl⟩ := attempt
      refine ⟨⟨loop.table, by rw [← isClient]⟩, ?_⟩
      simp [Gateway.southboundConnect, same, isClient]
  | some client =>
      simp only [isClient] at attempt
      obtain ⟨opened, -, attempt⟩ := Option.bind_eq_some_iff.mp attempt
      by_cases username : answers.connectUsername = .good
      · simp only [username, ne_eq, not_true_eq_false, if_false] at attempt
        obtain ⟨read, -, attempt⟩ := Option.bind_eq_some_iff.mp attempt
        by_cases namespaceIndex : answers.getNamespaceIndex = .good
        · simp [namespaceIndex] at attempt
          obtain ⟨rfl, rfl⟩ := attempt
          refine ⟨⟨read, rfl⟩, ?_⟩
          simp [Gateway.southboundConnect, same, isClient, username, namespaceIndex]
        · simp only [namespaceIndex, not_false_eq_true, if_true] at attempt
          obtain ⟨closed, -, attempt⟩ := Option.bind_eq_some_iff.mp attempt
          obtain ⟨rfl, rfl⟩ := Prod.mk.inj (Option.some.inj attempt)
          refine ⟨⟨closed, rfl⟩, ?_⟩
          simp [Gateway.southboundConnect, same, isClient, username, namespaceIndex]
      · simp [username] at attempt
        obtain ⟨rfl, rfl⟩ := attempt
        refine ⟨⟨opened, rfl⟩, ?_⟩
        simp [Gateway.southboundConnect, same, isClient, username]

theorem southboundPollOnce_agrees {next : HandleLoop} {polled : Bool}
    (attempt : loop.southboundPollOnce = some (next, polled)) :
    (∃ table, next = { loop with table := table }) ∧ polled = loop.client.isSome := by
  rw [southboundPollOnce] at attempt
  cases isClient : loop.client with
  | none =>
      simp only [isClient, Option.some.injEq, Prod.mk.injEq] at attempt
      obtain ⟨rfl, rfl⟩ := attempt
      exact ⟨⟨loop.table, by rw [← isClient]⟩, rfl⟩
  | some client =>
      simp only [isClient] at attempt
      obtain ⟨read, -, attempt⟩ := Option.bind_eq_some_iff.mp attempt
      obtain ⟨rfl, rfl⟩ := Prod.mk.inj (Option.some.inj attempt)
      exact ⟨⟨read, rfl⟩, rfl⟩

theorem southboundClear_agrees {next : HandleLoop} (cleared : loop.southboundClear = some next) :
    ∃ table, next = { loop with client := none, table := table } := by
  rw [southboundClear] at cleared
  cases isClient : loop.client with
  | none =>
      simp only [isClient, Option.some.injEq] at cleared
      subst cleared
      exact ⟨loop.table, by rw [← isClient]⟩
  | some client =>
      simp only [isClient, Option.map_eq_some_iff] at cleared
      obtain ⟨table, -, rfl⟩ := cleared
      exact ⟨table, rfl⟩

theorem southboundDisconnect_agrees {next : HandleLoop}
    (closed : loop.southboundDisconnect = some next) :
    ∃ table, next = { loop with table := table } := by
  rw [southboundDisconnect] at closed
  cases isClient : loop.client with
  | none =>
      simp only [isClient, Option.some.injEq] at closed
      exact ⟨loop.table, by rw [← closed, ← isClient]⟩
  | some client =>
      simp only [isClient, Option.map_eq_some_iff] at closed
      obtain ⟨table, -, rfl⟩ := closed
      exact ⟨table, rfl⟩

variable {healthIntervalSeconds : Int} {state : LoopState} {answers : CycleAnswers}

theorem Agrees.connectAndPoll {ctx : SouthboundContext} (same : ctx.client = loop.client.isSome)
    (initialized : loop.initialized = true) {next : HandleLoop}
    (done : loop.connectAndPoll answers.connect = some next) :
    let connect := if loop.connected then (ctx, true)
      else Gateway.southboundConnect answers.connect ctx
    connect.1.client = loop.client.isSome ∧
      next.client.isSome = (connect.2 && loop.client.isSome) ∧
      next.initialized = (connect.2 && loop.client.isSome) ∧
      next.connected = (connect.2 && loop.client.isSome) := by
  obtain ⟨⟨opened, isConnected⟩, connect, done⟩ := Option.bind_eq_some_iff.mp done
  have attempt : (∃ table, opened = { loop with table := table }) ∧
      isConnected = (if loop.connected then (ctx, true)
        else Gateway.southboundConnect answers.connect ctx).2 ∧
      (if loop.connected then (ctx, true)
        else Gateway.southboundConnect answers.connect ctx).1.client = loop.client.isSome := by
    cases connected : loop.connected with
    | true =>
        simp only [connectIfNeeded, connected, if_true, Option.some.injEq, Prod.mk.injEq] at connect
        obtain ⟨rfl, rfl⟩ := connect
        exact ⟨⟨loop.table, by rw [← connected]⟩, rfl, same⟩
    | false =>
        simp only [connectIfNeeded, connected, Bool.false_eq_true, if_false] at connect
        simpa [connected] using southboundConnect_agrees connect same
  obtain ⟨⟨table, rfl⟩, isReady, hasClient⟩ := attempt
  refine ⟨hasClient, ?_⟩
  rw [← isReady]
  cases isConnected with
  | false =>
      obtain ⟨cleared, clear, done⟩ := Option.bind_eq_some_iff.mp done
      obtain ⟨left, rfl⟩ := southboundClear_agrees clear
      have closed : loop.connected = false := by
        rw [← Bool.not_eq_true]
        intro connected
        simp [connected] at isReady
      cases Option.some.inj done
      simp [closed]
  | true =>
      obtain ⟨⟨polled, ready⟩, poll, done⟩ := Option.bind_eq_some_iff.mp done
      obtain ⟨⟨read, rfl⟩, rfl⟩ := southboundPollOnce_agrees poll
      cases isClient : loop.client with
      | some client =>
          simp only [isClient, Option.isSome_some, Bool.not_true, Bool.false_eq_true,
            if_false] at done
          cases Option.some.inj done
          simp [initialized]
      | none =>
          simp only [isClient, Option.isSome_none, Bool.not_false, if_true] at done
          obtain ⟨closed, disconnect, done⟩ := Option.bind_eq_some_iff.mp done
          obtain ⟨cleared, clear, done⟩ := Option.bind_eq_some_iff.mp done
          obtain ⟨_, rfl⟩ := southboundDisconnect_agrees disconnect
          obtain ⟨_, rfl⟩ := southboundClear_agrees clear
          cases Option.some.inj done
          simp

/-- The clients are no part of what the loop does. -/
theorem Agrees.cycle (agrees : loop.Agrees state) {next : HandleLoop}
    (done : loop.cycle answers = some next) :
    next.Agrees (mainLoopCycle healthIntervalSeconds state answers).1 := by
  obtain ⟨⟨opened, ready⟩, init, done⟩ := Option.bind_eq_some_iff.mp done
  have attempt : opened.client.isSome =
        (if state.initialized then (state.ctx, true)
          else Gateway.southboundInit answers.init).1.client ∧
      ready = (if state.initialized then (state.ctx, true)
          else Gateway.southboundInit answers.init).2 ∧
      opened.initialized = loop.initialized ∧ opened.connected = loop.connected := by
    rw [agrees.initialized]
    cases initialized : loop.initialized with
    | true =>
        simp only [initIfNeeded, initialized, if_true, Option.some.injEq, Prod.mk.injEq] at init
        obtain ⟨rfl, rfl⟩ := init
        exact ⟨agrees.client.symm, rfl, initialized, rfl⟩
    | false =>
        simp only [initIfNeeded, initialized, Bool.false_eq_true, if_false] at init
        simpa [initialized] using southboundInit_agrees init
  obtain ⟨sameClient, isReady, sameInitialized, sameConnected⟩ := attempt
  rw [mainLoopCycle]
  cases ready with
  | false =>
      cases Option.some.inj done
      simp only [← isReady, Bool.not_false, if_true]
      exact ⟨sameClient.symm, agrees.initialized.trans sameInitialized.symm,
        agrees.connected.trans sameConnected.symm⟩
  | true =>
      obtain ⟨hasClient, client, initialized, connected⟩ :=
        @Agrees.connectAndPoll { opened with initialized := true } answers _
          sameClient.symm rfl next done
      simp only [sameConnected, ← agrees.connected] at hasClient client initialized connected
      simp only [← isReady, Bool.not_true, Bool.false_eq_true, if_false]
      have refused (isRefused : (if state.connected then
          ((if state.initialized then (state.ctx, true)
            else Gateway.southboundInit answers.init).1, true)
          else Gateway.southboundConnect answers.connect
            (if state.initialized then (state.ctx, true)
              else Gateway.southboundInit answers.init).1).2 = false) :
          state.connected = false := by
        rw [← Bool.not_eq_true]
        intro connected
        simp [connected] at isRefused
      generalize (if state.connected then _ else _ : SouthboundContext × Bool) = attempt at *
      obtain ⟨ctx, isConnected⟩ := attempt
      simp only at hasClient client initialized connected refused ⊢
      cases isConnected with
      | false =>
          simp only [Bool.false_and, Option.isSome_eq_false_iff] at client initialized connected
          refine ⟨?_, initialized.symm, (refused rfl).trans connected.symm⟩
          rw [Bool.not_false, if_pos rfl, Gateway.southboundClear,
            Option.isNone_iff_eq_none.mp client]
          cases isClient : ctx.client <;> simp [isClient]
      | true =>
          simp only [Bool.true_and, ← hasClient] at client initialized connected
          rw [Gateway.southboundPollOnce]
          cases isClient : ctx.client with
          | true =>
              rw [isClient] at client initialized connected
              exact ⟨isClient.trans client.symm, initialized.symm, connected.symm⟩
          | false =>
              rw [isClient] at client initialized connected
              refine ⟨?_, initialized.symm, connected.symm⟩
              simp [Gateway.southboundClear, isClient, client]

theorem Agrees.run (cycles : List CycleAnswers) :
    ∀ {loop : HandleLoop} {state : LoopState} {final : HandleLoop}, loop.Agrees state →
      Transition.run HandleLoop.cycle loop cycles = some final →
      ∃ last, Transition.run (mainLoopStep healthIntervalSeconds) state cycles = some last ∧
        final.Agrees last := by
  induction cycles with
  | nil =>
      intro loop state final agrees run
      cases Option.some.inj run
      exact ⟨state, rfl, agrees⟩
  | cons answers rest ih =>
      intro loop state final agrees run
      obtain ⟨next, done, run⟩ := Transition.run_cons_eq_some.mp run
      obtain ⟨last, followed, left⟩ := ih (agrees.cycle done) run
      refine ⟨last, ?_, left⟩
      rw [Transition.run_cons]
      exact followed

/-- Every run of the main loop and the shutdown after it are without fault: no client is used
after its deletion, deleted twice, or read without a connection. Every client is deleted at the
end, except those whose initialisation failed. -/
theorem clients_deleted (healthIntervalSeconds : Int) (cycles : List CycleAnswers) :
    ∃ final stopped last, Transition.run HandleLoop.cycle .initial cycles = some final ∧
      Transition.run (mainLoopStep healthIntervalSeconds) .initial cycles = some last ∧
      final.Agrees last ∧ final.shutdown = some stopped ∧
      ∀ client, stopped.table.phase client =
        if client ∈ initial.lostClients cycles then .allocated
        else if client < stopped.table.fresh then .deleted else .absent := by
  obtain ⟨final, run, sound⟩ := Sound.run cycles sound_initial
  obtain ⟨last, followed, agrees⟩ :=
    @Agrees.run healthIntervalSeconds cycles _ _ _ agrees_initial run
  obtain ⟨stopped, done, left⟩ := sound.shutdown
  refine ⟨final, stopped, last, run, followed, agrees, done, fun client => ?_⟩
  rw [left.phases, expectedPhase]
  simp

end HandleLoop

end OpcuaGds.Gateway
