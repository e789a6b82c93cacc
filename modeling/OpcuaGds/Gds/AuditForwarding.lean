import OpcuaGds.Foundation.Transition
import OpcuaGds.Gds.CollectorEvents

/-! # Forwarding audit events to the collector

`DmzCollectorSender`: one tick reads the audit rows after a cursor, adds health events, and
posts what fits. The cursor moves while the rows are read. When every row that the cursor
has passed has been in a payload that the collector took.
-/

namespace OpcuaGds.Gds.Collector

/-! ## The audit table -/

/-- The rows that committed transactions have made visible. -/
structure AuditTable where
  rows : List AuditRow
  keys : (rows.map AuditRow.id).Nodup

def AuditTable.empty : AuditTable := ⟨[], List.nodup_nil⟩

/-- A transaction becomes visible; its identifier was drawn from the sequence earlier, so
it may be smaller than that of a visible row. -/
def AuditTable.commit? (table : AuditTable) (row : AuditRow) : Option AuditTable :=
  if fresh : row.id ∉ table.rows.map AuditRow.id then
    some ⟨row :: table.rows, List.nodup_cons.mpr ⟨fresh, table.keys⟩⟩
  else none

def AuditRow.Upto (left right : AuditRow) : Prop := left.id ≤ right.id

instance : DecidableRel AuditRow.Upto := fun left right => Nat.decLe left.id right.id

/-- `list_audit_events_after_id`. -/
def listAuditEventsAfterId (table : AuditTable) (afterId limit : Nat) : List AuditRow :=
  ((table.rows.filter fun row => afterId < row.id).insertionSort AuditRow.Upto).take limit

/-! ## The sender -/

/-- An event with what it was made from. -/
inductive CollectorEvent where
  | audit (row : AuditRow) (fresh : String)
  | dbSnapshot (snapshot : Json) (fresh now : String)
  | heartbeat (health : Json) (fresh now : String)
  | dbHealth (health : Json) (fresh now : String)

def CollectorEvent.body (limits : EventLimits) : CollectorEvent → Json
  | .audit row fresh => normalizeAuditEvent limits fresh row
  | .dbSnapshot snapshot fresh now => normalizeDbSnapshotEvent limits fresh now snapshot
  | .heartbeat health fresh now => normalizeHeartbeatEvent limits fresh now health
  | .dbHealth health fresh now => normalizeDbHealthEvent limits fresh now health

structure SenderSettings where
  batchSize : Int
  limits : EventLimits
  maxPayloadBytes : Int
  pgDb : String
  pgHost : String

/-- The sender with the table it polls and the payloads that the collector accepted. -/
structure Forwarding where
  table : AuditTable
  lastAuditId : Nat
  accepted : List (List CollectorEvent)

/-- What one tick meets outside: the reading of the audit rows or the class of its
exception, the health report if it is due (`some none` if it raises), the database snapshot
if it is due, the content of the token file if it is readable, whether the collector takes
the payload, and the identifiers and the clock reading of the events. -/
structure TickInput where
  auditRead : Except String Unit
  health : Option (Option Json)
  snapshot : Option (Except String Json)
  tokenFile : Option String
  takes : Bool
  fresh : Nat → String
  now : String

/-- `read_bearer_token`. -/
def readBearerToken (tokenFile : Option String) : String :=
  (tokenFile.map PythonText.strip).getD ""

section Tick

variable (settings : SenderSettings)

/-- The rows that a tick reads. -/
def Forwarding.batch (state : Forwarding) : List AuditRow :=
  listAuditEventsAfterId state.table state.lastAuditId (max 1 settings.batchSize).toNat

/-- The event about a database that cannot be read. -/
def failureEvent (source : List (String × Json)) (errorClass : String) (fresh now : String) :
    CollectorEvent :=
  .dbSnapshot (.obj ([("ok", .bool false), ("checked_at", .str now),
    ("database", .str settings.pgDb), ("host", .str settings.pgHost),
    ("error_class", .str errorClass)] ++ source)) fresh now

/-- The events of the first part of `_tick`, and the cursor after it. -/
def Forwarding.poll (state : Forwarding) (input : TickInput) : List CollectorEvent × Nat :=
  match input.auditRead with
  | .ok _ =>
      let rows := state.batch settings
      (rows.mapIdx fun k row => .audit row (input.fresh k),
        rows.foldl (fun cursor row => max cursor row.id) state.lastAuditId)
  | .error errorClass =>
      ([failureEvent settings [("source", .str "audit_events_poll")] errorClass
        (input.fresh 0) input.now], state.lastAuditId)

/-- The heartbeat and the database health, when they are due; `none` if the health report
raises, which ends the tick. -/
def TickInput.healthEvents (input : TickInput) (drawn : Nat) : Option (List CollectorEvent) :=
  match input.health with
  | none => some []
  | some none => none
  | some (some health) => some [.heartbeat health (input.fresh drawn) input.now,
      .dbHealth health (input.fresh (drawn + 1)) input.now]

/-- The database snapshot, when it is due. -/
def TickInput.snapshotEvents (input : TickInput) (drawn : Nat) : List CollectorEvent :=
  match input.snapshot with
  | none => []
  | some (.ok snapshot) => [.dbSnapshot snapshot (input.fresh drawn) input.now]
  | some (.error errorClass) =>
      [failureEvent settings [] errorClass (input.fresh drawn) input.now]

/-- `_send`: the payload that the collector accepted, if it did. A failed post is logged. -/
def TickInput.send (input : TickInput) (events : List CollectorEvent) :
    Option (List CollectorEvent) :=
  if readBearerToken input.tokenFile = "" then none
  else if input.takes then
    some (payloadWithinLimit (CollectorEvent.body settings.limits) settings.maxPayloadBytes events)
  else none

/-- The payload that the collector accepted in a tick, if it did, given the events of the
first part. -/
def TickInput.forwarded (input : TickInput) (polled : List CollectorEvent) :
    Option (List CollectorEvent) :=
  (input.healthEvents polled.length).bind fun health =>
    let events := polled ++ health
    let events := events ++ input.snapshotEvents settings events.length
    if events.isEmpty then none else input.send settings events

/-- `_tick`; an exception ends it, and `_run` goes on with the next one. -/
def Forwarding.tick (state : Forwarding) (input : TickInput) : Forwarding :=
  let (polled, cursor) := state.poll settings input
  { state with
    lastAuditId := cursor
    accepted := state.accepted ++ (input.forwarded settings polled).toList }

inductive ForwardingEvent where
  | commit (row : AuditRow)
  | tick (input : TickInput)

def Forwarding.step (state : Forwarding) : ForwardingEvent → Option Forwarding
  | .commit row => (state.table.commit? row).map fun table => { state with table }
  | .tick input => some (state.tick settings input)

/-- `_initialize_last_audit_id` on a table that may be unreadable. -/
def Forwarding.start (table : AuditTable) (readable : Bool) : Forwarding where
  table
  lastAuditId := if readable then (table.rows.map AuditRow.id).foldr max 0 else 0
  accepted := []

end Tick

/-! ## What is lost -/

/-- Every visible row that the cursor has passed since it stood at `initial` was in a payload
that the collector accepted. -/
def Forwarding.NothingLost (initial : Nat) (state : Forwarding) : Prop :=
  ∀ row ∈ state.table.rows, initial < row.id → row.id ≤ state.lastAuditId →
    ∃ payload ∈ state.accepted, ∃ fresh, .audit row fresh ∈ payload

/-- No row becomes visible behind the cursor, and a tick that reads rows delivers them: the
token is there, no health report raises, the collector takes the payload, and the events of
the rows survive the trimming. -/
def Forwarding.Forwards (settings : SenderSettings) (initial : Nat) (state : Forwarding) :
    ForwardingEvent → Prop
  | .commit row => ¬(initial < row.id ∧ row.id ≤ state.lastAuditId)
  | .tick input =>
      input.auditRead = .ok () → state.batch settings ≠ [] →
        readBearerToken input.tokenFile ≠ "" ∧ input.health ≠ some none ∧ input.takes = true ∧
          (settings.maxPayloadBytes ≤ 0 ∨
            (payloadBytes (CollectorEvent.body settings.limits) (state.poll settings input).1 :
              Int) ≤ settings.maxPayloadBytes ∨
            (state.batch settings).length ≤ 1)

section Properties

variable {settings : SenderSettings} {state : Forwarding} {input : TickInput}

/-! ## Reading the rows -/

theorem mem_listAuditEventsAfterId {table : AuditTable} {afterId limit : Nat} {row : AuditRow}
    (member : row ∈ listAuditEventsAfterId table afterId limit) :
    row ∈ table.rows ∧ afterId < row.id := by
  have sorted := (List.mem_insertionSort _).mp (List.mem_of_mem_take member)
  simpa only [List.mem_filter, decide_eq_true_eq] using sorted

/-- The rows come in the order of their identifiers, no two with the same one. -/
theorem pairwise_sorted (table : AuditTable) (afterId : Nat) :
    ((table.rows.filter fun row => afterId < row.id).insertionSort AuditRow.Upto).Pairwise
      fun left right => left.id < right.id := by
  have total : Std.Total AuditRow.Upto := ⟨fun left right => Nat.le_total left.id right.id⟩
  have trans : IsTrans AuditRow AuditRow.Upto := ⟨fun _ _ _ => Nat.le_trans⟩
  have ordered := List.pairwise_insertionSort AuditRow.Upto
    (table.rows.filter fun row => afterId < row.id)
  have keys : (table.rows.filter fun row => afterId < row.id).Pairwise
      fun left right => left.id ≠ right.id :=
    (List.pairwise_map.mp table.keys).filter _
  have distinct := ((List.perm_insertionSort AuditRow.Upto _).pairwise_iff
    fun different => Ne.symm different).mpr keys
  exact (ordered.and distinct).imp fun both => Nat.lt_of_le_of_ne both.1 both.2

/-- A row after the cursor that the limit cuts off comes after all that are read. -/
theorem lt_of_notMem_list {table : AuditTable} {afterId limit : Nat} {row other : AuditRow}
    (present : row ∈ table.rows) (after : afterId < row.id)
    (cut : row ∉ listAuditEventsAfterId table afterId limit)
    (read : other ∈ listAuditEventsAfterId table afterId limit) : other.id < row.id := by
  have member : row ∈ (table.rows.filter fun row => afterId < row.id).insertionSort
      AuditRow.Upto :=
    (List.mem_insertionSort _).mpr (List.mem_filter.mpr ⟨present, decide_eq_true after⟩)
  have ordered := pairwise_sorted table afterId
  rw [← List.take_append_drop limit ((table.rows.filter _).insertionSort _)] at member ordered
  have dropped := (List.mem_append.mp member).resolve_left cut
  exact (List.pairwise_append.mp ordered).2.2 other read row dropped

theorem foldl_cursor_le_iff (rows : List AuditRow) (cursor bound : Nat) :
    rows.foldl (fun cursor row => max cursor row.id) cursor ≤ bound ↔
      cursor ≤ bound ∧ ∀ row ∈ rows, row.id ≤ bound := by
  induction rows generalizing cursor with
  | nil => simp
  | cons row rows ih =>
      rw [List.foldl_cons, ih, max_le_iff, List.forall_mem_cons, and_assoc]

theorem poll_ok (read : input.auditRead = .ok ()) :
    state.poll settings input =
      ((state.batch settings).mapIdx fun k row => .audit row (input.fresh k),
        (state.batch settings).foldl (fun cursor row => max cursor row.id) state.lastAuditId) := by
  rw [Forwarding.poll, read]

theorem poll_error {errorClass : String} (failed : input.auditRead = .error errorClass) :
    state.poll settings input =
      ([failureEvent settings [("source", .str "audit_events_poll")] errorClass
        (input.fresh 0) input.now], state.lastAuditId) := by
  rw [Forwarding.poll, failed]

/-- The rows that the cursor passes in a tick are those that the tick reads. -/
theorem cursor_passes_iff {row : AuditRow} (present : row ∈ state.table.rows)
    (after : state.lastAuditId < row.id) (read : input.auditRead = .ok ()) :
    row.id ≤ (state.poll settings input).2 ↔ row ∈ state.batch settings := by
  rw [poll_ok read]
  have bounds := foldl_cursor_le_iff (state.batch settings) state.lastAuditId
  constructor
  · intro passed
    by_contra cut
    have before : ∀ other ∈ state.batch settings, other.id ≤ row.id - 1 := by
      intro other member
      have less := lt_of_notMem_list present after cut member
      omega
    have short := (bounds (row.id - 1)).mpr ⟨by omega, before⟩
    dsimp only at passed
    omega
  · intro member
    exact ((bounds _).mp le_rfl).2 row member

theorem le_poll_cursor : state.lastAuditId ≤ (state.poll settings input).2 := by
  cases read : input.auditRead with
  | ok _ =>
      rw [poll_ok read]
      exact ((foldl_cursor_le_iff _ _ _).mp le_rfl).1
  | error errorClass => rw [poll_error read]

/-! ## The rows in a payload -/

/-- The row that an event was made from. -/
def CollectorEvent.row? : CollectorEvent → Option AuditRow
  | .audit row _ => some row
  | _ => none

/-- The audit rows that a payload holds. -/
def auditRows (payload : List CollectorEvent) : List AuditRow :=
  payload.filterMap CollectorEvent.row?

theorem mem_auditRows {payload : List CollectorEvent} {row : AuditRow} :
    row ∈ auditRows payload ↔ ∃ fresh, .audit row fresh ∈ payload := by
  rw [auditRows, List.mem_filterMap]
  constructor
  · rintro ⟨event, member, made⟩
    cases event with
    | audit other fresh =>
        cases made
        exact ⟨fresh, member⟩
    | _ => cases made
  · rintro ⟨fresh, member⟩
    exact ⟨.audit row fresh, member, rfl⟩

theorem auditRows_append (front back : List CollectorEvent) :
    auditRows (front ++ back) = auditRows front ++ auditRows back :=
  List.filterMap_append

theorem auditRows_mapIdx (rows : List AuditRow) (fresh : Nat → String) :
    auditRows (rows.mapIdx fun k row => .audit row (fresh k)) = rows := by
  induction rows generalizing fresh with
  | nil => rfl
  | cons row rows ih =>
      rw [List.mapIdx_cons, auditRows, List.filterMap_cons]
      exact congrArg (row :: ·) (ih fun k => fresh (k + 1))

theorem auditRows_snapshotEvents (drawn : Nat) :
    auditRows (input.snapshotEvents settings drawn) = [] := by
  unfold TickInput.snapshotEvents
  split <;> rfl

theorem auditRows_healthEvents {drawn : Nat} {events : List CollectorEvent}
    (reported : input.healthEvents drawn = some events) : auditRows events = [] := by
  unfold TickInput.healthEvents at reported
  split at reported <;> cases reported <;> rfl

theorem healthEvents_eq_none {drawn : Nat} :
    input.healthEvents drawn = none ↔ input.health = some none := by
  unfold TickInput.healthEvents
  split <;> simp_all

/-! ## What a tick delivers -/

/-- What was accepted in a tick is a front part of the polled events and the later ones. -/
theorem forwarded_front {polled payload : List CollectorEvent}
    (accepted : input.forwarded settings polled = some payload) :
    ∃ later, auditRows later = [] ∧ payload <+: polled ++ later := by
  obtain ⟨health, reported, accepted⟩ := Option.bind_eq_some_iff.mp accepted
  refine ⟨health ++ input.snapshotEvents settings (polled ++ health).length, ?_, ?_⟩
  · rw [auditRows_append, auditRows_healthEvents reported, auditRows_snapshotEvents]
    rfl
  · dsimp only at accepted
    split at accepted
    · cases accepted
    · unfold TickInput.send at accepted
      split at accepted
      · cases accepted
      · split at accepted
        · rw [← List.append_assoc, ← Option.some.inj accepted]
          exact payloadWithinLimit_front _
        · cases accepted

/-- A tick with polled events delivers them all exactly if nothing stops it and they survive
the trimming. -/
theorem forwards_all_iff {polled : List CollectorEvent} (nonempty : polled ≠ []) :
    (∃ payload, input.forwarded settings polled = some payload ∧ polled <+: payload) ↔
      readBearerToken input.tokenFile ≠ "" ∧ input.health ≠ some none ∧ input.takes = true ∧
        (settings.maxPayloadBytes ≤ 0 ∨
          (payloadBytes (CollectorEvent.body settings.limits) polled : Int) ≤
            settings.maxPayloadBytes ∨
          polled.length ≤ 1) := by
  have stops : input.health = some none ↔ input.healthEvents polled.length = none :=
    healthEvents_eq_none.symm
  rw [TickInput.forwarded, Ne.eq_def (a := input.health), stops]
  cases reported : input.healthEvents polled.length with
  | none =>
      refine iff_of_false (fun h => ?_) (fun h => h.2.1 rfl)
      obtain ⟨payload, accepted, _⟩ := h
      cases accepted
  | some health =>
      have whole : polled <+: polled ++ health ++
          input.snapshotEvents settings (polled ++ health).length :=
        (List.prefix_append _ _).trans (List.prefix_append _ _)
      have filled : (polled ++ health ++
          input.snapshotEvents settings (polled ++ health).length).isEmpty = false := by
        rw [List.isEmpty_eq_false_iff]
        intro none
        exact nonempty (List.prefix_nil.mp (none ▸ whole))
      rw [Option.bind_some]
      dsimp only
      rw [filled, if_neg Bool.false_ne_true, TickInput.send]
      by_cases token : readBearerToken input.tokenFile = ""
      · rw [if_pos token]
        refine iff_of_false (fun h => ?_) (fun h => h.1 token)
        obtain ⟨payload, accepted, _⟩ := h
        cases accepted
      · rw [if_neg token]
        cases input.takes with
        | false =>
            refine iff_of_false (fun h => ?_) (fun h => Bool.false_ne_true h.2.2.1)
            obtain ⟨payload, accepted, _⟩ := h
            cases accepted
        | true =>
            rw [if_pos rfl, ← prefix_payloadWithinLimit_iff whole]
            constructor
            · rintro ⟨payload, accepted, front⟩
              rw [← Option.some.inj accepted] at front
              exact ⟨token, nofun, rfl, front⟩
            · rintro ⟨_, _, _, front⟩
              exact ⟨_, rfl, front⟩

/-- The payload of a tick that reads rows holds all of them exactly if it holds all the
events made from them. -/
theorem prefix_iff_rows {polled payload : List CollectorEvent}
    (accepted : input.forwarded settings polled = some payload)
    (allRows : (auditRows polled).length = polled.length) (distinct : (auditRows polled).Nodup) :
    polled <+: payload ↔ ∀ row ∈ auditRows polled, row ∈ auditRows payload := by
  obtain ⟨later, none, front⟩ := forwarded_front accepted
  constructor
  · intro whole row member
    exact (whole.filterMap CollectorEvent.row?).subset member
  · intro delivered
    have covered : (auditRows polled).length ≤ (auditRows payload).length :=
      distinct.length_le_of_subset delivered
    have fewer : (auditRows payload).length ≤ payload.length := List.length_filterMap_le _ _
    exact List.prefix_of_prefix_length_le (List.prefix_append polled later) front (by omega)

end Properties

/-! ## Runs -/

section Runs

variable {settings : SenderSettings} {state next : Forwarding} {input : TickInput} {initial : Nat}

/-- The cursor does not fall, and only visible rows that it has passed were delivered. -/
structure Forwarding.Follows (initial : Nat) (state : Forwarding) : Prop where
  ahead : initial ≤ state.lastAuditId
  delivered : ∀ payload ∈ state.accepted, ∀ row ∈ auditRows payload,
    row ∈ state.table.rows ∧ row.id ≤ state.lastAuditId

/-- A tick reads the rows in the order of their identifiers, no two the same. -/
theorem nodup_batch : (state.batch settings).Nodup := by
  have sorted := (pairwise_sorted state.table state.lastAuditId).sublist
    (List.take_sublist (max 1 settings.batchSize).toNat _)
  have distinct : ∀ {left right : AuditRow}, left.id < right.id → left ≠ right :=
    fun less same => Nat.lt_irrefl _ (same ▸ less)
  exact sorted.imp distinct

theorem tick_eq : state.tick settings input =
    { table := state.table
      lastAuditId := (state.poll settings input).2
      accepted := state.accepted ++
        (input.forwarded settings (state.poll settings input).1).toList } := rfl

/-- The rows of the polled events are those that the cursor passes in the tick. -/
theorem mem_polled_iff {row : AuditRow} :
    row ∈ auditRows (state.poll settings input).1 ↔
      row ∈ state.table.rows ∧ state.lastAuditId < row.id ∧
        row.id ≤ (state.poll settings input).2 := by
  cases read : input.auditRead with
  | ok _ =>
      have passes (present : row ∈ state.table.rows) (after : state.lastAuditId < row.id) :
          row.id ≤ (state.poll settings input).2 ↔ row ∈ state.batch settings :=
        cursor_passes_iff present after read
      rw [poll_ok read] at passes ⊢
      rw [auditRows_mapIdx]
      constructor
      · intro member
        obtain ⟨present, after⟩ := mem_listAuditEventsAfterId member
        exact ⟨present, after, (passes present after).mpr member⟩
      · intro ⟨present, after, passed⟩
        exact (passes present after).mp passed
  | error errorClass =>
      rw [poll_error read]
      exact iff_of_false nofun fun h => Nat.not_le_of_lt h.2.1 h.2.2

theorem auditRows_forwarded {polled payload : List CollectorEvent}
    (accepted : input.forwarded settings polled = some payload) {row : AuditRow}
    (member : row ∈ auditRows payload) : row ∈ auditRows polled := by
  obtain ⟨later, none, front⟩ := forwarded_front accepted
  have inside := (front.filterMap CollectorEvent.row?).subset member
  change row ∈ auditRows (polled ++ later) at inside
  rwa [auditRows_append, none, List.append_nil] at inside

theorem mem_rows_commit {table changed : AuditTable} {row other : AuditRow}
    (committed : table.commit? row = some changed) :
    other ∈ changed.rows ↔ other = row ∨ other ∈ table.rows := by
  unfold AuditTable.commit? at committed
  split at committed
  · cases committed
    exact List.mem_cons
  · cases committed

theorem notMem_rows_of_commit {table changed : AuditTable} {row : AuditRow}
    (committed : table.commit? row = some changed) : row ∉ table.rows := by
  unfold AuditTable.commit? at committed
  split at committed
  · rename_i fresh
    exact fun member => fresh (List.mem_map_of_mem member)
  · cases committed

theorem follows_step (follows : state.Follows initial) {event : ForwardingEvent}
    (stepped : state.step settings event = some next) : next.Follows initial := by
  cases event with
  | commit row =>
      obtain ⟨table, committed, rfl⟩ := Option.map_eq_some_iff.mp stepped
      refine ⟨follows.ahead, fun payload member other held => ?_⟩
      obtain ⟨present, passed⟩ := follows.delivered payload member other held
      exact ⟨(mem_rows_commit committed).mpr (.inr present), passed⟩
  | tick input =>
      cases stepped
      rw [tick_eq]
      refine ⟨follows.ahead.trans le_poll_cursor, fun payload member row held => ?_⟩
      rcases List.mem_append.mp member with earlier | now
      · obtain ⟨present, passed⟩ := follows.delivered payload earlier row held
        exact ⟨present, passed.trans le_poll_cursor⟩
      · obtain ⟨present, _, passed⟩ :=
          mem_polled_iff.mp (auditRows_forwarded (Option.mem_toList.mp now) held)
        exact ⟨present, passed⟩

/-- Nothing is lost after a tick exactly if it delivers every row that it reads. -/
theorem nothingLost_tick_iff (follows : state.Follows initial)
    (kept : state.NothingLost initial) :
    (state.tick settings input).NothingLost initial ↔
      ∀ row ∈ auditRows (state.poll settings input).1,
        ∃ payload, input.forwarded settings (state.poll settings input).1 = some payload ∧
          row ∈ auditRows payload := by
  constructor
  · intro lost row member
    obtain ⟨present, after, passed⟩ := mem_polled_iff.mp member
    obtain ⟨payload, accepted, held⟩ := lost row present (follows.ahead.trans_lt after) passed
    rcases List.mem_append.mp accepted with earlier | now
    · have behind := (follows.delivered payload earlier row (mem_auditRows.mpr held)).2
      exact absurd behind (Nat.not_le_of_lt after)
    · exact ⟨payload, Option.mem_toList.mp now, mem_auditRows.mpr held⟩
  · intro delivers row present after passed
    by_cases behind : row.id ≤ state.lastAuditId
    · obtain ⟨payload, accepted, held⟩ := kept row present after behind
      exact ⟨payload, List.mem_append_left _ accepted, held⟩
    · obtain ⟨payload, accepted, held⟩ :=
        delivers row (mem_polled_iff.mpr ⟨present, Nat.lt_of_not_le behind, passed⟩)
      exact ⟨payload, List.mem_append_right _ (Option.mem_toList.mpr accepted),
        mem_auditRows.mp held⟩

theorem nothingLost_tick_iff_forwards (follows : state.Follows initial)
    (kept : state.NothingLost initial) :
    (state.tick settings input).NothingLost initial ↔
      state.Forwards settings initial (.tick input) := by
  rw [nothingLost_tick_iff follows kept, Forwarding.Forwards]
  cases read : input.auditRead with
  | error errorClass =>
      rw [poll_error read]
      exact iff_of_true nofun nofun
  | ok _ =>
      have rows : auditRows (state.poll settings input).1 = state.batch settings := by
        rw [poll_ok read, auditRows_mapIdx]
      have length : (state.poll settings input).1.length = (state.batch settings).length := by
        rw [poll_ok read, List.length_mapIdx]
      by_cases none : state.batch settings = []
      · rw [rows, none]
        exact iff_of_true nofun fun _ nonempty => absurd rfl nonempty
      · have nonempty : (state.poll settings input).1 ≠ [] := by
          intro empty
          rw [empty, List.length_nil] at length
          exact none (List.length_eq_zero_iff.mp length.symm)
        rw [← length, ← forwards_all_iff nonempty, forall_prop_of_true rfl,
          forall_prop_of_true none]
        cases accepted : input.forwarded settings (state.poll settings input).1 with
        | none =>
            refine iff_of_false (fun delivers => ?_) nofun
            obtain ⟨row, member⟩ := List.exists_mem_of_ne_nil _ none
            obtain ⟨payload, missing, _⟩ := delivers row (rows ▸ member)
            cases missing
        | some payload =>
            have allRows : (auditRows (state.poll settings input).1).length =
                (state.poll settings input).1.length := by rw [rows, length]
            have distinct : (auditRows (state.poll settings input).1).Nodup :=
              rows ▸ nodup_batch
            have whole := prefix_iff_rows accepted allRows distinct
            simpa only [Option.some.injEq, exists_eq_left'] using whole.symm

theorem nothingLost_step_iff (follows : state.Follows initial) (kept : state.NothingLost initial)
    {event : ForwardingEvent} (stepped : state.step settings event = some next) :
    next.NothingLost initial ↔ state.Forwards settings initial event := by
  cases event with
  | commit row =>
      obtain ⟨table, committed, rfl⟩ := Option.map_eq_some_iff.mp stepped
      constructor
      · intro lost behind
        obtain ⟨payload, accepted, held⟩ :=
          lost row ((mem_rows_commit committed).mpr (.inl rfl)) behind.1 behind.2
        have present := (follows.delivered payload accepted row (mem_auditRows.mpr held)).1
        exact notMem_rows_of_commit committed present
      · intro ahead other present after passed
        rcases (mem_rows_commit committed).mp present with rfl | earlier
        · exact absurd ⟨after, passed⟩ ahead
        · exact kept other earlier after passed
  | tick input =>
      cases stepped
      exact nothingLost_tick_iff_forwards follows kept

/-- In a run nothing is lost exactly if every step forwards what it reads. -/
theorem audit_forwarded_iff (settings : SenderSettings) (table : AuditTable) (readable : Bool)
    (events : List ForwardingEvent) :
    Transition.EveryStep (Forwarding.step settings)
        (fun _ _ next => next.NothingLost (Forwarding.start table readable).lastAuditId)
        (.start table readable) events ↔
      Transition.EveryStep (Forwarding.step settings)
        (fun state event _ =>
          state.Forwards settings (Forwarding.start table readable).lastAuditId event)
        (.start table readable) events := by
  apply Transition.EveryStep.invariant_iff
    (Forwarding.Follows (Forwarding.start table readable).lastAuditId)
  · intro state event next follows stepped
    exact follows_step follows stepped
  · intro state event next follows kept stepped
    exact nothingLost_step_iff follows kept stepped
  · exact ⟨le_rfl, nofun⟩
  · intro row _ after passed
    exact absurd passed (Nat.not_le_of_lt after)

/-! ## A tick without the token -/

def issuedRow : AuditRow where
  id := 1
  eventType := "certificate_issued"
  actor := "dmz-gateway"
  target := "certificate:42"
  detailsJson := [("request_id", .str "req-1")]
  createdAt := {
    year := 2026
    month := 5
    day := 18
    hour := 0
    minute := 0
    second := 0
    microsecond := 0
    validDate := by decide
    validTime := by decide }

def defaultSender : SenderSettings where
  batchSize := 100
  limits := ⟨512, 4096⟩
  maxPayloadBytes := 16384
  pgDb := "gds"
  pgHost := "postgres"

def tickWithoutToken : TickInput where
  auditRead := .ok ()
  health := none
  snapshot := none
  tokenFile := none
  takes := true
  fresh := fun _ => "0f"
  now := "2026-05-18T00:00:05Z"

/-- The cursor passes a row that is never sent. -/
theorem tick_without_token_loses :
    ¬ Transition.EveryStep (Forwarding.step defaultSender)
        (fun _ _ next => next.NothingLost 0)
        (.start .empty true) [.commit issuedRow, .tick tickWithoutToken] := by
  intro every
  obtain ⟨-, later⟩ := every _ rfl
  obtain ⟨lost, -⟩ := later _ rfl
  obtain ⟨payload, accepted, -⟩ := lost issuedRow List.mem_cons_self (by decide) (by decide)
  cases accepted

end Runs

end OpcuaGds.Gds.Collector
