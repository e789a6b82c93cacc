import OpcuaGds.Gateway.Southbound
import Mathlib.Data.List.Induction

/-! # What the northbound server shows

A poll cycle writes the cache entry of a point only with a value that was read and has the point's
type, in the slot of that type and with the time; the read callback of the server looks at the same
slot. Whatever the polls read, the server shows the last value of each point that was good.
-/

namespace OpcuaGds.Gateway

/-- The fields of `UA_DataValue` that the callback sets. -/
structure DataValue where
  hasValue : Bool
  value : Variant
  sourceTimestamp : Int
  hasSourceTimestamp : Bool
  deriving DecidableEq, Repr

/-- The data value that the server hands to the callback. -/
def DataValue.empty : DataValue := ⟨false, .other, 0, false⟩

/-- `read_callback` for a point of a type. -/
def readEntry (type : GwDataType) (cv : CacheValue) : DataValue :=
  if !cv.valid then .empty
  else
    match type with
    | .bool => ⟨true, .bool cv.boolValue, cv.timestamp, true⟩
    | .double => ⟨true, .double cv.doubleValue, cv.timestamp, true⟩
    | .int32 => ⟨true, .int32 cv.int32Value, cv.timestamp, true⟩

/-- `read_callback`; the node context is the index of the point. -/
def readCallback (cache : Cache) (idx : Nat) : DataValue :=
  match gatewayPoints[idx]? with
  | some point => readEntry point.type (cache idx)
  | none => .empty

/-- What happens in the thread of the gateway. -/
inductive GatewayEvent where
  | poll (ctx : SouthboundContext) (reads : Nat → PointRead)
  | northboundRead (idx : Nat)

/-- One event: the cache after it and the answer to a northbound read. -/
def gatewayStep (cache : Cache) : GatewayEvent → Cache × Option DataValue
  | .poll ctx reads => ((southboundPollOnce ctx reads cache).1, none)
  | .northboundRead idx => (cache, some (readCallback cache idx))

/-- The cache after the events. -/
def cacheAfter (events : List GatewayEvent) : Cache :=
  events.foldl (fun cache event => (gatewayStep cache event).1) cacheInit

/-! ## What the server is for -/

/-- A read that succeeded with a value of a type. -/
def goodValue? (type : GwDataType) (read : PointRead) : Option (Variant × Int) :=
  if read.status ≠ .good then none
  else
    match type, read.value with
    | .bool, .bool value => some (.bool value, read.storedAt)
    | .double, .double value => some (.double value, read.storedAt)
    | .int32, .int32 value => some (.int32 value, read.storedAt)
    | _, _ => none

/-- The southbound reads of a point during the events. -/
def pointReads (idx : Nat) (events : List GatewayEvent) : List PointRead :=
  events.filterMap fun
    | .poll ctx reads => if ctx.client then some (reads idx) else none
    | .northboundRead _ => none

/-- The data value of the last good read, if there is one. -/
def shown (last : Option (Variant × Int)) : DataValue :=
  match last with
  | some (value, time) => ⟨true, value, time, true⟩
  | none => .empty

/-- The server shows the last good value of every point, and a read that is not good leaves the
cache as it is. -/
structure MirrorsSouthbound (events : List GatewayEvent) : Prop where
  answered : ∀ front idx point back, events = front ++ .northboundRead idx :: back →
    gatewayPoints[idx]? = some point →
      (gatewayStep (cacheAfter front) (.northboundRead idx)).2 =
        some (shown ((pointReads idx front).filterMap (goodValue? point.type)).getLast?)
  unchanged : ∀ front point idx read, front <+: events → goodValue? point.type read = none →
    pollPoint point idx read (cacheAfter front) = cacheAfter front

/-! ## One poll -/

/-- What a read does to the entry of its point. -/
def storeRead (type : GwDataType) (read : PointRead) (entry : CacheValue) : CacheValue :=
  match goodValue? type read with
  | some (.bool value, now) => { entry with valid := true, boolValue := value, timestamp := now }
  | some (.double value, now) =>
      { entry with valid := true, doubleValue := value, timestamp := now }
  | some (.int32 value, now) => { entry with valid := true, int32Value := value, timestamp := now }
  | _ => entry

theorem storeRead_of_none {type : GwDataType} {read : PointRead}
    (bad : goodValue? type read = none) (entry : CacheValue) :
    storeRead type read entry = entry := by
  rw [storeRead, bad]

theorem pollPoint_eq_update (point : GatewayPoint) (idx : Nat) (read : PointRead) (cache : Cache) :
    pollPoint point idx read cache =
      Function.update cache idx (storeRead point.type read (cache idx)) := by
  obtain ⟨label, numericId, type⟩ := point
  obtain ⟨status, value, storedAt⟩ := read
  by_cases good : status = .good
  · subst good
    cases type <;> cases value <;> first | rfl | exact (Function.update_eq_self idx cache).symm
  · have bad : goodValue? type ⟨status, value, storedAt⟩ = none := if_pos good
    rw [storeRead_of_none bad, Function.update_eq_self]
    exact if_pos good

/-- What the server shows of an entry after a read. -/
theorem readEntry_storeRead (type : GwDataType) (read : PointRead) (entry : CacheValue) :
    readEntry type (storeRead type read entry) =
      match goodValue? type read with
      | some good => shown (some good)
      | none => readEntry type entry := by
  obtain ⟨status, value, storedAt⟩ := read
  by_cases good : status = .good
  · subst good
    cases type <;> cases value <;> rfl
  · have bad : goodValue? type ⟨status, value, storedAt⟩ = none := if_pos good
    rw [storeRead_of_none bad, bad]

theorem pollPoint_of_ne (point : GatewayPoint) {idx other : Nat} (distinct : other ≠ idx)
    (read : PointRead) (cache : Cache) : pollPoint point idx read cache other = cache other := by
  rw [pollPoint_eq_update, Function.update_of_ne distinct]

theorem pollPoints_of_lt (reads : Nat → PointRead) (points : List GatewayPoint) {start idx : Nat}
    (before : idx < start) (cache : Cache) :
    pollPoints reads points start cache idx = cache idx := by
  induction points generalizing start cache with
  | nil => rfl
  | cons point rest ih =>
      rw [pollPoints, ih (Nat.lt_succ_of_lt before), pollPoint_of_ne point (Nat.ne_of_lt before)]

/-- A poll reads every point once, each into its own entry. -/
theorem pollPoints_apply (reads : Nat → PointRead) (points : List GatewayPoint) (start : Nat)
    (cache : Cache) {offset : Nat} {point : GatewayPoint} (found : points[offset]? = some point) :
    pollPoints reads points start cache (start + offset) =
      storeRead point.type (reads (start + offset)) (cache (start + offset)) := by
  induction points generalizing start offset cache with
  | nil => cases found
  | cons first rest ih =>
      rw [pollPoints]
      cases offset with
      | zero =>
          cases found
          have before : start < start + 1 := Nat.lt_succ_self start
          change pollPoints reads rest (start + 1) _ start = _
          rw [pollPoints_of_lt reads rest before, pollPoint_eq_update, Function.update_self]
          rfl
      | succ offset =>
          have other : start + 1 + offset ≠ start := by omega
          have later := ih (start + 1) (pollPoint first start (reads start) cache) found
          rw [pollPoint_of_ne first other] at later
          have shifted : start + (offset + 1) = start + 1 + offset := by omega
          rw [shifted]
          exact later

theorem southboundPollOnce_apply {ctx : SouthboundContext} (reads : Nat → PointRead)
    (cache : Cache) {idx : Nat} {point : GatewayPoint} (found : gatewayPoints[idx]? = some point) :
    (southboundPollOnce ctx reads cache).1 idx =
      if ctx.client then storeRead point.type (reads idx) (cache idx) else cache idx := by
  rw [southboundPollOnce]
  cases ctx.client with
  | false => rfl
  | true =>
      have apply := pollPoints_apply reads gatewayPoints 0 cache found
      rw [Nat.zero_add] at apply
      exact apply

/-! ## Runs -/

/-- In every run an entry shows the last good read of its point. -/
theorem readEntry_cacheAfter (events : List GatewayEvent) {idx : Nat} {point : GatewayPoint}
    (found : gatewayPoints[idx]? = some point) :
    readEntry point.type (cacheAfter events idx) =
      shown ((pointReads idx events).filterMap (goodValue? point.type)).getLast? := by
  induction events using List.reverseRecOn with
  | nil => cases point.type <;> rfl
  | append_singleton events event ih =>
      have last : cacheAfter (events ++ [event]) = (gatewayStep (cacheAfter events) event).1 :=
        List.foldl_append
      have reads : pointReads idx (events ++ [event]) =
          pointReads idx events ++ pointReads idx [event] := List.filterMap_append
      rw [last, reads, List.filterMap_append]
      cases event with
      | northboundRead other =>
          have none : pointReads idx [.northboundRead other] = [] := rfl
          rw [none, List.filterMap_nil, List.append_nil]
          exact ih
      | poll ctx answers =>
          have single : pointReads idx [.poll ctx answers] =
              if ctx.client then [answers idx] else [] := by
            obtain ⟨client, nsIdx⟩ := ctx
            cases client <;> rfl
          rw [gatewayStep, southboundPollOnce_apply answers _ found, single]
          split
          · rw [readEntry_storeRead]
            cases good : goodValue? point.type (answers idx) with
            | none =>
                rw [List.filterMap_cons_none good, List.filterMap_nil, List.append_nil]
                exact ih
            | some value =>
                rw [List.filterMap_cons_some good, List.filterMap_nil, List.getLast?_concat]
          · rw [List.filterMap_nil, List.append_nil]
            exact ih

theorem northbound_mirrors_southbound (events : List GatewayEvent) : MirrorsSouthbound events where
  answered front idx point back _ found := by
    rw [gatewayStep, readCallback, found]
    exact congrArg some (readEntry_cacheAfter front found)
  unchanged front point idx read _ bad := by
    rw [pollPoint_eq_update, storeRead_of_none bad, Function.update_eq_self]

end OpcuaGds.Gateway
