import OpcuaGds.Agent.CollectorTelemetry
import OpcuaGds.Gds.CollectorEvents

/-! # The sizes of what both senders post

GDS posts the longest front part of its events that fits, and one event whatever its size. The
agent posts one event and reduces its raw text when the event is too large. Texts are cut and
marked; GDS keeps room for the mark, the agent does not.
-/

namespace OpcuaGds.Collector

open Gds.Collector (EventForm EventLimits baseEvent limitRaw payloadBytes payloadWithinLimit
  redactSecrets payloadWithinLimit_front prefix_payloadWithinLimit_iff payloadBytes_mono)
open Agent.Telemetry (CollectorEvent CollectorLimits firstPayload normalizeForOtCollector
  orDefault rawDocument reducePayload toRawString truncationMark)

/-! ## What GDS posts -/

/-- What an event of GDS is made of. -/
structure GdsEvent where
  fresh : String
  form : EventForm
  raw : Json
  tags : List (String × Json)

/-- The event as GDS sends it. -/
def GdsEvent.body (limits : EventLimits) (event : GdsEvent) : Json :=
  baseEvent limits event.fresh event.form event.raw event.tags

section Gds

variable (limits : EventLimits) (maxPayloadBytes : Int) (events : List GdsEvent)

/-- The events that GDS posts. -/
def posted : List GdsEvent := payloadWithinLimit (GdsEvent.body limits) maxPayloadBytes events

/-- The bounds as their names say. -/
structure GdsWithinLimits : Prop where
  payload : payloadBytes (GdsEvent.body limits) (posted limits maxPayloadBytes events) ≤
    maxPayloadBytes
  longest : ∀ front, front <+: events →
    (front <+: posted limits maxPayloadBytes events ↔
      payloadBytes (GdsEvent.body limits) front ≤ maxPayloadBytes)
  message : ∀ event ∈ events,
    (Gds.Collector.truncateText event.form.message limits.maxMessageLen).toList.length ≤
      limits.maxMessageLen
  raw : ∀ event ∈ events, (limitRaw event.raw limits.maxRawLen).text.length ≤ limits.maxRawLen

/-- The bounds that GDS keeps. -/
structure GdsSizes : Prop where
  front : posted limits maxPayloadBytes events <+: events
  longest : ∀ front, front <+: events →
    (front <+: posted limits maxPayloadBytes events ↔
      payloadBytes (GdsEvent.body limits) front ≤ maxPayloadBytes ∨ front.length ≤ 1)
  payload : payloadBytes (GdsEvent.body limits) (events.take 1) ≤ maxPayloadBytes →
    payloadBytes (GdsEvent.body limits) (posted limits maxPayloadBytes events) ≤ maxPayloadBytes
  message : "...<truncated>".toList.length ≤ limits.maxMessageLen → ∀ event ∈ events,
    (Gds.Collector.truncateText event.form.message limits.maxMessageLen).toList.length ≤
      limits.maxMessageLen
  raw : ∀ event ∈ events, (redactSecrets event.raw).text.length ≤ limits.maxRawLen →
    limitRaw event.raw limits.maxRawLen = redactSecrets event.raw
  preview : "...<truncated>".toList.length ≤ limits.maxRawLen → ∀ event ∈ events,
    limits.maxRawLen < (redactSecrets event.raw).text.length → ∃ preview : String,
      limitRaw event.raw limits.maxRawLen =
        .obj [("truncated", .bool true), ("preview", .str preview)] ∧
      preview.toList.length ≤ limits.maxRawLen

end Gds

/-! ## What the agent posts -/

section Agent

variable (limits : CollectorLimits) (event : CollectorEvent) (raw : PyValue)

/-- A text is a front part of another, no longer than a limit, with nothing but the mark after
it. -/
def KeptWithin (limit : Int) (whole text : String) : Prop :=
  ∃ kept : List Char, kept <+: whole.toList ∧ kept.length ≤ limit ∧
    (text = String.ofList kept ∨ text = String.ofList kept ++ truncationMark)

/-- The bounds that the agent keeps. -/
structure AgentSizes (made : CollectorEvent) : Prop where
  message : KeptWithin limits.maxMessageLen (orDefault event.message "gds-agent event") made.message
  rawText : KeptWithin limits.maxRawLen (String.ofList (rawDocument raw).text)
    (toRawString raw limits.maxRawLen)
  fits : (firstPayload limits event raw).bytes ≤ limits.maxPayloadBytes →
    made = firstPayload limits event raw ∧ made.bytes ≤ limits.maxPayloadBytes
  reduced : limits.maxPayloadBytes < (firstPayload limits event raw).bytes →
    made = reducePayload limits.maxRawLen (firstPayload limits event raw) ∧
      KeptWithin (max 256 (limits.maxRawLen / 2)) (toRawString raw limits.maxRawLen) made.raw

end Agent

/-! ## The bounds hold -/

theorem truncateText_length {text : String} {maxLen : Int}
    (room : "...<truncated>".toList.length ≤ maxLen) :
    (Gds.Collector.truncateText text maxLen).toList.length ≤ maxLen := by
  have mark : "...<truncated>".toList.length = 14 := rfl
  rw [mark] at room
  rw [Gds.Collector.truncateText]
  split
  · rename_i short
    omega
  · rw [String.toList_ofList, List.length_append, List.length_take, mark]
    omega

theorem gdsSizes {limits : EventLimits} {maxPayloadBytes : Int} (positive : 0 < maxPayloadBytes)
    (events : List GdsEvent) : GdsSizes limits maxPayloadBytes events where
  front := payloadWithinLimit_front events
  longest front within := by
    rw [posted, prefix_payloadWithinLimit_iff within, or_iff_right (not_le.mpr positive)]
  payload := by
    intro first
    have inside : posted limits maxPayloadBytes events <+: events :=
      payloadWithinLimit_front events
    have limited := (prefix_payloadWithinLimit_iff inside).mp List.prefix_rfl
    rcases limited with unlimited | fits | single
    · exact absurd unlimited (not_le.mpr positive)
    · exact fits
    · have within := List.prefix_take_iff.mpr ⟨inside, single⟩
      have mono : payloadBytes (GdsEvent.body limits) (posted limits maxPayloadBytes events) ≤
          payloadBytes (GdsEvent.body limits) (events.take 1) := payloadBytes_mono within
      omega
  message room event _ := truncateText_length room
  raw event _ fits := by
    rw [limitRaw]
    exact if_pos (.inr fits)
  preview room event _ large := by
    refine ⟨Gds.Collector.truncateText (String.ofList (redactSecrets event.raw).text)
      limits.maxRawLen, ?_, truncateText_length room⟩
    have positive : (0 : Int) < "...<truncated>".toList.length := by decide
    rw [limitRaw]
    exact if_neg (by omega)

theorem keptWithin_truncateText {text : String} {maxLen : Int} (positive : 0 < maxLen) :
    KeptWithin maxLen text (Agent.Telemetry.truncateText text maxLen) := by
  rw [Agent.Telemetry.truncateText]
  split
  · rename_i short
    refine ⟨text.toList, List.prefix_rfl, by omega, .inl ?_⟩
    rw [String.ofList_toList]
  · refine ⟨text.toList.take maxLen.toNat, List.take_prefix _ _, ?_, .inr rfl⟩
    rw [List.length_take]
    omega

theorem agentSizes {limits : CollectorLimits} {event made : CollectorEvent} {raw : PyValue}
    (message : 0 < limits.maxMessageLen) (rawLen : 0 < limits.maxRawLen)
    (sent : normalizeForOtCollector limits event raw = some made) :
    AgentSizes limits event raw made := by
  unfold normalizeForOtCollector at sent
  dsimp only at sent
  split at sent
  · cases sent
  · split at sent
    · rename_i large
      cases sent
      exact {
        message := keptWithin_truncateText message
        rawText := keptWithin_truncateText rawLen
        fits := fun fits => absurd fits (not_le.mpr large)
        reduced := fun _ => ⟨rfl, keptWithin_truncateText (by omega)⟩ }
    · rename_i fits
      cases sent
      exact {
        message := keptWithin_truncateText message
        rawText := keptWithin_truncateText rawLen
        fits := fun within => ⟨rfl, within⟩
        reduced := fun large => absurd large fits }

/-- Both senders keep their limits up to one event that is too large, the marks of truncation and
what the serialised form adds. -/
theorem collectorSizes {gds : EventLimits} {agent : CollectorLimits} {maxPayloadBytes : Int}
    (payload : 0 < maxPayloadBytes) (message : 0 < agent.maxMessageLen)
    (rawLen : 0 < agent.maxRawLen) :
    (∀ events, GdsSizes gds maxPayloadBytes events) ∧
      ∀ event raw made, normalizeForOtCollector agent event raw = some made →
        AgentSizes agent event raw made :=
  ⟨gdsSizes payload, fun _ _ _ sent => agentSizes message rawLen sent⟩

/-- The configured limits. -/
theorem collectorSizes_configured :
    (∀ events, GdsSizes ⟨512, 4096⟩ 16384 events) ∧
      ∀ event raw made, normalizeForOtCollector ⟨512, 4096, 16384⟩ event raw = some made →
        AgentSizes ⟨512, 4096, 16384⟩ event raw made :=
  collectorSizes (by decide) (by decide) (by decide)

/-- An event without content. -/
def emptyEvent : GdsEvent := ⟨"", ⟨"", "", "", "", ""⟩, .null, []⟩

/-- One event that does not fit is posted all the same. -/
theorem emptyEvent_posted : ¬GdsWithinLimits ⟨512, 4096⟩ 1 [emptyEvent] := by
  intro within
  have single : [emptyEvent].length ≤ 1 := le_rfl
  have sent : [emptyEvent] <+: posted ⟨512, 4096⟩ 1 [emptyEvent] :=
    (prefix_payloadWithinLimit_iff List.prefix_rfl).mpr (.inr (.inr single))
  have fits := (within.longest _ List.prefix_rfl).mp sent
  rw [payloadBytes, List.map_singleton, Json.text, List.length_cons, List.length_append,
    Json.itemsText, List.length_singleton] at fits
  omega

/-- An event of the agent with a message and without tags. -/
def messageEvent (message : String) : CollectorEvent :=
  ⟨"i", "t", "OT", "gds_agent", "OT GDS Agent", "a", "info", "http", "c", message, "", .empty⟩

/-- No bound holds as its name says: an event that does not fit is posted, GDS's mark is longer
than a small limit and its preview than the raw value may be, and the agent's mark comes after as
many characters as the limit allows. -/
theorem limits_exceeded :
    ¬GdsWithinLimits ⟨512, 4096⟩ 1 [emptyEvent] ∧
      (Gds.Collector.truncateText "ab" 1).toList.length = 14 ∧
      (limitRaw (.arr [.null, .null]) 5).text.length = 45 ∧
      (normalizeForOtCollector ⟨1, 4096, 16384⟩ (messageEvent "ab") (.dict [])).map
        (fun made => made.message.toList.length) = some 15 ∧
      (normalizeForOtCollector ⟨512, 1, 16384⟩ (messageEvent "m") (.dict [])).map
        (fun made => made.raw.toList.length) = some 15 ∧
      (normalizeForOtCollector ⟨512, 4096, 1⟩ (messageEvent "m") (.dict [])).map
        (fun made => decide (made.bytes ≤ 1)) = some false :=
  ⟨emptyEvent_posted, by decide +kernel, by decide +kernel, by decide +kernel, by decide +kernel,
    by decide +kernel⟩

end OpcuaGds.Collector
