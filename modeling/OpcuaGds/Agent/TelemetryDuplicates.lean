import Mathlib.Tactic.Linarith
import Mathlib.Tactic.NormNum
import OpcuaGds.Agent.TelemetryDecision
import OpcuaGds.Foundation.SplitText

/-! # Suppressed and forwarded duplicates

The times of the sent keys are those of forwarded events. Forwarded events with the same five texts
are therefore at least the window apart; a suppressed event repeats a forwarded one as far as the
joined texts tell events apart.
-/

namespace OpcuaGds.Agent.Telemetry

open Admission

section Duplicates

variable {Value : Type} (str : Value → String) (env : TelemetryEnv)

/-- What suppression is for: only duplicates of events forwarded less than the window before are
suppressed, and no two forwarded duplicates are less than the window apart. -/
structure SuppressesDuplicates (events : List (TelemetryEvent Value)) : Prop where
  suppressed : ∀ front event, front ++ [event] <+: events →
    (telemetryDecision str env (after (forwards str env) .initial front) event).1 =
        .dedupSuppressed →
      ∃ earlier ∈ admitted (forwards str env) .initial front,
        earlier.fields str = event.fields str ∧ event.time - earlier.time < env.dedupWindow
  apart : (admitted (forwards str env) .initial events).Pairwise fun earlier later =>
    earlier.fields str = later.fields str → (env.dedupWindow : ℚ) ≤ later.time - earlier.time

/-- The times of the events do not decrease. -/
def InTime (events : List (TelemetryEvent Value)) : Prop :=
  events.Pairwise fun earlier later => earlier.time ≤ later.time

/-- No two events within one window have the same joined text and different texts. -/
def Separated (events : List (TelemetryEvent Value)) : Prop :=
  events.Pairwise fun first second => second.time - first.time < (env.dedupWindow : ℚ) →
    (first.fields str).joined = (second.fields str).joined → first.fields str = second.fields str

/-- Only the message may have bars. -/
structure EventFields.Plain (fields : EventFields) : Prop where
  category : '|' ∉ fields.category.toList
  severity : '|' ∉ fields.severity.toList
  target : '|' ∉ fields.target.toList
  code : '|' ∉ fields.code.toList

/-- How the sent times and the forwarded events belong together. -/
structure SentTimes (seen : List (TelemetryEvent Value)) (state : TelemetryState)
    (log : List (TelemetryEvent Value)) : Prop where
  seen : ∀ event ∈ log, event ∈ seen
  recorded : ∀ event ∈ log, ∃ time, state.lastSent.get? (eventKey str event) = some time ∧
    event.time ≤ time
  forwarded : ∀ key time, state.lastSent.get? key = some time →
    ∃ event ∈ log, eventKey str event = key ∧ event.time = time
  apart : log.Pairwise fun earlier later =>
    eventKey str earlier = eventKey str later → (env.dedupWindow : ℚ) ≤ later.time - earlier.time

theorem EventFields.eq_of_joined {fields other : EventFields} (plain : fields.Plain)
    (otherPlain : other.Plain) (same : fields.joined = other.joined) : fields = other := by
  have bar : "|".toList = ['|'] := rfl
  have regroup (front middle back : List Char) :
      front ++ '|' :: (middle ++ '|' :: back) = (front ++ '|' :: middle) ++ '|' :: back := by
    rw [List.append_assoc, List.cons_append]
  have texts := congrArg String.toList same
  simp only [EventFields.joined, String.toList_append, bar, List.append_assoc,
    List.cons_append, List.nil_append] at texts
  obtain ⟨categories, texts⟩ := SplitText.first_cancel plain.category otherPlain.category texts
  obtain ⟨severities, texts⟩ := SplitText.first_cancel plain.severity otherPlain.severity texts
  rw [regroup, regroup] at texts
  obtain ⟨texts, codes⟩ := SplitText.last_cancel plain.code otherPlain.code texts
  obtain ⟨messages, targets⟩ := SplitText.last_cancel plain.target otherPlain.target texts
  obtain ⟨category, severity, message, target, code⟩ := fields
  rw [EventFields.mk.injEq]
  exact ⟨String.toList_inj.mp categories, String.toList_inj.mp severities,
    String.toList_inj.mp messages, String.toList_inj.mp targets, String.toList_inj.mp codes⟩

variable {str env}

/-- A forwarded event is at least the window after each forwarded one with its key. -/
theorem SentTimes.window_le {seen log : List (TelemetryEvent Value)} {state : TelemetryState}
    (sent : SentTimes str env seen state log) {earlier event : TelemetryEvent Value}
    (among : earlier ∈ log) (later : earlier.time ≤ event.time)
    (same : eventKey str earlier = eventKey str event)
    (fresh : env.dedupWindow ≤ 0 ∨ ¬IsRecent str env state event) :
    (env.dedupWindow : ℚ) ≤ event.time - earlier.time := by
  obtain ⟨time, recorded, after⟩ := sent.recorded earlier among
  rcases fresh with unlimited | fresh
  · have window : (env.dedupWindow : ℚ) ≤ 0 := by exact_mod_cast unlimited
    linarith
  · have apart : ¬event.time - time < env.dedupWindow :=
      fun recent => fresh ⟨time, same ▸ recorded, recent⟩
    linarith

theorem sentTimes_step {seen log : List (TelemetryEvent Value)} {state : TelemetryState}
    {event : TelemetryEvent Value} (inTime : ∀ earlier ∈ seen, earlier.time ≤ event.time)
    (sent : SentTimes str env seen state log) :
    SentTimes str env (seen ++ [event]) (forwards str env state event).2
      (logged (forwards str env) state event log) := by
  rcases forwards_cases str env state event with ⟨forwarded, fresh, left⟩ | ⟨dropped, left⟩
  · rw [logged, if_pos forwarded]
    have get (key : String) : (forwards str env state event).2.lastSent.get? key =
        if key = eventKey str event then some event.time else state.lastSent.get? key := by
      rw [left, Dict.get?_set]
    exact {
      seen := fun other among => (List.mem_append.mp among).elim
        (fun among => List.mem_append_left _ (sent.seen other among))
        fun among => List.mem_append_right _ among
      recorded := by
        intro other among
        rw [get]
        split
        · refine ⟨event.time, rfl, ?_⟩
          rcases List.mem_append.mp among with among | last
          · exact inTime other (sent.seen other among)
          · rw [List.mem_singleton.mp last]
        · rename_i distinct
          rcases List.mem_append.mp among with among | last
          · exact sent.recorded other among
          · exact absurd (congrArg (eventKey str) (List.mem_singleton.mp last)) distinct
      forwarded := by
        intro key time found
        rw [get] at found
        split at found
        · rename_i here
          exact ⟨event, List.mem_append_right _ List.mem_cons_self, here.symm,
            Option.some.inj found⟩
        · obtain ⟨other, among, named, timed⟩ := sent.forwarded key time found
          exact ⟨other, List.mem_append_left _ among, named, timed⟩
      apart := by
        refine List.pairwise_append.mpr ⟨sent.apart, List.pairwise_singleton _ _, ?_⟩
        intro earlier among later last same
        rw [List.mem_singleton.mp last] at same ⊢
        exact sent.window_le among (inTime earlier (sent.seen earlier among)) same fresh }
  · rw [logged, if_neg (Bool.not_eq_true _ ▸ dropped)]
    exact {
      seen := fun other among => List.mem_append_left _ (sent.seen other among)
      recorded := fun other among => left ▸ sent.recorded other among
      forwarded := fun key time found => sent.forwarded key time (left ▸ found)
      apart := sent.apart }

variable (str env) in
/-- In every run the sent times are those of forwarded events. -/
theorem sentTimes_run {events : List (TelemetryEvent Value)} (inTime : InTime events) :
    SentTimes str env events (after (forwards str env) .initial events)
      (admitted (forwards str env) .initial events) := by
  refine holds_of_step ?_ (fun _ _ _ _ later sent => sentTimes_step later sent) inTime
  exact {
    seen := fun _ among => among
    recorded := fun _ among => absurd among List.not_mem_nil
    forwarded := fun key time found => by
      rw [TelemetryState.initial, Dict.get?_empty] at found
      cases found
    apart := .nil }

/-- In every run in which the joined texts tell the events within a window apart, suppression is of
duplicates only. -/
theorem suppressesDuplicates_of_separated {events : List (TelemetryEvent Value)}
    (inTime : InTime events) (separated : Separated str env events) :
    SuppressesDuplicates str env events where
  suppressed := by
    intro front event within suppressed
    obtain ⟨time, recorded, recent⟩ := isRecent_of_suppressed suppressed
    have before : front <+: events := (List.prefix_append front [event]).trans within
    have sent := sentTimes_run str env (inTime.sublist before.sublist)
    obtain ⟨earlier, among, named, rfl⟩ := sent.forwarded _ _ recorded
    have pairs := (List.pairwise_append.mp (separated.sublist within.sublist)).2.2
    have same := pairs earlier (sent.seen earlier among) event List.mem_cons_self recent named
    exact ⟨earlier, among, same, recent⟩
  apart := (sentTimes_run str env inTime).apart.imp fun apart same =>
    apart (congrArg EventFields.joined same)

/-- Texts of which only the message may have bars are told apart by their joined text. -/
theorem separated_of_plain {events : List (TelemetryEvent Value)}
    (plain : ∀ event ∈ events, (event.fields str).Plain) : Separated str env events :=
  List.pairwise_of_forall_mem_list fun _ first _ second _ same =>
    EventFields.eq_of_joined (plain _ first) (plain _ second) same

end Duplicates

/-- An event of the category `c` with a message and a target. -/
def plainEvent (time : ℚ) (message target : String) : TelemetryEvent String where
  time := time
  draw := 0
  eventCategory := "c"
  severity := "s"
  message := message
  raw := .empty
  tags := Dict.empty.set "target" target

/-- Everything is forwarded but duplicates within a minute. -/
def debugEnv : TelemetryEnv := ⟨true, "debug_all", 60, 300, none⟩

/-- Two equal messages half a minute apart and a third event. -/
theorem repeated_message_suppressed :
    SuppressesDuplicates id debugEnv
      [plainEvent 0 "m" "t", plainEvent 30 "m" "t", plainEvent 40 "n" "t"] :=
  suppressesDuplicates_of_separated
    (by norm_num [InTime, plainEvent])
    (separated_of_plain fun event among => by
      have shape : event.fields id = ⟨"c", "s", event.message, "t", ""⟩ := by
        simp only [List.mem_cons, List.not_mem_nil, or_false] at among
        rcases among with rfl | rfl | rfl <;> rfl
      rw [shape]
      have plain : ∀ text ∈ ["c", "s", "t", ""], '|' ∉ text.toList := by decide
      exact ⟨plain "c" (by decide), plain "s" (by decide), plain "t" (by decide),
        plain "" (by decide)⟩)

/-- An event that is no duplicate is suppressed. -/
theorem other_target_suppressed :
    ¬SuppressesDuplicates id debugEnv [plainEvent 0 "m|a" "t", plainEvent 30 "m" "a|t"] := by
  intro suppresses
  have suppressed : (telemetryDecision id debugEnv (after (forwards id debugEnv) .initial
      [plainEvent 0 "m|a" "t"]) (plainEvent 30 "m" "a|t")).1 = .dedupSuppressed := by
    decide +kernel
  have log : admitted (forwards id debugEnv) .initial [plainEvent 0 "m|a" "t"] =
      [plainEvent 0 "m|a" "t"] := rfl
  obtain ⟨earlier, among, same, -⟩ :=
    suppresses.suppressed [plainEvent 0 "m|a" "t"] _ List.prefix_rfl suppressed
  rw [log, List.mem_singleton] at among
  rw [among] at same
  exact absurd (congrArg EventFields.message same) (by decide)

end OpcuaGds.Agent.Telemetry
