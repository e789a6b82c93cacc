import Mathlib.Data.List.Dedup
import OpcuaGds.Agent.ArtifactAgreement
import OpcuaGds.Agent.MaintenanceWindow
import OpcuaGds.Foundation.JsonPython

/-! # Loading the maintenance policy

`load_maintenance_policy`: the three formats of the policy file, read one after the other into
one table of targets. Entries that cannot be parsed are left out, and the flags of a policy are
the truth values of what the file holds.
-/

namespace OpcuaGds.Agent

/-- `parse_rfc3339_utc`, as the moment that a UTC clock shows. -/
def parseRfc3339Moment (value : String) : Option Timestamp.DateTime :=
  (parseRfc3339Utc value).bind Timestamp.DateTime.ofMicros?

/-- `parse_time_hhmm`, in minutes of the day. -/
def parseTimeHhmm (raw : String) : Option Nat :=
  if ':' ∈ raw.toList then
    let hh := raw.toList.takeWhile fun c => c != ':'
    let mm := (raw.toList.dropWhile fun c => c != ':').drop 1
    match PythonText.readInt (String.ofList hh), PythonText.readInt (String.ofList mm) with
    | some (.ofNat hour), some (.ofNat minute) =>
        if hour < 24 ∧ minute < 60 then some (hour * 60 + minute) else none
    | _, _ => none
  else none

/-- `parse_weekday`. -/
def parseWeekday (raw : String) : Option Nat :=
  [("mon", 0), ("monday", 0), ("tue", 1), ("tuesday", 1), ("wed", 2), ("wednesday", 2),
    ("thu", 3), ("thursday", 3), ("fri", 4), ("friday", 4), ("sat", 5), ("saturday", 5),
    ("sun", 6), ("sunday", 6)].lookup (PythonText.lower (PythonText.strip raw))

/-- `str(item.get(key, item.get(other, default))).strip()`. -/
def eitherText (item : Json) (key other default : String) : String :=
  PythonText.strip ((item.field? key).getD ((item.field? other).getD (.str default))).toStr

/-- `text or default`. -/
def orText (text default : String) : String := if text = "" then default else text

/-- `_parse_blackout_entry`. -/
def parseBlackoutEntry (item : Json) : Option Blackout :=
  let startRaw := eitherText item "start_at" "start" ""
  let endRaw := eitherText item "end_at" "end" ""
  if startRaw = "" ∨ endRaw = "" then none
  else
    match parseRfc3339Moment startRaw, parseRfc3339Moment endRaw with
    | some startDt, some endDt =>
        if endDt.micros ≤ startDt.micros then none
        else some {
          name := orText (eitherText item "name" "name" "unnamed") "unnamed"
          startAt := Gds.toRfc3339Utc startDt
          endAt := Gds.toRfc3339Utc endDt }
    | _, _ => none

/-- `_parse_window_entry`. -/
def parseWindowEntry (item : Json) : Option MaintenanceWindow :=
  let startRaw := eitherText item "start" "start_at" ""
  let endRaw := eitherText item "end" "end_at" ""
  if 'T' ∈ startRaw.toList ∧ 'T' ∈ endRaw.toList then
    match parseRfc3339Moment startRaw, parseRfc3339Moment endRaw with
    | some startDt, some endDt =>
        if endDt.micros ≤ startDt.micros then none
        else some (.absolute (Gds.toRfc3339Utc startDt) (Gds.toRfc3339Utc endDt))
    | _, _ => none
  else
    match parseTimeHhmm startRaw, parseTimeHhmm endRaw, (item.field? "days").getD (.arr []) with
    | some start, some finish, .arr daysRaw =>
        let days := daysRaw.filterMap fun d => parseWeekday d.toStr
        if days = [] then none
        else some (.weekly (days.dedup.insertionSort (· ≤ ·)) start finish)
    | _, _, _ => none

/-- The targets of the policy, in the order in which they were first named. -/
abbrev TargetTable := List (String × TargetMaintenance)

/-- A target of which nothing is known. -/
def newTarget (target : String) : TargetMaintenance where
  windows := []
  blackouts := []
  policy := defaultTargetPolicy target

/-- `targets.setdefault(target, ...)`, and a change of what is held for the target. -/
def changeTarget (target : String) (change : TargetMaintenance → TargetMaintenance) :
    TargetTable → TargetTable
  | [] => [(target, change (newTarget target))]
  | (name, held) :: rest =>
      if name = target then (name, change held) :: rest
      else (name, held) :: changeTarget target change rest

/-- The policy with the values that an object of the file gives; an approval level other than
`single` and `dual` is not taken. -/
def overridePolicy (policyRaw : Json) (policy : TargetPolicy) : TargetPolicy :=
  let flag (key : String) (before : Bool) : Bool :=
    ((policyRaw.field? key).map Json.truthy).getD before
  let approvalLevel := PythonText.lower (PythonText.strip
    ((policyRaw.field? "approval_level").getD (.str policy.approvalLevel)).toStr)
  { maintenanceWindowRequired :=
      flag "maintenance_window_required" policy.maintenanceWindowRequired
    approvalLevel := if approvalLevel ∈ ["single", "dual"] then approvalLevel
      else policy.approvalLevel
    emergencyOverrideAllowed :=
      flag "emergency_override_allowed" policy.emergencyOverrideAllowed
    autoRollbackEnabled := flag "auto_rollback_enabled" policy.autoRollbackEnabled }

/-- The target of an item of `windows` or `targets`. -/
def itemTarget (item : Json) : String := eitherText item "target" "target" ""

/-- The entries of a list of an item; what is not a list has none. -/
def entriesOf (item : Json) (key : String) : List Json :=
  match item.field? key with
  | some (.arr entries) => entries
  | _ => []

/-- The loop over entries, which leaves out those that cannot be parsed. -/
def parsedEntries {Entry : Type} (parse : Json → Option Entry) (entries : List Json) :
    List Entry :=
  entries.filterMap fun entry => if entry.isObject then parse entry else none

/-- More windows for a target. -/
def addWindows (windows : List MaintenanceWindow) (held : TargetMaintenance) : TargetMaintenance :=
  { held with windows := held.windows ++ windows }

/-- The body of the loop over the v1 list of windows. -/
def loadWindow (targets : TargetTable) (item : Json) : TargetTable :=
  if ¬item.isObject ∨ itemTarget item = "" then targets
  else
    match parseWindowEntry item with
    | none => targets
    | some win => changeTarget (itemTarget item) (addWindows [win]) targets

/-- What an item of the v2 list adds to its target. -/
def mergeTarget (item : Json) (held : TargetMaintenance) : TargetMaintenance where
  windows := held.windows ++ parsedEntries parseWindowEntry (entriesOf item "windows")
  blackouts := held.blackouts ++ parsedEntries parseBlackoutEntry (entriesOf item "blackouts")
  policy :=
    let policyRaw := (item.field? "policy").getD (.obj [])
    if policyRaw.isObject then overridePolicy policyRaw held.policy else held.policy

/-- The body of the loop over the v2 list of targets. -/
def loadTarget (targets : TargetTable) (item : Json) : TargetTable :=
  if ¬item.isObject ∨ itemTarget item = "" then targets
  else changeTarget (itemTarget item) (mergeTarget item) targets

/-- What a field of the map of policies changes of its target. -/
def mergePolicy (field : String × Json) (held : TargetMaintenance) : TargetMaintenance :=
  { held with policy := overridePolicy field.2 held.policy }

/-- The body of the loop over the map of policies. -/
def loadTargetPolicy (targets : TargetTable) (field : String × Json) : TargetTable :=
  if ¬field.2.isObject ∨ PythonText.strip field.1 = "" then targets
  else changeTarget (PythonText.strip field.1) (mergePolicy field) targets

/-- The policy file: missing, one that cannot be read or decoded, or a document. -/
inductive PolicyFile where
  | missing
  | unreadable
  | document (raw : Json)

/-- The fields of the map of policies; what is not an object has none. -/
def targetPolicyMap (raw : Json) : List (String × Json) :=
  match (raw.field? "target_policies").getD (.obj []) with
  | .obj fields => fields
  | _ => []

/-- `load_maintenance_policy`; `none` for an exception. -/
def loadMaintenancePolicy (defaultTimezone : String) : PolicyFile → Option MaintenancePolicy
  | .missing => some { timezone := defaultTimezone, targets := [], globalBlackouts := [] }
  | .unreadable => none
  | .document raw => do
      let timezone ← raw.get? "timezone" (.str defaultTimezone)
      let blackouts ← ((raw.field? "blackouts").getD (.arr [])).iterate?
      let windows ← ((raw.field? "windows").getD (.arr [])).iterate?
      let targets ← ((raw.field? "targets").getD (.arr [])).iterate?
      some {
        timezone := orText (PythonText.strip timezone.toStr) defaultTimezone
        targets := (targetPolicyMap raw).foldl loadTargetPolicy
          (targets.foldl loadTarget (windows.foldl loadWindow []))
        globalBlackouts := parsedEntries parseBlackoutEntry blackouts }

/-! ## What the table holds for a target -/

/-- What is held for a target, named or not. -/
def TargetTable.of (targets : TargetTable) (target : String) : TargetMaintenance :=
  (targets.lookup target).getD (newTarget target)

/-- An item that is kept under a name is about a target. -/
abbrev IsAbout (target : String) (item : Json) (name : String) : Prop :=
  item.isObject = true ∧ name ≠ "" ∧ target = name

theorem of_changeTarget (target : String) (change : TargetMaintenance → TargetMaintenance)
    (targets : TargetTable) (other : String) :
    (changeTarget target change targets).of other =
      if other = target then change (targets.of target) else targets.of other := by
  unfold TargetTable.of
  induction targets with
  | nil =>
      by_cases same : other = target
      · simp [changeTarget, same]
      · simp [changeTarget, same, List.lookup_cons, beq_false_of_ne same]
  | cons entry rest ih =>
      obtain ⟨name, held⟩ := entry
      by_cases here : name = target
      · by_cases same : other = target
        · simp [changeTarget, here, same]
        · simp [changeTarget, here, same, List.lookup_cons, beq_false_of_ne same]
      · by_cases found : other = name
        · have other_ne : name ≠ target := here
          simp [changeTarget, found, other_ne]
        · have elsewhere : (target == name) = false := beq_false_of_ne fun same => here same.symm
          simp only [changeTarget, here, if_false, List.lookup_cons, beq_false_of_ne found,
            elsewhere]
          exact ih

/-- An item that is an object and has a name changes the target of that name. -/
theorem of_skipOrChange (item : Json) (name : String)
    (change : TargetMaintenance → TargetMaintenance) (targets : TargetTable) (target : String) :
    TargetTable.of (if ¬item.isObject ∨ name = "" then targets
        else changeTarget name change targets) target =
      if IsAbout target item name then change (targets.of target) else targets.of target := by
  by_cases skipped : ¬item.isObject ∨ name = ""
  · have notAbout : ¬IsAbout target item name := fun about => skipped.elim (· about.1) about.2.1
    rw [if_pos skipped, if_neg notAbout]
  · obtain ⟨object, named⟩ := not_or.mp skipped
    rw [if_neg skipped, of_changeTarget]
    by_cases same : target = name
    · rw [if_pos same, if_pos ⟨not_not.mp object, named, same⟩, same]
    · rw [if_neg same, if_neg fun about => same about.2.2]

theorem of_loadWindow (target : String) (targets : TargetTable) (item : Json) :
    (loadWindow targets item).of target =
      if IsAbout target item (itemTarget item) then
        addWindows (parseWindowEntry item).toList (targets.of target)
      else targets.of target := by
  cases parsed : parseWindowEntry item with
  | none => simp [loadWindow, parsed, addWindows]
  | some win =>
      have step : loadWindow targets item =
          if ¬item.isObject ∨ itemTarget item = "" then targets
          else changeTarget (itemTarget item) (addWindows [win]) targets := by
        rw [loadWindow, parsed]
      rw [step, of_skipOrChange]
      rfl

theorem of_loadTarget (target : String) (targets : TargetTable) (item : Json) :
    (loadTarget targets item).of target =
      if IsAbout target item (itemTarget item) then mergeTarget item (targets.of target)
      else targets.of target :=
  of_skipOrChange item (itemTarget item) (mergeTarget item) targets target

theorem of_loadTargetPolicy (target : String) (targets : TargetTable) (field : String × Json) :
    (loadTargetPolicy targets field).of target =
      if IsAbout target field.2 (PythonText.strip field.1) then
        mergePolicy field (targets.of target)
      else targets.of target :=
  of_skipOrChange field.2 (PythonText.strip field.1) (mergePolicy field) targets target

/-- A loop over items changes what is held for a target by the items that are about it. -/
theorem of_foldl {Item : Type} {step : TargetTable → Item → TargetTable} {target : String}
    {isFor : Item → Prop} [DecidablePred isFor]
    {change : Item → TargetMaintenance → TargetMaintenance}
    (one : ∀ targets item, (step targets item).of target =
      if isFor item then change item (targets.of target) else targets.of target)
    (items : List Item) (targets : TargetTable) :
    (items.foldl step targets).of target =
      (items.filter isFor).foldl (fun held item => change item held) (targets.of target) := by
  induction items generalizing targets with
  | nil => rfl
  | cons item rest ih =>
      rw [List.foldl_cons, ih, one, List.filter_cons]
      by_cases about : isFor item
      · rw [if_pos about, if_pos (decide_eq_true about), List.foldl_cons]
      · rw [if_neg about, if_neg (by rw [decide_eq_true_iff]; exact about)]

/-! ## What the file says -/

/-- The items of a list of the file. -/
def fileItems (raw : Json) (key : String) : List Json :=
  ((raw.field? key).getD (.arr [])).iterate?.getD []

/-- The items of the v2 list about a target. -/
def targetItems (raw : Json) (target : String) : List Json :=
  (fileItems raw "targets").filter fun item => IsAbout target item (itemTarget item)

/-- The blackout entries that the file has for a target. -/
def writtenBlackouts (raw : Json) (target : String) : List Json :=
  (targetItems raw target).flatMap fun item => entriesOf item "blackouts"

/-- The policy objects that the file has for a target, in the order in which they count. -/
def writtenPolicies (raw : Json) (target : String) : List Json :=
  (((targetItems raw target).map fun item => (item.field? "policy").getD (.obj [])) ++
    ((targetPolicyMap raw).filter fun field =>
      IsAbout target field.2 (PythonText.strip field.1)).map Prod.snd).filter Json.isObject

/-- An entry is an object with a start and an end, and the end is after the start. -/
def EntrySpans (entry : Json) (start finish : Timestamp.DateTime) : Prop :=
  entry.isObject = true ∧ parseRfc3339Moment (eitherText entry "start_at" "start" "") = some start ∧
    parseRfc3339Moment (eitherText entry "end_at" "end" "") = some finish ∧
    start.micros < finish.micros

/-- A blackout has the name of an entry and covers the instants from its start to its end. -/
structure Represents (entry : Json) (blackout : Blackout) : Prop where
  name : blackout.name = orText (eitherText entry "name" "name" "unnamed") "unnamed"
  spans : ∃ start finish, EntrySpans entry start finish ∧
    ∀ now, blackout.Covers now ↔ (start.micros : Int) ≤ now ∧ now ≤ finish.micros

theorem parseBlackoutEntry_of_spans {entry : Json} {start finish : Timestamp.DateTime}
    (spans : EntrySpans entry start finish) :
    parseBlackoutEntry entry = some {
      name := orText (eitherText entry "name" "name" "unnamed") "unnamed"
      startAt := Gds.toRfc3339Utc start
      endAt := Gds.toRfc3339Utc finish } := by
  obtain ⟨_, started, finished, order⟩ := spans
  have read {text : String} {moment : Timestamp.DateTime}
      (parsed : parseRfc3339Moment text = some moment) : text ≠ "" := by
    intro empty
    have none : parseRfc3339Moment "" = Option.none := by decide
    rw [empty, none] at parsed
    cases parsed
  rw [parseBlackoutEntry, if_neg (not_or.mpr ⟨read started, read finished⟩)]
  simp only [started, finished, if_neg (Nat.not_le.mpr order)]

theorem spans_of_parseBlackoutEntry {entry : Json} {blackout : Blackout}
    (object : entry.isObject = true) (parsed : parseBlackoutEntry entry = some blackout) :
    ∃ start finish, EntrySpans entry start finish := by
  simp only [parseBlackoutEntry] at parsed
  split at parsed
  · cases parsed
  · split at parsed
    · rename_i start finish started finished
      split at parsed
      · cases parsed
      · rename_i order
        exact ⟨start, finish, object, started, finished, Nat.not_le.mp order⟩
    · cases parsed

theorem covers_written {name : String} {start finish : Timestamp.DateTime} (now : Int) :
    Blackout.Covers {
      name, startAt := Gds.toRfc3339Utc start, endAt := Gds.toRfc3339Utc finish } now ↔
      (start.micros : Int) ≤ now ∧ now ≤ finish.micros := by
  simp [Blackout.Covers, parseRfc3339Utc_toRfc3339Utc]

/-- The parsed entry stands for the entry. -/
theorem represents_of_parse {entry : Json} {blackout : Blackout} (object : entry.isObject = true)
    (parsed : parseBlackoutEntry entry = some blackout) : Represents entry blackout := by
  obtain ⟨start, finish, spans⟩ := spans_of_parseBlackoutEntry object parsed
  rw [parseBlackoutEntry_of_spans spans, Option.some.injEq] at parsed
  refine ⟨by rw [← parsed], start, finish, spans, fun now => ?_⟩
  rw [← parsed]
  exact covers_written now

/-- The loaded blackouts stand for the entries that can be parsed, and for nothing else. -/
structure Kept (entries : List Json) (blackouts : List Blackout) : Prop where
  parsed : ∀ entry ∈ entries, (∃ start finish, EntrySpans entry start finish) →
    ∃ blackout ∈ blackouts, Represents entry blackout
  written : ∀ blackout ∈ blackouts, ∃ entry ∈ entries, Represents entry blackout

theorem kept_parsedEntries (entries : List Json) :
    Kept entries (parsedEntries parseBlackoutEntry entries) where
  parsed := by
    intro entry member spanned
    obtain ⟨start, finish, spans⟩ := spanned
    have parsed := parseBlackoutEntry_of_spans spans
    refine ⟨_, List.mem_filterMap.mpr ⟨entry, member, ?_⟩, represents_of_parse spans.1 parsed⟩
    rw [if_pos spans.1, parsed]
  written := by
    intro blackout member
    obtain ⟨entry, inEntries, parsed⟩ := List.mem_filterMap.mp member
    split at parsed
    · rename_i object
      exact ⟨entry, inEntries, represents_of_parse object parsed⟩
    · cases parsed

/-! ## What is loaded -/

section Loaded

variable {raw : Json} {defaultTimezone : String} {policy : MaintenancePolicy}

/-- Loading is the three loops, one after the other. -/
theorem of_loaded (loaded : loadMaintenancePolicy defaultTimezone (.document raw) = some policy) :
    policy.globalBlackouts = parsedEntries parseBlackoutEntry (fileItems raw "blackouts") ∧
      policy.targets = (targetPolicyMap raw).foldl loadTargetPolicy
        ((fileItems raw "targets").foldl loadTarget
          ((fileItems raw "windows").foldl loadWindow [])) := by
  simp only [loadMaintenancePolicy, Option.bind_eq_bind, Option.bind_eq_some_iff,
    Option.some.injEq] at loaded
  obtain ⟨timezone, _, blackouts, readBlackouts, windows, readWindows, targets, readTargets, rfl⟩ :=
    loaded
  simp only [fileItems, readBlackouts, readWindows, readTargets, Option.getD_some, and_self]

/-- The policies of the map change nothing but the policy of a target. -/
theorem foldl_policies (fields : List (String × Json)) (held : TargetMaintenance) :
    fields.foldl (fun held field => mergePolicy field held) held =
      { held with policy := (fields.map Prod.snd).foldl (fun policy object =>
          overridePolicy object policy) held.policy } := by
  induction fields generalizing held with
  | nil => rfl
  | cons field rest ih =>
      rw [List.foldl_cons, ih, List.map_cons, List.foldl_cons]
      rfl

/-- The items of the v2 list add their blackouts, and their policies count one after the other. -/
theorem foldl_items (items : List Json) (held : TargetMaintenance) :
    (items.foldl (fun held item => mergeTarget item held) held).blackouts =
        held.blackouts ++ parsedEntries parseBlackoutEntry
          (items.flatMap fun item => entriesOf item "blackouts") ∧
      (items.foldl (fun held item => mergeTarget item held) held).policy =
        ((items.map fun item => (item.field? "policy").getD (.obj [])).filter Json.isObject).foldl
          (fun policy object => overridePolicy object policy) held.policy := by
  induction items generalizing held with
  | nil => exact ⟨(List.append_nil _).symm, rfl⟩
  | cons item rest ih =>
      obtain ⟨blackouts, policies⟩ := ih (mergeTarget item held)
      rw [List.foldl_cons, blackouts, policies, List.flatMap_cons, List.map_cons, List.filter_cons]
      constructor
      · rw [mergeTarget, List.append_assoc, parsedEntries, parsedEntries, parsedEntries,
          List.filterMap_append]
      · by_cases object : ((item.field? "policy").getD (.obj [])).isObject = true
        · rw [if_pos object, List.foldl_cons, mergeTarget, if_pos object]
        · rw [if_neg object, mergeTarget, if_neg object]

/-- The windows of the v1 list change nothing but the windows of a target. -/
theorem foldl_windows (items : List Json) (held : TargetMaintenance) :
    ∃ windows, items.foldl (fun held item => addWindows (parseWindowEntry item).toList held) held =
      { held with windows := windows } := by
  induction items generalizing held with
  | nil => exact ⟨held.windows, rfl⟩
  | cons item rest ih => exact ih _

/-- What is held for a target comes from the items about it. -/
theorem target_of_loaded
    (loaded : loadMaintenancePolicy defaultTimezone (.document raw) = some policy)
    (target : String) :
    (policy.of target).blackouts =
        parsedEntries parseBlackoutEntry (writtenBlackouts raw target) ∧
      (policy.of target).policy = (writtenPolicies raw target).foldl
        (fun policy object => overridePolicy object policy) (defaultTargetPolicy target) := by
  have held : policy.of target = TargetTable.of policy.targets target := rfl
  rw [held, (of_loaded loaded).2, of_foldl (of_loadTargetPolicy target), foldl_policies,
    of_foldl (of_loadTarget target), of_foldl (of_loadWindow target)]
  obtain ⟨windows, windowsOnly⟩ := foldl_windows ((fileItems raw "windows").filter fun item =>
    IsAbout target item (itemTarget item)) (newTarget target)
  rw [TargetTable.of, List.lookup_nil, Option.getD_none, windowsOnly]
  obtain ⟨blackouts, policies⟩ := foldl_items (targetItems raw target)
    { newTarget target with windows := windows }
  have objects : (((targetPolicyMap raw).filter fun field =>
      IsAbout target field.2 (PythonText.strip field.1)).map Prod.snd).filter Json.isObject =
      ((targetPolicyMap raw).filter fun field =>
        IsAbout target field.2 (PythonText.strip field.1)).map Prod.snd := by
    rw [List.filter_eq_self]
    intro object member
    obtain ⟨field, filtered, rfl⟩ := List.mem_map.mp member
    exact (of_decide_eq_true (List.mem_filter.mp filtered).2).1
  constructor
  · exact blackouts.trans (List.nil_append _)
  · rw [writtenPolicies, List.filter_append, objects, List.foldl_append]
    exact congrArg (List.foldl (fun policy object => overridePolicy object policy) · _) policies

/-- A flag that the policy objects set is the default, or one of them has a true value for it. -/
theorem emergency_of_overrides (objects : List Json) (policy : TargetPolicy)
    (allowed : (objects.foldl (fun policy object => overridePolicy object policy)
      policy).emergencyOverrideAllowed = true) :
    policy.emergencyOverrideAllowed = true ∨ ∃ object ∈ objects, ∃ value,
      object.field? "emergency_override_allowed" = some value ∧ value.truthy = true := by
  induction objects generalizing policy with
  | nil => exact .inl allowed
  | cons object rest ih =>
      rcases ih (overridePolicy object policy) allowed with before | later
      · cases given : object.field? "emergency_override_allowed" with
        | none =>
            simp only [overridePolicy, given, Option.map_none, Option.getD_none] at before
            exact .inl before
        | some value =>
            simp only [overridePolicy, given, Option.map_some, Option.getD_some] at before
            exact .inr ⟨object, List.mem_cons_self, value, given, before⟩
      · obtain ⟨other, member, found⟩ := later
        exact .inr ⟨other, List.mem_cons_of_mem _ member, found⟩

variable (raw policy) in
/-- What the loaded policy holds of a file: the blackout entries that can be parsed, of the file
and of each target, and no emergency override that neither the target's default nor a true
value in the file allows. -/
structure LoadedFrom : Prop where
  globalBlackouts : Kept (fileItems raw "blackouts") policy.globalBlackouts
  targetBlackouts : ∀ target, Kept (writtenBlackouts raw target) (policy.of target).blackouts
  emergency : ∀ target, (policy.of target).policy.emergencyOverrideAllowed = true →
    (defaultTargetPolicy target).emergencyOverrideAllowed = true ∨
      ∃ object ∈ writtenPolicies raw target, ∃ value,
        object.field? "emergency_override_allowed" = some value ∧ value.truthy = true

variable (raw policy) in
/-- Every blackout entry of the file is in the policy, and only the JSON value `true` allows an
emergency override. -/
structure FailClosed : Prop where
  globalBlackouts : ∀ entry ∈ fileItems raw "blackouts",
    ∃ blackout ∈ policy.globalBlackouts, Represents entry blackout
  targetBlackouts : ∀ target, ∀ entry ∈ writtenBlackouts raw target,
    ∃ blackout ∈ (policy.of target).blackouts, Represents entry blackout
  emergency : ∀ target, (policy.of target).policy.emergencyOverrideAllowed = true →
    (defaultTargetPolicy target).emergencyOverrideAllowed = true ∨
      ∃ object ∈ writtenPolicies raw target,
        object.field? "emergency_override_allowed" = some (.bool true)

theorem loaded_from_file
    (loaded : loadMaintenancePolicy defaultTimezone (.document raw) = some policy) :
    LoadedFrom raw policy where
  globalBlackouts := (of_loaded loaded).1 ▸ kept_parsedEntries _
  targetBlackouts := fun target => (target_of_loaded loaded target).1 ▸ kept_parsedEntries _
  emergency := by
    intro target allowed
    rw [(target_of_loaded loaded target).2] at allowed
    exact emergency_of_overrides _ _ allowed

end Loaded

/-- A policy file with a blackout whose start is not a time, and the text `"false"` where the
emergency override of a target is to be switched off. -/
def carelessPolicy : Json := .obj [
  ("blackouts", .arr [.obj [("start", .str "tomorrow"), ("end", .str "2026-12-31")]]),
  ("target_policies", .obj [("plc", .obj [("emergency_override_allowed", .str "false")])])]

theorem careless_policy_loads :
    (loadMaintenancePolicy "UTC" (.document carelessPolicy)).isSome = true := by decide

theorem careless_policy_loaded_from :
    ∃ policy, loadMaintenancePolicy "UTC" (.document carelessPolicy) = some policy ∧
      LoadedFrom carelessPolicy policy := by
  obtain ⟨policy, loaded⟩ := Option.isSome_iff_exists.mp careless_policy_loads
  exact ⟨policy, loaded, loaded_from_file loaded⟩

/-- It is loaded without the blackout and with the override allowed. -/
theorem careless_policy_loaded :
    ∃ policy, loadMaintenancePolicy "UTC" (.document carelessPolicy) = some policy ∧
      (¬ ∀ entry ∈ fileItems carelessPolicy "blackouts",
        ∃ blackout ∈ policy.globalBlackouts, Represents entry blackout) ∧
      (¬ ∀ target, (policy.of target).policy.emergencyOverrideAllowed = true →
        (defaultTargetPolicy target).emergencyOverrideAllowed = true ∨
          ∃ object ∈ writtenPolicies carelessPolicy target,
            object.field? "emergency_override_allowed" = some (.bool true)) ∧
      ¬ FailClosed carelessPolicy policy := by
  have noBlackout : parsedEntries parseBlackoutEntry (fileItems carelessPolicy "blackouts") =
      [] := by decide
  have written : writtenPolicies carelessPolicy "plc" =
      [.obj [("emergency_override_allowed", .str "false")]] := rfl
  obtain ⟨policy, loaded⟩ := Option.isSome_iff_exists.mp careless_policy_loads
  have vanished : ¬ ∀ entry ∈ fileItems carelessPolicy "blackouts",
      ∃ blackout ∈ policy.globalBlackouts, Represents entry blackout := by
    intro all
    obtain ⟨blackout, member, _⟩ := all _ List.mem_cons_self
    rw [(of_loaded loaded).1, noBlackout] at member
    cases member
  have allowed : (policy.of "plc").policy.emergencyOverrideAllowed = true := by
    rw [(target_of_loaded loaded "plc").2, written]
    decide
  have opened : ¬ ∀ target, (policy.of target).policy.emergencyOverrideAllowed = true →
      (defaultTargetPolicy target).emergencyOverrideAllowed = true ∨
        ∃ object ∈ writtenPolicies carelessPolicy target,
          object.field? "emergency_override_allowed" = some (.bool true) := by
    intro all
    rcases all "plc" allowed with byDefault | byFile
    · exact absurd byDefault (by decide)
    · obtain ⟨object, member, given⟩ := byFile
      rw [written, List.mem_singleton] at member
      subst member
      cases given
  exact ⟨policy, loaded, vanished, opened, fun failClosed => vanished failClosed.globalBlackouts⟩

end OpcuaGds.Agent
