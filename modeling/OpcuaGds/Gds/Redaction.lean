import OpcuaGds.Foundation.PythonValue
import OpcuaGds.Gds.CollectorEvents

/-! # Redaction of what GDS sends to the collector

`redact_secrets` walks through dictionaries and lists. A tuple goes to `_json_safe`, which only
makes its parts fit for JSON; and a key is looked up with its hyphens as underscores among keys of
which some have hyphens.
-/

namespace OpcuaGds.Gds.Redaction

open Gds.Collector (dropOrRedactKeys normalizedKey)

/-! ## The functions -/

/-- `_json_safe` of a value without parts. -/
def jsonSafeScalar : PyScalar → PyValue
  | .datetime utc => .str (toRfc3339Utc utc)
  | .date day => .str (String.ofList day.dateText)
  | .decimal _ asFloat => .scalar (.float asFloat)
  | .bytes _ => .str "<redacted-bytes>"
  | value => .scalar value

mutual

/-- `_json_safe`. -/
def jsonSafe : PyValue → PyValue
  | .dict entries => .dict (Dict.ofList (jsonSafeEntries entries)).items
  | .list items => .list (jsonSafeItems items)
  | .tuple items => .list (jsonSafeItems items)
  | .str text => .str text
  | .scalar value => jsonSafeScalar value

def jsonSafeItems : List PyValue → List PyValue
  | [] => []
  | item :: rest => jsonSafe item :: jsonSafeItems rest

def jsonSafeEntries : List (String × PyValue) → List (String × PyValue)
  | [] => []
  | (key, value) :: rest => (key, jsonSafe value) :: jsonSafeEntries rest

end

/-- `"-----BEGIN " in value or "-----END " in value`. -/
def HasMarker (text : String) : Prop :=
  "-----BEGIN ".toList <:+: text.toList ∨ "-----END ".toList <:+: text.toList

instance (text : String) : Decidable (HasMarker text) :=
  inferInstanceAs (Decidable (_ ∨ _))

mutual

/-- `redact_secrets`. -/
def redactSecrets : PyValue → PyValue
  | .dict entries => .dict (Dict.ofList (redactEntries entries)).items
  | .list items => .list (redactItems items)
  | .tuple items => .list (jsonSafeItems items)
  | .str text => if HasMarker text then .str "<redacted-pem>" else .str text
  | .scalar value => jsonSafeScalar value

def redactItems : List PyValue → List PyValue
  | [] => []
  | item :: rest => redactSecrets item :: redactItems rest

def redactEntries : List (String × PyValue) → List (String × PyValue)
  | [] => []
  | (key, value) :: rest =>
      (key, if normalizedKey key ∈ dropOrRedactKeys then .str "<redacted>"
        else redactSecrets value) :: redactEntries rest

end

/-! ## Statements -/

/-- A key is one of the listed ones, in any letter case, with hyphens or underscores and with
blanks around it. -/
def IsListed (key : String) : Prop :=
  ∃ name ∈ dropOrRedactKeys, normalizedKey key = normalizedKey name

/-- No entry of a listed key keeps its value, and no text has a marker. -/
structure Unleaking (value : PyValue) : Prop where
  listed : ∀ path entries, value.follow path = some (.dict entries) → ∀ entry ∈ entries,
    IsListed entry.1 → entry.2 = .str "<redacted>"
  keys : ∀ path entries, value.follow path = some (.dict entries) → ∀ entry ∈ entries,
    ¬HasMarker entry.1
  texts : ∀ path text, value.follow path = some (.str text) → ¬HasMarker text

/-- The redaction of a value leaks nothing, is not redacted further, and has the texts without
markers that are not under listed keys. -/
structure RedactionComplete (value : PyValue) : Prop where
  unleaking : Unleaking (redactSecrets value)
  idempotent : redactSecrets (redactSecrets value) = redactSecrets value
  kept : ∀ path text, (∀ key, .key key ∈ path → ¬IsListed key) →
    value.follow path = some (.str text) → ¬HasMarker text →
      (redactSecrets value).follow path = some (.str text)

/-- A value that is safe as it is: what stands in its dictionaries under a listed key is redacted
already, and no text has a marker. -/
inductive Harmless : PyValue → Prop
  | dict {entries : List (String × PyValue)}
      (keys : ∀ key value, entries.reverse.lookup key = some value → ¬HasMarker key)
      (listed : ∀ key value, entries.reverse.lookup key = some value → IsListed key →
        value = .str "<redacted>")
      (each : ∀ key value, entries.reverse.lookup key = some value → Harmless value) :
      Harmless (.dict entries)
  | list {items : List PyValue} (each : ∀ item ∈ items, Harmless item) : Harmless (.list items)
  | tuple {items : List PyValue} (each : ∀ item ∈ items, Harmless item) : Harmless (.tuple items)
  | str {text : String} (unmarked : ¬HasMarker text) : Harmless (.str text)
  | scalar (value : PyScalar) : Harmless (.scalar value)

/-- A value of which the redaction reaches every secret: its tuples are harmless, and what stands
in its dictionaries under a listed key with hyphens is redacted already. -/
inductive Redactable : PyValue → Prop
  | dict {entries : List (String × PyValue)}
      (keys : ∀ key value, entries.reverse.lookup key = some value → ¬HasMarker key)
      (listed : ∀ key value, entries.reverse.lookup key = some value → IsListed key →
        normalizedKey key ∉ dropOrRedactKeys → value = .str "<redacted>")
      (each : ∀ key value, entries.reverse.lookup key = some value →
        normalizedKey key ∉ dropOrRedactKeys → Redactable value) : Redactable (.dict entries)
  | list {items : List PyValue} (each : ∀ item ∈ items, Redactable item) : Redactable (.list items)
  | tuple {items : List PyValue} (each : ∀ item ∈ items, Harmless item) : Redactable (.tuple items)
  | str (text : String) : Redactable (.str text)
  | scalar (value : PyScalar) : Redactable (.scalar value)

/-! ## Walking through a value -/

theorem jsonSafeItems_eq_map (items : List PyValue) : jsonSafeItems items = items.map jsonSafe := by
  induction items with
  | nil => rfl
  | cons item rest ih => rw [jsonSafeItems, ih, List.map_cons]

theorem jsonSafeEntries_eq_map (entries : List (String × PyValue)) :
    jsonSafeEntries entries = entries.map fun entry => (entry.1, jsonSafe entry.2) := by
  induction entries with
  | nil => rfl
  | cons entry rest ih => rw [jsonSafeEntries, ih, List.map_cons]

theorem redactItems_eq_map (items : List PyValue) :
    redactItems items = items.map redactSecrets := by
  induction items with
  | nil => rfl
  | cons item rest ih => rw [redactItems, ih, List.map_cons]

/-- What becomes of an entry. -/
def redactEntry (key : String) (value : PyValue) : PyValue :=
  if normalizedKey key ∈ dropOrRedactKeys then .str "<redacted>" else redactSecrets value

theorem redactEntries_eq_map (entries : List (String × PyValue)) :
    redactEntries entries = entries.map fun entry => (entry.1, redactEntry entry.1 entry.2) := by
  induction entries with
  | nil => rfl
  | cons entry rest ih => rw [redactEntries, ih, List.map_cons, redactEntry]

theorem isListed_of_mem {key : String} (member : normalizedKey key ∈ dropOrRedactKeys) :
    IsListed key := by
  have plain : '-' ∉ (normalizedKey key).toList := by
    rw [normalizedKey, String.toList_ofList, PythonText.replaceChar, List.mem_flatMap]
    intro among
    obtain ⟨char, -, among⟩ := among
    split at among
    · exact absurd (List.mem_singleton.mp among) (by decide)
    · rename_i other
      exact other (List.mem_singleton.mp among).symm
  have names : ∀ name ∈ dropOrRedactKeys, '-' ∉ name.toList → normalizedKey name = name := by
    decide +kernel
  exact ⟨_, member, (names _ member plain).symm⟩

/-- A value as redaction leaves it. -/
inductive Settled : PyValue → Prop
  | dict {entries : List (String × PyValue)} (once : (entries.map Prod.fst).Nodup)
      (each : ∀ entry ∈ entries, Settled entry.2) : Settled (.dict entries)
  | list {items : List PyValue} (each : ∀ item ∈ items, Settled item) : Settled (.list items)
  | str (text : String) : Settled (.str text)
  | scalar {value : PyScalar} (fixed : jsonSafeScalar value = .scalar value) :
      Settled (.scalar value)

theorem settled_ofList (made : String → PyValue → PyValue) {entries : List (String × PyValue)}
    (each : ∀ entry ∈ entries, Settled (made entry.1 entry.2)) :
    Settled (.dict (Dict.ofList
      (entries.map fun entry => (entry.1, made entry.1 entry.2))).items) := by
  refine .dict (Dict.nodup _) fun entry among => ?_
  have found := Dict.mem_items.mp among
  rw [Dict.get?_ofList_map] at found
  obtain ⟨value, held, same⟩ := Option.map_eq_some_iff.mp found
  have source := List.mem_reverse.mp (Dict.mem_of_lookup_eq_some held)
  exact same ▸ each _ source

theorem settled_jsonSafeScalar (value : PyScalar) : Settled (jsonSafeScalar value) := by
  cases value with
  | datetime utc => exact .str _
  | date day => exact .str _
  | bytes content => exact .str _
  | none => exact .scalar rfl
  | bool value => exact .scalar rfl
  | int value => exact .scalar rfl
  | float text => exact .scalar rfl
  | decimal text asFloat => exact .scalar rfl

theorem settled_items {items : List PyValue} {made : PyValue → PyValue}
    (each : ∀ item ∈ items, Settled (made item)) : Settled (.list (items.map made)) := by
  refine .list fun item among => ?_
  obtain ⟨source, inItems, rfl⟩ := List.mem_map.mp among
  exact each source inItems

theorem settled_jsonSafe (value : PyValue) : Settled (jsonSafe value) := by
  induction value using PyValue.nested with
  | dict entries ih =>
      rw [jsonSafe, jsonSafeEntries_eq_map]
      exact settled_ofList (fun _ => jsonSafe) ih
  | list items ih =>
      rw [jsonSafe, jsonSafeItems_eq_map]
      exact settled_items ih
  | tuple items ih =>
      rw [jsonSafe, jsonSafeItems_eq_map]
      exact settled_items ih
  | str text =>
      rw [jsonSafe]
      exact .str text
  | scalar value =>
      rw [jsonSafe]
      exact settled_jsonSafeScalar value

theorem settled_redactSecrets (value : PyValue) : Settled (redactSecrets value) := by
  induction value using PyValue.nested with
  | dict entries ih =>
      rw [redactSecrets, redactEntries_eq_map]
      refine settled_ofList redactEntry fun entry among => ?_
      rw [redactEntry]
      split
      · exact .str _
      · exact ih entry among
  | list items ih =>
      rw [redactSecrets, redactItems_eq_map]
      exact settled_items ih
  | tuple items ih =>
      rw [redactSecrets, jsonSafeItems_eq_map]
      exact settled_items fun item _ => settled_jsonSafe item
  | str text =>
      rw [redactSecrets]
      split <;> exact .str _
  | scalar value =>
      rw [redactSecrets]
      exact settled_jsonSafeScalar value

/-! ## What is harmless -/

theorem not_hasMarker_redacted : ¬HasMarker "<redacted>" := by decide

/-- A text with a character that no marker has, and without blanks, has no marker. -/
theorem not_hasMarker_of_notMem {text : String} (absent : ' ' ∉ text.toList) : ¬HasMarker text := by
  intro marked
  have blanks : ' ' ∈ "-----BEGIN ".toList ∧ ' ' ∈ "-----END ".toList := by decide
  exact marked.elim (fun inside => absent (inside.subset blanks.1))
    fun inside => absent (inside.subset blanks.2)

theorem notMem_toRfc3339Utc {c : Char} (other : Timestamp.clockChar c = false) (notDash : c ≠ '-')
    (notT : c ≠ 'T') (notZ : c ≠ 'Z') (moment : Timestamp.DateTime) :
    c ∉ (toRfc3339Utc moment).toList := by
  rw [toList_toRfc3339Utc, List.mem_append, not_or]
  exact ⟨Timestamp.notMem_dateTime other notDash notT moment,
    fun among => notZ (List.mem_singleton.mp among)⟩

theorem notMem_dateText {c : Char} (other : Timestamp.clockChar c = false) (notDash : c ≠ '-')
    (notT : c ≠ 'T') (moment : Timestamp.DateTime) : c ∉ moment.dateText :=
  fun among => Timestamp.notMem_dateTime other notDash notT moment (List.mem_append_left _ among)

theorem harmless_jsonSafeScalar (value : PyScalar) : Harmless (jsonSafeScalar value) := by
  cases value with
  | datetime utc =>
      exact .str (not_hasMarker_of_notMem
        (notMem_toRfc3339Utc (by decide) (by decide) (by decide) (by decide) utc))
  | date day =>
      refine .str (not_hasMarker_of_notMem ?_)
      rw [String.toList_ofList]
      exact notMem_dateText (by decide) (by decide) (by decide) day
  | bytes content => exact .str (by decide)
  | none => exact .scalar _
  | bool value => exact .scalar _
  | int value => exact .scalar _
  | float text => exact .scalar _
  | decimal text asFloat => exact .scalar _

theorem jsonSafeScalar_ne_redacted (value : PyScalar) :
    jsonSafeScalar value ≠ .str "<redacted>" := by
  have bracket : '<' ∈ "<redacted>".toList := by decide
  cases value with
  | datetime utc =>
      intro same
      have text : toRfc3339Utc utc = "<redacted>" := PyValue.str.inj same
      exact notMem_toRfc3339Utc (by decide) (by decide) (by decide) (by decide) utc
        (text ▸ bracket)
  | date day =>
      intro same
      have text : String.ofList day.dateText = "<redacted>" := PyValue.str.inj same
      have chars : day.dateText = "<redacted>".toList := by rw [← text, String.toList_ofList]
      exact notMem_dateText (by decide) (by decide) (by decide) day (chars ▸ bracket)
  | bytes content => exact fun same => absurd (PyValue.str.inj same) (by decide)
  | none => exact nofun
  | bool value => exact nofun
  | int value => exact nofun
  | float text => exact nofun
  | decimal text asFloat => exact nofun

theorem jsonSafe_eq_redacted_iff {value : PyValue} :
    jsonSafe value = .str "<redacted>" ↔ value = .str "<redacted>" := by
  cases value with
  | dict entries =>
      rw [jsonSafe]
      exact iff_of_false nofun nofun
  | list items =>
      rw [jsonSafe]
      exact iff_of_false nofun nofun
  | tuple items =>
      rw [jsonSafe]
      exact iff_of_false nofun nofun
  | str text => rw [jsonSafe]
  | scalar value =>
      rw [jsonSafe]
      exact iff_of_false (jsonSafeScalar_ne_redacted value) nofun

theorem redactSecrets_eq_redacted_iff {value : PyValue} :
    redactSecrets value = .str "<redacted>" ↔ value = .str "<redacted>" := by
  cases value with
  | dict entries =>
      rw [redactSecrets]
      exact iff_of_false nofun nofun
  | list items =>
      rw [redactSecrets]
      exact iff_of_false nofun nofun
  | tuple items =>
      rw [redactSecrets]
      exact iff_of_false nofun nofun
  | str text =>
      rw [redactSecrets]
      split
      · rename_i marked
        refine iff_of_false (fun same => absurd (PyValue.str.inj same) (by decide)) fun same => ?_
        exact not_hasMarker_redacted (PyValue.str.inj same ▸ marked)
      · exact Iff.rfl
  | scalar value =>
      rw [redactSecrets]
      exact iff_of_false (jsonSafeScalar_ne_redacted value) nofun

/-- The conditions on an entry of a harmless dictionary. -/
structure HarmlessEntry (key : String) (value : PyValue) : Prop where
  unmarked : ¬HasMarker key
  listed : IsListed key → value = .str "<redacted>"
  each : Harmless value

theorem harmless_dict_iff {entries : List (String × PyValue)} :
    Harmless (.dict entries) ↔
      ∀ key value, entries.reverse.lookup key = some value → HarmlessEntry key value := by
  constructor
  · intro harmless
    cases harmless with
    | dict keys listed each =>
        exact fun key value held =>
          ⟨keys key value held, listed key value held, each key value held⟩
  · intro entry
    exact .dict (fun key value held => (entry key value held).unmarked)
      (fun key value held => (entry key value held).listed)
      fun key value held => (entry key value held).each

theorem harmless_ofList_iff (made : String → PyValue → PyValue)
    {entries : List (String × PyValue)} :
    Harmless (.dict (Dict.ofList
      (entries.map fun entry => (entry.1, made entry.1 entry.2))).items) ↔
      ∀ key value, entries.reverse.lookup key = some value →
        HarmlessEntry key (made key value) := by
  rw [harmless_dict_iff]
  simp only [Dict.lookup_reverse (Dict.nodup _)]
  constructor
  · intro entry key value held
    refine entry key _ ((Dict.get?_ofList_map entries made).trans ?_)
    rw [held, Option.map_some]
  · intro entry key result held
    obtain ⟨value, source, rfl⟩ :=
      Option.map_eq_some_iff.mp ((Dict.get?_ofList_map entries made).symm.trans held)
    exact entry key value source

theorem harmless_list_iff {items : List PyValue} :
    Harmless (.list items) ↔ ∀ item ∈ items, Harmless item := by
  constructor
  · intro harmless
    cases harmless with
    | list each => exact each
  · exact .list

theorem harmless_tuple_iff {items : List PyValue} :
    Harmless (.tuple items) ↔ ∀ item ∈ items, Harmless item := by
  constructor
  · intro harmless
    cases harmless with
    | tuple each => exact each
  · exact .tuple

theorem harmless_str_iff {text : String} : Harmless (.str text) ↔ ¬HasMarker text := by
  constructor
  · intro harmless
    cases harmless with
    | str unmarked => exact unmarked
  · exact .str

/-- Making a value fit for JSON does not take anything harmful away. -/
theorem harmless_jsonSafe_iff (value : PyValue) : Harmless (jsonSafe value) ↔ Harmless value := by
  induction value using PyValue.nested with
  | dict entries ih =>
      rw [jsonSafe, jsonSafeEntries_eq_map, harmless_ofList_iff fun _ => jsonSafe,
        harmless_dict_iff]
      refine forall₃_congr fun key value held => ?_
      have here := ih _ (List.mem_reverse.mp (Dict.mem_of_lookup_eq_some held))
      constructor
      · intro entry
        exact ⟨entry.unmarked, fun named => jsonSafe_eq_redacted_iff.mp (entry.listed named),
          here.mp entry.each⟩
      · intro entry
        exact ⟨entry.unmarked, fun named => jsonSafe_eq_redacted_iff.mpr (entry.listed named),
          here.mpr entry.each⟩
  | list items ih =>
      rw [jsonSafe, jsonSafeItems_eq_map, harmless_list_iff, harmless_list_iff, List.forall_mem_map]
      exact forall₂_congr ih
  | tuple items ih =>
      rw [jsonSafe, jsonSafeItems_eq_map, harmless_list_iff, harmless_tuple_iff,
        List.forall_mem_map]
      exact forall₂_congr ih
  | str text => rw [jsonSafe]
  | scalar value =>
      rw [jsonSafe]
      exact iff_of_true (harmless_jsonSafeScalar value) (.scalar value)

theorem redactable_dict_iff {entries : List (String × PyValue)} :
    Redactable (.dict entries) ↔
      ∀ key value, entries.reverse.lookup key = some value → ¬HasMarker key ∧
        (normalizedKey key ∉ dropOrRedactKeys →
          (IsListed key → value = .str "<redacted>") ∧ Redactable value) := by
  constructor
  · intro redactable
    cases redactable with
    | dict keys listed each =>
        exact fun key value held => ⟨keys key value held, fun other =>
          ⟨fun named => listed key value held named other, each key value held other⟩⟩
  · intro entry
    exact .dict (fun key value held => (entry key value held).1)
      (fun key value held named other => ((entry key value held).2 other).1 named)
      fun key value held other => ((entry key value held).2 other).2

/-- What redaction leaves is harmless where it reaches every secret. -/
theorem harmless_redactSecrets_iff (value : PyValue) :
    Harmless (redactSecrets value) ↔ Redactable value := by
  induction value using PyValue.nested with
  | dict entries ih =>
      rw [redactSecrets, redactEntries_eq_map, harmless_ofList_iff redactEntry,
        redactable_dict_iff]
      refine forall₃_congr fun key value held => ?_
      have here := ih _ (List.mem_reverse.mp (Dict.mem_of_lookup_eq_some held))
      rw [redactEntry]
      by_cases dropped : normalizedKey key ∈ dropOrRedactKeys
      · rw [if_pos dropped]
        constructor
        · intro entry
          exact ⟨entry.unmarked, fun other => absurd dropped other⟩
        · intro entry
          exact ⟨entry.1, fun _ => rfl, .str not_hasMarker_redacted⟩
      · rw [if_neg dropped]
        constructor
        · intro entry
          exact ⟨entry.unmarked, fun _ =>
            ⟨fun named => redactSecrets_eq_redacted_iff.mp (entry.listed named),
              here.mp entry.each⟩⟩
        · intro entry
          obtain ⟨listed, redactable⟩ := entry.2 dropped
          exact ⟨entry.1, fun named => redactSecrets_eq_redacted_iff.mpr (listed named),
            here.mpr redactable⟩
  | list items ih =>
      rw [redactSecrets, redactItems_eq_map, harmless_list_iff, List.forall_mem_map]
      constructor
      · intro harmless
        exact .list fun item among => (ih item among).mp (harmless item among)
      · intro redactable item among
        cases redactable with
        | list each => exact (ih item among).mpr (each item among)
  | tuple items ih =>
      rw [redactSecrets, jsonSafeItems_eq_map, harmless_list_iff, List.forall_mem_map]
      constructor
      · intro harmless
        exact .tuple fun item among => (harmless_jsonSafe_iff item).mp (harmless item among)
      · intro redactable item among
        cases redactable with
        | tuple each => exact (harmless_jsonSafe_iff item).mpr (each item among)
  | str text =>
      rw [redactSecrets]
      refine iff_of_true ?_ (.str text)
      split
      · exact .str (by decide)
      · rename_i unmarked
        exact .str unmarked
  | scalar value =>
      rw [redactSecrets]
      exact iff_of_true (harmless_jsonSafeScalar value) (.scalar value)

/-- A settled and harmless value is not redacted further. -/
theorem redactSecrets_of_harmless {value : PyValue} (settled : Settled value)
    (harmless : Harmless value) : redactSecrets value = value := by
  induction settled with
  | dict once each ih =>
      rename_i entries
      have same : redactEntries entries = entries := by
        rw [redactEntries_eq_map]
        refine (List.map_congr_left fun entry among => ?_).trans (List.map_id _)
        have held : entries.reverse.lookup entry.1 = some entry.2 := by
          rw [Dict.lookup_reverse once, ← Dict.mem_iff_lookup once]
          exact among
        have clean := harmless_dict_iff.mp harmless entry.1 entry.2 held
        refine Prod.ext rfl ?_
        dsimp only
        rw [redactEntry]
        split
        · rename_i dropped
          exact (clean.listed (isListed_of_mem dropped)).symm
        · exact ih entry among clean.each
      rw [redactSecrets, same, Dict.items_ofList once]
  | list each ih =>
      rename_i items
      have same : redactItems items = items := by
        rw [redactItems_eq_map]
        exact (List.map_congr_left fun item among =>
          ih item among (harmless_list_iff.mp harmless item among)).trans (List.map_id _)
      rw [redactSecrets, same]
  | str text => rw [redactSecrets, if_neg (harmless_str_iff.mp harmless)]
  | scalar fixed => rw [redactSecrets, fixed]

/-! ## Places -/

theorem Unleaking.of_step {value part : PyValue} {first : PyValue.Step}
    (unleaking : Unleaking value) (stepped : value.step first = some part) : Unleaking part := by
  have longer (path : List PyValue.Step) :
      value.follow (first :: path) = part.follow path := by
    rw [PyValue.follow, stepped, Option.bind_some]
  exact ⟨fun path entries found => unleaking.listed (first :: path) entries
      ((longer path).trans found),
    fun path entries found => unleaking.keys (first :: path) entries ((longer path).trans found),
    fun path text found => unleaking.texts (first :: path) text ((longer path).trans found)⟩

theorem harmless_of_step {value part : PyValue} {first : PyValue.Step}
    (harmless : Harmless value) (stepped : value.step first = some part) : Harmless part := by
  cases harmless with
  | dict keys listed each =>
      cases first with
      | key text => exact each text part stepped
      | index position => cases stepped
  | list each =>
      cases first with
      | key text => cases stepped
      | index position => exact each part (List.mem_of_getElem? stepped)
  | tuple each =>
      cases first with
      | key text => cases stepped
      | index position => exact each part (List.mem_of_getElem? stepped)
  | str unmarked => cases first <;> cases stepped
  | scalar value => cases first <;> cases stepped

theorem harmless_of_follow {value part : PyValue} {path : List PyValue.Step}
    (harmless : Harmless value) (found : value.follow path = some part) : Harmless part := by
  induction path generalizing value with
  | nil =>
      cases found
      exact harmless
  | cons first rest ih =>
      obtain ⟨next, stepped, found⟩ := Option.bind_eq_some_iff.mp found
      exact ih (harmless_of_step harmless stepped) found

theorem settled_of_step {value part : PyValue} {first : PyValue.Step}
    (settled : Settled value) (stepped : value.step first = some part) : Settled part := by
  cases settled with
  | dict once each =>
      cases first with
      | key text =>
          exact each _ (List.mem_reverse.mp (Dict.mem_of_lookup_eq_some stepped))
      | index position => cases stepped
  | list each =>
      cases first with
      | key text => cases stepped
      | index position => exact each part (List.mem_of_getElem? stepped)
  | str text => cases first <;> cases stepped
  | scalar fixed => cases first <;> cases stepped

theorem settled_of_follow {value part : PyValue} {path : List PyValue.Step}
    (settled : Settled value) (found : value.follow path = some part) : Settled part := by
  induction path generalizing value with
  | nil =>
      cases found
      exact settled
  | cons first rest ih =>
      obtain ⟨next, stepped, found⟩ := Option.bind_eq_some_iff.mp found
      exact ih (settled_of_step settled stepped) found

/-- A settled value leaks nothing where it is harmless. -/
theorem unleaking_iff {value : PyValue} (settled : Settled value) :
    Unleaking value ↔ Harmless value := by
  constructor
  · intro unleaking
    induction settled with
    | dict once each ih =>
        rename_i entries
        refine harmless_dict_iff.mpr fun key part held => ?_
        have among : (key, part) ∈ entries :=
          List.mem_reverse.mp (Dict.mem_of_lookup_eq_some held)
        have stepped : (PyValue.dict entries).step (.key key) = some part := held
        have name : ¬HasMarker key := unleaking.keys [] entries rfl (key, part) among
        have value : IsListed key → part = .str "<redacted>" :=
          unleaking.listed [] entries rfl (key, part) among
        exact ⟨name, value, ih (key, part) among (unleaking.of_step stepped)⟩
    | list each ih =>
        rename_i items
        refine .list fun item among => ih item among ?_
        obtain ⟨position, found⟩ := List.mem_iff_getElem?.mp among
        have stepped : (PyValue.list items).step (.index position) = some item := found
        exact unleaking.of_step stepped
    | str text => exact .str (unleaking.texts [] text rfl)
    | scalar fixed => exact .scalar _
  · intro harmless
    have entry {path : List PyValue.Step} {entries : List (String × PyValue)}
        (found : value.follow path = some (.dict entries)) (item : String × PyValue)
        (among : item ∈ entries) : HarmlessEntry item.1 item.2 := by
      cases settled_of_follow settled found with
      | dict once each =>
          refine harmless_dict_iff.mp (harmless_of_follow harmless found) item.1 item.2 ?_
          rw [Dict.lookup_reverse once, ← Dict.mem_iff_lookup once]
          exact among
    exact ⟨fun path entries found item among => (entry found item among).listed,
      fun path entries found item among => (entry found item among).unmarked,
      fun path text found => harmless_str_iff.mp (harmless_of_follow harmless found)⟩

theorem getElem?_jsonSafeItems {items : List PyValue} {position : Nat} {part : PyValue}
    (found : items[position]? = some part) :
    (jsonSafeItems items)[position]? = some (jsonSafe part) := by
  rw [jsonSafeItems_eq_map, List.getElem?_map, found, Option.map_some]

theorem step_jsonSafe (value : PyValue) (first : PyValue.Step) {part : PyValue}
    (stepped : value.step first = some part) :
    (jsonSafe value).step first = some (jsonSafe part) := by
  cases value with
  | dict entries =>
      cases first with
      | key text =>
          rw [jsonSafe, jsonSafeEntries_eq_map]
          refine (Dict.lookup_reverse (Dict.nodup _)).trans
            ((Dict.get?_ofList_map entries fun _ => jsonSafe).trans ?_)
          rw [show entries.reverse.lookup text = some part from stepped, Option.map_some]
      | index position => cases stepped
  | list items =>
      cases first with
      | key text => cases stepped
      | index position =>
          rw [jsonSafe]
          exact getElem?_jsonSafeItems stepped
  | tuple items =>
      cases first with
      | key text => cases stepped
      | index position =>
          rw [jsonSafe]
          exact getElem?_jsonSafeItems stepped
  | str text => cases first <;> cases stepped
  | scalar value => cases first <;> cases stepped

/-- Making a value fit for JSON keeps its texts. -/
theorem follow_jsonSafe {value : PyValue} {path : List PyValue.Step} {text : String}
    (found : value.follow path = some (.str text)) :
    (jsonSafe value).follow path = some (.str text) := by
  induction path generalizing value with
  | nil =>
      cases found
      rw [jsonSafe]
      rfl
  | cons first rest ih =>
      obtain ⟨next, stepped, found⟩ := Option.bind_eq_some_iff.mp found
      rw [PyValue.follow, step_jsonSafe value first stepped, Option.bind_some]
      exact ih found

/-- Redaction keeps the texts without markers under other keys. -/
theorem follow_redactSecrets {value : PyValue} {path : List PyValue.Step} {text : String}
    (others : ∀ key, .key key ∈ path → ¬IsListed key)
    (found : value.follow path = some (.str text)) (unmarked : ¬HasMarker text) :
    (redactSecrets value).follow path = some (.str text) := by
  induction path generalizing value with
  | nil =>
      cases found
      rw [redactSecrets, if_neg unmarked]
      rfl
  | cons first rest ih =>
      have whole_found := found
      obtain ⟨next, stepped, found⟩ := Option.bind_eq_some_iff.mp found
      have later := ih (fun key among => others key (List.mem_cons_of_mem _ among)) found
      cases value with
      | dict entries =>
          cases first with
          | key name =>
              have other : normalizedKey name ∉ dropOrRedactKeys :=
                fun dropped => others name List.mem_cons_self (isListed_of_mem dropped)
              have here : (redactSecrets (.dict entries)).step (.key name) =
                  some (redactSecrets next) := by
                rw [redactSecrets, redactEntries_eq_map]
                refine (Dict.lookup_reverse (Dict.nodup _)).trans
                  ((Dict.get?_ofList_map entries redactEntry).trans ?_)
                rw [show entries.reverse.lookup name = some next from stepped, Option.map_some,
                  redactEntry, if_neg other]
              rw [PyValue.follow, here, Option.bind_some]
              exact later
          | index position => cases stepped
      | list items =>
          cases first with
          | key name => cases stepped
          | index position =>
              have here : (redactSecrets (.list items)).step (.index position) =
                  some (redactSecrets next) := by
                rw [redactSecrets, redactItems_eq_map]
                refine List.getElem?_map.trans ?_
                rw [show items[position]? = some next from stepped, Option.map_some]
              rw [PyValue.follow, here, Option.bind_some]
              exact later
      | tuple items =>
          have whole : redactSecrets (.tuple items) = jsonSafe (.tuple items) := by
            rw [redactSecrets, jsonSafe]
          rw [whole]
          exact follow_jsonSafe whole_found
      | str text => cases first <;> cases stepped
      | scalar value => cases first <;> cases stepped

/-- Redaction is complete exactly for the values of which it reaches every secret. -/
theorem redaction_complete_iff (value : PyValue) : RedactionComplete value ↔ Redactable value := by
  have settled := settled_redactSecrets value
  constructor
  · intro complete
    exact (harmless_redactSecrets_iff value).mp ((unleaking_iff settled).mp complete.unleaking)
  · intro redactable
    have harmless := (harmless_redactSecrets_iff value).mpr redactable
    exact {
      unleaking := (unleaking_iff settled).mpr harmless
      idempotent := redactSecrets_of_harmless settled harmless
      kept := fun _ _ others found unmarked => follow_redactSecrets others found unmarked }

/-- A header with a token. -/
def tokenHeader : PyValue := .dict [("X-Vault-Token", .str "s")]

/-- The token of the header stays. -/
theorem header_token_kept : ¬RedactionComplete tokenHeader := by
  intro complete
  have other : normalizedKey "X-Vault-Token" ∉ dropOrRedactKeys := by decide +kernel
  have same : normalizedKey "X-Vault-Token" = normalizedKey "x-vault-token" := by decide +kernel
  have result : redactSecrets tokenHeader = .dict [("X-Vault-Token", .str "s")] := by
    have plain : ¬HasMarker "s" := by decide
    rw [tokenHeader, redactSecrets, redactEntries, redactEntries, if_neg other, redactSecrets,
      if_neg plain]
    rfl
  have listed : IsListed "X-Vault-Token" :=
    ⟨"x-vault-token", by decide, same⟩
  have leaks := complete.unleaking.listed [] _ (congrArg some result) _ List.mem_cons_self listed
  exact absurd (PyValue.str.inj leaks) (by decide)

end OpcuaGds.Gds.Redaction
