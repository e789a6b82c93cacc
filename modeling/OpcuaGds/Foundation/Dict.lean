import Mathlib.Algebra.GroupWithZero.Nat
import Mathlib.Data.List.Basic
import Mathlib.Data.List.Induction
import Mathlib.Data.List.Nodup

/-! # Insertion-ordered dictionaries

Keys with values in the order in which the keys came first; an assignment to a key that is there
keeps its place.
-/

/-- A dictionary: every key once. -/
structure Dict (Key Value : Type*) where
  items : List (Key × Value)
  nodup : (items.map Prod.fst).Nodup

namespace Dict

variable {Key Value : Type*} [DecidableEq Key]

/-- Assign in place when the key is there, else at the end. -/
def assign (key : Key) (value : Value) : List (Key × Value) → List (Key × Value)
  | [] => [(key, value)]
  | (name, old) :: rest =>
      if name = key then (name, value) :: rest else (name, old) :: assign key value rest

theorem mem_keys_assign {key other : Key} {value : Value} {entries : List (Key × Value)} :
    other ∈ (assign key value entries).map Prod.fst ↔
      other = key ∨ other ∈ entries.map Prod.fst := by
  induction entries with
  | nil => simp only [assign, List.map_cons, List.map_nil, List.mem_singleton, List.not_mem_nil,
      or_false]
  | cons entry rest ih =>
      obtain ⟨name, old⟩ := entry
      rw [assign]
      split
      · rename_i same
        rw [List.map_cons, List.map_cons, List.mem_cons, same, or_self_left]
      · rw [List.map_cons, List.map_cons, List.mem_cons, List.mem_cons, ih, or_left_comm]

theorem nodup_assign {key : Key} {value : Value} {entries : List (Key × Value)}
    (nodup : (entries.map Prod.fst).Nodup) : ((assign key value entries).map Prod.fst).Nodup := by
  induction entries with
  | nil => exact List.nodup_singleton key
  | cons entry rest ih =>
      obtain ⟨name, old⟩ := entry
      rw [List.map_cons, List.nodup_cons] at nodup
      rw [assign]
      split
      · exact List.nodup_cons.mpr nodup
      · rename_i distinct
        refine List.nodup_cons.mpr ⟨?_, ih nodup.2⟩
        rw [mem_keys_assign, not_or]
        exact ⟨distinct, nodup.1⟩

theorem lookup_cons_eq_ite {key other : Key} {value : Value} {entries : List (Key × Value)} :
    ((key, value) :: entries).lookup other =
      if other = key then some value else entries.lookup other := by
  rw [List.lookup_cons]
  by_cases here : other = key
  · rw [if_pos here, beq_iff_eq.mpr here]
  · rw [if_neg here, beq_eq_false_iff_ne.mpr here]

theorem lookup_assign {key other : Key} {value : Value} {entries : List (Key × Value)} :
    (assign key value entries).lookup other =
      if other = key then some value else entries.lookup other := by
  induction entries with
  | nil => exact lookup_cons_eq_ite
  | cons entry rest ih =>
      obtain ⟨name, old⟩ := entry
      rw [assign]
      by_cases same : name = key
      · rw [if_pos same, lookup_cons_eq_ite, lookup_cons_eq_ite, same]
        by_cases here : other = key
        · rw [if_pos here, if_pos here]
        · rw [if_neg here, if_neg here, if_neg here]
      · rw [if_neg same, lookup_cons_eq_ite, lookup_cons_eq_ite, ih]
        by_cases here : other = name
        · have apart : other ≠ key := fun equal => same (here.symm.trans equal)
          rw [if_pos here, if_neg apart, if_pos here]
        · rw [if_neg here, if_neg here]

theorem keys_assign {key : Key} {value : Value} {entries : List (Key × Value)} :
    (assign key value entries).map Prod.fst =
      if key ∈ entries.map Prod.fst then entries.map Prod.fst
      else entries.map Prod.fst ++ [key] := by
  induction entries with
  | nil => rfl
  | cons entry rest ih =>
      obtain ⟨name, old⟩ := entry
      rw [assign, List.map_cons]
      by_cases same : name = key
      · rw [if_pos same, if_pos (same ▸ List.mem_cons_self), List.map_cons]
      · rw [if_neg same, List.map_cons, ih]
        by_cases inRest : key ∈ rest.map Prod.fst
        · rw [if_pos inRest, if_pos (List.mem_cons_of_mem name inRest)]
        · have absent : key ∉ name :: rest.map Prod.fst := by
            rw [List.mem_cons, not_or]
            exact ⟨fun equal => same equal.symm, inRest⟩
          rw [if_neg inRest, if_neg absent, List.cons_append]

/-- Where every key is there once, an entry is the one that is looked up. -/
theorem mem_iff_lookup {key : Key} {value : Value} {entries : List (Key × Value)}
    (nodup : (entries.map Prod.fst).Nodup) :
    (key, value) ∈ entries ↔ entries.lookup key = some value := by
  induction entries with
  | nil => exact iff_of_false nofun nofun
  | cons entry rest ih =>
      obtain ⟨name, old⟩ := entry
      rw [List.map_cons, List.nodup_cons] at nodup
      rw [lookup_cons_eq_ite, List.mem_cons, Prod.mk.injEq]
      by_cases here : key = name
      · have absent : (key, value) ∉ rest := by
          intro among
          have inKeys : key ∈ rest.map Prod.fst := List.mem_map_of_mem (f := Prod.fst) among
          exact nodup.1 (here ▸ inKeys)
        rw [if_pos here, Option.some.injEq, or_iff_left absent, and_iff_right here, eq_comm]
      · rw [if_neg here, or_iff_right fun same => here same.1, ih nodup.2]

def empty : Dict Key Value := ⟨[], List.nodup_nil⟩

/-- `dictionary.get(key)`. -/
def get? (dict : Dict Key Value) (key : Key) : Option Value := dict.items.lookup key

/-- `dictionary[key] = value`. -/
def set (dict : Dict Key Value) (key : Key) (value : Value) : Dict Key Value where
  items := assign key value dict.items
  nodup := nodup_assign dict.nodup

/-- The dictionary of a list of assignments. -/
def ofList (entries : List (Key × Value)) : Dict Key Value :=
  entries.foldl (fun dict entry => dict.set entry.1 entry.2) empty

def keys (dict : Dict Key Value) : List Key := dict.items.map Prod.fst

variable {dict : Dict Key Value} {key other : Key} {value : Value}

@[simp] theorem get?_empty : (empty : Dict Key Value).get? key = none := rfl

theorem items_set : (dict.set key value).items = assign key value dict.items := rfl

theorem get?_set :
    (dict.set key value).get? other = if other = key then some value else dict.get? other :=
  lookup_assign

theorem mem_items : (key, value) ∈ dict.items ↔ dict.get? key = some value :=
  mem_iff_lookup dict.nodup

theorem mem_keys : key ∈ dict.keys ↔ (dict.get? key).isSome = true := by
  rw [keys, List.mem_map, Option.isSome_iff_exists]
  constructor
  · intro among
    obtain ⟨⟨_, value⟩, inItems, rfl⟩ := among
    exact ⟨value, mem_items.mp inItems⟩
  · intro found
    obtain ⟨value, held⟩ := found
    exact ⟨(key, value), mem_items.mpr held, rfl⟩

/-- The last assignment to a key counts. -/
theorem get?_ofList (entries : List (Key × Value)) :
    (ofList entries).get? key = entries.reverse.lookup key := by
  have general (dict : Dict Key Value) :
      (entries.foldl (fun dict entry => dict.set entry.1 entry.2) dict).get? key =
        (entries.reverse.lookup key).or (dict.get? key) := by
    induction entries generalizing dict with
    | nil => rfl
    | cons entry rest ih =>
        obtain ⟨name, new⟩ := entry
        rw [List.foldl_cons, ih, get?_set, List.reverse_cons, List.lookup_append, Option.or_assoc,
          lookup_cons_eq_ite]
        by_cases here : key = name
        · rw [if_pos here, if_pos here, Option.some_or]
        · rw [if_neg here, if_neg here, List.lookup_nil, Option.none_or]
  rw [ofList, general, get?_empty, Option.or_none]

/-- The keys stand in the order of their first assignments. -/
theorem keys_ofList (entries : List (Key × Value)) :
    (ofList entries).keys = (entries.map Prod.fst).eraseDups := by
  induction entries using List.reverseRecOn with
  | nil => rfl
  | append_singleton entries entry ih =>
      rw [ofList, List.foldl_append, List.foldl_cons, List.foldl_nil, ← ofList, keys, set,
        keys_assign, ← keys, ih, List.map_append, List.map_singleton, List.eraseDups_append]
      by_cases among : entry.1 ∈ entries.map Prod.fst
      · rw [if_pos (List.mem_eraseDups.mpr among), List.cons_removeAll,
          if_neg (by simpa using among), List.nil_removeAll, List.eraseDups_nil, List.append_nil]
      · rw [if_neg fun inKeys => among (List.mem_eraseDups.mp inKeys), List.cons_removeAll,
          if_pos (by simpa using among), List.nil_removeAll]
        rfl

theorem isSome_get?_ofList {entries : List (Key × Value)} :
    ((ofList entries).get? key).isSome = true ↔ ∃ value, (key, value) ∈ entries := by
  rw [← mem_keys, keys_ofList, List.mem_eraseDups, List.mem_map]
  constructor
  · rintro ⟨entry, member, rfl⟩
    exact ⟨entry.2, member⟩
  · rintro ⟨value, member⟩
    exact ⟨_, member, rfl⟩

theorem mem_of_lookup_eq_some {entries : List (Key × Value)}
    (found : entries.lookup key = some value) : (key, value) ∈ entries := by
  obtain ⟨front, back, rfl, -⟩ := List.lookup_eq_some_iff.mp found
  exact List.mem_append_right front List.mem_cons_self

/-- Where every key is there once, the last entry of a key is the first. -/
theorem lookup_reverse {entries : List (Key × Value)} (nodup : (entries.map Prod.fst).Nodup) :
    entries.reverse.lookup key = entries.lookup key := by
  have reversed : (entries.reverse.map Prod.fst).Nodup := by
    rw [List.map_reverse]
    exact List.nodup_reverse.mpr nodup
  refine Option.ext fun value => ?_
  rw [← mem_iff_lookup reversed, ← mem_iff_lookup nodup, List.mem_reverse]

theorem assign_of_notMem {entries : List (Key × Value)} (absent : key ∉ entries.map Prod.fst) :
    assign key value entries = entries ++ [(key, value)] := by
  induction entries with
  | nil => rfl
  | cons entry rest ih =>
      obtain ⟨name, old⟩ := entry
      rw [List.map_cons, List.mem_cons, not_or] at absent
      rw [assign, if_neg fun same => absent.1 same.symm, ih absent.2, List.cons_append]

/-- Assignments to different keys are the items. -/
theorem items_ofList {entries : List (Key × Value)} (nodup : (entries.map Prod.fst).Nodup) :
    (ofList entries).items = entries := by
  induction entries using List.reverseRecOn with
  | nil => rfl
  | append_singleton entries entry ih =>
      rw [List.map_append, List.map_singleton, List.nodup_append] at nodup
      have absent : entry.1 ∉ entries.map Prod.fst :=
        fun among => nodup.2.2 entry.1 among entry.1 (List.mem_singleton_self _) rfl
      rw [ofList, List.foldl_append, List.foldl_cons, List.foldl_nil, ← ofList, items_set,
        ih nodup.1, assign_of_notMem absent]

/-- What the assignments of values that are made from others give. -/
theorem get?_ofList_map {Source : Type*} (entries : List (Key × Source))
    (made : Key → Source → Value) :
    (ofList (entries.map fun entry => (entry.1, made entry.1 entry.2))).get? key =
      (entries.reverse.lookup key).map (made key) := by
  rw [get?_ofList, ← List.map_reverse]
  induction entries.reverse with
  | nil => rfl
  | cons entry rest ih =>
      obtain ⟨name, source⟩ := entry
      rw [List.map_cons, lookup_cons_eq_ite, lookup_cons_eq_ite]
      by_cases here : key = name
      · rw [if_pos here, if_pos here, here, Option.map_some]
      · rw [if_neg here, if_neg here, ih]

/-- The items, from the keys and what is looked up at them. -/
theorem items_eq_filterMap_keys :
    dict.items = dict.keys.filterMap fun key => (dict.get? key).map fun value => (key, value) := by
  have held : ∀ item ∈ dict.items,
      ((dict.get? item.1).map fun value => (item.1, value)) = some item := by
    intro item among
    rw [mem_items.mp among, Option.map_some]
  rw [keys, List.filterMap_map]
  exact (List.filterMap_some.symm.trans (List.filterMap_congr held).symm)

/-- Looking up what a list of names is paired with finds the first name with the value. -/
theorem lookup_filterMap_names {Name : Type*} (value? : Name → Option Key) (names : List Name) :
    (names.filterMap fun name => (value? name).map fun value => (value, name)).lookup key =
      names.find? fun name => value? name = some key := by
  induction names with
  | nil => rfl
  | cons name rest ih =>
      rw [List.filterMap_cons, List.find?_cons]
      cases here : value? name with
      | none => exact ih
      | some value =>
          rw [Option.map_some, lookup_cons_eq_ite]
          by_cases same : key = value
          · rw [if_pos same, same, decide_eq_true rfl]
          · rw [if_neg same, decide_eq_false fun equal => same (Option.some.inj equal).symm, ih]

/-- The keys of entries that some rows have. -/
theorem keys_filterMap_sublist {Row : Type*} (key : Row → Key) (value? : Row → Option Value)
    (rows : List Row) :
    ((rows.filterMap fun row => (value? row).map (key row, ·)).map Prod.fst).Sublist
      (rows.map key) := by
  induction rows with
  | nil => exact .slnil
  | cons row rest ih =>
      rw [List.filterMap_cons, List.map_cons]
      cases value? row with
      | none => exact ih.cons _
      | some value => exact ih.cons_cons _

/-! ## Counts -/

/-- `counts[key] = counts.get(key, 0) + 1` for one key after the other. -/
def tally (names : List Key) : Dict Key Nat :=
  names.foldl (fun counts name => counts.set name ((counts.get? name).getD 0 + 1)) empty

theorem tally_append_singleton (names : List Key) (name : Key) :
    tally (names ++ [name]) =
      (tally names).set name (((tally names).get? name).getD 0 + 1) := by
  rw [tally, List.foldl_append]
  rfl

theorem getD_get?_tally (names : List Key) (key : Key) :
    ((tally names).get? key).getD 0 = names.count key := by
  induction names using List.reverseRecOn with
  | nil => rfl
  | append_singleton names name ih =>
      rw [tally_append_singleton, get?_set, List.count_append, List.count_singleton]
      by_cases here : key = name
      · rw [if_pos here, Option.getD_some, if_pos (beq_iff_eq.mpr here.symm), ← here, ih]
      · rw [if_neg here, if_neg fun same => here (beq_iff_eq.mp same).symm, ih, Nat.add_zero]

theorem sum_assign (key : Key) (count : Nat) (entries : List (Key × Nat)) :
    ((assign key count entries).map Prod.snd).sum + (entries.lookup key).getD 0 =
      (entries.map Prod.snd).sum + count := by
  induction entries with
  | nil => simp [assign]
  | cons entry rest ih =>
      obtain ⟨name, old⟩ := entry
      rw [assign, lookup_cons_eq_ite]
      by_cases same : name = key
      · rw [if_pos same, if_pos same.symm, List.map_cons, List.map_cons, List.sum_cons,
          List.sum_cons, Option.getD_some]
        omega
      · rw [if_neg same, if_neg fun equal => same equal.symm, List.map_cons, List.map_cons,
          List.sum_cons, List.sum_cons]
        omega

/-- Every name is counted once. -/
theorem sum_tally (names : List Key) : ((tally names).items.map Prod.snd).sum = names.length := by
  induction names using List.reverseRecOn with
  | nil => rfl
  | append_singleton names name ih =>
      have counted := sum_assign name (((tally names).get? name).getD 0 + 1) (tally names).items
      rw [← get?, ih] at counted
      rw [tally_append_singleton, items_set, List.length_append, List.length_singleton]
      omega

end Dict
