import Mathlib.Data.List.Sort
import Mathlib.Data.String.Basic

/-! # Listings of one directory

A directory as the names of its files with what they hold, and the listing of the JSON
files by name.
-/

namespace List

/-- What is kept of an insertion is the insertion into what is kept, or nothing new. -/
theorem filter_orderedInsert {α : Type*} (r : α → α → Prop) [DecidableRel r]
    (transitive : ∀ a b c, r a b → r b c → r a c) (keep : α → Bool) (a : α) {items : List α}
    (sorted : items.Pairwise r) :
    (items.orderedInsert r a).filter keep =
      if keep a then (items.filter keep).orderedInsert r a else items.filter keep := by
  induction items with
  | nil => cases kept : keep a <;> simp [kept]
  | cons b rest ih =>
      obtain ⟨least, later⟩ := List.pairwise_cons.mp sorted
      rw [List.orderedInsert_cons]
      by_cases first : r a b
      · rw [if_pos first, List.filter_cons]
        by_cases kept : keep a = true
        · rw [if_pos kept, if_pos kept]
          have below : ∀ c ∈ (b :: rest).filter keep, r a c := by
            intro c member
            rcases List.mem_cons.mp (List.mem_filter.mp member).1 with rfl | inRest
            · exact first
            · exact transitive a b c first (least c inRest)
          cases filtered : (b :: rest).filter keep with
          | nil => rfl
          | cons c others =>
              rw [List.orderedInsert_cons, if_pos]
              exact below c (filtered ▸ List.mem_cons_self)
        · rw [if_neg kept, if_neg kept]
      · rw [if_neg first, List.filter_cons, List.filter_cons, ih later]
        cases keep a <;> cases keep b <;> simp [first]

/-- Sorting commutes with keeping some of the items. -/
theorem filter_insertionSort {α : Type*} (r : α → α → Prop) [DecidableRel r]
    (transitive : ∀ a b c, r a b → r b c → r a c) (total : ∀ a b, r a b ∨ r b a)
    (keep : α → Bool) (items : List α) :
    (items.insertionSort r).filter keep = (items.filter keep).insertionSort r := by
  induction items with
  | nil => rfl
  | cons a rest ih =>
      have : Std.Total r := ⟨total⟩
      have : IsTrans α r := ⟨transitive⟩
      rw [List.insertionSort_cons, filter_orderedInsert r transitive keep a
        (List.pairwise_insertionSort r rest), ih, List.filter_cons]
      split <;> rfl

end List

/-- The files of one directory: names with what is read from them. -/
abbrev DirectoryListing (Content : Type*) := List (String × Content)

namespace DirectoryListing

variable {Content : Type*}

/-- `*.json`. -/
def isJsonName (name : String) : Bool := ".json".toList.isSuffixOf name.toList

/-- `sorted(directory.glob("*.json"), reverse=True)`. -/
def newestFirst (directory : DirectoryListing Content) : DirectoryListing Content :=
  (directory.filter fun file => isJsonName file.1).insertionSort
    fun left right => right.1 ≤ left.1

/-- Removing files from a directory removes them from its listing. -/
theorem newestFirst_filter (directory : DirectoryListing Content)
    (keep : String × Content → Bool) :
    newestFirst (directory.filter keep) = directory.newestFirst.filter keep := by
  rw [newestFirst, newestFirst, List.filter_insertionSort, List.filter_filter, List.filter_filter]
  · simp only [Bool.and_comm]
  · exact fun _ _ _ first second => le_trans second first
  · exact fun left right => le_total right.1 left.1

/-- Write a file of the directory. -/
def put (name : String) (content : Content) (directory : DirectoryListing Content) :
    DirectoryListing Content :=
  (name, content) :: directory.filter fun file => file.1 ≠ name

theorem filter_put_self (name : String) (content : Content) (directory : DirectoryListing Content) :
    (directory.put name content).filter (fun file => file.1 = name) = [(name, content)] := by
  rw [put, List.filter_cons, if_pos (decide_eq_true rfl), List.filter_filter,
    List.filter_eq_nil_iff.mpr]
  simp

theorem mem_newestFirst {directory : DirectoryListing Content} {file : String × Content} :
    file ∈ directory.newestFirst ↔ file ∈ directory ∧ isJsonName file.1 = true := by
  rw [newestFirst, List.mem_insertionSort, List.mem_filter]

theorem mem_put {name : String} {content : Content} {directory : DirectoryListing Content}
    {file : String × Content} :
    file ∈ directory.put name content ↔
      file = (name, content) ∨ file ∈ directory ∧ file.1 ≠ name := by
  rw [put, List.mem_cons, List.mem_filter, decide_eq_true_iff]

theorem pairwise_newestFirst (directory : DirectoryListing Content) :
    directory.newestFirst.Pairwise fun left right => right.1 ≤ left.1 := by
  have total : Std.Total fun left right : String × Content => right.1 ≤ left.1 :=
    ⟨fun left right => le_total right.1 left.1⟩
  have trans : IsTrans (String × Content) fun left right => right.1 ≤ left.1 :=
    ⟨fun _ _ _ first second => le_trans second first⟩
  exact List.pairwise_insertionSort _ _

/-- `sorted(directory.glob("*.json"))`. -/
def jsonFiles (directory : DirectoryListing Content) : DirectoryListing Content :=
  (directory.filter fun file => isJsonName file.1).insertionSort
    fun left right => left.1 ≤ right.1

theorem mem_jsonFiles {directory : DirectoryListing Content} {file : String × Content} :
    file ∈ directory.jsonFiles ↔ file ∈ directory ∧ isJsonName file.1 = true := by
  rw [jsonFiles, List.mem_insertionSort, List.mem_filter]

theorem pairwise_jsonFiles (directory : DirectoryListing Content) :
    directory.jsonFiles.Pairwise fun left right => left.1 ≤ right.1 := by
  have total : Std.Total fun left right : String × Content => left.1 ≤ right.1 :=
    ⟨fun left right => le_total left.1 right.1⟩
  have trans : IsTrans (String × Content) fun left right => left.1 ≤ right.1 :=
    ⟨fun _ _ _ first second => le_trans first second⟩
  exact List.pairwise_insertionSort _ _

/-- The first entry of a kind in a sorted list comes before every other of the kind. -/
theorem rel_of_find?_eq_some {Entry : Type*} {before : Entry → Entry → Prop}
    {entries : List Entry} (sorted : entries.Pairwise before)
    (reflexive : ∀ entry, before entry entry)
    {kind : Entry → Bool} {first other : Entry} (found : entries.find? kind = some first)
    (among : other ∈ entries) (isKind : kind other = true) : before first other := by
  obtain ⟨_, front, back, parts, passed⟩ := List.find?_eq_some_iff_append.mp found
  rw [parts, List.mem_append, List.mem_cons] at among
  rcases among with earlier | rfl | later
  · have passes := passed other earlier
    rw [isKind] at passes
    cases passes
  · exact reflexive other
  · rw [parts] at sorted
    exact List.rel_of_pairwise_cons (List.pairwise_append.mp sorted).2.1 later

/-- The first entry of a kind in a sorted list is the one that comes before every other. -/
theorem find?_eq_some_iff_of_pairwise {Entry : Type*} {before : Entry → Entry → Prop}
    {entries : List Entry} (sorted : entries.Pairwise before)
    (reflexive : ∀ entry, before entry entry)
    (antisymmetric : ∀ left ∈ entries, ∀ right ∈ entries, before left right → before right left →
      left = right) (kind : Entry → Bool) (entry : Entry) :
    entries.find? kind = some entry ↔ entry ∈ entries ∧ kind entry = true ∧
      ∀ other ∈ entries, kind other = true → before entry other := by
  constructor
  · intro found
    exact ⟨List.mem_of_find?_eq_some found, List.find?_some found,
      fun other => rel_of_find?_eq_some sorted reflexive found⟩
  · intro least
    obtain ⟨among, isKind, leads⟩ := least
    cases found : entries.find? kind with
    | none => exact absurd isKind (List.find?_eq_none.mp found entry among)
    | some first =>
        have inside := List.mem_of_find?_eq_some found
        rw [antisymmetric first inside entry among
          (rel_of_find?_eq_some sorted reflexive found among isKind)
          (leads first inside (List.find?_some found))]

/-- The newest file of a kind is one that every other of the kind sorts before. -/
theorem find?_newestFirst {directory : DirectoryListing Content} {kind : String × Content → Bool}
    {file : String × Content} (among : file ∈ directory.newestFirst) (isKind : kind file = true)
    (last : ∀ other ∈ directory.newestFirst, kind other = true → other = file ∨ other.1 < file.1) :
    directory.newestFirst.find? kind = some file := by
  cases found : directory.newestFirst.find? kind with
  | none => exact absurd isKind (List.find?_eq_none.mp found file among)
  | some first =>
      rcases last first (List.mem_of_find?_eq_some found) (List.find?_some found) with same | before
      · rw [same]
      · exact absurd before (not_lt_of_ge (rel_of_find?_eq_some (pairwise_newestFirst directory)
          (fun file => le_rfl) found among isKind))

end DirectoryListing
