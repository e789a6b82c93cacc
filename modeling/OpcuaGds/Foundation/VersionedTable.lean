import Mathlib.Data.List.MinMax
import Mathlib.Data.List.Sort
import Mathlib.Order.Nat

/-! # Append-only tables with version numbers

Rows that are only ever added, each with a version one above the greatest version
stored before. The latest row is the one of greatest version.
-/

namespace VersionedTable

variable {Row : Type*} (version : Row → Nat)

/-- `COALESCE(MAX(version), 0)`. -/
def maxVersion (rows : List Row) : Nat := (rows.map version).foldr max 0

/-- `ORDER BY version DESC LIMIT 1`. -/
def latest? (rows : List Row) : Option Row := rows.argmax version

theorem le_maxVersion {rows : List Row} {row : Row} (member : row ∈ rows) :
    version row ≤ maxVersion version rows := by
  induction rows with
  | nil => cases member
  | cons head rest ih =>
      rw [maxVersion, List.map_cons, List.foldr_cons]
      rcases List.mem_cons.mp member with rfl | later
      · exact le_max_left _ _
      · exact (ih later).trans (le_max_right _ _)

/-- The next version after an unbroken sequence is its length plus one. -/
theorem maxVersion_of_range {rows : List Row}
    (unbroken : rows.map version = List.range' 1 rows.length) :
    maxVersion version rows = rows.length := by
  have start (values : List Nat) (least : Nat) :
      values.foldr max least = max (values.foldr max 0) least := by
    induction values with
    | nil => simp
    | cons value rest ih => rw [List.foldr_cons, ih, List.foldr_cons, max_assoc]
  have upTo (n : Nat) : (List.range' 1 n).foldr max 0 = n := by
    induction n with
    | zero => rfl
    | succ n ih =>
        rw [List.range'_1_concat, List.foldr_append, start, ih]
        simp only [List.foldr_cons, List.foldr_nil]
        omega
  rw [maxVersion, unbroken, upTo]

/-- A row with the next version continues an unbroken sequence. -/
theorem range_concat {rows : List Row} {row : Row}
    (unbroken : rows.map version = List.range' 1 rows.length)
    (next : version row = maxVersion version rows + 1) :
    (rows ++ [row]).map version = List.range' 1 (rows ++ [row]).length := by
  rw [maxVersion_of_range version unbroken] at next
  rw [List.map_append, List.map_singleton, unbroken, next, List.length_append,
    List.length_singleton, List.range'_1_concat, Nat.add_comm]

variable {version}

theorem latest?_mem {rows : List Row} {row : Row} (latest : latest? version rows = some row) :
    row ∈ rows :=
  List.argmax_mem latest

theorem le_latest? {rows : List Row} {row other : Row} (latest : latest? version rows = some row)
    (member : other ∈ rows) : version other ≤ version row :=
  List.le_of_mem_argmax member latest

theorem latest?_eq_none_iff {rows : List Row} : latest? version rows = none ↔ rows = [] :=
  List.argmax_eq_none

/-- The greatest version is that of the latest row. -/
theorem maxVersion_eq_latest (version : Row → Nat) (rows : List Row) :
    maxVersion version rows = ((latest? version rows).map version).getD 0 := by
  cases latest : latest? version rows with
  | none =>
      rw [latest?_eq_none_iff.mp latest]
      rfl
  | some row =>
      apply le_antisymm
      · refine List.max_le_of_forall_le (rows.map version) _ fun value member => ?_
        obtain ⟨other, present, rfl⟩ := List.mem_map.mp member
        exact le_latest? latest present
      · exact le_maxVersion version (latest?_mem latest)

/-- A row that gets the next version is the latest one. -/
theorem latest?_concat {rows : List Row} {row : Row}
    (next : maxVersion version rows < version row) :
    latest? version (rows ++ [row]) = some row := by
  rw [latest?, List.argmax_concat]
  cases last : rows.argmax version with
  | none => rfl
  | some previous =>
      have below : version previous < version row :=
        (le_maxVersion version (latest?_mem last)).trans_lt next
      exact if_pos below

/-! ## Any order -/

/-- The first row of an `ORDER BY … LIMIT 1`, given when a row comes before another. -/
def firstBy (before : Row → Row → Bool) : List Row → Option Row
  | [] => none
  | row :: rest =>
      match firstBy before rest with
      | none => some row
      | some other => if before other row then some other else some row

theorem firstBy_mem {before : Row → Row → Bool} {rows : List Row} {row : Row}
    (first : firstBy before rows = some row) : row ∈ rows := by
  induction rows with
  | nil => cases first
  | cons head rest ih =>
      rw [firstBy] at first
      split at first
      · cases first
        exact List.mem_cons_self
      · rename_i other later
        split at first
        · cases first
          exact List.mem_cons_of_mem _ (ih later)
        · cases first
          exact List.mem_cons_self

theorem firstBy_eq_none_iff {before : Row → Row → Bool} {rows : List Row} :
    firstBy before rows = none ↔ rows = [] := by
  cases rows with
  | nil => simp [firstBy]
  | cons head rest =>
      rw [firstBy]
      split
      · simp
      · split <;> simp

/-- What the order of a query has to be: strict, and with ties that are transitive. -/
structure IsStrictOrder (before : Row → Row → Bool) : Prop where
  asymm : ∀ left right, before left right = true → before right left = false
  negTrans : ∀ left middle right, before left middle = false → before middle right = false →
    before left right = false

/-- No row comes before the first one. -/
theorem firstBy_not_before {before : Row → Row → Bool} (order : IsStrictOrder before)
    {rows : List Row} {row : Row} (first : firstBy before rows = some row) :
    ∀ other ∈ rows, before other row = false := by
  have irrefl (row : Row) : before row row = false := by
    cases own : before row row with
    | false => rfl
    | true => exact own.symm.trans (order.asymm row row own)
  induction rows generalizing row with
  | nil => cases first
  | cons head rest ih =>
      rw [firstBy] at first
      intro other member
      cases later : firstBy before rest with
      | none =>
          have empty : rest = [] := firstBy_eq_none_iff.mp later
          rw [later, Option.some.injEq] at first
          subst empty first
          rw [List.mem_singleton.mp member]
          exact irrefl head
      | some candidate =>
          have least := ih later
          simp only [later] at first
          split at first
          · rename_i earlier
            cases first
            rcases List.mem_cons.mp member with rfl | inRest
            · exact order.asymm _ _ earlier
            · exact least other inRest
          · rename_i notEarlier
            cases first
            rcases List.mem_cons.mp member with rfl | inRest
            · exact irrefl _
            · exact order.negTrans _ _ _ (least other inRest) (Bool.not_eq_true _ ▸ notEarlier)

/-- The order by a key, greatest first. -/
theorem isStrictOrder_key {Key : Type*} [LinearOrder Key] (key : Row → Key) :
    IsStrictOrder fun left right => decide (key right < key left) where
  asymm left right earlier := by
    rw [decide_eq_true_eq] at earlier
    exact decide_eq_false earlier.asymm
  negTrans left middle right first second := by
    rw [decide_eq_false_iff_not, not_lt] at first second ⊢
    exact first.trans second

/-- The row that comes first, and of tied rows the one that is listed first. -/
def IsFirst (before : Row → Row → Bool) (rows : List Row) (row : Row) : Prop :=
  ∃ front back, rows = front ++ row :: back ∧ (∀ other ∈ front, before row other = true) ∧
    ∀ other ∈ back, before other row = false

theorem IsFirst.mem {before : Row → Row → Bool} {rows : List Row} {row : Row}
    (first : IsFirst before rows row) : row ∈ rows := by
  obtain ⟨front, back, rfl, _, _⟩ := first
  exact List.mem_append_right _ List.mem_cons_self

/-- There is at most one first row. -/
theorem IsFirst.unique {before : Row → Row → Bool} {rows : List Row} {row other : Row}
    (first : IsFirst before rows row) (second : IsFirst before rows other) : row = other := by
  obtain ⟨front, back, rfl, later, notBefore⟩ := first
  obtain ⟨otherFront, otherBack, split, otherLater, otherNotBefore⟩ := second
  rcases List.append_eq_append_iff.mp split with ⟨between, rfl, rest⟩ | ⟨between, rfl, rest⟩
  · cases between with
    | nil => exact (List.cons.inj rest).1
    | cons head tail =>
        obtain ⟨rfl, rfl⟩ := List.cons.inj rest
        have earlier := otherLater row (List.mem_append_right _ List.mem_cons_self)
        have notEarlier := notBefore other (List.mem_append_right _ List.mem_cons_self)
        exact absurd (earlier.symm.trans notEarlier) nofun
  · cases between with
    | nil => exact (List.cons.inj rest).1.symm
    | cons head tail =>
        obtain ⟨rfl, rfl⟩ := List.cons.inj rest
        have earlier := later other (List.mem_append_right _ List.mem_cons_self)
        have notEarlier := otherNotBefore row (List.mem_append_right _ List.mem_cons_self)
        exact absurd (earlier.symm.trans notEarlier) nofun

theorem isFirst_of_firstBy {before : Row → Row → Bool} (order : IsStrictOrder before)
    {rows : List Row} {row : Row} (first : firstBy before rows = some row) :
    IsFirst before rows row := by
  induction rows generalizing row with
  | nil => cases first
  | cons head rest ih =>
      have notBefore := firstBy_not_before order first
      rw [firstBy] at first
      split at first
      · cases first
        exact ⟨[], rest, rfl, nofun, fun other later =>
          notBefore other (List.mem_cons_of_mem _ later)⟩
      · rename_i candidate found
        obtain ⟨front, back, rfl, later, behind⟩ := ih found
        split at first
        · rename_i earlier
          cases first
          exact ⟨head :: front, back, rfl, List.forall_mem_cons.mpr ⟨earlier, later⟩, behind⟩
        · cases first
          exact ⟨[], _, rfl, nofun, fun other later =>
            notBefore other (List.mem_cons_of_mem _ later)⟩

theorem firstBy_eq_some_iff {before : Row → Row → Bool} (order : IsStrictOrder before)
    {rows : List Row} {row : Row} : firstBy before rows = some row ↔ IsFirst before rows row := by
  refine ⟨isFirst_of_firstBy order, fun first => ?_⟩
  cases found : firstBy before rows with
  | none =>
      rw [firstBy_eq_none_iff.mp found] at first
      cases first.mem
  | some other => rw [(isFirst_of_firstBy order found).unique first]

/-! ## Sorted rows -/

/-- Where a row stays in front of another in a stable sort. -/
def staysBefore (before : Row → Row → Bool) (left right : Row) : Prop := before right left = false

instance (before : Row → Row → Bool) : DecidableRel (staysBefore before) :=
  fun left right => inferInstanceAs (Decidable (before right left = false))

theorem IsStrictOrder.total {before : Row → Row → Bool} (order : IsStrictOrder before) :
    Std.Total (staysBefore before) where
  total left right := by
    cases earlier : before right left with
    | false => exact .inl earlier
    | true => exact .inr (order.asymm right left earlier)

theorem IsStrictOrder.isTrans {before : Row → Row → Bool} (order : IsStrictOrder before) :
    IsTrans Row (staysBefore before) where
  trans left middle right first second := order.negTrans right middle left second first

/-- The head of a stable sort. -/
theorem head?_insertionSort (before : Row → Row → Bool) (rows : List Row) :
    (rows.insertionSort (staysBefore before)).head? = firstBy before rows := by
  induction rows with
  | nil => rfl
  | cons row rest ih =>
      rw [List.insertionSort_cons, firstBy, ← ih]
      cases rest.insertionSort (staysBefore before) with
      | nil => rfl
      | cons next later =>
          rw [List.orderedInsert_cons]
          cases earlier : before next row with
          | true => simp [staysBefore, earlier]
          | false => simp [staysBefore, earlier]

@[simp] theorem firstBy_toList (before : Row → Row → Bool) (row : Option Row) :
    firstBy before row.toList = row := by
  cases row <;> rfl

/-- Searching a row that is inserted into sorted rows. -/
theorem findSome?_orderedInsert {before : Row → Row → Bool} (order : IsStrictOrder before)
    {Value : Type*} (value : Row → Option Value) (row : Row) {rows : List Row}
    (sorted : rows.Pairwise (staysBefore before)) :
    (rows.orderedInsert (staysBefore before) row).findSome?
        (fun row => (value row).map (row, ·)) =
      firstBy (fun left right => before left.1 right.1)
        (((value row).map (row, ·)).toList ++
          (rows.findSome? fun row => (value row).map (row, ·)).toList) := by
  induction rows with
  | nil => cases has : value row <;> simp [has, firstBy]
  | cons next rest ih =>
      obtain ⟨behind, sortedRest⟩ := List.pairwise_cons.mp sorted
      rw [List.orderedInsert_cons]
      split
      · rename_i stays
        cases has : value row with
        | none => simp [List.findSome?_cons, has]
        | some own =>
            have notBefore : ∀ other ∈ next :: rest, before other row = false := by
              intro other member
              rcases List.mem_cons.mp member with rfl | later
              · exact stays
              · exact order.negTrans _ _ _ (behind other later) stays
            rw [List.findSome?_cons, has]
            cases found : (next :: rest).findSome? fun row => (value row).map (row, ·) with
            | none => rfl
            | some pair =>
                obtain ⟨other, member, isOther⟩ := List.exists_of_findSome?_eq_some found
                obtain ⟨otherValue, _, rfl⟩ := Option.map_eq_some_iff.mp isOther
                simp [firstBy, notBefore other member]
      · rename_i goesFirst
        have earlier : before next row = true := by simpa [staysBefore] using goesFirst
        cases has : value next with
        | none =>
            rw [List.findSome?_cons, List.findSome?_cons, has]
            exact ih sortedRest
        | some own =>
            rw [List.findSome?_cons, List.findSome?_cons, has]
            cases value row with
            | none => rfl
            | some _ => simp [firstBy, earlier]

/-- The first row of a stable sort that has a value is the first of those that have one. -/
theorem findSome?_insertionSort {before : Row → Row → Bool} (order : IsStrictOrder before)
    {Value : Type*} (value : Row → Option Value) (rows : List Row) :
    (rows.insertionSort (staysBefore before)).findSome? (fun row => (value row).map (row, ·)) =
      firstBy (fun left right => before left.1 right.1)
        (rows.filterMap fun row => (value row).map (row, ·)) := by
  have := order.total
  have := order.isTrans
  induction rows with
  | nil => rfl
  | cons row rest ih =>
      rw [List.insertionSort_cons, findSome?_orderedInsert order value row
        (List.pairwise_insertionSort _ rest), ih]
      cases has : value row with
      | none => simp [has]
      | some own =>
          simp only [List.filterMap_cons, has, Option.map_some, Option.toList_some,
            List.singleton_append, firstBy]
          cases firstBy (fun left right => before left.1 right.1)
              (rest.filterMap fun row => (value row).map (row, ·)) with
          | none => rfl
          | some other => rfl

/-- One column of a descending order; the rest decides between equal values. -/
def descending (left right : Int) (rest : Bool) : Bool :=
  right < left || (left == right && rest)

theorem descending_eq_true {left right : Int} {rest : Bool} :
    descending left right rest = true ↔ right < left ∨ left = right ∧ rest = true := by
  simp [descending]

/-- Of rows that are sorted from the greatest measure down, a row is among the first unless so many
others are not smaller. -/
theorem mem_take_insertionSort {Measure : Type*} [LinearOrder Measure] (measure : Row → Measure)
    [DecidableEq Row] {rows : List Row} {row : Row} (member : row ∈ rows) {limit : Nat}
    (few : (rows.countP fun other => other ≠ row ∧ measure row ≤ measure other) < limit) :
    row ∈ (rows.insertionSort fun left right => measure right ≤ measure left).take limit := by
  have total : Std.Total fun left right : Row => measure right ≤ measure left :=
    ⟨fun left right => le_total (measure right) (measure left)⟩
  have trans : IsTrans Row fun left right => measure right ≤ measure left :=
    ⟨fun _ _ _ first second => second.trans first⟩
  have sorted := List.pairwise_insertionSort (fun left right => measure right ≤ measure left) rows
  have perm := List.perm_insertionSort (fun left right => measure right ≤ measure left) rows
  rw [← perm.mem_iff] at member
  rw [← perm.countP_eq] at few
  generalize rows.insertionSort (fun left right => measure right ≤ measure left) = sortedRows
    at member few sorted
  by_contra absent
  rw [← List.take_append_drop limit sortedRows, List.mem_append, or_iff_right absent] at member
  rw [← List.take_append_drop limit sortedRows, List.pairwise_append] at sorted
  -- all rows in front are others that are not smaller
  have infront : ∀ other ∈ sortedRows.take limit, other ≠ row ∧ measure row ≤ measure other := by
    intro other among
    refine ⟨?_, sorted.2.2 other among row member⟩
    rintro rfl
    exact absent among
  have full : (sortedRows.take limit).length = limit := by
    have nonempty := List.length_pos_of_mem member
    rw [List.length_drop] at nonempty
    rw [List.length_take]
    omega
  have counted : (sortedRows.take limit).countP
      (fun other => other ≠ row ∧ measure row ≤ measure other) = limit := by
    rw [List.countP_eq_length.mpr fun other among => decide_eq_true (infront other among), full]
  exact absurd counted ((List.take_sublist limit sortedRows).countP_le.trans_lt few).ne

end VersionedTable
