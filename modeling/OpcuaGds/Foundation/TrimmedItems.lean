import Mathlib.Data.List.DropRight

/-! # Trimmed items of a list text

The items between the separators of a text, without the blanks around them.
-/

namespace TrimmedItems

variable {α : Type}

/-- A text without the blanks at its ends. -/
def trimmed (blank : α → Bool) (text : List α) : List α :=
  (text.dropWhile blank).rdropWhile blank

/-- The items of a text. -/
def items [BEq α] (sep : α) (blank : α → Bool) (text : List α) : List (List α) :=
  (text.splitOn sep).map (trimmed blank)

variable {sep : α} {blank : α → Bool} {item text : List α}

theorem trimmed_cons {c : α} (isBlank : blank c = true) (rest : List α) :
    trimmed blank (c :: rest) = trimmed blank rest := by
  rw [trimmed, List.dropWhile_cons, if_pos isBlank, trimmed]

section Items

variable [BEq α]

theorem items_nil : items sep blank [] = [[]] := by
  rw [items, List.splitOn_nil]
  rfl

variable [LawfulBEq α]

theorem items_cons_sep (rest : List α) :
    items sep blank (sep :: rest) = [] :: items sep blank rest := by
  rw [items, List.splitOn_cons_eq_if_modifyHead, if_pos (beq_self_eq_true sep)]
  rfl

/-- A blank before an item changes nothing. -/
theorem items_cons_blank {c : α} (isBlank : blank c = true) (other : c ≠ sep) (rest : List α) :
    items sep blank (c :: rest) = items sep blank rest := by
  rw [items, items, List.splitOn_cons_eq_if_modifyHead, if_neg (beq_eq_false_iff_ne.mpr other ▸
    Bool.false_ne_true)]
  cases parts : rest.splitOn sep with
  | nil => rfl
  | cons first more =>
      rw [List.modifyHead_cons, List.map_cons, List.map_cons, trimmed_cons isBlank]

/-- No item but the empty one is lost when separators and blanks are skipped. -/
theorem mem_items_dropWhile (nonempty : item ≠ []) :
    item ∈ items sep blank (text.dropWhile fun c => c == sep || blank c) ↔
      item ∈ items sep blank text := by
  induction text with
  | nil => exact Iff.rfl
  | cons c rest ih =>
      rw [List.dropWhile_cons]
      by_cases skipped : (c == sep || blank c) = true
      · rw [if_pos skipped, ih]
        by_cases separates : c = sep
        · rw [separates, items_cons_sep, List.mem_cons, or_iff_right nonempty]
        · have isBlank := (Bool.or_eq_true_iff.mp skipped).resolve_left fun same =>
            separates (beq_iff_eq.mp same)
          rw [items_cons_blank isBlank separates]
      · rw [if_neg skipped]

/-- An item is the first one or stands behind the next separator. -/
theorem mem_items_iff (nonempty : item ≠ []) :
    item ∈ items sep blank text ↔
      item = trimmed blank (text.takeWhile (· != sep)) ∨
        item ∈ items sep blank (text.dropWhile (· != sep)) := by
  have plain : sep ∉ text.takeWhile (· != sep) := fun member => by
    have other := List.mem_takeWhile_imp member
    rw [bne_self_eq_false] at other
    cases other
  have whole := List.takeWhile_append_dropWhile (p := (· != sep)) (l := text)
  cases rest : text.dropWhile (· != sep) with
  | nil =>
      rw [rest, List.append_nil] at whole
      rw [items_nil, List.mem_singleton, or_iff_left nonempty]
      rw [whole] at plain ⊢
      rw [items, List.splitOn_eq_singleton plain, List.map_singleton, List.mem_singleton]
  | cons c more =>
      have separates : c = sep := by
        have stops := List.head_dropWhile_not (· != sep) (rest ▸ List.cons_ne_nil c more)
        simpa [rest] using stops
      subst separates
      rw [rest] at whole
      rw [items_cons_sep, List.mem_cons, or_iff_right nonempty]
      conv_lhs => rw [← whole]
      rw [items, List.splitOn_append_cons_self_of_not_mem plain]
      exact List.mem_cons

end Items

end TrimmedItems
