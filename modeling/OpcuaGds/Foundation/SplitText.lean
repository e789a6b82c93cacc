import Mathlib.Data.List.Basic

/-! # The parts of a list between separators

Which parts stay when the members of a list are mapped, and which parts a joined list has.
-/

namespace SplitText

variable {α : Type} [BEq α] [LawfulBEq α] {sep : α} {part chars : List α}

theorem notMem_of_mem_splitOn (member : part ∈ chars.splitOn sep) : sep ∉ part := by
  induction chars generalizing part with
  | nil =>
      rw [List.splitOn_nil, List.mem_singleton] at member
      subst member
      exact List.not_mem_nil
  | cons c rest ih =>
      rw [List.splitOn_cons_eq_if_modifyHead] at member
      split at member
      · rcases List.mem_cons.mp member with rfl | later
        · exact List.not_mem_nil
        · exact ih later
      · rename_i other
        cases parts : rest.splitOn sep with
        | nil => exact absurd parts (List.splitOn_ne_nil sep rest)
        | cons first more =>
            rw [parts, List.modifyHead_cons] at member
            rcases List.mem_cons.mp member with rfl | later
            · intro held
              rcases List.mem_cons.mp held with rfl | inFirst
              · exact other (beq_self_eq_true _)
              · exact ih (parts ▸ List.mem_cons_self) inFirst
            · exact ih (parts ▸ List.mem_cons_of_mem _ later)

/-- A part without a separator that is not changed by the map is a part of the mapped list,
which may have more separators. -/
theorem mem_splitOn_map_intercalate {f : α → α} (keeps : f sep = sep)
    (plain : sep ∉ part) (same : part.map f = part) {parts : List (List α)}
    (member : part ∈ parts) : part ∈ ((([sep].intercalate parts)).map f).splitOn sep := by
  induction parts with
  | nil => cases member
  | cons first rest ih =>
      have here (whole : part = first) : part ∈ (first.map f).splitOn sep := by
        subst whole
        rw [same, List.splitOn_eq_singleton plain]
        exact List.mem_singleton_self part
      cases rest with
      | nil =>
          rw [List.intercalate_singleton]
          exact here (List.mem_singleton.mp member)
      | cons second more =>
          rw [List.intercalate_cons_cons, List.append_assoc, List.singleton_append, List.map_append,
            List.map_cons, keeps, List.splitOn_append_cons_self, List.mem_append]
          rcases List.mem_cons.mp member with whole | later
          · exact .inl (here whole)
          · exact .inr (ih later)

theorem mem_splitOn_map {f : α → α} (keeps : f sep = sep) (same : part.map f = part)
    (member : part ∈ chars.splitOn sep) : part ∈ (chars.map f).splitOn sep := by
  have plain := notMem_of_mem_splitOn member
  have mapped := mem_splitOn_map_intercalate keeps plain same member
  rwa [List.intercalate_splitOn] at mapped

/-- A map that keeps the separator apart maps the parts. -/
theorem splitOn_map {f : α → α} (keeps : ∀ c, f c = sep ↔ c = sep) (chars : List α) :
    (chars.map f).splitOn sep = (chars.splitOn sep).map (List.map f) := by
  induction chars with
  | nil => rfl
  | cons c rest ih =>
      rw [List.map_cons, List.splitOn_cons_eq_if_modifyHead, List.splitOn_cons_eq_if_modifyHead, ih]
      by_cases here : c = sep
      · rw [if_pos (beq_iff_eq.mpr ((keeps c).mpr here)), if_pos (beq_iff_eq.mpr here)]
        rfl
      · rw [if_neg (fun same => here ((keeps c).mp (beq_iff_eq.mp same))),
          if_neg (fun same => here (beq_iff_eq.mp same))]
        cases rest.splitOn sep <;> rfl

/-- A part without blanks that follows blanks and separators is a part of what follows them. -/
theorem splitOn_of_blank_front {blank : α → Prop} {front : List α}
    {befores afters : List (List α)} (each : ∀ c ∈ front, c = sep ∨ blank c)
    (solid : ∀ c ∈ part, ¬blank c) (some : part ≠ [])
    (parts : (front ++ chars).splitOn sep = befores ++ part :: afters) :
    ∃ befores', chars.splitOn sep = befores' ++ part :: afters := by
  induction front generalizing befores with
  | nil => exact ⟨befores, parts⟩
  | cons c front ih =>
      have later := fun d member => each d (List.mem_cons_of_mem c member)
      rw [List.cons_append, List.splitOn_cons_eq_if_modifyHead] at parts
      split at parts
      · cases befores with
        | nil => exact absurd (List.cons.inj parts).1.symm some
        | cons first befores => exact ih later (List.cons.inj parts).2
      · rename_i other
        cases split : (front ++ chars).splitOn sep with
        | nil => exact absurd split (List.splitOn_ne_nil sep _)
        | cons head tail =>
            rw [split, List.modifyHead_cons] at parts
            cases befores with
            | nil =>
                have held : c ∈ part := (List.cons.inj parts).1 ▸ List.mem_cons_self
                rcases each c List.mem_cons_self with separator | isBlank
                · exact absurd (beq_iff_eq.mpr separator) other
                · exact absurd isBlank (solid c held)
            | cons first befores =>
                have shorter : (front ++ chars).splitOn sep =
                    (head :: befores) ++ part :: afters :=
                  split.trans (congrArg (head :: ·) (List.cons.inj parts).2)
                exact ih later shorter

theorem exists_mem_splitOn {c : α} (member : c ∈ chars) (other : c ≠ sep) :
    ∃ part ∈ chars.splitOn sep, c ∈ part := by
  induction chars with
  | nil => cases member
  | cons d rest ih =>
      rw [List.splitOn_cons_eq_if_modifyHead]
      cases split : rest.splitOn sep with
      | nil => exact absurd split (List.splitOn_ne_nil sep _)
      | cons head tail =>
          rw [split] at ih
          by_cases separator : (d == sep) = true
          · rw [if_pos separator]
            rcases List.mem_cons.mp member with here | later
            · exact absurd (here.trans (beq_iff_eq.mp separator)) other
            · obtain ⟨part, among, held⟩ := ih later
              exact ⟨part, List.mem_cons_of_mem _ among, held⟩
          · rw [if_neg separator, List.modifyHead_cons]
            rcases List.mem_cons.mp member with here | later
            · exact ⟨d :: head, List.mem_cons_self, here ▸ List.mem_cons_self⟩
            · obtain ⟨part, among, held⟩ := ih later
              rcases List.mem_cons.mp among with first | further
              · exact ⟨d :: head, List.mem_cons_self, List.mem_cons_of_mem _ (first ▸ held)⟩
              · exact ⟨part, List.mem_cons_of_mem _ further, held⟩

omit [LawfulBEq α] in
theorem mem_of_mem_splitOn {c : α} (among : part ∈ chars.splitOn sep) (member : c ∈ part) :
    c ∈ chars := by
  induction chars generalizing part with
  | nil =>
      rw [List.splitOn_nil, List.mem_singleton] at among
      exact among ▸ member
  | cons d rest ih =>
      rw [List.splitOn_cons_eq_if_modifyHead] at among
      split at among
      · rcases List.mem_cons.mp among with rfl | later
        · cases member
        · exact List.mem_cons_of_mem _ (ih later member)
      · cases split : rest.splitOn sep with
        | nil => exact absurd split (List.splitOn_ne_nil sep rest)
        | cons head tail =>
            rw [split, List.modifyHead_cons] at among
            rw [split] at ih
            rcases List.mem_cons.mp among with rfl | later
            · rcases List.mem_cons.mp member with rfl | inHead
              · exact List.mem_cons_self
              · exact List.mem_cons_of_mem _ (ih List.mem_cons_self inHead)
            · exact List.mem_cons_of_mem _ (ih (List.mem_cons_of_mem _ later) member)

omit [BEq α] [LawfulBEq α] in
/-- Where the first separator stands. -/
theorem first_cancel {front other back rest : List α} (plain : sep ∉ front)
    (otherPlain : sep ∉ other)
    (same : front ++ sep :: back = other ++ sep :: rest) : front = other ∧ back = rest := by
  induction front generalizing other with
  | nil =>
      cases other with
      | nil => exact ⟨rfl, (List.cons.inj same).2⟩
      | cons c other => exact absurd ((List.cons.inj same).1 ▸ List.mem_cons_self) otherPlain
  | cons c front ih =>
      cases other with
      | nil => exact absurd ((List.cons.inj same).1 ▸ List.mem_cons_self) plain
      | cons d other =>
          obtain ⟨heads, tails⟩ := List.cons.inj same
          obtain ⟨rfl, rfl⟩ := ih (fun among => plain (List.mem_cons_of_mem _ among))
            (fun among => otherPlain (List.mem_cons_of_mem _ among)) tails
          exact ⟨heads ▸ rfl, rfl⟩

omit [BEq α] [LawfulBEq α] in
/-- Where the last separator stands. -/
theorem last_cancel {front other back rest : List α} (plain : sep ∉ back) (otherPlain : sep ∉ rest)
    (same : front ++ sep :: back = other ++ sep :: rest) : front = other ∧ back = rest := by
  have reversed := congrArg List.reverse same
  rw [List.reverse_append, List.reverse_append, List.reverse_cons, List.reverse_cons,
    List.append_assoc, List.append_assoc] at reversed
  obtain ⟨backs, fronts⟩ := first_cancel (fun among => plain (List.mem_reverse.mp among))
    (fun among => otherPlain (List.mem_reverse.mp among)) reversed
  exact ⟨List.reverse_injective fronts, List.reverse_injective backs⟩

omit [BEq α] [LawfulBEq α] in
/-- A joined list is made of the separator and of its parts. -/
theorem mem_intercalate {sep c : α} {parts : List (List α)}
    (member : c ∈ [sep].intercalate parts) : c = sep ∨ ∃ part ∈ parts, c ∈ part := by
  induction parts with
  | nil => cases member
  | cons first rest ih =>
      cases rest with
      | nil =>
          rw [List.intercalate_singleton] at member
          exact .inr ⟨first, List.mem_cons_self, member⟩
      | cons second more =>
          rw [List.intercalate_cons_cons, List.append_assoc, List.mem_append,
            List.singleton_append, List.mem_cons] at member
          rcases member with inFirst | same | later
          · exact .inr ⟨first, List.mem_cons_self, inFirst⟩
          · exact .inl same
          · exact (ih later).imp_right fun ⟨part, among, held⟩ =>
              ⟨part, List.mem_cons_of_mem _ among, held⟩

omit [BEq α] [LawfulBEq α] in
theorem sep_mem_intercalate {sep : α} {parts : List (List α)} (several : 1 < parts.length) :
    sep ∈ [sep].intercalate parts := by
  match parts, several with
  | first :: second :: rest, _ =>
      rw [List.intercalate_cons_cons, List.append_assoc, List.singleton_append]
      exact List.mem_append_right _ List.mem_cons_self

end SplitText
