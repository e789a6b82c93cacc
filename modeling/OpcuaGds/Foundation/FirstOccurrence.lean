import Mathlib.Data.List.Infix
import OpcuaGds.Foundation.CText

/-! # First occurrences

Where a list first stands in another one, and that `strstr` finds it.
-/

/-- The needle stands at the beginning of the rest, and nowhere earlier. -/
structure FirstAt {α : Type*} (needle before rest : List α) : Prop where
  found : needle <+: rest
  first : ∀ front back, before ++ rest = front ++ back → needle <+: back →
    before.length ≤ front.length

namespace FirstAt

variable {α : Type*} {needle before rest front back : List α}

/-- There is one first occurrence. -/
theorem unique (here : FirstAt needle before rest) (there : FirstAt needle front back)
    (same : before ++ rest = front ++ back) : before = front ∧ rest = back :=
  List.append_inj same (le_antisymm (here.first front back same there.found)
    (there.first before rest same.symm here.found))

/-- The first occurrence is the first one from any place before it. -/
theorem of_later (here : FirstAt needle (front ++ before) rest) : FirstAt needle before rest where
  found := here.found
  first := by
    intro start tail same stands
    have whole : front ++ before ++ rest = (front ++ start) ++ tail := by
      rw [List.append_assoc, same, List.append_assoc]
    have bound := here.first _ _ whole stands
    rw [List.length_append, List.length_append] at bound
    omega

/-- One place on. -/
theorem cons {c : α} (here : FirstAt needle before rest)
    (notHere : ¬ needle <+: c :: before ++ rest) :
    FirstAt needle (c :: before) rest where
  found := here.found
  first := by
    intro start tail same stands
    cases start with
    | nil => exact absurd (same ▸ stands) notHere
    | cons d start =>
        have bound := here.first start tail (List.cons.inj same).2 stands
        exact Nat.succ_le_succ bound

end FirstAt

namespace CText

variable {needle text rest : List Char}

/-- What `strstr` finds is the first occurrence; it finds none where there is none. -/
theorem strstr_spec (needle text : List Char) :
    match strstr needle text with
    | none => ¬ needle <:+: text
    | some rest => ∃ before, text = before ++ rest ∧ FirstAt needle before rest := by
  induction text with
  | nil =>
      rw [strstr]
      by_cases empty : needle = []
      · rw [if_pos empty]
        exact ⟨[], rfl, ⟨[], by rw [empty]; rfl⟩, fun _ _ _ _ => Nat.zero_le _⟩
      · rw [if_neg empty]
        exact fun stands => empty (List.infix_nil.mp stands)
  | cons c text ih =>
      rw [strstr]
      by_cases here : needle.isPrefixOf (c :: text) = true
      · rw [if_pos here]
        exact ⟨[], rfl, List.isPrefixOf_iff_prefix.mp here, fun _ _ _ _ => Nat.zero_le _⟩
      · rw [if_neg here]
        rw [List.isPrefixOf_iff_prefix] at here
        cases found : strstr needle text with
        | none =>
            rw [found] at ih
            rw [List.infix_cons_iff]
            exact fun stands => stands.elim here ih
        | some rest =>
            rw [found] at ih
            obtain ⟨before, rfl, first⟩ := ih
            exact ⟨c :: before, rfl, first.cons here⟩

theorem strstr_eq_none_iff : strstr needle text = none ↔ ¬ needle <:+: text := by
  have spec := strstr_spec needle text
  cases found : strstr needle text with
  | none =>
      rw [found] at spec
      exact iff_of_true rfl spec
  | some rest =>
      rw [found] at spec
      obtain ⟨before, rfl, first⟩ := spec
      exact iff_of_false nofun fun absent =>
        absent (first.found.isInfix.trans (List.suffix_append _ _).isInfix)

theorem strstr_eq_some_iff :
    strstr needle text = some rest ↔
      ∃ before, text = before ++ rest ∧ FirstAt needle before rest := by
  have spec := strstr_spec needle text
  cases found : strstr needle text with
  | none =>
      rw [found] at spec
      refine iff_of_false nofun ?_
      rintro ⟨before, rfl, first⟩
      exact spec (first.found.isInfix.trans (List.suffix_append _ _).isInfix)
  | some other =>
      rw [found] at spec
      obtain ⟨front, isText, first⟩ := spec
      constructor
      · intro same
        rw [← Option.some.inj same]
        exact ⟨front, isText, first⟩
      · rintro ⟨before, split, there⟩
        rw [(first.unique there (isText.symm.trans split)).2]

end CText
