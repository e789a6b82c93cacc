import Mathlib.Data.List.DropRight
import Mathlib.Data.String.Basic

/-! # C strings in memory

The bytes of a string up to its NUL, pointers into it as offsets, and the loops that move them. A
read outside of the string has no result.
-/

/-- The bytes of a C string before its NUL. -/
structure CString where
  bytes : List UInt8
  no_nul : 0 ∉ bytes
  deriving DecidableEq

namespace CString

/-- A text as a C string. -/
def ofText (text : String) : CString where
  bytes := text.toUTF8.data.toList.takeWhile (· != 0)
  no_nul := fun member => absurd (List.mem_takeWhile_imp member) (by decide)

/-- `isspace` of a byte. -/
def isSpace (byte : UInt8) : Bool := byte == 32 || (9 ≤ byte && byte ≤ 13)

/-- How many cells `while(test(*p)) p++` passes; `none` when it runs out of them. -/
def passed (test : UInt8 → Bool) : List UInt8 → Option Nat
  | [] => none
  | cell :: cells => if test cell then (passed test cells).map (· + 1) else some 0

/-- `strncmp(left, right, n) == 0`. -/
def strncmpEqual : Nat → List UInt8 → List UInt8 → Option Bool
  | 0, _, _ => some true
  | n + 1, cell :: left, other :: right =>
      if cell ≠ other then some false
      else if cell = 0 then some true
      else strncmpEqual n left right
  | _ + 1, _, _ => none

section Pointers

variable (text : CString)

/-- `strlen`. -/
def length : Nat := text.bytes.length

/-- The memory of a string, with its NUL. -/
def cells : List UInt8 := text.bytes ++ [0]

/-- `text[p]`. -/
def read (p : Nat) : Option UInt8 := text.cells[p]?

/-- `while(test(*p)) p++`. -/
def advance (test : UInt8 → Bool) (p : Nat) : Option Nat :=
  (passed test (text.cells.drop p)).map (p + ·)

/-- `while(end > start && test(*(end - 1))) end--`. -/
def retreat (test : UInt8 → Bool) (start : Nat) : Nat → Option Nat
  | 0 => some 0
  | stop + 1 =>
      if start < stop + 1 then do
        let byte ← text.read stop
        if test byte then retreat test start stop else some (stop + 1)
      else some (stop + 1)

end Pointers

/-! ## What the loops find -/

theorem passed_eq {test : UInt8 → Bool} (stops : test 0 = false) (bytes : List UInt8) :
    passed test (bytes ++ [0]) = some (bytes.takeWhile test).length := by
  induction bytes with
  | nil => exact if_neg (Bool.not_eq_true _ ▸ stops)
  | cons byte rest ih =>
      rw [List.cons_append, passed, ih, List.takeWhile_cons]
      by_cases passes : test byte = true
      · rw [if_pos passes, if_pos passes]
        rfl
      · rw [if_neg passes, if_neg passes]
        rfl

/-- In a string, a loop that looks for the NUL too passes what the loop without it passes. -/
theorem takeWhile_notNul {test : UInt8 → Bool} {bytes : List UInt8} (plain : 0 ∉ bytes) :
    (bytes.takeWhile fun byte => byte != 0 && test byte) = bytes.takeWhile test := by
  induction bytes with
  | nil => rfl
  | cons byte rest ih =>
      obtain ⟨notNul, plain⟩ := not_or.mp (List.mem_cons.not.mp plain)
      rw [List.takeWhile_cons, List.takeWhile_cons, ih plain, bne_iff_ne.mpr (Ne.symm notNul),
        Bool.true_and]

/-- Different strings of one length differ before the end of both. -/
theorem strncmpEqual_append {left right : List UInt8} (same : left.length = right.length)
    (plain : 0 ∉ left) (leftMore rightMore : List UInt8) :
    strncmpEqual right.length (left ++ leftMore) (right ++ rightMore) =
      some (decide (left = right)) := by
  induction left generalizing right with
  | nil =>
      cases List.eq_nil_of_length_eq_zero same.symm
      rfl
  | cons cell left ih =>
      cases right with
      | nil => cases same
      | cons other right =>
          obtain ⟨notNul, plain⟩ := not_or.mp (List.mem_cons.not.mp plain)
          rw [List.length_cons, List.cons_append, List.cons_append, strncmpEqual]
          by_cases equal : cell = other
          · subst equal
            rw [if_neg (not_not_intro rfl), if_neg (Ne.symm notNul),
              ih (Nat.succ.inj same) plain]
            simp
          · rw [if_pos equal]
            simp [equal]

section Pointers

variable {text : CString} {p : Nat}

theorem read_lt (before : p < text.bytes.length) : text.read p = some text.bytes[p] := by
  rw [read, cells, List.getElem?_append_left before]
  exact List.getElem?_eq_getElem before

theorem read_length : text.read text.length = some 0 := by
  rw [read, cells, length, List.getElem?_concat_length]

/-- The first byte is the NUL of the empty string only. -/
theorem read_zero_iff : text.read 0 = some 0 ↔ text.bytes = [] := by
  obtain ⟨bytes, noNul⟩ := text
  cases bytes with
  | nil => exact iff_of_true rfl rfl
  | cons byte rest =>
      refine iff_of_false (fun first => noNul ?_) (List.cons_ne_nil _ _)
      cases Option.some.inj first
      exact List.mem_cons_self

theorem advance_eq {test : UInt8 → Bool} (stops : test 0 = false) (within : p ≤ text.length) :
    text.advance test p = some (p + ((text.bytes.drop p).takeWhile test).length) := by
  rw [advance, cells, List.drop_append_of_le_length within, passed_eq stops]
  rfl

/-- A pointer that a loop has moved stands where the bytes that the loop passes end. -/
theorem drop_advanced (test : UInt8 → Bool) :
    text.bytes.drop (p + ((text.bytes.drop p).takeWhile test).length) =
      (text.bytes.drop p).dropWhile test := by
  have whole := List.takeWhile_append_dropWhile (p := test) (l := text.bytes.drop p)
  calc text.bytes.drop (p + ((text.bytes.drop p).takeWhile test).length)
      = (text.bytes.drop p).drop ((text.bytes.drop p).takeWhile test).length :=
        List.drop_drop.symm
    _ = ((text.bytes.drop p).takeWhile test ++ (text.bytes.drop p).dropWhile test).drop
          ((text.bytes.drop p).takeWhile test).length := by rw [whole]
    _ = (text.bytes.drop p).dropWhile test := List.drop_left

theorem advanced_le (test : UInt8 → Bool) (within : p ≤ text.length) :
    p + ((text.bytes.drop p).takeWhile test).length ≤ text.length := by
  have passes := (List.takeWhile_sublist test (l := text.bytes.drop p)).length_le
  rw [List.length_drop] at passes
  exact (Nat.add_le_add_left passes p).trans_eq (Nat.add_sub_cancel' within)

theorem retreat_add {test : UInt8 → Bool} {start n : Nat} (within : start + n ≤ text.length) :
    text.retreat test start (start + n) =
      some (start + (((text.bytes.drop start).take n).rdropWhile test).length) := by
  induction n with
  | zero =>
      cases start with
      | zero => rfl
      | succ start => exact if_neg (Nat.lt_irrefl _)
  | succ n ih =>
      have before : start + n < text.bytes.length := within
      have last : n < (text.bytes.drop start).length := by
        rw [List.length_drop]
        exact Nat.lt_sub_iff_add_lt'.mpr before
      rw [← Nat.add_assoc, retreat, if_pos (Nat.lt_succ_of_le (Nat.le_add_right start n)),
        read_lt before, List.take_succ_eq_append_getElem last, List.getElem_drop,
        List.rdropWhile_concat]
      change (if test text.bytes[start + n] then text.retreat test start (start + n) else _) = _
      by_cases passes : test text.bytes[start + n] = true
      · rw [if_pos passes, if_pos passes]
        exact ih (Nat.le_of_succ_le within)
      · rw [if_neg passes, if_neg passes, List.length_append, List.length_take,
          Nat.min_eq_left last.le, List.length_singleton, ← Nat.add_assoc]

/-- A piece of a string, compared with a string of its length. -/
theorem strncmpEqual_eq {other : CString} {piece : List UInt8} (within : p ≤ text.length)
    (stands : piece <+: text.bytes.drop p) (same : piece.length = other.length) :
    strncmpEqual piece.length (text.cells.drop p) other.cells =
      some (decide (piece = other.bytes)) := by
  obtain ⟨more, whole⟩ := stands
  have plain : 0 ∉ piece := fun member => by
    apply text.no_nul
    apply List.mem_of_mem_drop (i := p)
    rw [← whole]
    exact List.mem_append_left more member
  rw [cells, List.drop_append_of_le_length within, ← whole, List.append_assoc, same]
  exact strncmpEqual_append same plain (more ++ [0]) [0]

end Pointers

end CString
