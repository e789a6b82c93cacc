import Mathlib.Data.List.TakeWhile
import Mathlib.Data.String.Basic

/-! # Text operations of Python's `str`

Case mapping is exact as far as an ASCII result is concerned: a character whose
mapping holds a non-ASCII character stays as it is.
-/

namespace PythonText

def upperChar (c : Char) : List Char :=
  match c.toNat with
  | 0xdf => ['S', 'S']
  | 0x131 => ['I']
  | 0x17f => ['S']
  | 0xfb00 => ['F', 'F']
  | 0xfb01 => ['F', 'I']
  | 0xfb02 => ['F', 'L']
  | 0xfb03 => ['F', 'F', 'I']
  | 0xfb04 => ['F', 'F', 'L']
  | 0xfb05 | 0xfb06 => ['S', 'T']
  | _ => [c.toUpper]

/-- `str.upper`. -/
def upper (text : String) : String := String.ofList (text.toList.flatMap upperChar)

/-- The Kelvin sign is the only other character with an ASCII lower case. -/
def lowerChar (c : Char) : Char := if c.toNat = 0x212a then 'k' else c.toLower

/-- `str.lower`. -/
def lower (text : String) : String := String.ofList (text.toList.map lowerChar)

theorem lower_append (front back : String) : lower (front ++ back) = lower front ++ lower back := by
  rw [lower, lower, lower, String.toList_append, List.map_append, String.ofList_append]

/-- Other characters than capital letters stay. -/
theorem lowerChar_of_not_upper {c : Char} (notKelvin : c.toNat ≠ 0x212a)
    (notUpper : ¬('A'.val ≤ c.val ∧ c.val ≤ 'Z'.val)) : lowerChar c = c := by
  have kept : c.toLower = c := dif_neg notUpper
  rw [lowerChar, if_neg notKelvin, kept]

/-- Lower case is made of letters. -/
theorem eq_of_lowerChar {c d : Char} (lowered : lowerChar c = d) (notLetter : d.isLower = false) :
    c = d := by
  subst lowered
  by_cases kelvin : c.toNat = 0x212a
  · rw [lowerChar, if_pos kelvin] at notLetter
    cases notLetter
  · by_cases upper : 'A'.val ≤ c.val ∧ c.val ≤ 'Z'.val
    · have value : c.toLower.val = c.val + ('a'.val - 'A'.val) := congrArg Char.val (dif_pos upper)
      obtain ⟨least, most⟩ := upper
      have lower : ('a'.val ≤ c.val + ('a'.val - 'A'.val)) ∧
          c.val + ('a'.val - 'A'.val) ≤ 'z'.val := by
        rw [UInt32.le_iff_toNat_le] at least most
        rw [UInt32.le_iff_toNat_le, UInt32.le_iff_toNat_le, UInt32.toNat_add]
        simp at least most ⊢
        omega
      rw [lowerChar, if_neg kelvin] at notLetter
      change (decide ('a'.val ≤ c.toLower.val) && decide (c.toLower.val ≤ 'z'.val)) = false
        at notLetter
      rw [value, Bool.and_eq_false_iff, decide_eq_false_iff_not, decide_eq_false_iff_not]
        at notLetter
      exact (notLetter.elim (· lower.1) (· lower.2)).elim
    · exact (lowerChar_of_not_upper kelvin upper).symm

/-- `str.isspace` of one character. -/
def isSpace (c : Char) : Bool :=
  let n := c.toNat
  (9 ≤ n && n ≤ 13) || (28 ≤ n && n ≤ 32) || n == 0x85 || n == 0xa0 || n == 0x1680 ||
    (0x2000 ≤ n && n ≤ 0x200a) || n == 0x2028 || n == 0x2029 || n == 0x202f || n == 0x205f ||
    n == 0x3000

def stripChars (chars : List Char) : List Char :=
  ((chars.dropWhile isSpace).reverse.dropWhile isSpace).reverse

/-- `str.strip`. -/
def strip (text : String) : String := String.ofList (stripChars text.toList)

/-- A text without white space is stripped of nothing. -/
theorem strip_eq_self {text : String} (solid : ∀ c ∈ text.toList, isSpace c = false) :
    strip text = text := by
  have kept {chars : List Char} (none : ∀ c ∈ chars, isSpace c = false) :
      chars.dropWhile isSpace = chars := by
    rw [List.dropWhile_eq_self_iff]
    intro nonempty space
    exact Bool.false_ne_true ((none _ (List.getElem_mem nonempty)).symm.trans space)
  have reversed : ∀ c ∈ text.toList.reverse, isSpace c = false :=
    fun c member => solid c (List.mem_reverse.mp member)
  rw [strip, stripChars, kept solid, kept reversed, List.reverse_reverse, String.ofList_toList]

/-- A text as a file in text mode gives it back: every end of a line is a newline. -/
def newlineChars : List Char → List Char
  | [] => []
  | '\r' :: '\n' :: rest => '\n' :: newlineChars rest
  | c :: rest => (if c = '\r' then '\n' else c) :: newlineChars rest

def universalNewlines (text : String) : String := String.ofList (newlineChars text.toList)

/-- `str.replace` of one character by a text. -/
def replaceChar (c : Char) (replacement : List Char) (chars : List Char) : List Char :=
  chars.flatMap fun d => if d = c then replacement else [d]

theorem replaceChar_of_notMem {c : Char} {chars : List Char} (absent : c ∉ chars)
    (replacement : List Char) : replaceChar c replacement chars = chars := by
  induction chars with
  | nil => rfl
  | cons d rest ih =>
      have distinct : d ≠ c := fun same => absent (same ▸ List.mem_cons_self)
      have later := ih fun member => absent (List.mem_cons_of_mem _ member)
      rw [replaceChar, List.flatMap_cons, if_neg distinct]
      exact congrArg (d :: ·) later

theorem replaceChar_append (c : Char) (replacement front back : List Char) :
    replaceChar c replacement (front ++ back) =
      replaceChar c replacement front ++ replaceChar c replacement back :=
  List.flatMap_append

/-- `str.replace` of a text; the first argument counts characters still to be
dropped from an occurrence. -/
def replaceAll (old replacement : List Char) : Nat → List Char → List Char
  | _, [] => []
  | skip + 1, _ :: rest => replaceAll old replacement skip rest
  | 0, c :: rest =>
      if old.isPrefixOf (c :: rest) then
        replacement ++ replaceAll old replacement (old.length - 1) rest
      else c :: replaceAll old replacement 0 rest

theorem replaceAll_skip (old replacement chars : List Char) :
    replaceAll old replacement chars.length chars = [] := by
  induction chars with
  | nil => rfl
  | cons c rest ih => exact ih

/-- An occurrence at the end whose first character stands nowhere before. -/
theorem replaceAll_suffix {c : Char} {front : List Char} (absent : c ∉ front)
    (rest replacement : List Char) :
    replaceAll (c :: rest) replacement 0 (front ++ c :: rest) = front ++ replacement := by
  induction front with
  | nil =>
      have whole : (c :: rest).isPrefixOf (c :: rest) = true :=
        List.isPrefixOf_iff_prefix.mpr List.prefix_rfl
      rw [List.nil_append, replaceAll, if_pos whole, List.length_cons, Nat.add_sub_cancel,
        replaceAll_skip, List.append_nil, List.nil_append]
  | cons d front ih =>
      have distinct : c ≠ d := fun same => absent (same ▸ List.mem_cons_self)
      have notHere : ¬((c :: rest).isPrefixOf (d :: (front ++ c :: rest)) = true) := by
        rw [List.isPrefixOf_cons_cons, beq_eq_false_iff_ne.mpr distinct, Bool.false_and]
        exact Bool.false_ne_true
      rw [List.cons_append, replaceAll, if_neg notHere,
        ih fun member => absent (List.mem_cons_of_mem _ member), List.cons_append]

/-- The digits of `int(text)`, with single underscores between them. -/
def readDigits : Bool → Nat → List Char → Option Nat
  | afterDigit, value, [] => if afterDigit then some value else none
  | afterDigit, value, c :: rest =>
      if c = '_' then if afterDigit then readDigits false value rest else none
      else if c.isDigit then readDigits true (value * 10 + (c.toNat - 48)) rest
      else none

/-- `int(text)` with at most 4300 digits. -/
def readInt (text : String) : Option Int :=
  let chars := stripChars text.toList
  if 4300 < (chars.filter Char.isDigit).length then none
  else
    match chars with
    | '-' :: rest => (readDigits false 0 rest).map fun n => -(n : Int)
    | '+' :: rest => (readDigits false 0 rest).map Int.ofNat
    | rest => (readDigits false 0 rest).map Int.ofNat

end PythonText
