import Mathlib.Algebra.Group.Int.Defs
import Mathlib.Data.List.TakeWhile
import Mathlib.Data.String.Basic

/-! # Text operations of C

Texts that end at the first NUL, and the functions of `string.h` and `ctype.h` on them in
the C locale.
-/

namespace CText

/-- A text as a C string. -/
def ofText (text : String) : String := String.ofList (text.toList.takeWhile fun c => c != '\x00')

/-- `strcasecmp(left, right) == 0`. -/
def equalsIgnoreCase (left right : String) : Bool :=
  left.toList.map Char.toLower == right.toList.map Char.toLower

/-- `strstr`: the rest of the text from the first occurrence. -/
def strstr (needle : List Char) : List Char → Option (List Char)
  | [] => if needle = [] then some [] else none
  | c :: rest => if needle.isPrefixOf (c :: rest) then some (c :: rest) else strstr needle rest

/-- `isalnum` of a byte. -/
def isAlnum (byte : UInt8) : Bool :=
  (48 ≤ byte && byte ≤ 57) || (65 ≤ byte && byte ≤ 90) || (97 ≤ byte && byte ≤ 122)

/-- `isspace`. -/
def isSpace (c : Char) : Bool := c == ' ' || (9 ≤ c.toNat && c.toNat ≤ 13)

/-- `strtol(text, &end, 10)` when it reads the text to its end: optional spaces and a sign, then
digits. A number out of the range of a 64-bit `long` is the nearest one in it. -/
def strtolWhole (text : String) : Option Int :=
  let chars := text.toList.dropWhile isSpace
  let negative := chars.head? == some '-'
  let digits := if negative ∨ chars.head? = some '+' then chars.drop 1 else chars
  if digits ≠ [] ∧ digits.all Char.isDigit then
    let size := digits.foldl (fun n c => n * 10 + (c.toNat - 48)) (0 : Nat)
    some (if negative then max (-2 ^ 63) (-(size : Int)) else min (2 ^ 63 - 1) size)
  else none

/-- A text that was read as a C string has no NUL left. -/
theorem ofText_ofText (text : String) : ofText (ofText text) = ofText text := by
  rw [ofText, ofText, String.toList_ofList]
  exact congrArg String.ofList List.takeWhile_idem

end CText
