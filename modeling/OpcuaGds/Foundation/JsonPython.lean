import Mathlib.Data.List.Infix
import OpcuaGds.Foundation.JsonText
import OpcuaGds.Foundation.PythonText

/-! # Decoded JSON as Python values

Truth value, `str`, `int` and dictionary access of what `json.loads` returns.
-/

namespace JsonFloat

/-- The significant digits and the decimal exponent of a number text. -/
def decimal (chars : List Char) : Nat × Int :=
  let mantissa := chars.takeWhile fun c => c != 'e'
  let exponent := (chars.dropWhile fun c => c != 'e').drop 1
  let fraction := (mantissa.dropWhile fun c => c != '.').drop 1
  let digits := (mantissa.filter Char.isDigit).foldl (fun n c => n * 10 + (c.toNat - 48)) (0 : Nat)
  let size := (exponent.filter Char.isDigit).foldl (fun n c => n * 10 + (c.toNat - 48)) (0 : Nat)
  (digits, (if exponent.head? = some '-' then -(size : Int) else size) - fraction.length)

/-- The double nearest to a natural number, ties to even. -/
def roundDouble (n : Nat) : Nat :=
  if n < 2 ^ 53 then n
  else
    let unit := 2 ^ (Nat.log2 n - 52)
    let quotient := n / unit
    let twice := 2 * (n % unit)
    if unit < twice ∨ twice = unit ∧ quotient % 2 = 1 then (quotient + 1) * unit
    else quotient * unit

/-- `int(value)`: towards zero; infinities and NaN have none. -/
def toInt? (value : JsonFloat) : Option Int :=
  let chars := value.text.toList
  if chars.any fun c => c == 'N' || c == 'I' then none
  else
    let (digits, exponent) := decimal chars
    let size := roundDouble <|
      if 0 ≤ exponent then digits * 10 ^ exponent.toNat else digits / 10 ^ (-exponent).toNat
    some (if chars.head? = some '-' then -(size : Int) else size)

/-- Python's own text of a float. -/
def pyText (value : JsonFloat) : String :=
  match value.text with
  | "NaN" => "nan"
  | "Infinity" => "inf"
  | "-Infinity" => "-inf"
  | text => text

theorem pyText_ne_empty (value : JsonFloat) : value.pyText ≠ "" := by
  unfold pyText
  split
  · decide
  · decide
  · decide
  · intro empty
    have wellFormed := value.wellFormed
    rw [empty] at wellFormed
    exact absurd wellFormed (by decide)

end JsonFloat

namespace Json

/-- `bool(value)`. -/
def truthy : Json → Bool
  | .null => false
  | .bool value => value
  | .int value => value != 0
  | .float value => value.text != "0.0" && value.text != "-0.0"
  | .str value => value != ""
  | .arr items => !items.isEmpty
  | .obj fields => !fields.isEmpty

/-- `int(value)`; `none` for an exception. -/
def toInt? : Json → Option Int
  | .bool value => some (if value then 1 else 0)
  | .int value => some value
  | .float value => value.toInt?
  | .str value => PythonText.readInt value
  | _ => none

def hexByte (n : Nat) : List Char := [Nat.digitChar (n / 16 % 16), Nat.digitChar (n % 16)]

/-- One character inside `repr(text)` with the given quote. -/
def reprChar (quote c : Char) : List Char :=
  if c = quote ∨ c = '\\' then ['\\', c]
  else if c = '\n' then ['\\', 'n']
  else if c = '\r' then ['\\', 'r']
  else if c = '\t' then ['\\', 't']
  else if c.toNat < 0x20 ∨ (0x7f ≤ c.toNat ∧ c.toNat < 0xa1) ∨ c.toNat = 0xad then
    '\\' :: 'x' :: hexByte c.toNat
  else [c]

/-- `repr(text)`. -/
def reprString (text : String) : List Char :=
  let chars := text.toList
  let quote := if chars.contains '\'' && !chars.contains '"' then '"' else '\''
  quote :: (chars.flatMap (reprChar quote) ++ [quote])

mutual

/-- `repr(value)`. -/
def repr : Json → List Char
  | .null => "None".toList
  | .bool true => "True".toList
  | .bool false => "False".toList
  | .int value => (toString value).toList
  | .float value => value.pyText.toList
  | .str value => reprString value
  | .arr items => '[' :: (reprItems items ++ [']'])
  | .obj fields => '{' :: (reprFields fields ++ ['}'])

def reprItems : List Json → List Char
  | [] => []
  | [item] => repr item
  | item :: rest => repr item ++ ',' :: ' ' :: reprItems rest

def reprFields : List (String × Json) → List Char
  | [] => []
  | [(key, value)] => reprString key ++ ':' :: ' ' :: repr value
  | (key, value) :: rest =>
      reprString key ++ ':' :: ' ' :: (repr value ++ ',' :: ' ' :: reprFields rest)

end

/-- `str(value)`. -/
def toStr : Json → String
  | .str value => value
  | value => String.ofList (repr value)

/-- `value.get(key, default)`; `none` when the value is not a dictionary. -/
def get? (document : Json) (key : String) (default : Json) : Option Json :=
  if document.isObject then some ((document.field? key).getD default) else none

/-- `text in value`; `none` for an exception. -/
def contains? (text : String) : Json → Option Bool
  | .str value => some (decide (text.toList <:+: value.toList))
  | .arr items => some (items.any fun item => match item with
      | .str value => value == text
      | _ => false)
  | .obj fields => some (fields.lookup text).isSome
  | _ => none

/-- `for item in value`; `none` for an exception. -/
def iterate? : Json → Option (List Json)
  | .arr items => some items
  | .obj fields => some (fields.map fun field => .str field.1)
  | .str value => some (value.toList.map fun c => .str (String.singleton c))
  | _ => none

@[simp] theorem toStr_str (value : String) : (Json.str value).toStr = value := rfl

@[simp] theorem toInt?_int (value : Int) : (Json.int value).toInt? = some value := rfl

/-- Documents that agree have the same truth value. -/
theorem Agrees.truthy {left right : Json} (agrees : Agrees left right) :
    left.truthy = right.truthy := by
  have same : left.normalize = right.normalize := agrees
  have items (values : List Json) : (normalizeItems values).isEmpty = values.isEmpty := by
    rw [normalizeItems_eq_map, List.isEmpty_map]
  have fields (values : List (String × Json)) :
      ((normalizeFields values).insertionSort FieldLe).isEmpty = values.isEmpty := by
    rw [Bool.eq_iff_iff, List.isEmpty_iff_length_eq_zero, List.isEmpty_iff_length_eq_zero,
      List.length_insertionSort, normalizeFields_eq_map, List.length_map]
  cases left with
  | arr leftItems =>
      cases right with
      | arr rightItems =>
          rw [normalize, normalize, Json.arr.injEq] at same
          rw [Json.truthy, Json.truthy, ← items leftItems, same, items rightItems]
      | _ => simp [normalize] at same
  | obj leftFields =>
      cases right with
      | obj rightFields =>
          rw [normalize, normalize, Json.obj.injEq] at same
          rw [Json.truthy, Json.truthy, ← fields leftFields, same, fields rightFields]
      | _ => simp [normalize] at same
  | _ => rw [← agrees.symm.eq_of_isScalar rfl]

/-- Only the empty text has an empty text. -/
theorem toStr_eq_empty_iff {value : Json} : value.toStr = "" ↔ value = .str "" := by
  have notEmpty {chars : List Char} (some : chars ≠ []) : String.ofList chars ≠ "" := by
    intro empty
    have lists := congrArg String.toList empty
    rw [String.toList_ofList] at lists
    exact some lists
  cases value with
  | str text => simp [toStr]
  | null => exact iff_of_false (by decide) nofun
  | bool flag => cases flag <;> exact iff_of_false (by decide) nofun
  | int number =>
      exact iff_of_false (notEmpty (int_text_ne_nil number)) nofun
  | float number =>
      refine iff_of_false ?_ nofun
      rw [toStr, repr, String.ofList_toList]
      · exact number.pyText_ne_empty
      · nofun
  | arr items => exact iff_of_false (notEmpty (List.cons_ne_nil _ _)) nofun
  | obj fields => exact iff_of_false (notEmpty (List.cons_ne_nil _ _)) nofun

/-- The texts of the values that count as false. -/
theorem toStr_of_falsy {value : Json} (falsy : value.truthy = false) :
    value.toStr ∈ ["None", "False", "0", "0.0", "-0.0", "", "[]", "{}"] := by
  cases value with
  | null => decide
  | bool flag =>
      cases flag with
      | false => decide
      | true => cases falsy
  | int number =>
      have zero : number = 0 := by simpa [Json.truthy] using falsy
      subst zero
      decide
  | float number =>
      obtain ⟨text, wellFormed⟩ := number
      have zero : text = "0.0" ∨ text = "-0.0" := by
        by_cases first : text = "0.0"
        · exact .inl first
        · exact .inr (by simpa [Json.truthy, first] using falsy)
      rcases zero with rfl | rfl <;> decide +revert
  | str text =>
      have empty : text = "" := by simpa [Json.truthy] using falsy
      subst empty
      decide
  | arr items =>
      have empty : items = [] := by simpa [Json.truthy] using falsy
      subst empty
      decide
  | obj fields =>
      have empty : fields = [] := by simpa [Json.truthy] using falsy
      subst empty
      decide

end Json
