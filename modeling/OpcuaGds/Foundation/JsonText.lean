import OpcuaGds.Foundation.Json

/-! # The canonical text of a JSON document

The compact ASCII text with fields in name order. The text determines the
document up to the order of fields (`Json.canonicalText_eq_iff`): no two
documents that differ otherwise have the same text, however their strings are
escaped and their numbers written.
-/

namespace Json

/-- The escapes of one letter: the escaped character and its letter. -/
def shortEscapes : List (Char × Char) :=
  [('"', '"'), ('\\', '\\'), ('\n', 'n'), ('\r', 'r'), ('\t', 't'), ('\x08', 'b'), ('\x0c', 'f')]

/-- A UTF-16 code unit as a backslash, `u` and four hexadecimal digits. -/
def unitEscape (unit : Nat) : List Char :=
  ['\\', 'u', Nat.digitChar (unit / 4096 % 16), Nat.digitChar (unit / 256 % 16),
    Nat.digitChar (unit / 16 % 16), Nat.digitChar (unit % 16)]

/-- One character inside a string: printable ASCII as it is, anything else as an
escape, beyond the basic plane as a surrogate pair. -/
def escapeChar (c : Char) : List Char :=
  match shortEscapes.lookup c with
  | some letter => ['\\', letter]
  | none =>
      if 0x20 ≤ c.toNat ∧ c.toNat < 0x7f then [c]
      else if c.toNat < 0x10000 then unitEscape c.toNat
      else unitEscape (0xd800 + (c.toNat - 0x10000) / 0x400) ++
        unitEscape (0xdc00 + (c.toNat - 0x10000) % 0x400)

/-- The rest of a string literal, with its closing quote. -/
def escaped : List Char → List Char
  | [] => ['"']
  | c :: rest => escapeChar c ++ escaped rest

def quoted (value : String) : List Char := '"' :: escaped value.toList

mutual

/-- The compact text of a document, fields in the order in which they stand. -/
def text : Json → List Char
  | .null => "null".toList
  | .bool true => "true".toList
  | .bool false => "false".toList
  | .int value => (toString value).toList
  | .float value => value.text.toList
  | .str value => quoted value
  | .arr [] => ['[', ']']
  | .arr (item :: rest) => '[' :: (text item ++ itemsText rest)
  | .obj [] => ['{', '}']
  | .obj ((key, value) :: rest) => '{' :: (quoted key ++ ':' :: (text value ++ fieldsText rest))

/-- The items after the first one, with the closing bracket. -/
def itemsText : List Json → List Char
  | [] => [']']
  | item :: rest => ',' :: (text item ++ itemsText rest)

/-- The fields after the first one, with the closing brace. -/
def fieldsText : List (String × Json) → List Char
  | [] => ['}']
  | (key, value) :: rest => ',' :: (quoted key ++ ':' :: (text value ++ fieldsText rest))

end

/-- The text with the fields of every object in name order. -/
def canonicalText (document : Json) : List Char := document.normalize.text

/-! ## Reading one character back -/

def hexValue (c : Char) : Nat := if c.isDigit then c.toNat - 48 else c.toNat - 87

def hexUnit (a b c d : Char) : Nat :=
  ((hexValue a * 16 + hexValue b) * 16 + hexValue c) * 16 + hexValue d

/-- The first character that a string literal spells, and what follows it. -/
def unescape : List Char → Option (Char × List Char)
  | '\\' :: 'u' :: a :: b :: c :: d :: rest =>
      let high := hexUnit a b c d
      if 0xd800 ≤ high ∧ high < 0xdc00 then
        match rest with
        | _ :: _ :: e :: f :: g :: h :: rest =>
            some (Char.ofNat (0x10000 + (high - 0xd800) * 0x400 + (hexUnit e f g h - 0xdc00)), rest)
        | _ => none
      else some (Char.ofNat high, rest)
  | '\\' :: letter :: rest =>
      (shortEscapes.find? (·.2 = letter)).map fun entry => (entry.1, rest)
  | c :: rest => some (c, rest)
  | [] => none

theorem hexValue_digitChar {n : Nat} (small : n < 16) : hexValue (Nat.digitChar n) = n := by
  have all : ∀ m < 16, hexValue (Nat.digitChar m) = m := by decide
  exact all n small

theorem hexUnit_digits {unit : Nat} (small : unit < 0x10000) :
    hexUnit (Nat.digitChar (unit / 4096 % 16)) (Nat.digitChar (unit / 256 % 16))
      (Nat.digitChar (unit / 16 % 16)) (Nat.digitChar (unit % 16)) = unit := by
  have digit (k : Nat) : hexValue (Nat.digitChar (k % 16)) = k % 16 :=
    hexValue_digitChar (Nat.mod_lt _ (by decide))
  simp only [hexUnit, digit]
  omega

/-- Reading back a code unit outside the high surrogates. -/
theorem unescape_unit {unit : Nat} (small : unit < 0x10000)
    (plain : ¬(0xd800 ≤ unit ∧ unit < 0xdc00)) (rest : List Char) :
    unescape (unitEscape unit ++ rest) = some (Char.ofNat unit, rest) := by
  simp only [unitEscape, List.cons_append, List.nil_append, unescape, hexUnit_digits small, plain,
    if_false]

/-- Reading back a surrogate pair. -/
theorem unescape_pair {high low : Nat} (isHigh : 0xd800 ≤ high ∧ high < 0xdc00)
    (small : low < 0x10000) (rest : List Char) :
    unescape (unitEscape high ++ (unitEscape low ++ rest)) =
      some (Char.ofNat (0x10000 + (high - 0xd800) * 0x400 + (low - 0xdc00)), rest) := by
  have highSmall : high < 0x10000 := isHigh.2.trans (by decide)
  simp only [unitEscape, List.cons_append, List.nil_append, unescape, hexUnit_digits highSmall,
    hexUnit_digits small, isHigh, and_self, if_true]

theorem lookup_shortEscapes {c letter : Char} (found : shortEscapes.lookup c = some letter)
    (rest : List Char) : unescape ('\\' :: letter :: rest) = some (c, rest) := by
  obtain ⟨before, after, split, _⟩ := List.lookup_eq_some_iff.mp found
  have member : (c, letter) ∈ shortEscapes := by
    rw [split]
    exact List.mem_append_right _ List.mem_cons_self
  simp only [shortEscapes, List.mem_cons, Prod.mk.injEq, List.not_mem_nil, or_false] at member
  rcases member with ⟨rfl, rfl⟩ | ⟨rfl, rfl⟩ | ⟨rfl, rfl⟩ | ⟨rfl, rfl⟩ | ⟨rfl, rfl⟩ | ⟨rfl, rfl⟩ |
    ⟨rfl, rfl⟩ <;> rfl

/-- What an escaped character spells is the character. -/
theorem unescape_escapeChar (c : Char) (rest : List Char) :
    unescape (escapeChar c ++ rest) = some (c, rest) := by
  unfold escapeChar
  have scalar : c.toNat < 0xd800 ∨ 0xdfff < c.toNat ∧ c.toNat < 0x110000 := c.valid
  split
  · rename_i letter found
    exact lookup_shortEscapes found rest
  · rename_i ordinary
    split
    · have notSlash : c ≠ '\\' := by
        rintro rfl
        exact absurd ordinary (by decide)
      simp only [List.cons_append, List.nil_append]
      unfold unescape
      split
      · rename_i same; exact absurd (List.cons.inj same).1 notSlash
      · rename_i same; exact absurd (List.cons.inj same).1 notSlash
      · rename_i same
        rw [(List.cons.inj same).1, (List.cons.inj same).2]
      · rename_i same; cases same
    · split
      · rename_i basic
        rw [unescape_unit basic (by omega), Char.ofNat_toNat]
      · rename_i beyond
        rw [List.append_assoc, unescape_pair (by omega) (by omega)]
        have back : 0x10000 + (0xd800 + (c.toNat - 0x10000) / 0x400 - 0xd800) * 0x400 +
            (0xdc00 + (c.toNat - 0x10000) % 0x400 - 0xdc00) = c.toNat := by omega
        rw [back, Char.ofNat_toNat]

/-- No escaped character starts with the quote that ends a string. -/
theorem escapeChar_head (c : Char) : ∃ first rest, escapeChar c = first :: rest ∧ first ≠ '"' := by
  unfold escapeChar
  split
  · exact ⟨_, _, rfl, by decide⟩
  · rename_i ordinary
    split
    · refine ⟨c, [], rfl, ?_⟩
      rintro rfl
      exact absurd ordinary (by decide)
    · split
      · exact ⟨_, _, rfl, by decide⟩
      · exact ⟨_, _, rfl, by decide⟩

/-- A string literal is read back whatever follows it. -/
theorem escaped_cancel {left right s t : List Char}
    (same : escaped left ++ s = escaped right ++ t) : left = right ∧ s = t := by
  induction left generalizing right with
  | nil =>
      cases right with
      | nil => exact ⟨rfl, List.cons.inj same |>.2⟩
      | cons c right =>
          obtain ⟨first, rest, shape, notQuote⟩ := escapeChar_head c
          simp only [escaped, shape, List.cons_append, List.nil_append] at same
          exact absurd (List.cons.inj same).1.symm notQuote
  | cons c left ih =>
      cases right with
      | nil =>
          obtain ⟨first, rest, shape, notQuote⟩ := escapeChar_head c
          simp only [escaped, shape, List.cons_append, List.nil_append] at same
          exact absurd (List.cons.inj same).1 notQuote
      | cons d right =>
          have read := congrArg unescape same
          simp only [escaped, List.append_assoc, unescape_escapeChar, Option.some.injEq,
            Prod.mk.injEq] at read
          obtain ⟨rfl, later⟩ := read
          obtain ⟨rfl, rfl⟩ := ih later
          exact ⟨rfl, rfl⟩

theorem quoted_cancel {left right : String} {s t : List Char}
    (same : quoted left ++ s = quoted right ++ t) : left = right ∧ s = t := by
  obtain ⟨chars, rest⟩ := escaped_cancel (List.cons.inj same).2
  exact ⟨String.toList_inj.mp chars, rest⟩

/-! ## Numbers and words -/

/-- Documents whose text is one word: everything but strings, arrays and objects. -/
def isAtom : Json → Bool
  | .str _ => false
  | .arr _ => false
  | .obj _ => false
  | _ => true

/-- What may follow a word: the end, or a character that is not part of a word. -/
def Terminated (rest : List Char) : Prop := ∀ c ∈ rest.head?, floatChar c = false

theorem int_text_chars (value : Int) :
    ∀ c ∈ (toString value).toList, c.isDigit = true ∨ c = '-' := by
  have digits (n : Nat) : ∀ c ∈ n.repr.toList, c.isDigit = true := by
    intro c member
    rw [Nat.repr, String.toList_ofList] at member
    exact Nat.isDigit_of_mem_toDigits (by decide) (by decide) member
  intro c member
  rw [Int.toString_eq_repr, Int.repr_eq_if] at member
  split at member
  · exact Or.inl (digits _ c member)
  · rw [String.toList_append, List.mem_append] at member
    rcases member with sign | member
    · exact Or.inr (by simpa using sign)
    · exact Or.inl (digits _ c member)

theorem int_text_ne_nil (value : Int) : (toString value).toList ≠ [] := by
  have digits (n : Nat) : n.repr.toList ≠ [] := by
    rw [Nat.repr, String.toList_ofList]
    exact Nat.toDigits_ne_nil
  rw [Int.toString_eq_repr, Int.repr_eq_if]
  split
  · exact digits _
  · rw [String.toList_append]
    exact fun empty => digits _ (List.append_eq_nil_iff.mp empty).2

/-- The letters of the two ASCII ranges, as comparisons of code points. -/
theorem isAlpha_eq (c : Char) :
    c.isAlpha = ((decide ('A'.val ≤ c.val) && decide (c.val ≤ 'Z'.val)) ||
      (decide ('a'.val ≤ c.val) && decide (c.val ≤ 'z'.val))) := by
  have isUpper : c.isUpper = decide ('A'.val ≤ c.val ∧ c.val ≤ 'Z'.val) := rfl
  have isLower : c.isLower = (decide ('a'.val ≤ c.val) && decide (c.val ≤ 'z'.val)) := rfl
  have isAlpha : c.isAlpha = (c.isUpper || c.isLower) := rfl
  rw [isAlpha, isUpper, isLower, Bool.decide_and]

theorem isDigit_not_isAlpha {c : Char} (digit : c.isDigit = true) : c.isAlpha = false := by
  simp only [Char.isDigit, ge_iff_le, Bool.and_eq_true, decide_eq_true_eq, UInt32.le_iff_toNat_le]
    at digit
  rw [isAlpha_eq]
  simp only [Bool.or_eq_false_iff, Bool.and_eq_false_imp, decide_eq_true_eq,
    decide_eq_false_iff_not, UInt32.le_iff_toNat_le]
  have low : ('0' : Char).val.toNat = 48 := rfl
  have high : ('9' : Char).val.toNat = 57 := rfl
  have upper : ('A' : Char).val.toNat = 65 := rfl
  have lower : ('a' : Char).val.toNat = 97 := rfl
  omega

/-- The text of a word: not empty, of word characters only. -/
theorem atom_text {document : Json} (atom : document.isAtom = true) :
    document.text ≠ [] ∧ ∀ c ∈ document.text, floatChar c = true := by
  cases document with
  | null => exact ⟨by decide, List.all_eq_true.mp (by decide)⟩
  | bool value => cases value <;> exact ⟨by decide, List.all_eq_true.mp (by decide)⟩
  | int value =>
      refine ⟨int_text_ne_nil value, fun c member => ?_⟩
      rcases int_text_chars value c member with digit | rfl
      · simp only [floatChar, Char.isAlphanum, digit, Bool.or_true, Bool.true_or]
      · decide
  | float value =>
      have shape := value.wellFormed
      simp only [isFloatText, Bool.and_eq_true, List.all_eq_true] at shape
      refine ⟨fun empty => ?_, shape.1.1⟩
      rw [text] at empty
      rw [empty] at shape
      exact absurd shape.2 (by decide)
  | str value => cases atom
  | arr items => cases atom
  | obj fields => cases atom

/-- An integer text is no float text and none of the three words. -/
theorem int_text_ne (value : Int) {other : List Char}
    (odd : ∃ c ∈ other, c.isDigit = false ∧ c ≠ '-') : (toString value).toList ≠ other := by
  rintro rfl
  obtain ⟨c, member, notDigit, notSign⟩ := odd
  rcases int_text_chars value c member with digit | sign
  · rw [digit] at notDigit; cases notDigit
  · exact notSign sign

theorem float_text_odd (value : JsonFloat) :
    ∃ c ∈ value.text.toList, c.isDigit = false ∧ c ≠ '-' := by
  have shape := value.wellFormed
  simp only [isFloatText, Bool.and_eq_true, List.any_eq_true] at shape
  obtain ⟨⟨_, c, member, odd⟩, _⟩ := shape
  refine ⟨c, member, ?_, ?_⟩
  · cases digit : c.isDigit with
    | false => rfl
    | true =>
        simp only [isDigit_not_isAlpha digit, Bool.or_false, beq_iff_eq] at odd
        subst odd
        exact absurd digit (by decide)
  · rintro rfl
    exact absurd odd (by decide)

theorem float_text_ne_word (value : JsonFloat) {other : List Char}
    (word : other.head?.any (fun c => c.isDigit || c == '-' || c == 'N' || c == 'I') = false) :
    value.text.toList ≠ other := by
  rintro rfl
  have shape := value.wellFormed
  simp only [isFloatText, Bool.and_eq_true] at shape
  rw [shape.2] at word
  cases word

/-- Words with the same text are the same document. -/
theorem atom_text_injective {left right : Json} (leftAtom : left.isAtom = true)
    (rightAtom : right.isAtom = true) (same : left.text = right.text) : left = right := by
  cases left with
  | str _ => cases leftAtom
  | arr _ => cases leftAtom
  | obj _ => cases leftAtom
  | null =>
      cases right with
      | null => rfl
      | bool value => cases value <;> exact absurd same (by decide)
      | int value => exact absurd same.symm (int_text_ne value ⟨'n', by decide, by decide⟩)
      | float value => exact absurd same.symm (float_text_ne_word value (by decide))
      | _ => cases rightAtom
  | bool value =>
      cases right with
      | null => cases value <;> exact absurd same (by decide)
      | bool other => cases value <;> cases other <;> first | rfl | exact absurd same (by decide)
      | int other =>
          cases value
          · exact absurd same.symm (int_text_ne other ⟨'f', by decide, by decide⟩)
          · exact absurd same.symm (int_text_ne other ⟨'t', by decide, by decide⟩)
      | float other => cases value <;> exact absurd same.symm (float_text_ne_word other (by decide))
      | _ => cases rightAtom
  | int value =>
      cases right with
      | null => exact absurd same (int_text_ne value ⟨'n', by decide, by decide⟩)
      | bool other =>
          cases other
          · exact absurd same (int_text_ne value ⟨'f', by decide, by decide⟩)
          · exact absurd same (int_text_ne value ⟨'t', by decide, by decide⟩)
      | int other =>
          rw [text, text, String.toList_inj, Int.toString_eq_repr, Int.toString_eq_repr] at same
          rw [intRepr_inj same]
      | float other => exact absurd same (int_text_ne value (float_text_odd other))
      | _ => cases rightAtom
  | float value =>
      cases right with
      | null => exact absurd same (float_text_ne_word value (by decide))
      | bool other => cases other <;> exact absurd same (float_text_ne_word value (by decide))
      | int other => exact absurd same.symm (int_text_ne other (float_text_odd value))
      | float other =>
          rw [text, text, String.toList_inj] at same
          cases value
          cases other
          cases same
          rfl
      | _ => cases rightAtom

theorem cancel_of_terminated {left right s t : List Char}
    (leftWord : ∀ c ∈ left, floatChar c = true) (rightWord : ∀ c ∈ right, floatChar c = true)
    (leftEnd : Terminated s) (rightEnd : Terminated t) (same : left ++ s = right ++ t) :
    left = right ∧ s = t := by
  induction left generalizing right with
  | nil =>
      cases right with
      | nil => exact ⟨rfl, same⟩
      | cons c right =>
          have word := rightWord c List.mem_cons_self
          have ended := leftEnd c (by rw [← List.nil_append s, same]; rfl)
          rw [word] at ended
          cases ended
  | cons c left ih =>
      cases right with
      | nil =>
          have word := leftWord c List.mem_cons_self
          have ended := rightEnd c (by rw [← List.nil_append t, ← same]; rfl)
          rw [word] at ended
          cases ended
      | cons d right =>
          obtain ⟨rfl, later⟩ := List.cons.inj same
          obtain ⟨rfl, rfl⟩ := ih (fun e member => leftWord e (List.mem_cons_of_mem _ member))
            (fun e member => rightWord e (List.mem_cons_of_mem _ member)) later
          exact ⟨rfl, rfl⟩

/-! ## Whole documents -/

theorem terminated_cons {c : Char} (separator : floatChar c = false) (rest : List Char) :
    Terminated (c :: rest) := by
  intro d member
  cases member
  exact separator

theorem itemsText_terminated (items : List Json) (s : List Char) :
    Terminated (itemsText items ++ s) := by
  cases items with
  | nil => exact terminated_cons (by decide) _
  | cons item rest => exact terminated_cons (by decide) _

theorem fieldsText_terminated (fields : List (String × Json)) (s : List Char) :
    Terminated (fieldsText fields ++ s) := by
  cases fields with
  | nil => exact terminated_cons (by decide) _
  | cons field rest => exact terminated_cons (by decide) _

/-- The four kinds of document that the first character of a text tells apart. -/
inductive Shape where
  | word
  | string
  | array
  | object
  deriving DecidableEq

def shape : Json → Shape
  | .str _ => .string
  | .arr _ => .array
  | .obj _ => .object
  | _ => .word

/-- The kind that the first character of a text announces. -/
def headShape : List Char → Shape
  | '"' :: _ => .string
  | '[' :: _ => .array
  | '{' :: _ => .object
  | _ => .word

theorem headShape_of_floatChar {c : Char} (word : floatChar c = true) (rest : List Char) :
    headShape (c :: rest) = .word := by
  unfold headShape
  split
  · rename_i same
    rw [(List.cons.inj same).1] at word
    exact absurd word (by decide)
  · rename_i same
    rw [(List.cons.inj same).1] at word
    exact absurd word (by decide)
  · rename_i same
    rw [(List.cons.inj same).1] at word
    exact absurd word (by decide)
  · rfl

theorem headShape_text (document : Json) (s : List Char) :
    headShape (document.text ++ s) = document.shape := by
  have ofAtom (atom : document.isAtom = true) : headShape (document.text ++ s) = .word := by
    obtain ⟨nonempty, word⟩ := atom_text atom
    obtain ⟨c, rest, split⟩ := List.exists_cons_of_ne_nil nonempty
    rw [split] at word ⊢
    exact headShape_of_floatChar (word c List.mem_cons_self) _
  cases document with
  | str value => rfl
  | arr items => cases items <;> rfl
  | obj fields => cases fields <;> rfl
  | null => exact ofAtom rfl
  | bool value => exact ofAtom rfl
  | int value => exact ofAtom rfl
  | float value => exact ofAtom rfl

theorem isAtom_of_shape {document : Json} (word : document.shape = .word) :
    document.isAtom = true := by
  cases document <;> first | rfl | cases word

theorem shape_eq_of_text {left right : Json} {s t : List Char}
    (same : left.text ++ s = right.text ++ t) : left.shape = right.shape := by
  rw [← headShape_text left s, ← headShape_text right t, same]

theorem eq_str_of_shape {document : Json} (string : document.shape = .string) :
    ∃ value, document = .str value := by
  cases document with
  | str value => exact ⟨value, rfl⟩
  | _ => cases string

theorem eq_arr_of_shape {document : Json} (array : document.shape = .array) :
    ∃ items, document = .arr items := by
  cases document with
  | arr items => exact ⟨items, rfl⟩
  | _ => cases array

theorem eq_obj_of_shape {document : Json} (object : document.shape = .object) :
    ∃ fields, document = .obj fields := by
  cases document with
  | obj fields => exact ⟨fields, rfl⟩
  | _ => cases object

theorem word_cancel {left right : Json} (word : left.shape = .word) {s t : List Char}
    (leftEnd : Terminated s) (rightEnd : Terminated t) (same : left.text ++ s = right.text ++ t) :
    left = right ∧ s = t := by
  have leftAtom := isAtom_of_shape word
  have rightAtom := isAtom_of_shape ((shape_eq_of_text same).symm.trans word)
  obtain ⟨texts, rest⟩ := cancel_of_terminated (atom_text leftAtom).2 (atom_text rightAtom).2
    leftEnd rightEnd same
  exact ⟨atom_text_injective leftAtom rightAtom texts, rest⟩

/-- An item or a closing bracket: the first text is no bracket, so an array with
items and one without differ at once. -/
theorem text_ne_close (document : Json) (s t : List Char) {close : Char}
    (isClose : close = ']' ∨ close = '}') : document.text ++ s ≠ close :: t := by
  intro same
  have word : document.shape = .word := by
    rw [← headShape_text document s, same]
    rcases isClose with rfl | rfl <;> rfl
  obtain ⟨nonempty, chars⟩ := atom_text (isAtom_of_shape word)
  obtain ⟨c, rest, split⟩ := List.exists_cons_of_ne_nil nonempty
  have head : c = close := by rw [split] at same; exact (List.cons.inj same).1
  have wordChar := chars c (by rw [split]; exact List.mem_cons_self)
  rw [head] at wordChar
  rcases isClose with rfl | rfl <;> exact absurd wordChar (by decide)

mutual

/-- A document is read back from its text, whatever ends the text. -/
theorem text_cancel (left right : Json) {s t : List Char} (leftEnd : Terminated s)
    (rightEnd : Terminated t) (same : left.text ++ s = right.text ++ t) :
    left = right ∧ s = t := by
  match left with
  | .null => exact word_cancel rfl leftEnd rightEnd same
  | .bool _ => exact word_cancel rfl leftEnd rightEnd same
  | .int _ => exact word_cancel rfl leftEnd rightEnd same
  | .float _ => exact word_cancel rfl leftEnd rightEnd same
  | .str value =>
      obtain ⟨other, rfl⟩ := eq_str_of_shape (shape_eq_of_text same).symm
      obtain ⟨rfl, rest⟩ := quoted_cancel same
      exact ⟨rfl, rest⟩
  | .arr [] =>
      obtain ⟨others, rfl⟩ := eq_arr_of_shape (shape_eq_of_text same).symm
      cases others with
      | nil => exact ⟨rfl, (List.cons.inj (List.cons.inj same).2).2⟩
      | cons other others =>
          simp only [text, List.cons_append, List.append_assoc, List.cons.injEq, true_and] at same
          exact absurd same.symm (text_ne_close other _ _ (Or.inl rfl))
  | .arr (item :: items) =>
      obtain ⟨others, rfl⟩ := eq_arr_of_shape (shape_eq_of_text same).symm
      cases others with
      | nil =>
          simp only [text, List.cons_append, List.append_assoc, List.cons.injEq, true_and] at same
          exact absurd same (text_ne_close item _ _ (Or.inl rfl))
      | cons other others =>
          simp only [text, List.cons_append, List.append_assoc, List.cons.injEq, true_and] at same
          obtain ⟨rfl, more⟩ := text_cancel item other (itemsText_terminated items s)
            (itemsText_terminated others t) same
          obtain ⟨rfl, rest⟩ := itemsText_cancel items others more
          exact ⟨rfl, rest⟩
  | .obj [] =>
      obtain ⟨others, rfl⟩ := eq_obj_of_shape (shape_eq_of_text same).symm
      cases others with
      | nil => exact ⟨rfl, (List.cons.inj (List.cons.inj same).2).2⟩
      | cons other others => exact absurd (List.cons.inj (List.cons.inj same).2).1 (by decide)
  | .obj ((key, value) :: fields) =>
      obtain ⟨others, rfl⟩ := eq_obj_of_shape (shape_eq_of_text same).symm
      cases others with
      | nil => exact absurd (List.cons.inj (List.cons.inj same).2).1 (by decide)
      | cons other others =>
          obtain ⟨otherKey, otherValue⟩ := other
          simp only [text, List.cons_append, List.append_assoc, List.cons.injEq, true_and] at same
          obtain ⟨rfl, afterKey⟩ := quoted_cancel same
          obtain ⟨rfl, more⟩ := text_cancel value otherValue (fieldsText_terminated fields s)
            (fieldsText_terminated others t) (List.cons.inj afterKey).2
          obtain ⟨rfl, rest⟩ := fieldsText_cancel fields others more
          exact ⟨rfl, rest⟩

theorem itemsText_cancel (left right : List Json) {s t : List Char}
    (same : itemsText left ++ s = itemsText right ++ t) : left = right ∧ s = t := by
  match left, right with
  | [], [] => exact ⟨rfl, (List.cons.inj same).2⟩
  | [], other :: others => exact absurd (List.cons.inj same).1 (by decide)
  | item :: items, [] => exact absurd (List.cons.inj same).1 (by decide)
  | item :: items, other :: others =>
      simp only [itemsText, List.cons_append, List.append_assoc, List.cons.injEq, true_and] at same
      obtain ⟨rfl, more⟩ := text_cancel item other (itemsText_terminated items s)
        (itemsText_terminated others t) same
      obtain ⟨rfl, rest⟩ := itemsText_cancel items others more
      exact ⟨rfl, rest⟩

theorem fieldsText_cancel (left right : List (String × Json)) {s t : List Char}
    (same : fieldsText left ++ s = fieldsText right ++ t) : left = right ∧ s = t := by
  match left, right with
  | [], [] => exact ⟨rfl, (List.cons.inj same).2⟩
  | [], other :: others => exact absurd (List.cons.inj same).1 (by decide)
  | (key, value) :: fields, [] => exact absurd (List.cons.inj same).1 (by decide)
  | (key, value) :: fields, (otherKey, otherValue) :: others =>
      simp only [fieldsText, List.cons_append, List.append_assoc, List.cons.injEq, true_and] at same
      obtain ⟨rfl, afterKey⟩ := quoted_cancel same
      obtain ⟨rfl, more⟩ := text_cancel value otherValue (fieldsText_terminated fields s)
        (fieldsText_terminated others t) (List.cons.inj afterKey).2
      obtain ⟨rfl, rest⟩ := fieldsText_cancel fields others more
      exact ⟨rfl, rest⟩

end

/-- An object is read back from its text, whatever follows it. -/
theorem obj_text_cancel {left right : List (String × Json)} {s t : List Char}
    (same : (obj left).text ++ s = (obj right).text ++ t) : left = right ∧ s = t := by
  cases left with
  | nil =>
      cases right with
      | nil => exact ⟨rfl, (List.cons.inj (List.cons.inj same).2).2⟩
      | cons field right => exact absurd (List.cons.inj (List.cons.inj same).2).1 (by decide)
  | cons field left =>
      cases right with
      | nil => exact absurd (List.cons.inj (List.cons.inj same).2).1 (by decide)
      | cons other right =>
          have tails : fieldsText (field :: left) ++ s = fieldsText (other :: right) ++ t :=
            congrArg (',' :: ·) (List.cons.inj same).2
          exact fieldsText_cancel _ _ tails

/-- The compact text determines the document. -/
theorem text_injective {left right : Json} (same : left.text = right.text) : left = right := by
  have ended : Terminated [] := fun c member => by cases member
  exact (text_cancel left right ended ended (by rw [same])).1

/-- The canonical text determines the document up to the order of fields, and
nothing less. -/
theorem canonicalText_eq_iff {left right : Json} :
    left.canonicalText = right.canonicalText ↔ Agrees left right :=
  ⟨fun same => text_injective same, fun agrees => congrArg text agrees⟩

/-! ## Bytes -/

/-- The text is ASCII, so each character is one byte. -/
def IsAscii (c : Char) : Prop := c.toNat < 128

instance (c : Char) : Decidable (IsAscii c) := inferInstanceAs (Decidable (c.toNat < 128))

theorem isAscii_digitChar (n : Nat) : IsAscii (Nat.digitChar (n % 16)) := by
  have all : ∀ m < 16, (Nat.digitChar m).toNat < 128 := by decide
  exact all _ (Nat.mod_lt _ (by decide))

theorem isAscii_unitEscape (unit : Nat) : ∀ c ∈ unitEscape unit, IsAscii c := by
  simp only [unitEscape, List.mem_cons, List.not_mem_nil, or_false, forall_eq_or_imp, forall_eq]
  exact ⟨by decide, by decide, isAscii_digitChar _, isAscii_digitChar _, isAscii_digitChar _,
    isAscii_digitChar _⟩

theorem isAscii_escapeChar (c : Char) : ∀ d ∈ escapeChar c, IsAscii d := by
  unfold escapeChar
  split
  · rename_i letter found
    obtain ⟨before, after, split, _⟩ := List.lookup_eq_some_iff.mp found
    have member : (c, letter) ∈ shortEscapes := by
      rw [split]
      exact List.mem_append_right _ List.mem_cons_self
    have all : ∀ entry ∈ shortEscapes, entry.2.toNat < 128 := by decide
    simp only [List.mem_cons, List.not_mem_nil, or_false, forall_eq_or_imp, forall_eq]
    exact ⟨by decide, all _ member⟩
  · split
    · rename_i _ printable
      simp only [List.mem_singleton, forall_eq, IsAscii]
      omega
    · split
      · exact isAscii_unitEscape _
      · intro d member
        rcases List.mem_append.mp member with high | low
        · exact isAscii_unitEscape _ d high
        · exact isAscii_unitEscape _ d low

theorem isAscii_escaped (chars : List Char) : ∀ c ∈ escaped chars, IsAscii c := by
  induction chars with
  | nil =>
      simp only [escaped, List.mem_singleton, forall_eq]
      decide
  | cons c rest ih =>
      intro d member
      rcases List.mem_append.mp member with here | later
      · exact isAscii_escapeChar c d here
      · exact ih d later

theorem isAscii_quoted (value : String) : ∀ c ∈ quoted value, IsAscii c := by
  intro c member
  rcases List.mem_cons.mp member with rfl | later
  · decide
  · exact isAscii_escaped _ c later

theorem isAscii_of_floatChar {c : Char} (word : floatChar c = true) : IsAscii c := by
  simp only [floatChar, Char.isAlphanum, isAlpha_eq, Char.isDigit, Bool.or_eq_true,
    Bool.and_eq_true, decide_eq_true_eq, beq_iff_eq, ge_iff_le, UInt32.le_iff_toNat_le] at word
  have nine : ('9' : Char).val.toNat = 57 := rfl
  have upper : ('Z' : Char).val.toNat = 90 := rfl
  have lower : ('z' : Char).val.toNat = 122 := rfl
  unfold IsAscii Char.toNat
  rcases word with ((((letter | letter) | digit) | rfl) | rfl) | rfl
  · omega
  · omega
  · omega
  · decide
  · decide
  · decide

mutual

theorem isAscii_text (document : Json) : ∀ c ∈ document.text, IsAscii c := by
  match document with
  | .null => exact fun c member => isAscii_of_floatChar ((atom_text rfl).2 c member)
  | .bool _ => exact fun c member => isAscii_of_floatChar ((atom_text rfl).2 c member)
  | .int _ => exact fun c member => isAscii_of_floatChar ((atom_text rfl).2 c member)
  | .float _ => exact fun c member => isAscii_of_floatChar ((atom_text rfl).2 c member)
  | .str value => exact isAscii_quoted value
  | .arr [] =>
      simp only [text, List.mem_cons, List.not_mem_nil, or_false, forall_eq_or_imp, forall_eq]
      exact ⟨by decide, by decide⟩
  | .arr (item :: rest) =>
      have first := isAscii_text item
      have later := isAscii_itemsText rest
      simp only [text, List.mem_cons, List.mem_append]
      rintro c (rfl | member | member)
      · decide
      · exact first c member
      · exact later c member
  | .obj [] =>
      simp only [text, List.mem_cons, List.not_mem_nil, or_false, forall_eq_or_imp, forall_eq]
      exact ⟨by decide, by decide⟩
  | .obj ((key, value) :: rest) =>
      have first := isAscii_text value
      have later := isAscii_fieldsText rest
      simp only [text, List.mem_cons, List.mem_append]
      rintro c (rfl | member | rfl | member | member)
      · decide
      · exact isAscii_quoted key c member
      · decide
      · exact first c member
      · exact later c member

theorem isAscii_itemsText (items : List Json) : ∀ c ∈ itemsText items, IsAscii c := by
  match items with
  | [] =>
      simp only [itemsText, List.mem_singleton, forall_eq]
      decide
  | item :: rest =>
      have first := isAscii_text item
      have later := isAscii_itemsText rest
      simp only [itemsText, List.mem_cons, List.mem_append]
      rintro c (rfl | member | member)
      · decide
      · exact first c member
      · exact later c member

theorem isAscii_fieldsText (fields : List (String × Json)) :
    ∀ c ∈ fieldsText fields, IsAscii c := by
  match fields with
  | [] =>
      simp only [fieldsText, List.mem_singleton, forall_eq]
      decide
  | (key, value) :: rest =>
      have first := isAscii_text value
      have later := isAscii_fieldsText rest
      simp only [fieldsText, List.mem_cons, List.mem_append]
      rintro c (rfl | member | rfl | member | member)
      · decide
      · exact isAscii_quoted key c member
      · decide
      · exact first c member
      · exact later c member

end

/-- `json.dumps(…, sort_keys=True)` in compact form, encoded. -/
def canonicalBytes (document : Json) : List UInt8 :=
  document.canonicalText.map fun c => UInt8.ofNat c.toNat

theorem map_byte_injective {left right : List Char} (leftAscii : ∀ c ∈ left, IsAscii c)
    (rightAscii : ∀ c ∈ right, IsAscii c)
    (same : left.map (fun c => UInt8.ofNat c.toNat) = right.map fun c => UInt8.ofNat c.toNat) :
    left = right := by
  induction left generalizing right with
  | nil => exact (List.map_eq_nil_iff.mp same.symm).symm
  | cons c left ih =>
      cases right with
      | nil => cases same
      | cons d right =>
          obtain ⟨heads, tails⟩ := List.cons.inj same
          have cSmall : c.toNat < 128 := leftAscii c List.mem_cons_self
          have dSmall : d.toNat < 128 := rightAscii d List.mem_cons_self
          have numbers : c.toNat = d.toNat := by
            have values := congrArg UInt8.toNat heads
            rw [UInt8.toNat_ofNat', UInt8.toNat_ofNat'] at values
            omega
          have chars : c = d := by rw [← Char.ofNat_toNat c, numbers, Char.ofNat_toNat]
          rw [chars, ih (fun e member => leftAscii e (List.mem_cons_of_mem _ member))
            (fun e member => rightAscii e (List.mem_cons_of_mem _ member)) tails]

/-- The canonical bytes determine the document up to the order of fields. -/
theorem canonicalBytes_eq_iff {left right : Json} :
    left.canonicalBytes = right.canonicalBytes ↔ Agrees left right := by
  rw [← canonicalText_eq_iff]
  constructor
  · exact map_byte_injective (isAscii_text _) (isAscii_text _)
  · exact congrArg _

end Json
