import Mathlib.Data.List.Sort
import Mathlib.Data.String.Basic

/-! # JSON values

Decoded JSON documents, as a program that parses them sees them: objects are
field lists in insertion order, read by the first field of a name. Two documents
*agree* when they differ only in the order of object fields, at any depth; this
is what survives a store that does not keep field order.
-/

/-- Characters that may occur in the text of a number that is not an integer. -/
def floatChar (c : Char) : Bool := c.isAlphanum || c == '+' || c == '-' || c == '.'

/-- The shape that tells a float text from an integer text and from the words
`null`, `true` and `false`. -/
def isFloatText (text : List Char) : Bool :=
  text.all floatChar && text.any (fun c => c == '.' || c.isAlpha) &&
    text.head?.any (fun c => c.isDigit || c == '-' || c == 'N' || c == 'I')

/-- A floating-point number, identified by its shortest round-trip text. -/
structure JsonFloat where
  text : String
  wellFormed : isFloatText text.toList = true
  deriving DecidableEq, Repr

/-- Numbers differ in their decimal texts. -/
theorem natRepr_inj {first second : Nat} (same : first.repr = second.repr) : first = second := by
  have digits := congrArg String.toList same
  rw [Nat.toList_repr, Nat.toList_repr] at digits
  rw [← @Nat.ofDigitChars_ten_toDigits first, digits, Nat.ofDigitChars_ten_toDigits]

theorem intRepr_inj {first second : Int} (same : first.repr = second.repr) : first = second := by
  have noMinus (number : Nat) (rest : String) : number.repr ≠ "-" ++ rest := by
    intro same
    have chars := congrArg String.toList same
    rw [Nat.toList_repr, String.toList_append] at chars
    have digit : '-'.isDigit = true :=
      Nat.isDigit_of_mem_toDigits (by decide) (le_refl 10) (n := number) (by rw [chars]; simp)
    exact absurd digit (by decide)
  cases first with
  | ofNat first =>
      cases second with
      | ofNat second => rw [natRepr_inj same]
      | negSucc second => exact absurd same (noMinus first _)
  | negSucc first =>
      cases second with
      | ofNat second => exact absurd same.symm (noMinus second _)
      | negSucc second =>
          have digits := natRepr_inj ((String.append_right_inj _).mp same)
          rw [Nat.succ.inj digits]

/-- A decoded JSON document. -/
inductive Json where
  | null
  | bool (value : Bool)
  | int (value : Int)
  | float (value : JsonFloat)
  | str (value : String)
  | arr (items : List Json)
  | obj (fields : List (String × Json))
  deriving Repr, Inhabited

namespace Json

/-- The value of the first field of a name; only objects have fields. -/
def field? (key : String) : Json → Option Json
  | .obj fields => fields.lookup key
  | _ => none

/-- Whether the document is an object. -/
def isObject : Json → Bool
  | .obj _ => true
  | _ => false

/-- Assign one field: in place when the name is present, else at the end. -/
def setField (key : String) (value : Json) : List (String × Json) → List (String × Json)
  | [] => [(key, value)]
  | (name, old) :: rest =>
      if name = key then (name, value) :: rest else (name, old) :: setField key value rest

/-- Remove the fields of a name. -/
def eraseField (key : String) (fields : List (String × Json)) : List (String × Json) :=
  fields.filter fun field => field.1 != key

/-- The order of object fields: by name, code point by code point. -/
def FieldLe (left right : String × Json) : Prop := left.1 ≤ right.1

instance : DecidableRel FieldLe := fun left right => inferInstanceAs (Decidable (left.1 ≤ right.1))

mutual

/-- The document with the fields of every object in name order. -/
def normalize : Json → Json
  | .null => .null
  | .bool value => .bool value
  | .int value => .int value
  | .float value => .float value
  | .str value => .str value
  | .arr items => .arr (normalizeItems items)
  | .obj fields => .obj ((normalizeFields fields).insertionSort FieldLe)

def normalizeItems : List Json → List Json
  | [] => []
  | item :: rest => normalize item :: normalizeItems rest

def normalizeFields : List (String × Json) → List (String × Json)
  | [] => []
  | (key, value) :: rest => (key, normalize value) :: normalizeFields rest

end

/-- Two documents agree up to the order of object fields. -/
def Agrees (left right : Json) : Prop := left.normalize = right.normalize

theorem Agrees.refl (document : Json) : Agrees document document := rfl

theorem Agrees.symm {left right : Json} (agrees : Agrees left right) : Agrees right left :=
  Eq.symm agrees

theorem Agrees.trans {first second third : Json} (left : Agrees first second)
    (right : Agrees second third) : Agrees first third :=
  Eq.trans left right

theorem normalizeItems_eq_map (items : List Json) : normalizeItems items = items.map normalize := by
  induction items with
  | nil => rfl
  | cons item rest ih => rw [normalizeItems, ih, List.map_cons]

theorem normalizeFields_eq_map (fields : List (String × Json)) :
    normalizeFields fields = fields.map fun field => (field.1, field.2.normalize) := by
  induction fields with
  | nil => rfl
  | cons field rest ih =>
      obtain ⟨key, value⟩ := field
      rw [normalizeFields, ih, List.map_cons]

theorem lookup_map_snd (change : Json → Json) (key : String) (fields : List (String × Json)) :
    (fields.map fun field => (field.1, change field.2)).lookup key =
      (fields.lookup key).map change := by
  induction fields with
  | nil => rfl
  | cons field rest ih =>
      obtain ⟨name, value⟩ := field
      simp only [List.map_cons, List.lookup_cons]
      by_cases same : key = name
      · subst same
        simp only [BEq.rfl, Option.map_some]
      · simp only [beq_eq_false_iff_ne.mpr same, ih]

/-- Inserting a field before the first one it does not exceed puts it in front
of every field of its own name. -/
theorem lookup_orderedInsert (key : String) (field : String × Json)
    (fields : List (String × Json)) :
    (fields.orderedInsert FieldLe field).lookup key = (field :: fields).lookup key := by
  induction fields with
  | nil => rfl
  | cons head rest ih =>
      rw [List.orderedInsert_cons]
      split
      · rfl
      · rename_i above
        have distinct : head.1 ≠ field.1 := fun same => above (le_of_eq same.symm)
        obtain ⟨name, value⟩ := field
        obtain ⟨headName, headValue⟩ := head
        simp only [List.lookup_cons] at ih ⊢
        rw [ih]
        by_cases here : key = headName
        · subst here
          simp only [BEq.rfl, beq_eq_false_iff_ne.mpr distinct]
        · simp only [beq_eq_false_iff_ne.mpr here]

/-- Sorting the fields of an object does not change what is read under a name. -/
theorem lookup_insertionSort (key : String) (fields : List (String × Json)) :
    (fields.insertionSort FieldLe).lookup key = fields.lookup key := by
  induction fields with
  | nil => rfl
  | cons field rest ih =>
      obtain ⟨name, value⟩ := field
      rw [List.insertionSort_cons, lookup_orderedInsert, List.lookup_cons, List.lookup_cons, ih]

/-- Reading a field commutes with normalizing. -/
theorem normalize_field? (key : String) (document : Json) :
    document.normalize.field? key = (document.field? key).map normalize := by
  cases document with
  | obj fields =>
      rw [normalize, field?, field?, lookup_insertionSort, normalizeFields_eq_map, lookup_map_snd]
  | _ => rfl

/-- Documents that agree have fields that agree. -/
theorem Agrees.field? {left right : Json} (agrees : Agrees left right) (key : String) :
    (left.field? key).map normalize = (right.field? key).map normalize := by
  rw [← normalize_field?, ← normalize_field?, show left.normalize = right.normalize from agrees]

/-- Documents that agree have the same fields. -/
theorem Agrees.isSome_field? {left right : Json} (agrees : Agrees left right) (key : String) :
    (left.field? key).isSome = (right.field? key).isSome := by
  have same := congrArg Option.isSome (agrees.field? key)
  rwa [Option.isSome_map, Option.isSome_map] at same

/-- Whether the document holds no others. -/
def isScalar : Json → Bool
  | .arr _ => false
  | .obj _ => false
  | _ => true

/-- Only a scalar itself agrees with it. -/
theorem Agrees.eq_of_isScalar {value scalar : Json} (agrees : Agrees value scalar)
    (isScalar : scalar.isScalar = true) : value = scalar := by
  have same : value.normalize = scalar.normalize := agrees
  cases scalar with
  | arr items => cases isScalar
  | obj fields => cases isScalar
  | _ => cases value <;> simp_all [normalize]

theorem Agrees.isObject {left right : Json} (agrees : Agrees left right) :
    left.isObject = right.isObject := by
  have same : left.normalize = right.normalize := agrees
  cases left <;> cases right <;> simp_all [normalize, Json.isObject]

/-- A field of one of two documents that agree, found in the other. -/
theorem Agrees.field?_eq_some {left right value : Json} {key : String}
    (agrees : Agrees left right) (found : right.field? key = some value) :
    ∃ other, left.field? key = some other ∧ Agrees other value := by
  have same := agrees.field? key
  rw [found, Option.map_some, Option.map_eq_some_iff] at same
  exact same

theorem Agrees.field?_scalar {left right value : Json} {key : String}
    (agrees : Agrees left right) (found : right.field? key = some value)
    (isScalar : value.isScalar = true) : left.field? key = some value := by
  obtain ⟨other, here, same⟩ := agrees.field?_eq_some found
  rw [here, same.eq_of_isScalar isScalar]

/-- Reading a field with a default keeps agreement. -/
theorem Agrees.getD {left right : Json} (agrees : Agrees left right) (key : String)
    (default : Json) :
    Agrees ((left.field? key).getD default) ((right.field? key).getD default) := by
  have same := agrees.field? key
  cases leftFound : left.field? key with
  | none =>
      cases rightFound : right.field? key with
      | none => exact Agrees.refl default
      | some other => rw [leftFound, rightFound] at same; cases same
  | some value =>
      cases rightFound : right.field? key with
      | none => rw [leftFound, rightFound] at same; cases same
      | some other =>
          rw [leftFound, rightFound, Option.map_some, Option.map_some, Option.some.injEq] at same
          exact same

/-- Arrays that agree have entries that agree. -/
theorem Agrees.entries {left right : List Json} (agrees : Agrees (.arr left) (.arr right)) :
    List.Forall₂ Agrees left right := by
  have same : left.map normalize = right.map normalize := by
    have arrays : normalize (.arr left) = normalize (.arr right) := agrees
    rw [normalize, normalize, Json.arr.injEq] at arrays
    rw [← normalizeItems_eq_map, arrays, normalizeItems_eq_map]
  have paired : List.Forall₂ (· = ·) (left.map normalize) (right.map normalize) :=
    List.forall₂_eq_eq_eq ▸ same
  rw [List.forall₂_map_left_iff, List.forall₂_map_right_iff] at paired
  exact paired

/-- Objects that agree have fields that agree, one for one. -/
theorem Agrees.exists_field {left right : List (String × Json)}
    (agrees : Agrees (.obj left) (.obj right)) {field : String × Json} (member : field ∈ left) :
    ∃ other ∈ right, other.1 = field.1 ∧ Agrees field.2 other.2 := by
  have same : (normalizeFields left).insertionSort FieldLe =
      (normalizeFields right).insertionSort FieldLe := by
    have objects : normalize (.obj left) = normalize (.obj right) := agrees
    rwa [normalize, normalize, Json.obj.injEq] at objects
  have listed : (field.1, field.2.normalize) ∈ normalizeFields right := by
    rw [← List.mem_insertionSort FieldLe, ← same, List.mem_insertionSort, normalizeFields_eq_map]
    exact List.mem_map.mpr ⟨field, member, rfl⟩
  rw [normalizeFields_eq_map, List.mem_map] at listed
  obtain ⟨other, stored, pair⟩ := listed
  rw [Prod.mk.injEq] at pair
  exact ⟨other, stored, pair.1, pair.2.symm⟩

theorem lookup_setField_self (key : String) (value : Json) (fields : List (String × Json)) :
    (setField key value fields).lookup key = some value := by
  induction fields with
  | nil => simp [setField]
  | cons field rest ih =>
      obtain ⟨name, old⟩ := field
      by_cases same : name = key
      · subst same; simp [setField]
      · simp [setField, same, List.lookup_cons, beq_eq_false_iff_ne.mpr (Ne.symm same), ih]

theorem lookup_setField_of_ne {key other : String} (distinct : other ≠ key) (value : Json)
    (fields : List (String × Json)) :
    (setField key value fields).lookup other = fields.lookup other := by
  induction fields with
  | nil => simp [setField, List.lookup_cons, beq_eq_false_iff_ne.mpr distinct]
  | cons field rest ih =>
      obtain ⟨name, old⟩ := field
      by_cases same : name = key
      · subst same
        simp [setField, List.lookup_cons, beq_eq_false_iff_ne.mpr distinct]
      · simp only [setField, same, if_false, List.lookup_cons, ih]

theorem lookup_eraseField_of_ne {key other : String} (distinct : other ≠ key)
    (fields : List (String × Json)) :
    (eraseField key fields).lookup other = fields.lookup other := by
  induction fields with
  | nil => rfl
  | cons field rest ih =>
      obtain ⟨name, value⟩ := field
      rw [eraseField, List.filter_cons]
      by_cases same : name = key
      · subst same
        simp only [bne_self_eq_false, Bool.false_eq_true, if_false, List.lookup_cons,
          beq_eq_false_iff_ne.mpr distinct]
        exact ih
      · simp only [bne_iff_ne, ne_eq, same, not_false_eq_true, if_true, List.lookup_cons]
        rw [← eraseField, ih]

/-- Assigning the value that is stored changes nothing. -/
theorem setField_of_lookup {key : String} {value : Json} {fields : List (String × Json)}
    (stored : fields.lookup key = some value) : setField key value fields = fields := by
  induction fields with
  | nil => cases stored
  | cons field rest ih =>
      obtain ⟨name, old⟩ := field
      by_cases same : name = key
      · subst same
        rw [List.lookup_cons, BEq.rfl, Option.some.injEq] at stored
        rw [setField, if_pos rfl, stored]
      · rw [List.lookup_cons, beq_eq_false_iff_ne.mpr (Ne.symm same)] at stored
        rw [setField, if_neg same, ih stored]

/-- Assigning one name and removing another commute. -/
theorem eraseField_setField {key other : String} (distinct : other ≠ key) (value : Json)
    (fields : List (String × Json)) :
    eraseField other (setField key value fields) =
      setField key value (eraseField other fields) := by
  have kept : (key != other) = true := by simpa using Ne.symm distinct
  induction fields with
  | nil => simp [setField, eraseField, kept]
  | cons field rest ih =>
      obtain ⟨name, old⟩ := field
      by_cases same : name = key
      · subst same
        simp [setField, eraseField, kept]
      · by_cases erased : name = other
        · subst erased
          simpa [setField, eraseField, same] using ih
        · simpa [setField, eraseField, same, erased] using ih

theorem map_setField (change : Json → Json) (key : String) (value : Json)
    (fields : List (String × Json)) :
    (setField key value fields).map (fun field => (field.1, change field.2)) =
      setField key (change value) (fields.map fun field => (field.1, change field.2)) := by
  induction fields with
  | nil => rfl
  | cons field rest ih =>
      obtain ⟨name, old⟩ := field
      by_cases same : name = key
      · simp [setField, same]
      · simp [setField, same, ih]

/-- An inserted field of the assigned name is the one that is assigned. -/
theorem setField_orderedInsert_self (key : String) (old value : Json)
    (fields : List (String × Json)) :
    setField key value (fields.orderedInsert FieldLe (key, old)) =
      fields.orderedInsert FieldLe (key, value) := by
  induction fields with
  | nil => simp [setField]
  | cons head rest ih =>
      rw [List.orderedInsert_cons, List.orderedInsert_cons]
      by_cases below : FieldLe (key, old) head
      · rw [if_pos below, if_pos (show FieldLe (key, value) head from below), setField,
          if_pos rfl]
      · have distinct : head.1 ≠ key := fun same => below (le_of_eq same.symm)
        rw [if_neg below, if_neg (show ¬FieldLe (key, value) head from below)]
        obtain ⟨name, other⟩ := head
        rw [setField, if_neg distinct, ih]

/-- An inserted field of another name leaves the assignment where it was. -/
theorem setField_orderedInsert_of_ne {key : String} {field : String × Json}
    (distinct : field.1 ≠ key) (value : Json) {fields : List (String × Json)}
    (present : (fields.lookup key).isSome) :
    setField key value (fields.orderedInsert FieldLe field) =
      (setField key value fields).orderedInsert FieldLe field := by
  obtain ⟨fieldName, fieldValue⟩ := field
  induction fields with
  | nil => cases present
  | cons head rest ih =>
      obtain ⟨name, old⟩ := head
      rw [List.orderedInsert_cons]
      by_cases same : name = key
      · subst same
        rw [setField, if_pos rfl, List.orderedInsert_cons]
        by_cases below : fieldName ≤ name
        · rw [if_pos (show FieldLe (fieldName, fieldValue) (name, old) from below),
            if_pos (show FieldLe (fieldName, fieldValue) (name, value) from below), setField,
            if_neg distinct, setField, if_pos rfl]
        · rw [if_neg (show ¬FieldLe (fieldName, fieldValue) (name, old) from below),
            if_neg (show ¬FieldLe (fieldName, fieldValue) (name, value) from below), setField,
            if_pos rfl]
      · rw [List.lookup_cons, beq_eq_false_iff_ne.mpr (Ne.symm same)] at present
        rw [setField, if_neg same, List.orderedInsert_cons]
        by_cases below : FieldLe (fieldName, fieldValue) (name, old)
        · rw [if_pos below, if_pos below, setField, if_neg distinct, setField, if_neg same]
        · rw [if_neg below, if_neg below, setField, if_neg same, ih present]

/-- Assigning a field that is present commutes with sorting. -/
theorem insertionSort_setField {key : String} (value : Json) {fields : List (String × Json)}
    (present : (fields.lookup key).isSome) :
    (setField key value fields).insertionSort FieldLe =
      setField key value (fields.insertionSort FieldLe) := by
  induction fields with
  | nil => cases present
  | cons field rest ih =>
      obtain ⟨name, old⟩ := field
      by_cases same : name = key
      · subst same
        rw [setField, if_pos rfl, List.insertionSort_cons, List.insertionSort_cons,
          setField_orderedInsert_self]
      · rw [List.lookup_cons, beq_eq_false_iff_ne.mpr (Ne.symm same)] at present
        rw [setField, if_neg same, List.insertionSort_cons, List.insertionSort_cons, ih present,
          setField_orderedInsert_of_ne same]
        rwa [lookup_insertionSort]

/-- The same assignment to a field of two objects that agree. -/
theorem Agrees.setField {left right : List (String × Json)}
    (agrees : Agrees (.obj left) (.obj right))
    (key : String) (value : Json) (present : (right.lookup key).isSome) :
    Agrees (.obj (setField key value left)) (.obj (setField key value right)) := by
  have same : (normalizeFields left).insertionSort FieldLe =
      (normalizeFields right).insertionSort FieldLe := by
    have objects : normalize (.obj left) = normalize (.obj right) := agrees
    rwa [normalize, normalize, Json.obj.injEq] at objects
  have leftPresent : (left.lookup key).isSome := (agrees.isSome_field? key).trans present
  have lifted {fields : List (String × Json)} (has : (fields.lookup key).isSome) :
      normalize (.obj (Json.setField key value fields)) =
        .obj (Json.setField key value.normalize
          ((normalizeFields fields).insertionSort FieldLe)) := by
    rw [normalize, normalizeFields_eq_map, map_setField, ← normalizeFields_eq_map,
      insertionSort_setField]
    rwa [normalizeFields_eq_map, lookup_map_snd, Option.isSome_map]
  rw [Agrees, lifted leftPresent, lifted present, same]

/-- Two documents have the same field of a name: both lack it, or the values agree. -/
def SameField (key : String) (left right : Json) : Prop :=
  (left.field? key).map normalize = (right.field? key).map normalize

end Json
