import OpcuaGds.Foundation.Dict
import OpcuaGds.Foundation.JsonText
import OpcuaGds.Foundation.Timestamp

/-! # Python values

Values that are built from dictionaries, lists, tuples, texts and scalars, the places in them and
their JSON form.
A key of a dictionary stands for its `str`; different keys, such as `1` and `"1"`, may have the
same, and then the last of them is the one that a dictionary of the texts has.
-/

/-- A value without parts that is no text. -/
inductive PyScalar where
  | none
  | bool (value : Bool)
  | int (value : Int)
  | float (value : JsonFloat)
  /-- A decimal, with the float that it converts to. -/
  | decimal (text : String) (asFloat : JsonFloat)
  | bytes (content : List UInt8)
  /-- A date and time, as the UTC clock shows it. -/
  | datetime (utc : Timestamp.DateTime)
  /-- A date; the time of day does not count. -/
  | date (day : Timestamp.DateTime)
  deriving DecidableEq

inductive PyValue where
  | dict (entries : List (String × PyValue))
  | list (items : List PyValue)
  | tuple (items : List PyValue)
  | str (text : String)
  | scalar (value : PyScalar)

namespace PyValue

/-- What holds of a value when it holds of its parts holds of every value. -/
@[elab_as_elim]
theorem nested {motive : PyValue → Prop}
    (dict : ∀ entries, (∀ entry ∈ entries, motive entry.2) → motive (.dict entries))
    (list : ∀ items, (∀ item ∈ items, motive item) → motive (.list items))
    (tuple : ∀ items, (∀ item ∈ items, motive item) → motive (.tuple items))
    (str : ∀ text, motive (.str text)) (scalar : ∀ value, motive (.scalar value))
    (value : PyValue) : motive value :=
  @PyValue.rec motive (fun entries => ∀ entry ∈ entries, motive entry.2)
    (fun items => ∀ item ∈ items, motive item) (fun entry => motive entry.2)
    dict list tuple str scalar nofun
    (fun _ _ here later => List.forall_mem_cons.mpr ⟨here, later⟩) nofun
    (fun _ _ here later => List.forall_mem_cons.mpr ⟨here, later⟩) (fun _ _ here => here) value

/-- One step into a value. -/
inductive Step where
  | key (text : String)
  | index (position : Nat)

def step : PyValue → Step → Option PyValue
  | .dict entries, .key text => entries.reverse.lookup text
  | .list items, .index position => items[position]?
  | .tuple items, .index position => items[position]?
  | _, _ => none

/-- What is at the end of a path. -/
def follow (value : PyValue) : List Step → Option PyValue
  | [] => some value
  | first :: rest => (value.step first).bind fun part => part.follow rest

/-! ## As JSON -/

/-- The JSON form of a value without parts; `json.dumps` has none for the others. -/
def scalarJson? : PyScalar → Option Json
  | .none => some .null
  | .bool value => some (.bool value)
  | .int value => some (.int value)
  | .float value => some (.float value)
  | _ => Option.none

mutual

/-- Whether `json.dumps` has a text for a value. -/
def encodable : PyValue → Bool
  | .dict entries => entriesEncodable entries
  | .list items => itemsEncodable items
  | .tuple items => itemsEncodable items
  | .str _ => true
  | .scalar value => (scalarJson? value).isSome

def itemsEncodable : List PyValue → Bool
  | [] => true
  | item :: rest => encodable item && itemsEncodable rest

def entriesEncodable : List (String × PyValue) → Bool
  | [] => true
  | (_, value) :: rest => encodable value && entriesEncodable rest

end

mutual

/-- The document that `json.dumps` writes for an encodable value. -/
def toJson : PyValue → Json
  | .dict entries => .obj (entriesJson entries)
  | .list items => .arr (itemsJson items)
  | .tuple items => .arr (itemsJson items)
  | .str text => .str text
  | .scalar value => (scalarJson? value).getD .null

def itemsJson : List PyValue → List Json
  | [] => []
  | item :: rest => toJson item :: itemsJson rest

def entriesJson : List (String × PyValue) → List (String × Json)
  | [] => []
  | (key, value) :: rest => (key, toJson value) :: entriesJson rest

end

theorem itemsEncodable_iff {items : List PyValue} :
    itemsEncodable items = true ↔ ∀ item ∈ items, item.encodable = true := by
  induction items with
  | nil => exact iff_of_true rfl nofun
  | cons item rest ih => rw [itemsEncodable, Bool.and_eq_true, ih, List.forall_mem_cons]

theorem entriesEncodable_iff {entries : List (String × PyValue)} :
    entriesEncodable entries = true ↔ ∀ entry ∈ entries, entry.2.encodable = true := by
  induction entries with
  | nil => exact iff_of_true rfl nofun
  | cons entry rest ih => rw [entriesEncodable, Bool.and_eq_true, ih, List.forall_mem_cons]

theorem itemsJson_eq_map (items : List PyValue) : itemsJson items = items.map toJson := by
  induction items with
  | nil => rfl
  | cons item rest ih => rw [itemsJson, ih, List.map_cons]

theorem entriesJson_eq_map (entries : List (String × PyValue)) :
    entriesJson entries = entries.map fun entry => (entry.1, entry.2.toJson) := by
  induction entries with
  | nil => rfl
  | cons entry rest ih => rw [entriesJson, ih, List.map_cons]

end PyValue
