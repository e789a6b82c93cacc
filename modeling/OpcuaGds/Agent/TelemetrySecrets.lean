import OpcuaGds.Agent.CollectorTelemetry

/-! # What the posted events show

The message and the tags of an event are posted as they come; only dictionaries and lists of the
raw value are walked through, and only for a few names of keys.
-/

namespace OpcuaGds.Agent.Telemetry

/-! ## Statements -/

/-- A text has the begin line of a PEM block and an end line after it. -/
def HasPemBlock (text : String) : Prop :=
  ∃ front inside back, text.toList =
    front ++ "-----BEGIN ".toList ++ inside ++ "-----END ".toList ++ back

/-- The names of keys under which private keys, tokens, role and secret identifiers, certificates,
signing requests, chains and revocation lists stand. -/
def secretNames : List String :=
  ["private_key", "private_key_pem", "server_key", "client_key", "token", "client_token",
    "vault_token", "x_vault_token", "x_gds_agent_token", "role_id", "secret_id", "pem",
    "certificate_pem", "csr", "csr_pem", "ca_chain", "ca_chain_pem", "crl", "crl_pem",
    "crl_base64", "root_crl_base64", "intermediate_crl_base64", "crl_bundle"]

/-- A key is one of the names, in any letter case, with hyphens or underscores and with blanks
around it. -/
def IsSecretKey (key : String) : Prop :=
  String.ofList
      (PythonText.replaceChar '-' ['_'] (PythonText.lower (PythonText.strip key)).toList) ∈
    secretNames

instance (key : String) : Decidable (IsSecretKey key) := inferInstanceAs (Decidable (_ ∈ _))

/-- A document shows no secret: no text or name has a PEM block, and what stands under a secret
key is redacted. -/
inductive Clean : Json → Prop
  | atom {document : Json} (word : document.isAtom = true) : Clean document
  | str {text : String} (unmarked : ¬HasPemBlock text) : Clean (.str text)
  | arr {items : List Json} (each : ∀ item ∈ items, Clean item) : Clean (.arr items)
  | obj {fields : List (String × Json)} (names : ∀ field ∈ fields, ¬HasPemBlock field.1)
      (secrets : ∀ field ∈ fields, IsSecretKey field.1 → field.2 = .str "[redacted]")
      (each : ∀ field ∈ fields, Clean field.2) : Clean (.obj fields)

/-- A text shows a front part of a document and otherwise marks of truncation. -/
def ShowsPartOf (text : String) (document : Json) : Prop :=
  ∃ shown tail, shown <+: document.text ∧ text.toList = shown ++ tail ∧
    ∀ c ∈ tail, c ∈ truncationMark.toList

/-- Message, tags and raw text of a posted event show no secret. -/
structure LeaksNothing (event : CollectorEvent) : Prop where
  message : ¬HasPemBlock event.message
  tags : Clean (PyValue.dict event.tags.items).toJson
  raw : ∃ document, Clean document ∧ ShowsPartOf event.raw document

/-- Whatever else happens, the posted event with the message, the raw value and the tags shows no
secret. -/
def PostsNoSecret (str : PyValue → String) (zone host message : String)
    (raw tags : Dict String PyValue) : Prop :=
  ∀ (enabled : Bool) (assetIp category severity : String) (limits : CollectorLimits)
    (env : TelemetryEnv) (stamp : EventStamp) (state : TelemetryState) (time draw : ℚ)
    (posted : CollectorEvent),
    (forwardOtCollectorEvent str ⟨enabled, zone, assetIp, host, limits⟩ env stamp state
      ⟨time, draw, category, severity, message, raw, tags⟩).2 = some posted → LeaksNothing posted

/-- Whether the value of a key is redacted where the value is walked through. -/
def Dropped (walked : Bool) (key : String) : Prop :=
  walked = true ∧ PythonText.lower key ∈ sensitiveExact

instance (walked : Bool) (key : String) : Decidable (Dropped walked key) :=
  inferInstanceAs (Decidable (_ ∧ _))

/-- JSON has a text for what is left of a value that is walked through or not; a tuple is not. -/
inductive EncodedIn : Bool → PyValue → Prop
  | dict {walked : Bool} {entries : List (String × PyValue)}
      (each : ∀ entry ∈ entries, ¬Dropped walked entry.1 → EncodedIn walked entry.2) :
      EncodedIn walked (.dict entries)
  | list {walked : Bool} {items : List PyValue} (each : ∀ item ∈ items, EncodedIn walked item) :
      EncodedIn walked (.list items)
  | tuple {walked : Bool} {items : List PyValue} (each : ∀ item ∈ items, EncodedIn false item) :
      EncodedIn walked (.tuple items)
  | str {walked : Bool} (text : String) : EncodedIn walked (.str text)
  | scalar {walked : Bool} {value : PyScalar}
      (known : (PyValue.scalarJson? value).isSome = true) : EncodedIn walked (.scalar value)

/-- What is left of a value that is walked through or not has no secret. -/
inductive CleanIn : Bool → PyValue → Prop
  | dict {walked : Bool} {entries : List (String × PyValue)}
      (names : ∀ entry ∈ entries, ¬HasPemBlock entry.1)
      (secrets : ∀ entry ∈ entries, ¬Dropped walked entry.1 → IsSecretKey entry.1 →
        entry.2 = .str "[redacted]")
      (each : ∀ entry ∈ entries, ¬Dropped walked entry.1 → CleanIn walked entry.2) :
      CleanIn walked (.dict entries)
  | list {walked : Bool} {items : List PyValue} (each : ∀ item ∈ items, CleanIn walked item) :
      CleanIn walked (.list items)
  | tuple {walked : Bool} {items : List PyValue} (each : ∀ item ∈ items, CleanIn false item) :
      CleanIn walked (.tuple items)
  | str {walked : Bool} {text : String} (unmarked : ¬HasPemBlock text) : CleanIn walked (.str text)
  | scalar {walked : Bool} (value : PyScalar) : CleanIn walked (.scalar value)

/-- The tags that the agent's own replace. -/
def overriddenTags : List String :=
  ["component", "source_type", "zone", "collector_decision", "reason", "gds_control_plane",
    "collector_decision_hint"]

/-- An entry that may be posted as it is. -/
structure CleanEntry (key : String) (value : PyValue) : Prop where
  name : ¬HasPemBlock key
  secret : IsSecretKey key → value = .str "[redacted]"
  value : CleanIn false value

/-- An event without secrets in what is posted of it. -/
structure Secretless (zone host message : String) (raw tags : Dict String PyValue) : Prop where
  zone : ¬HasPemBlock zone
  host : ¬HasPemBlock host
  message : ¬HasPemBlock message
  tags : ∀ tag ∈ tags.items, tag.1 ∉ overriddenTags → CleanEntry tag.1 tag.2
  raw : EncodedIn true (.dict raw.items) → CleanIn true (.dict raw.items)

/-- JSON has a text for the tags that are posted. -/
def Sendable (tags : Dict String PyValue) : Prop :=
  ∀ tag ∈ tags.items, tag.1 ∉ overriddenTags → EncodedIn false tag.2

/-! ## Walking through a value -/

/-- What is left of a value that is walked through or not. -/
def treated (walked : Bool) (value : PyValue) : PyValue :=
  if walked then sanitizePayload value else value

theorem scrubItems_eq_map (items : List PyValue) :
    scrubItems items = items.map sanitizePayload := by
  induction items with
  | nil => rfl
  | cons item rest ih => rw [scrubItems, ih, List.map_cons]

theorem scrubEntries_eq_map (entries : List (String × PyValue)) :
    scrubEntries entries = entries.map fun entry =>
      (entry.1, if PythonText.lower entry.1 ∈ sensitiveExact then .str "[redacted]"
        else sanitizePayload entry.2) := by
  induction entries with
  | nil => rfl
  | cons entry rest ih => rw [scrubEntries, ih, List.map_cons]

theorem treated_dict (walked : Bool) (entries : List (String × PyValue)) :
    treated walked (.dict entries) = .dict (entries.map fun entry =>
      (entry.1, if Dropped walked entry.1 then .str "[redacted]" else treated walked entry.2)) := by
  cases walked with
  | false =>
      have same : (fun entry : String × PyValue => (entry.1,
          if Dropped false entry.1 then PyValue.str "[redacted]" else treated false entry.2)) =
            id := by
        funext entry
        have kept : ¬Dropped false entry.1 := fun dropped => Bool.false_ne_true dropped.1
        rw [if_neg kept]
        rfl
      rw [same, List.map_id]
      rfl
  | true =>
      have scrubbed : treated true (.dict entries) = sanitizePayload (.dict entries) := rfl
      rw [scrubbed, sanitizePayload, scrubEntries_eq_map]
      refine congrArg PyValue.dict (List.map_congr_left fun entry _ => ?_)
      have iff : Dropped true entry.1 ↔ PythonText.lower entry.1 ∈ sensitiveExact :=
        and_iff_right rfl
      simp only [iff]
      rfl

theorem treated_list (walked : Bool) (items : List PyValue) :
    treated walked (.list items) = .list (items.map (treated walked)) := by
  cases walked with
  | false => exact congrArg PyValue.list (List.map_id items).symm
  | true =>
      have scrubbed : treated true (.list items) = sanitizePayload (.list items) := rfl
      rw [scrubbed, sanitizePayload, scrubItems_eq_map]
      rfl

theorem treated_tuple (walked : Bool) (items : List PyValue) :
    treated walked (.tuple items) = .tuple items := by
  cases walked with
  | false => rfl
  | true => exact sanitizePayload.eq_3 _ nofun nofun

theorem treated_str (walked : Bool) (text : String) : treated walked (.str text) = .str text := by
  cases walked with
  | false => rfl
  | true => exact sanitizePayload.eq_3 _ nofun nofun

theorem treated_scalar (walked : Bool) (value : PyScalar) :
    treated walked (.scalar value) = .scalar value := by
  cases walked with
  | false => rfl
  | true => exact sanitizePayload.eq_3 _ nofun nofun

/-- JSON has a text for what is left of a value exactly if it has one for every part. -/
theorem encodable_treated_iff (walked : Bool) (value : PyValue) :
    (treated walked value).encodable = true ↔ EncodedIn walked value := by
  induction value using PyValue.nested generalizing walked with
  | dict entries ih =>
      rw [treated_dict, PyValue.encodable, PyValue.entriesEncodable_iff, List.forall_mem_map]
      have entry (item : String × PyValue) (among : item ∈ entries) :
          (if Dropped walked item.1 then PyValue.str "[redacted]"
            else treated walked item.2).encodable = true ↔
            (¬Dropped walked item.1 → EncodedIn walked item.2) := by
        split
        · rename_i dropped
          exact iff_of_true rfl fun kept => absurd dropped kept
        · rename_i kept
          rw [ih item among]
          exact (imp_iff_right kept).symm
      rw [forall₂_congr entry]
      constructor
      · exact fun each => .dict each
      · intro encoded
        cases encoded with
        | dict each => exact each
  | list items ih =>
      rw [treated_list, PyValue.encodable, PyValue.itemsEncodable_iff, List.forall_mem_map,
        forall₂_congr fun item among => ih item among walked]
      constructor
      · exact fun each => .list each
      · intro encoded
        cases encoded with
        | list each => exact each
  | tuple items ih =>
      rw [treated_tuple, PyValue.encodable, PyValue.itemsEncodable_iff]
      have left (item : PyValue) (among : item ∈ items) :
          item.encodable = true ↔ EncodedIn false item := ih item among false
      rw [forall₂_congr left]
      constructor
      · exact fun each => .tuple each
      · intro encoded
        cases encoded with
        | tuple each => exact each
  | str text =>
      rw [treated_str]
      exact iff_of_true rfl (.str text)
  | scalar value =>
      rw [treated_scalar, PyValue.encodable]
      constructor
      · exact fun known => .scalar known
      · intro encoded
        cases encoded with
        | scalar known => exact known

theorem toJson_eq_str_iff {value : PyValue} {text : String} :
    value.toJson = .str text ↔ value = .str text := by
  cases value with
  | dict entries => exact iff_of_false nofun nofun
  | list items => exact iff_of_false nofun nofun
  | tuple items => exact iff_of_false nofun nofun
  | str other => rw [PyValue.toJson, Json.str.injEq, PyValue.str.injEq]
  | scalar value => cases value <;> exact iff_of_false nofun nofun

theorem treated_eq_str_iff {walked : Bool} {value : PyValue} {text : String} :
    treated walked value = .str text ↔ value = .str text := by
  cases value with
  | dict entries =>
      rw [treated_dict]
      exact iff_of_false nofun nofun
  | list items =>
      rw [treated_list]
      exact iff_of_false nofun nofun
  | tuple items =>
      rw [treated_tuple]
  | str other => rw [treated_str]
  | scalar value =>
      rw [treated_scalar]

theorem HasPemBlock.letter_mem {text : String} (block : HasPemBlock text) : 'B' ∈ text.toList := by
  obtain ⟨front, inside, back, same⟩ := block
  have among : 'B' ∈ "-----BEGIN ".toList := by decide
  rw [same, List.append_assoc, List.append_assoc, List.append_assoc]
  exact List.mem_append_right _ (List.mem_append_left _ among)

theorem not_hasPemBlock_redacted : ¬HasPemBlock "[redacted]" :=
  fun block => absurd block.letter_mem (by decide)

theorem clean_str_iff {text : String} : Clean (.str text) ↔ ¬HasPemBlock text := by
  refine ⟨fun clean => ?_, .str⟩
  cases clean with
  | atom word => cases word
  | str unmarked => exact unmarked

theorem clean_arr_iff {items : List Json} : Clean (.arr items) ↔ ∀ item ∈ items, Clean item := by
  refine ⟨fun clean => ?_, .arr⟩
  cases clean with
  | atom word => cases word
  | arr each => exact each

theorem clean_obj_iff {fields : List (String × Json)} :
    Clean (.obj fields) ↔ (∀ field ∈ fields, ¬HasPemBlock field.1) ∧
      (∀ field ∈ fields, IsSecretKey field.1 → field.2 = .str "[redacted]") ∧
      ∀ field ∈ fields, Clean field.2 := by
  refine ⟨fun clean => ?_, fun parts => .obj parts.1 parts.2.1 parts.2.2⟩
  cases clean with
  | atom word => cases word
  | obj names secrets each => exact ⟨names, secrets, each⟩

theorem cleanIn_list_iff {walked : Bool} {items : List PyValue} :
    CleanIn walked (.list items) ↔ ∀ item ∈ items, CleanIn walked item := by
  refine ⟨fun clean => ?_, .list⟩
  cases clean with
  | list each => exact each

theorem cleanIn_tuple_iff {walked : Bool} {items : List PyValue} :
    CleanIn walked (.tuple items) ↔ ∀ item ∈ items, CleanIn false item := by
  refine ⟨fun clean => ?_, .tuple⟩
  cases clean with
  | tuple each => exact each

theorem cleanIn_str_iff {walked : Bool} {text : String} :
    CleanIn walked (.str text) ↔ ¬HasPemBlock text := by
  refine ⟨fun clean => ?_, .str⟩
  cases clean with
  | str unmarked => exact unmarked

theorem cleanIn_dict_parts_iff {walked : Bool} {entries : List (String × PyValue)} :
    CleanIn walked (.dict entries) ↔ (∀ entry ∈ entries, ¬HasPemBlock entry.1) ∧
      (∀ entry ∈ entries, ¬Dropped walked entry.1 → IsSecretKey entry.1 →
        entry.2 = .str "[redacted]") ∧
      ∀ entry ∈ entries, ¬Dropped walked entry.1 → CleanIn walked entry.2 := by
  refine ⟨fun clean => ?_, fun parts => .dict parts.1 parts.2.1 parts.2.2⟩
  cases clean with
  | dict names secrets each => exact ⟨names, secrets, each⟩

/-- The document of what is left of a value is clean exactly if every part is. -/
theorem clean_treated_iff (walked : Bool) (value : PyValue) :
    Clean (treated walked value).toJson ↔ CleanIn walked value := by
  induction value using PyValue.nested generalizing walked with
  | dict entries ih =>
      rw [treated_dict, PyValue.toJson, PyValue.entriesJson_eq_map, List.map_map, clean_obj_iff,
        cleanIn_dict_parts_iff, List.forall_mem_map, List.forall_mem_map, List.forall_mem_map]
      refine and_congr Iff.rfl (and_congr ?_ ?_)
      · refine forall₂_congr fun entry among => ?_
        by_cases dropped : Dropped walked entry.1
        · simp only [Function.comp, if_pos dropped]
          exact iff_of_true (fun _ => rfl) fun kept => absurd dropped kept
        · simp only [Function.comp, if_neg dropped]
          rw [toJson_eq_str_iff, treated_eq_str_iff, imp_iff_right dropped]
      · refine forall₂_congr fun entry among => ?_
        by_cases dropped : Dropped walked entry.1
        · simp only [Function.comp, if_pos dropped]
          exact iff_of_true (.str not_hasPemBlock_redacted) fun kept => absurd dropped kept
        · simp only [Function.comp, if_neg dropped]
          rw [imp_iff_right dropped]
          exact ih entry among walked
  | list items ih =>
      rw [treated_list, PyValue.toJson, PyValue.itemsJson_eq_map, List.map_map, clean_arr_iff,
        cleanIn_list_iff, List.forall_mem_map]
      exact forall₂_congr fun item among => ih item among walked
  | tuple items ih =>
      rw [treated_tuple, PyValue.toJson, PyValue.itemsJson_eq_map, clean_arr_iff,
        cleanIn_tuple_iff, List.forall_mem_map]
      exact forall₂_congr fun item among => ih item among false
  | str text => rw [treated_str, PyValue.toJson, clean_str_iff, cleanIn_str_iff]
  | scalar value =>
      rw [treated_scalar, PyValue.toJson]
      refine iff_of_true (.atom ?_) (.scalar value)
      cases value <;> rfl

/-! ## Cut texts -/

/-- A block whose end line is cut off is no block. -/
theorem HasPemBlock.of_cut {text : String} {shown tail : List Char}
    (within : shown <+: text.toList) (marks : ∀ c ∈ tail, c ∈ truncationMark.toList)
    (block : HasPemBlock (String.ofList (shown ++ tail))) : HasPemBlock text := by
  obtain ⟨front, inside, back, same⟩ := block
  obtain ⟨more, whole⟩ := within
  have blank : ' ' ∉ tail := fun among => absurd (marks ' ' among) (by decide)
  have ending : "-----END ".toList = "-----END".toList ++ [' '] := rfl
  rw [String.toList_ofList, ending, ← List.append_assoc, List.append_assoc _ [' ']] at same
  rcases List.append_eq_append_iff.mp same with ⟨between, -, cut⟩ | ⟨between, kept, rest⟩
  · refine absurd ?_ blank
    rw [cut]
    exact List.mem_append_right _ List.mem_cons_self
  · cases between with
    | nil => exact absurd (rest ▸ List.mem_cons_self : ' ' ∈ [] ++ tail) blank
    | cons c between =>
        obtain ⟨rfl, -⟩ := List.cons.inj rest
        refine ⟨front, inside, between ++ more, ?_⟩
        rw [← whole, kept, ending]
        simp only [List.append_assoc, List.cons_append, List.nil_append]

theorem hasPemBlock_truncateText {text : String} {maxLen : Int}
    (block : HasPemBlock (truncateText text maxLen)) : HasPemBlock text := by
  rw [truncateText] at block
  split at block
  · exact block
  · have marks : ∀ c ∈ truncationMark.toList, c ∈ truncationMark.toList := fun _ among => among
    refine HasPemBlock.of_cut (List.take_prefix maxLen.toNat text.toList) marks ?_
    rwa [String.ofList_append, String.ofList_toList]

theorem showsPartOf_truncateText {text : String} {document : Json} (maxLen : Int)
    (shows : ShowsPartOf text document) : ShowsPartOf (truncateText text maxLen) document := by
  rw [truncateText]
  split
  · exact shows
  · obtain ⟨shown, tail, within, same, marks⟩ := shows
    refine ⟨shown.take maxLen.toNat, tail.take (maxLen.toNat - shown.length) ++
      truncationMark.toList, (List.take_prefix _ _).trans within, ?_, ?_⟩
    · rw [String.toList_append, String.toList_ofList, same, List.take_append, List.append_assoc]
    · intro c among
      rcases List.mem_append.mp among with among | among
      · exact marks c (List.mem_of_mem_take among)
      · exact among

theorem showsPartOf_toRawString (raw : PyValue) (maxLen : Int) :
    ShowsPartOf (toRawString raw maxLen) (rawDocument raw) := by
  refine showsPartOf_truncateText maxLen ⟨_, [], List.prefix_rfl, ?_, nofun⟩
  rw [String.toList_ofList, List.append_nil]

theorem fieldsText_closes (fields : List (String × Json)) :
    ∃ front, Json.fieldsText fields = front ++ ['}'] := by
  induction fields with
  | nil => exact ⟨[], rfl⟩
  | cons field rest ih =>
      obtain ⟨front, closed⟩ := ih
      refine ⟨',' :: (Json.quoted field.1 ++ ':' :: (field.2.text ++ front)), ?_⟩
      rw [Json.fieldsText, closed]
      simp only [List.append_assoc, List.cons_append]

theorem obj_text_closes (fields : List (String × Json)) :
    ∃ front, (Json.obj fields).text = front ++ ['}'] := by
  cases fields with
  | nil => exact ⟨['{'], rfl⟩
  | cons field rest =>
      obtain ⟨front, closed⟩ := fieldsText_closes (field :: rest)
      cases front with
      | nil => exact absurd (List.cons.inj closed).1 (by decide)
      | cons c front => exact ⟨'{' :: front, congrArg ('{' :: ·) (List.cons.inj closed).2⟩

/-- A text that is the whole of an object shows part of no other document. -/
theorem eq_of_showsPartOf {fields : List (String × Json)} {document : Json}
    (shows : ShowsPartOf (String.ofList (Json.obj fields).text) document) :
    document = .obj fields := by
  obtain ⟨shown, tail, ⟨more, whole⟩, same, marks⟩ := shows
  obtain ⟨front, closed⟩ := obj_text_closes fields
  rw [String.toList_ofList] at same
  have unmarked : tail = [] := by
    cases tail using List.reverseRecOn with
    | nil => rfl
    | append_singleton tail last =>
        rw [closed, ← List.append_assoc] at same
        have brace := (List.append_inj' same rfl).2
        have among := marks last (List.mem_append_right _ List.mem_cons_self)
        rw [← (List.cons.inj brace).1] at among
        exact absurd among (by decide)
  rw [unmarked, List.append_nil] at same
  have texts : (Json.obj fields).text ++ more = document.text ++ [] := by
    rw [same, whole, List.append_nil]
  obtain ⟨others, rfl⟩ := Json.eq_obj_of_shape (Json.shape_eq_of_text texts).symm
  rw [(Json.obj_text_cancel texts).1]

/-! ## Tags -/

theorem get?_addTag (payload : Dict String PyValue) (tag : String × PyValue) (name : String) :
    (addTag payload tag).get? name =
      (payload.get? name).or (if name = tag.1 then some tag.2 else none) := by
  rw [addTag]
  split
  · rename_i present
    split
    · rename_i here
      rw [Dict.mem_keys, ← here, Option.isSome_iff_exists] at present
      obtain ⟨value, found⟩ := present
      rw [found, Option.some_or]
    · rw [Option.or_none]
  · rename_i absent
    rw [Dict.get?_set]
    split
    · rename_i here
      rw [Dict.mem_keys, ← here, Bool.not_eq_true, Option.isSome_eq_false_iff,
        Option.isNone_iff_eq_none] at absent
      rw [absent, Option.none_or]
    · rw [Option.or_none]

theorem get?_foldl_addTag (tags : List (String × PyValue)) (payload : Dict String PyValue)
    (name : String) :
    (tags.foldl addTag payload).get? name = (payload.get? name).or (tags.lookup name) := by
  induction tags generalizing payload with
  | nil => rw [List.foldl_nil, List.lookup_nil, Option.or_none]
  | cons tag rest ih =>
      rw [List.foldl_cons, ih, get?_addTag, Dict.lookup_cons_eq_ite, Option.or_assoc]
      congr 1
      split
      · rw [Option.some_or]
      · rw [Option.none_or]

/-- The names of the tags that the agent takes over among its own. -/
def takenNames : List String := ["trustlist_zone", "trustlist_role", "risk_level", "diff_id"]

section TagPayload

variable (sender : CollectorSender) (reason : String) (tags : Dict String PyValue)

/-- The texts of the agent's own tags but for those that it takes over. -/
def fixedTexts : List (String × String) :=
  [("component", "labshock_ot_gds_agent"), ("source_type", "gds_agent"),
    ("zone", sender.agentZone), ("collector_decision", "forward"), ("reason", reason),
    ("gds_control_plane", sender.controlPlaneHost), ("collector_decision_hint", "store_forward")]

def fixedTags : List (String × PyValue) :=
  (fixedTexts sender reason).map fun text => (text.1, .str text.2)

theorem mem_ownTags_iff {name : String} {value : PyValue} :
    (name, value) ∈ ownTags sender reason tags ↔ (name, value) ∈ fixedTags sender reason ∨
      name ∈ takenNames ∧ value = tagOrEmpty tags name := by
  have taken : (name, value) ∈ takenNames.map (fun name => (name, tagOrEmpty tags name)) ↔
      name ∈ takenNames ∧ value = tagOrEmpty tags name := by
    rw [List.mem_map]
    constructor
    · intro found
      obtain ⟨other, among, same⟩ := found
      obtain ⟨rfl, rfl⟩ := Prod.mk.inj same
      exact ⟨among, rfl⟩
    · intro found
      exact ⟨name, found.1, by rw [found.2]⟩
  have moved : (ownTags sender reason tags).Perm
      (fixedTags sender reason ++ takenNames.map fun name => (name, tagOrEmpty tags name)) := by
    have swapped : (takenNames.map (fun name => (name, tagOrEmpty tags name)) ++
        (fixedTags sender reason).drop 6).Perm ((fixedTags sender reason).drop 6 ++
          takenNames.map fun name => (name, tagOrEmpty tags name)) := List.perm_append_comm
    exact swapped.append_left ((fixedTags sender reason).take 6)
  rw [moved.mem_iff, List.mem_append, taken]

theorem nodup_ownTags : ((ownTags sender reason tags).map Prod.fst).Nodup := by
  have names : (ownTags sender reason tags).map Prod.fst =
      ["component", "source_type", "zone", "collector_decision", "reason", "gds_control_plane",
        "trustlist_zone", "trustlist_role", "risk_level", "diff_id",
        "collector_decision_hint"] := rfl
  rw [names]
  decide

theorem get?_tagPayload (name : String) :
    (tagPayload sender reason tags).get? name =
      ((ownTags sender reason tags).lookup name).or (tags.get? name) := by
  rw [tagPayload, get?_foldl_addTag, Dict.get?_ofList,
    Dict.lookup_reverse (nodup_ownTags sender reason tags)]
  rfl

variable {sender reason tags}

/-- What holds of all posted tags: it holds of the agent's own and of those that are not
overridden. -/
theorem forall_tagPayload_iff (holds : String → PyValue → Prop)
    (untaken : ∀ name ∈ takenNames, holds name (.str "")) :
    (∀ tag ∈ (tagPayload sender reason tags).items, holds tag.1 tag.2) ↔
      (∀ tag ∈ fixedTags sender reason, holds tag.1 tag.2) ∧
        ∀ tag ∈ tags.items, tag.1 ∉ overriddenTags → holds tag.1 tag.2 := by
  have own {name : String} {value : PyValue} :
      (ownTags sender reason tags).lookup name = some value ↔
        (name, value) ∈ fixedTags sender reason ∨
          name ∈ takenNames ∧ value = tagOrEmpty tags name :=
    (Dict.mem_iff_lookup (nodup_ownTags sender reason tags)).symm.trans
      (mem_ownTags_iff sender reason tags)
  have posted {name : String} {value : PyValue}
      (found : (tagPayload sender reason tags).get? name = some value) :
      (name, value) ∈ (tagPayload sender reason tags).items := Dict.mem_items.mpr found
  constructor
  · intro each
    refine ⟨fun tag among => each tag (posted ?_), fun tag among kept => each tag (posted ?_)⟩
    · rw [get?_tagPayload, own.mpr (.inl among), Option.some_or]
    · have given : tags.get? tag.1 = some tag.2 := Dict.mem_items.mp among
      rw [get?_tagPayload, given]
      cases found : (ownTags sender reason tags).lookup tag.1 with
      | none => rw [Option.none_or]
      | some value =>
          rw [Option.some_or]
          rcases own.mp found with fixed | ⟨-, rfl⟩
          · have overridden : (fixedTags sender reason).map Prod.fst = overriddenTags := rfl
            have name : tag.1 ∈ (fixedTags sender reason).map Prod.fst :=
              List.mem_map.mpr ⟨_, fixed, rfl⟩
            exact absurd (overridden ▸ name) kept
          · rw [tagOrEmpty, given, Option.getD_some]
  · intro ⟨fixed, given⟩ ⟨name, value⟩ among
    have found := Dict.mem_items.mp among
    rw [get?_tagPayload] at found
    have userTag (own? : (ownTags sender reason tags).lookup name = none)
        (found : tags.get? name = some value) : holds name value := by
      refine given (name, value) (Dict.mem_items.mpr found) fun overridden => ?_
      obtain ⟨fixedValue, fixed⟩ : ∃ value, (name, value) ∈ fixedTags sender reason := by
        have names : overriddenTags = (fixedTags sender reason).map Prod.fst := rfl
        obtain ⟨tag, inFixed, rfl⟩ := List.mem_map.mp (names ▸ overridden)
        exact ⟨tag.2, inFixed⟩
      rw [own.mpr (.inl fixed)] at own?
      cases own?
    cases own? : (ownTags sender reason tags).lookup name with
    | none =>
        rw [own?, Option.none_or] at found
        exact userTag own? found
    | some other =>
        rw [own?, Option.some_or] at found
        cases found
        rcases own.mp own? with fixedTag | ⟨taken, rfl⟩
        · exact fixed _ fixedTag
        · rw [tagOrEmpty]
          cases user : tags.get? name with
          | none => exact untaken name taken
          | some value =>
              have kept : ∀ name ∈ takenNames, name ∉ overriddenTags := by decide
              exact given (name, value) (Dict.mem_items.mpr user) (kept name taken)

theorem encodable_tagPayload_iff :
    (PyValue.dict (tagPayload sender reason tags).items).encodable = true ↔ Sendable tags := by
  have fixed : ∀ tag ∈ fixedTags sender reason, tag.2.encodable = true := by
    rw [fixedTags, List.forall_mem_map]
    exact fun _ _ => rfl
  have parts : (∀ tag ∈ (tagPayload sender reason tags).items, tag.2.encodable = true) ↔
      (∀ tag ∈ fixedTags sender reason, tag.2.encodable = true) ∧
        ∀ tag ∈ tags.items, tag.1 ∉ overriddenTags → tag.2.encodable = true :=
    forall_tagPayload_iff (fun _ value => value.encodable = true) fun _ _ => rfl
  rw [PyValue.encodable, PyValue.entriesEncodable_iff, parts, and_iff_right fixed]
  exact forall₂_congr fun tag _ => imp_congr_right fun _ => encodable_treated_iff false tag.2

theorem cleanIn_dict_iff {entries : List (String × PyValue)} :
    CleanIn false (.dict entries) ↔ ∀ entry ∈ entries, CleanEntry entry.1 entry.2 := by
  have kept (key : String) : ¬Dropped false key := fun dropped => Bool.false_ne_true dropped.1
  rw [cleanIn_dict_parts_iff]
  constructor
  · intro parts entry among
    obtain ⟨names, secrets, each⟩ := parts
    exact {
      name := names entry among
      secret := secrets entry among (kept _)
      value := each entry among (kept _) }
  · intro each
    exact ⟨fun entry among => (each entry among).name,
      fun entry among _ => (each entry among).secret, fun entry among _ => (each entry among).value⟩

/-- A tag of the agent's own is clean when its text is. -/
theorem cleanEntry_own {name text : String} (own : name ∈ overriddenTags ++ takenNames) :
    CleanEntry name (.str text) ↔ ¬HasPemBlock text := by
  have plain : ∀ name ∈ overriddenTags ++ takenNames,
      ¬IsSecretKey name ∧ 'B' ∉ name.toList := by decide +kernel
  constructor
  · exact fun clean => cleanIn_str_iff.mp clean.value
  · intro unmarked
    exact {
      name := fun block => (plain name own).2 block.letter_mem
      secret := fun secret => absurd secret (plain name own).1
      value := .str unmarked }

theorem clean_tags_iff {tags : Dict String PyValue} :
    Clean (PyValue.dict tags.items).toJson ↔ ∀ tag ∈ tags.items, CleanEntry tag.1 tag.2 := by
  rw [← cleanIn_dict_iff]
  exact clean_treated_iff false _

theorem clean_tagPayload_iff (unmarked : ¬HasPemBlock reason) :
    Clean (PyValue.dict (tagPayload sender reason tags).items).toJson ↔
      ¬HasPemBlock sender.agentZone ∧ ¬HasPemBlock sender.controlPlaneHost ∧
        ∀ tag ∈ tags.items, tag.1 ∉ overriddenTags → CleanEntry tag.1 tag.2 := by
  have constants : ∀ text ∈ ["labshock_ot_gds_agent", "gds_agent", "forward", "store_forward", ""],
      'B' ∉ text.toList := by decide
  have constant {text : String} (among : text ∈ ["labshock_ot_gds_agent", "gds_agent", "forward",
      "store_forward", ""]) : ¬HasPemBlock text :=
    fun block => constants text among block.letter_mem
  have parts : (∀ tag ∈ (tagPayload sender reason tags).items, CleanEntry tag.1 tag.2) ↔
      (∀ tag ∈ fixedTags sender reason, CleanEntry tag.1 tag.2) ∧
        ∀ tag ∈ tags.items, tag.1 ∉ overriddenTags → CleanEntry tag.1 tag.2 :=
    forall_tagPayload_iff CleanEntry fun name taken =>
      (cleanEntry_own (List.mem_append_right _ taken)).mpr (constant (by decide))
  have fixed : (∀ tag ∈ fixedTags sender reason, CleanEntry tag.1 tag.2) ↔
      ¬HasPemBlock sender.agentZone ∧ ¬HasPemBlock sender.controlPlaneHost := by
    have names (text : String × String) (among : text ∈ fixedTexts sender reason) :
        text.1 ∈ overriddenTags ++ takenNames := by
      have own : (fixedTexts sender reason).map Prod.fst = overriddenTags := rfl
      exact List.mem_append_left _ (own ▸ List.mem_map.mpr ⟨text, among, rfl⟩)
    rw [fixedTags, List.forall_mem_map,
      forall₂_congr fun text among => cleanEntry_own (names text among)]
    simp only [fixedTexts, List.forall_mem_cons]
    constructor
    · intro ⟨_, _, zone, _, _, host, _⟩
      exact ⟨zone, host⟩
    · intro ⟨zone, host⟩
      exact ⟨constant (by decide), constant (by decide), zone, constant (by decide), unmarked,
        host, constant (by decide), nofun⟩
  rw [← and_assoc, ← fixed, ← parts, clean_tags_iff]

end TagPayload

/-! ## The posted event -/

theorem clean_serializationFailed : Clean serializationFailed := by
  have plain : ∀ text ∈ ["error", "raw_payload_serialization_failed"], 'B' ∉ text.toList := by
    decide
  have other : ¬IsSecretKey "error" := by decide +kernel
  refine .obj ?_ ?_ ?_
  all_goals rw [List.forall_mem_singleton]
  · exact fun block => plain _ (by decide) block.letter_mem
  · exact fun secret => absurd secret other
  · exact .str fun block => plain _ (by decide) block.letter_mem

/-- The document of the raw text is clean when what is left of the raw value is, or when that has
no text. -/
theorem clean_rawDocument_iff (raw : PyValue) :
    Clean (rawDocument raw) ↔ (EncodedIn true raw → CleanIn true raw) := by
  have encoded : (sanitizePayload raw).encodable = true ↔ EncodedIn true raw :=
    encodable_treated_iff true raw
  have clean : Clean (sanitizePayload raw).toJson ↔ CleanIn true raw := clean_treated_iff true raw
  rw [rawDocument]
  split
  · rename_i known
    rw [clean, imp_iff_right (encoded.mp known)]
  · rename_i unknown
    exact iff_of_true clean_serializationFailed fun known => absurd (encoded.mpr known) unknown

theorem rawDocument_eq_obj (entries : List (String × PyValue)) :
    ∃ fields, rawDocument (.dict entries) = .obj fields := by
  rw [rawDocument]
  split
  · rw [sanitizePayload, PyValue.toJson]
    exact ⟨_, rfl⟩
  · exact ⟨_, rfl⟩

theorem hasPemBlock_orDefault {message : String} :
    HasPemBlock (orDefault message "gds-agent event") ↔ HasPemBlock message := by
  rw [orDefault]
  split
  · rename_i empty
    rw [empty]
    exact iff_of_false (fun block => absurd block.letter_mem (by decide))
      fun block => absurd block.letter_mem (by decide)
  · exact Iff.rfl

/-- A payload that is too large is reduced to one that shows no more. -/
theorem LeaksNothing.reduce {payload : CollectorEvent} (leaks : LeaksNothing payload)
    (maxRawLen : Int) : LeaksNothing (reducePayload maxRawLen payload) where
  message := leaks.message
  tags := by
    have each := clean_tags_iff.mp leaks.tags
    refine clean_tags_iff.mpr fun ⟨name, value⟩ among => ?_
    have found := Dict.mem_items.mp among
    rw [reducePayload, Dict.get?_set] at found
    split at found
    · rename_i here
      cases found
      have plain : ∀ text ∈ ["payload_truncated", "true"], 'B' ∉ text.toList := by decide
      have other : ¬IsSecretKey "payload_truncated" := by decide +kernel
      rw [here]
      exact {
        name := fun block => plain _ (by decide) block.letter_mem
        secret := fun secret => absurd secret other
        value := .str fun block => plain _ (by decide) block.letter_mem }
    · exact each (name, value) (Dict.mem_items.mpr found)
  raw := by
    obtain ⟨document, clean, shows⟩ := leaks.raw
    exact ⟨document, clean, showsPartOf_truncateText _ shows⟩

/-- What is posted of an event without secrets shows none. -/
theorem leaksNothing_of_normalize {limits : CollectorLimits} {event posted : CollectorEvent}
    {raw : PyValue} (message : ¬HasPemBlock event.message)
    (tags : Clean (PyValue.dict event.tags.items).toJson) (clean : Clean (rawDocument raw))
    (sent : normalizeForOtCollector limits event raw = some posted) : LeaksNothing posted := by
  have first : LeaksNothing (firstPayload limits event raw) := {
    message := fun block => message (hasPemBlock_orDefault.mp (hasPemBlock_truncateText block))
    tags := tags
    raw := ⟨_, clean, showsPartOf_toRawString raw limits.maxRawLen⟩ }
  unfold normalizeForOtCollector at sent
  dsimp only at sent
  split at sent
  · cases sent
  · split at sent
    · cases sent
      exact first.reduce limits.maxRawLen
    · cases sent
      exact first

/-- An event that is posted uncut shows its message, its tags and its whole raw text. -/
theorem secretless_of_uncut {event : CollectorEvent} {entries : List (String × PyValue)}
    (encoded : (PyValue.dict event.tags.items).encodable = true)
    (every : ∀ limits posted, normalizeForOtCollector limits event (.dict entries) = some posted →
      LeaksNothing posted) :
    ¬HasPemBlock event.message ∧ Clean (PyValue.dict event.tags.items).toJson ∧
      Clean (rawDocument (.dict entries)) := by
  have leaks : LeaksNothing (firstPayload ⟨0, 0, 0⟩ event (.dict entries)) := by
    refine every ⟨0, 0, (firstPayload ⟨0, 0, 0⟩ event (.dict entries)).bytes⟩ _ ?_
    unfold normalizeForOtCollector
    dsimp only
    rw [encoded, if_neg (by decide)]
    exact if_neg (lt_irrefl _)
  have message : ¬HasPemBlock (orDefault event.message "gds-agent event") := leaks.message
  obtain ⟨document, clean, shows⟩ := leaks.raw
  obtain ⟨fields, object⟩ := rawDocument_eq_obj entries
  have text : (firstPayload ⟨0, 0, 0⟩ event (.dict entries)).raw =
      String.ofList (Json.obj fields).text := by
    rw [← object]
    rfl
  rw [text] at shows
  rw [hasPemBlock_orDefault] at message
  rw [eq_of_showsPartOf shows, ← object] at clean
  exact ⟨message, leaks.tags, clean⟩

theorem encodable_of_normalize {limits : CollectorLimits} {event posted : CollectorEvent}
    {raw : PyValue} (sent : normalizeForOtCollector limits event raw = some posted) :
    (PyValue.dict event.tags.items).encodable = true := by
  unfold normalizeForOtCollector at sent
  dsimp only at sent
  split at sent
  · cases sent
  · rename_i encoded
    rwa [Bool.not_eq_true, Bool.not_eq_false'] at encoded

theorem reason_unmarked (decision : TelemetryDecision) : ¬HasPemBlock decision.reason := by
  intro block
  have letter := block.letter_mem
  cases decision <;> exact absurd letter (by decide)

section Forwarding

variable {str : PyValue → String} {zone host message : String} {raw tags : Dict String PyValue}

/-- An event is posted only with tags that can be encoded. -/
theorem postsNoSecret_of_secretless
    (secretless : Sendable tags → Secretless zone host message raw tags) :
    PostsNoSecret str zone host message raw tags := by
  intro enabled assetIp category severity limits env stamp state time draw posted sent
  unfold forwardOtCollectorEvent at sent
  dsimp only at sent
  split at sent
  · cases sent
  · split at sent
    · cases sent
    · dsimp only at sent
      have sendable : Sendable tags :=
        encodable_tagPayload_iff.mp (encodable_of_normalize sent)
      have clean := secretless sendable
      refine leaksNothing_of_normalize clean.message ?_
        ((clean_rawDocument_iff _).mpr clean.raw) sent
      exact (clean_tagPayload_iff (reason_unmarked _)).mpr ⟨clean.zone, clean.host, clean.tags⟩

/-- An environment in which every event is forwarded. -/
def forwardAll : TelemetryEnv := ⟨true, "debug_all", 0, 300, none⟩

variable (str) in
theorem telemetryDecision_forwardAll (state : TelemetryState) (event : TelemetryEvent PyValue) :
    (telemetryDecision str forwardAll state event).1 = .modeDebugAll := by
  have mode : forwardAll.policyMode = .debugAll := by decide +kernel
  have window : (decide (0 < forwardAll.dedupWindow)) = false := by decide
  unfold telemetryDecision
  dsimp only
  rw [mode, window, Bool.false_and, if_neg (by decide), if_neg nofun, if_neg Bool.false_ne_true,
    if_pos rfl]

/-- What is posted when every event is forwarded shows the secrets that an event has. -/
theorem secretless_of_postsNoSecret (posts : PostsNoSecret str zone host message raw tags)
    (sendable : Sendable tags) : Secretless zone host message raw tags := by
  let sender (limits : CollectorLimits) : CollectorSender := ⟨true, zone, "", host, limits⟩
  let made : CollectorEvent := ⟨"", "", zone, "gds_agent", "OT GDS Agent", "", "", "http", "",
    message, "", tagPayload (sender ⟨0, 0, 0⟩) TelemetryDecision.modeDebugAll.reason tags⟩
  have forwarded (limits : CollectorLimits) :
      (forwardOtCollectorEvent str (sender limits) forwardAll ⟨"", ""⟩ .initial
        ⟨0, 0, "", "", message, raw, tags⟩).2 =
        normalizeForOtCollector limits made (.dict raw.items) := by
    have allowed := telemetryDecision_forwardAll str .initial ⟨0, 0, "", "", message, raw, tags⟩
    unfold forwardOtCollectorEvent
    cases decided : telemetryDecision str forwardAll .initial
        ⟨0, 0, "", "", message, raw, tags⟩ with
    | mk decision next =>
        rw [decided] at allowed
        dsimp only at allowed
        subst allowed
        rfl
  have encoded : (PyValue.dict made.tags.items).encodable = true :=
    encodable_tagPayload_iff.mpr sendable
  obtain ⟨unmarked, shownTags, shownRaw⟩ := secretless_of_uncut encoded
    fun limits posted sent => posts true "" "" "" limits forwardAll ⟨"", ""⟩ .initial 0 0 posted
      ((forwarded limits).trans sent)
  obtain ⟨zoneClean, hostClean, tagsClean⟩ :=
    (clean_tagPayload_iff (reason_unmarked _)).mp shownTags
  exact {
    zone := zoneClean
    host := hostClean
    message := unmarked
    tags := tagsClean
    raw := (clean_rawDocument_iff _).mp shownRaw }

/-- The posted event shows no secret exactly if the event has none where the agent does not
redact, or cannot be posted. -/
theorem postsNoSecret_iff :
    PostsNoSecret str zone host message raw tags ↔
      (Sendable tags → Secretless zone host message raw tags) :=
  ⟨secretless_of_postsNoSecret, postsNoSecret_of_secretless⟩

/-- The token among the tags is posted. -/
theorem token_tag_posted :
    ¬PostsNoSecret (fun _ => "") "OT" "gds" "m" .empty (Dict.empty.set "token" (.str "s")) := by
  intro posts
  have only : (Dict.empty.set "token" (PyValue.str "s")).items = [("token", .str "s")] := rfl
  have sendable : Sendable (Dict.empty.set "token" (.str "s")) := by
    rw [Sendable, only, List.forall_mem_singleton]
    exact fun _ => .str "s"
  have tags := (secretless_of_postsNoSecret posts sendable).tags
  rw [only, List.forall_mem_singleton] at tags
  have secret : IsSecretKey "token" := by decide +kernel
  exact absurd (PyValue.str.inj ((tags (by decide)).secret secret)) (by decide)

end Forwarding

end OpcuaGds.Agent.Telemetry
