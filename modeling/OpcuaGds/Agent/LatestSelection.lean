import OpcuaGds.Agent.LatestEntry

/-! # When the last name is the latest entry

A stamp leaves out a fraction of a second that is zero, so that the name of such a moment sorts
after the names of the rest of its second; and the id of a plan says nothing about its time.
-/

namespace OpcuaGds.Agent

open Timestamp (DateTime)

/-! ## Statements -/

/-- The entry of a kind that was written at the latest instant. -/
structure IsLatest {Entry : Type} (writtenAt : Entry → DateTime) (entries : List Entry)
    (kind : Entry → Prop) (entry : Entry) : Prop where
  among : entry ∈ entries
  isKind : kind entry
  latest : ∀ other ∈ entries, kind other →
    (writtenAt other).micros ≤ (writtenAt entry).micros

section Statements

variable (store : AgentStore) (packageId planId : String) (statuses : List String)

/-- Every selector finds the matching entry that was written at the latest instant. -/
structure SelectsLatest : Prop where
  preview : ∀ entry, IsLatest WrittenEntry.writtenAt store.previews.entries (fun _ => True) entry →
    findLatestJsonForTarget (some store.previews.documents) =
      some (entry.name, some (.obj entry.payload))
  rollbackPreflight : ∀ entry,
    IsLatest WrittenEntry.writtenAt store.rollbackPreflights.entries (fun _ => True) entry →
      findLatestJsonForTarget (some store.rollbackPreflights.documents) =
        some (entry.name, some (.obj entry.payload))
  plan : ∀ entry, IsLatest WrittenEntry.writtenAt store.plans.entries
      (fun entry => planId = "" ∨ textOf (.obj entry.payload) "plan_id" = planId) entry →
    findActivationPlanForTarget (some store.plans.documents) planId =
      some (some (.obj entry.payload))
  stage : ∀ stage, IsLatest WrittenStage.writtenAt store.stages.entries
      (fun stage => textOf (.obj stage.validation) "package_id" = packageId) stage →
    findPackageStageBundle (some store.stages.directory) packageId "" = some stage.found
  quarantineReceipt : ∀ entry, IsLatest WrittenEntry.writtenAt store.quarantineReceipts.entries
      (fun entry => entry.payload.planId = planId) entry →
    latestQuarantineReceiptForPlan (store.quarantineReceipts.listing id) planId =
      some (entry.name, entry.payload)
  activationReceipt : ∀ entry, IsLatest WrittenEntry.writtenAt store.activationReceipts.entries
      (fun entry => isReceiptOf packageId planId statuses (.obj entry.payload) = true) entry →
    latestActivationReceipt (some store.activationReceipts.documents) packageId planId statuses =
      some (some (entry.name, .obj entry.payload))

section Clear

variable {Payload : Type} {stampOf : Payload → String}
  (entries : List (WrittenEntry Payload stampOf)) (kind : WrittenEntry Payload stampOf → Prop)

/-- No other entry of a kind is of the first microsecond of the second in which the latest one of
the kind was written. -/
def SecondStartClear : Prop :=
  ∀ entry, IsLatest WrittenEntry.writtenAt entries kind entry → ∀ other ∈ entries, kind other →
    other.writtenAt.secondNumber = entry.writtenAt.secondNumber →
      other.writtenAt.microsecond = 0 → other = entry

/-- Every other entry of a kind is of that microsecond. -/
def OnlySecondStart : Prop :=
  ∀ entry, IsLatest WrittenEntry.writtenAt entries kind entry → ∀ other ∈ entries, kind other →
    other = entry ∨ other.writtenAt.secondNumber = entry.writtenAt.secondNumber ∧
      other.writtenAt.microsecond = 0

end Clear

/-- The names are in the order that the selectors take them to be in. -/
structure NamesInOrder : Prop where
  previews : SecondStartClear store.previews.entries fun _ => True
  rollbackPreflights : SecondStartClear store.rollbackPreflights.entries fun _ => True
  plans : planId = "" → SecondStartClear store.plans.entries fun _ => True
  plansWithId : planId ≠ "" →
    OnlySecondStart store.plans.entries fun entry => textOf (.obj entry.payload) "plan_id" = planId
  stages : ∀ stage, IsLatest WrittenStage.writtenAt store.stages.entries
      (fun stage => textOf (.obj stage.validation) "package_id" = packageId) stage →
    ∀ other ∈ store.stages.entries, textOf (.obj other.validation) "package_id" = packageId →
      other.planId ≤ stage.planId
  quarantineReceipts : SecondStartClear store.quarantineReceipts.entries fun entry =>
    entry.payload.planId = planId
  activationReceipts : SecondStartClear store.activationReceipts.entries fun entry =>
    isReceiptOf packageId planId statuses (.obj entry.payload) = true

end Statements

/-! ## The order of names -/

section Names

variable {Payload : Type} {stampOf : Payload → String} {directory : EntryDirectory}
  {entry other : WrittenEntry Payload stampOf} {written : WrittenEntries directory Payload stampOf}

theorem fileStamp_isoNowZ (now : DateTime) :
    fileStamp (isoNowZ now) = String.ofList now.stampText := by
  have text : (isoNowZ now).toList = (now.dateText ++ 'T' :: now.timeText) ++ "Z".toList :=
    Gds.toList_toRfc3339Utc now
  rw [fileStamp, text, List.append_assoc, List.cons_append]
  exact congrArg String.ofList (Timestamp.stampText_eq now)

/-- A name starts with the stamp of its moment. -/
theorem toList_name (entry : WrittenEntry Payload stampOf) :
    entry.name.toList = entry.writtenAt.stampText ++
      ("_".toList ++ (entry.id.toList ++ (entry.kind.suffix.toList ++ ".json".toList))) := by
  rw [WrittenEntry.name, EntryKind.fileName, fileStamp_isoNowZ, String.toList_append,
    String.toList_append, String.toList_append, String.toList_append, String.toList_ofList,
    List.append_assoc, List.append_assoc, List.append_assoc]

theorem name_lt_iff (apart : entry.writtenAt.micros ≠ other.writtenAt.micros) :
    entry.name < other.name ↔ entry.writtenAt.StampBefore other.writtenAt := by
  rw [String.lt_iff_toList_lt, toList_name, toList_name, Timestamp.stampText_append_lt_iff apart]

theorem isJsonName_name (entry : WrittenEntry Payload stampOf) :
    DirectoryListing.isJsonName entry.name = true := by
  rw [DirectoryListing.isJsonName, List.isSuffixOf_iff_suffix, toList_name, ← List.append_assoc,
    ← List.append_assoc, ← List.append_assoc]
  exact List.suffix_append _ _

theorem eq_of_micros_eq (among : entry ∈ written.entries) (otherAmong : other ∈ written.entries)
    (same : entry.writtenAt.micros = other.writtenAt.micros) : entry = other :=
  List.inj_on_of_nodup_map written.instants among otherAmong same

/-- Entries of different instants have different names. -/
theorem eq_of_name_eq (among : entry ∈ written.entries) (otherAmong : other ∈ written.entries)
    (same : entry.name = other.name) : entry = other := by
  by_contra apart
  have instants : entry.writtenAt.micros ≠ other.writtenAt.micros :=
    fun equal => apart (eq_of_micros_eq among otherAmong equal)
  have ordered : entry.writtenAt.StampBefore other.writtenAt ∨
      other.writtenAt.StampBefore entry.writtenAt := by
    rw [DateTime.micros_eq, DateTime.micros_eq] at instants
    unfold DateTime.StampBefore
    omega
  rcases ordered with before | after
  · exact absurd same (ne_of_lt ((name_lt_iff instants).mpr before))
  · exact absurd same.symm (ne_of_lt ((name_lt_iff instants.symm).mpr after))

/-- Different entries have different payloads, as they have different times. -/
theorem eq_of_payload_eq (among : entry ∈ written.entries) (otherAmong : other ∈ written.entries)
    (same : entry.payload = other.payload) : entry = other := by
  by_contra apart
  have instants : entry.writtenAt.micros ≠ other.writtenAt.micros :=
    fun equal => apart (eq_of_micros_eq among otherAmong equal)
  have times : isoNowZ entry.writtenAt = isoNowZ other.writtenAt :=
    entry.stamped.symm.trans ((congrArg stampOf same).trans other.stamped)
  have stamps : entry.writtenAt.stampText = other.writtenAt.stampText := by
    rw [← String.ofList_inj, ← fileStamp_isoNowZ, ← fileStamp_isoNowZ, times]
  have neither : ¬entry.writtenAt.StampBefore other.writtenAt ∧
      ¬other.writtenAt.StampBefore entry.writtenAt := by
    rw [← Timestamp.stampText_append_lt_iff instants [] [],
      ← Timestamp.stampText_append_lt_iff instants.symm [] [], stamps]
    exact ⟨lt_irrefl _, lt_irrefl _⟩
  rw [DateTime.micros_eq, DateTime.micros_eq] at instants
  unfold DateTime.StampBefore at neither
  omega

variable {kind : WrittenEntry Payload stampOf → Prop}

/-- The latest entry of a kind has the last name of the kind where no other is at the start of its
second. -/
theorem names_le_iff (latest : IsLatest WrittenEntry.writtenAt written.entries kind entry) :
    (∀ other ∈ written.entries, kind other → other.name ≤ entry.name) ↔
      ∀ other ∈ written.entries, kind other →
        other.writtenAt.secondNumber = entry.writtenAt.secondNumber →
          other.writtenAt.microsecond = 0 → other = entry := by
  refine forall₃_congr fun other among isKind => ?_
  have before := latest.latest other among isKind
  by_cases same : other = entry
  · exact iff_of_true (same ▸ le_rfl) fun _ _ => same
  · have apart : entry.writtenAt.micros ≠ other.writtenAt.micros :=
      fun equal => same (eq_of_micros_eq among latest.among equal.symm)
    rw [← not_lt, name_lt_iff apart]
    rw [DateTime.micros_eq, DateTime.micros_eq] at before apart
    have small := entry.writtenAt.validTime.2.2.2
    have otherSmall := other.writtenAt.validTime.2.2.2
    unfold DateTime.StampBefore
    constructor
    · intro notAfter sameSecond start
      omega
    · intro clear after
      exact same (clear (by omega) (by omega))

/-- It has the first name of the kind where every other is at the start of its second. -/
theorem le_names_iff (latest : IsLatest WrittenEntry.writtenAt written.entries kind entry) :
    (∀ other ∈ written.entries, kind other → entry.name ≤ other.name) ↔
      ∀ other ∈ written.entries, kind other →
        other = entry ∨ other.writtenAt.secondNumber = entry.writtenAt.secondNumber ∧
          other.writtenAt.microsecond = 0 := by
  refine forall₃_congr fun other among isKind => ?_
  have before := latest.latest other among isKind
  by_cases same : other = entry
  · exact iff_of_true (same ▸ le_rfl) (.inl same)
  · have apart : other.writtenAt.micros ≠ entry.writtenAt.micros :=
      fun equal => same (eq_of_micros_eq among latest.among equal)
    rw [← not_lt, name_lt_iff apart, or_iff_right same]
    rw [DateTime.micros_eq, DateTime.micros_eq] at before apart
    have small := entry.writtenAt.validTime.2.2.2
    have otherSmall := other.writtenAt.validTime.2.2.2
    unfold DateTime.StampBefore
    omega

/-! ## What is found -/

variable {Content : Type} {content : Payload → Content}

theorem mem_newestFirst_listing {file : String × Content} :
    file ∈ (written.listing content).newestFirst ↔
      ∃ entry ∈ written.entries, (entry.name, content entry.payload) = file := by
  rw [DirectoryListing.mem_newestFirst, WrittenEntries.listing, List.mem_map]
  refine and_iff_left_of_imp fun made => ?_
  obtain ⟨entry, -, rfl⟩ := made
  exact isJsonName_name entry

theorem mem_jsonFiles_listing {file : String × Content} :
    file ∈ (written.listing content).jsonFiles ↔
      ∃ entry ∈ written.entries, (entry.name, content entry.payload) = file := by
  rw [DirectoryListing.mem_jsonFiles, WrittenEntries.listing, List.mem_map]
  refine and_iff_left_of_imp fun made => ?_
  obtain ⟨entry, -, rfl⟩ := made
  exact isJsonName_name entry

/-- The files of a directory, sorted by name. -/
theorem find?_files_iff (before : String → String → Prop) {files : List (String × Content)}
    (sorted : files.Pairwise fun left right => before left.1 right.1)
    (reflexive : ∀ name, before name name)
    (antisymmetric : ∀ left right, before left right → before right left → left = right)
    (members : ∀ file, file ∈ files ↔
      ∃ entry ∈ written.entries, (entry.name, content entry.payload) = file)
    {accepts : String × Content → Bool}
    (accepts_iff : ∀ entry : WrittenEntry Payload stampOf,
      accepts (entry.name, content entry.payload) = true ↔ kind entry)
    (among : entry ∈ written.entries) (isKind : kind entry) :
    files.find? accepts = some (entry.name, content entry.payload) ↔
      ∀ other ∈ written.entries, kind other → before entry.name other.name := by
  have single : ∀ left ∈ files, ∀ right ∈ files, before left.1 right.1 → before right.1 left.1 →
      left = right := by
    intro left inLeft right inRight first second
    obtain ⟨leftEntry, leftAmong, rfl⟩ := (members left).mp inLeft
    obtain ⟨rightEntry, rightAmong, rfl⟩ := (members right).mp inRight
    rw [eq_of_name_eq leftAmong rightAmong (antisymmetric _ _ first second)]
  have least := DirectoryListing.find?_eq_some_iff_of_pairwise sorted
    (fun file => reflexive file.1) single accepts (entry.name, content entry.payload)
  constructor
  · intro found other otherAmong otherKind
    have inFiles : (other.name, content other.payload) ∈ files :=
      (members _).mpr ⟨other, otherAmong, rfl⟩
    exact (least.mp found).2.2 (other.name, content other.payload) inFiles
      ((accepts_iff other).mpr otherKind)
  · intro leads
    have inFiles : (entry.name, content entry.payload) ∈ files :=
      (members _).mpr ⟨entry, among, rfl⟩
    refine least.mpr ⟨inFiles, (accepts_iff entry).mpr isKind, fun file inFiles accepted => ?_⟩
    obtain ⟨other, otherAmong, rfl⟩ := (members file).mp inFiles
    exact leads other otherAmong ((accepts_iff other).mp accepted)

theorem find?_true {Entry : Type} (entries : List Entry) :
    entries.find? (fun _ => true) = entries.head? := by
  cases entries <;> rfl

/-- The newest file of a kind is the latest one where no other starts its second. -/
theorem find?_newestFirst_iff (content : Payload → Content) (accepts : String × Content → Bool)
    (accepts_iff : ∀ entry : WrittenEntry Payload stampOf,
      accepts (entry.name, content entry.payload) = true ↔ kind entry) :
    (∀ entry, IsLatest WrittenEntry.writtenAt written.entries kind entry →
      (written.listing content).newestFirst.find? accepts =
        some (entry.name, content entry.payload)) ↔ SecondStartClear written.entries kind := by
  refine forall₂_congr fun entry latest => ?_
  rw [← names_le_iff latest]
  exact find?_files_iff (fun left right => right ≤ left)
    (DirectoryListing.pairwise_newestFirst _) (fun name => le_rfl)
    (fun left right first second => le_antisymm second first)
    (fun file => mem_newestFirst_listing) accepts_iff latest.among latest.isKind

/-- The last file is the latest one where no other starts its second. -/
theorem getLast?_jsonFiles_iff :
    (∀ entry, IsLatest WrittenEntry.writtenAt written.entries (fun _ => True) entry →
      (written.listing content).jsonFiles.getLast? = some (entry.name, content entry.payload)) ↔
      SecondStartClear written.entries fun _ => True := by
  refine forall₂_congr fun entry latest => ?_
  rw [← names_le_iff latest, ← List.head?_reverse, ← find?_true]
  refine find?_files_iff (fun left right => right ≤ left) ?_ (fun name => le_rfl)
    (fun left right first second => le_antisymm second first) (fun file => ?_)
    (fun entry => iff_of_true rfl trivial) latest.among trivial
  · exact List.pairwise_reverse.mpr (DirectoryListing.pairwise_jsonFiles _)
  · rw [List.mem_reverse, mem_jsonFiles_listing]

/-- The first file of a kind is the latest one where every other starts its second. -/
theorem find?_jsonFiles_iff (content : Payload → Content) (accepts : String × Content → Bool)
    (accepts_iff : ∀ entry : WrittenEntry Payload stampOf,
      accepts (entry.name, content entry.payload) = true ↔ kind entry) :
    (∀ entry, IsLatest WrittenEntry.writtenAt written.entries kind entry →
      (written.listing content).jsonFiles.find? accepts =
        some (entry.name, content entry.payload)) ↔ OnlySecondStart written.entries kind := by
  refine forall₂_congr fun entry latest => ?_
  rw [← le_names_iff latest]
  exact find?_files_iff (fun left right => left ≤ right)
    (DirectoryListing.pairwise_jsonFiles _) (fun name => le_rfl)
    (fun left right first second => le_antisymm first second)
    (fun file => mem_jsonFiles_listing) accepts_iff latest.among latest.isKind

end Names

/-! ## The selectors -/

section Selectors

variable {files : List (String × Option Json)}

theorem planWithId_eq {planId : String}
    (objects : ∀ file ∈ files, ∃ fields, file.2 = some (.obj fields)) :
    planWithId planId files = some ((files.find? fun file =>
      file.2.any fun payload => textOf payload "plan_id" = planId).bind Prod.snd) := by
  induction files with
  | nil => rfl
  | cons file rest ih =>
      obtain ⟨name, payload⟩ := file
      obtain ⟨fields, rfl⟩ := objects _ List.mem_cons_self
      have later := ih fun file among => objects file (List.mem_cons_of_mem _ among)
      rw [planWithId, if_neg (by exact nofun), List.find?_cons, Option.any_some]
      by_cases here : textOf (.obj fields) "plan_id" = planId
      · rw [if_pos here, decide_eq_true here]
        rfl
      · rw [if_neg here, decide_eq_false here]
        exact later

theorem latestReceiptFile_eq {packageId planId : String} {statuses : List String}
    (objects : ∀ file ∈ files, ∃ fields, file.2 = some (.obj fields)) :
    latestReceiptFile packageId planId statuses files = some ((files.find? fun file =>
      file.2.any (isReceiptOf packageId planId statuses)).bind fun file =>
        file.2.map fun payload => (file.1, payload)) := by
  induction files with
  | nil => rfl
  | cons file rest ih =>
      obtain ⟨name, payload⟩ := file
      obtain ⟨fields, rfl⟩ := objects _ List.mem_cons_self
      have later := ih fun file among => objects file (List.mem_cons_of_mem _ among)
      have readable : ¬ (Json.obj fields).isObject = false := Bool.false_ne_true.symm
      rw [latestReceiptFile, if_neg readable, List.find?_cons, Option.any_some]
      cases isReceiptOf packageId planId statuses (.obj fields) with
      | true => rfl
      | false => exact later

theorem firstStageBundle_eq {packageId : String} (stages : List WrittenStage) :
    firstStageBundle packageId (stages.map fun stage => (stage.planId, stage.bundle)) =
      (stages.find? fun stage => textOf (.obj stage.validation) "package_id" = packageId).map
        WrittenStage.found := by
  induction stages with
  | nil => rfl
  | cons stage rest ih =>
      rw [List.map_cons, List.find?_cons]
      by_cases here : textOf (.obj stage.validation) "package_id" = packageId
      · rw [decide_eq_true here]
        exact if_pos here
      · rw [decide_eq_false here]
        exact (if_neg here).trans ih

variable {directory : EntryDirectory} {written : WrittenDocuments directory}

theorem objects_jsonFiles (file : String × Option Json)
    (among : file ∈ written.documents.jsonFiles) : ∃ fields, file.2 = some (.obj fields) := by
  obtain ⟨entry, -, rfl⟩ := mem_jsonFiles_listing.mp among
  exact ⟨entry.payload, rfl⟩

theorem objects_newestFirst (file : String × Option Json)
    (among : file ∈ written.documents.newestFirst) : ∃ fields, file.2 = some (.obj fields) := by
  obtain ⟨entry, -, rfl⟩ := mem_newestFirst_listing.mp among
  exact ⟨entry.payload, rfl⟩

/-- The payload of a plan tells which file it is from. -/
theorem bind_snd_eq_some_iff {found : Option (String × Option Json)}
    {entry : WrittenEntry DocumentFields fun fields => textOf (.obj fields) directory.stampField}
    (among : entry ∈ written.entries)
    (fromFiles : ∀ file, found = some file → file ∈ written.documents.jsonFiles) :
    found.bind Prod.snd = some (.obj entry.payload) ↔
      found = some (entry.name, some (.obj entry.payload)) := by
  constructor
  · intro read
    obtain ⟨file, isFound, same⟩ := Option.bind_eq_some_iff.mp read
    obtain ⟨other, otherAmong, rfl⟩ := mem_jsonFiles_listing.mp (fromFiles file isFound)
    have payloads : other.payload = entry.payload := Json.obj.inj (Option.some.inj same)
    rw [isFound, eq_of_payload_eq otherAmong among payloads]
  · intro isFound
    rw [isFound]
    rfl

theorem plan_iff {planId : String} :
    (∀ entry, IsLatest WrittenEntry.writtenAt written.entries
        (fun entry => planId = "" ∨ textOf (.obj entry.payload) "plan_id" = planId) entry →
      findActivationPlanForTarget (some written.documents) planId =
        some (some (.obj entry.payload))) ↔
      (planId = "" → SecondStartClear written.entries fun _ => True) ∧
      (planId ≠ "" → OnlySecondStart written.entries fun entry =>
        textOf (.obj entry.payload) "plan_id" = planId) := by
  by_cases without : planId = ""
  · have any : (fun entry : WrittenEntry DocumentFields fun fields =>
        textOf (.obj fields) directory.stampField =>
          planId = "" ∨ textOf (.obj entry.payload) "plan_id" = planId) = fun _ => True := by
      funext entry
      exact eq_true (.inl without)
    rw [any, and_iff_left fun named => absurd without named, imp_iff_right without,
      ← getLast?_jsonFiles_iff]
    refine forall₂_congr fun entry latest => ?_
    rw [findActivationPlanForTarget, if_neg (not_not_intro without), Option.some.injEq]
    exact bind_snd_eq_some_iff latest.among fun file found => List.mem_of_getLast? found
  · have any : (fun entry : WrittenEntry DocumentFields fun fields =>
        textOf (.obj fields) directory.stampField =>
          planId = "" ∨ textOf (.obj entry.payload) "plan_id" = planId) =
        fun entry => textOf (.obj entry.payload) "plan_id" = planId := by
      funext entry
      exact propext (or_iff_right without)
    rw [any, and_iff_right fun empty => absurd empty without, imp_iff_right without]
    refine Iff.trans ?_ (find?_jsonFiles_iff (fun fields => some (.obj fields))
      (fun file => file.2.any fun payload => textOf payload "plan_id" = planId)
      fun entry => by rw [Option.any_some, decide_eq_true_iff])
    refine forall₂_congr fun entry latest => ?_
    rw [findActivationPlanForTarget, if_pos without, planWithId_eq objects_jsonFiles,
      Option.some.injEq]
    exact bind_snd_eq_some_iff latest.among fun file found => List.mem_of_find?_eq_some found

theorem activationReceipt_iff {packageId planId : String} {statuses : List String} :
    (∀ entry, IsLatest WrittenEntry.writtenAt written.entries
        (fun entry => isReceiptOf packageId planId statuses (.obj entry.payload) = true) entry →
      latestActivationReceipt (some written.documents) packageId planId statuses =
        some (some (entry.name, .obj entry.payload))) ↔
      SecondStartClear written.entries fun entry =>
        isReceiptOf packageId planId statuses (.obj entry.payload) = true := by
  refine Iff.trans ?_ (find?_newestFirst_iff (fun fields => some (.obj fields))
    (fun file => file.2.any (isReceiptOf packageId planId statuses)) fun entry => Iff.rfl)
  refine forall₂_congr fun entry latest => ?_
  rw [latestActivationReceipt, latestReceiptFile_eq objects_newestFirst, Option.some.injEq]
  constructor
  · intro read
    obtain ⟨⟨name, payload⟩, found, same⟩ := Option.bind_eq_some_iff.mp read
    obtain ⟨document, isPayload, pair⟩ := Option.map_eq_some_iff.mp same
    obtain ⟨sameName, sameDocument⟩ := Prod.mk.inj pair
    have whole : (name, payload) = (entry.name, some (.obj entry.payload)) :=
      Prod.ext sameName (isPayload.trans (congrArg some sameDocument))
    exact whole ▸ found
  · intro found
    exact Option.bind_eq_some_iff.mpr ⟨_, found, rfl⟩

theorem stage_iff {packageId : String} {stages : WrittenStages} :
    (∀ stage, IsLatest WrittenStage.writtenAt stages.entries
        (fun stage => textOf (.obj stage.validation) "package_id" = packageId) stage →
      findPackageStageBundle (some stages.directory) packageId "" = some stage.found) ↔
      ∀ stage, IsLatest WrittenStage.writtenAt stages.entries
        (fun stage => textOf (.obj stage.validation) "package_id" = packageId) stage →
      ∀ other ∈ stages.entries, textOf (.obj other.validation) "package_id" = packageId →
        other.planId ≤ stage.planId := by
  refine forall₂_congr fun stage latest => ?_
  have sorts : stages.directory.insertionSort (fun left right => right.1 ≤ left.1) =
      (stages.entries.insertionSort fun left right => right.planId ≤ left.planId).map
        fun stage => (stage.planId, stage.bundle) := by
    rw [WrittenStages.directory]
    exact (List.map_insertionSort (fun left right : WrittenStage => right.planId ≤ left.planId)
      (fun left right : String × StageBundle => right.1 ≤ left.1)
      (fun stage => (stage.planId, stage.bundle)) stages.entries fun _ _ _ _ => Iff.rfl).symm
  have total : Std.Total fun left right : WrittenStage => right.planId ≤ left.planId :=
    ⟨fun left right => le_total right.planId left.planId⟩
  have trans : IsTrans WrittenStage fun left right => right.planId ≤ left.planId :=
    ⟨fun _ _ _ first second => le_trans second first⟩
  have byName : ∀ left ∈ stages.entries, ∀ right ∈ stages.entries, left.planId = right.planId →
      left = right := fun left inLeft right inRight =>
    List.inj_on_of_nodup_map stages.names inLeft inRight
  have single : ∀ left ∈ stages.entries.insertionSort fun left right => right.planId ≤ left.planId,
      ∀ right ∈ stages.entries.insertionSort fun left right => right.planId ≤ left.planId,
        right.planId ≤ left.planId → left.planId ≤ right.planId → left = right := by
    intro left inLeft right inRight first second
    rw [List.mem_insertionSort] at inLeft inRight
    exact byName left inLeft right inRight (le_antisymm second first)
  have least := DirectoryListing.find?_eq_some_iff_of_pairwise
    (List.pairwise_insertionSort (fun left right : WrittenStage => right.planId ≤ left.planId)
      stages.entries) (fun stage => le_rfl) single
    (fun stage => textOf (.obj stage.validation) "package_id" = packageId) stage
  rw [findPackageStageBundle, Option.bind_eq_bind, Option.bind_some, if_pos rfl, sorts,
    firstStageBundle_eq]
  constructor
  · intro read other among isKind
    obtain ⟨found, isFound, same⟩ := Option.map_eq_some_iff.mp read
    have inside : found ∈ stages.entries :=
      (List.mem_insertionSort _).mp (List.mem_of_find?_eq_some isFound)
    rw [byName found inside stage latest.among (congrArg FoundStage.name same)] at isFound
    exact (least.mp isFound).2.2 other ((List.mem_insertionSort _).mpr among)
      (decide_eq_true isKind)
  · intro leads
    have isFound := least.mpr ⟨(List.mem_insertionSort _).mpr latest.among,
      decide_eq_true latest.isKind, fun other among isKind =>
        leads other ((List.mem_insertionSort _).mp among) (of_decide_eq_true isKind)⟩
    rw [isFound, Option.map_some]

end Selectors

/-- The selectors find the latest entries exactly when the names are in the order of the
instants. -/
theorem selects_latest_iff (store : AgentStore) (packageId planId : String)
    (statuses : List String) :
    SelectsLatest store packageId planId statuses ↔
      NamesInOrder store packageId planId statuses := by
  constructor
  · intro selects
    obtain ⟨plans, plansWithId⟩ := plan_iff.mp selects.plan
    exact {
      previews := getLast?_jsonFiles_iff.mp selects.preview
      rollbackPreflights := getLast?_jsonFiles_iff.mp selects.rollbackPreflight
      plans := plans
      plansWithId := plansWithId
      stages := stage_iff.mp selects.stage
      quarantineReceipts := (find?_newestFirst_iff id
        (fun file : String × QuarantineReceipt => file.2.planId = planId)
          fun entry => decide_eq_true_iff).mp
          selects.quarantineReceipt
      activationReceipts := activationReceipt_iff.mp selects.activationReceipt }
  · intro order
    exact {
      preview := getLast?_jsonFiles_iff.mpr order.previews
      rollbackPreflight := getLast?_jsonFiles_iff.mpr order.rollbackPreflights
      plan := plan_iff.mpr ⟨order.plans, order.plansWithId⟩
      stage := stage_iff.mpr order.stages
      quarantineReceipt := (find?_newestFirst_iff id
        (fun file : String × QuarantineReceipt => file.2.planId = planId)
          fun entry => decide_eq_true_iff).mpr
          order.quarantineReceipts
      activationReceipt := activationReceipt_iff.mpr order.activationReceipts }

/-- A second of one morning. -/
def morningSecond (second : Nat) (valid : second < 60) : DateTime where
  year := 2026
  month := 7
  day := 21
  hour := 8
  minute := 0
  second := second
  microsecond := 5
  validDate := by decide
  validTime := ⟨by decide, by decide, valid, by decide⟩

theorem micros_morningSecond_lt {second later : Nat} (valid : second < 60)
    (laterValid : later < 60) (before : second < later) :
    (morningSecond second valid).micros < (morningSecond later laterValid).micros := by
  have sameDay : (morningSecond second valid).ordinal = (morningSecond later laterValid).ordinal :=
    rfl
  rw [DateTime.micros, DateTime.micros, sameDay]
  generalize (morningSecond later laterValid).ordinal = day
  dsimp only [morningSecond]
  omega

def earlierStage : WrittenStage where
  writtenAt := morningSecond 1 (by decide)
  planId := "b"
  validation := [("package_id", .str "p")]
  checksums := .null
  shadow := none

def laterStage : WrittenStage where
  writtenAt := morningSecond 2 (by decide)
  planId := "a"
  validation := [("package_id", .str "p")]
  checksums := .null
  shadow := none

theorem stages_in_order : earlierStage.writtenAt.micros < laterStage.writtenAt.micros :=
  micros_morningSecond_lt (by decide) (by decide) (by decide)

/-- A package that is staged a second time. -/
def stagedTwice : AgentStore where
  previews := .none
  rollbackPreflights := .none
  plans := .none
  stages := {
    entries := [earlierStage, laterStage]
    instants := List.nodup_cons.mpr
      ⟨fun among => absurd (List.mem_singleton.mp among) (ne_of_lt stages_in_order),
        List.nodup_singleton _⟩
    names := by decide }
  quarantineReceipts := .none
  activationReceipts := .none

/-- The stage of the plan with the greater id is taken, which is the earlier one. -/
theorem earlier_stage_selected : ¬SelectsLatest stagedTwice "p" "" [] := by
  intro selects
  have earlierAmong : earlierStage ∈ stagedTwice.stages.entries := List.mem_cons_self
  have laterAmong : laterStage ∈ stagedTwice.stages.entries :=
    List.mem_cons_of_mem _ List.mem_cons_self
  have latest : IsLatest WrittenStage.writtenAt stagedTwice.stages.entries
      (fun stage => textOf (.obj stage.validation) "package_id" = "p") laterStage := by
    refine ⟨laterAmong, rfl, fun other among _ => ?_⟩
    rcases List.mem_cons.mp among with rfl | among
    · exact Nat.le_of_lt stages_in_order
    · rw [List.mem_singleton.mp among]
  have order := stage_iff.mp selects.stage laterStage latest earlierStage earlierAmong rfl
  exact absurd order (by decide)

end OpcuaGds.Agent
