import OpcuaGds.Agent.Quarantine
import OpcuaGds.Agent.StageEvidence
import OpcuaGds.Foundation.TimestampOrder

/-! # The latest entry of a directory

The agent names most of its files by the time at which it writes them, and a stage by the id of
its plan. Where it needs the latest of them it takes the last name.
-/

namespace OpcuaGds.Agent

open Timestamp (DateTime)

/-! ## Names -/

/-- `iso_now_z`, at a moment of the UTC clock. -/
def isoNowZ (now : DateTime) : String :=
  String.ofList (PythonText.replaceAll "+00:00".toList "Z".toList 0
    (Timestamp.isoformat now .utc))

/-- `created_at.replace(':', '').replace('-', '')`. -/
def fileStamp (createdAt : String) : String :=
  String.ofList (createdAt.toList.filter fun c => c != ':' && c != '-')

/-- The directories of which a latest file is taken. -/
inductive EntryDirectory where
  | previews
  | plans
  | rollbackPreflights
  | quarantineReceipts
  | activationReceipts
  deriving DecidableEq, Repr

/-- The field that has the time. -/
def EntryDirectory.stampField : EntryDirectory → String
  | .previews => "generated_at"
  | .plans => "created_at"
  | .rollbackPreflights => "generated_at"
  | .quarantineReceipts => "created_at"
  | .activationReceipts => "created_at"

/-- The files that are written there. -/
inductive EntryKind where
  | preview
  | packagePreview
  | componentPreview (source : String)
  | activationPlan
  | packagePlan
  | rollbackPreflight
  | quarantineReceipt
  | activationReceipt
  | failureReceipt
  deriving DecidableEq, Repr

def EntryKind.directory : EntryKind → EntryDirectory
  | .preview => .previews
  | .packagePreview => .previews
  | .componentPreview _ => .previews
  | .activationPlan => .plans
  | .packagePlan => .plans
  | .rollbackPreflight => .rollbackPreflights
  | .quarantineReceipt => .quarantineReceipts
  | .activationReceipt => .activationReceipts
  | .failureReceipt => .activationReceipts

/-- What follows the id in the name. -/
def EntryKind.suffix : EntryKind → String
  | .packagePreview => "_package"
  | .componentPreview source => "_" ++ source
  | .packagePlan => "_package"
  | .failureReceipt => "_failure"
  | _ => ""

def EntryKind.fileName (kind : EntryKind) (createdAt id : String) : String :=
  fileStamp createdAt ++ "_" ++ id ++ kind.suffix ++ ".json"

theorem receiptName_eq_fileName {PrivateKey : Type} (input : QuarantineInput PrivateKey) :
    receiptName input =
      EntryKind.quarantineReceipt.fileName input.generatedAt input.receiptId := by
  have unmarked : EntryKind.quarantineReceipt.suffix = "" := rfl
  rw [receiptName, EntryKind.fileName, fileStamp, unmarked, String.append_empty]

/-! ## Selectors -/

/-- `find_latest_json_for_target`, of a directory or none. -/
def findLatestJsonForTarget (directory : Option (DirectoryListing (Option Json))) :
    Option (String × Option Json) :=
  directory.bind fun directory => directory.jsonFiles.getLast?

/-- The first readable plan with an id; a document that is no dictionary has no `get`. -/
def planWithId (planId : String) : List (String × Option Json) → Option (Option Json)
  | [] => some none
  | (_, none) :: rest => planWithId planId rest
  | (_, some payload) :: rest =>
      if payload.isObject = false then none
      else if textOf payload "plan_id" = planId then some (some payload)
      else planWithId planId rest

/-- `_find_activation_plan_for_target`. -/
def findActivationPlanForTarget (directory : Option (DirectoryListing (Option Json)))
    (planId : String) : Option (Option Json) :=
  match directory with
  | none => some none
  | some directory =>
      if planId ≠ "" then planWithId planId directory.jsonFiles
      else some (directory.jsonFiles.getLast?.bind Prod.snd)

/-- `_latest_quarantine_receipt_for_plan`, of a directory that is there. -/
def latestQuarantineReceiptForPlan (receipts : DirectoryListing QuarantineReceipt)
    (planId : String) : Option (String × QuarantineReceipt) :=
  receipts.newestFirst.find? fun file => file.2.planId = planId

theorem latestQuarantineReceipt_eq (receipts : DirectoryListing QuarantineReceipt)
    (planId : String) : latestQuarantineReceipt receipts planId =
      (latestQuarantineReceiptForPlan receipts planId).map Prod.snd := by
  rw [latestQuarantineReceipt, List.find?_map]
  rfl

/-- The loop of `_latest_activation_receipt`, with the name that becomes `_receipt_path`. -/
def latestReceiptFile (packageId planId : String) (statuses : List String) :
    List (String × Option Json) → Option (Option (String × Json))
  | [] => some none
  | (_, none) :: rest => latestReceiptFile packageId planId statuses rest
  | (name, some payload) :: rest =>
      if payload.isObject = false then none
      else if isReceiptOf packageId planId statuses payload then some (some (name, payload))
      else latestReceiptFile packageId planId statuses rest

theorem latestReceiptAmong_eq (packageId planId : String) (statuses : List String)
    (files : List (String × Option Json)) :
    latestReceiptAmong packageId planId statuses (files.map Prod.snd) =
      (latestReceiptFile packageId planId statuses files).map (Option.map Prod.snd) := by
  induction files with
  | nil => rfl
  | cons file rest ih =>
      obtain ⟨name, payload⟩ := file
      cases payload with
      | none => exact ih
      | some payload =>
          rw [List.map_cons, latestReceiptAmong, latestReceiptFile]
          split
          · rfl
          · split
            · rfl
            · exact ih

/-- `_latest_activation_receipt`. -/
def latestActivationReceipt (directory : Option (DirectoryListing (Option Json)))
    (packageId planId : String) (statuses : List String) : Option (Option (String × Json)) :=
  match directory with
  | none => some none
  | some directory => latestReceiptFile packageId planId statuses directory.newestFirst

/-! ## What the agent wrote -/

/-- A file that is named by the time in it. -/
structure WrittenEntry (Payload : Type) (stampOf : Payload → String) where
  writtenAt : DateTime
  kind : EntryKind
  id : String
  payload : Payload
  stamped : stampOf payload = isoNowZ writtenAt

section Entries

variable {Payload : Type} {stampOf : Payload → String}

def WrittenEntry.name (entry : WrittenEntry Payload stampOf) : String :=
  entry.kind.fileName (isoNowZ entry.writtenAt) entry.id

/-- The files of a directory, written at distinct instants. -/
structure WrittenEntries (directory : EntryDirectory) (Payload : Type)
    (stampOf : Payload → String) where
  entries : List (WrittenEntry Payload stampOf)
  kinds : ∀ entry ∈ entries, entry.kind.directory = directory
  instants : (entries.map fun entry => entry.writtenAt.micros).Nodup

/-- A directory without files. -/
def WrittenEntries.none {directory : EntryDirectory} :
    WrittenEntries directory Payload stampOf where
  entries := []
  kinds := fun _ among => absurd among List.not_mem_nil
  instants := List.nodup_nil

/-- The directory, of which a reader finds what is made of the payloads. -/
def WrittenEntries.listing {directory : EntryDirectory} {Content : Type}
    (written : WrittenEntries directory Payload stampOf) (content : Payload → Content) :
    DirectoryListing Content :=
  written.entries.map fun entry => (entry.name, content entry.payload)

end Entries

/-- The fields of a document. -/
abbrev DocumentFields := List (String × Json)

/-- Documents with their time in the field of the directory. -/
abbrev WrittenDocuments (directory : EntryDirectory) :=
  WrittenEntries directory DocumentFields fun fields => textOf (.obj fields) directory.stampField

def WrittenEntries.documents {directory : EntryDirectory} {stampOf : DocumentFields → String}
    (written : WrittenEntries directory DocumentFields stampOf) : DirectoryListing (Option Json) :=
  written.listing fun fields => some (.obj fields)

/-- A stage, which is a directory under the id of its plan. -/
structure WrittenStage where
  writtenAt : DateTime
  planId : String
  validation : List (String × Json)
  checksums : Json
  shadow : Option FileTree

/-- The stages of a target, each name once, written at distinct instants. -/
structure WrittenStages where
  entries : List WrittenStage
  instants : (entries.map fun stage => stage.writtenAt.micros).Nodup
  names : (entries.map WrittenStage.planId).Nodup

def WrittenStage.bundle (stage : WrittenStage) : StageBundle :=
  ⟨some (some (.obj stage.validation)), some (some stage.checksums), stage.shadow⟩

def WrittenStage.found (stage : WrittenStage) : FoundStage :=
  ⟨stage.planId, .obj stage.validation, stage.checksums, stage.shadow⟩

def WrittenStages.directory (written : WrittenStages) : DirectoryListing StageBundle :=
  written.entries.map fun stage => (stage.planId, stage.bundle)

/-- What the agent wrote about one target. -/
structure AgentStore where
  previews : WrittenDocuments .previews
  rollbackPreflights : WrittenDocuments .rollbackPreflights
  plans : WrittenDocuments .plans
  stages : WrittenStages
  quarantineReceipts :
    WrittenEntries .quarantineReceipts QuarantineReceipt QuarantineReceipt.createdAt
  activationReceipts : WrittenDocuments .activationReceipts

end OpcuaGds.Agent
