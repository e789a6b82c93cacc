import OpcuaGds.Agent.RuntimePaths
import Mathlib.Data.List.Dedup
import Mathlib.Data.List.Lex
import Mathlib.Data.List.Sort

/-! # The comparison of a runtime with a stage

`_compare_runtime_to_stage` sorts the staged paths and the listed runtime files into what an
activation is to add, replace, remove and preserve.
-/

namespace OpcuaGds.Agent

/-- An item of a runtime listing, with the subject of its certificate. -/
structure RuntimeEntry where
  relativePath : String
  sha256 : Option String
  type : Option String
  subject : Option String

def RuntimeEntry.empty : RuntimeEntry where
  relativePath := ""
  sha256 := none
  type := none
  subject := none

inductive EntryClass where
  | engineeringTool
  | runtimeLocal
  | transitionalGateway
  | unknownManual
  deriving DecidableEq, Repr

def EntryClass.name : EntryClass → String
  | .engineeringTool => "engineering_tool"
  | .runtimeLocal => "runtime_local"
  | .transitionalGateway => "transitional_gateway"
  | .unknownManual => "unknown_manual"

/-- `_classify_runtime_entry`. -/
def classifyRuntimeEntry (entry : RuntimeEntry) : EntryClass :=
  let rel := PythonText.lower entry.relativePath
  let subject := PythonText.lower (entry.subject.getD "")
  let haystack := rel ++ " " ++ subject
  if textContains "uaexpert" haystack then .engineeringTool
  else if textContains "fuxa" haystack then .runtimeLocal
  else if textContains "gateway_client" haystack || textContains "gateway" haystack ||
      textContains "dmz" haystack then .transitionalGateway
  else if entry.type = some "private_key" then .runtimeLocal
  else .unknownManual

/-- The last branch of `_is_gds_managed_stage_path` and of the comparison name the same two
kinds of files. -/
def isChainOrCrlPath (path : String) : Bool :=
  textContains "ca-chain" path || textEndsWith "current.crl" path

/-- `_is_gds_managed_stage_path`. -/
def isGdsManagedStagePath (path : String) : Bool :=
  let name := PythonText.lower (slashes path)
  if isChainOrCrlPath name then true
  else textContains "[" name && textContains "]" name

/-- `sorted` of a set of paths. -/
def sortedPaths (paths : List String) : List String := paths.dedup.insertionSort (· ≤ ·)

theorem mem_sortedPaths {paths : List String} {path : String} :
    path ∈ sortedPaths paths ↔ path ∈ paths := by
  rw [sortedPaths, List.mem_insertionSort, List.mem_dedup]

section Listing

variable (files : List RuntimeEntry)

def namedFiles : List RuntimeEntry := files.filter fun entry => entry.relativePath ≠ ""

/-- `current_entries.get(path)`: of items with one path the last one. -/
def currentEntryOf? (path : String) : Option RuntimeEntry :=
  (namedFiles files).reverse.find? fun entry => entry.relativePath = path

/-- `current_map.get(path)`: the last hash that is not empty. -/
def currentHash? (path : String) : Option String :=
  (namedFiles files).reverse.findSome? fun entry =>
    if entry.relativePath = path then entry.sha256.filter (· ≠ "") else none

def currentPaths : List String := (namedFiles files).map RuntimeEntry.relativePath

def classifyPath (path : String) : EntryClass :=
  classifyRuntimeEntry ((currentEntryOf? files path).getD .empty)

end Listing

structure PreservedEntry where
  relativePath : String
  classification : EntryClass
  sha256 : Option String
  subject : Option String
  reason : String

structure ReviewEntry where
  relativePath : String
  classification : EntryClass
  reviewReason : String

/-- The result; `proposed_additions` and `proposed_updates` are the first two lists again. -/
structure RuntimeComparison where
  filesToAdd : List String
  filesToReplace : List String
  filesToRemove : List String
  preservedRuntimeEntries : List PreservedEntry
  proposedFutureReview : List ReviewEntry
  deletionCandidates : List String
  destructiveChangesDetected : Bool
  destructiveChangesBlocked : Bool
  runtimeEntryClassifications : List (String × String)

/-- What becomes of a staged path that the runtime lists with a hash. -/
inductive UpdateDecision where
  | unchanged
  | update
  | preserve
  deriving DecidableEq, Repr

def managedPrefixes : List String :=
  ["ApplCerts/trusted/", "ApplCerts/issuer/", "trusted/", "issuers/", "issuer/"]

section Comparison

variable (files : List RuntimeEntry) (stagedChecksums : List (String × String))
  (replaceAllowedPaths : List String)

def stagedPaths : List String := stagedChecksums.map Prod.fst

/-- One turn of the loop over the staged paths with a listed hash. -/
def decideUpdate (path : String) : UpdateDecision :=
  let classification := classifyPath files path
  if stagedChecksums.lookup path = currentHash? files path then .unchanged
  else if path ∈ replaceAllowedPaths ∧ isPrivateKeyPath (pathName path) path = false then .update
  else if isGdsManagedStagePath path ∧ classification ∉
      [.runtimeLocal, .engineeringTool, .transitionalGateway, .unknownManual] then .update
  else if isGdsManagedStagePath path ∧ isChainOrCrlPath (PythonText.lower path) then .update
  else .preserve

/-- The staged paths with a listed hash that end as given. -/
def decidedPaths (decision : UpdateDecision) : List String :=
  (sortedPaths ((stagedPaths stagedChecksums).filter fun path =>
    (currentHash? files path).isSome)).filter fun path =>
      decideUpdate files stagedChecksums replaceAllowedPaths path = decision

def isManagedPath (path : String) : Bool :=
  managedPrefixes.any fun start => start.toList.isPrefixOf path.toList

def deletionCandidatePaths : List String :=
  sortedPaths ((currentPaths files).filter fun path =>
    path ∉ stagedPaths stagedChecksums ∧ isManagedPath path)

/-- Staged paths that the runtime lists as private keys, which have no hash. -/
def listedKeys : List String :=
  (sortedPaths ((stagedPaths stagedChecksums).filter fun path =>
    path ∈ currentPaths files ∧ (currentHash? files path).isNone)).filter fun path =>
      (currentEntryOf? files path).bind RuntimeEntry.type = some "private_key"

/-- `_compare_runtime_to_stage`. -/
def compareRuntimeToStage (mergePolicy : String) : RuntimeComparison :=
  let kept := decidedPaths files stagedChecksums replaceAllowedPaths .preserve
  let candidates := deletionCandidatePaths files stagedChecksums
  let sha256 (path : String) := (currentEntryOf? files path).bind RuntimeEntry.sha256
  { filesToAdd := sortedPaths ((stagedPaths stagedChecksums).filter fun path =>
      path ∉ currentPaths files)
    filesToReplace := decidedPaths files stagedChecksums replaceAllowedPaths .update
    filesToRemove := if mergePolicy = "strict_replace" then candidates else []
    preservedRuntimeEntries :=
      (kept.map fun path => {
        relativePath := path
        classification := classifyPath files path
        sha256 := sha256 path
        subject := none
        reason := "same_path_update_blocked_by_conservative_merge" }) ++
      (candidates.map fun path => {
        relativePath := path
        classification := classifyPath files path
        sha256 := sha256 path
        subject := (currentEntryOf? files path).bind RuntimeEntry.subject
        reason := "preserved_by_conservative_merge" }) ++
      (listedKeys files stagedChecksums).map fun path => {
        relativePath := path
        classification := classifyPath files path
        sha256 := none
        subject := none
        reason := "private_key_never_overwritten" }
    proposedFutureReview :=
      (kept.map fun path => {
        relativePath := path
        classification := classifyPath files path
        reviewReason := "same path differs but runtime-local overwrite is blocked" }) ++
      candidates.map fun path => {
        relativePath := path
        classification := classifyPath files path
        reviewReason := "runtime entry is not present in signed GDS artifact" }
    deletionCandidates := candidates
    destructiveChangesDetected := !candidates.isEmpty
    destructiveChangesBlocked := !candidates.isEmpty && mergePolicy == "conservative_merge"
    runtimeEntryClassifications := (sortedPaths (currentPaths files)).map fun path =>
      (path,
        if path ∈ stagedPaths stagedChecksums ∧ isGdsManagedStagePath path then "managed_by_gds"
        else (classifyPath files path).name) }

end Comparison

/-! ## What the result says -/

section Membership

variable {files : List RuntimeEntry} {stagedChecksums : List (String × String)}
  {replaceAllowedPaths : List String} {mergePolicy path : String}

/-- Only what the runtime lists has a hash. -/
theorem mem_currentPaths_of_hash {sha256 : String}
    (listed : currentHash? files path = some sha256) : path ∈ currentPaths files := by
  obtain ⟨entry, member, hash⟩ := List.exists_of_findSome?_eq_some listed
  split at hash
  · rename_i same
    exact List.mem_map.mpr ⟨entry, List.mem_reverse.mp member, same⟩
  · cases hash

theorem mem_filesToAdd :
    path ∈ (compareRuntimeToStage files stagedChecksums replaceAllowedPaths
        mergePolicy).filesToAdd ↔
      path ∈ stagedPaths stagedChecksums ∧ path ∉ currentPaths files := by
  rw [compareRuntimeToStage, mem_sortedPaths, List.mem_filter, decide_eq_true_eq]

theorem mem_decidedPaths {decision : UpdateDecision} :
    path ∈ decidedPaths files stagedChecksums replaceAllowedPaths decision ↔
      path ∈ stagedPaths stagedChecksums ∧ (currentHash? files path).isSome ∧
        decideUpdate files stagedChecksums replaceAllowedPaths path = decision := by
  rw [decidedPaths, List.mem_filter, mem_sortedPaths, List.mem_filter, decide_eq_true_eq, and_assoc]

theorem mem_deletionCandidatePaths :
    path ∈ deletionCandidatePaths files stagedChecksums ↔
      path ∈ currentPaths files ∧ path ∉ stagedPaths stagedChecksums ∧
        isManagedPath path = true := by
  rw [deletionCandidatePaths, mem_sortedPaths, List.mem_filter, decide_eq_true_eq]

theorem mem_listedKeys :
    path ∈ listedKeys files stagedChecksums ↔
      path ∈ stagedPaths stagedChecksums ∧ path ∈ currentPaths files ∧
        currentHash? files path = none ∧
        (currentEntryOf? files path).bind RuntimeEntry.type = some "private_key" := by
  rw [listedKeys, List.mem_filter, mem_sortedPaths, List.mem_filter, decide_eq_true_eq,
    decide_eq_true_eq, Option.isNone_iff_eq_none, and_assoc, and_assoc]

theorem mem_preserved :
    (∃ entry ∈ (compareRuntimeToStage files stagedChecksums replaceAllowedPaths
        mergePolicy).preservedRuntimeEntries, entry.relativePath = path) ↔
      path ∈ decidedPaths files stagedChecksums replaceAllowedPaths .preserve ∨
        path ∈ deletionCandidatePaths files stagedChecksums ∨
          path ∈ listedKeys files stagedChecksums := by
  simp only [compareRuntimeToStage, List.mem_append, or_and_right, exists_or, List.mem_map,
    exists_exists_and_eq_and, exists_eq_right, or_assoc]

/-- Every class is in the set whose complement the third branch of the loop asks for. -/
theorem decideUpdate_eq (path : String) :
    decideUpdate files stagedChecksums replaceAllowedPaths path =
      if stagedChecksums.lookup path = currentHash? files path then .unchanged
      else if path ∈ replaceAllowedPaths ∧ isPrivateKeyPath (pathName path) path = false then
        .update
      else if isGdsManagedStagePath path ∧ isChainOrCrlPath (PythonText.lower path) then .update
      else .preserve := by
  have listed : classifyPath files path ∈
      [.runtimeLocal, .engineeringTool, .transitionalGateway, .unknownManual] := by
    cases classifyPath files path <;> decide
  rw [decideUpdate]
  simp only [listed, not_true_eq_false, and_false, if_false]

end Membership

/-! ## A partition of the staged paths -/

/-- Where a staged path may stand in the result. -/
inductive StagedClass where
  | add
  | replace
  | unchanged
  | preserved
  deriving DecidableEq, Repr

section Partition

variable (files : List RuntimeEntry) (stagedChecksums : List (String × String))
  (replaceAllowedPaths : List String) (mergePolicy : String)

/-- The result lists the path under the class; unchanged are the paths of equal hash. -/
def Placed (path : String) : StagedClass → Prop
  | .add =>
      path ∈
        (compareRuntimeToStage files stagedChecksums replaceAllowedPaths mergePolicy).filesToAdd
  | .replace =>
      path ∈ (compareRuntimeToStage files stagedChecksums replaceAllowedPaths
        mergePolicy).filesToReplace
  | .unchanged =>
      ∃ sha256, stagedChecksums.lookup path = some sha256 ∧ currentHash? files path = some sha256
  | .preserved =>
      ∃ entry ∈ (compareRuntimeToStage files stagedChecksums replaceAllowedPaths
        mergePolicy).preservedRuntimeEntries, entry.relativePath = path

/-- What the plan for an activation is to be. -/
structure MergePartition : Prop where
  partition : ∀ path ∈ stagedPaths stagedChecksums,
    ∃! staged, Placed files stagedChecksums replaceAllowedPaths mergePolicy path staged
  removesNothing : mergePolicy = "conservative_merge" →
    (compareRuntimeToStage files stagedChecksums replaceAllowedPaths mergePolicy).filesToRemove = []
  keysKept : ∀ path, isPrivateKeyPath (pathName path) path = true →
    path ∉ (compareRuntimeToStage files stagedChecksums replaceAllowedPaths
        mergePolicy).filesToReplace ∧
      path ∉ (compareRuntimeToStage files stagedChecksums replaceAllowedPaths
        mergePolicy).filesToRemove
  managedReplaced : ∀ path sha256 current, stagedChecksums.lookup path = some sha256 →
    currentHash? files path = some current → sha256 ≠ current →
      isGdsManagedStagePath path = true →
        path ∈ (compareRuntimeToStage files stagedChecksums replaceAllowedPaths
          mergePolicy).filesToReplace

/-- The inputs for which the cascade of conditions leaves no gap: a staged path that is listed
without a hash is listed as a private key; strict replacement finds no private key among the
listed files below the managed directories that are not staged; and a managed file of other
content is not a private key, and either may be replaced or is a CA chain or the current
CRL. -/
structure ComparedCleanly : Prop where
  unhashed : ∀ path ∈ stagedPaths stagedChecksums, path ∈ currentPaths files →
    currentHash? files path = none →
      (currentEntryOf? files path).bind RuntimeEntry.type = some "private_key"
  unstaged : mergePolicy = "strict_replace" → ∀ path ∈ currentPaths files,
    path ∉ stagedPaths stagedChecksums → isManagedPath path = true →
      isPrivateKeyPath (pathName path) path = false
  managed : ∀ path sha256 current, stagedChecksums.lookup path = some sha256 →
    currentHash? files path = some current → sha256 ≠ current →
      isGdsManagedStagePath path = true →
        isPrivateKeyPath (pathName path) path = false ∧
          (path ∈ replaceAllowedPaths ∨ isChainOrCrlPath (PythonText.lower path) = true)

/-- Where the result lists a staged path; nowhere if its file could not be read. -/
def placement (path : String) : Option StagedClass :=
  match currentHash? files path with
  | some _ =>
      match decideUpdate files stagedChecksums replaceAllowedPaths path with
      | .unchanged => some .unchanged
      | .update => some .replace
      | .preserve => some .preserved
  | none =>
      if path ∈ currentPaths files then
        if (currentEntryOf? files path).bind RuntimeEntry.type = some "private_key" then
          some .preserved
        else none
      else some .add

end Partition

section Partition

variable {files : List RuntimeEntry} {stagedChecksums : List (String × String)}
  {replaceAllowedPaths : List String} {mergePolicy path : String}

theorem isSome_lookup_iff :
    (stagedChecksums.lookup path).isSome ↔ path ∈ stagedPaths stagedChecksums := by
  rw [List.lookup_isSome_iff, stagedPaths, List.mem_map]
  exact exists_congr fun _ => and_congr_right fun _ => beq_iff_eq.trans eq_comm

theorem decideUpdate_eq_unchanged_iff :
    decideUpdate files stagedChecksums replaceAllowedPaths path = .unchanged ↔
      stagedChecksums.lookup path = currentHash? files path := by
  rw [decideUpdate_eq]
  split
  · rename_i same
    exact iff_of_true rfl same
  · rename_i differs
    refine iff_of_false ?_ differs
    split
    · nofun
    · split <;> nofun

/-- The three groups of preserved entries, for a staged path. -/
theorem placed_preserved_iff (staged : path ∈ stagedPaths stagedChecksums) :
    Placed files stagedChecksums replaceAllowedPaths mergePolicy path .preserved ↔
      (currentHash? files path).isSome ∧
          decideUpdate files stagedChecksums replaceAllowedPaths path = .preserve ∨
        path ∈ currentPaths files ∧ currentHash? files path = none ∧
          (currentEntryOf? files path).bind RuntimeEntry.type = some "private_key" := by
  rw [Placed, mem_preserved, mem_decidedPaths, mem_deletionCandidatePaths, mem_listedKeys]
  simp only [staged, true_and, not_true_eq_false, false_and, and_false, false_or]

/-- A staged path stands where the code has put it, and nowhere else. -/
theorem placed_iff (staged : path ∈ stagedPaths stagedChecksums) (place : StagedClass) :
    Placed files stagedChecksums replaceAllowedPaths mergePolicy path place ↔
      placement files stagedChecksums replaceAllowedPaths path = some place := by
  cases place with
  | add =>
      rw [Placed, mem_filesToAdd, placement]
      cases listed : currentHash? files path with
      | some current =>
          have present := mem_currentPaths_of_hash listed
          refine iff_of_false (fun added => added.2 present) ?_
          cases decideUpdate files stagedChecksums replaceAllowedPaths path <;> nofun
      | none =>
          by_cases present : path ∈ currentPaths files
          · refine iff_of_false (fun added => added.2 present) ?_
            simp only [present, if_true]
            split <;> nofun
          · simp [present, staged]
  | replace =>
      rw [Placed, compareRuntimeToStage, mem_decidedPaths, placement]
      cases listed : currentHash? files path with
      | some current =>
          cases decideUpdate files stagedChecksums replaceAllowedPaths path <;> simp [staged]
      | none =>
          simp only [Option.isSome_none, Bool.false_eq_true, false_and, and_false, false_iff]
          split
          · split <;> nofun
          · nofun
  | unchanged =>
      have same : Placed files stagedChecksums replaceAllowedPaths mergePolicy path .unchanged ↔
          (currentHash? files path).isSome ∧
            decideUpdate files stagedChecksums replaceAllowedPaths path = .unchanged := by
        rw [Placed, decideUpdate_eq_unchanged_iff, Option.isSome_iff_exists]
        constructor
        · rintro ⟨sha256, given, listed⟩
          exact ⟨⟨sha256, listed⟩, given.trans listed.symm⟩
        · rintro ⟨⟨sha256, listed⟩, equal⟩
          exact ⟨sha256, equal.trans listed, listed⟩
      rw [same, placement]
      cases listed : currentHash? files path with
      | some current =>
          cases decideUpdate files stagedChecksums replaceAllowedPaths path <;> simp
      | none =>
          simp only [Option.isSome_none, Bool.false_eq_true, false_and, false_iff]
          split
          · split <;> nofun
          · nofun
  | preserved =>
      rw [placed_preserved_iff staged, placement]
      cases listed : currentHash? files path with
      | some current =>
          cases decideUpdate files stagedChecksums replaceAllowedPaths path <;> simp
      | none =>
          by_cases present : path ∈ currentPaths files <;> simp [present]

variable (files stagedChecksums replaceAllowedPaths path) in
/-- A staged path stands somewhere unless it is listed without a hash and not as a private
key. -/
theorem isSome_placement_iff :
    (placement files stagedChecksums replaceAllowedPaths path).isSome ↔
      (path ∈ currentPaths files → currentHash? files path = none →
        (currentEntryOf? files path).bind RuntimeEntry.type = some "private_key") := by
  rw [placement]
  cases listed : currentHash? files path with
  | some current =>
      refine iff_of_true ?_ nofun
      cases decideUpdate files stagedChecksums replaceAllowedPaths path <;> rfl
  | none =>
      by_cases present : path ∈ currentPaths files
      · by_cases key : (currentEntryOf? files path).bind RuntimeEntry.type = some "private_key" <;>
          simp [present, key]
      · simp [present]

theorem existsUnique_placed_iff (staged : path ∈ stagedPaths stagedChecksums) :
    (∃! place, Placed files stagedChecksums replaceAllowedPaths mergePolicy path place) ↔
      (path ∈ currentPaths files → currentHash? files path = none →
        (currentEntryOf? files path).bind RuntimeEntry.type = some "private_key") := by
  rw [← isSome_placement_iff files stagedChecksums replaceAllowedPaths path,
    Option.isSome_iff_exists]
  constructor
  · rintro ⟨place, placed, _⟩
    exact ⟨place, (placed_iff staged place).mp placed⟩
  · rintro ⟨place, placed⟩
    refine ⟨place, (placed_iff staged place).mpr placed, fun other elsewhere => ?_⟩
    have also := (placed_iff staged other).mp elsewhere
    exact Option.some.inj (also.symm.trans placed)

/-- What is replaced without the third branch of the loop. -/
theorem mem_filesToReplace :
    path ∈ (compareRuntimeToStage files stagedChecksums replaceAllowedPaths
        mergePolicy).filesToReplace ↔
      ∃ sha256 current, stagedChecksums.lookup path = some sha256 ∧
        currentHash? files path = some current ∧ sha256 ≠ current ∧
          (path ∈ replaceAllowedPaths ∧ isPrivateKeyPath (pathName path) path = false ∨
            isGdsManagedStagePath path = true ∧
              isChainOrCrlPath (PythonText.lower path) = true) := by
  rw [compareRuntimeToStage, mem_decidedPaths, decideUpdate_eq, ← isSome_lookup_iff]
  cases given : stagedChecksums.lookup path with
  | none => simp
  | some sha256 =>
      cases listed : currentHash? files path with
      | none => simp
      | some current =>
          by_cases same : sha256 = current
          · simp [same]
          · by_cases allowed : path ∈ replaceAllowedPaths ∧
              isPrivateKeyPath (pathName path) path = false
            · simp [same, allowed]
            · simp [same, allowed]

theorem mem_filesToRemove :
    path ∈ (compareRuntimeToStage files stagedChecksums replaceAllowedPaths
        mergePolicy).filesToRemove ↔
      mergePolicy = "strict_replace" ∧ path ∈ currentPaths files ∧
        path ∉ stagedPaths stagedChecksums ∧ isManagedPath path = true := by
  rw [← mem_deletionCandidatePaths, compareRuntimeToStage]
  by_cases strict : mergePolicy = "strict_replace"
  · simp [strict]
  · simp [strict]

/-- The result is as it is to be exactly for the inputs that leave no gap. -/
theorem merge_partition_iff (files : List RuntimeEntry) (stagedChecksums : List (String × String))
    (replaceAllowedPaths : List String) (mergePolicy : String) :
    MergePartition files stagedChecksums replaceAllowedPaths mergePolicy ↔
      ComparedCleanly files stagedChecksums replaceAllowedPaths mergePolicy := by
  constructor
  · intro planned
    refine ⟨?_, ?_, ?_⟩
    · intro path staged
      exact (existsUnique_placed_iff staged).mp (planned.partition path staged)
    · intro strict path present unstaged below
      rw [← Bool.not_eq_true]
      intro key
      exact (planned.keysKept path key).2 (mem_filesToRemove.mpr ⟨strict, present, unstaged, below⟩)
    · intro path sha256 current given listed differs managed
      have replaced := planned.managedReplaced path sha256 current given listed differs managed
      refine ⟨?_, ?_⟩
      · rw [← Bool.not_eq_true]
        intro key
        exact (planned.keysKept path key).1 replaced
      · obtain ⟨_, _, _, _, _, allowed | named⟩ := mem_filesToReplace.mp replaced
        · exact .inl allowed.1
        · exact .inr named.2
  · intro clean
    refine ⟨?_, ?_, ?_, ?_⟩
    · intro path staged
      exact (existsUnique_placed_iff staged).mpr (clean.unhashed path staged)
    · intro conservative
      rw [compareRuntimeToStage, conservative]
      rfl
    · intro path key
      refine ⟨fun replaced => ?_, fun removed => ?_⟩
      · obtain ⟨sha256, current, given, listed, differs, allowed | named⟩ :=
          mem_filesToReplace.mp replaced
        · exact Bool.false_ne_true (allowed.2.symm.trans key)
        · have notKey := (clean.managed path sha256 current given listed differs named.1).1
          exact Bool.false_ne_true (notKey.symm.trans key)
      · obtain ⟨strict, present, unstaged, below⟩ := mem_filesToRemove.mp removed
        exact Bool.false_ne_true
          ((clean.unstaged strict path present unstaged below).symm.trans key)
    · intro path sha256 current given listed differs managed
      obtain ⟨notKey, allowed | named⟩ :=
        clean.managed path sha256 current given listed differs managed
      · exact mem_filesToReplace.mpr
          ⟨sha256, current, given, listed, differs, .inl ⟨allowed, notKey⟩⟩
      · exact mem_filesToReplace.mpr
          ⟨sha256, current, given, listed, differs, .inr ⟨managed, named⟩⟩

end Partition

/-! A renewed certificate of a trusted client is listed with another hash, and a file that may
not be read is listed without one. -/

def comparedFiles : List RuntimeEntry :=
  [{ RuntimeEntry.empty with
      relativePath := "trusted/certs/client[ab].der"
      sha256 := some "old"
      subject := some "CN=client" },
    { RuntimeEntry.empty with relativePath := "trusted/certs/other.der" }]

def comparedStage : List (String × String) :=
  [("trusted/certs/client[ab].der", "new"), ("trusted/certs/other.der", "new")]

/-- Neither is replaced, and the second one stands nowhere. -/
theorem managed_entry_not_replaced :
    ¬ MergePartition comparedFiles comparedStage [] "conservative_merge" := by
  intro planned
  have replaced := planned.managedReplaced "trusted/certs/client[ab].der" "new" "old" rfl
    (by decide +kernel) (by decide) (by decide +kernel)
  revert replaced
  decide +kernel

example :
    placement comparedFiles comparedStage [] "trusted/certs/other.der" = none := by decide +kernel

end OpcuaGds.Agent
