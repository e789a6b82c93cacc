import OpcuaGds.Agent.RuntimePaths
import OpcuaGds.Foundation.FailedWrites
import Mathlib.Data.List.Dedup
import Mathlib.Data.List.Lex
import Mathlib.Data.List.Sort

/-! # Activation of a staged package

`activate_package_runtime`: the checks, the rollback snapshot, and the copies of the staged
files into the runtime, with every operation on files that may fail. The texts of
`OSError`s are not told apart.
-/

namespace FileTree

/-- Paths are listed component by component, as `sorted(root.rglob("*"))` does. -/
def PathLe (left right : String) : Prop :=
  left.toList.splitOn '/' ≤ right.toList.splitOn '/'

instance : DecidableRel PathLe := fun left right =>
  inferInstanceAs (Decidable (left.toList.splitOn '/' ≤ right.toList.splitOn '/'))

/-- The files of a tree, each path once. -/
def listing (tree : FileTree) : FileTree :=
  ((tree.map Prod.fst).dedup.insertionSort PathLe).filterMap fun path =>
    (tree.read path).map fun content => (path, content)

theorem listing_paths (tree : FileTree) :
    tree.listing.map Prod.fst = (tree.map Prod.fst).dedup.insertionSort PathLe := by
  have read (paths : List String) (all : ∀ path ∈ paths, (tree.read path).isSome) :
      (paths.filterMap fun path => (tree.read path).map fun content => (path, content)).map
        Prod.fst = paths := by
    induction paths with
    | nil => rfl
    | cons path paths ih =>
        obtain ⟨here, later⟩ := List.forall_mem_cons.mp all
        obtain ⟨content, found⟩ := Option.isSome_iff_exists.mp here
        rw [List.filterMap_cons, found]
        exact congrArg (path :: ·) (ih later)
  apply read
  intro path member
  rw [List.mem_insertionSort, List.mem_dedup] at member
  obtain ⟨file, there, rfl⟩ := List.mem_map.mp member
  exact List.lookup_isSome_iff.mpr ⟨file, there, beq_self_eq_true _⟩

theorem mem_listing {path : String} {content : List UInt8} {tree : FileTree} :
    (path, content) ∈ tree.listing ↔ tree.read path = some content := by
  rw [listing, List.mem_filterMap]
  constructor
  · rintro ⟨other, _, found⟩
    obtain ⟨held, read, same⟩ := Option.map_eq_some_iff.mp found
    cases same
    exact read
  · intro read
    have there := List.mem_map_of_mem (f := Prod.fst) (mem_of_read read)
    refine ⟨path, (List.mem_insertionSort _).mpr (List.mem_dedup.mpr there), ?_⟩
    rw [read]
    rfl

/-- A listing names each path once. -/
theorem nodup_listing (tree : FileTree) : (tree.listing.map Prod.fst).Nodup := by
  rw [listing_paths, (List.perm_insertionSort PathLe _).nodup_iff]
  exact List.nodup_dedup _

end FileTree

namespace OpcuaGds.Agent

/-! ## State and surroundings -/

/-- Hashes and public keys. -/
structure RuntimeCrypto where
  sha256Hex : List UInt8 → String
  publicKeyOfCertificate : String → Option (List UInt8)
  publicKeyOfPrivateKey : List UInt8 → Option (List UInt8)

/-- `rollback-manifest.json` of a plan. -/
structure RollbackManifest where
  copiedFiles : List (String × String)
  skippedFiles : List String
  deriving DecidableEq

structure ChangedFile where
  relativePath : String
  action : String
  beforeSha256 : Option String
  afterSha256 : String
  deriving DecidableEq

structure ActivationReceipt where
  status : String
  target : String
  packageId : String
  planId : String
  changedFiles : List ChangedFile
  preservedFiles : List String
  privateKeySha256Before : String
  privateKeySha256After : String
  deriving DecidableEq

inductive ActivationResult where
  | alreadyActivated
  | activated (receipt : ActivationReceipt)
  deriving DecidableEq

/-- The runtime of a target, the rollback directory of the plan and the receipts. -/
structure RuntimeState where
  runtime : FileTree
  snapshot : FileTree
  manifest : Option RollbackManifest
  receipts : List ActivationReceipt
  deriving DecidableEq

structure ActivationInput where
  target : String
  runtimeRoot : String
  certificatePem : String
  packageId : String
  planId : String
  shadow : FileTree
  stageChecksums : List (String × String)

/-- `_copy_file_bytes_only` and the hash after it: the copy raises before the file is
replaced, and may leave its temporary file, or the file is replaced and may be read back. -/
inductive CopyOutcome where
  | stops (leftover : Option (String × List UInt8))
  | replaces (readBack : Bool)

inductive ProbeOutcome where
  | granted
  | refused (leftover : Option (String × List UInt8))

/-- How the operations on files turn out. -/
structure ActivationOutcomes where
  rootAvailable : Bool
  probe : ProbeOutcome
  keyRead : Bool
  comparedRead : String → Bool
  snapshotCopy : String → CopyOutcome
  manifestWritten : Bool
  copy : String → CopyOutcome
  keyReadAfter : Bool
  receiptWritten : Bool

def osError : String := "OSError"

/-! ## Before the copies -/

section Activation

variable (crypto : RuntimeCrypto) (input : ActivationInput) (outcomes : ActivationOutcomes)

/-- The checks of the target and of the mount (`_ensure_runtime_writable`), with the runtime
that they leave when they raise. -/
def openRuntime (runtime : FileTree) : Except (String × FileTree) Unit :=
  if input.target ∉ ["fuxa", "opcua-server", "dmz-gateway-client", "dmz-gateway-server"] then
    .error ("target_not_enabled_for_live_activation", runtime)
  else if outcomes.rootAvailable = false then
    .error ("runtime root is not available: " ++ input.runtimeRoot, runtime)
  else
    match outcomes.probe with
    | .granted => .ok ()
    | .refused leftover => .error ("runtime_mount_not_writable", runtime.leave "" leftover)

/-- `_verify_certificate_matches_runtime_key` and `_private_key_sha256`. -/
def verifiedKeySha256 (runtime : FileTree) : Except String String :=
  if input.certificatePem = "" then .error "package certificate is missing"
  else
    match runtimePrivateKey input.target runtime with
    | none => .error (input.target ++ " runtime private key is missing")
    | some key =>
        match crypto.publicKeyOfCertificate input.certificatePem with
        | none => .error "certificate cannot be parsed"
        | some certificateKey =>
            if outcomes.keyRead = false then .error osError
            else
              match crypto.publicKeyOfPrivateKey key with
              | none => .error "private key cannot be parsed"
              | some publicKey =>
                  if crypto.sha256Hex certificateKey ≠ crypto.sha256Hex publicKey then
                    .error "certificate_private_key_mismatch"
                  else .ok (crypto.sha256Hex key)

/-- `sorted(stage_checksums.items())`. -/
def ActivationInput.sortedChecksums : List (String × String) :=
  input.stageChecksums.insertionSort fun left right => left.1 ≤ right.1

/-- The text of `_assert_path_inside`. -/
def escapesText (rel : String) : String :=
  "path escapes runtime root: " ++ FileTree.join input.runtimeRoot rel

/-- `_runtime_stage_mismatches`. -/
def runtimeStageMismatches (runtime : FileTree) :
    List (String × String) → Except String (List (String × String))
  | [] => .ok []
  | (rel, expected) :: rest =>
      if isPreservedRuntimePath rel then runtimeStageMismatches runtime rest
      else
        match resolveInside rel with
        | none => .error (escapesText input rel)
        | some path =>
            match runtime.read path with
            | none => (runtimeStageMismatches runtime rest).map ((rel, "missing_runtime_file") :: ·)
            | some content =>
                if outcomes.comparedRead path = false then .error osError
                else if crypto.sha256Hex content ≠ expected then
                  (runtimeStageMismatches runtime rest).map ((rel, "sha256_mismatch") :: ·)
                else runtimeStageMismatches runtime rest

/-- Everything before the snapshot: the hash of the private key, and whether a staged file
is missing or different. -/
def prepareActivation (runtime : FileTree) : Except (String × FileTree) (String × Bool) :=
  match openRuntime input outcomes runtime with
  | .error raised => .error raised
  | .ok _ =>
      match verifiedKeySha256 crypto input outcomes runtime with
      | .error message => .error (message, runtime)
      | .ok keySha256 =>
          match runtimeStageMismatches crypto input outcomes runtime input.sortedChecksums with
          | .error message => .error (message, runtime)
          | .ok mismatches => .ok (keySha256, !mismatches.isEmpty)

/-! ## The rollback snapshot -/

/-- Whether `_snapshot_runtime_non_private` leaves out a file. -/
def isPrivateFile (path : String) : Bool := isPrivateKeyPath (FileTree.nameOf path) (slashes path)

/-- Where the snapshot has a file: backslashes in its name become separators, and the path that
they make may lead elsewhere. -/
def snapshotPath (path : String) : String :=
  if slashes path = path then path else (resolveInside (slashes path)).getD (slashes path)

theorem snapshotPath_of_slashes {path : String} (named : slashes path = path) :
    snapshotPath path = path := if_pos named

/-- The loop of `_snapshot_runtime_non_private`. -/
def snapshotCopies : FileTree → FileTree →
    Except (String × FileTree) (List (String × String) × FileTree)
  | [], snapshot => .ok ([], snapshot)
  | (path, content) :: rest, snapshot =>
      if isPrivateFile path then snapshotCopies rest snapshot
      else
        match outcomes.snapshotCopy path with
        | .stops leftover => .error (osError, snapshot.leave (snapshotPath path) leftover)
        | .replaces readBack =>
            if readBack = false then .error (osError, snapshot.write (snapshotPath path) content)
            else
              (snapshotCopies rest (snapshot.write (snapshotPath path) content)).map fun result =>
                ((slashes path, crypto.sha256Hex content) :: result.1, result.2)

/-- `_snapshot_runtime_non_private`. -/
def snapshotRuntimeNonPrivate (state : RuntimeState) :
    Except (String × RuntimeState) RuntimeState :=
  match snapshotCopies crypto outcomes state.runtime.listing state.snapshot with
  | .error (message, snapshot) => .error (message, { state with snapshot })
  | .ok (copied, snapshot) =>
      if outcomes.manifestWritten = false then .error (osError, { state with snapshot })
      else
        let skipped := (state.runtime.listing.filter fun file => isPrivateFile file.1).map
          fun file => slashes file.1
        .ok { state with snapshot, manifest := some ⟨copied, skipped⟩ }

/-! ## The copies -/

/-- The copy of a staged file that is there, and the check after it. -/
def copyPresentFile (rel expected path : String) (content : List UInt8) (runtime : FileTree) :
    Except (String × FileTree) (ChangedFile × FileTree) :=
  match outcomes.copy rel with
  | .stops leftover => .error (osError, runtime.leave path leftover)
  | .replaces readBack =>
      if readBack = false then .error (osError, runtime.write path content)
      else if crypto.sha256Hex content ≠ expected then
        .error ("post_copy_checksum_mismatch:" ++ rel, runtime.write path content)
      else
        .ok ({
          relativePath := rel
          action := if (runtime.read path).isSome then "updated" else "added"
          beforeSha256 := (runtime.read path).map crypto.sha256Hex
          afterSha256 := crypto.sha256Hex content }, runtime.write path content)

/-- One file of the loop over the staged files, with the runtime that is left when it
raises. -/
def copyStagedFile (rel expected : String) (runtime : FileTree) :
    Except (String × FileTree) (ChangedFile × FileTree) :=
  match resolveInside rel with
  | none => .error (escapesText input rel, runtime)
  | some path =>
      match input.shadow.read path with
      | none => .error ("staged file missing: " ++ rel, runtime)
      | some content => copyPresentFile crypto outcomes rel expected path content runtime

/-- The loop over the staged files. -/
def copyStagedFiles : List (String × String) → FileTree →
    Except (String × FileTree) (List ChangedFile × FileTree)
  | [], runtime => .ok ([], runtime)
  | (rel, expected) :: rest, runtime =>
      if isPreservedRuntimePath rel then copyStagedFiles rest runtime
      else
        match copyStagedFile crypto input outcomes rel expected runtime with
        | .error raised => .error raised
        | .ok (change, copied) =>
            (copyStagedFiles rest copied).map fun result => (change :: result.1, result.2)

/-- The hash of the private key after the copies, and the receipt. -/
def finishActivation (keySha256 : String) (changed : List ChangedFile) (state : RuntimeState) :
    Except String ActivationResult × RuntimeState :=
  match runtimePrivateKey input.target state.runtime with
  | none => (.error (input.target ++ " runtime private key is missing"), state)
  | some key =>
      if outcomes.keyReadAfter = false ∨ outcomes.receiptWritten = false then
        (.error osError, state)
      else
        let receipt := {
          status := "activated"
          target := input.target
          packageId := input.packageId
          planId := input.planId
          changedFiles := changed
          preservedFiles := (input.sortedChecksums.map Prod.fst).filter isPreservedRuntimePath
          privateKeySha256Before := keySha256
          privateKeySha256After := crypto.sha256Hex key }
        (.ok (.activated receipt), { state with receipts := receipt :: state.receipts })

/-- The part of `activate_package_runtime` after the checks. -/
def replaceRuntime (keySha256 : String) (state : RuntimeState) :
    Except String ActivationResult × RuntimeState :=
  match snapshotRuntimeNonPrivate crypto outcomes state with
  | .error (message, state) => (.error message, state)
  | .ok state =>
      match copyStagedFiles crypto input outcomes input.sortedChecksums state.runtime with
      | .error (message, runtime) => (.error message, { state with runtime })
      | .ok (changed, runtime) =>
          finishActivation crypto input outcomes keySha256 changed { state with runtime }

/-- `activate_package_runtime`. -/
def activatePackageRuntime (state : RuntimeState) :
    Except String ActivationResult × RuntimeState :=
  match prepareActivation crypto input outcomes state.runtime with
  | .error (message, runtime) => (.error message, { state with runtime })
  | .ok (keySha256, mismatched) =>
      if mismatched then replaceRuntime crypto input outcomes keySha256 state
      else (.ok .alreadyActivated, state)

end Activation

end OpcuaGds.Agent
