import OpcuaGds.Agent.RollbackPreflight
import OpcuaGds.Agent.RollbackSnapshot
import OpcuaGds.Foundation.Fallible

/-! # What the integrity of a rollback snapshot means

The check of a snapshot goes through the entries of its manifest: it finds what is missing or
changed, not what was added, and it takes the names of the entries without the blanks around
them.
-/

namespace OpcuaGds.Agent

/-! ## The check -/

section Check

variable {sha256Hex : List UInt8 → String} {manifest item : Json} {snapshot : FileTree}
  {items : List Json}

/-- An entry is well formed, and its file is there with its hash. -/
structure FoundFile (sha256Hex : List UInt8 → String) (snapshot : FileTree) (item : Json) :
    Prop where
  object : item.isObject = true
  named : listedName item ≠ ""
  digest : (loweredText item "sha256").length = 64
  found : ∃ content, recordedFile (listedName item) snapshot = some content ∧
    sha256Hex content = loweredText item "sha256"

theorem checkListedFile_eq_intact_iff :
    checkListedFile sha256Hex snapshot item = .intact ↔ FoundFile sha256Hex snapshot item := by
  have recorded : recordedFile (listedName item) snapshot =
      (resolveInside (listedName item)).bind fun path =>
        fileAt (listedName item) path snapshot := rfl
  unfold checkListedFile
  by_cases object : item.isObject = false
  · rw [if_pos object]
    refine iff_of_false nofun fun found => ?_
    rw [found.object] at object
    cases object
  · rw [if_neg object]
    by_cases malformed : listedName item = "" ∨ (loweredText item "sha256").length ≠ 64
    · rw [if_pos malformed]
      refine iff_of_false nofun fun found => ?_
      rcases malformed with unnamed | short
      · exact found.named unnamed
      · exact short found.digest
    · rw [if_neg malformed]
      obtain ⟨named, digest⟩ := not_or.mp malformed
      cases led : resolveInside (listedName item) with
      | none =>
          rw [led, Option.bind_none] at recorded
          refine iff_of_false nofun fun found => ?_
          obtain ⟨content, there, _⟩ := found.found
          rw [recorded] at there
          cases there
      | some path =>
          rw [led, Option.bind_some] at recorded
          dsimp only
          cases there : fileAt (listedName item) path snapshot with
          | none =>
              refine iff_of_false nofun fun found => ?_
              obtain ⟨content, read, _⟩ := found.found
              rw [recorded, there] at read
              cases read
          | some content =>
              dsimp only
              rw [there] at recorded
              by_cases same : sha256Hex content = loweredText item "sha256"
              · rw [if_neg (not_not.mpr same)]
                exact iff_of_true rfl ⟨Bool.not_eq_false _ ▸ object, named, not_not.mp digest,
                  content, recorded, same⟩
              · rw [if_pos same]
                refine iff_of_false nofun fun found => ?_
                obtain ⟨other, read, equal⟩ := found.found
                rw [recorded] at read
                cases read
                exact same equal

/-- Every entry of the manifest is found. -/
def EachFound (sha256Hex : List UInt8 → String) (manifest : Json) (snapshot : FileTree)
    (items : List Json) : Prop :=
  copiedFiles manifest = some items ∧ ∀ item ∈ items, FoundFile sha256Hex snapshot item

theorem integrityOk_iff :
    (rollbackManifestIntegrity sha256Hex manifest snapshot).integrityOk = true ↔
      ∃ items, EachFound sha256Hex manifest snapshot items := by
  unfold rollbackManifestIntegrity EachFound
  cases copiedFiles manifest with
  | none => exact iff_of_false nofun fun found => nomatch found
  | some items =>
      simp only [Option.some.injEq, exists_eq_left', Bool.and_eq_true, List.isEmpty_iff,
        beq_iff_eq, ← checkListedFile_eq_intact_iff, List.filterMap_eq_nil_iff,
        List.countP_eq_zero, List.forall_mem_map]
      constructor
      · intro clean item among
        obtain ⟨⟨missing, mismatch⟩, valid⟩ := clean
        replace missing := missing item among
        replace mismatch := mismatch item among
        replace valid := valid item among
        cases checked : checkListedFile sha256Hex snapshot item with
        | invalid => exact absurd checked valid
        | missing rel =>
            rw [checked] at missing
            cases missing
        | mismatch rel expected actual =>
            rw [checked] at mismatch
            cases mismatch
        | intact => rfl
      · intro intact
        refine ⟨⟨fun item among => ?_, fun item among => ?_⟩, fun item among invalid => ?_⟩
        · rw [intact item among]
        · rw [intact item among]
        · rw [intact item among] at invalid
          cases invalid

/-- An entry is about a path, by its name as it is written. -/
structure Names (item : Json) (path : String) : Prop where
  led : resolveInside (textOf item "relative_path") = some path
  file : pathName (textOf item "relative_path") ≠ ".."

/-- The files of a directory are exactly those that the manifest lists, with their hashes. -/
def RecordsExactly (sha256Hex : List UInt8 → String) (manifest : Json) (snapshot : FileTree) :
    Prop :=
  ∃ items, copiedFiles manifest = some items ∧ ∀ path hash,
    (∃ content, snapshot.read path = some content ∧ sha256Hex content = hash) ↔
      ∃ item ∈ items, Names item path ∧ loweredText item "sha256" = hash

/-- What passes the check is exactly what is recorded. -/
def IntegritySound (sha256Hex : List UInt8 → String) (manifest : Json) (snapshot : FileTree) :
    Prop :=
  (rollbackManifestIntegrity sha256Hex manifest snapshot).integrityOk = true →
    RecordsExactly sha256Hex manifest snapshot

/-- Every file of a directory is listed, and an entry whose name has blanks around it is right
with them, too. -/
structure Covers (sha256Hex : List UInt8 → String) (snapshot : FileTree) (items : List Json) :
    Prop where
  listed : ∀ path, (snapshot.read path).isSome = true → ∃ item ∈ items, Names item path
  blanks : ∀ item ∈ items, listedName item ≠ textOf item "relative_path" → ∀ path,
    Names item path → ∃ content, snapshot.read path = some content ∧
      sha256Hex content = loweredText item "sha256"

/-- An entry that is found is right as it is written. -/
theorem read_of_names {path : String} (covers : Covers sha256Hex snapshot items)
    (found : FoundFile sha256Hex snapshot item) (among : item ∈ items) (names : Names item path) :
    ∃ content, snapshot.read path = some content ∧
      sha256Hex content = loweredText item "sha256" := by
  by_cases same : listedName item = textOf item "relative_path"
  · obtain ⟨content, read, hash⟩ := found.found
    rw [same, recordedFile, names.led, Option.bind_some, fileAt, if_neg names.file] at read
    exact ⟨content, read, hash⟩
  · exact covers.blanks item among same path names

theorem recordsExactly_iff (each : EachFound sha256Hex manifest snapshot items) :
    RecordsExactly sha256Hex manifest snapshot ↔ Covers sha256Hex snapshot items := by
  constructor
  · intro exact
    obtain ⟨others, listed, exact⟩ := exact
    have same : others = items := Option.some.inj (listed.symm.trans each.1)
    rw [same] at exact
    refine ⟨fun path there => ?_, fun item among _ path names => ?_⟩
    · obtain ⟨content, read⟩ := Option.isSome_iff_exists.mp there
      obtain ⟨item, among, names, _⟩ := (exact path (sha256Hex content)).mp ⟨content, read, rfl⟩
      exact ⟨item, among, names⟩
    · exact (exact path (loweredText item "sha256")).mpr ⟨item, among, names, rfl⟩
  · intro covers
    refine ⟨items, each.1, fun path hash => ⟨fun stored => ?_, fun listed => ?_⟩⟩
    · obtain ⟨content, read, same⟩ := stored
      obtain ⟨item, among, names⟩ := covers.listed path (by rw [read]; rfl)
      obtain ⟨other, again, recorded⟩ := read_of_names covers (each.2 item among) among names
      rw [read] at again
      cases again
      exact ⟨item, among, names, recorded.symm.trans same⟩
    · obtain ⟨item, among, names, same⟩ := listed
      obtain ⟨content, read, recorded⟩ := read_of_names covers (each.2 item among) among names
      exact ⟨content, read, recorded.trans same⟩

theorem integritySound_iff :
    IntegritySound sha256Hex manifest snapshot ↔
      ∀ items, EachFound sha256Hex manifest snapshot items → Covers sha256Hex snapshot items := by
  unfold IntegritySound
  rw [integrityOk_iff]
  constructor
  · exact fun sound items each => (recordsExactly_iff each).mp (sound ⟨items, each⟩)
  · intro covers found
    obtain ⟨items, each⟩ := found
    exact (recordsExactly_iff each).mpr (covers items each)

end Check

/-! ## A fresh snapshot -/

section Fresh

variable {crypto : RuntimeCrypto} {outcomes : ActivationOutcomes} {state : RuntimeState}
  {files snapshot runtime : FileTree}

/-- The files of a runtime that a snapshot copies. -/
def publicFiles (runtime : FileTree) : FileTree :=
  runtime.listing.filter fun file => !isPrivateFile file.1

/-- A directory after files were written over it. -/
def writeOver (files snapshot : FileTree) : FileTree :=
  files.foldl (fun tree file => tree.write (snapshotPath file.1) file.2) snapshot

variable (crypto state) in
/-- Every snapshot of the runtime that is completed passes the check. -/
def FreshSnapshotAccepted : Prop :=
  ∀ outcomes after manifest target planId createdAt snapshotDir,
    snapshotRuntimeNonPrivate crypto outcomes state = .ok after → after.manifest = some manifest →
      (rollbackManifestIntegrity crypto.sha256Hex
        (manifest.document target planId createdAt snapshotDir) after.snapshot).integrityOk = true

variable (crypto state) in
/-- The name of every copied file, with backslashes as separators and without the blanks around
it, leads to a file with the same hash among the files that are written over the directory. -/
def NamesKept : Prop :=
  ∀ file ∈ publicFiles state.runtime, PythonText.strip (slashes file.1) ≠ "" ∧
    ∃ content, recordedFile (PythonText.strip (slashes file.1))
        (writeOver (publicFiles state.runtime) state.snapshot) = some content ∧
      crypto.sha256Hex content = crypto.sha256Hex file.2

/-- The text of a digest. -/
structure IsHexDigest (text : String) : Prop where
  lower : PythonText.lower (PythonText.strip text) = text
  length : text.length = 64

/-- Copies that are completed are those of all public files. -/
theorem snapshotCopies_eq_of_ok {result : List (String × String) × FileTree}
    (taken : snapshotCopies crypto outcomes files snapshot = .ok result) :
    result = ((files.filter fun file => !isPrivateFile file.1).map
        (fun file => (slashes file.1, crypto.sha256Hex file.2)),
      writeOver (files.filter fun file => !isPrivateFile file.1) snapshot) := by
  induction files generalizing snapshot result with
  | nil =>
      cases taken
      rfl
  | cons file files ih =>
      obtain ⟨path, content⟩ := file
      rw [snapshotCopies] at taken
      split at taken
      · rename_i hidden
        rw [List.filter_cons_of_neg (by rw [hidden]; exact Bool.false_ne_true)]
        exact ih taken
      · rename_i plain
        rw [Bool.not_eq_true] at plain
        rw [List.filter_cons_of_pos (by rw [plain]; rfl)]
        split at taken
        · cases taken
        · split at taken
          · cases taken
          · cases rest : snapshotCopies crypto outcomes files
              (snapshot.write (snapshotPath path) content) with
            | error raised =>
                rw [rest] at taken
                cases taken
            | ok others =>
                rw [rest] at taken
                cases taken
                rw [ih rest]
                rfl

theorem snapshotRuntimeNonPrivate_eq_of_ok {after : RuntimeState}
    (taken : snapshotRuntimeNonPrivate crypto outcomes state = .ok after) :
    ∃ skipped, after = { state with
      snapshot := writeOver (publicFiles state.runtime) state.snapshot
      manifest := some ⟨(publicFiles state.runtime).map
        fun file => (slashes file.1, crypto.sha256Hex file.2), skipped⟩ } := by
  unfold snapshotRuntimeNonPrivate at taken
  split at taken
  · cases taken
  · rename_i copied left copies
    split at taken
    · cases taken
    · have same := Prod.mk.inj (snapshotCopies_eq_of_ok copies)
      rw [← Except.ok.inj taken, same.1, same.2]
      exact ⟨_, rfl⟩

/-- The entry of a copied file is found where its name leads. -/
theorem foundFile_entry_iff {path hash : String} (isDigest : IsHexDigest hash)
    {sha256Hex : List UInt8 → String} :
    FoundFile sha256Hex snapshot (.obj [("relative_path", .str path), ("sha256", .str hash)]) ↔
      PythonText.strip path ≠ "" ∧ ∃ content,
        recordedFile (PythonText.strip path) snapshot = some content ∧
          sha256Hex content = hash := by
  have digest : loweredText (.obj [("relative_path", .str path), ("sha256", .str hash)]) "sha256" =
      hash := isDigest.lower
  constructor
  · intro found
    obtain ⟨content, read, same⟩ := found.found
    exact ⟨found.named, content, read, same.trans digest⟩
  · intro kept
    obtain ⟨named, content, read, same⟩ := kept
    exact ⟨rfl, named, digest.symm ▸ isDigest.length, content, read, same.trans digest.symm⟩

theorem freshSnapshotAccepted_iff (hexDigests : ∀ content, IsHexDigest (crypto.sha256Hex content)) :
    FreshSnapshotAccepted crypto state ↔ NamesKept crypto state := by
  have found (copied : FileTree) (left : FileTree) :
      (∀ item ∈ (copied.map fun file => (slashes file.1, crypto.sha256Hex file.2)).map
          (fun file => Json.obj [("relative_path", .str file.1), ("sha256", .str file.2)]),
        FoundFile crypto.sha256Hex left item) ↔
      ∀ file ∈ copied, PythonText.strip (slashes file.1) ≠ "" ∧ ∃ content,
        recordedFile (PythonText.strip (slashes file.1)) left = some content ∧
          crypto.sha256Hex content = crypto.sha256Hex file.2 := by
    simp only [List.forall_mem_map, foundFile_entry_iff (hexDigests _)]
  constructor
  · intro accepted
    obtain ⟨after, taken⟩ := snapshot_smooth crypto state
    obtain ⟨skipped, same⟩ := snapshotRuntimeNonPrivate_eq_of_ok taken
    have passed := accepted smoothOutcomes after _ "" "" "" "" taken (by rw [same])
    obtain ⟨items, listed, each⟩ := integrityOk_iff.mp passed
    have sameItems := Option.some.inj listed
    rw [← sameItems, same] at each
    exact (found _ _).mp each
  · intro kept outcomes after manifest target planId createdAt snapshotDir taken written
    obtain ⟨skipped, same⟩ := snapshotRuntimeNonPrivate_eq_of_ok taken
    rw [same, Option.some.injEq] at written
    rw [integrityOk_iff, ← written, same]
    exact ⟨_, rfl, (found _ _).mpr kept⟩

/-- A name that is its own path: no backslash, no blanks around it, no `..` at its end. -/
structure IsPlainName (path : String) : Prop where
  slashes : slashes path = path
  strip : PythonText.strip path = path
  led : resolveInside path = some path
  file : pathName path ≠ ".."
  named : path ≠ ""

theorem read_writeOver_of_notMem {path : String}
    (plain : ∀ file ∈ files, snapshotPath file.1 = file.1) (apart : path ∉ files.map Prod.fst) :
    (writeOver files snapshot).read path = snapshot.read path := by
  induction files generalizing snapshot with
  | nil => rfl
  | cons file files ih =>
      obtain ⟨here, later⟩ := List.forall_mem_cons.mp plain
      rw [List.map_cons, List.mem_cons, not_or] at apart
      rw [writeOver, List.foldl_cons, here]
      exact (ih later apart.2).trans (FileTree.read_write_of_ne apart.1 file.2 snapshot)

theorem read_writeOver {file : String × List UInt8}
    (plain : ∀ file ∈ files, snapshotPath file.1 = file.1) (once : (files.map Prod.fst).Nodup)
    (among : file ∈ files) : (writeOver files snapshot).read file.1 = some file.2 := by
  induction files generalizing snapshot with
  | nil => cases among
  | cons other files ih =>
      obtain ⟨here, later⟩ := List.forall_mem_cons.mp plain
      rw [List.map_cons, List.nodup_cons] at once
      rcases List.mem_cons.mp among with same | inside
      · rw [same, writeOver, List.foldl_cons, here]
        exact (read_writeOver_of_notMem later once.1).trans
          (FileTree.read_write_self other.1 other.2 snapshot)
      · exact ih later once.2 inside

/-- A runtime with plain names is snapshot well, whatever the directory holds. -/
theorem namesKept_of_plain
    (plain : ∀ file ∈ publicFiles state.runtime, IsPlainName file.1) : NamesKept crypto state := by
  intro file among
  have here := plain file among
  have once : ((publicFiles state.runtime).map Prod.fst).Nodup :=
    (FileTree.nodup_listing state.runtime).sublist (List.filter_sublist.map _)
  have stored : (writeOver (publicFiles state.runtime) state.snapshot).read file.1 = some file.2 :=
    read_writeOver (fun other inside => snapshotPath_of_slashes (plain other inside).slashes) once
      among
  rw [here.slashes, here.strip]
  refine ⟨here.named, file.2, ?_, rfl⟩
  rw [recordedFile, here.led, Option.bind_some, fileAt, if_neg here.file, stored]

end Fresh

/-! ## The decision -/

section Decision

variable {sha256Hex : List UInt8 → String} {loadCrl : List UInt8 → Option (List Int)}
  {loadCertificate : String → FileTree → Option CertificateFacts} {input : PreflightInput}

/-- An entry of the inventory is about a certificate. -/
def SameFingerprint (certificate : CertificateFacts) (item : Json) : Prop :=
  loweredText item "fingerprint_sha256" =
    PythonText.lower (PythonText.strip certificate.fingerprintSha256)

/-- The entry of a certificate in an inventory, or an empty one. -/
def gdsEntry (inventory : List Json) (certificate : CertificateFacts) : Json :=
  (findCertificateByFingerprint inventory certificate.fingerprintSha256).getD (.obj [])

/-- What a call is given and finds when a rollback is eligible. -/
structure Eligible (sha256Hex : List UInt8 → String) (loadCrl : List UInt8 → Option (List Int))
    (loadCertificate : String → FileTree → Option CertificateFacts) (input : PreflightInput)
    (manifest : Json) (snapshot : FileTree) (certificate : CertificateFacts)
    (inventory items : List Json) : Prop where
  target : input.target ∈ ["fuxa", "opcua-server"]
  planId : input.planId ≠ ""
  manifestFound : input.manifest = some (some manifest)
  object : manifest.isObject = true
  snapshotFound : input.snapshotDir (PythonText.strip (textOf manifest "snapshot_dir")) =
    some (some snapshot)
  loaded : loadCertificate input.target snapshot = some certificate
  fetched : fetchCertificateInventory input.inventory = .ok inventory
  runtime : ∃ runtimeCertificate statuses,
    loadCertificate input.target input.runtime = some runtimeCertificate ∧
      packageStatuses input (gdsEntry inventory runtimeCertificate)
        (gdsEntry inventory certificate) runtimeCertificate certificate = .ok statuses
  intact : EachFound sha256Hex manifest snapshot items
  noKey : privateKeyCopied manifest = false
  status : rollbackStatus (gdsEntry inventory certificate) ≠ "revoked"
  notInCrl : rollbackSerialInCrl loadCrl input.crlDer certificate.serialNumber = false
  written : input.reportWritten = true

theorem rollbackBlockingReasons_eq_nil_iff {integrityOk keyCopied revoked : Bool} :
    rollbackBlockingReasons integrityOk keyCopied revoked = [] ↔
      integrityOk = true ∧ keyCopied = false ∧ revoked = false := by
  cases integrityOk <;> cases keyCopied <;> cases revoked <;> decide

theorem writePreflight_eq_ok_iff {report other : RollbackPreflight} :
    writePreflight input report = .ok other ↔ input.reportWritten = true ∧ report = other := by
  unfold writePreflight
  cases input.reportWritten with
  | false => exact iff_of_false nofun fun written => nomatch written.1
  | true => rw [if_neg (by decide), Except.ok.injEq, eq_self_iff_true, true_and]

/-- An eligible report of a snapshot. -/
theorem preflightSnapshot_eligible_iff {base : RollbackPreflight} {manifest : Json}
    {snapshot : FileTree} :
    (∃ report, preflightSnapshot sha256Hex loadCrl loadCertificate input base manifest snapshot =
        .ok report ∧ report.decision = "eligible") ↔
      ∃ certificate inventory items,
        loadCertificate input.target snapshot = some certificate ∧
        fetchCertificateInventory input.inventory = .ok inventory ∧
        (∃ statuses, packageStatuses input (gdsEntry inventory base.runtimeCertificate)
          (gdsEntry inventory certificate) base.runtimeCertificate certificate = .ok statuses) ∧
        EachFound sha256Hex manifest snapshot items ∧ privateKeyCopied manifest = false ∧
        (rollbackStatus (gdsEntry inventory certificate) ≠ "revoked" ∧
          rollbackSerialInCrl loadCrl input.crlDer certificate.serialNumber = false) ∧
        input.reportWritten = true := by
  unfold preflightSnapshot
  cases loaded : loadCertificate input.target snapshot with
  | none =>
      refine iff_of_false (fun found => nomatch found.choose_spec.1) fun found => ?_
      obtain ⟨_, _, _, impossible, _⟩ := found
      cases impossible
  | some certificate =>
      dsimp only
      constructor
      · intro found
        obtain ⟨report, done, eligible⟩ := found
        obtain ⟨inventory, fetched, done⟩ := Fallible.bind_eq_ok.mp done
        obtain ⟨statuses, packages, done⟩ := Fallible.bind_eq_ok.mp done
        obtain ⟨written, same⟩ := writePreflight_eq_ok_iff.mp done
        rw [← same] at eligible
        dsimp only at eligible
        split at eligible
        · rename_i none
          obtain ⟨intact, noKey, clear⟩ :=
            rollbackBlockingReasons_eq_nil_iff.mp (List.isEmpty_iff.mp none)
          obtain ⟨items, each⟩ := integrityOk_iff.mp intact
          rw [Bool.or_eq_false_iff, beq_eq_false_iff_ne] at clear
          exact ⟨certificate, inventory, items, rfl, fetched, ⟨statuses, packages⟩, each, noKey,
            clear, written⟩
        · exact absurd eligible (by decide)
      · intro found
        obtain ⟨_, inventory, items, same, fetched, ⟨statuses, packages⟩, each, noKey, clear,
          written⟩ := found
        cases same
        have intact := integrityOk_iff.mpr ⟨items, each⟩
        have revoked : (rollbackStatus (gdsEntry inventory certificate) == "revoked" ||
            rollbackSerialInCrl loadCrl input.crlDer certificate.serialNumber) = false := by
          rw [clear.2, beq_eq_false_iff_ne.mpr clear.1]
          rfl
        have reasons := rollbackBlockingReasons_eq_nil_iff.mpr ⟨intact, noKey, revoked⟩
        refine ⟨_, Fallible.bind_eq_ok.mpr ⟨inventory, fetched, Fallible.bind_eq_ok.mpr
          ⟨statuses, packages, writePreflight_eq_ok_iff.mpr ⟨written, rfl⟩⟩⟩, ?_⟩
        exact if_pos (List.isEmpty_iff.mpr reasons)

/-- A rollback is eligible exactly in these circumstances. -/
theorem eligible_iff :
    (∃ report, rollbackPreflightOnce sha256Hex loadCrl loadCertificate input = .ok report ∧
        report.decision = "eligible") ↔
      ∃ manifest snapshot certificate inventory items,
        Eligible sha256Hex loadCrl loadCertificate input manifest snapshot certificate inventory
          items := by
  constructor
  · intro found
    obtain ⟨report, done, eligible⟩ := found
    have early : "not_applicable" ≠ "eligible" := by decide
    unfold rollbackPreflightOnce at done
    split at done
    · cases done
    · rename_i target
      split at done
      · cases done
      · rename_i planId
        split at done
        · cases done
        · rename_i runtimeCertificate runtime
          dsimp only at done
          split at done
          · rw [← (writePreflight_eq_ok_iff.mp done).2] at eligible
            exact absurd eligible early
          · cases done
          · rename_i manifest manifestFound
            unfold preflightManifest at done
            split at done
            · cases done
            · rename_i object
              split at done
              · cases done
              · rw [← (writePreflight_eq_ok_iff.mp done).2] at eligible
                exact absurd eligible early
              · rename_i snapshot snapshotFound
                obtain ⟨certificate, inventory, items, loaded, fetched, ⟨statuses, packages⟩, each,
                  noKey, clear, written⟩ :=
                    preflightSnapshot_eligible_iff.mp ⟨report, done, eligible⟩
                exact ⟨manifest, snapshot, certificate, inventory, items, not_not.mp target, planId,
                  manifestFound, Bool.not_eq_false _ ▸ object, snapshotFound, loaded, fetched,
                  ⟨runtimeCertificate, statuses, runtime, packages⟩, each, noKey, clear.1, clear.2,
                  written⟩
  · intro found
    obtain ⟨manifest, snapshot, certificate, inventory, items, eligible⟩ := found
    obtain ⟨runtimeCertificate, statuses, runtime, packages⟩ := eligible.runtime
    have object : ¬manifest.isObject = false := by
      rw [Bool.not_eq_false]
      exact eligible.object
    rw [rollbackPreflightOnce, if_neg (not_not.mpr eligible.target), if_neg eligible.planId,
      runtime]
    dsimp only
    rw [eligible.manifestFound]
    dsimp only
    rw [preflightManifest, if_neg object, eligible.snapshotFound]
    exact preflightSnapshot_eligible_iff.mpr ⟨certificate, inventory, items, eligible.loaded,
      eligible.fetched, ⟨statuses, packages⟩, eligible.intact, eligible.noKey,
      ⟨eligible.status, eligible.notInCrl⟩, eligible.written⟩

variable (sha256Hex loadCrl loadCertificate input) in
/-- An eligible rollback is one to the recorded snapshot, with a certificate that the GDS knows
and that is not revoked. -/
def EligibleSound : Prop :=
  (∃ report, rollbackPreflightOnce sha256Hex loadCrl loadCertificate input = .ok report ∧
      report.decision = "eligible") →
    ∃ manifest snapshot certificate inventory,
      input.manifest = some (some manifest) ∧
      input.snapshotDir (PythonText.strip (textOf manifest "snapshot_dir")) =
        some (some snapshot) ∧
      RecordsExactly sha256Hex manifest snapshot ∧
      loadCertificate input.target snapshot = some certificate ∧
      fetchCertificateInventory input.inventory = .ok inventory ∧
      (∃ item ∈ inventory, SameFingerprint certificate item) ∧
      (∀ item ∈ inventory, SameFingerprint certificate item →
        loweredText item "status" ≠ "revoked") ∧
      certificate.serialNumber ∉ listedSerials loadCrl input.crlDer

/-- A serial that does not match is not in the list. -/
theorem notMem_listedSerials {crlDer : Option (List UInt8)} {serialNumber : Int}
    (absent : rollbackSerialInCrl loadCrl crlDer serialNumber = false) :
    serialNumber ∉ listedSerials loadCrl crlDer := by
  intro listed
  have among := mem_crlSerials.mpr ⟨serialNumber, listed, .inl rfl⟩
  rw [rollbackSerialInCrl, List.contains_iff_mem.mpr among] at absent
  cases absent

theorem eligibleSound_iff :
    EligibleSound sha256Hex loadCrl loadCertificate input ↔
      ∀ manifest snapshot certificate inventory items,
        Eligible sha256Hex loadCrl loadCertificate input manifest snapshot certificate inventory
          items →
        Covers sha256Hex snapshot items ∧
          (∃ item ∈ inventory, SameFingerprint certificate item) ∧
          ∀ item ∈ inventory, SameFingerprint certificate item →
            loweredText item "status" ≠ "revoked" := by
  unfold EligibleSound
  rw [eligible_iff]
  constructor
  · intro sound manifest snapshot certificate inventory items eligible
    obtain ⟨_, _, _, _, sameManifest, sameSnapshot, exact, sameCertificate, sameInventory, known,
      valid, _⟩ := sound ⟨manifest, snapshot, certificate, inventory, items, eligible⟩
    rw [eligible.manifestFound] at sameManifest
    cases sameManifest
    rw [eligible.snapshotFound] at sameSnapshot
    cases sameSnapshot
    rw [eligible.loaded] at sameCertificate
    cases sameCertificate
    rw [eligible.fetched] at sameInventory
    cases sameInventory
    exact ⟨(recordsExactly_iff eligible.intact).mp exact, known, valid⟩
  · intro sound found
    obtain ⟨manifest, snapshot, certificate, inventory, items, eligible⟩ := found
    obtain ⟨covers, known, valid⟩ := sound _ _ _ _ _ eligible
    exact ⟨manifest, snapshot, certificate, inventory, eligible.manifestFound,
      eligible.snapshotFound, (recordsExactly_iff eligible.intact).mpr covers, eligible.loaded,
      eligible.fetched, known, valid, notMem_listedSerials eligible.notInCrl⟩

end Decision

/-! ## The snapshot as a whole -/

/-- When a fresh snapshot passes its check, when what passes is exactly what is recorded, and when
an eligible rollback leads to a recorded snapshot with a known and valid certificate. -/
theorem rollback_snapshot_integrity_iff {crypto : RuntimeCrypto}
    (hexDigests : ∀ content, IsHexDigest (crypto.sha256Hex content)) :
    (∀ state, FreshSnapshotAccepted crypto state ↔ NamesKept crypto state) ∧
    (∀ manifest snapshot, IntegritySound crypto.sha256Hex manifest snapshot ↔
      ∀ items, EachFound crypto.sha256Hex manifest snapshot items →
        Covers crypto.sha256Hex snapshot items) ∧
    ∀ loadCrl loadCertificate input,
      EligibleSound crypto.sha256Hex loadCrl loadCertificate input ↔
        ∀ manifest snapshot certificate inventory items,
          Eligible crypto.sha256Hex loadCrl loadCertificate input manifest snapshot certificate
            inventory items →
          Covers crypto.sha256Hex snapshot items ∧
            (∃ item ∈ inventory, SameFingerprint certificate item) ∧
            ∀ item ∈ inventory, SameFingerprint certificate item →
              loweredText item "status" ≠ "revoked" :=
  ⟨fun _ => freshSnapshotAccepted_iff hexDigests, fun _ _ => integritySound_iff,
    fun _ _ _ => eligibleSound_iff⟩

/-- The digest of a file with the single byte one. -/
def oneByteCrypto : RuntimeCrypto where
  sha256Hex := fun _ => "4bf5122f344554c53bde2ebb8cd2b7e3d1600ad631c385a5d7cce23c7785459a"
  publicKeyOfCertificate := fun _ => none
  publicKeyOfPrivateKey := fun _ => none

/-- A runtime with one file, and what is in the snapshot directory of the plan. -/
def oneByteState (snapshot : FileTree) : RuntimeState where
  runtime := [("c", [1])]
  snapshot := snapshot
  manifest := none
  receipts := []

theorem oneByteCrypto_hexDigests (content : List UInt8) :
    IsHexDigest (oneByteCrypto.sha256Hex content) := by
  have digest : IsHexDigest (oneByteCrypto.sha256Hex [1]) :=
    ⟨by decide +kernel, by decide +kernel⟩
  exact digest

theorem publicFiles_oneByteState (snapshot : FileTree) :
    publicFiles (oneByteState snapshot).runtime = [("c", [1])] := by
  have files : publicFiles [("c", [1])] = [("c", [1])] := by decide +kernel
  exact files

theorem isPlainName_c : IsPlainName "c" where
  slashes := by decide +kernel
  strip := by decide +kernel
  led := by decide +kernel
  file := by decide +kernel
  named := by decide

/-- The snapshot of a runtime with one file passes its check. -/
theorem one_file_snapshot_accepted :
    FreshSnapshotAccepted oneByteCrypto (oneByteState []) := by
  refine ((rollback_snapshot_integrity_iff oneByteCrypto_hexDigests).1 _).mpr ?_
  apply namesKept_of_plain
  rw [publicFiles_oneByteState, List.forall_mem_singleton]
  exact isPlainName_c

/-- A file that an earlier attempt left in the directory of the plan passes unseen. -/
theorem stale_file_accepted :
    ∃ after manifest, snapshotRuntimeNonPrivate oneByteCrypto smoothOutcomes
        (oneByteState [("d", [1])]) = .ok after ∧ after.manifest = some manifest ∧
      ¬IntegritySound oneByteCrypto.sha256Hex (manifest.document "fuxa" "p" "t" "PKI")
        after.snapshot := by
  obtain ⟨after, taken⟩ := snapshot_smooth oneByteCrypto (oneByteState [("d", [1])])
  obtain ⟨skipped, same⟩ := snapshotRuntimeNonPrivate_eq_of_ok taken
  rw [publicFiles_oneByteState] at same
  have stored : after.snapshot = writeOver [("c", [1])] [("d", [1])] := by rw [same]; rfl
  refine ⟨after, _, taken, by rw [same], fun sound => ?_⟩
  have each : ∀ item ∈ [Json.obj [("relative_path", .str (slashes "c")),
      ("sha256", .str (oneByteCrypto.sha256Hex [1]))]],
      FoundFile oneByteCrypto.sha256Hex after.snapshot item := by
    rw [List.forall_mem_singleton, foundFile_entry_iff (oneByteCrypto_hexDigests [1]), stored,
      isPlainName_c.slashes, isPlainName_c.strip]
    refine ⟨isPlainName_c.named, [1], ?_, rfl⟩
    decide +kernel
  have covers := integritySound_iff.mp sound _ ⟨rfl, each⟩
  have there : (after.snapshot.read "d").isSome = true := by
    rw [stored]
    decide +kernel
  obtain ⟨item, among, names⟩ := covers.listed "d" there
  rw [List.map_singleton, List.map_singleton, List.mem_singleton] at among
  have led : resolveInside (slashes "c") = some "d" := by
    have written := names.led
    rw [among] at written
    exact written
  rw [isPlainName_c.slashes, isPlainName_c.led] at led
  exact absurd (Option.some.inj led) (by decide)

end OpcuaGds.Agent
