import OpcuaGds.Agent.StageFailures

/-! # What a failed apply leaves behind

When `_write_target_stage_material` raises, only CRLs that were in the snapshot and are restored
are taken back. When the CRL directories and the certificate files are as before.
-/

namespace OpcuaGds.Agent

open FileTree (Changed Course courseOf lastWritten LeftAt isTemporary)

section Statements

variable (env : StageEnvironment) (layout : StageLayout) (outcomes : StageOutcomes)
  (uuids : Nat → String) (artifact : Json) (tree : FileTree)

/-- Directly in one of the CRL directories. -/
def inCrlDir (path : String) : Bool :=
  (activeCrlDirs layout).any fun dir => path == FileTree.join dir (FileTree.nameOf path)

/-- Under one of the certificate directories, and not a temporary file. -/
def IsCertificateFile (path : String) : Prop :=
  isTemporary path = false ∧ ∃ dir ∈ [layout.issuerCertsDir, layout.trustedCertsDir],
    ∃ name, path = FileTree.join dir name

/-- The CRL directories hold the files that they held, and the CA and trusted certificate
files are as they were. -/
def ApplyUndone (before after : FileTree) : Prop :=
  ∀ path, inCrlDir layout path = true ∨ IsCertificateFile layout path →
    after.read path = before.read path

def caCourse : Course :=
  courseOf (fun _ => false) outcomes.caWrite 0 (caPart env layout artifact).writes

def crlCourse : Course :=
  courseOf (isOptionalCrl layout) outcomes.crlWrite 0 (crlPart layout artifact).writes

def certificateCourse : Course :=
  courseOf (fun _ => false) outcomes.certificateWrite 0
    (certificatePart env layout uuids artifact).writes

/-- The CA chain is written and the compat directory is there. -/
def CaPasses : Prop :=
  (caCourse env layout outcomes artifact).passes = true ∧
    (caPart env layout artifact).complete = true ∧
      ((compatCrlDir layout).isSome → outcomes.compatDirMade = true)

def IncomingCrls : Prop := ¬ (rootCrlText artifact = "" ∧ intermediateCrlText artifact = "")

/-- A controlled alias that can be removed. -/
def removedAlias (path : String) : Bool :=
  inCrlDir layout path && isGdsCrlAlias path && outcomes.unlinked path

/-- The validation meets this file: it was written, or was there and not removed. -/
def MeetsCrl (path : String) (content : List UInt8) : Prop :=
  inCrlDir layout path = true ∧ isCrlFile path = true ∧
    (lastWritten (crlCourse layout outcomes artifact).written path).or
      (if removedAlias layout outcomes path then none else tree.read path) = some content

def CrlsWritten : Prop :=
  (crlCourse layout outcomes artifact).passes = true ∧ (crlPart layout artifact).complete = true

/-- No CRL file makes the validation raise. -/
def CrlsReadable : Prop :=
  ∀ path content, MeetsCrl layout outcomes artifact tree path content →
    outcomes.validationRead path = true

def CrlsValid : Prop :=
  ∀ path content, MeetsCrl layout outcomes artifact tree path content →
    isCrlProblem env (path, content) = false

/-- The CRLs are written, and the validation can read them and finds no problem. -/
def CrlsPass : Prop :=
  CrlsWritten layout outcomes artifact ∧ CrlsReadable layout outcomes artifact tree ∧
    CrlsValid env layout outcomes artifact tree

/-- The validation can read the CRLs and finds a problem. -/
def RollsBack : Prop :=
  CrlsWritten layout outcomes artifact ∧ CrlsReadable layout outcomes artifact tree ∧
    ¬ CrlsValid env layout outcomes artifact tree

/-- A CRL file of the snapshot. -/
def Snapshotted (path : String) : Prop :=
  inCrlDir layout path = true ∧ isCrlFile path = true ∧ (tree.read path).isSome = true ∧
    outcomes.snapshotRead path = true

/-- The rollback writes this file again. -/
def RolledBack (path : String) : Prop :=
  RollsBack env layout outcomes artifact tree ∧ Snapshotted layout outcomes tree path ∧
    outcomes.restore path = .done

/-- A temporary file that a failed restoration leaves. -/
def RestoreLeaves (path : String) : Prop :=
  ∃ crl, Snapshotted layout outcomes tree crl ∧ ∃ denied name content,
    outcomes.restore crl = .fails denied (some (name, content)) ∧
      path = FileTree.dirPart crl ++ name.text

/-- Every file was there with the content that it is given at last. -/
def AlreadyThere (writes : FileWrites) : Prop :=
  ∀ path content, lastWritten writes path = some content → tree.read path = some content

/-- No temporary file stays in a CRL directory under a name that was free. -/
def NoneLeftInCrlDirs (leftAt : String → Prop) : Prop :=
  ∀ path, leftAt path → inCrlDir layout path = true → (tree.read path).isSome = true

/-- Every CRL that was written and every alias that was removed is rolled back, or was there
with the content that is written. -/
def CrlsUnchanged : Prop :=
  ∀ path, (lastWritten (crlCourse layout outcomes artifact).written path).isSome = true ∨
      removedAlias layout outcomes path = true ∧ (tree.read path).isSome = true →
    RolledBack env layout outcomes artifact tree path ∨
      ∃ content, lastWritten (crlCourse layout outcomes artifact).written path = some content ∧
        tree.read path = some content

/-- The call comes to the peer certificates. -/
def ReachesCertificates : Prop :=
  CaPasses env layout outcomes artifact ∧
    (IncomingCrls artifact → CrlsPass env layout outcomes artifact tree)

/-- The writes before the failure changed nothing that is not rolled back. -/
structure WritesHarmless : Prop where
  caChain : ¬ ReachesCertificates env layout outcomes artifact tree →
    AlreadyThere tree (caCourse env layout outcomes artifact).written
  crls : CaPasses env layout outcomes artifact → IncomingCrls artifact →
    CrlsUnchanged env layout outcomes artifact tree
  certificates : ReachesCertificates env layout outcomes artifact tree →
    AlreadyThere tree ((caCourse env layout outcomes artifact).written ++
      (certificateCourse env layout outcomes uuids artifact).written)

/-- The failed writes left nothing in the CRL directories. -/
structure LeftoversHarmless : Prop where
  caChain : NoneLeftInCrlDirs layout tree (LeftAt (caCourse env layout outcomes artifact).leftovers)
  crls : CaPasses env layout outcomes artifact → IncomingCrls artifact →
    NoneLeftInCrlDirs layout tree (LeftAt (crlCourse layout outcomes artifact).leftovers)
  restored : CaPasses env layout outcomes artifact → IncomingCrls artifact →
    RollsBack env layout outcomes artifact tree →
      NoneLeftInCrlDirs layout tree (RestoreLeaves layout outcomes tree)
  certificates : ReachesCertificates env layout outcomes artifact tree →
    NoneLeftInCrlDirs layout tree
      (LeftAt (certificateCourse env layout outcomes uuids artifact).leftovers)

/-- The call fails before it writes, or what it did until the failure is harmless. -/
def FailureHarmless : Prop :=
  outcomes.dirsMade = true → artifact.isObject = true →
    WritesHarmless env layout outcomes uuids artifact tree ∧
      LeftoversHarmless env layout outcomes uuids artifact tree

end Statements

/-! ## Names -/

section Names

variable {layout : StageLayout}

theorem isCrlFile_of_alias {path : String} (isAlias : isGdsCrlAlias path = true) :
    isCrlFile path = true := by
  rw [isGdsCrlAlias, List.contains_iff_mem] at isAlias
  rw [isCrlFile]
  generalize PythonText.lower (FileTree.nameOf path) = name at isAlias
  revert name
  decide

theorem permanent_of_crlFile {path : String} (isCrl : isCrlFile path = true) :
    isTemporary path = false := by
  have dot : '.' ∈ (PythonText.lower (FileTree.nameOf path)).toList := by
    rw [isCrlFile, Bool.or_eq_true, hasSuffix, hasSuffix, List.isSuffixOf_iff_suffix,
      List.isSuffixOf_iff_suffix] at isCrl
    rcases isCrl with ending | ending
    · exact ending.subset (by decide)
    · exact ending.subset (by decide)
  rw [PythonText.lower, String.toList_ofList] at dot
  obtain ⟨c, member, lowered⟩ := List.mem_map.mp dot
  have same := PythonText.eq_of_lowerChar lowered (by decide)
  rw [isTemporary, Bool.not_eq_false', List.contains_iff_mem, ← same]
  exact member

theorem inCrlDir_join {dir name : String} (active : dir ∈ activeCrlDirs layout)
    (plain : '/' ∉ name.toList) : inCrlDir layout (FileTree.join dir name) = true := by
  rw [inCrlDir, List.any_eq_true]
  refine ⟨dir, active, ?_⟩
  rw [FileTree.nameOf_join plain, beq_self_eq_true]

theorem inCrlDir_iff {path : String} : inCrlDir layout path = true ↔
    ∃ dir ∈ activeCrlDirs layout, path = FileTree.join dir (FileTree.nameOf path) := by
  simp only [inCrlDir, List.any_eq_true, beq_iff_eq]

/-- A certificate file is neither a CRL nor a temporary file. -/
theorem certificatePath_kind {path : String} (isName : IsCertificateName path) :
    isCrlFile path = false ∧ isTemporary path = false := by
  have kind (front ending : String) (plain : '/' ∉ ending.toList) (dot : '.' ∈ ending.toList)
      (other : ∀ chars : List Char,
        ".crl".toList.isSuffixOf (chars ++ (PythonText.lower ending).toList) = false ∧
          ".crl.b64".toList.isSuffixOf (chars ++ (PythonText.lower ending).toList) = false) :
      isCrlFile (front ++ ending) = false ∧ isTemporary (front ++ ending) = false := by
    rw [isCrlFile, isTemporary, FileTree.nameOf_append plain, PythonText.lower_append,
      hasSuffix, hasSuffix, String.toList_append, String.toList_append]
    constructor
    · obtain ⟨first, second⟩ := other (PythonText.lower (FileTree.nameOf front)).toList
      rw [first, second]
      rfl
    · rw [Bool.not_eq_false', List.contains_iff_mem]
      exact List.mem_append_right _ dot
  have split {ending : String} (has : hasSuffix ending path = true) :
      ∃ front, path = front ++ ending := by
    obtain ⟨front, same⟩ := List.isSuffixOf_iff_suffix.mp has
    refine ⟨String.ofList front, ?_⟩
    rw [← String.toList_inj, String.toList_append, String.toList_ofList, same]
  rcases isName with pem | der
  · obtain ⟨front, rfl⟩ := split pem
    exact kind front ".pem" (by decide) (by decide) fun chars => by
      simp [List.isSuffixOf, List.isPrefixOf, PythonText.lower, PythonText.lowerChar]
  · obtain ⟨front, rfl⟩ := split der
    exact kind front ".der" (by decide) (by decide) fun chars => by
      simp [List.isSuffixOf, List.isPrefixOf, PythonText.lower, PythonText.lowerChar]

theorem IsCertificateName.append {name : String} (isName : IsCertificateName name)
    (front : String) : IsCertificateName (front ++ name) := by
  have longer {suffix : String} (has : hasSuffix suffix name = true) :
      hasSuffix suffix (front ++ name) = true := by
    rw [hasSuffix, List.isSuffixOf_iff_suffix] at has ⊢
    rw [String.toList_append]
    exact has.trans (List.suffix_append _ _)
  exact isName.imp longer longer

end Names

/-! ## The writes of the parts -/

section Writes

variable {env : StageEnvironment} {layout : StageLayout} {uuids : Nat → String} {artifact : Json}

theorem StageStep.part_writes (step : StageStep) : step.part.writes = step.log := by
  cases step <;> rfl

theorem mem_part_of_adds {allowed : String × List UInt8 → Prop} {step : StageStep}
    (adds : Adds allowed ⟨[], []⟩ step) : ∀ write ∈ step.part.writes, allowed write := by
  obtain ⟨suffix, log, inSuffix⟩ := adds.log
  rw [step.part_writes, log, List.nil_append]
  exact inSuffix

/-- A write of a certificate directory. -/
def IsCertificateWrite (layout : StageLayout) (write : String × List UInt8) : Prop :=
  IsCertificateFile layout write.1 ∧ isCrlFile write.1 = false

theorem isCertificateWrite_join {name dir : String}
    (among : dir ∈ [layout.issuerCertsDir, layout.trustedCertsDir])
    (isName : IsCertificateName name) (content : List UInt8) :
    IsCertificateWrite layout (FileTree.join dir name, content) := by
  obtain ⟨notCrl, permanent⟩ := certificatePath_kind (isName.append (dir ++ "/"))
  exact ⟨⟨permanent, dir, among, name, rfl⟩, notCrl⟩

variable (env layout artifact) in
theorem caPart_writes :
    ∀ write ∈ (caPart env layout artifact).writes, IsCertificateWrite layout write := by
  apply mem_part_of_adds
  apply adds_writeCaChain
  · exact fun name isName => isCertificateWrite_join List.mem_cons_self isName.isCertificateName
  · exact fun name isName =>
      isCertificateWrite_join (List.mem_cons_of_mem _ List.mem_cons_self) isName.isCertificateName

variable (env layout uuids artifact) in
theorem certificatePart_writes :
    ∀ write ∈ (certificatePart env layout uuids artifact).writes,
      IsCertificateWrite layout write := by
  apply mem_part_of_adds
  apply adds_writeCertificates
  exact fun name isName =>
    isCertificateWrite_join (List.mem_cons_of_mem _ List.mem_cons_self) isName.isCertificateName

variable (layout artifact) in
theorem crlPart_writes :
    ∀ write ∈ (crlPart layout artifact).writes,
      inCrlDir layout write.1 = true ∧ isGdsCrlAlias write.1 = true := by
  have inDir {dir : String} (name : String) (active : dir ∈ activeCrlDirs layout)
      (plain : '/' ∉ name.toList)
      (isAlias : isGdsCrlAlias name = true) (named : FileTree.nameOf name = name) :
      inCrlDir layout (FileTree.join dir name) = true ∧
        isGdsCrlAlias (FileTree.join dir name) = true := by
    refine ⟨inCrlDir_join active plain, ?_⟩
    rw [isGdsCrlAlias, named] at isAlias
    rwa [isGdsCrlAlias, FileTree.nameOf_join plain]
  have current {dir : String} (active : dir ∈ activeCrlDirs layout) :=
    inDir "current.crl" active (by decide) (by decide) (by decide)
  apply mem_part_of_adds
  apply Adds.bind
  · apply adds_writeCrl
    intro content _ dir active
    exact ⟨inDir _ active (by decide) (by decide) (by decide), fun _ => current active⟩
  · intro state _
    apply adds_writeCrl
    intro content _ dir active
    exact ⟨inDir _ active (by decide) (by decide) (by decide), fun _ => current active⟩

variable (layout artifact) in
theorem crlPart_permanent :
    ∀ write ∈ (crlPart layout artifact).writes, isTemporary write.1 = false :=
  fun write member =>
    permanent_of_crlFile (isCrlFile_of_alias (crlPart_writes layout artifact write member).2)

/-- The files after a part, whether it raises or not. -/
theorem StagePart.run_spec {part : StagePart} (optional : String → Bool)
    (outcome : Nat → FileTree.WriteOutcome)
    (permanent : ∀ write ∈ part.writes, isTemporary write.1 = false) (tree : FileTree) :
    ∃ after, part.run optional outcome tree =
        (if (courseOf optional outcome 0 part.writes).passes = true ∧ part.complete = true then
          .ok after else .error after) ∧
      Changed (fun path => (lastWritten (courseOf optional outcome 0 part.writes).written path).map
          some) (LeftAt (courseOf optional outcome 0 part.writes).leftovers) tree after ∧
      (tree.Distinct → part.run optional outcome tree = .ok after → after.Distinct) := by
  obtain ⟨after, same, changed⟩ :=
    FileTree.tryWrites_spec optional outcome permanent 0 tree
  refine ⟨after, ?_, changed, ?_⟩
  · rw [StagePart.run, same]
    cases (courseOf optional outcome 0 part.writes).passes <;> cases part.complete <;> rfl
  · intro distinct passed
    rw [StagePart.run] at passed
    split at passed
    · cases passed
    · rename_i wrote
      split at passed
      · cases passed
        exact distinct.tryWrites wrote
      · cases passed

end Writes

/-! ## The CRLs -/

section Crls

variable {env : StageEnvironment} {layout : StageLayout} {outcomes : StageOutcomes}
  {artifact : Json} {tree : FileTree}

theorem read_removeUnlinked (path : String) (tree : FileTree) :
    (removeUnlinked layout outcomes tree).read path =
      if removedAlias layout outcomes path then none else tree.read path := by
  have oneDir (dir : String) (tree : FileTree) :
      FileTree.read path (((tree.filesIn dir).filter fun file =>
          isGdsCrlAlias file.1 && outcomes.unlinked file.1).foldl
            (fun tree file => tree.delete file.1) tree) =
        if (path == FileTree.join dir (FileTree.nameOf path)) && isGdsCrlAlias path &&
          outcomes.unlinked path then none else tree.read path := by
    rw [FileTree.read_deleteAll]
    cases found : tree.read path with
    | none => simp only [ite_self]
    | some content =>
        have member := FileTree.mem_of_read found
        congr 1
        rw [List.mem_map, eq_iff_iff, Bool.and_eq_true, Bool.and_eq_true, beq_iff_eq]
        constructor
        · intro listed
          obtain ⟨file, kept, here⟩ := listed
          obtain ⟨inDir, removed⟩ := List.mem_filter.mp kept
          rw [Bool.and_eq_true, here] at removed
          exact ⟨⟨here ▸ (FileTree.mem_filesIn.mp inDir).2, removed.1⟩, removed.2⟩
        · intro removed
          obtain ⟨⟨inDir, isAlias⟩, unlinked⟩ := removed
          refine ⟨(path, content), List.mem_filter.mpr ⟨?_, ?_⟩, rfl⟩
          · exact FileTree.mem_filesIn.mpr ⟨member, inDir⟩
          · rw [isAlias, unlinked]
            rfl
  rw [removeUnlinked, removedAlias, inCrlDir]
  induction activeCrlDirs layout generalizing tree with
  | nil => rfl
  | cons dir rest ih =>
      rw [List.foldl_cons, ih, oneDir, List.any_cons]
      generalize (path == FileTree.join dir (FileTree.nameOf path)) = here
      generalize rest.any (fun dir => path == FileTree.join dir (FileTree.nameOf path)) = later
      generalize isGdsCrlAlias path = isAlias
      generalize outcomes.unlinked path = unlinked
      cases here <;> cases later <;> cases isAlias <;> cases unlinked <;> rfl

theorem distinct_removeUnlinked (distinct : tree.Distinct) :
    (removeUnlinked layout outcomes tree).Distinct := by
  have all (files tree : FileTree) (distinct : tree.Distinct) :
      FileTree.Distinct (files.foldl (fun tree file => tree.delete file.1) tree) := by
    induction files generalizing tree with
    | nil => exact distinct
    | cons file rest ih => exact ih _ (distinct.delete _)
  rw [removeUnlinked]
  induction activeCrlDirs layout generalizing tree with
  | nil => exact distinct
  | cons dir rest ih => exact ih (all _ _ distinct)

/-- The removal as a change. -/
theorem removeUnlinked_changed (tree : FileTree) :
    Changed (fun path => if removedAlias layout outcomes path then some none else none)
      (fun _ => False) tree (removeUnlinked layout outcomes tree) where
  permanent := by
    intro path _
    rw [read_removeUnlinked]
    split <;> rfl
  temporary := by
    intro path isTemporary there
    rw [read_removeUnlinked, if_neg]
    intro removed
    rw [removedAlias, Bool.and_eq_true, Bool.and_eq_true] at removed
    rw [permanent_of_crlFile (isCrlFile_of_alias removed.1.2)] at isTemporary
    cases isTemporary
  isLeft := by
    intro path _ free
    rw [read_removeUnlinked, free, ite_self]
    exact iff_of_false Bool.false_ne_true id

theorem mem_snapshotReadable {file : String × List UInt8} :
    file ∈ snapshotReadable layout outcomes tree ↔
      file ∈ tree ∧ inCrlDir layout file.1 = true ∧ isCrlFile file.1 = true ∧
        outcomes.snapshotRead file.1 = true := by
  rw [snapshotReadable, List.mem_filter, snapshotCrlDirs, List.mem_flatMap, inCrlDir_iff]
  constructor
  · rintro ⟨⟨dir, active, listed⟩, readable⟩
    obtain ⟨inDir, isCrl⟩ := List.mem_filter.mp listed
    obtain ⟨member, path⟩ := FileTree.mem_filesIn.mp inDir
    exact ⟨member, ⟨dir, active, path⟩, isCrl, readable⟩
  · rintro ⟨member, ⟨dir, active, path⟩, isCrl, readable⟩
    refine ⟨⟨dir, active, List.mem_filter.mpr ⟨?_, isCrl⟩⟩, readable⟩
    exact FileTree.mem_filesIn.mpr ⟨member, path⟩

theorem exists_mem_snapshotReadable {path : String} :
    (∃ content, (path, content) ∈ snapshotReadable layout outcomes tree) ↔
      Snapshotted layout outcomes tree path := by
  simp only [mem_snapshotReadable, Snapshotted, FileTree.isSome_read_iff]
  constructor
  · rintro ⟨content, member, inDir, isCrl, readable⟩
    exact ⟨inDir, isCrl, ⟨content, member⟩, readable⟩
  · rintro ⟨inDir, isCrl, ⟨content, member⟩, readable⟩
    exact ⟨content, member, inDir, isCrl, readable⟩

/-- What the snapshot holds of a path is what the tree holds. -/
theorem lastWritten_snapshot {path : String} (distinct : tree.Distinct)
    (inSnapshot : Snapshotted layout outcomes tree path) :
    lastWritten (snapshotReadable layout outcomes tree) path = tree.read path := by
  obtain ⟨content, member⟩ := exists_mem_snapshotReadable.mpr inSnapshot
  have there : (lastWritten (snapshotReadable layout outcomes tree) path).isSome = true :=
    FileTree.isSome_read_iff.mpr ⟨content, List.mem_reverse.mpr member⟩
  obtain ⟨last, found⟩ := Option.isSome_iff_exists.mp there
  have lastMember := (mem_snapshotReadable.mp (FileTree.mem_of_lastWritten found)).1
  rw [found, distinct.read_eq lastMember]

theorem lastWritten_snapshot_of_not {path : String}
    (notInSnapshot : ¬ Snapshotted layout outcomes tree path) :
    lastWritten (snapshotReadable layout outcomes tree) path = none := by
  rw [← Option.not_isSome_iff_eq_none]
  intro there
  obtain ⟨content, found⟩ := Option.isSome_iff_exists.mp there
  exact notInSnapshot (exists_mem_snapshotReadable.mp ⟨content, FileTree.mem_of_lastWritten found⟩)

variable (outcomes) in
/-- The restoration as a change. -/
theorem restoreFiles_changed {snapshot : FileTree}
    (permanent : ∀ file ∈ snapshot, isTemporary file.1 = false) (tree : FileTree) :
    Changed (fun path => if (outcomes.restore path).isDone then (lastWritten snapshot path).map some
        else none)
      (fun path => ∃ file ∈ snapshot, ∃ denied name content,
        outcomes.restore file.1 = .fails denied (some (name, content)) ∧
          path = FileTree.dirPart file.1 ++ name.text)
      tree (restoreFiles outcomes snapshot tree) := by
  induction snapshot generalizing tree with
  | nil => exact (Changed.refl tree).congr (fun path => ite_self _) fun path => by simp
  | cons file rest ih =>
      obtain ⟨here, others⟩ := List.forall_mem_cons.mp permanent
      rw [restoreFiles, List.foldl_cons, ← restoreFiles]
      have later := ih others (restoreFile outcomes file tree)
      cases result : outcomes.restore file.1 with
      | done =>
          rw [restoreFile, result] at later ⊢
          have both := (Changed.write here file.2 tree).trans later
          apply both.congr
          · intro path
            rw [FileTree.lastWritten_cons]
            by_cases same : path = file.1
            · rw [same, result, if_pos rfl, if_pos rfl]
              cases lastWritten rest file.1 <;> rfl
            · rw [if_neg same, if_neg same, Option.or_none, Option.or_none]
          · intro path
            rw [List.exists_mem_cons_iff, result, false_or]
            apply or_iff_right
            rintro ⟨_, _, _, failed, _⟩
            cases failed
      | fails denied leftover =>
          rw [restoreFile, result] at later ⊢
          have both := (Changed.leave file.1 leftover tree).trans later
          apply both.congr
          · intro path
            rw [FileTree.lastWritten_cons, Option.or_none]
            by_cases same : path = file.1
            · rw [same, result]
              rfl
            · rw [if_neg same, Option.or_none]
          · intro path
            rw [List.exists_mem_cons_iff, result]
            apply or_congr_left
            constructor
            · rintro ⟨_, name, content, failed, left⟩
              cases failed
              exact ⟨name, content, rfl, left⟩
            · rintro ⟨name, content, rfl, left⟩
              exact ⟨denied, name, content, rfl, left⟩

/-! ## The CRL step -/

/-- Two trees with the same CRL files. -/
def SameCrls (left right : FileTree) : Prop :=
  ∀ path, isCrlFile path = true → left.read path = right.read path

variable {before written : FileTree}

theorem Snapshotted.congr {path : String} (same : SameCrls before tree) :
    Snapshotted layout outcomes before path ↔ Snapshotted layout outcomes tree path := by
  unfold Snapshotted
  constructor
  · rintro ⟨inDir, isCrl, there, readable⟩
    exact ⟨inDir, isCrl, same path isCrl ▸ there, readable⟩
  · rintro ⟨inDir, isCrl, there, readable⟩
    exact ⟨inDir, isCrl, (same path isCrl).symm ▸ there, readable⟩

/-- The validation meets the files of the tree that the writes made. -/
theorem meetsCrl_iff (same : SameCrls before tree) {leftAt : String → Prop}
    (changed : Changed (fun path =>
        (lastWritten (crlCourse layout outcomes artifact).written path).map some) leftAt
      (removeUnlinked layout outcomes before) written) {path : String} {content : List UInt8} :
    MeetsCrl layout outcomes artifact tree path content ↔
      inCrlDir layout path = true ∧ isCrlFile path = true ∧ written.read path = some content := by
  unfold MeetsCrl
  refine and_congr_right fun _ => and_congr_right fun isCrl => ?_
  rw [changed.permanent path (permanent_of_crlFile isCrl), read_removeUnlinked, same path isCrl]
  cases lastWritten (crlCourse layout outcomes artifact).written path <;> rfl

/-- What the scan of the CRL directories finds. -/
theorem any_crlFile_iff {test : String × List UInt8 → Bool} :
    ((activeCrlDirs layout).any fun dir =>
      (written.filesIn dir).any fun file => isCrlFile file.1 && test file) = true ↔
      ∃ path content, (path, content) ∈ written ∧ inCrlDir layout path = true ∧
        isCrlFile path = true ∧ test (path, content) = true := by
  simp only [List.any_eq_true, Bool.and_eq_true, FileTree.mem_filesIn, inCrlDir_iff]
  constructor
  · rintro ⟨dir, active, ⟨path, content⟩, ⟨member, inDir⟩, isCrl, found⟩
    exact ⟨path, content, member, ⟨dir, active, inDir⟩, isCrl, found⟩
  · rintro ⟨path, content, member, ⟨dir, active, inDir⟩, isCrl, found⟩
    exact ⟨dir, active, (path, content), ⟨member, inDir⟩, isCrl, found⟩

theorem crlsReadable_iff (same : SameCrls before tree) {leftAt : String → Prop}
    (changed : Changed (fun path =>
        (lastWritten (crlCourse layout outcomes artifact).written path).map some) leftAt
      (removeUnlinked layout outcomes before) written) :
    CrlsReadable layout outcomes artifact tree ↔
      validationRaises layout outcomes written = false := by
  rw [← Bool.not_eq_true, validationRaises, any_crlFile_iff]
  constructor
  · rintro readable ⟨path, content, member, inDir, isCrl, unread⟩
    obtain ⟨other, found⟩ :=
      Option.isSome_iff_exists.mp (FileTree.isSome_read_iff.mpr ⟨content, member⟩)
    have read := readable path other ((meetsCrl_iff same changed).mpr ⟨inDir, isCrl, found⟩)
    rw [read] at unread
    cases unread
  · intro none path content meets
    obtain ⟨inDir, isCrl, found⟩ := (meetsCrl_iff same changed).mp meets
    by_contra unread
    rw [Bool.not_eq_true] at unread
    exact none ⟨path, content, FileTree.mem_of_read found, inDir, isCrl, by rw [unread]; rfl⟩

theorem crlsValid_iff (same : SameCrls before tree) (distinct : written.Distinct)
    {leftAt : String → Prop}
    (changed : Changed (fun path =>
        (lastWritten (crlCourse layout outcomes artifact).written path).map some) leftAt
      (removeUnlinked layout outcomes before) written) :
    CrlsValid env layout outcomes artifact tree ↔ hasCrlProblems env layout written = false := by
  rw [← Bool.not_eq_true, hasCrlProblems, any_crlFile_iff]
  constructor
  · rintro valid ⟨path, content, member, inDir, isCrl, problem⟩
    have found := distinct.read_eq member
    rw [valid path content ((meetsCrl_iff same changed).mpr ⟨inDir, isCrl, found⟩)] at problem
    cases problem
  · intro none path content meets
    obtain ⟨inDir, isCrl, found⟩ := (meetsCrl_iff same changed).mp meets
    by_contra problem
    rw [Bool.not_eq_false] at problem
    exact none ⟨path, content, FileTree.mem_of_read found, inDir, isCrl, problem⟩

/-- The changes of the CRL step: what is rolled back is as before, and the rest is removed or
written. -/
structure CrlChange (env : StageEnvironment) (layout : StageLayout) (outcomes : StageOutcomes)
    (artifact : Json) (tree : FileTree)
    (change : String → Option (Option (List UInt8))) : Prop where
  rolledBack : ∀ path, RolledBack env layout outcomes artifact tree path →
    change path = some (tree.read path)
  other : ∀ path, ¬ RolledBack env layout outcomes artifact tree path →
    change path = ((lastWritten (crlCourse layout outcomes artifact).written path).map some).or
      (if removedAlias layout outcomes path then some none else none)

/-- The temporary files of the CRL step. -/
def CrlLeft (env : StageEnvironment) (layout : StageLayout) (outcomes : StageOutcomes)
    (artifact : Json) (tree : FileTree) (path : String) : Prop :=
  LeftAt (crlCourse layout outcomes artifact).leftovers path ∨
    RollsBack env layout outcomes artifact tree ∧ RestoreLeaves layout outcomes tree path

/-- Removed or written. -/
def plainChange (layout : StageLayout) (outcomes : StageOutcomes) (artifact : Json)
    (path : String) :
    Option (Option (List UInt8)) :=
  ((lastWritten (crlCourse layout outcomes artifact).written path).map some).or
    (if removedAlias layout outcomes path then some none else none)

theorem crlChange_plain (notBack : ¬ RollsBack env layout outcomes artifact tree) :
    CrlChange env layout outcomes artifact tree (plainChange layout outcomes artifact) where
  rolledBack := fun _ back => absurd back.1 notBack
  other := fun _ _ => rfl

theorem crlChange_restored (same : SameCrls before tree) (distinct : before.Distinct)
    (back : RollsBack env layout outcomes artifact tree) :
    CrlChange env layout outcomes artifact tree fun path =>
      (if (outcomes.restore path).isDone then
        (lastWritten (snapshotReadable layout outcomes before) path).map some else none).or
          (plainChange layout outcomes artifact path) where
  rolledBack := by
    intro path isBack
    obtain ⟨_, inSnapshot, done⟩ := isBack
    have held := (Snapshotted.congr same).mpr inSnapshot
    obtain ⟨content, found⟩ := Option.isSome_iff_exists.mp inSnapshot.2.2.1
    rw [FileTree.WriteOutcome.isDone_iff.mpr done, if_pos rfl, lastWritten_snapshot distinct held,
      same path inSnapshot.2.1, found]
    rfl
  other := by
    intro path notBack
    by_cases done : (outcomes.restore path).isDone = true
    · have notHeld : ¬ Snapshotted layout outcomes before path := fun held =>
        notBack ⟨back, (Snapshotted.congr same).mp held, FileTree.WriteOutcome.isDone_iff.mp done⟩
      rw [if_pos done, lastWritten_snapshot_of_not notHeld]
      rfl
    · rw [if_neg done]
      rfl

theorem restoreLeaves_iff (same : SameCrls before tree) (path : String) :
    RestoreLeaves layout outcomes tree path ↔
      ∃ file ∈ snapshotReadable layout outcomes before, ∃ denied name content,
        outcomes.restore file.1 = .fails denied (some (name, content)) ∧
          path = FileTree.dirPart file.1 ++ name.text := by
  constructor
  · intro left
    obtain ⟨crl, inSnapshot, leaves⟩ := left
    obtain ⟨content, member⟩ :=
      exists_mem_snapshotReadable.mpr ((Snapshotted.congr same).mpr inSnapshot)
    exact ⟨(crl, content), member, leaves⟩
  · intro left
    obtain ⟨file, member, leaves⟩ := left
    exact ⟨file.1, (Snapshotted.congr same).mp (exists_mem_snapshotReadable.mp ⟨file.2, member⟩),
      leaves⟩

variable (env) in
theorem applyCrls_of_written (incoming : IncomingCrls artifact)
    (passed : (crlPart layout artifact).run (isOptionalCrl layout) outcomes.crlWrite
      (removeUnlinked layout outcomes before) = .ok written) :
    applyCrls env layout outcomes artifact before =
      if validationRaises layout outcomes written then .error written
      else if hasCrlProblems env layout written then
        .error (restoreFiles outcomes (snapshotReadable layout outcomes before) written)
      else .ok written := by
  rw [applyCrls, if_neg incoming, passed]
  rfl

theorem applyCrls_of_stopped (incoming : IncomingCrls artifact)
    (stopped : (crlPart layout artifact).run (isOptionalCrl layout) outcomes.crlWrite
      (removeUnlinked layout outcomes before) = .error written) :
    applyCrls env layout outcomes artifact before = .error written := by
  rw [applyCrls, if_neg incoming, stopped]
  rfl

variable (env layout outcomes) in
/-- The files after the CRL step, whether it raises or not. -/
theorem applyCrls_spec (incoming : IncomingCrls artifact) (same : SameCrls before tree)
    (distinct : before.Distinct) :
    ∃ after change, Changed change (CrlLeft env layout outcomes artifact tree) before after ∧
      CrlChange env layout outcomes artifact tree change ∧
      (CrlsPass env layout outcomes artifact tree →
        applyCrls env layout outcomes artifact before = .ok after) ∧
      (¬ CrlsPass env layout outcomes artifact tree →
        applyCrls env layout outcomes artifact before = .error after) := by
  obtain ⟨written, ran, wrote, keepsDistinct⟩ := StagePart.run_spec
    (isOptionalCrl layout) outcomes.crlWrite (crlPart_permanent layout artifact)
    (removeUnlinked layout outcomes before)
  have cleaned : Changed (plainChange layout outcomes artifact) _ before written :=
    (removeUnlinked_changed before).trans wrote
  have plain (notBack : ¬ RollsBack env layout outcomes artifact tree) :
      Changed (plainChange layout outcomes artifact) (CrlLeft env layout outcomes artifact tree)
        before written := by
    apply cleaned.congr (fun _ => rfl)
    intro path
    rw [CrlLeft, or_iff_left fun both => notBack both.1, false_or]
    rfl
  by_cases writes : CrlsWritten layout outcomes artifact
  · have passed := ran.trans (if_pos writes)
    have applied := applyCrls_of_written env incoming passed
    have distinctWritten := keepsDistinct (distinct_removeUnlinked distinct) passed
    by_cases readable : CrlsReadable layout outcomes artifact tree
    · rw [(crlsReadable_iff same wrote).mp readable, if_neg Bool.false_ne_true] at applied
      by_cases valid : CrlsValid env layout outcomes artifact tree
      · have notBack : ¬ RollsBack env layout outcomes artifact tree := fun back => back.2.2 valid
        rw [(crlsValid_iff same distinctWritten wrote).mp valid,
          if_neg Bool.false_ne_true] at applied
        exact ⟨written, _, plain notBack, crlChange_plain notBack, fun _ => applied,
          fun fails => absurd ⟨writes, readable, valid⟩ fails⟩
      · have back : RollsBack env layout outcomes artifact tree := ⟨writes, readable, valid⟩
        have problems : hasCrlProblems env layout written = true := by
          rwa [crlsValid_iff same distinctWritten wrote, Bool.not_eq_false] at valid
        rw [problems, if_pos rfl] at applied
        have inSnapshot : ∀ file ∈ snapshotReadable layout outcomes before,
            isTemporary file.1 = false := fun file member =>
          permanent_of_crlFile (mem_snapshotReadable.mp member).2.2.1
        have restored := cleaned.trans (restoreFiles_changed outcomes inSnapshot written)
        refine ⟨_, _, restored.congr (fun _ => rfl) ?_, crlChange_restored same distinct back,
          fun all => absurd all.2.2 valid, fun _ => applied⟩
        intro path
        rw [CrlLeft, and_iff_right back, restoreLeaves_iff same, false_or]
        rfl
    · have raises : validationRaises layout outcomes written = true := by
        rwa [crlsReadable_iff same wrote, Bool.not_eq_false] at readable
      have notBack : ¬ RollsBack env layout outcomes artifact tree := by
        intro back
        exact readable back.2.1
      rw [raises, if_pos rfl] at applied
      exact ⟨written, _, plain notBack, crlChange_plain notBack,
        fun all => absurd all.2.1 readable, fun _ => applied⟩
  · have notBack : ¬ RollsBack env layout outcomes artifact tree := fun back => writes back.1
    exact ⟨written, _, plain notBack, crlChange_plain notBack, fun all => absurd all.1 writes,
      fun _ => applyCrls_of_stopped incoming (ran.trans (if_neg writes))⟩

theorem CrlChange.isCrl {change : String → Option (Option (List UInt8))}
    (changes : CrlChange env layout outcomes artifact tree change) {path : String}
    {content : Option (List UInt8)} (changed : change path = some content) :
    inCrlDir layout path = true ∧ isCrlFile path = true := by
  by_cases back : RolledBack env layout outcomes artifact tree path
  · exact ⟨back.2.1.1, back.2.1.2.1⟩
  · rw [changes.other path back] at changed
    cases last : lastWritten (crlCourse layout outcomes artifact).written path with
    | some written =>
        have among := FileTree.courseOf_written_subset _ _ _ _ (FileTree.mem_of_lastWritten last)
        obtain ⟨inDir, isAlias⟩ := crlPart_writes layout artifact _ among
        exact ⟨inDir, isCrlFile_of_alias isAlias⟩
    | none =>
        rw [last, Option.map_none, Option.none_or] at changed
        split at changed
        · rename_i removed
          rw [removedAlias, Bool.and_eq_true, Bool.and_eq_true] at removed
          exact ⟨removed.1.1, isCrlFile_of_alias removed.1.2⟩
        · cases changed

/-- When the changes of the CRL step change nothing. -/
theorem CrlChange.unchanged_iff {change : String → Option (Option (List UInt8))}
    (changes : CrlChange env layout outcomes artifact tree change) :
    (∀ path content, change path = some content → tree.read path = content) ↔
      CrlsUnchanged env layout outcomes artifact tree := by
  constructor
  · intro same path touched
    by_cases back : RolledBack env layout outcomes artifact tree path
    · exact .inl back
    · have changed := changes.other path back
      cases last : lastWritten (crlCourse layout outcomes artifact).written path with
      | some content =>
          rw [last] at changed
          exact .inr ⟨content, rfl, same path _ changed⟩
      | none =>
          rw [last] at touched changed
          obtain ⟨removed, there⟩ := touched.resolve_left Bool.false_ne_true
          rw [removed] at changed
          rw [same path _ changed] at there
          cases there
  · intro unchanged path content changed
    by_cases back : RolledBack env layout outcomes artifact tree path
    · rw [changes.rolledBack path back] at changed
      exact Option.some.inj changed
    · rw [changes.other path back] at changed
      cases last : lastWritten (crlCourse layout outcomes artifact).written path with
      | some written =>
          rw [last] at changed
          cases changed
          obtain ⟨other, found, there⟩ :=
            (unchanged path (.inl (by rw [last]; rfl))).resolve_left back
          rw [there, ← found, last]
      | none =>
          rw [last, Option.map_none, Option.none_or] at changed
          split at changed
          · rename_i removed
            cases changed
            rw [← Option.not_isSome_iff_eq_none]
            intro there
            obtain ⟨other, found, _⟩ :=
              (unchanged path (.inr ⟨removed, there⟩)).resolve_left back
            rw [last] at found
            cases found
          · cases changed

end Crls

/-! ## The whole call -/

section Apply

variable {env : StageEnvironment} {layout : StageLayout} {outcomes : StageOutcomes}
  {uuids : Nat → String} {artifact : Json} {tree left : FileTree}

theorem temporary_of_leftAt {leftovers : List (String × FileTree.TempName)} {path : String}
    (isLeft : LeftAt leftovers path) : isTemporary path = true := by
  obtain ⟨file, _, rfl⟩ := isLeft
  exact FileTree.isTemporary_dirPart_append _ _

theorem temporary_of_crlLeft {path : String}
    (isLeft : CrlLeft env layout outcomes artifact tree path) :
    isTemporary path = true := by
  rcases isLeft with written | ⟨_, _, _, _, _, _, _, rfl⟩
  · exact temporary_of_leftAt written
  · exact FileTree.isTemporary_dirPart_append _ _

theorem noneLeft_or {leftAt leftLater : String → Prop} :
    NoneLeftInCrlDirs layout tree (fun path => leftAt path ∨ leftLater path) ↔
      NoneLeftInCrlDirs layout tree leftAt ∧ NoneLeftInCrlDirs layout tree leftLater := by
  simp only [NoneLeftInCrlDirs, or_imp, forall_and]

theorem lastWritten_of_crl {writes : FileWrites} {path : String}
    (kind : ∀ write ∈ writes, IsCertificateWrite layout write) (isCrl : isCrlFile path = true) :
    lastWritten writes path = none := by
  cases last : lastWritten writes path with
  | none => rfl
  | some written =>
      have notCrl := (kind _ (FileTree.mem_of_lastWritten last)).2
      rw [isCrl] at notCrl
      cases notCrl

/-- The changes of a call, those of certificate files apart from those of CRLs. -/
theorem applyUndone_iff {writes : FileWrites} {change : String → Option (Option (List UInt8))}
    (crlChange : String → Option (Option (List UInt8)))
    {leftAt : String → Prop} (changed : Changed change leftAt tree left)
    (kind : ∀ write ∈ writes, IsCertificateWrite layout write)
    (crlOnly : ∀ path content, crlChange path = some content →
      inCrlDir layout path = true ∧ isCrlFile path = true)
    (splits : ∀ path, change path = ((lastWritten writes path).map some).or (crlChange path))
    (temporary : ∀ path, leftAt path → isTemporary path = true) :
    ApplyUndone layout tree left ↔
      (AlreadyThere tree writes ∧
        ∀ path content, crlChange path = some content → tree.read path = content) ∧
      NoneLeftInCrlDirs layout tree leftAt := by
  rw [ApplyUndone, changed.unchanged_iff]
  apply and_congr
  · constructor
    · intro same
      constructor
      · intro path content last
        obtain ⟨isFile, _⟩ := kind _ (FileTree.mem_of_lastWritten last)
        exact same path (.inr isFile) isFile.1 _ (by rw [splits, last]; rfl)
      · intro path content crl
        obtain ⟨inDir, isCrl⟩ := crlOnly path content crl
        apply same path (.inl inDir) (permanent_of_crlFile isCrl)
        rw [splits]
        rw [lastWritten_of_crl kind isCrl]
        exact crl
    · rintro ⟨there, same⟩ path _ _ content total
      rw [splits] at total
      cases last : lastWritten writes path with
      | none =>
          rw [last] at total
          exact same path content total
      | some written =>
          rw [last] at total
          cases total
          exact there path written last
  · constructor
    · intro none path isLeft inDir
      exact none path (.inl inDir) (temporary path isLeft) isLeft
    · intro none path concerned isTemp isLeft
      rcases concerned with inDir | isFile
      · exact none path isLeft inDir
      · rw [isFile.1] at isTemp
        cases isTemp

variable (env layout outcomes artifact) in
theorem caCourse_kind :
    ∀ write ∈ (caCourse env layout outcomes artifact).written, IsCertificateWrite layout write :=
  fun write member => caPart_writes env layout artifact write
    (FileTree.courseOf_written_subset _ _ _ _ member)

variable (env layout outcomes uuids artifact) in
theorem certificateCourse_kind :
    ∀ write ∈ (certificateCourse env layout outcomes uuids artifact).written,
      IsCertificateWrite layout write :=
  fun write member => certificatePart_writes env layout uuids artifact write
    (FileTree.courseOf_written_subset _ _ _ _ member)

/-- Files of certificates only do not change the CRLs. -/
theorem sameCrls_of_changed {writes : FileWrites} {leftAt : String → Prop} {after : FileTree}
    (kind : ∀ write ∈ writes, IsCertificateWrite layout write)
    (changed : Changed (fun path => (lastWritten writes path).map some) leftAt tree after) :
    SameCrls after tree := by
  intro path isCrl
  rw [changed.permanent path (permanent_of_crlFile isCrl), lastWritten_of_crl kind isCrl]
  rfl

variable (env layout outcomes artifact) in
/-- The CA chain and the compat directory. -/
theorem caStage_spec (tree : FileTree) (distinct : tree.Distinct) :
    ∃ after, Changed (fun path =>
        (lastWritten (caCourse env layout outcomes artifact).written path).map some)
        (LeftAt (caCourse env layout outcomes artifact).leftovers) tree after ∧
      (¬ CaPasses env layout outcomes artifact →
        (caPart env layout artifact).run (fun _ => false) outcomes.caWrite tree >>=
          makeCompatDir layout outcomes = .error after) ∧
      (CaPasses env layout outcomes artifact → after.Distinct ∧
        (caPart env layout artifact).run (fun _ => false) outcomes.caWrite tree >>=
          makeCompatDir layout outcomes = .ok after) := by
  obtain ⟨after, ran, changed, keepsDistinct⟩ := StagePart.run_spec (fun _ => false)
    outcomes.caWrite
    (fun write member => (caPart_writes env layout artifact write member).1.1) tree
  refine ⟨after, changed, ?_, ?_⟩
  · intro fails
    by_cases written : (caCourse env layout outcomes artifact).passes = true ∧
        (caPart env layout artifact).complete = true
    · have noDir : (compatCrlDir layout).isSome ∧ outcomes.compatDirMade = false := by
        by_contra made
        rw [not_and, Bool.not_eq_false] at made
        exact fails ⟨written.1, written.2, made⟩
      rw [ran.trans (if_pos written)]
      exact if_pos noDir
    · rw [ran.trans (if_neg written)]
      rfl
  · intro passes
    obtain ⟨passed, complete, made⟩ := passes
    have wrote := ran.trans (if_pos ⟨passed, complete⟩)
    refine ⟨keepsDistinct distinct wrote, ?_⟩
    rw [wrote]
    apply if_neg
    rintro ⟨compat, missing⟩
    rw [made compat] at missing
    cases missing

theorem applyTargetStageMaterial_eq (dirs : outcomes.dirsMade = true)
    (object : artifact.isObject = true) (tree : FileTree) :
    applyTargetStageMaterial env layout outcomes uuids artifact tree =
      ((caPart env layout artifact).run (fun _ => false) outcomes.caWrite tree >>=
        makeCompatDir layout outcomes) >>= fun tree =>
          applyCrls env layout outcomes artifact tree >>=
            (certificatePart env layout uuids artifact).run (fun _ => false)
              outcomes.certificateWrite := by
  rw [applyTargetStageMaterial, dirs, object, if_neg Bool.true_eq_false.mp,
    if_neg Bool.true_eq_false.mp, bind_assoc]

/-- The peer certificates raise after other changes. -/
theorem certificates_undone_iff {before after : FileTree}
    (change : String → Option (Option (List UInt8))) {leftAt : String → Prop}
    (changed : Changed (fun path => (change path).or
      ((lastWritten (caCourse env layout outcomes artifact).written path).map some)) leftAt tree
        before)
    (crlOnly : ∀ path content, change path = some content →
      inCrlDir layout path = true ∧ isCrlFile path = true)
    (temporary : ∀ path, leftAt path → isTemporary path = true)
    (raised : (certificatePart env layout uuids artifact).run (fun _ => false)
      outcomes.certificateWrite before = .error after) :
    ApplyUndone layout tree after ↔
      (AlreadyThere tree ((caCourse env layout outcomes artifact).written ++
          (certificateCourse env layout outcomes uuids artifact).written) ∧
        ∀ path content, change path = some content → tree.read path = content) ∧
      NoneLeftInCrlDirs layout tree leftAt ∧ NoneLeftInCrlDirs layout tree
        (LeftAt (certificateCourse env layout outcomes uuids artifact).leftovers) := by
  obtain ⟨last, ran, wrote, _⟩ := StagePart.run_spec (fun _ => false)
    outcomes.certificateWrite
    (fun write member => (certificatePart_writes env layout uuids artifact write member).1.1) before
  rw [← certificateCourse] at wrote
  have same : last = after := by
    rw [raised] at ran
    split at ran
    · cases ran
    · exact (Except.error.inj ran).symm
  subst same
  have kind : ∀ write ∈ (caCourse env layout outcomes artifact).written ++
      (certificateCourse env layout outcomes uuids artifact).written,
      IsCertificateWrite layout write := by
    intro write member
    rcases List.mem_append.mp member with inCa | inCertificates
    · exact caCourse_kind env layout outcomes artifact write inCa
    · exact certificateCourse_kind env layout outcomes uuids artifact write inCertificates
  rw [← noneLeft_or]
  apply applyUndone_iff change (changed.trans wrote) kind crlOnly
  · intro path
    have total : (lastWritten ((caCourse env layout outcomes artifact).written ++
        (certificateCourse env layout outcomes uuids artifact).written) path).map some =
        ((lastWritten (certificateCourse env layout outcomes uuids artifact).written path).map
          some).or
          ((lastWritten (caCourse env layout outcomes artifact).written path).map some) := by
      rw [FileTree.lastWritten_append]
      cases lastWritten (certificateCourse env layout outcomes uuids artifact).written path <;> rfl
    rw [total]
    cases crl : change path with
    | none =>
        rw [Option.none_or, Option.or_none]
    | some content =>
        have none : lastWritten ((caCourse env layout outcomes artifact).written ++
            (certificateCourse env layout outcomes uuids artifact).written) path = none :=
          lastWritten_of_crl kind (crlOnly path content crl).2
        rw [none, Option.map_none] at total
        obtain ⟨certificates, caChain⟩ := Option.or_eq_none_iff.mp total.symm
        rw [certificates, caChain]
        rfl
  · rintro path (earlier | later)
    · exact temporary path earlier
    · exact temporary_of_leftAt later

theorem noneLeft_crlLeft :
    NoneLeftInCrlDirs layout tree (CrlLeft env layout outcomes artifact tree) ↔
      NoneLeftInCrlDirs layout tree (LeftAt (crlCourse layout outcomes artifact).leftovers) ∧
        (RollsBack env layout outcomes artifact tree →
          NoneLeftInCrlDirs layout tree (RestoreLeaves layout outcomes tree)) := by
  unfold CrlLeft
  rw [noneLeft_or]
  apply and_congr_right
  intro _
  constructor
  · exact fun none back path left => none path ⟨back, left⟩
  · exact fun none path both => none both.1 path both.2

/-! ## The four failures -/

section Failures

variable (wroteCa : Changed
    (fun path => (lastWritten (caCourse env layout outcomes artifact).written path).map some)
    (LeftAt (caCourse env layout outcomes artifact).leftovers) tree left)
include wroteCa

/-- The CA chain or the compat directory fails. -/
theorem undone_iff_of_ca_fails (fails : ¬ CaPasses env layout outcomes artifact) :
    ApplyUndone layout tree left ↔
      WritesHarmless env layout outcomes uuids artifact tree ∧
        LeftoversHarmless env layout outcomes uuids artifact tree := by
  have noReach : ¬ ReachesCertificates env layout outcomes artifact tree :=
    fun reach => fails reach.1
  rw [applyUndone_iff (fun _ => none) wroteCa
    (caCourse_kind env layout outcomes artifact) nofun (fun path => (Option.or_none).symm)
    fun path => temporary_of_leftAt]
  constructor
  · intro unchanged
    obtain ⟨⟨there, _⟩, none⟩ := unchanged
    exact ⟨⟨fun _ => there, fun passes => absurd passes fails, fun reach => absurd reach noReach⟩,
      ⟨none, fun passes => absurd passes fails, fun passes => absurd passes fails,
        fun reach => absurd reach noReach⟩⟩
  · intro harmless
    obtain ⟨writes, leftovers⟩ := harmless
    exact ⟨⟨writes.caChain noReach, nofun⟩, leftovers.caChain⟩

/-- There are no CRLs, and the peer certificates fail. -/
theorem undone_iff_of_no_crls {after : FileTree} (passes : CaPasses env layout outcomes artifact)
    (noCrls : ¬ IncomingCrls artifact)
    (raised : (certificatePart env layout uuids artifact).run (fun _ => false)
      outcomes.certificateWrite left = .error after) :
    ApplyUndone layout tree after ↔
      WritesHarmless env layout outcomes uuids artifact tree ∧
        LeftoversHarmless env layout outcomes uuids artifact tree := by
  have reach : ReachesCertificates env layout outcomes artifact tree :=
    ⟨passes, fun crls => absurd crls noCrls⟩
  rw [certificates_undone_iff (fun _ => Option.none) wroteCa nofun
    (fun path => temporary_of_leftAt) raised]
  constructor
  · intro unchanged
    obtain ⟨⟨there, _⟩, noneCa, noneCertificates⟩ := unchanged
    exact ⟨⟨fun notReached => absurd reach notReached, fun _ crls => absurd crls noCrls,
      fun _ => there⟩, ⟨noneCa, fun _ crls => absurd crls noCrls,
        fun _ crls => absurd crls noCrls, fun _ => noneCertificates⟩⟩
  · intro harmless
    obtain ⟨writes, leftovers⟩ := harmless
    exact ⟨⟨writes.certificates reach, nofun⟩, leftovers.caChain, leftovers.certificates reach⟩

variable {afterCrls : FileTree} {change : String → Option (Option (List UInt8))}
  (changed : Changed change (CrlLeft env layout outcomes artifact tree) left afterCrls)
  (changes : CrlChange env layout outcomes artifact tree change)
  (passes : CaPasses env layout outcomes artifact) (incoming : IncomingCrls artifact)
include changed changes passes incoming

/-- The CRLs fail, with or without the rollback. -/
theorem undone_iff_of_crls_fail (fails : ¬ CrlsPass env layout outcomes artifact tree) :
    ApplyUndone layout tree afterCrls ↔
      WritesHarmless env layout outcomes uuids artifact tree ∧
        LeftoversHarmless env layout outcomes uuids artifact tree := by
  have noReach : ¬ ReachesCertificates env layout outcomes artifact tree :=
    fun reach => fails (reach.2 incoming)
  have splits (path : String) : (change path).or
      ((lastWritten (caCourse env layout outcomes artifact).written path).map some) =
        ((lastWritten (caCourse env layout outcomes artifact).written path).map some).or
          (change path) := by
    cases crl : change path with
    | none => rw [Option.none_or, Option.or_none]
    | some content =>
        rw [lastWritten_of_crl (caCourse_kind env layout outcomes artifact) (changes.isCrl crl).2]
        rfl
  rw [applyUndone_iff change (wroteCa.trans changed) (caCourse_kind env layout outcomes artifact)
    (fun path content => changes.isCrl) splits
    (fun path => Or.rec temporary_of_leftAt temporary_of_crlLeft),
    changes.unchanged_iff, noneLeft_or, noneLeft_crlLeft]
  constructor
  · intro unchanged
    obtain ⟨⟨there, crls⟩, noneCa, noneCrls, noneRestored⟩ := unchanged
    exact ⟨⟨fun _ => there, fun _ _ => crls, fun reach => absurd reach noReach⟩,
      ⟨noneCa, fun _ _ => noneCrls, fun _ _ => noneRestored, fun reach => absurd reach noReach⟩⟩
  · intro harmless
    obtain ⟨writes, leftovers⟩ := harmless
    exact ⟨⟨writes.caChain noReach, writes.crls passes incoming⟩, leftovers.caChain,
      leftovers.crls passes incoming, leftovers.restored passes incoming⟩

/-- The CRLs pass, and the peer certificates fail. -/
theorem undone_iff_of_certificates_fail {after : FileTree}
    (pass : CrlsPass env layout outcomes artifact tree)
    (raised : (certificatePart env layout uuids artifact).run (fun _ => false)
      outcomes.certificateWrite afterCrls = .error after) :
    ApplyUndone layout tree after ↔
      WritesHarmless env layout outcomes uuids artifact tree ∧
        LeftoversHarmless env layout outcomes uuids artifact tree := by
  have reach : ReachesCertificates env layout outcomes artifact tree := ⟨passes, fun _ => pass⟩
  rw [certificates_undone_iff change (wroteCa.trans changed) (fun path content => changes.isCrl)
    (fun path => Or.rec temporary_of_leftAt temporary_of_crlLeft) raised, changes.unchanged_iff,
    noneLeft_or, noneLeft_crlLeft]
  constructor
  · intro unchanged
    obtain ⟨⟨there, crls⟩, ⟨noneCa, noneCrls, noneRestored⟩, noneCertificates⟩ := unchanged
    exact ⟨⟨fun notReached => absurd reach notReached, fun _ _ => crls, fun _ => there⟩,
      ⟨noneCa, fun _ _ => noneCrls, fun _ _ => noneRestored, fun _ => noneCertificates⟩⟩
  · intro harmless
    obtain ⟨writes, leftovers⟩ := harmless
    exact ⟨⟨writes.certificates reach, writes.crls passes incoming⟩,
      ⟨leftovers.caChain, leftovers.crls passes incoming, leftovers.restored passes incoming⟩,
      leftovers.certificates reach⟩

end Failures

/-- A failed call leaves the CRL directories and the certificate files as they were exactly when
what it did until the failure is harmless. -/
theorem apply_undone_iff (tree : {tree : FileTree // tree.Distinct})
    (raised : applyTargetStageMaterial env layout outcomes uuids artifact tree.1 = .error left) :
    ApplyUndone layout tree.1 left ↔
      FailureHarmless env layout outcomes uuids artifact tree.1 := by
  obtain ⟨tree, distinct⟩ := tree
  dsimp only at raised ⊢
  cases dirs : outcomes.dirsMade with
  | false =>
      rw [applyTargetStageMaterial, if_pos dirs] at raised
      cases raised
      exact iff_of_true (fun _ _ => rfl) fun made => by rw [dirs] at made; cases made
  | true =>
      cases object : artifact.isObject with
      | false =>
          rw [applyTargetStageMaterial, dirs, if_neg Bool.true_eq_false.mp, if_pos object] at raised
          cases raised
          refine iff_of_true (fun _ _ => rfl) fun _ isObject => ?_
          rw [object] at isObject
          cases isObject
      | true =>
          rw [applyTargetStageMaterial_eq dirs object] at raised
          rw [FailureHarmless, forall_prop_of_true dirs, forall_prop_of_true object]
          obtain ⟨afterCa, wroteCa, failsCa, passesCa⟩ := 
            caStage_spec env layout outcomes artifact tree distinct
          by_cases ca : CaPasses env layout outcomes artifact
          · obtain ⟨distinctCa, passed⟩ := passesCa ca
            have rest : applyCrls env layout outcomes artifact afterCa >>=
                (certificatePart env layout uuids artifact).run (fun _ => false)
                  outcomes.certificateWrite = .error left := by
              rwa [passed] at raised
            by_cases incoming : IncomingCrls artifact
            · obtain ⟨afterCrls, change, changed, changes, passesCrls, failsCrls⟩ :=
                applyCrls_spec env layout outcomes incoming
                  (sameCrls_of_changed (caCourse_kind env layout outcomes artifact) wroteCa)
                  distinctCa
              by_cases pass : CrlsPass env layout outcomes artifact tree
              · rw [passesCrls pass] at rest
                exact undone_iff_of_certificates_fail wroteCa changed changes ca incoming pass rest
              · rw [failsCrls pass] at rest
                cases rest
                exact undone_iff_of_crls_fail wroteCa changed changes ca incoming pass
            · have none : applyCrls env layout outcomes artifact afterCa = .ok afterCa := by
                rw [IncomingCrls, not_not] at incoming
                rw [applyCrls, if_pos incoming]
              rw [none] at rest
              exact undone_iff_of_no_crls wroteCa ca incoming rest
          · rw [failsCa ca] at raised
            cases raised
            exact undone_iff_of_ca_fails wroteCa ca

end Apply

/-! ## A CRL that cannot be decoded -/

/-- Every operation succeeds. -/
def smoothStage : StageOutcomes where
  dirsMade := true
  caWrite := fun _ => .done
  compatDirMade := true
  snapshotRead := fun _ => true
  unlinked := fun _ => true
  crlWrite := fun _ => .done
  validationRead := fun _ => true
  restore := fun _ => .done
  certificateWrite := fun _ => .done

def freshCrls : StageEnvironment where
  pemCertToDer := fun _ => none
  crlNextUpdate := fun _ => some (some 10)
  now := 5
  strictFreshness := true

/-- Only the root CRL can be decoded. -/
def halfDecodable : Json :=
  .obj [("crl_bundle", .obj [("root_crl_base64", .str "AQ=="),
    ("intermediate_crl_base64", .str "A")])]

def oneAlias : {tree : FileTree // tree.Distinct} :=
  ⟨[("issuers/crl/vault_intermediate.crl", [7])], List.nodup_singleton _⟩

theorem halfDecodable_raises :
    applyTargetStageMaterial freshCrls (targetStageLayout (.obj [])) smoothStage (fun _ => "")
        halfDecodable oneAlias.1 =
      .error [("trusted/crl/root_ca.crl", [1]), ("issuers/crl/root_ca.crl", [1])] := by
  decide +kernel

/-- The alias that was there is removed and not restored. -/
theorem undecodable_crl_not_undone :
    ∃ left, applyTargetStageMaterial freshCrls (targetStageLayout (.obj [])) smoothStage
        (fun _ => "") halfDecodable oneAlias.1 = .error left ∧
      ¬ ApplyUndone (targetStageLayout (.obj [])) oneAlias.1 left := by
  refine ⟨_, halfDecodable_raises, fun undone => ?_⟩
  have kept := undone "issuers/crl/vault_intermediate.crl" (.inl (by decide +kernel))
  revert kept
  decide +kernel

theorem halfDecodable_undone_iff :
    ApplyUndone (targetStageLayout (.obj [])) oneAlias.1
        [("trusted/crl/root_ca.crl", [1]), ("issuers/crl/root_ca.crl", [1])] ↔
      FailureHarmless freshCrls (targetStageLayout (.obj [])) smoothStage (fun _ => "")
        halfDecodable oneAlias.1 :=
  apply_undone_iff oneAlias halfDecodable_raises

end OpcuaGds.Agent
