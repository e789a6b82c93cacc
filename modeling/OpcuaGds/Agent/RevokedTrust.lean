import OpcuaGds.Agent.RevocationPull
import OpcuaGds.Foundation.Transition

/-! # What makes a runtime lose a certificate

A file leaves a runtime for the quarantine only where an inventory said that a certificate in its
place is revoked: a pull found the certificate there and in the inventory, and a plan made from
the report of that pull found it there once more. Report and plan know a file by the normal form
of its path.
-/

namespace OpcuaGds.Agent

open Gds (Crypto)

/-! ## What is found and what is said -/

section Statements

variable (certificateMetadata : List UInt8 → Option CertificateMetadata)

/-- The inventory says that the certificate of a fingerprint is revoked. -/
def Revokes (inventory : List Json) (fp : String) : Prop :=
  ∃ cert ∈ inventory, loweredText cert "status" = "revoked" ∧
    ((cert.field? "fingerprint_sha256").getD .null).truthy = true ∧
      loweredText cert "fingerprint_sha256" = fp

/-- An inspection finds a certificate of a fingerprint where a path is the normal form. -/
def Shows (readable : String → Bool) (tree : FileTree) (rel fp : String) : Prop :=
  ∃ path content metadata, tree.read path = some content ∧ isPrivateFile path = false ∧
    readable path = true ∧ certificateMetadata content = some metadata ∧
      normalizeRelativePath (slashes path) = rel ∧
        PythonText.lower (PythonText.strip metadata.fingerprintSha256) = fp

/-- The report has an entry for a path and a fingerprint. -/
def Affects (report : Json) (rel fp : String) : Prop :=
  ∃ entry ∈ affectedRuntimeEntries report, entry.isObject = true ∧
    normalizeRelativePath (textOf entry "relative_path") = rel ∧
      loweredText entry "fingerprint_sha256" = fp

/-- The plan has a candidate for a path and a fingerprint. -/
def Plans (plan : Json) (rel fp : String) : Prop :=
  ∃ item ∈ quarantineCandidates plan, textOf item "relative_path" = rel ∧
    textOf item "fingerprint_sha256" = fp

end Statements

/-! ## The report -/

section Report

variable {certificateMetadata : List UInt8 → Option CertificateMetadata}
  {readable : String → Bool} {tree : FileTree} {rel fp : String} {certs : List Json}

theorem shows_iff : Shows certificateMetadata readable tree rel fp ↔
    ∃ entry ∈ inspectedCertificates certificateMetadata readable tree,
      normalizeRelativePath entry.1 = rel ∧
        PythonText.lower (PythonText.strip entry.2.fingerprintSha256) = fp := by
  constructor
  · rintro ⟨path, content, metadata, read, isPublic, isReadable, parsed, rfl, rfl⟩
    refine ⟨(slashes path, metadata), List.mem_filterMap.mpr
      ⟨(path, content), FileTree.mem_listing.mpr read, ?_⟩, rfl, rfl⟩
    simp [isPublic, isReadable, parsed]
  · rintro ⟨entry, among, rfl, rfl⟩
    obtain ⟨⟨path, content⟩, listed, found⟩ := List.mem_filterMap.mp among
    dsimp only at found
    split at found
    · cases found
    · rename_i inspected
      simp only [not_or, Bool.not_eq_true, Bool.not_eq_false] at inspected
      obtain ⟨metadata, parsed, rfl⟩ := Option.map_eq_some_iff.mp found
      exact ⟨path, content, metadata, FileTree.mem_listing.mp listed, inspected.1, inspected.2,
        parsed, rfl, rfl⟩

theorem isSome_fingerprinted :
    ((Dict.ofList (fingerprinted certs)).get? fp).isSome = true ↔
      ∃ cert ∈ certs, ((cert.field? "fingerprint_sha256").getD .null).truthy = true ∧
        loweredText cert "fingerprint_sha256" = fp := by
  rw [Dict.isSome_get?_ofList]
  constructor
  · rintro ⟨value, among⟩
    obtain ⟨cert, member, made⟩ := List.mem_filterMap.mp among
    split at made
    · rename_i given
      obtain ⟨rfl, rfl⟩ := Prod.mk.inj (Option.some.inj made)
      rw [Bool.and_eq_true] at given
      exact ⟨cert, member, given.2, rfl⟩
    · cases made
  · rintro ⟨cert, member, given, rfl⟩
    have isObject : cert.isObject = true := by
      cases cert with
      | obj fields => rfl
      | _ => simp [Json.field?, Json.truthy] at given
    refine ⟨cert, List.mem_filterMap.mpr ⟨cert, member, ?_⟩⟩
    rw [if_pos (Bool.and_eq_true _ _ ▸ ⟨isObject, given⟩)]

/-- The inventory's revoked certificates have the fingerprints that it revokes. -/
theorem isSome_revokedByFp {inventory : List Json} :
    ((Dict.ofList (fingerprinted (revokedCertificates inventory))).get? fp).isSome = true ↔
      Revokes inventory fp := by
  rw [isSome_fingerprinted, Revokes]
  simp only [revokedCertificates, List.mem_filter, decide_eq_true_eq, and_assoc]

/-- An entry that is in the report has the path and the fingerprint of a certificate. -/
theorem affectedEntry_eq_some {activeFps : List String} {revokedByFp : Dict String Json}
    {entry : String × CertificateMetadata} {affected : Json}
    (made : affectedEntry activeFps revokedByFp entry = some affected) :
    affected.isObject = true ∧ textOf affected "relative_path" = entry.1 ∧
      textOf affected "fingerprint_sha256" =
        PythonText.lower (PythonText.strip entry.2.fingerprintSha256) := by
  rw [affectedEntry] at made
  split at made
  · cases made
  · obtain ⟨cert, _, rfl⟩ := Option.map_eq_some_iff.mp made
    exact ⟨rfl, rfl, rfl⟩

theorem isSome_affectedEntry {activeFps : List String} {revokedByFp : Dict String Json}
    {entry : String × CertificateMetadata} :
    (affectedEntry activeFps revokedByFp entry).isSome = true ↔
      PythonText.lower (PythonText.strip entry.2.fingerprintSha256) ≠ "" ∧
        (revokedByFp.get?
          (PythonText.lower (PythonText.strip entry.2.fingerprintSha256))).isSome = true := by
  rw [affectedEntry]
  split <;> simp_all

variable {loadCrl : List UInt8 → Option (List Int)} {pull : RevocationPull}
  {inventory : List Json} {target : RevocationTarget} {runtime : FileTree} {report : Json}

/-- The report is about the certificates that the inspection finds and the inventory revokes. -/
theorem affects_iff
    (built : buildRevocationReport certificateMetadata loadCrl pull
      (revokedCertificates inventory) target runtime = .ok report) :
    Affects report rel fp ↔ fp ≠ "" ∧ Revokes inventory fp ∧
      Shows certificateMetadata target.readable (inspectedTree target.rootAvailable runtime)
        rel fp := by
  obtain ⟨artifact, _, made⟩ := Fallible.bind_eq_ok.mp built
  have entries : affectedRuntimeEntries report = affectedEntries certificateMetadata
      (revokedCertificates inventory) target artifact runtime := by
    cases made
    rfl
  rw [Affects, entries, shows_iff, affectedEntries]
  constructor
  · rintro ⟨affected, among, _, rfl, rfl⟩
    obtain ⟨entry, member, made⟩ := List.mem_filterMap.mp among
    obtain ⟨_, path, fingerprint⟩ := affectedEntry_eq_some made
    have isSome := isSome_affectedEntry.mp (Option.isSome_of_eq_some made)
    rw [loweredText, fingerprint, PythonText.lower_strip_lower_strip, path]
    exact ⟨isSome.1, isSome_revokedByFp.mp isSome.2, entry, member, rfl, rfl⟩
  · rintro ⟨named, revokes, entry, member, rfl, rfl⟩
    obtain ⟨affected, made⟩ := Option.isSome_iff_exists.mp
      (isSome_affectedEntry.mpr ⟨named, isSome_revokedByFp.mpr revokes⟩)
    obtain ⟨isObject, path, fingerprint⟩ := affectedEntry_eq_some made
    refine ⟨affected, List.mem_filterMap.mpr ⟨entry, member, made⟩, isObject, by rw [path], ?_⟩
    rw [loweredText, fingerprint, PythonText.lower_strip_lower_strip]

end Report

/-! ## The plan -/

section Plan

variable {certificateMetadata : List UInt8 → Option CertificateMetadata}
  {readable : String → Bool} {tree : FileTree} {rel fp planId reportPath preflightPath : String}
  {report plan item : Json} {entry : String × CertificateMetadata}

theorem mem_runtimeCertEntries_iff {key : String × String} :
    (key, entry) ∈ runtimeCertEntries certificateMetadata readable tree ↔
      entry ∈ inspectedCertificates certificateMetadata readable tree ∧
        normalizeRelativePath entry.1 = key.1 ∧
          PythonText.lower (PythonText.strip entry.2.fingerprintSha256) = key.2 ∧
            key.1 ≠ "" ∧ key.2 ≠ "" := by
  constructor
  · intro among
    obtain ⟨file, listed, made⟩ := List.mem_filterMap.mp among
    split at made
    · cases made
    · rename_i inspected
      obtain ⟨metadata, parsed, made⟩ := Option.bind_eq_some_iff.mp made
      dsimp only at made
      split at made
      · cases made
      · rename_i named
        rw [not_or] at named
        obtain ⟨rfl, rfl⟩ := Prod.mk.inj (Option.some.inj made)
        refine ⟨List.mem_filterMap.mpr ⟨file, listed, ?_⟩, rfl, rfl, named⟩
        rw [if_neg inspected, parsed, Option.map_some]
  · rintro ⟨among, path, fingerprint, named⟩
    obtain ⟨file, listed, made⟩ := List.mem_filterMap.mp among
    split at made
    · cases made
    · rename_i inspected
      obtain ⟨metadata, parsed, rfl⟩ := Option.map_eq_some_iff.mp made
      refine List.mem_filterMap.mpr ⟨file, listed, ?_⟩
      dsimp only at path fingerprint
      rw [if_neg inspected, parsed, Option.bind_some, path, fingerprint, if_neg (not_or.mpr named)]

/-- What the plan looks up is there where the inspection finds it. -/
theorem isSome_lookup_runtimeCertEntries :
    ((runtimeCertEntries certificateMetadata readable tree).reverse.lookup (rel, fp)).isSome =
        true ↔
      rel ≠ "" ∧ fp ≠ "" ∧ Shows certificateMetadata readable tree rel fp := by
  rw [List.lookup_isSome_iff, shows_iff]
  constructor
  · rintro ⟨⟨key, found⟩, among, same⟩
    obtain rfl := eq_of_beq same
    obtain ⟨member, path, fingerprint, named⟩ :=
      mem_runtimeCertEntries_iff.mp (List.mem_reverse.mp among)
    exact ⟨named.1, named.2, found, member, path, fingerprint⟩
  · rintro ⟨someRel, someFp, found, member, path, fingerprint⟩
    exact ⟨((rel, fp), found), List.mem_reverse.mpr (mem_runtimeCertEntries_iff.mpr
      ⟨member, path, fingerprint, someRel, someFp⟩), beq_self_eq_true _⟩

/-- A candidate from the entry of a path and a fingerprint is about these. -/
theorem candidate_of_lookup {revokedMeta : Json}
    (found : (runtimeCertEntries certificateMetadata readable tree).reverse.lookup (rel, fp) =
      some entry) :
    textOf (candidateFromRuntimeEntry entry revokedMeta) "relative_path" = rel ∧
      textOf (candidateFromRuntimeEntry entry revokedMeta) "fingerprint_sha256" = fp := by
  obtain ⟨front, back, parts, _⟩ := List.lookup_eq_some_iff.mp found
  have among := parts ▸ List.mem_append_right front List.mem_cons_self
  obtain ⟨_, path, fingerprint, _⟩ := mem_runtimeCertEntries_iff.mp (List.mem_reverse.mp among)
  exact ⟨path, fingerprint⟩

variable {revokedByFp : List (String × Json)} {affected : List Json}

variable (certificateMetadata readable tree rel fp revokedByFp affected) in
/-- The loop over the entries of a report comes to one whose certificate is still there. -/
def FindsActive : Prop :=
  ∃ entry ∈ affected, entry.isObject = true ∧
    normalizeRelativePath (textOf entry "relative_path") = rel ∧
      loweredText entry "fingerprint_sha256" = fp ∧
        rel ≠ "" ∧ fp ≠ "" ∧ Shows certificateMetadata readable tree rel fp

variable (revokedByFp) in
theorem active_iff :
    (∃ item ∈ activeRevokedEntries (runtimeCertEntries certificateMetadata readable tree)
        revokedByFp affected, textOf item "relative_path" = rel ∧
          textOf item "fingerprint_sha256" = fp) ↔
      FindsActive certificateMetadata readable tree rel fp affected := by
  constructor
  · rintro ⟨item, active, rfl, rfl⟩
    obtain ⟨listed, among, made⟩ := List.mem_filterMap.mp active
    split at made
    · cases made
    · rename_i isObject
      dsimp only at made
      split at made
      · cases made
      · obtain ⟨found, lookup, rfl⟩ := Option.map_eq_some_iff.mp made
        obtain ⟨path, fingerprint⟩ := candidate_of_lookup lookup
        rw [path, fingerprint]
        exact ⟨listed, among, Bool.not_eq_false _ ▸ isObject, rfl, rfl,
          isSome_lookup_runtimeCertEntries.mp (Option.isSome_of_eq_some lookup)⟩
  · rintro ⟨listed, among, isObject, rfl, rfl, shown⟩
    obtain ⟨found, lookup⟩ := Option.isSome_iff_exists.mp
      (isSome_lookup_runtimeCertEntries.mpr shown)
    let revokedMeta := (revokedByFp.reverse.lookup
      (loweredText listed "fingerprint_sha256")).getD (.obj [])
    refine ⟨candidateFromRuntimeEntry found revokedMeta,
      List.mem_filterMap.mpr ⟨listed, among, ?_⟩, candidate_of_lookup lookup⟩
    simp [isObject, shown.1, shown.2.1, lookup, revokedMeta]

/-- The candidates of a plan are the eligible ones of the entries that are still there, and the
plan is ready where there are some. -/
theorem dryRun_candidates
    (planned : quarantineRevokedDryRun certificateMetadata readable tree planId reportPath
      preflightPath report = some plan) :
    ∃ revokedByFp, quarantineCandidates plan = (activeRevokedEntries
        (runtimeCertEntries certificateMetadata readable tree) revokedByFp
          (affectedRuntimeEntries report)).filter
            (fun item => isQuarantineEligible (textOf item "relative_path")) ∧
      (textOf plan "decision" = "ready_for_quarantine" ↔ quarantineCandidates plan ≠ []) := by
  have blocked : "blocked" ≠ "ready_for_quarantine" := by decide
  have idle : "not_applicable" ≠ "ready_for_quarantine" := by decide
  rw [quarantineRevokedDryRun] at planned
  split at planned
  · rename_i missing
    have none : affectedRuntimeEntries report = [] := by
      cases report with
      | obj fields => cases missing
      | _ => rfl
    cases planned
    refine ⟨[], ?_, ?_⟩
    · rw [none]
      rfl
    · exact iff_of_false blocked (fun some => some rfl)
  · obtain ⟨revokedKnown, _, planned⟩ := Option.bind_eq_some_iff.mp planned
    dsimp only at planned
    split at planned
    · rename_i noneActive
      cases planned
      refine ⟨_, rfl, iff_of_false idle (fun some => some ?_)⟩
      exact congrArg (List.filter _) noneActive
    · split at planned
      · rename_i noCandidates
        cases planned
        exact ⟨_, rfl, iff_of_false idle (fun some => some noCandidates)⟩
      · rename_i candidates
        cases planned
        exact ⟨_, rfl, iff_of_true rfl candidates⟩

/-- The plan is about the eligible entries of the report whose certificates are still there. -/
theorem plans_iff
    (planned : quarantineRevokedDryRun certificateMetadata readable tree planId reportPath
      preflightPath report = some plan) :
    Plans plan rel fp ↔ (isQuarantineEligible rel = true ∧ rel ≠ "" ∧ fp ≠ "") ∧
      Affects report rel fp ∧ Shows certificateMetadata readable tree rel fp := by
  obtain ⟨revokedByFp, candidates, _⟩ := dryRun_candidates planned
  constructor
  · rintro ⟨item, among, rfl, rfl⟩
    rw [candidates, List.mem_filter] at among
    obtain ⟨entry, member, isObject, path, fingerprint, someRel, someFp, shown⟩ :=
      (active_iff revokedByFp).mp ⟨item, among.1, rfl, rfl⟩
    exact ⟨⟨among.2, someRel, someFp⟩, ⟨entry, member, isObject, path, fingerprint⟩, shown⟩
  · rintro ⟨⟨eligible, someRel, someFp⟩, ⟨entry, member, isObject, path, fingerprint⟩, shown⟩
    obtain ⟨item, among, rfl, rfl⟩ := (active_iff revokedByFp).mpr
      ⟨entry, member, isObject, path, fingerprint, someRel, someFp, shown⟩
    exact ⟨item, candidates ▸ List.mem_filter.mpr ⟨among, eligible⟩, rfl, rfl⟩

end Plan

/-! ## One command -/

section Commands

variable {certificateMetadata : List UInt8 → Option CertificateMetadata}
  {loadCrl : List UInt8 → Option (List Int)} {pull : RevocationPull} {revoked : List Json}
  {records : AgentRecords} {revocationDir : String} {planning : QuarantinePlanning}

variable (certificateMetadata loadCrl pull revoked) in
/-- A target has more reports than before, of its runtime, and nothing else has changed. -/
structure AddsReports (target : String) (before after : TargetRecords) : Prop where
  others : ∃ reports, after = { before with reports := reports }
  reports : ∀ file ∈ after.reports, file ∈ before.reports ∨
    ∃ source ∈ pull.runtimeTargets, ∃ report, source.name = target ∧
      buildRevocationReport certificateMetadata loadCrl pull revoked source before.runtime =
        .ok report ∧ file.2 = some report

theorem AddsReports.refl {target : String} {before : TargetRecords} :
    AddsReports certificateMetadata loadCrl pull revoked target before before :=
  ⟨⟨before.reports, rfl⟩, fun _ among => .inl among⟩

theorem reportTargets_adds (names : List String) (target : String) :
    AddsReports certificateMetadata loadCrl pull revoked target (records target)
      ((reportTargets certificateMetadata loadCrl pull revoked pull.targetMap names records).1
        target) := by
  induction names generalizing records with
  | nil => exact .refl
  | cons name names ih =>
      rw [reportTargets]
      cases found : pull.targetMap.get? name with
      | none => exact .refl
      | some source =>
          have among : source ∈ pull.runtimeTargets := by
            rw [RevocationPull.targetMap, Dict.get?_ofList] at found
            obtain ⟨other, member, same⟩ := List.mem_map.mp
              (List.mem_reverse.mp (Dict.mem_of_lookup_eq_some found))
            exact (Prod.mk.inj same).2 ▸ member
          dsimp only
          cases built : buildRevocationReport certificateMetadata loadCrl pull revoked source
              (records source.name).runtime with
          | error failure => exact .refl
          | ok report =>
              dsimp only
              split
              · exact .refl
              · let name := documentName source.generatedAt source.reportId
                let next : TargetRecords := { records source.name with
                  reports := (records source.name).reports.put name (some report) }
                obtain ⟨⟨reports, same⟩, each⟩ :=
                  @ih (Function.update records source.name next)
                by_cases here : target = source.name
                · subst here
                  rw [Function.update_self] at same each
                  refine ⟨⟨reports, same⟩, fun file member => ?_⟩
                  rcases each file member with earlier | later
                  · rcases DirectoryListing.mem_put.mp earlier with rfl | ⟨kept, _⟩
                    · exact .inr ⟨source, among, report, rfl, built, rfl⟩
                    · exact .inl kept
                  · exact .inr later
                · rw [Function.update_of_ne here] at same each
                  exact ⟨⟨reports, same⟩, each⟩

/-- A pull writes reports of the runtimes that there are. -/
theorem pull_adds (target : String) :
    (pullRevocationUpdateOnce certificateMetadata loadCrl pull records).1 = records ∨
      ∃ inventory, fetchCertificateInventory pull.inventory = .ok inventory ∧
        AddsReports certificateMetadata loadCrl pull (revokedCertificates inventory) target
          (records target)
          ((pullRevocationUpdateOnce certificateMetadata loadCrl pull records).1 target) := by
  rw [pullRevocationUpdateOnce]
  cases fetched : fetchCertificateInventory pull.inventory with
  | error failure => exact .inl rfl
  | ok inventory => exact .inr ⟨inventory, rfl, reportTargets_adds pull.selectedNames target⟩

/-- A report that is found by its id has it, or a name that it is in. -/
theorem reportWithId_eq_ok {reportId : String} {files : List (String × Option Json)}
    {file : String × Option Json} (found : reportWithId reportId files = .ok (some file)) :
    file ∈ files ∧ ∃ report, file.2 = some report ∧
      (textOf report "report_id" = reportId ∨ textContains reportId file.1 = true) := by
  induction files with
  | nil => cases found
  | cons first rest ih =>
      obtain ⟨name, payload⟩ := first
      cases payload with
      | none => exact (ih found).imp_left (List.mem_cons_of_mem _)
      | some payload =>
          rw [reportWithId] at found
          split at found
          · cases found
          · split at found
            · rename_i matched
              cases found
              exact ⟨List.mem_cons_self, payload, rfl, matched⟩
            · exact (ih found).imp_left (List.mem_cons_of_mem _)

/-- A report that a plan is made from is one of the target. -/
theorem mem_of_loadRevocationReport {reports : DirectoryListing (Option Json)}
    {reportId : String} {file : String × Option Json}
    (found : loadRevocationReport reports reportId = .ok (some file)) : file ∈ reports := by
  rw [loadRevocationReport] at found
  split at found
  · exact (DirectoryListing.mem_newestFirst.mp (reportWithId_eq_ok found).1).1
  · exact (DirectoryListing.mem_jsonFiles.mp
      (List.mem_of_mem_getLast? (Except.ok.inj found))).1

theorem not_affects_null {rel fp : String} : ¬Affects .null rel fp := by
  rintro ⟨_, among, _⟩
  cases among

variable (certificateMetadata planning) in
/-- A target has more plans than before, from its reports and its runtime, and nothing else has
changed. -/
structure AddsPlan (target : String) (before after : TargetRecords) : Prop where
  others : ∃ plans, after = { before with plans := plans }
  plans : ∀ file ∈ after.plans, file ∈ before.plans ∨ planning.target = target ∧
    ∃ plan, file.2 = some plan ∧ ∀ rel fp, Plans plan rel fp →
      (∃ earlier ∈ before.reports, ∃ report, earlier.2 = some report ∧ Affects report rel fp) ∧
        Shows certificateMetadata planning.readable
          (inspectedTree planning.rootAvailable before.runtime) rel fp

theorem AddsPlan.refl {target : String} {before : TargetRecords} :
    AddsPlan certificateMetadata planning target before before :=
  ⟨⟨before.plans, rfl⟩, fun _ among => .inl among⟩

/-- A planning writes a plan for what the report has and the runtime still has. -/
theorem plan_adds (target : String) :
    AddsPlan certificateMetadata planning target (records target)
      ((planQuarantineOnce certificateMetadata revocationDir planning records).1 target) := by
  rw [planQuarantineOnce]
  dsimp only
  cases loaded : loadRevocationReport (records planning.target).reports planning.reportId with
  | error failure => exact .refl
  | ok found =>
      dsimp only
      split
      · exact .refl
      · rename_i plan planned
        split
        · exact .refl
        · dsimp only
          by_cases here : target = planning.target
          · subst here
            rw [Function.update_self]
            refine ⟨⟨_, rfl⟩, fun file member => ?_⟩
            rcases DirectoryListing.mem_put.mp member with rfl | ⟨kept, _⟩
            · refine .inr ⟨rfl, plan, rfl, fun rel fp plans => ?_⟩
              obtain ⟨_, affects, shown⟩ := (plans_iff planned).mp plans
              refine ⟨?_, shown⟩
              cases found with
              | none => exact absurd affects not_affects_null
              | some file =>
                  refine ⟨file, mem_of_loadRevocationReport loaded, ?_⟩
                  cases payload : file.2 with
                  | none =>
                      rw [Option.bind_some, payload] at affects
                      exact absurd affects not_affects_null
                  | some report =>
                      rw [Option.bind_some, payload] at affects
                      exact ⟨report, rfl, affects⟩
            · exact .inl kept
          · rw [Function.update_of_ne here]
            exact .refl

end Commands

/-! ## Runs -/

section System

variable {PrivateKey PublicKey : Type} (crypto : Crypto PrivateKey PublicKey)
  (sha256Hex : List UInt8 → String)
  (certificateMetadata : List UInt8 → Option CertificateMetadata)
  (loadCrl : List UInt8 → Option (List Int)) (revocationDir : String) (start : AgentRecords)
  (target rel fp : String)

/-- A pull among the events found a certificate in the runtime and in the inventory, there as
one that is revoked. -/
inductive Reported : List (RevocationEvent PrivateKey) → Prop where
  | pulled {front : List (RevocationEvent PrivateKey)} {pull : RevocationPull}
      {back : List (RevocationEvent PrivateKey)} {source : RevocationTarget}
      {inventory : List Json} {records : AgentRecords}
      (reached : Transition.run
        (revocationStep crypto sha256Hex certificateMetadata loadCrl revocationDir) start front =
          some records)
      (fetched : fetchCertificateInventory pull.inventory = .ok inventory)
      (revokes : Revokes inventory fp)
      (among : source ∈ pull.runtimeTargets) (named : source.name = target)
      (shown : Shows certificateMetadata source.readable
        (inspectedTree source.rootAvailable (records target).runtime) rel fp) :
      Reported (front ++ .pull pull :: back)

/-- After such a pull a planning found the certificate in the runtime once more. -/
inductive Planned : List (RevocationEvent PrivateKey) → Prop where
  | planned {front : List (RevocationEvent PrivateKey)} {planning : QuarantinePlanning}
      {back : List (RevocationEvent PrivateKey)} {records : AgentRecords}
      (reported : Reported crypto sha256Hex certificateMetadata loadCrl revocationDir start target
        rel fp front)
      (reached : Transition.run
        (revocationStep crypto sha256Hex certificateMetadata loadCrl revocationDir) start front =
          some records)
      (named : planning.target = target)
      (shown : Shows certificateMetadata planning.readable
        (inspectedTree planning.rootAvailable (records target).runtime) rel fp) :
      Planned (front ++ .plan planning :: back)

/-- No target has a report or a plan. -/
def AgentRecords.Fresh (records : AgentRecords) : Prop :=
  ∀ target, (records target).reports = [] ∧ (records target).plans = []

/-- What the reports and the plans of the targets say was found so. -/
structure Documented (past : List (RevocationEvent PrivateKey)) (records : AgentRecords) :
    Prop where
  reports : ∀ target, ∀ file ∈ (records target).reports, ∀ report, file.2 = some report →
    ∀ rel fp, Affects report rel fp → Reported crypto sha256Hex certificateMetadata loadCrl
      revocationDir start target rel fp past
  plans : ∀ target, ∀ file ∈ (records target).plans, ∀ plan, file.2 = some plan →
    ∀ rel fp, Plans plan rel fp → Planned crypto sha256Hex certificateMetadata loadCrl
      revocationDir start target rel fp past

section Steps

variable {crypto sha256Hex certificateMetadata loadCrl revocationDir start target rel fp}
  {past : List (RevocationEvent PrivateKey)} {records after : AgentRecords}

theorem Reported.later (more : List (RevocationEvent PrivateKey))
    (reported : Reported crypto sha256Hex certificateMetadata loadCrl revocationDir start target
      rel fp past) :
    Reported crypto sha256Hex certificateMetadata loadCrl revocationDir start target rel fp
      (past ++ more) := by
  cases reported with
  | pulled reached fetched revokes among named shown =>
      rw [List.append_assoc, List.cons_append]
      exact .pulled reached fetched revokes among named shown

theorem Planned.later (more : List (RevocationEvent PrivateKey))
    (planned : Planned crypto sha256Hex certificateMetadata loadCrl revocationDir start target
      rel fp past) :
    Planned crypto sha256Hex certificateMetadata loadCrl revocationDir start target rel fp
      (past ++ more) := by
  cases planned with
  | planned reported reached named shown =>
      rw [List.append_assoc, List.cons_append]
      exact .planned reported reached named shown

theorem activateQuarantineOnce_self {input : QuarantineInput PrivateKey}
    {outcomes : QuarantineOutcomes} :
    (activateQuarantineOnce crypto sha256Hex input outcomes records).1 input.target =
      (records input.target).withPlan input.planId
        (activateRevocationQuarantine crypto sha256Hex (input.finding records) outcomes
          ((records input.target).ofPlan input.planId)).2 :=
  Function.update_self ..

theorem activateQuarantineOnce_of_ne {input : QuarantineInput PrivateKey}
    {outcomes : QuarantineOutcomes} (other : target ≠ input.target) :
    (activateQuarantineOnce crypto sha256Hex input outcomes records).1 target = records target :=
  Function.update_of_ne other ..

/-- An activation leaves reports and plans as they are. -/
theorem activate_same {input : QuarantineInput PrivateKey} {outcomes : QuarantineOutcomes}
    (target : String) :
    ((activateQuarantineOnce crypto sha256Hex input outcomes records).1 target).reports =
        (records target).reports ∧
      ((activateQuarantineOnce crypto sha256Hex input outcomes records).1 target).plans =
        (records target).plans := by
  by_cases here : target = input.target
  · subst here
    rw [activateQuarantineOnce_self]
    exact ⟨rfl, rfl⟩
  · rw [activateQuarantineOnce_of_ne here]
    exact ⟨rfl, rfl⟩

/-- Records with the same reports and plans stay documented. -/
theorem Documented.of_same (event : RevocationEvent PrivateKey)
    (documented : Documented crypto sha256Hex certificateMetadata loadCrl revocationDir start past
      records)
    (reports : ∀ target, (after target).reports = (records target).reports)
    (plans : ∀ target, (after target).plans = (records target).plans) :
    Documented crypto sha256Hex certificateMetadata loadCrl revocationDir start (past ++ [event])
      after where
  reports target file among report isReport rel fp affects :=
    (documented.reports target file (reports target ▸ among) report isReport rel fp affects).later _
  plans target file among plan isPlan rel fp plansIt :=
    (documented.plans target file (plans target ▸ among) plan isPlan rel fp plansIt).later _

theorem Documented.step (event : RevocationEvent PrivateKey)
    (reached : Transition.run
      (revocationStep crypto sha256Hex certificateMetadata loadCrl revocationDir) start past =
        some records)
    (documented : Documented crypto sha256Hex certificateMetadata loadCrl revocationDir start past
      records)
    (stepped : revocationStep crypto sha256Hex certificateMetadata loadCrl revocationDir records
      event = some after) :
    Documented crypto sha256Hex certificateMetadata loadCrl revocationDir start (past ++ [event])
      after := by
  cases event with
  | pull pull =>
      cases stepped
      constructor
      · intro target file among report isReport rel fp affects
        rcases pull_adds target with same | ⟨inventory, fetched, adds⟩
        · rw [same] at among
          exact (documented.reports target file among report isReport rel fp affects).later _
        · rcases adds.reports file among with earlier | ⟨source, member, made, named, built, isMade⟩
          · exact (documented.reports target file earlier report isReport rel fp affects).later _
          · obtain rfl := Option.some.inj (isMade.symm.trans isReport)
            obtain ⟨_, revokes, shown⟩ := (affects_iff built).mp affects
            exact .pulled reached fetched revokes member named shown
      · intro target file among plan isPlan rel fp plans
        rcases pull_adds target with same | ⟨inventory, fetched, adds⟩
        · rw [same] at among
          exact (documented.plans target file among plan isPlan rel fp plans).later _
        · obtain ⟨_, same⟩ := adds.others
          rw [same] at among
          exact (documented.plans target file among plan isPlan rel fp plans).later _
  | plan planning =>
      cases stepped
      constructor
      · intro target file among report isReport rel fp affects
        obtain ⟨_, same⟩ := (plan_adds target).others
        rw [same] at among
        exact (documented.reports target file among report isReport rel fp affects).later _
      · intro target file among plan isPlan rel fp plansIt
        rcases (plan_adds target).plans file among with earlier | ⟨named, made, isMade, found⟩
        · exact (documented.plans target file earlier plan isPlan rel fp plansIt).later _
        · obtain rfl := Option.some.inj (isMade.symm.trans isPlan)
          obtain ⟨⟨reportFile, inReports, report, isReport, affects⟩, shown⟩ := found rel fp plansIt
          exact .planned (documented.reports target reportFile inReports report isReport rel fp
            affects) reached named shown
  | activate input outcomes =>
      cases stepped
      exact documented.of_same _ (fun target => (activate_same target).1)
        fun target => (activate_same target).2
  | runtime changed files =>
      cases stepped
      have same (target : String) : (Function.update records changed
          { records changed with runtime := files } target).reports = (records target).reports ∧
          (Function.update records changed { records changed with runtime := files }
            target).plans = (records target).plans := by
        by_cases here : target = changed
        · subst here
          simp
        · simp [here]
      exact documented.of_same _ (fun target => (same target).1) fun target => (same target).2

/-- Every run from targets without reports and plans documents what it found. -/
theorem documented_of_run (fresh : start.Fresh)
    (reached : Transition.run
      (revocationStep crypto sha256Hex certificateMetadata loadCrl revocationDir) start past =
        some records) :
    Documented crypto sha256Hex certificateMetadata loadCrl revocationDir start past records := by
  refine Transition.run_history (fun past before event after reached documented stepped =>
    documented.step event reached stepped) ⟨?_, ?_⟩ reached
  · intro target file among
    rw [(fresh target).1] at among
    cases among
  · intro target file among
    rw [(fresh target).2] at among
    cases among

theorem planWithId_eq_some {planId : String} {files : List (String × Option Json)} {plan : Json}
    (found : planWithId planId files = some (some plan)) :
    textOf plan "plan_id" = planId ∧ ∃ file ∈ files, file.2 = some plan := by
  induction files with
  | nil => cases found
  | cons first rest ih =>
      obtain ⟨name, payload⟩ := first
      cases payload with
      | none => exact (ih found).imp_right fun ⟨file, among⟩ =>
          ⟨file, among.imp_left (List.mem_cons_of_mem _)⟩
      | some payload =>
          rw [planWithId] at found
          split at found
          · cases found
          · split at found
            · rename_i matched
              cases found
              exact ⟨matched, _, List.mem_cons_self, rfl⟩
            · exact (ih found).imp_right fun ⟨file, among⟩ =>
                ⟨file, among.imp_left (List.mem_cons_of_mem _)⟩

/-- A plan that an activation finds is one of the target, and has the id. -/
theorem loadQuarantinePlan_eq_some {plans : DirectoryListing (Option Json)} {planId : String}
    {plan : Json} (found : loadQuarantinePlan plans planId = some plan) :
    textOf plan "plan_id" = planId ∧ ∃ file ∈ plans, file.2 = some plan := by
  rw [loadQuarantinePlan, Option.join_eq_some_iff] at found
  exact (planWithId_eq_some found).imp_right fun ⟨file, among⟩ =>
    ⟨file, among.imp_left fun member => (DirectoryListing.mem_newestFirst.mp member).1⟩

/-- A file that a command of the agent takes out of a runtime is in the place of a certificate
that a pull and then a planning found there, and that the inventory of the pull revoked. -/
theorem removed_was_revoked (fresh : start.Fresh)
    (reached : Transition.run
      (revocationStep crypto sha256Hex certificateMetadata loadCrl revocationDir) start past =
        some records)
    {event : RevocationEvent PrivateKey} (command : ∀ changed files, event ≠ .runtime changed files)
    (stepped : revocationStep crypto sha256Hex certificateMetadata loadCrl revocationDir records
      event = some after) {path : String} {content : List UInt8}
    (held : (records target).runtime.read path = some content)
    (gone : (after target).runtime.read path = none) :
    (isPrivateFile path = false ∧ ¬IsOwnFile path) ∧
      ∃ rel fp, resolveInside (normalizeRelativePath rel) = some path ∧
        Planned crypto sha256Hex certificateMetadata loadCrl revocationDir start target rel fp
          past := by
  have kept {changed : TargetRecords} (same : changed.runtime = (records target).runtime)
      (isAfter : after target = changed) : False := by
    rw [isAfter, same, held] at gone
    cases gone
  cases event with
  | pull pull =>
      cases stepped
      rcases pull_adds target with same | ⟨inventory, _, adds⟩
      · exact absurd (congrFun same target) (kept rfl)
      · obtain ⟨reports, same⟩ := adds.others
        exact absurd same (kept rfl)
  | plan planning =>
      cases stepped
      obtain ⟨plans, same⟩ := (plan_adds target).others
      exact absurd same (kept rfl)
  | runtime changed files => exact absurd rfl (command changed files)
  | activate input outcomes =>
      cases stepped
      by_cases here : target = input.target
      · subst here
        rw [activateQuarantineOnce_self] at gone
        have isHeld : (((records input.target).ofPlan input.planId).files.runtime.read
            path).isSome = true := Option.isSome_of_eq_some held
        obtain ⟨plan, proceeds, takes⟩ := (removed_iff isHeld).mp gone
        refine ⟨takes_public takes, ?_⟩
        obtain ⟨_, file, member, isPlan⟩ := loadQuarantinePlan_eq_some proceeds.found
        obtain ⟨front, item, back, parts, _, ⟨_, found⟩, _⟩ := takes
        have among : item ∈ quarantineCandidates plan :=
          parts ▸ List.mem_append_right front List.mem_cons_self
        exact ⟨_, _, (candidateFile_read found).1, (documented_of_run fresh reached).plans _ file
          member plan isPlan _ _ ⟨item, among, rfl, rfl⟩⟩
      · exact absurd (activateQuarantineOnce_of_ne here) (kept rfl)

end Steps

end System

/-! ## A revoked certificate -/

def revocationSource : RevocationTarget where
  targetCfg := .obj [("target", .str "fuxa")]
  cached := .ok none
  rootAvailable := true
  readable := fun _ => true
  reportId := "r"
  generatedAt := "t"
  written := true

/-- The inventory has the certificates of the runtime, and one of them is revoked. -/
def revocationPull : RevocationPull where
  oldCrlDer := none
  newCrlDer := none
  inventory := some (.arr [
    .obj [("id", .int 7), ("fingerprint_sha256", .str "A1"), ("status", .str "revoked")],
    .obj [("id", .int 8), ("fingerprint_sha256", .str "B2"), ("status", .str "active")]])
  runtimeTargets := [revocationSource]
  requestedTarget := ""
  mergePolicy := "conservative_merge"
  syncCycleId := "s"

def revocationPlanning : QuarantinePlanning where
  target := "fuxa"
  reportId := "r"
  planId := "q"
  generatedAt := "t"
  preflightPath := "f"
  rootAvailable := true
  readable := fun _ => true
  written := true

def revocationStart : AgentRecords := fun _ =>
  { runtime := [("trusted/certs/p", [1]), ("trusted/certs/n", [2])]
    reports := []
    plans := []
    quarantine := fun _ => []
    tombstones := fun _ => none
    receipts := [] }

def revocationDigest (_ : List UInt8) : String := ""

/-- The targets before the activation. -/
def revocationReady : AgentRecords :=
  (planQuarantineOnce replacedMetadata "d" revocationPlanning
    (pullRevocationUpdateOnce replacedMetadata (fun _ => none) revocationPull
      revocationStart).1).1

/-- The gates of an activation look at the plan for its report only. -/
theorem quarantineGate_congr {PrivateKey PublicKey : Type} (crypto : Crypto PrivateKey PublicKey)
    (input : QuarantineInput PrivateKey) {plan other : Json}
    (same : (textOr ((plan.field? "revocation_report_path").getD .null) "" ≠ "" ∧
        input.reportExists (textOr ((plan.field? "revocation_report_path").getD .null) "")) ↔
      (textOr ((other.field? "revocation_report_path").getD .null) "" ≠ "" ∧
        input.reportExists (textOr ((other.field? "revocation_report_path").getD .null) ""))) :
    quarantineGate crypto input plan = quarantineGate crypto input other := by
  simp only [quarantineGate, same]

/-- The candidate of the plan. -/
def revocationCandidate : Json := candidateFromRuntimeEntry
  ("trusted/certs/p", ⟨"a1", "CN=old", "16"⟩) (.obj [("certificate_id", .int 7),
    ("application_uri", .null), ("revoked_at", .null)])

/-- The activation gets to the candidate. -/
theorem revocationReady_proceeds : ∃ plan,
    Proceeds Gds.transparentCrypto ((replacedInput "t").finding revocationReady) (allDone true)
      plan ∧ quarantineCandidates plan = [revocationCandidate] := by
  have report : textOr ((replacedPlan.field? "revocation_report_path").getD .null) "" ≠ "" := by
    decide
  obtain ⟨plan, found, candidates, ready, hasReport⟩ : ∃ plan,
      loadQuarantinePlan (revocationReady "fuxa").plans "q" = some plan ∧
        quarantineCandidates plan = [revocationCandidate] ∧
          textOf plan "decision" = "ready_for_quarantine" ∧
            textOr ((plan.field? "revocation_report_path").getD .null) "" = "d/fuxa/t_r.json" :=
    ⟨_, rfl, rfl, rfl, rfl⟩
  have named : "d/fuxa/t_r.json" ≠ "" := by decide
  have gate : quarantineGate Gds.transparentCrypto (replacedInput "t") plan = .ok ([], []) := by
    rw [← replacedInput_gate "t"]
    exact quarantineGate_congr _ _ (iff_of_true ⟨hasReport ▸ named, rfl⟩ ⟨report, rfl⟩)
  exact ⟨plan, {
    target := List.mem_cons_self
    planId := (by decide : "q" ≠ "")
    found := found
    ready := ready
    gate := ⟨[], gate⟩
    candidates := by simp [candidates]
    root := rfl
    probe := rfl
    directories := rfl }, candidates⟩

theorem revocationCandidate_file :
    candidateFile revocationCandidate (revocationStart "fuxa").runtime =
      some ("trusted/certs/p", [1]) := by
  have resolved : resolveInside (candidatePath revocationCandidate) = some "trusted/certs/p" := by
    decide +kernel
  rw [candidateFile, if_neg (by decide +kernel), resolved, Option.bind_some, fileAt,
    if_neg (by decide +kernel)]
  rfl

/-- An activation that gets to the candidate takes its file out. -/
theorem revocationCandidate_removed {records : AgentRecords} {plan : Json}
    (runtime : (records "fuxa").runtime = (revocationStart "fuxa").runtime)
    (proceeds : Proceeds Gds.transparentCrypto ((replacedInput "t").finding records) (allDone true)
      plan) (candidates : quarantineCandidates plan = [revocationCandidate]) :
    ((activateQuarantineOnce Gds.transparentCrypto revocationDigest (replacedInput "t")
      (allDone true) records).1 "fuxa").runtime.read "trusted/certs/p" = none := by
  have takes : Takes (allDone true) (records "fuxa").runtime (quarantineCandidates plan)
      "trusted/certs/p" := by
    rw [candidates, runtime]
    exact ⟨[], _, [], rfl, nofun, ⟨[1], revocationCandidate_file⟩, rfl, rfl, rfl⟩
  have held : (((records "fuxa").ofPlan "q").files.runtime.read "trusted/certs/p").isSome =
      true := by
    rw [TargetRecords.ofPlan, runtime]
    rfl
  refine (congrArg (fun left => left.runtime.read "trusted/certs/p")
    activateQuarantineOnce_self).trans ?_
  exact (removed_iff held).mpr ⟨plan, proceeds, takes⟩

/-- The revoked certificate is found by the pull and by the planning, and the activation takes it
out of the runtime. -/
theorem revoked_certificate_removed : ∃ records after,
    Transition.run (revocationStep Gds.transparentCrypto revocationDigest replacedMetadata
        (fun _ => none) "d") revocationStart
      [.pull revocationPull, .plan revocationPlanning] = some records ∧
    revocationStep Gds.transparentCrypto revocationDigest replacedMetadata (fun _ => none) "d"
      records (.activate (replacedInput "t") (allDone true)) = some after ∧
    (isPrivateFile "trusted/certs/p" = false ∧ ¬IsOwnFile "trusted/certs/p") ∧
      ∃ rel fp, resolveInside (normalizeRelativePath rel) = some "trusted/certs/p" ∧
        Planned Gds.transparentCrypto revocationDigest replacedMetadata (fun _ => none) "d"
          revocationStart "fuxa" rel fp [.pull revocationPull, .plan revocationPlanning] := by
  obtain ⟨plan, proceeds, candidates⟩ := revocationReady_proceeds
  have runtime : (revocationReady "fuxa").runtime = (revocationStart "fuxa").runtime := by
    decide +kernel
  have gone := revocationCandidate_removed runtime proceeds candidates
  have held : (revocationReady "fuxa").runtime.read "trusted/certs/p" = some [1] := by
    rw [runtime]
    rfl
  have fresh : revocationStart.Fresh := fun _ => ⟨rfl, rfl⟩
  have reached : Transition.run (revocationStep Gds.transparentCrypto revocationDigest
      replacedMetadata (fun _ => none) "d") revocationStart
        [.pull revocationPull, .plan revocationPlanning] = some revocationReady :=
    Transition.run_cons_eq_some.mpr ⟨_, rfl, Transition.run_cons_eq_some.mpr ⟨_, rfl, rfl⟩⟩
  have stepped : revocationStep Gds.transparentCrypto revocationDigest replacedMetadata
      (fun _ => none) "d" revocationReady (.activate (replacedInput "t") (allDone true)) =
        some (activateQuarantineOnce Gds.transparentCrypto revocationDigest (replacedInput "t")
          (allDone true) revocationReady).1 := rfl
  exact ⟨revocationReady, _, reached, stepped, removed_was_revoked fresh reached
    (fun _ _ same => by cases same) stepped held gone⟩

end OpcuaGds.Agent
