import OpcuaGds.Agent.DiffSoundness
import OpcuaGds.Agent.ReplayProtection
import OpcuaGds.Agent.SyncCycle

/-! # What the reports of a sync say about the cached lists

A report compares a list with the cached one before the cache entry is replaced. The saved
reports of any number of cycles, whichever of them fail, then account for everything by which a
cached list differs from the one at the start.
-/

namespace OpcuaGds.Agent

open Gds (Crypto)

/-! ## Statements -/

/-- A certificate that the report has in its current list and not in the previous one. -/
def DiffReport.ListsNew (report : DiffReport) (pair : String × String) : Prop :=
  (∃ view ∈ report.added, view.pair = pair) ∨
    ∃ change ∈ report.changed, change.newPair = some pair

/-- A certificate that the report has in its previous list and not in the current one. -/
def DiffReport.ListsOld (report : DiffReport) (pair : String × String) : Prop :=
  (∃ view ∈ report.removed, view.pair = pair) ∨
    ∃ change ∈ report.changed, change.previousPair = some pair

/-- The cache file of the list that a report is about. -/
def DiffReport.cacheFile (report : DiffReport) : String :=
  trustlistFile report.zone report.role

def viewCerts (view : Option TrustListView) : List CertEntry :=
  (view.map TrustListView.certificates).getD []

/-- The certificates of a cached list. -/
def SyncFiles.cachedCerts (files : SyncFiles) (file : String) : List CertEntry :=
  viewCerts ((cachedView? (files.trustlists file)).getD none)

/-- Every certificate that counts in a cached list now and did not at the start is new in a
report about that file, and every one that counted at the start and does not now is old in
one. -/
structure SyncRecord.Accounts (start : SyncFiles) (record : SyncRecord) : Prop where
  new : ∀ file pair, Stands (record.files.cachedCerts file) pair →
    ¬Stands (start.cachedCerts file) pair →
      ∃ report ∈ record.reports, report.cacheFile = file ∧ report.ListsNew pair
  old : ∀ file pair, Stands (start.cachedCerts file) pair →
    ¬Stands (record.files.cachedCerts file) pair →
      ∃ report ∈ record.reports, report.cacheFile = file ∧ report.ListsOld pair

/-! ## One report -/

section Report

variable {parseNotAfter : String → Option String} {input : DiffInput} {pair : String × String}

theorem listsNew_buildDiffReport (now : Stands input.newCerts pair)
    (before : ¬Stands input.prevCerts pair) :
    (buildDiffReport parseNotAfter input).ListsNew pair := by
  have held := (@hasPair_buildCertIndex parseNotAfter _ _).mpr now
  have absent := mt (@hasPair_buildCertIndex parseNotAfter _ _).mp before
  exact (added_accounted_iff (fun _ _ => applicationUri_of_get?) absent).mpr held

theorem listsOld_buildDiffReport (before : Stands input.prevCerts pair)
    (now : ¬Stands input.newCerts pair) :
    (buildDiffReport parseNotAfter input).ListsOld pair := by
  have held := (@hasPair_buildCertIndex parseNotAfter _ _).mpr before
  have absent := mt (@hasPair_buildCertIndex parseNotAfter _ _).mp now
  exact (removed_accounted_iff (fun _ _ => applicationUri_of_get?) absent).mpr held

end Report

/-! ## Every run -/

namespace SyncRecord

theorem Accounts.refl (record : SyncRecord) : record.Accounts record.files where
  new := by
    intro file pair now before
    exact absurd now before
  old := by
    intro file pair before now
    exact absurd before now

/-- More reports and other files account for the same lists. -/
theorem Accounts.mono {start : SyncFiles} {record next : SyncRecord}
    (accounts : record.Accounts start) (lists : next.files.trustlists = record.files.trustlists)
    (reports : record.reports ⊆ next.reports) : next.Accounts start := by
  have cached (file : String) : next.files.cachedCerts file = record.files.cachedCerts file := by
    rw [SyncFiles.cachedCerts, lists, SyncFiles.cachedCerts]
  refine ⟨fun file pair now before => ?_, fun file pair before now => ?_⟩
  · obtain ⟨report, saved, about⟩ := accounts.new file pair (cached file ▸ now) before
    exact ⟨report, reports saved, about⟩
  · obtain ⟨report, saved, about⟩ := accounts.old file pair before (cached file ▸ now)
    exact ⟨report, reports saved, about⟩

@[simp] theorem forward_files (record : SyncRecord) (event : OtEvent) :
    (record.forward event).files = record.files := rfl

@[simp] theorem forward_reports (record : SyncRecord) (event : OtEvent) :
    (record.forward event).reports = record.reports := rfl

@[simp] theorem forwardReport_files (report : DiffReport) (record : SyncRecord) :
    (forwardReport report record).files = record.files := by
  simp only [forwardReport]
  split <;> rfl

@[simp] theorem forwardReport_reports (report : DiffReport) (record : SyncRecord) :
    (forwardReport report record).reports = record.reports := by
  simp only [forwardReport]
  split <;> rfl

/-- The cached certificates after a cache entry is replaced. -/
theorem cachedCerts_update {files : SyncFiles} {name : String} {payload : Json}
    {view : Option TrustListView} (read : trustListView? payload = some view) (file : String) :
    ({ files with trustlists := Function.update files.trustlists name (some payload) } :
        SyncFiles).cachedCerts file =
      if file = name then viewCerts view else files.cachedCerts file := by
  by_cases same : file = name
  · subst same
    simp [SyncFiles.cachedCerts, cachedView?, read]
  · simp [SyncFiles.cachedCerts, same]

/-- A cache entry is replaced after a report that compares it with the new list. -/
theorem Accounts.replace {start : SyncFiles} {record next : SyncRecord}
    (accounts : record.Accounts start) (name : String) (certs : List CertEntry)
    (report : DiffReport)
    (cached : ∀ file, next.files.cachedCerts file =
      if file = name then certs else record.files.cachedCerts file)
    (reports : next.reports = record.reports ++ [report]) (about : report.cacheFile = name)
    (new : ∀ pair, Stands certs pair → ¬Stands (record.files.cachedCerts name) pair →
      report.ListsNew pair)
    (old : ∀ pair, Stands (record.files.cachedCerts name) pair → ¬Stands certs pair →
      report.ListsOld pair) : next.Accounts start := by
  have saved : report ∈ next.reports := by simp [reports]
  have kept {earlier : DiffReport} (member : earlier ∈ record.reports) :
      earlier ∈ next.reports := by simp [reports, member]
  refine ⟨fun file pair now before => ?_, fun file pair before now => ?_⟩
  · rw [cached] at now
    by_cases was : Stands (record.files.cachedCerts file) pair
    · obtain ⟨earlier, member, facts⟩ := accounts.new file pair was before
      exact ⟨earlier, kept member, facts⟩
    · by_cases same : file = name
      · subst same
        rw [if_pos rfl] at now
        exact ⟨report, saved, about, new pair now was⟩
      · rw [if_neg same] at now
        exact absurd now was
  · rw [cached] at now
    by_cases was : Stands (record.files.cachedCerts file) pair
    · by_cases same : file = name
      · subst same
        rw [if_pos rfl] at now
        exact ⟨report, saved, about, old pair was now⟩
      · rw [if_neg same] at now
        exact absurd was now
    · obtain ⟨earlier, member, facts⟩ := accounts.old file pair before was
      exact ⟨earlier, kept member, facts⟩

section Steps

variable {PrivateKey PublicKey : Type} {crypto : Crypto PrivateKey PublicKey}
  {x509 : X509 PublicKey} {parseNotAfter : String → Option String} {dirs : SyncDirs}
  {chainChanged crlChanged : Bool} {start : SyncFiles} {zone role : String}
  {exchange : ListExchange} {record : SyncRecord}

theorem Accounts.of_malformed (accounts : record.Accounts start)
    (previous : Option TrustListView) (failure : Failure) :
    (reportMalformed parseNotAfter chainChanged crlChanged zone role exchange previous failure
      record).1.Accounts start := by
  rw [reportMalformed]
  cases exchange.reportWrite with
  | error text => exact accounts
  | ok done => exact accounts.mono rfl (List.subset_append_left _ _)

theorem Accounts.of_stored (accounts : record.Accounts start)
    {previous current : Option TrustListView} {payload : Json}
    (before : cachedView? (record.files.trustlists (trustlistFile zone role)) = some previous)
    (now : trustListView? payload = some current) :
    (storeList parseNotAfter dirs chainChanged crlChanged zone role exchange previous current
      payload record).1.Accounts start := by
  have cached : record.files.cachedCerts (trustlistFile zone role) = viewCerts previous := by
    rw [SyncFiles.cachedCerts, before, Option.getD_some]
  simp only [storeList]
  cases exchange.reportWrite with
  | error text => exact accounts
  | ok done =>
      cases exchange.cacheWrite with
      | error text =>
          refine accounts.mono (by simp [saveReport]) ?_
          simp [saveReport]
      | ok done =>
          refine accounts.replace (trustlistFile zone role) (viewCerts current)
            (buildDiffReport parseNotAfter
              (exchange.diffInput chainChanged crlChanged zone role previous current []))
            (fun file => ?_) ?_ rfl ?_ ?_
          · simp [saveReport, saveList, cachedCerts_update now]
          · simp [saveReport, saveList]
          · intro pair stands was
            rw [cached] at was
            exact listsNew_buildDiffReport stands was
          · intro pair was stands
            rw [cached] at was
            exact listsOld_buildDiffReport was stands

theorem Accounts.of_list (accounts : record.Accounts start) {next : SyncRecord} {goesOn : Bool}
    (stepped : syncList crypto x509 parseNotAfter dirs chainChanged crlChanged zone role exchange
      record = some (next, goesOn)) : next.Accounts start := by
  rw [syncList] at stepped
  split at stepped
  · split at stepped
    · cases stepped
      exact accounts
    · obtain ⟨previous, before, stepped⟩ := Option.bind_eq_some_iff.mp stepped
      cases passed : exchange.checked crypto x509 zone role with
      | error failure =>
          simp only [passed, Option.some.injEq] at stepped
          have reported : (reportMalformed parseNotAfter chainChanged crlChanged zone role
              exchange previous failure record).1.Accounts start :=
            accounts.of_malformed previous failure
          rw [stepped] at reported
          exact reported
      | ok payload =>
          simp only [passed] at stepped
          obtain ⟨current, now, stepped⟩ := Option.bind_eq_some_iff.mp stepped
          rw [Option.some.injEq] at stepped
          have stored : (storeList parseNotAfter dirs chainChanged crlChanged zone role exchange
              previous current payload record).1.Accounts start := accounts.of_stored before now
          rw [stepped] at stored
          exact stored
  · cases stepped
    exact accounts

theorem Accounts.of_lists {targets : List (String × String × ListExchange)}
    {final : SyncRecord} (accounts : record.Accounts start)
    (reached : syncLists crypto x509 parseNotAfter dirs chainChanged crlChanged targets record =
      some final) : final.Accounts start := by
  induction targets generalizing record with
  | nil =>
      cases reached
      exact accounts
  | cons target rest ih =>
      obtain ⟨zone, role, exchange⟩ := target
      obtain ⟨⟨next, goesOn⟩, stepped, reached⟩ := Option.bind_eq_some_iff.mp reached
      have here := accounts.of_list stepped
      cases goesOn with
      | false =>
          cases reached
          exact here
      | true => exact ih here reached

theorem syncCaChain_lists (dirs : SyncDirs) (cycle : PlainCycle) (record : SyncRecord) :
    (syncCaChain dirs cycle record).1.files.trustlists = record.files.trustlists ∧
      (syncCaChain dirs cycle record).1.reports = record.reports := by
  rw [syncCaChain]
  split
  · split
    · exact ⟨rfl, rfl⟩
    · split
      · exact ⟨rfl, rfl⟩
      · exact ⟨rfl, rfl⟩
  · exact ⟨rfl, rfl⟩

theorem syncCrl_lists (x509 : X509 PublicKey) (dirs : SyncDirs) (cycle : PlainCycle)
    (record : SyncRecord) :
    (syncCrl x509 dirs cycle record).1.files.trustlists = record.files.trustlists ∧
      (syncCrl x509 dirs cycle record).1.reports = record.reports := by
  rw [syncCrl]
  split
  · exact ⟨rfl, rfl⟩
  · split
    · exact ⟨rfl, rfl⟩
    · exact ⟨rfl, rfl⟩

theorem announceChanges_lists (chain crl : Bool) (record : SyncRecord) :
    (announceChanges chain crl record).files.trustlists = record.files.trustlists ∧
      (announceChanges chain crl record).reports = record.reports := by
  cases chain <;> cases crl <;> exact ⟨rfl, rfl⟩

theorem Accounts.of_cycle {final : SyncRecord} {cycle : PlainCycle}
    (accounts : record.Accounts start)
    (reached : runSyncCycle crypto x509 parseNotAfter dirs record cycle = some final) :
    final.Accounts start := by
  rw [runSyncCycle] at reached
  have afterChain : (syncCaChain dirs cycle record).1.Accounts start := by
    obtain ⟨lists, reports⟩ := syncCaChain_lists dirs cycle record
    exact accounts.mono lists (reports ▸ List.Subset.refl _)
  split at reached
  case h_1 fetched isFetched =>
      rw [isFetched] at afterChain
      cases reached
      exact afterChain
  case h_2 fetched chainChanged isFetched =>
      rw [isFetched] at afterChain
      have afterCrl : (syncCrl x509 dirs cycle fetched).1.Accounts start := by
        obtain ⟨lists, reports⟩ := syncCrl_lists x509 dirs cycle fetched
        exact afterChain.mono lists (reports ▸ List.Subset.refl _)
      split at reached
      case h_1 later isLater =>
          rw [isLater] at afterCrl
          cases reached
          exact afterCrl
      case h_2 later crlChanged isLater =>
          rw [isLater] at afterCrl
          obtain ⟨lists, reports⟩ := announceChanges_lists chainChanged crlChanged later
          exact (afterCrl.mono lists (reports ▸ List.Subset.refl _)).of_lists reached

end Steps

end SyncRecord

section Runs

variable {PrivateKey PublicKey : Type} {crypto : Crypto PrivateKey PublicKey}
  {x509 : X509 PublicKey} {parseNotAfter : String → Option String} {dirs : SyncDirs}

/-- After any number of cycles, whatever fails in them, the reports that they saved account for
all differences between the cached lists now and at the start. -/
theorem sync_changes_reported {files : SyncFiles} {cycles : List PlainCycle} {final : SyncRecord}
    (reached : Transition.run (runSyncCycle crypto x509 parseNotAfter dirs)
      { files := files, reports := [], events := [] } cycles = some final) :
    final.Accounts files := by
  refine Transition.run_invariant (fun record cycle next accounts stepped => ?_)
    (SyncRecord.Accounts.refl ⟨files, [], []⟩) reached
  exact SyncRecord.Accounts.of_cycle accounts stepped

/-- GDS serves a list with one certificate, or an answer that is no list. -/
def plainCycle (fingerprint : Option String) : PlainCycle where
  pkiReadable := true
  caChainAnswer := some (.obj [("ca_chain_pem", .str "BEGIN CERTIFICATE")])
  caChainWrite := .ok ()
  crlAnswer := some (.obj [("crl_base64", .str "AA==")])
  crlWrite := .ok ()
  targets := [("OT", "server", {
    readable := true
    answer := fingerprint.elim .raised fun fingerprint => .decoded (.obj [("zone", .str "OT"),
      ("role", .str "server"), ("ca_chain_pem", .str "BEGIN CERTIFICATE"),
      ("crl_base64", .str "AA=="), ("certificates", .arr [.obj [("application_uri", .str "urn:a"),
        ("common_name", .str "a"), ("fingerprint_sha256", .str fingerprint),
        ("pem", .str "")]])])
    exceptionText := "timed out"
    diffId := "d"
    generatedAt := "t"
    reportWrite := .ok ()
    cacheWrite := .ok () })]

theorem plainCycles_run : ∃ final : SyncRecord,
    Transition.run (runSyncCycle exampleCrypto exampleX509 (fun _ => none) ⟨"/pki", "/trust"⟩)
        { files := ⟨fun _ => none, none, none⟩, reports := [], events := [] }
        [plainCycle (some "key"), plainCycle none] = some final ∧
      final.reports.length = 2 := ⟨_, rfl, rfl⟩

theorem sync_changes_reported_example : ∃ final : SyncRecord,
    final.reports.length = 2 ∧ final.Accounts ⟨fun _ => none, none, none⟩ := by
  obtain ⟨final, reached, two⟩ := plainCycles_run
  exact ⟨final, two, sync_changes_reported reached⟩

end Runs

end OpcuaGds.Agent
