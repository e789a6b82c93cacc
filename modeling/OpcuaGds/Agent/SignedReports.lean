import OpcuaGds.Agent.SyncReports

/-! # The reports of the signed sync

`run_sync_cycle_signed` compares an artifact with the cached one only where that one is signed
under the same anchor, and against nothing otherwise. From an empty cache its reports still
account for every change of the cached lists.
-/

namespace OpcuaGds.Agent

open Gds (Crypto)

/-- An exchange with what its report takes: an id, a time, and the text of an exception that has
none of its own. -/
structure ReportedExchange where
  target : TargetExchange
  diffId : String
  generatedAt : String
  exceptionText : String

/-- `signed_artifact_validation_failed:{failure_code}:{exc}`. -/
def ReportedExchange.failureReason (exchange : ReportedExchange) (failure : Failure) : String :=
  let code := match failure with
    | .rejected code _ => code
    | _ => "malformed_artifact"
  let text := match failure with
    | .rejected _ message | .valueError message => message
    | .raised => exchange.exceptionText
  "signed_artifact_validation_failed:" ++ code ++ ":" ++ text

section Reports

variable {PrivateKey PublicKey : Type} (crypto : Crypto PrivateKey PublicKey)
  (x509 : X509 PublicKey) (pin : Pin) (parseNotAfter : String → Option String)

/-- A session with the PKI files as they were when the cycle began, and what it has found of
their change. -/
structure ReportingSession where
  session : SyncSession crypto pin
  oldCaChain : Option String
  oldCrl : Option (List UInt8)
  caChainChanged : Bool
  crlChanged : Bool

variable {crypto pin}

/-- What `safe_write_pki_bundle` returns when both files are written. -/
def ReportingSession.compareBundle (session : ReportingSession crypto pin) (artifact : Json)
    (crlDer : List UInt8) : ReportingSession crypto pin :=
  { session with
    caChainChanged :=
      OpcuaGds.Agent.caChainChanged session.oldCaChain
        ((artifact.field? "ca_chain_pem").getD .null)
    crlChanged := OpcuaGds.Agent.crlChanged session.oldCrl crlDer }

/-- The report of one target, if it can be written. -/
def ReportingSession.report (session : ReportingSession crypto pin) (zone role : String)
    (exchange : ReportedExchange) (previous current : Option TrustListView)
    (criticalReasons : List String) : Option DiffReport :=
  if exchange.target.reportWritten then
    some <| buildDiffReport parseNotAfter {
      diffId := exchange.diffId
      generatedAt := exchange.generatedAt
      zone := zone
      role := role
      previous := previous
      current := current
      caChainChanged := session.caChainChanged
      crlChanged := session.crlChanged
      criticalReasons := criticalReasons }
  else none

def ReportingSession.failureReport (session : ReportingSession crypto pin) (zone role : String)
    (exchange : ReportedExchange) (previous : Option TrustListView) (failure : Failure) :
    Option DiffReport :=
  session.report parseNotAfter zone role exchange previous none [exchange.failureReason failure]

/-- The report of an artifact that passes the checks, with what is found of the PKI files. -/
def reportAccepted (zone role : String) (exchange : ReportedExchange) (files : SyncFiles)
    (session : ReportingSession crypto pin) (previous : Option TrustListView) (artifact : Json)
    (crlDer : List UInt8) : Option (Option DiffReport × ReportingSession crypto pin) :=
  if session.session.pkiWritten then do
    let current ← trustListView? artifact
    return (session.report parseNotAfter zone role exchange previous current [], session)
  else
    match safeWritePkiBundle files artifact crlDer exchange.target with
    | (_, false) =>
        some (session.failureReport parseNotAfter zone role exchange previous .raised, session)
    | (_, true) => do
        let session := session.compareBundle artifact crlDer
        let current ← trustListView? artifact
        return (session.report parseNotAfter zone role exchange previous current [], session)

/-- `prev_tl if prev_signed_compatible else None`. -/
def comparedWith (compatible : Bool) (cached : Option Json) : Option (Option TrustListView) :=
  if compatible then cachedView? cached else some none

/-- The report that one round of the loop saves; `none` for documents that are not followed. -/
def reportTarget (zone role : String) (exchange : ReportedExchange) (files : SyncFiles)
    (session : ReportingSession crypto pin) :
    Option (Option DiffReport × ReportingSession crypto pin) :=
  let cached := files.trustlists (trustlistFile zone role)
  if exchange.target.readable then
    match prevSignedCompatible cached session.session.anchor.fingerprint with
    | .error _ => some (none, session)
    | .ok compatible => do
        let previous ← comparedWith compatible cached
        match acceptArtifact crypto x509 pin session.session.signDebug session.session.anchor zone
            role cached compatible exchange.target with
        | .error failure =>
            some (session.failureReport parseNotAfter zone role exchange previous failure, session)
        | .ok (artifact, crlDer) =>
            reportAccepted parseNotAfter zone role exchange files session previous artifact crlDer
  else some (none, session)

inductive ReportedEvent where
  | beginCycle (signDebug : Bool) (anchorResponse : Option Json)
  | target (zone role : String) (exchange : ReportedExchange)

/-- The same without the reports. -/
def ReportedEvent.bare : ReportedEvent → SyncEvent
  | .beginCycle signDebug anchorResponse => .beginCycle signDebug anchorResponse
  | .target zone role exchange => .target zone role exchange.target

variable (crypto pin) in
structure ReportingState where
  files : SyncFiles
  session : Option (ReportingSession crypto pin)
  reports : List DiffReport

variable (crypto pin) in
/-- An agent with an empty cache. -/
def ReportingState.initial : ReportingState crypto pin where
  files := (SyncState.initial crypto pin).files
  session := none
  reports := []

def ReportingState.bare (state : ReportingState crypto pin) : SyncState crypto pin :=
  ⟨state.files, state.session.map ReportingSession.session⟩

/-- One step of the signed sync with the report that it saves. -/
def ReportingState.step (state : ReportingState crypto pin) :
    ReportedEvent → Option (ReportingState crypto pin)
  | .beginCycle signDebug anchorResponse =>
      match openSession crypto x509 pin anchorResponse with
      | .error _ => some { state with session := none }
      | .ok anchor => some { state with session := some {
          session := ⟨signDebug, anchor, false⟩
          oldCaChain := state.files.caChain
          oldCrl := state.files.crl
          caChainChanged := false
          crlChanged := false } }
  | .target zone role exchange =>
      match state.session with
      | none => some state
      | some session => do
          let (report, compared) ←
            reportTarget x509 parseNotAfter zone role exchange state.files session
          let reports := state.reports ++ report.toList
          match syncTarget crypto x509 pin zone role exchange.target state.files
              session.session with
          | (files, _, .aborted) => some ⟨files, none, reports⟩
          | (files, opened, _) =>
              some ⟨files, some { compared with session := opened }, reports⟩

/-! ## The steps are those of the sync -/

theorem ReportingState.step_bare {state next : ReportingState crypto pin} {event : ReportedEvent}
    (stepped : state.step x509 parseNotAfter event = some next) :
    state.bare.step crypto x509 pin event.bare = some next.bare := by
  cases event with
  | beginCycle signDebug anchorResponse =>
      simp only [step] at stepped
      simp only [ReportedEvent.bare, SyncState.step]
      split at stepped
      case h_1 failure failed =>
          cases stepped
          simp [failed, bare]
      case h_2 anchor opened =>
          cases stepped
          simp [opened, bare]
  | target zone role exchange =>
      simp only [step] at stepped
      simp only [ReportedEvent.bare, SyncState.step]
      split at stepped
      case h_1 closed =>
          cases stepped
          simp [bare, closed]
      case h_2 session opened =>
          obtain ⟨⟨report, compared⟩, -, stepped⟩ := Option.bind_eq_some_iff.mp stepped
          simp only [bare, opened, Option.map_some]
          split at stepped
          case h_1 files left synced =>
              cases stepped
              simp [synced]
          case h_2 files left outcome notAborted synced =>
              cases stepped
              simp [synced]

/-! ## The reports account for the cache -/

/-- The files and the saved reports. -/
def recordOf (files : SyncFiles) (reports : List DiffReport) : SyncRecord where
  files := files
  reports := reports
  events := []

theorem SyncRecord.Accounts.keepLists {start files next : SyncFiles}
    {reports : List DiffReport} (accounts : (recordOf files reports).Accounts start)
    (lists : next.trustlists = files.trustlists) (report : Option DiffReport) :
    (recordOf next (reports ++ report.toList)).Accounts start :=
  accounts.mono lists (List.subset_append_left _ _)

section Accounts

variable {parseNotAfter} {start files : SyncFiles} {reports : List DiffReport}
  {zone role : String} {exchange : ReportedExchange}

/-- An artifact that is compared with what is cached for it, and stored. -/
theorem SyncRecord.Accounts.storeArtifact (accounts : (recordOf files reports).Accounts start)
    (session : ReportingSession crypto pin) {previous current : Option TrustListView}
    {artifact : Json} {base : SyncFiles} (lists : base.trustlists = files.trustlists)
    (before : cachedView? (files.trustlists (trustlistFile zone role)) = some previous)
    (now : trustListView? artifact = some current) :
    (recordOf (storeArtifact zone role base artifact exchange.target).1
      (reports ++ (session.report parseNotAfter zone role exchange previous current
        []).toList)).Accounts start := by
  have cached : (recordOf files reports).files.cachedCerts (trustlistFile zone role) =
      viewCerts previous := by
    rw [SyncFiles.cachedCerts, recordOf, before, Option.getD_some]
  rw [OpcuaGds.Agent.storeArtifact]
  by_cases written : exchange.target.reportWritten = true
  · rw [if_pos written, ReportingSession.report, if_pos written]
    by_cases stored : exchange.target.cacheWritten = true
    · rw [if_pos stored]
      refine accounts.replace (trustlistFile zone role) (viewCerts current) _ (fun file => ?_) rfl
        rfl ?_ ?_
      · have same : base.cachedCerts = files.cachedCerts := by
          funext other
          rw [SyncFiles.cachedCerts, lists, SyncFiles.cachedCerts]
        exact (cachedCerts_update now file).trans (by rw [same]; rfl)
      · intro pair stands was
        rw [cached] at was
        exact listsNew_buildDiffReport stands was
      · intro pair was stands
        rw [cached] at was
        exact listsOld_buildDiffReport was stands
    · rw [if_neg stored]
      exact accounts.keepLists lists _
  · rw [if_neg written]
    exact accounts.keepLists lists _

/-- In a cache of comparable documents, an artifact is compared with what is cached. -/
theorem previous_of_comparable (comparable : files.AllComparable pin) {trustAnchorFp : String}
    (pinned : PythonText.lower trustAnchorFp = PythonText.lower pin.fingerprint) {file : String}
    {compatible : Bool} {previous : Option TrustListView}
    (checked : prevSignedCompatible (files.trustlists file) trustAnchorFp = .ok compatible)
    (read : comparedWith compatible (files.trustlists file) = some previous) :
    cachedView? (files.trustlists file) = some previous := by
  cases found : files.trustlists file with
  | none =>
      rw [found] at read
      simpa [comparedWith, cachedView?] using read
  | some cached =>
      rw [found, (comparable file cached found).compatible trustAnchorFp pinned,
        Except.ok.injEq] at checked
      rw [found, ← checked] at read
      exact read

theorem SyncRecord.Accounts.completeTarget (accounts : (recordOf files reports).Accounts start)
    {session compared : ReportingSession crypto pin} {previous : Option TrustListView}
    {report : Option DiffReport} {artifact : Json} {crlDer : List UInt8}
    (before : cachedView? (files.trustlists (trustlistFile zone role)) = some previous)
    (reported : reportAccepted parseNotAfter zone role exchange files session previous artifact
      crlDer = some (report, compared)) :
    (recordOf (completeTarget crypto pin zone role exchange.target files session.session artifact
      crlDer).1 (reports ++ report.toList)).Accounts start := by
  rw [OpcuaGds.Agent.completeTarget]
  rw [reportAccepted] at reported
  by_cases written : session.session.pkiWritten = true
  · rw [if_pos written] at reported ⊢
    obtain ⟨current, now, same⟩ := Option.bind_eq_some_iff.mp reported
    cases same
    exact accounts.storeArtifact session rfl before now
  · rw [if_neg written] at reported ⊢
    have lists := safeWritePkiBundle_trustlists files artifact crlDer exchange.target
    generalize safeWritePkiBundle files artifact crlDer exchange.target = left
      at lists reported ⊢
    obtain ⟨bundle, _ | _⟩ := left
    · exact accounts.keepLists lists _
    · dsimp only at reported lists ⊢
      obtain ⟨current, now, same⟩ := Option.bind_eq_some_iff.mp reported
      cases same
      exact accounts.storeArtifact (session.compareBundle artifact crlDer) lists before now

theorem SyncRecord.Accounts.syncTarget (accounts : (recordOf files reports).Accounts start)
    (comparable : files.AllComparable pin) {session compared : ReportingSession crypto pin}
    {report : Option DiffReport}
    (reported : reportTarget x509 parseNotAfter zone role exchange files session =
      some (report, compared)) :
    (recordOf (syncTarget crypto x509 pin zone role exchange.target files session.session).1
      (reports ++ report.toList)).Accounts start := by
  rw [OpcuaGds.Agent.syncTarget]
  simp only [reportTarget] at reported
  by_cases readable : exchange.target.readable = true
  · simp only [if_pos readable] at reported ⊢
    cases checked : prevSignedCompatible (files.trustlists (trustlistFile zone role))
        session.session.anchor.fingerprint with
    | error failure =>
        exact accounts.keepLists rfl _
    | ok compatible =>
        simp only [checked] at reported ⊢
        obtain ⟨previous, read, reported⟩ := Option.bind_eq_some_iff.mp reported
        have before := previous_of_comparable comparable session.session.anchor.pinned checked read
        cases accepted : acceptArtifact crypto x509 pin session.session.signDebug
            session.session.anchor zone role (files.trustlists (trustlistFile zone role)) compatible
            exchange.target with
        | error failure => exact accounts.keepLists rfl _
        | ok found =>
            obtain ⟨artifact, crlDer⟩ := found
            simp only [accepted] at reported ⊢
            exact accounts.completeTarget before reported
  · simp only [if_neg readable]
    exact accounts.keepLists rfl _

end Accounts

/-- What one step of a run from a fixed state keeps: the reports since then account for the
cache since then. -/
structure ReportingState.AccountsSince (start state : ReportingState crypto pin) : Prop where
  comparable : state.files.AllComparable pin
  accounts : ∃ new, state.reports = start.reports ++ new ∧
    (recordOf state.files new).Accounts start.files

variable {x509 parseNotAfter}

theorem ReportingState.AccountsSince.step {start state next : ReportingState crypto pin}
    {event : ReportedEvent} (since : start.AccountsSince state)
    (stepped : state.step x509 parseNotAfter event = some next) : start.AccountsSince next := by
  obtain ⟨new, reports, accounts⟩ := since.accounts
  have comparable : next.files.AllComparable pin :=
    allComparable_step crypto x509 pin since.comparable (step_bare x509 parseNotAfter stepped)
  refine ⟨comparable, ?_⟩
  cases event with
  | beginCycle signDebug anchorResponse =>
      simp only [ReportingState.step] at stepped
      split at stepped
      case h_1 failure failed =>
          cases stepped
          exact ⟨new, reports, accounts⟩
      case h_2 anchor opened =>
          cases stepped
          exact ⟨new, reports, accounts⟩
  | target zone role exchange =>
      simp only [ReportingState.step] at stepped
      split at stepped
      case h_1 closed =>
          cases stepped
          exact ⟨new, reports, accounts⟩
      case h_2 session opened =>
          obtain ⟨⟨report, compared⟩, reported, stepped⟩ :=
            Option.bind_eq_some_iff.mp stepped
          have stored := accounts.syncTarget x509 since.comparable reported
          refine ⟨new ++ report.toList, ?_, ?_⟩
          · split at stepped
            case h_1 => cases stepped; simp [reports]
            case h_2 => cases stepped; simp [reports]
          · split at stepped
            case h_1 files left synced =>
                cases stepped
                rw [synced] at stored
                exact stored
            case h_2 files left outcome notAborted synced =>
                cases stepped
                rw [synced] at stored
                exact stored

/-- Between any two moments of a run of signed cycles from an empty cache, the reports that were
saved account for all differences between the cached lists. -/
theorem signed_sync_changes_reported {front back : List ReportedEvent}
    {middle final : ReportingState crypto pin}
    (before : Transition.run (ReportingState.step x509 parseNotAfter) (.initial crypto pin) front =
      some middle)
    (after : Transition.run (ReportingState.step x509 parseNotAfter) middle back = some final) :
    ∃ new, final.reports = middle.reports ++ new ∧
      (recordOf final.files new).Accounts middle.files := by
  have preserved (start state : ReportingState crypto pin) (event : ReportedEvent)
      (next : ReportingState crypto pin) (since : start.AccountsSince state)
      (stepped : state.step x509 parseNotAfter event = some next) : start.AccountsSince next :=
    since.step stepped
  have empty : (ReportingState.initial crypto pin).files.AllComparable pin := by
    intro file cached found
    cases found
  have initial : (ReportingState.initial crypto pin).AccountsSince (.initial crypto pin) :=
    ⟨empty, [], rfl, SyncRecord.Accounts.refl (recordOf _ [])⟩
  have comparable := (Transition.run_invariant (preserved _) initial before).comparable
  have here : middle.AccountsSince middle :=
    ⟨comparable, [], (List.append_nil _).symm,
      SyncRecord.Accounts.refl (recordOf middle.files [])⟩
  exact (Transition.run_invariant (preserved _) here after).accounts

/-- A cycle that stores an artifact of a version. -/
def reportedEvents (version : Nat) : List ReportedEvent :=
  [.beginCycle false (exampleCycle version).anchorResponse,
    .target "OT" "server" ⟨exampleExchange version, "d", "t", ""⟩]

theorem reportedEvents_run : ∃ middle final,
    Transition.run (ReportingState.step exampleX509 fun _ => none)
        (.initial exampleCrypto examplePin) (reportedEvents 2) = some middle ∧
      Transition.run (ReportingState.step exampleX509 fun _ => none) middle (reportedEvents 3) =
        some final ∧ final.reports.length = 2 := by
  have two : ((Transition.run (ReportingState.step exampleX509 fun _ => none)
      (.initial exampleCrypto examplePin) (reportedEvents 2)).bind fun middle =>
        (Transition.run (ReportingState.step exampleX509 fun _ => none) middle
          (reportedEvents 3)).map fun final => final.reports.length) = some 2 := by
    decide +kernel
  obtain ⟨middle, before, rest⟩ := Option.bind_eq_some_iff.mp two
  obtain ⟨final, after, length⟩ := Option.map_eq_some_iff.mp rest
  exact ⟨middle, final, before, after, length⟩

theorem signed_sync_changes_reported_example :
    ∃ middle final : ReportingState exampleCrypto examplePin, final.reports.length = 2 ∧
      ∃ new, final.reports = middle.reports ++ new ∧
        (recordOf final.files new).Accounts middle.files := by
  obtain ⟨middle, final, before, after, two⟩ := reportedEvents_run
  exact ⟨middle, final, two, signed_sync_changes_reported before after⟩

end Reports

end OpcuaGds.Agent
