import Mathlib.Data.List.Nodup
import OpcuaGds.Foundation.Transition
import OpcuaGds.Gds.IssuanceOutcome

/-! # Live requests of one CSR

`issue_certificate_package` looks for a request of the same CSR in one transaction and stores
its own in another one, and the table has no constraint on the fingerprint. The requests that
the look-up counts are compared with the moment at which a call stores its request.
-/

namespace OpcuaGds.Gds

/-! ## Requests in the table -/

namespace IssuanceTables

variable {tables : IssuanceTables}

/-- How many requests of a CSR `get_certificate_request_by_csr` does not pass over. -/
def liveRequests (tables : IssuanceTables) (csrFingerprintSha256 : String) : Nat :=
  tables.requests.countP fun request =>
    request.csrFingerprintSha256 = csrFingerprintSha256 ∧ request.status ∉ settledStatuses

/-- Every CSR has at most one request that is neither failed, rejected nor a dry run. -/
def OneLivePerCsr (tables : IssuanceTables) : Prop :=
  ∀ csrFingerprintSha256, tables.liveRequests csrFingerprintSha256 ≤ 1

/-- `request_id` is unique. -/
def UniqueRequestIds (tables : IssuanceTables) : Prop :=
  (tables.requests.map CertificateRequest.requestId).Nodup

theorem hasRequestByCsr_eq_false_iff {csrFingerprintSha256 : String} :
    tables.hasRequestByCsr csrFingerprintSha256 = false ↔
      tables.liveRequests csrFingerprintSha256 = 0 := by
  simp only [hasRequestByCsr, liveRequests, List.any_eq_false, List.countP_eq_zero]

theorem liveRequests_append {request : CertificateRequest} {after : IssuanceTables}
    (stored : after.requests = tables.requests ++ [request]) (csrFingerprintSha256 : String) :
    after.liveRequests csrFingerprintSha256 = tables.liveRequests csrFingerprintSha256 +
      if request.csrFingerprintSha256 = csrFingerprintSha256 ∧ request.status ∉ settledStatuses
        then 1 else 0 := by
  rw [liveRequests, stored, List.countP_append, List.countP_singleton, liveRequests]
  simp only [decide_eq_true_eq]

/-- A unique identifier names one row. -/
theorem requestStatus?_of_mem (unique : tables.UniqueRequestIds) {request : CertificateRequest}
    (member : request ∈ tables.requests) :
    tables.requestStatus? request.requestId = some request.status := by
  have found : tables.requests.find? (fun row => row.requestId = request.requestId) =
      some request := by
    rw [List.find?_eq_some_iff_append]
    obtain ⟨front, back, split⟩ := List.append_of_mem member
    refine ⟨by simp, front, back, split, fun other early => ?_⟩
    rw [UniqueRequestIds, split, List.map_append, List.nodup_append] at unique
    have apart := unique.2.2 other.requestId (List.mem_map_of_mem early) request.requestId
      (List.mem_map_of_mem List.mem_cons_self)
    simpa using apart
  rw [requestStatus?, found, Option.map_some]

/-- A status update of a live request adds no live request. -/
theorem liveRequests_update_le (unique : tables.UniqueRequestIds) {requestId : String}
    {before : RequestStatus} (isBefore : tables.requestStatus? requestId = some before)
    (live : before ∉ settledStatuses) (status : RequestStatus) (csrFingerprintSha256 : String) :
    (tables.updateCertificateRequestStatus requestId status).liveRequests csrFingerprintSha256 ≤
      tables.liveRequests csrFingerprintSha256 := by
  rw [liveRequests, updateCertificateRequestStatus, List.countP_map]
  apply List.countP_mono_left
  intro request member counted
  by_cases named : request.requestId = requestId
  · have was := requestStatus?_of_mem unique member
    rw [named, isBefore, Option.some.injEq] at was
    simp only [Function.comp_apply, if_pos named, decide_eq_true_eq] at counted ⊢
    exact ⟨counted.1, was ▸ live⟩
  · simpa only [Function.comp_apply, if_neg named] using counted

theorem UniqueRequestIds.update (unique : tables.UniqueRequestIds) (requestId : String)
    (status : RequestStatus) :
    (tables.updateCertificateRequestStatus requestId status).UniqueRequestIds := by
  have same : (tables.updateCertificateRequestStatus requestId status).requests.map
      CertificateRequest.requestId = tables.requests.map CertificateRequest.requestId := by
    rw [updateCertificateRequestStatus, List.map_map]
    apply List.map_congr_left
    intro request _
    rw [Function.comp_apply]
    split <;> rfl
  rw [UniqueRequestIds, same]
  exact unique

/-- What the table looks like after `insert_certificate_request`. -/
theorem insertCertificateRequest_requests {after : IssuanceTables} {request : CertificateRequest}
    (stored : tables.insertCertificateRequest request = some after) :
    after = { tables with requests := tables.requests ++ [request] } ∧
      ∀ row ∈ tables.requests, row.requestId ≠ request.requestId := by
  rw [insertCertificateRequest] at stored
  split at stored
  · cases stored
  · rename_i absent
    cases stored
    exact ⟨rfl, by simpa using absent⟩

theorem UniqueRequestIds.append (unique : tables.UniqueRequestIds) {after : IssuanceTables}
    {request : CertificateRequest} (stored : after.requests = tables.requests ++ [request])
    (fresh : ∀ row ∈ tables.requests, row.requestId ≠ request.requestId) :
    after.UniqueRequestIds := by
  rw [UniqueRequestIds, stored, List.map_append, List.map_singleton]
  refine List.nodup_append.mpr ⟨unique, List.nodup_singleton _, ?_⟩
  intro identifier member other isNew
  obtain ⟨row, listed, rfl⟩ := List.mem_map.mp member
  rw [List.mem_singleton.mp isNew]
  exact fresh row listed

end IssuanceTables

/-! ## One step of a call -/

/-- The request of a call, as long as the call has not given it up. -/
def IssuancePhase.openRequestId? : IssuancePhase → Option String
  | .rejected _ | .failureRecorded _ => none
  | phase => phase.requestId?

/-- The request of a call is live in the table. -/
def IssuanceTables.LiveRequest (tables : IssuanceTables) (requestId : String) : Prop :=
  ∃ status, tables.requestStatus? requestId = some status ∧
    status ∉ IssuanceTables.settledStatuses

/-- What a step of a call does to the requests: nothing, the insertion of its own, or an
update of its own. -/
inductive RequestsChange (tables after : IssuanceTables) (phase next : IssuancePhase)
    (action : IssuanceAction) : Prop where
  | kept (same : after.requests = tables.requests)
      (idle : ∀ requestId errors, action ≠ .storeRequest requestId errors)
      (owned : ∀ r, next.openRequestId? = some r → phase.openRequestId? = some r)
  | stored (subject : IssuanceSubject) (requestId : HexId) (errors : List String)
      (request : CertificateRequest) (checked : phase = .duplicateChecked subject)
      (inserts : action = .storeRequest requestId errors)
      (named : request.requestId = requestId.text)
      (inserted : tables.insertCertificateRequest request = some after)
      (csr : request.csrFingerprintSha256 = subject.csrFingerprintSha256)
      (status : request.status = if errors = [] then .validated else .rejected)
      (owned : ∀ r, next.openRequestId? = some r → errors = [] ∧ r = request.requestId)
  | updated (requestId : String) (status : RequestStatus)
      (same : after = tables.updateCertificateRequestStatus requestId status)
      (own : phase.openRequestId? = some requestId)
      (owned : ∀ r, next.openRequestId? = some r →
        r = requestId ∧ status ∉ IssuanceTables.settledStatuses)

section Advance

variable {PrivateKey PublicKey : Type} {crypto : Crypto PrivateKey PublicKey}
  {signer : TrustArtifactSigner PrivateKey} {input : IssuanceInput}
  {tables after : IssuanceTables} {phase next : IssuancePhase} {action : IssuanceAction}

theorem requestsChange_of_advance
    (stepped : advance crypto signer input tables phase action = some (after, next)) :
    RequestsChange tables after phase next action := by
  unfold advance at stepped
  split at stepped
  case h_4 subject requestId validationErrors =>
    simp only [Option.bind_eq_bind, Option.bind_eq_some_iff] at stepped
    obtain ⟨result, inserted, done⟩ := stepped
    cases done
    refine .stored subject requestId validationErrors _ rfl rfl rfl inserted rfl rfl
      fun r owned => ?_
    by_cases valid : validationErrors = []
    · rw [if_pos valid] at owned
      cases owned
      exact ⟨valid, rfl⟩
    · rw [if_neg valid] at owned
      cases owned
  case h_7 =>
    cases stepped
    exact .updated _ _ rfl rfl nofun
  case h_8 =>
    simp only [Option.bind_eq_bind, Option.bind_eq_some_iff] at stepped
    obtain ⟨result, -, done⟩ := stepped
    split at done
    · cases done
      exact .kept rfl nofun fun _ owned => owned
    · cases done
      exact .kept rfl nofun fun _ owned => owned
  case h_10 | h_13 =>
    cases stepped
    refine .updated _ _ rfl rfl fun r owned => ?_
    cases owned
    exact ⟨rfl, by decide⟩
  case h_12 =>
    simp only [Option.bind_eq_bind, Option.bind_eq_some_iff] at stepped
    obtain ⟨result, stored, done⟩ := stepped
    cases done
    obtain ⟨rfl, -⟩ := IssuanceTables.insertCertificatePackage_eq_some stored
    exact .kept rfl nofun fun _ owned => owned
  case h_1 | h_2 | h_3 =>
    simp only [Option.bind_eq_bind, Option.bind_eq_some_iff] at stepped
    obtain ⟨found, -, -, -, done⟩ := stepped
    cases done
    exact .kept rfl nofun nofun
  case h_9 =>
    simp only [Option.bind_eq_bind, Option.bind_eq_some_iff] at stepped
    obtain ⟨found, -, done⟩ := stepped
    cases done
    exact .kept rfl nofun fun _ owned => owned
  case h_5 | h_6 | h_11 =>
    cases stepped
    exact .kept rfl nofun fun _ owned => owned
  case h_14 | h_17 =>
    cases stepped
    exact .kept rfl nofun nofun
  case h_15 | h_16 | h_18 => cases stepped

end Advance

/-! ## Runs -/

theorem IssuancePhase.requestId?_of_open {phase : IssuancePhase} {requestId : String}
    (owned : phase.openRequestId? = some requestId) : phase.requestId? = some requestId := by
  cases phase <;> first | exact owned | cases owned

section Runs

variable {PrivateKey PublicKey : Type} {crypto : Crypto PrivateKey PublicKey}
  {signer : TrustArtifactSigner PrivateKey} {Call : Type} [DecidableEq Call]
  {input : Call → IssuanceInput} {state next : IssuanceState Call}

/-- When a call stores a request that passed validation, the look-up for its CSR would still
find nothing. -/
def StoresFirst (state : IssuanceState Call) : IssuanceEvent Call → Prop
  | .act call (.storeRequest _ errors) =>
      ∀ subject, state.calls call = .duplicateChecked subject → errors = [] →
        state.tables.hasRequestByCsr subject.csrFingerprintSha256 = false
  | _ => True

/-- What holds of the requests between the steps. -/
structure RequestInvariant (state : IssuanceState Call) : Prop where
  issuance : IssuanceInvariant state
  unique : state.tables.UniqueRequestIds
  opened : ∀ call r, (state.calls call).openRequestId? = some r → state.tables.LiveRequest r

/-- The request that a call is working on is live after its step. -/
theorem RequestsChange.opened {tables after : IssuanceTables} {phase next : IssuancePhase}
    {action : IssuanceAction} (change : RequestsChange tables after phase next action)
    (opened : ∀ r, phase.openRequestId? = some r → tables.LiveRequest r) (r : String)
    (owned : next.openRequestId? = some r) : after.LiveRequest r := by
  cases change with
  | kept same _ isOwned =>
      obtain ⟨status, found, live⟩ := opened r (isOwned r owned)
      refine ⟨status, ?_, live⟩
      rwa [IssuanceTables.requestStatus?, same]
  | stored subject requestId errors request _ _ _ inserted _ status isOwned =>
      obtain ⟨valid, rfl⟩ := isOwned r owned
      rw [if_pos valid] at status
      refine ⟨.validated, ?_, by decide⟩
      rw [(IssuanceTables.insertCertificateRequest_eq_some inserted).2.1, status]
  | updated requestId status same own isOwned =>
      obtain ⟨rfl, live⟩ := isOwned r owned
      obtain ⟨before, found, -⟩ := opened r own
      refine ⟨status, ?_, live⟩
      rw [same, IssuanceTables.requestStatus?_update_self]
      rw [found]
      rfl

theorem RequestsChange.unique {tables after : IssuanceTables} {phase next : IssuancePhase}
    {action : IssuanceAction} (change : RequestsChange tables after phase next action)
    (unique : tables.UniqueRequestIds) : after.UniqueRequestIds := by
  cases change with
  | kept same _ _ => rwa [IssuanceTables.UniqueRequestIds, same]
  | stored subject requestId errors request _ _ _ inserted _ _ _ =>
      obtain ⟨rfl, fresh⟩ := IssuanceTables.insertCertificateRequest_requests inserted
      exact unique.append rfl fresh
  | updated requestId status same _ _ => exact same ▸ unique.update requestId status

theorem RequestInvariant.step (invariant : RequestInvariant state) {event : IssuanceEvent Call}
    (stepped : issuanceStep crypto signer input state event = some next) :
    RequestInvariant next := by
  have issuance := invariant.issuance.step stepped
  cases event with
  | act call action =>
      rw [issuanceStep, Option.map_eq_some_iff] at stepped
      obtain ⟨⟨after, phase⟩, taken, rfl⟩ := stepped
      have change := requestsChange_of_advance taken
      refine ⟨issuance, change.unique invariant.unique, fun other r owned => ?_⟩
      dsimp only at owned ⊢
      by_cases own : other = call
      · subst own
        rw [Function.update_self] at owned
        exact change.opened (invariant.opened other) r owned
      · rw [Function.update_of_ne own] at owned
        have advanced := advance_eq_some invariant.issuance.references
          (invariant.issuance.phases call) taken
        have named := IssuancePhase.requestId?_of_open owned
        obtain ⟨status, found, live⟩ := invariant.opened other r owned
        refine ⟨status, ?_, live⟩
        rw [advanced.extended.status r (invariant.issuance.not_own advanced own r named), found]
        rw [found]
        rfl
  | storeLifecycle packageId target =>
      cases stepped
      exact ⟨issuance, invariant.unique, invariant.opened⟩

/-- One step keeps one live request a CSR exactly when it does not store a second one. -/
theorem oneLive_step_iff (invariant : RequestInvariant state)
    (oneLive : state.tables.OneLivePerCsr) {event : IssuanceEvent Call}
    (stepped : issuanceStep crypto signer input state event = some next) :
    next.tables.OneLivePerCsr ↔ StoresFirst state event := by
  cases event with
  | storeLifecycle packageId target =>
      cases stepped
      exact iff_of_true oneLive trivial
  | act call action =>
      rw [issuanceStep, Option.map_eq_some_iff] at stepped
      obtain ⟨⟨after, phase⟩, taken, rfl⟩ := stepped
      cases requestsChange_of_advance taken with
      | kept same idle _ =>
          have first : StoresFirst state (.act call action) := by
            cases action with
            | storeRequest requestId errors => exact absurd rfl (idle requestId errors)
            | _ => trivial
          refine iff_of_true (fun csr => ?_) first
          rw [IssuanceTables.liveRequests, same]
          exact oneLive csr
      | updated requestId status same own _ =>
          have first : StoresFirst state (.act call action) := by
            cases action with
            | storeRequest requestId errors =>
                intro subject checked
                rw [checked] at own
                cases own
            | _ => trivial
          refine iff_of_true (fun csr => ?_) first
          obtain ⟨before, found, live⟩ := invariant.opened call requestId own
          rw [same]
          exact (IssuanceTables.liveRequests_update_le invariant.unique found live status csr).trans
            (oneLive csr)
      | stored subject requestId errors request checked inserts _ inserted csr status _ =>
          subst inserts
          have isAfter := (IssuanceTables.insertCertificateRequest_requests inserted).1
          have counts := IssuanceTables.liveRequests_append
            (congrArg IssuanceTables.requests isAfter)
          have live : request.status ∉ IssuanceTables.settledStatuses ↔ errors = [] := by
            rw [status]
            split <;> simp_all [IssuanceTables.settledStatuses]
          have first : StoresFirst state (.act call (.storeRequest requestId errors)) ↔
              (errors = [] → state.tables.liveRequests request.csrFingerprintSha256 = 0) := by
            rw [StoresFirst, checked, csr]
            constructor
            · intro stores valid
              exact IssuanceTables.hasRequestByCsr_eq_false_iff.mp (stores subject rfl valid)
            · rintro none _ ⟨⟩ valid
              exact IssuanceTables.hasRequestByCsr_eq_false_iff.mpr (none valid)
          rw [first]
          constructor
          · intro oneAfter valid
            have atMost := oneAfter request.csrFingerprintSha256
            rw [counts, if_pos ⟨rfl, live.mpr valid⟩] at atMost
            omega
          · intro none other
            have atMost := oneLive other
            rw [counts]
            split
            · rename_i counted
              rw [← counted.1, none (live.mp counted.2)]
            · exact atMost

variable (crypto signer input) in
/-- In every interleaving of issuance calls, each CSR has at most one live request at every
moment if and only if every call that stores one would still find none. -/
theorem one_live_request_iff (applications : List RegisteredApplication)
    (profiles : List ComponentProfile) (requests : List CertificateRequest)
    (certificates : List Certificate) (events : List (IssuanceEvent Call))
    (unique : (requests.map CertificateRequest.requestId).Nodup)
    (oneLive : (IssuanceState.initial Call applications profiles requests
      certificates).tables.OneLivePerCsr) :
    Transition.EveryStep (issuanceStep crypto signer input)
        (fun _ _ after => after.tables.OneLivePerCsr)
        (IssuanceState.initial Call applications profiles requests certificates) events ↔
      Transition.EveryStep (issuanceStep crypto signer input)
        (fun before event _ => StoresFirst before event)
        (IssuanceState.initial Call applications profiles requests certificates) events :=
  Transition.EveryStep.invariant_iff RequestInvariant
    (fun _ _ _ invariant stepped => invariant.step stepped)
    (fun _ _ _ invariant good stepped => oneLive_step_iff invariant good stepped) events
    ⟨issuanceInvariant_initial applications profiles requests certificates, unique, nofun⟩ oneLive

end Runs

/-! ## Two calls with one CSR -/

/-- Both calls bring the same CSR and do not allow a duplicate. -/
def sameCsrInput (_ : Bool) : IssuanceInput := raceInput false

/-- Both calls look for the CSR before either stores its request. -/
def sameCsrEvents : List (IssuanceEvent Bool) :=
  [.act false .readApplication, .act false .readProfile, .act false .checkDuplicate,
    .act true .readApplication, .act true .readProfile, .act true .checkDuplicate,
    .act false (.storeRequest (raceId 'a' hexDigit_a) []),
    .act true (.storeRequest (raceId 'b' hexDigit_b) []),
    .act false (.vaultSigned (raceCertificate false)), .act false (.insertCertificate 0),
    .act true (.vaultSigned (raceCertificate true)), .act true (.insertCertificate 0)]

/-- Two live requests and two certificates come of it. -/
theorem same_csr_issued_twice :
    ∃ final, Transition.run (issuanceStep digestCrypto raceSigner sameCsrInput) raceInitial
        sameCsrEvents = some final ∧ ¬ final.tables.OneLivePerCsr ∧
      final.tables.certificates.length = 2 := by
  have counted : (Transition.run (issuanceStep digestCrypto raceSigner sameCsrInput) raceInitial
      sameCsrEvents).map (fun state =>
        (state.tables.liveRequests "csr-1", state.tables.certificates.length)) = some (2, 2) := by
    decide +kernel
  obtain ⟨final, reached, counts⟩ := Option.map_eq_some_iff.mp counted
  rw [Prod.mk.injEq] at counts
  refine ⟨final, reached, fun oneLive => ?_, counts.2⟩
  have atMost := oneLive "csr-1"
  omega

/-- The equivalence for these two calls. -/
theorem same_csr_one_live_iff :
    Transition.EveryStep (issuanceStep digestCrypto raceSigner sameCsrInput)
        (fun _ _ after => after.tables.OneLivePerCsr) raceInitial sameCsrEvents ↔
      Transition.EveryStep (issuanceStep digestCrypto raceSigner sameCsrInput)
        (fun before event _ => StoresFirst before event) raceInitial sameCsrEvents :=
  one_live_request_iff digestCrypto raceSigner sameCsrInput _ _ [] [] sameCsrEvents
    List.nodup_nil fun _ => Nat.zero_le 1

end OpcuaGds.Gds
