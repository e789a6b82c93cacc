import OpcuaGds.Gds.PackageLineage

/-! # How an issuance call ends

What a call of `issue_certificate_package` leaves in the tables when it returns or
raises, and in which phases an exception leaves a half-issued certificate behind.
-/

namespace OpcuaGds.Gds

namespace IssuancePhase

/-- The certificate row that a call works with. -/
def issuing? : IssuancePhase → Option Issuing
  | .certificateStored issuing | .issuedRecorded issuing | .previousRead issuing _
  | .packageStored issuing | .packagedRecorded issuing => some issuing
  | _ => none

/-- A package refers to the certificate and the request of the call. -/
def Packaged (tables : IssuanceTables) (phase : IssuancePhase) : Prop :=
  ∃ issuing, phase.issuing? = some issuing ∧ ∃ package ∈ tables.packages,
    package.requestId = issuing.requestId ∧ package.certificateId = some issuing.certificateId

/-- No active certificate that the call added is without a package, and the request of
the call is absent, rejected or failed. -/
def LeavesNothing (tables : IssuanceTables) (phase : IssuancePhase) : Prop :=
  (∀ issuing, phase.issuing? = some issuing → issuing.inserted = true →
    ∀ certificate ∈ tables.certificates, certificate.id = issuing.certificateId →
      certificate.status = .active →
        ∃ package ∈ tables.packages, package.certificateId = some certificate.id) ∧
  ∀ requestId, phase.requestId? = some requestId →
    tables.requestStatus? requestId = none ∨ tables.requestStatus? requestId = some .rejected ∨
      tables.requestStatus? requestId = some .failed

/-- All or nothing. -/
def Settled (tables : IssuanceTables) (phase : IssuancePhase) : Prop :=
  Packaged tables phase ∨ LeavesNothing tables phase

/-- The phases in which nothing is stored yet, what is stored is marked as rejected or
failed, or the package is stored. -/
def endsSafely : IssuancePhase → Bool
  | .validated .. | .signingFailed .. | .signed .. | .certificateKnown .. | .certificateStored ..
  | .issuedRecorded .. | .previousRead .. => false
  | _ => true

section Settled

variable {tables : IssuanceTables} {requestId : String}

/-- A request that waits for its package and will not get it. -/
theorem not_settled_of_pending {phase : IssuancePhase} {status : RequestStatus}
    (pending : Pending tables requestId status) (named : phase.requestId? = some requestId)
    (owned : ∀ issuing, phase.issuing? = some issuing → issuing.requestId = requestId)
    (waiting : status = .validated ∨ status = .issued) : ¬Settled tables phase := by
  rintro (⟨issuing, stored, package, member, refers, -⟩ | ⟨-, closed⟩)
  · apply pending.2 package.inserted (List.mem_map_of_mem member)
    exact refers.trans (owned issuing stored)
  · have found := closed requestId named
    rw [pending.1] at found
    rcases waiting with rfl | rfl <;> simp at found

theorem settled_of_packageStored {phase : IssuancePhase} {issuing : Issuing}
    (stored : PackageStored tables issuing) (working : phase.issuing? = some issuing) :
    Settled tables phase := by
  obtain ⟨row, member, request, certificate⟩ := stored
  obtain ⟨package, listed, rfl⟩ := List.mem_map.mp member
  exact Or.inl ⟨issuing, working, package, listed, request, certificate⟩

/-- A call that ends has settled exactly in the safe phases. -/
theorem settled_iff {phase : IssuancePhase} (holds : phase.Holds tables) :
    Settled tables phase ↔ phase.endsSafely = true := by
  cases phase with
  | started | applicationRead | profileRead | duplicateChecked | returned | raised =>
      exact iff_of_true (Or.inr ⟨fun _ => nofun, fun _ => nofun⟩) rfl
  | rejected requestId =>
      refine iff_of_true (Or.inr ⟨fun _ => nofun, fun other named => ?_⟩) rfl
      cases named
      exact Or.inr (Or.inl holds)
  | failureRecorded requestId =>
      refine iff_of_true (Or.inr ⟨fun _ => nofun, fun other named => ?_⟩) rfl
      cases named
      exact Or.inr (Or.inr holds)
  | validated subject requestId | signingFailed requestId | signed subject requestId issuedCert
  | certificateKnown subject requestId issuedCert =>
      refine iff_of_false ?_ Bool.false_ne_true
      exact not_settled_of_pending holds rfl (fun _ => nofun) (Or.inl rfl)
  | certificateStored issuing =>
      refine iff_of_false ?_ Bool.false_ne_true
      exact not_settled_of_pending holds rfl (fun _ working => by cases working; rfl) (Or.inl rfl)
  | issuedRecorded issuing =>
      refine iff_of_false ?_ Bool.false_ne_true
      exact not_settled_of_pending holds rfl (fun _ working => by cases working; rfl) (Or.inr rfl)
  | previousRead issuing previous =>
      refine iff_of_false ?_ Bool.false_ne_true
      exact not_settled_of_pending holds.1 rfl (fun _ working => by cases working; rfl) (Or.inr rfl)
  | packageStored issuing => exact iff_of_true (settled_of_packageStored holds.2 rfl) rfl
  | packagedRecorded issuing => exact iff_of_true (settled_of_packageStored holds.2 rfl) rfl

end Settled

end IssuancePhase

section Runs

variable {PrivateKey PublicKey : Type} {crypto : Crypto PrivateKey PublicKey}
  {signer : TrustArtifactSigner PrivateKey} {Call : Type} [DecidableEq Call]
  {input : Call → IssuanceInput}

/-- The events with which a call ends. -/
def Ends (call : Call) (event : IssuanceEvent Call) : Prop :=
  event = .act call .finish ∨ event = .act call .raise

/-- A call that ends leaves the tables as they were. -/
theorem tables_of_ends {state next : IssuanceState Call} {call : Call} {event : IssuanceEvent Call}
    (ends : Ends call event)
    (stepped : issuanceStep crypto signer input state event = some next) :
    next.tables = state.tables := by
  rcases ends with rfl | rfl
  · rw [issuanceStep, Option.map_eq_some_iff] at stepped
    obtain ⟨result, advanced, rfl⟩ := stepped
    generalize state.calls call = phase at advanced
    cases phase <;> cases advanced
    rfl
  · rw [issuanceStep, Option.map_eq_some_iff] at stepped
    obtain ⟨result, advanced, rfl⟩ := stepped
    generalize state.calls call = phase at advanced
    cases phase <;> cases advanced <;> rfl

omit [DecidableEq Call] in
/-- A call may raise in every phase that is not safe. -/
theorem advance_raise {call : Call} {tables : IssuanceTables} {phase : IssuancePhase}
    (notSafe : phase.endsSafely = false) :
    advance crypto signer (input call) tables phase .raise = some (tables, .raised) := by
  cases phase <;> first | rfl | cases notSafe

variable (crypto signer input) in
/-- In every run, the calls that end are all settled exactly when every one of them ends
in a safe phase: not by an exception between the storing of its request as validated and
the storing of its package, a recorded failure of the signing service aside. -/
theorem issuance_settled_iff (applications : List RegisteredApplication)
    (profiles : List ComponentProfile) (requests : List CertificateRequest)
    (certificates : List Certificate) (events : List (IssuanceEvent Call)) :
    Transition.EveryStep (issuanceStep crypto signer input)
        (fun before event after => ∀ call, Ends call event →
          (before.calls call).Settled after.tables)
        (IssuanceState.initial Call applications profiles requests certificates) events ↔
      Transition.EveryStep (issuanceStep crypto signer input)
        (fun before event _ => ∀ call, Ends call event → (before.calls call).endsSafely = true)
        (IssuanceState.initial Call applications profiles requests certificates) events := by
  apply Transition.EveryStep.congr IssuanceInvariant
  · intro state event next invariant stepped
    exact invariant.step stepped
  · intro state event next invariant stepped
    refine forall_congr' fun call => forall_congr' fun ends => ?_
    rw [tables_of_ends ends stepped]
    exact IssuancePhase.settled_iff (invariant.phases call)
  · exact issuanceInvariant_initial applications profiles requests certificates

end Runs

/-! ## Two calls for the same generation -/

def exampleTime : Timestamp.DateTime where
  year := 2026
  month := 1
  day := 6
  hour := 3
  minute := 4
  second := 5
  microsecond := 7
  validDate := by decide
  validTime := by decide

/-- Two calls for one application and profile, with different CSRs. -/
def raceInput (second : Bool) : IssuanceInput where
  applicationUri := "urn:client"
  runtimeInstanceId := ""
  profileName := "open62541-client"
  csrFingerprintSha256 := some (if second then "csr-2" else "csr-1")
  allowDuplicateCsr := false

def raceCertificate (second : Bool) : IssuedCertificate where
  pem := "certificate"
  fingerprintSha256 := if second then "fingerprint-2" else "fingerprint-1"
  serialNumber := "1"
  notBefore := exampleTime
  notAfter := exampleTime

def raceId (digit : Char) (isDigit : digit ∈ "0123456789abcdef".toList) : HexId where
  text := String.ofList (List.replicate 32 digit)
  length_eq := by rw [String.length_ofList, List.length_replicate]
  digits := by
    intro c member
    rw [String.toList_ofList] at member
    exact List.eq_of_mem_replicate member ▸ isDigit

theorem hexDigit_a : 'a' ∈ "0123456789abcdef".toList := by decide

theorem hexDigit_b : 'b' ∈ "0123456789abcdef".toList := by decide

def raceSources : PackageSources where
  caChain := "chain"
  crl := "crl"
  crlBundle := []
  crlMetadata := []
  compatibility := {
    status := "COMPATIBLE"
    riskLevel := "LOW"
    blockingReasons := []
    warnings := []
    details := [] }
  packageId := raceId 'c' (by decide)
  createdAt := exampleTime
  storedAt := 0

def raceInitial : IssuanceState Bool :=
  IssuanceState.initial Bool
    [{ id := 1, applicationUri := "urn:client", commonName := "client", zone := .dmz,
       role := .southboundClient, componentType := some "client", status := "active",
       runtimeInstanceId := none }]
    [{ profileName := "open62541-client", status := "active",
       adapter := { runtimeFamily := "open62541", trustStoreLayout := [] } }] [] []

/-- The steps of a call until it has read the package to be superseded. -/
def untilPrevious (second : Bool) (requestId : HexId) : List (IssuanceEvent Bool) :=
  [.readApplication, .readProfile, .checkDuplicate, .storeRequest requestId [],
    .vaultSigned (raceCertificate second), .insertCertificate 0, .recordIssued,
    .readPrevious].map (.act second)

/-- Both calls read that there is no package yet, and the second stores generation 1; for
the first this leaves only the exception of the unique constraint. -/
def raceEvents : List (IssuanceEvent Bool) :=
  untilPrevious false (raceId 'a' hexDigit_a) ++ untilPrevious true (raceId 'b' hexDigit_b) ++
    [.act true (.insertPackage raceSources)]

def raceSigner : TrustArtifactSigner Unit where
  privateKey := ()
  keyId := "gds"
  ttlSeconds := 900

/-- The first call can no longer store its package, and ends in a phase that is not
safe. -/
theorem race_reaches_open_phase :
    ((Transition.run (issuanceStep digestCrypto raceSigner raceInput) raceInitial raceEvents).map
      fun state => ((issuanceStep digestCrypto raceSigner raceInput state
        (.act false (.insertPackage raceSources))).isSome,
          (state.calls false).endsSafely)) = some (false, false) := by
  decide +kernel

/-- An issued certificate without a package, with its request still open. -/
theorem losing_call_not_settled :
    ¬Transition.EveryStep (issuanceStep digestCrypto raceSigner raceInput)
        (fun before event after => ∀ call, Ends call event →
          (before.calls call).Settled after.tables)
        raceInitial (raceEvents ++ [.act false .raise]) := by
  intro every
  obtain ⟨state, reached, phase⟩ := Option.map_eq_some_iff.mp race_reaches_open_phase
  rw [Prod.mk.injEq] at phase
  have invariant : IssuanceInvariant state :=
    Transition.run_invariant (fun _ _ _ kept stepped => IssuanceInvariant.step kept stepped)
      (issuanceInvariant_initial _ _ _ _) reached
  have last := (Transition.EveryStep.append_iff.mp every).2 state reached
  have raises : ∃ next,
      issuanceStep digestCrypto raceSigner raceInput state (.act false .raise) = some next := by
    rw [issuanceStep, advance_raise phase.2]
    exact ⟨_, rfl⟩
  obtain ⟨next, stepped⟩ := raises
  have settled := (last next stepped).1 false (Or.inr rfl)
  rw [tables_of_ends (Or.inr rfl) stepped,
    IssuancePhase.settled_iff (invariant.phases false), phase.2] at settled
  cases settled

end OpcuaGds.Gds
