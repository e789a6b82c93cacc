import OpcuaGds.Gds.AgentAuth
import OpcuaGds.Gds.RevocationEffects

/-! # The scope of an agent

The two endpoints with which an agent changes packages and certificates, the report of
a package event and the revocation of a certificate, and exactly when a call leaves
everything outside the agent's applications as it was. Both ask for permission without
naming an application.
-/

namespace OpcuaGds.Gds

/-! ## Endpoints -/

/-- `_agent_id_from_request`. -/
def agentIdFromRequest (request : AgentRequest) : String :=
  if PythonText.strip request.agentId = "" then "unknown" else PythonText.strip request.agentId

/-- The checks on the caller, the same in both endpoints. -/
def admitCaller (auth : AgentAuth) (request : AgentRequest) : Except Refusal Unit := do
  requireHttpsMtls request
  authorizeAgentPull auth request "package_update" none none none

/-- The answer to a package event. -/
inductive EventOutcome where
  | packageNotFound
  | recorded (lifecycleState : LifecycleState)
  deriving DecidableEq, Repr

/-- The event that is recorded when the event type is not the default one. -/
def otherEvent (packageId : String) (body : PackageLifecycleEventBody) (actor : String)
    (current : LifecycleState) : PackageEvent where
  packageId := packageId
  eventType := body.resolvedEventType
  actor := actor
  details := Json.setField "requested_lifecycle_state" (.str body.lifecycleState.name)
    (Json.setField "lifecycle_state" (.str current.name)
      (Json.setField "source_interface" (.str "ot_agent_pull")
        (Json.setField "event_type" (.str body.resolvedEventType) body.details)))

/-- `post_certificate_package_event` after the checks on the caller. -/
def recordPackageEvent (actor packageId : String) (body : PackageLifecycleEventBody)
    (db : Database) : Database × EventOutcome :=
  match db.package? packageId with
  | none => (db, .packageNotFound)
  | some package =>
      match agentUpdate body actor with
      | none =>
          ({ db with packageEvents :=
              db.packageEvents ++ [otherEvent packageId body actor package.lifecycleState] },
            .recorded package.lifecycleState)
      | some update =>
          (db.updatePackageLifecycle packageId update,
            .recorded (targetState body.lifecycleState package.lifecycleState))

/-- `post_certificate_package_event`. -/
def postCertificatePackageEvent (auth : AgentAuth) (request : AgentRequest) (packageId : String)
    (body : PackageLifecycleEventBody) (db : Database) : Database × Except Refusal EventOutcome :=
  match admitCaller auth request with
  | .error refusal => (db, .error refusal)
  | .ok () =>
      let result := recordPackageEvent (agentIdFromRequest request) packageId body db
      (result.1, .ok result.2)

section Endpoints

variable {PrivateKey PublicKey : Type} (crypto : Crypto PrivateKey PublicKey)
  (settings : RegenerationSettings) (signer : Option (TrustArtifactSigner PrivateKey))

/-- `revoke_certificate` from its first line; Vault must be there and unsealed. -/
def revokeCertificateEndpoint (auth : AgentAuth) (request : AgentRequest) (vaultReady : Bool)
    (body : RevokeCertificateBody) (answers : RevocationAnswers) (state : GdsState) :
    GdsState × Except Refusal RevocationOutcome :=
  match admitCaller auth request with
  | .error refusal => (state, .error refusal)
  | .ok () =>
      if vaultReady then
        let result := revokeCertificate crypto settings signer body answers state
        (result.1, .ok result.2)
      else (state, .error (.refused 503 "vault_client_unavailable"))

/-- A call of one of the two endpoints. -/
inductive AgentCall where
  | packageEvent (packageId : String) (body : PackageLifecycleEventBody)
  | revoke (vaultReady : Bool) (body : RevokeCertificateBody) (answers : RevocationAnswers)

/-- What a call leaves behind. -/
def agentCall (auth : AgentAuth) (request : AgentRequest) (state : GdsState) :
    AgentCall → GdsState
  | .packageEvent packageId body =>
      state.withDb (postCertificatePackageEvent auth request packageId body state.db).1
  | .revoke vaultReady body answers =>
      (revokeCertificateEndpoint crypto settings signer auth request vaultReady body answers
        state).1

end Endpoints

/-! ## Confinement -/

/-- The applications that the agent of a request is limited to. -/
def AgentAuth.scopeOf (auth : AgentAuth) (request : AgentRequest) : List String :=
  ((auth.policy? (PythonText.strip request.agentId)).map AgentPolicy.allowedApplications).getD []

namespace Database

/-- An application that is not in the scope. -/
def OutsideScope (db : Database) (scope : List String) (applicationId : Nat) : Prop :=
  ∃ application ∈ db.applications, application.id = applicationId ∧
    application.applicationUri ∉ scope

/-- Packages and certificates of applications outside the scope keep their state, and
their certificates stay members of the lists they were members of. -/
structure Confined (scope : List String) (before after : Database) : Prop where
  packages : List.Forall₂ (fun old new => before.OutsideScope scope old.applicationId →
    new.packageId = old.packageId ∧ new.lifecycleState = old.lifecycleState ∧
      new.status = old.status) before.packages after.packages
  certificates : List.Forall₂ (fun old new => before.OutsideScope scope old.applicationId →
    new.id = old.id ∧ new.status = old.status) before.certificates after.certificates
  trustLists : ∀ certificate ∈ before.certificates,
    before.OutsideScope scope certificate.applicationId → ∀ zone role,
      (certificate.id ∈ after.latestMembers zone role ↔
        certificate.id ∈ before.latestMembers zone role)

end Database

/-- A package row that an update to a state leaves as it is. -/
def PackageRow.Ignores (row : PackageRow) (requested : LifecycleState) : Prop :=
  requested.order ≤ row.lifecycleState.order ∧
    (row.lifecycleState = .revoked → row.status = "revoked")

/-- An update changes nothing exactly when the row ignores it. -/
theorem PackageRow.store_eq_iff (row : PackageRow) (requested : LifecycleState) :
    ((row.store (targetState requested row.lifecycleState)).lifecycleState = row.lifecycleState ∧
      (row.store (targetState requested row.lifecycleState)).status = row.status) ↔
        row.Ignores requested := by
  rw [store_lifecycleState, targetState_eq_current_iff, Ignores]
  refine and_congr_right fun below => ?_
  rw [store, targetState_eq_current_iff.mpr below]
  by_cases revoked : row.lifecycleState = .revoked
  · rw [if_pos revoked]
    exact ⟨fun same _ => same.symm, fun same => (same revoked).symm⟩
  · rw [if_neg revoked]
    exact iff_of_true rfl fun isRevoked => absurd isRevoked revoked

/-! ## Confined calls -/

namespace Database

/-- Updates to one state keep the packages outside a scope exactly when those among them
ignore it. -/
theorem forall₂_requestRows_iff (db : Database) (scope : List String)
    (requested : LifecycleState) (packageIds : List String) :
    List.Forall₂ (fun old new => db.OutsideScope scope old.applicationId →
        new.packageId = old.packageId ∧ new.lifecycleState = old.lifecycleState ∧
          new.status = old.status) db.packages (requestRows requested packageIds db.packages) ↔
      ∀ package ∈ db.packages, package.packageId ∈ packageIds →
        db.OutsideScope scope package.applicationId → package.Ignores requested := by
  rw [requestRows, List.forall₂_map_right_iff, List.forall₂_same]
  refine forall₂_congr fun package _ => ?_
  by_cases named : package.packageId ∈ packageIds
  · rw [if_pos named]
    have same := package.toPackageRow.store_eq_iff requested
    constructor
    · intro kept _ outside
      exact same.mp (kept outside).2
    · intro ignores outside
      exact ⟨rfl, same.mpr (ignores named outside)⟩
  · rw [if_neg named]
    exact iff_of_true (fun _ => ⟨rfl, rfl, rfl⟩) fun absurdly => absurd absurdly named

/-- Marking a certificate keeps those outside a scope exactly when it is not one of them
or was revoked before. -/
theorem forall₂_markCertificateRevoked_iff {db : Database} (wellFormed : db.WellFormed)
    (scope : List String) {certificate : Certificate} (stored : certificate ∈ db.certificates)
    (markedAt : Int) :
    List.Forall₂ (fun old new => db.OutsideScope scope old.applicationId →
        new.id = old.id ∧ new.status = old.status) db.certificates
        (db.markCertificateRevoked certificate.id markedAt).certificates ↔
      (db.OutsideScope scope certificate.applicationId → certificate.status = .revoked) := by
  rw [markCertificateRevoked, List.forall₂_map_right_iff, List.forall₂_same]
  constructor
  · intro kept outside
    have same := (kept certificate stored outside).2
    rw [if_pos rfl] at same
    exact same.symm
  · intro marked row listed outside
    by_cases chosen : row.id = certificate.id
    · have one : row = certificate :=
        List.inj_on_of_nodup_map wellFormed.certificateIds listed stored chosen
      rw [if_pos chosen]
      rw [one] at outside ⊢
      exact ⟨rfl, (marked outside).symm⟩
    · rw [if_neg chosen]
      exact ⟨rfl, rfl⟩

/-- Nothing changes for anyone. -/
theorem Confined.refl (scope : List String) (db : Database) : db.Confined scope db where
  packages := List.forall₂_same.mpr fun _ _ _ => ⟨rfl, rfl, rfl⟩
  certificates := List.forall₂_same.mpr fun _ _ _ => ⟨rfl, rfl⟩
  trustLists := fun _ _ _ _ _ => Iff.rfl

/-- What a call that marks a certificate must find to keep to a scope. -/
structure RevocationInScope (db : Database) (scope : List String) (answers : RevocationAnswers)
    (certificate : Certificate) (zone : Zone) (role : Role) (markedAt : Int) : Prop where
  ownRow : db.OutsideScope scope certificate.applicationId → certificate.status = .revoked
  packages : ∀ package ∈ db.packages,
    package.packageId ∈
      writtenPackages answers.packageWrites (db.packageIdsForCertificate certificate.id) →
    db.OutsideScope scope package.applicationId → package.Ignores .revoked
  list : answers.rebuilds (db.packageIdsForCertificate certificate.id) = true →
    ∀ other ∈ db.certificates, db.OutsideScope scope other.applicationId →
      (other.id ∈ (db.markedBy answers certificate.id markedAt).desiredTrustlistCertificateIds
        zone role ↔ other.id ∈ db.latestMembers zone role)

/-- A call that marked its certificate kept to the scope exactly under that condition. -/
theorem RevokedIn.confined_iff {db after : Database} (wellFormed : db.WellFormed)
    (scope : List String) {answers : RevocationAnswers} {certificate : Certificate}
    (stored : certificate ∈ db.certificates) {zone : Zone} {role : Role} {markedAt : Int}
    (revoked : db.RevokedIn after answers certificate.id zone role
      (db.markedBy answers certificate.id markedAt)) :
    db.Confined scope after ↔
      db.RevocationInScope scope answers certificate zone role markedAt := by
  have packages := forall₂_requestRows_iff db scope .revoked
    (writtenPackages answers.packageWrites (db.packageIdsForCertificate certificate.id))
  have certificates := forall₂_markCertificateRevoked_iff wellFormed scope stored markedAt
  constructor
  · intro confined
    have rows := confined.packages
    have marked := confined.certificates
    rw [revoked.packages] at rows
    rw [revoked.certificates] at marked
    refine ⟨certificates.mp marked, packages.mp rows, ?_⟩
    · intro rebuilds other listed outside
      rw [← revoked.rebuilt rebuilds other.id]
      exact confined.trustLists other listed outside zone role
  · intro inScope
    refine ⟨?_, ?_, ?_⟩
    · rw [revoked.packages]
      exact packages.mpr inScope.packages
    · rw [revoked.certificates]
      exact certificates.mpr inScope.ownRow
    · intro other listed outside otherZone otherRole
      by_cases rebuilds :
          answers.rebuilds (db.packageIdsForCertificate certificate.id) = true ∧
            (zone = otherZone ∧ role = otherRole)
      · obtain ⟨rebuilt, rfl, rfl⟩ := rebuilds
        rw [revoked.rebuilt rebuilt other.id]
        exact inScope.list rebuilt other listed outside
      · rw [revoked.kept otherZone otherRole fun rebuilt here => rebuilds ⟨rebuilt, here⟩]

end Database

/-- What a call must find to keep to a scope, when the caller is let in. -/
def AgentCall.KeepsScope (db : Database) (scope : List String) : AgentCall → Prop
  | .packageEvent packageId body =>
      body.resolvedEventType = "package_" ++ PythonText.lower body.lifecycleState.name →
      ∀ package ∈ db.packages, package.packageId = packageId →
        db.OutsideScope scope package.applicationId → package.Ignores body.lifecycleState
  | .revoke vaultReady body answers =>
      vaultReady = true →
      ∀ certificate application markedAt,
        db.resolveRevokeCertificate body = .ok (some certificate) →
        db.application? certificate.applicationId = some application →
        PythonText.strip (certificate.serialNumber.getD "") ≠ "" →
        answers.marked? certificate = some markedAt →
        db.RevocationInScope scope answers certificate application.zone application.role markedAt

/-- A package event keeps to a scope exactly when the packages it names that are outside
ignore the state it asks for. -/
theorem recordPackageEvent_confined_iff (db : Database) (scope : List String)
    (unique : (db.packages.map fun row => row.packageId).Nodup) (actor packageId : String)
    (body : PackageLifecycleEventBody) :
    db.Confined scope (recordPackageEvent actor packageId body db).1 ↔
      (AgentCall.packageEvent packageId body).KeepsScope db scope := by
  rw [recordPackageEvent, AgentCall.KeepsScope]
  cases found : db.package? packageId with
  | none =>
      refine iff_of_true (.refl scope db) fun _ package listed named => ?_
      have absent := List.find?_eq_none.mp found package listed
      exact absurd (decide_eq_true named) absent
  | some package =>
      simp only [agentUpdate]
      by_cases default :
          body.resolvedEventType = "package_" ++ PythonText.lower body.lifecycleState.name
      · rw [if_pos default]
        simp only [default, forall_const]
        generalize asks : ({
            requested := body.lifecycleState.name
            actor := actor
            details := Json.setField "source_interface" (.str "ot_agent_pull")
              (Json.setField "event_type"
                (.str ("package_" ++ PythonText.lower body.lifecycleState.name)) body.details) } :
            LifecycleUpdate) = update
        have asked : requestedState update.requested = .ok body.lifecycleState :=
          asks ▸ requestedState_name body.lifecycleState
        have packages := db.forall₂_requestRows_iff scope body.lifecycleState [packageId]
        rw [← Database.updatePackageLifecycle_packages unique asked packageId] at packages
        simp only [List.mem_singleton] at packages
        obtain ⟨lists, certificates, _⟩ := db.updatePackageLifecycle_tables packageId update
        rw [← packages]
        refine ⟨Database.Confined.packages, fun kept => ⟨kept, ?_, ?_⟩⟩
        · rw [certificates]
          exact (Database.Confined.refl scope db).certificates
        · intro certificate _ _ zone role
          rw [Database.latestMembers_congr (lists.latestTrustList? zone role)]
      · rw [if_neg default]
        refine iff_of_true ?_ fun isDefault => absurd isDefault default
        exact ⟨(Database.Confined.refl scope db).packages,
          (Database.Confined.refl scope db).certificates, fun _ _ _ _ _ => Iff.rfl⟩

section Revocation

variable {PrivateKey PublicKey : Type} {crypto : Crypto PrivateKey PublicKey}
  {settings : RegenerationSettings} {signer : Option (TrustArtifactSigner PrivateKey)}

/-- A revocation keeps to a scope exactly when what it comes to change lies inside. -/
theorem revokeCertificate_confined_iff (scope : List String) (body : RevokeCertificateBody)
    (answers : RevocationAnswers) (state : GdsState) (wellFormed : state.db.WellFormed)
    (unique : (state.db.packages.map fun row => row.packageId).Nodup) :
    state.db.Confined scope (revokeCertificate crypto settings signer body answers state).1.db ↔
      (AgentCall.revoke true body answers).KeepsScope state.db scope := by
  rw [revokeCertificate, AgentCall.KeepsScope]
  cases resolved : state.db.resolveRevokeCertificate body with
  | error code =>
      exact iff_of_true (.refl scope state.db) fun _ _ _ _ refused => nomatch refused
  | ok found =>
      simp only [Except.ok.injEq, forall_const]
      cases joined : found.bind fun certificate =>
          (state.db.application? certificate.applicationId).map (certificate, ·) with
      | none =>
          refine iff_of_true (.refl scope state.db) fun certificate application _ same owner => ?_
          rw [same, Option.bind_some, owner] at joined
          cases joined
      | some pair =>
          obtain ⟨certificate, application⟩ := pair
          obtain ⟨chosen, rfl, owner⟩ := Option.bind_eq_some_iff.mp joined
          obtain ⟨owned, isOwner, same⟩ := Option.map_eq_some_iff.mp owner
          cases same
          have only {row : Certificate} {holder : Application}
              (same : some certificate = some row)
              (held : state.db.application? row.applicationId = some holder) :
              row = certificate ∧ holder = application := by
            cases same
            exact ⟨rfl, Option.some.inj (held.symm.trans isOwner)⟩
          simp only
          by_cases missing : PythonText.strip (certificate.serialNumber.getD "") = ""
          · rw [if_pos missing]
            refine iff_of_true (.refl scope state.db) fun row holder _ same held serial => ?_
            obtain ⟨rfl, rfl⟩ := only same held
            exact absurd missing serial
          · rw [if_neg missing]
            have steps := revokeSteps_tables crypto settings signer answers body.reason certificate
              application state unique rfl
            have confined : state.db.Confined scope (revokeSteps crypto settings signer answers
                body.reason certificate application state).1.db ↔
                ∀ markedAt, answers.marked? certificate = some markedAt →
                  state.db.RevocationInScope scope answers certificate application.zone
                    application.role markedAt := by
              cases marked : answers.marked? certificate with
              | none =>
                  rw [steps.1 marked]
                  exact iff_of_true (.refl scope state.db) nofun
              | some markedAt =>
                  rw [(steps.2 markedAt marked).confined_iff wellFormed scope
                    (resolveRevokeCertificate_mem resolved)]
                  simp only [Option.some.injEq, forall_eq']
            generalize revokeSteps crypto settings signer answers body.reason certificate
              application state = result at confined ⊢
            obtain ⟨after, completed⟩ := result
            refine Iff.trans ?_ (confined.trans ?_)
            · cases completed <;> exact Iff.rfl
            · constructor
              · intro inScope row holder markedAt same held _ marked
                obtain ⟨rfl, rfl⟩ := only same held
                exact inScope markedAt marked
              · intro inScope markedAt marked
                exact inScope certificate application markedAt rfl isOwner missing marked

/-- A call leaves packages, certificates and list members outside the agent's applications
alone exactly when, once it is let in, what it comes to change lies inside. -/
theorem agent_call_confined_iff (auth : AgentAuth) (request : AgentRequest) (call : AgentCall)
    (state : GdsState) (wellFormed : state.db.WellFormed)
    (unique : (state.db.packages.map fun row => row.packageId).Nodup) :
    state.db.Confined (auth.scopeOf request)
        (agentCall crypto settings signer auth request state call).db ↔
      (admitCaller auth request = .ok () → call.KeepsScope state.db (auth.scopeOf request)) := by
  cases call with
  | packageEvent packageId body =>
      simp only [agentCall, GdsState.withDb_db, postCertificatePackageEvent]
      cases admitted : admitCaller auth request with
      | error refusal => exact iff_of_true (.refl _ _) nofun
      | ok _ =>
          simp only [forall_const]
          exact recordPackageEvent_confined_iff state.db _ unique _ packageId body
  | revoke vaultReady body answers =>
      simp only [agentCall, revokeCertificateEndpoint]
      cases admitted : admitCaller auth request with
      | error refusal => exact iff_of_true (.refl _ _) nofun
      | ok _ =>
          simp only [forall_const]
          cases vaultReady with
          | false => exact iff_of_true (.refl _ _) fun absurdly => nomatch absurdly
          | true =>
              simp only [if_true]
              exact revokeCertificate_confined_iff _ body answers state wellFormed unique

end Revocation

/-! An agent that is limited to the pump revokes the package of the client, and its
certificate. -/

def pumpAgentAuth : AgentAuth where
  agentAuthEnabled := true
  storeInitialized := true
  tokensFile := .document (.obj [("agents", .obj [("pump-agent", .obj [
    ("token", .str "t0ken"), ("allowed_applications", .arr [.str "urn:pump"])])])])

def pumpAgentRequest : AgentRequest where
  forwardedProto := "https"
  clientCertVerify := "SUCCESS"
  agentId := "pump-agent"
  agentToken := "t0ken"

def clientPackage : CertificatePackage where
  packageId := "pkg-client"
  lifecycleState := .activated
  status := "active"
  applicationId := 1
  certificateId := some 7
  generation := 1
  createdAt := 5

def clientState : GdsState :=
  GdsState.initial.withDb { GdsState.initial.db with
    applications := [exampleApplication]
    certificates := [exampleCertificate .active none]
    packages := [clientPackage] }

def revokedEvent : PackageLifecycleEventBody where
  lifecycleState := .revoked
  reportable := by decide
  eventType := none
  details := []

/-- What the pump's agent leaves behind. -/
def pumpAgentCall (call : AgentCall) : GdsState :=
  agentCall transparentCrypto exampleSettings (some exampleSigner) pumpAgentAuth pumpAgentRequest
    clientState call

/-- The agent is let in, and neither endpoint confines it. -/
theorem pump_agent_not_confined :
    pumpAgentAuth.scopeOf pumpAgentRequest = ["urn:pump"] ∧
      admitCaller pumpAgentAuth pumpAgentRequest = .ok () ∧
      ¬ clientState.db.Confined ["urn:pump"]
          (pumpAgentCall (.packageEvent "pkg-client" revokedEvent)).db ∧
      ¬ clientState.db.Confined ["urn:pump"]
          (pumpAgentCall (.revoke true revocationBody revocationAnswers)).db := by
  have outside : clientState.db.OutsideScope ["urn:pump"] 1 :=
    ⟨exampleApplication, List.mem_singleton_self _, rfl, by decide⟩
  refine ⟨by decide +kernel, by decide +kernel, fun confined => ?_, fun confined => ?_⟩
  · have packages : (pumpAgentCall (.packageEvent "pkg-client" revokedEvent)).db.packages =
        [{ clientPackage with lifecycleState := .revoked, status := "revoked" }] := by
      decide +kernel
    have rows := confined.packages
    rw [packages] at rows
    cases rows with
    | cons kept _ => exact absurd (kept outside).2.1 (by decide)
  · have certificates :
        (pumpAgentCall (.revoke true revocationBody revocationAnswers)).db.certificates =
          [exampleCertificate .revoked (some 6)] := by
      decide +kernel
    have rows := confined.certificates
    rw [certificates] at rows
    cases rows with
    | cons kept _ => exact absurd (kept outside).2 (by decide)

/-- The event as an instance of the equivalence. -/
theorem pump_agent_confined_iff :
    clientState.db.Confined (pumpAgentAuth.scopeOf pumpAgentRequest)
        (pumpAgentCall (.packageEvent "pkg-client" revokedEvent)).db ↔
      (admitCaller pumpAgentAuth pumpAgentRequest = .ok () →
        (AgentCall.packageEvent "pkg-client" revokedEvent).KeepsScope clientState.db
          (pumpAgentAuth.scopeOf pumpAgentRequest)) :=
  agent_call_confined_iff pumpAgentAuth pumpAgentRequest _ clientState (by decide +kernel)
    (by decide +kernel)

end OpcuaGds.Gds
