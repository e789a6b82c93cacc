import OpcuaGds.Gds.ArtifactConcurrency

/-! # Artifacts and the rows they are returned with

In every run of the threads of one process, over whatever its earlier lives stored, an
artifact that a call returns has the revision, the hash and the signature that the returned
row says. The revision inside the signed bytes is predicted before the insert, and the
document may come from a cache entry that was read outside the lock.
-/

namespace OpcuaGds.Gds

section Rows

variable {PrivateKey PublicKey : Type} (crypto : Crypto PrivateKey PublicKey)

/-- A row names this signer's key, and its signature verifies under it for the bytes. -/
structure SignedUnder (signer : TrustArtifactSigner PrivateKey) (row : TrustArtifact)
    (payload : List UInt8) : Prop where
  keyId : row.signerKeyId = signer.keyId
  fingerprint : row.signerFingerprintSha256 = signer.fingerprintSha256 crypto
  signature : ∃ bytes, Base64.decode row.signatureBase64.toList = some bytes ∧
    crypto.scheme.verify (crypto.scheme.publicKey signer.privateKey) bytes payload = true

/-- A row tells the truth about an artifact: its revision, the hash of its canonical bytes,
and a signature over them under the key that the row names. -/
structure DescribesArtifact (row : TrustArtifact) (artifact : Json) : Prop where
  revision : artifact.field? "artifact_revision" = some (.int row.artifactRevision)
  sha256 :
    row.artifactSha256 = crypto.sha256Hex (canonicalArtifactPayload artifact).canonicalBytes
  signed : ∃ signer,
    SignedUnder crypto signer row (canonicalArtifactPayload artifact).canonicalBytes

end Rows

/-- A cache entry holds the document of a stored row. -/
def CacheEntry.IsOf (entry : CacheEntry) (db : Database) : Prop :=
  ∃ row ∈ db.trustArtifacts, row.id = entry.rowId ∧ row.artifactJson = entry.artifact

/-- What a call brings out of the critical sections. A call without a row was held back by the
rate limit before anything was ever regenerated. -/
def Regeneration.IsOf (settings : RegenerationSettings) (request : ArtifactRequest)
    (db : Database) : Regeneration → Prop
  | .raised => True
  | .kept none => request.regenAt < settings.regenMinIntervalSeconds * 1000000
  | .kept (some row) => row ∈ db.trustArtifacts
  | .inserted row artifact => row ∈ db.trustArtifacts ∧ row.artifactJson = artifact

/-- What a call holds at a point of its way is of the stored rows. -/
def RequestPhase.IsOf (settings : RegenerationSettings) (db : Database) : RequestPhase → Prop
  | .loaded _ _ _ cached => ∀ entry, cached = some entry → entry.IsOf db
  | .due _ _ _ cached => ∀ entry, cached = some entry → entry.IsOf db
  | .checked request _ cached outcome =>
      (∀ entry, cached = some entry → entry.IsOf db) ∧ outcome.IsOf settings request db
  | .returned (.served _ row artifact) => row ∈ db.trustArtifacts ∧ row.artifactJson = artifact
  | _ => True

/-- The stored rows describe their documents, the cache is of them, and a place whose time of
regeneration was set has a row. -/
structure GdsState.RowsSigned {PrivateKey PublicKey : Type}
    (crypto : Crypto PrivateKey PublicKey) (state : GdsState) : Prop where
  described : ∀ row ∈ state.db.trustArtifacts, DescribesArtifact crypto row row.artifactJson
  artifactIds : (state.db.trustArtifacts.map TrustArtifact.id).Nodup
  cached : ∀ zone role entry, state.cache zone role = some entry → entry.IsOf state.db
  regenerated : ∀ zone role, state.db.latestTrustArtifact? zone role = none →
    state.lastRegenAt zone role = 0

section Monotone

variable {db later : Database} (grown : db.trustArtifacts ⊆ later.trustArtifacts)
include grown

theorem CacheEntry.IsOf.mono {entry : CacheEntry} (isOf : entry.IsOf db) : entry.IsOf later := by
  obtain ⟨row, member, named⟩ := isOf
  exact ⟨row, grown member, named⟩

theorem Regeneration.IsOf.mono {settings : RegenerationSettings} {request : ArtifactRequest}
    {outcome : Regeneration} (isOf : outcome.IsOf settings request db) :
    outcome.IsOf settings request later := by
  cases outcome with
  | raised => trivial
  | kept row =>
      cases row with
      | none => exact isOf
      | some row => exact grown isOf
  | inserted row artifact => exact ⟨grown isOf.1, isOf.2⟩

theorem RequestPhase.IsOf.mono {settings : RegenerationSettings} {phase : RequestPhase}
    (isOf : phase.IsOf settings db) : phase.IsOf settings later := by
  cases phase with
  | loaded _ _ _ cached => exact fun entry held => (isOf entry held).mono grown
  | due _ _ _ cached => exact fun entry held => (isOf entry held).mono grown
  | checked request _ cached outcome =>
      exact ⟨fun entry held => (isOf.1 entry held).mono grown, isOf.2.mono grown⟩
  | returned served =>
      cases served with
      | served _ row artifact => exact ⟨grown isOf.1, isOf.2⟩
      | _ => trivial
  | _ => trivial

end Monotone

/-! ## The critical sections -/

section Signing

variable {PrivateKey PublicKey : Type} {crypto : Crypto PrivateKey PublicKey}
  {settings : RegenerationSettings} {signer : TrustArtifactSigner PrivateKey}

/-- The predicted revision is the one that the insert computes. -/
theorem artifactRevision_newTrustArtifact (db : Database) (zone : Zone) (role : Role)
    (version : Nat) (signed : SignedArtifact) (reason : String) :
    (db.newTrustArtifact zone role version signed reason).artifactRevision =
      ((db.latestTrustArtifact? zone role).map TrustArtifact.artifactRevision).getD 0 + 1 :=
  congrArg (· + 1) (VersionedTable.maxVersion_eq_latest _ _)

variable (complete : ∀ key message,
  crypto.scheme.verify (crypto.scheme.publicKey key) (crypto.scheme.sign key message) message =
    true)
include complete

/-- A row made of what the signer builds for the predicted revision describes it. -/
theorem describesArtifact_new {db : Database} {zone : Zone} {role : Role} {trustList : TrustList}
    {certs : List Json} {material : VaultMaterial} {reason : String}
    {generatedAt : Timestamp.DateTime} {signed : SignedArtifact}
    (built : signer.buildSignedArtifact crypto trustList certs material
      (((db.latestTrustArtifact? zone role).map TrustArtifact.artifactRevision).getD 0 + 1) reason
      generatedAt = some signed) (version : Nat) :
    DescribesArtifact crypto (db.newTrustArtifact zone role version signed reason)
      signed.artifact := by
  have revision := artifactRevision_newTrustArtifact db zone role version signed reason
  simp only [TrustArtifactSigner.buildSignedArtifact, Option.bind_eq_bind,
    Option.bind_eq_some_iff, Option.some.injEq] at built
  obtain ⟨expiresAt, _, rfl⟩ := built
  refine ⟨?_, rfl, signer, rfl, rfl, ?_⟩
  · rw [revision]
    rfl
  · refine ⟨crypto.scheme.sign signer.privateKey _, ?_, complete _ _⟩
    exact (congrArg Base64.decode String.toList_ofList).trans (Base64.decode_encode _)

omit complete in
variable (crypto settings signer) in
/-- What the second critical section does: nothing, or it inserts what the signer builds for
the predicted revision. -/
theorem regenerate_cases (request : ArtifactRequest) (trustList : TrustList)
    (certs : List Database.TrustedCertificate) (state : GdsState) :
    regenerate crypto settings signer request trustList certs state = (state, .raised) ∨
    (regenerate crypto settings signer request trustList certs state =
        (state, .kept (state.db.latestTrustArtifact? request.zone request.role)) ∧
      (state.db.latestTrustArtifact? request.zone request.role = none →
        isRateLimited settings request state = true)) ∨
    ∃ material reason signed,
      signer.buildSignedArtifact crypto trustList (certs.map TrustedCertificate.toJson) material
          (((state.db.latestTrustArtifact? request.zone request.role).map
            TrustArtifact.artifactRevision).getD 0 + 1) reason request.generatedAt = some signed ∧
      regenerate crypto settings signer request trustList certs state =
        (state.inserted request (state.db.newTrustArtifact request.zone request.role
            trustList.version signed reason),
          .inserted (state.db.newTrustArtifact request.zone request.role trustList.version signed
            reason) signed.artifact) := by
  unfold regenerate
  simp only
  split
  · rename_i kept
    refine .inr (.inl ⟨rfl, fun missing => ?_⟩)
    rw [missing, regenerationReason] at kept
    split at kept <;> cases kept
  · split
    · rename_i limited
      exact .inr (.inl ⟨rfl, fun _ => limited⟩)
    · split
      · exact .inl rfl
      · rename_i signed made
        obtain ⟨material, _, built⟩ := Option.bind_eq_some_iff.mp made
        exact .inr (.inr ⟨material, _, signed, built, rfl⟩)

namespace GdsState

variable {state : GdsState}

omit complete in
/-- Changes of the other tables keep the rows signed. -/
theorem RowsSigned.congr (rowsSigned : state.RowsSigned crypto) {db : Database}
    (same : db.trustArtifacts = state.db.trustArtifacts) :
    ({ state with db := db } : GdsState).RowsSigned crypto := by
  obtain ⟨described, artifactIds, cached, regenerated⟩ := rowsSigned
  refine ⟨?_, ?_, fun zone role entry held => ?_, fun zone role missing => ?_⟩
  · rwa [same]
  · rwa [same]
  · exact (cached zone role entry held).mono (by rw [same]; exact List.Subset.refl _)
  · refine regenerated zone role ?_
    rw [← missing]
    simp only [Database.latestTrustArtifact?, Database.trustArtifactsOf, same]

omit complete in
/-- An insertion of a row that describes its document. -/
theorem RowsSigned.inserted (rowsSigned : state.RowsSigned crypto)
    (request : ArtifactRequest) {version : Nat} {signed : SignedArtifact} {reason : String}
    (describes : DescribesArtifact crypto
      (state.db.newTrustArtifact request.zone request.role version signed reason)
      signed.artifact) :
    (state.inserted request (state.db.newTrustArtifact request.zone request.role version signed
      reason)).RowsSigned crypto where
  described := by
    intro row member
    rcases List.mem_append.mp member with old | new
    · exact rowsSigned.described row old
    · rw [List.mem_singleton.mp new]
      exact describes
  artifactIds := by
    simp only [GdsState.inserted, Database.insertTrustArtifact, List.map_append, List.map_cons,
      List.map_nil]
    refine List.nodup_append'.mpr ⟨rowsSigned.artifactIds, List.nodup_singleton _, ?_⟩
    rw [List.disjoint_singleton]
    exact Database.freshId_notMem _
  cached := fun zone role entry held =>
    (rowsSigned.cached zone role entry held).mono (List.subset_append_left _ _)
  regenerated := by
    intro zone role missing
    by_cases here : request.zone = zone ∧ request.role = role
    · obtain ⟨rfl, rfl⟩ := here
      have latest := Database.latestTrustArtifact?_insert_self state.db request.zone request.role
        version signed reason
      rw [GdsState.inserted, latest] at missing
      cases missing
    · have same := Database.latestTrustArtifact?_insert_of_ne state.db
        (state.db.newTrustArtifact request.zone request.role version signed reason) here
      rw [GdsState.inserted, same] at missing
      have kept : (state.inserted request (state.db.newTrustArtifact request.zone request.role
          version signed reason)).lastRegenAt zone role = state.lastRegenAt zone role := by
        simp only [GdsState.inserted]
        by_cases sameZone : zone = request.zone
        · subst sameZone
          have otherRole : role ≠ request.role := fun sameRole => here ⟨rfl, sameRole.symm⟩
          rw [Function.update_self, Function.update_of_ne otherRole]
        · rw [Function.update_of_ne sameZone]
      rw [kept]
      exact rowsSigned.regenerated zone role missing

/-- The second critical section keeps the rows signed, loses none, and brings out what is
stored. -/
theorem RowsSigned.regenerate (rowsSigned : state.RowsSigned crypto)
    (request : ArtifactRequest) (trustList : TrustList)
    (certs : List Database.TrustedCertificate) {after : GdsState} {outcome : Regeneration}
    (regenerated : Gds.regenerate crypto settings signer request trustList certs state =
      (after, outcome)) :
    after.RowsSigned crypto ∧ state.db.trustArtifacts ⊆ after.db.trustArtifacts ∧
      outcome.IsOf settings request after.db := by
  rcases regenerate_cases crypto settings signer request trustList certs state with
    raised | kept | inserted
  · cases raised.symm.trans regenerated
    exact ⟨rowsSigned, List.Subset.refl _, trivial⟩
  · obtain ⟨kept, limited⟩ := kept
    cases kept.symm.trans regenerated
    refine ⟨rowsSigned, List.Subset.refl _, ?_⟩
    cases latest : state.db.latestTrustArtifact? request.zone request.role with
    | some row => exact (Database.latestTrustArtifact?_mem latest).1
    | none =>
        have held := limited latest
        simp only [isRateLimited, rowsSigned.regenerated _ _ latest, Bool.and_eq_true,
          decide_eq_true_eq, sub_zero] at held
        exact held.2
  · obtain ⟨material, reason, signed, built, inserted⟩ := inserted
    cases inserted.symm.trans regenerated
    exact ⟨rowsSigned.inserted request (describesArtifact_new complete built trustList.version),
      List.subset_append_left _ _,
      List.mem_append_right _ (List.mem_singleton_self _), rfl⟩

omit complete in
/-- The document for a stored row is the stored one, whatever entry was read for it. -/
theorem RowsSigned.documentOf (rowsSigned : state.RowsSigned crypto)
    {cached : Option CacheEntry} (isOf : ∀ entry, cached = some entry → entry.IsOf state.db)
    {row : TrustArtifact} (member : row ∈ state.db.trustArtifacts) :
    documentOf cached row = row.artifactJson := by
  unfold Gds.documentOf
  split
  · rename_i entry
    split
    · rename_i same
      obtain ⟨other, stored, id, document⟩ := isOf entry rfl
      have own : other = row :=
        List.inj_on_of_nodup_map rowsSigned.artifactIds stored member (id.trans same.1)
      rw [← document, own]
    · rfl
  · rfl

omit complete in
theorem RowsSigned.remember (rowsSigned : state.RowsSigned crypto) (zone : Zone)
    (role : Role) {row : TrustArtifact} (member : row ∈ state.db.trustArtifacts) :
    (state.remember zone role row row.artifactJson).RowsSigned crypto where
  described := rowsSigned.described
  artifactIds := rowsSigned.artifactIds
  regenerated := rowsSigned.regenerated
  cached := by
    intro otherZone otherRole entry held
    by_cases here : otherZone = zone ∧ otherRole = role
    · obtain ⟨rfl, rfl⟩ := here
      simp only [GdsState.remember, Function.update_self] at held
      cases held
      exact ⟨row, member, rfl, rfl⟩
    · refine rowsSigned.cached otherZone otherRole entry ?_
      rw [← held, GdsState.remember]
      by_cases sameZone : otherZone = zone
      · subst sameZone
        have otherKind : otherRole ≠ role := fun sameRole => here ⟨rfl, sameRole⟩
        simp only [Function.update_self, Function.update_of_ne otherKind]
      · simp only [Function.update_of_ne sameZone]

end GdsState

end Signing

/-! ## Runs -/

namespace GdsProcess

variable {Thread : Type*} [DecidableEq Thread] {PrivateKey PublicKey : Type}
  {crypto : Crypto PrivateKey PublicKey} {settings : RegenerationSettings}
  {signer : TrustArtifactSigner PrivateKey}

/-- The stored rows are signed, and every call is on its way with stored rows. -/
structure RowsSigned (crypto : Crypto PrivateKey PublicKey) (settings : RegenerationSettings)
    (process : GdsProcess Thread) : Prop where
  shared : process.shared.RowsSigned crypto
  phases : ∀ thread, (process.phases thread).IsOf settings process.shared.db

/-- One call goes on, and no row is lost. -/
theorem RowsSigned.advance {process : GdsProcess Thread}
    (rowsSigned : process.RowsSigned crypto settings) {shared : GdsState}
    (signed : shared.RowsSigned crypto)
    (grown : process.shared.db.trustArtifacts ⊆ shared.db.trustArtifacts) {thread : Thread}
    {phase : RequestPhase} (isOf : phase.IsOf settings shared.db) :
    RowsSigned crypto settings ⟨shared, Function.update process.phases thread phase⟩ where
  shared := signed
  phases := by
    intro other
    change (Function.update process.phases thread phase other).IsOf settings shared.db
    by_cases here : other = thread
    · subst here
      rw [Function.update_self]
      exact isOf
    · rw [Function.update_of_ne here]
      exact (rowsSigned.phases other).mono grown

/-- One call goes on, and the shared state stays. -/
theorem RowsSigned.setPhase {process : GdsProcess Thread}
    (rowsSigned : process.RowsSigned crypto settings) (thread : Thread)
    {phase : RequestPhase} (isOf : phase.IsOf settings process.shared.db) :
    (process.setPhase thread phase).RowsSigned crypto settings :=
  rowsSigned.advance rowsSigned.shared (List.Subset.refl _) isOf

theorem rowsSigned_finish {process : GdsProcess Thread}
    (rowsSigned : process.RowsSigned crypto settings) {thread : Thread}
    {request : ArtifactRequest} {trustList : TrustList} {cached : Option CacheEntry}
    {outcome : Regeneration}
    (phase : process.phases thread = .checked request trustList cached outcome)
    {shared : GdsState} {served : Served}
    (finished : Gds.finish request trustList cached (process.shared, outcome) = (shared, served)) :
    RowsSigned crypto settings
      ⟨shared, Function.update process.phases thread (.returned served)⟩ := by
  have isOf := rowsSigned.phases thread
  rw [phase] at isOf
  obtain ⟨ofCache, ofOutcome⟩ := isOf
  cases outcome with
  | raised =>
      cases finished
      exact rowsSigned.setPhase thread trivial
  | kept row =>
      cases row with
      | none =>
          cases finished
          exact rowsSigned.setPhase thread trivial
      | some row =>
          have document := rowsSigned.shared.documentOf ofCache ofOutcome
          rw [Gds.finish, document] at finished
          cases finished
          exact rowsSigned.advance (rowsSigned.shared.remember _ _ ofOutcome)
            (List.Subset.refl _) ⟨ofOutcome, rfl⟩
  | inserted row artifact =>
      obtain ⟨member, rfl⟩ := ofOutcome
      cases finished
      exact rowsSigned.advance (rowsSigned.shared.remember _ _ member) (List.Subset.refl _)
        ⟨member, rfl⟩

variable (complete : ∀ key message,
  crypto.scheme.verify (crypto.scheme.publicKey key) (crypto.scheme.sign key message) message =
    true)
include complete

theorem rowsSigned_step {before after : GdsProcess Thread} {event : ProcessStep Thread}
    (rowsSigned : before.RowsSigned crypto settings)
    (stepped : step crypto settings signer before event = some after) :
    after.RowsSigned crypto settings := by
  cases event with
  | begin thread request =>
      simp only [step] at stepped
      split at stepped <;> cases stepped
      exact rowsSigned.setPhase thread trivial
  | ensure thread =>
      simp only [step] at stepped
      split at stepped <;> cases stepped
      refine rowsSigned.setPhase thread ?_
      split <;> trivial
  | buildList thread =>
      simp only [step] at stepped
      split at stepped <;> cases stepped
      rename_i request _
      have signed : GdsState.RowsSigned crypto { before.shared with
          db := before.shared.db.buildTrustList request.zone request.role request.ensuredAt } :=
        rowsSigned.shared.congr rfl
      have isOf : (RequestPhase.ensured request).IsOf settings before.shared.db := trivial
      exact rowsSigned.advance signed (List.Subset.refl _) isOf
  | load thread =>
      simp only [step] at stepped
      split at stepped <;> cases stepped
      refine rowsSigned.setPhase thread ?_
      split
      · trivial
      · exact fun entry held => rowsSigned.shared.cached _ _ entry held
  | firstCheck thread =>
      simp only [step] at stepped
      split at stepped <;> cases stepped
      rename_i request trustList certs cached phase
      have isOf := rowsSigned.phases thread
      rw [phase] at isOf
      refine rowsSigned.setPhase thread ?_
      split
      · rename_i kept
        refine ⟨isOf, ?_⟩
        cases latest : before.shared.db.latestTrustArtifact? request.zone request.role with
        | some row => exact (Database.latestTrustArtifact?_mem latest).1
        | none =>
            rw [latest, regenerationReason] at kept
            split at kept <;> cases kept
      · exact isOf
  | secondCheck thread =>
      simp only [step] at stepped
      split at stepped <;> cases stepped
      rename_i request trustList certs cached phase
      have isOf := rowsSigned.phases thread
      rw [phase] at isOf
      obtain ⟨signed, grown, ofOutcome⟩ := rowsSigned.shared.regenerate complete request trustList
        certs rfl
      exact rowsSigned.advance signed grown
        ⟨fun entry held => (isOf entry held).mono grown, ofOutcome⟩
  | finish thread =>
      simp only [step] at stepped
      split at stepped <;> cases stepped
      rename_i phase
      exact rowsSigned_finish rowsSigned phase rfl
  | change applications certificates packages =>
      simp only [step] at stepped
      split at stepped <;> cases stepped
      exact ⟨rowsSigned.shared.congr rfl, rowsSigned.phases⟩
  | build zone role now =>
      cases stepped
      exact ⟨rowsSigned.shared.congr rfl, rowsSigned.phases⟩

end GdsProcess

/-! ## Lives of the process -/

/-- The process and the configuration of its present life. -/
structure GdsServer (Thread : Type*) (PrivateKey : Type) where
  process : GdsProcess Thread
  settings : RegenerationSettings
  signer : TrustArtifactSigner PrivateKey

inductive ServerStep (Thread : Type*) (PrivateKey : Type) where
  | within (step : ProcessStep Thread)
  /-- An exception ends the call of a thread where it is. -/
  | fails (thread : Thread)
  /-- The process starts again over its database. -/
  | restart (settings : RegenerationSettings) (signer : TrustArtifactSigner PrivateKey)

namespace GdsServer

variable {Thread : Type*} [DecidableEq Thread] {PrivateKey PublicKey : Type}

/-- The process over a database, without calls and with an empty cache. -/
def started (db : Database) (settings : RegenerationSettings)
    (signer : TrustArtifactSigner PrivateKey) : GdsServer Thread PrivateKey where
  process := { shared := { GdsState.initial with db := db }, phases := fun _ => .idle }
  settings := settings
  signer := signer

def step (crypto : Crypto PrivateKey PublicKey) (server : GdsServer Thread PrivateKey) :
    ServerStep Thread PrivateKey → Option (GdsServer Thread PrivateKey)
  | .within step =>
      (GdsProcess.step crypto server.settings server.signer server.process step).map fun process =>
        { server with process := process }
  | .fails thread =>
      some { server with process := server.process.setPhase thread (.returned .raised) }
  | .restart settings signer => some (started server.process.shared.db settings signer)

def RowsSigned (crypto : Crypto PrivateKey PublicKey) (server : GdsServer Thread PrivateKey) :
    Prop :=
  server.process.RowsSigned crypto server.settings

variable {crypto : Crypto PrivateKey PublicKey}

omit [DecidableEq Thread] in
theorem rowsSigned_started {db : Database}
    (described : ∀ row ∈ db.trustArtifacts, DescribesArtifact crypto row row.artifactJson)
    (artifactIds : (db.trustArtifacts.map TrustArtifact.id).Nodup)
    (settings : RegenerationSettings) (signer : TrustArtifactSigner PrivateKey) :
    (started db settings signer : GdsServer Thread PrivateKey).RowsSigned crypto where
  shared := {
    described := described
    artifactIds := artifactIds
    cached := fun _ _ _ held => nomatch held
    regenerated := fun _ _ _ => rfl }
  phases := fun _ => trivial

variable (complete : ∀ key message,
  crypto.scheme.verify (crypto.scheme.publicKey key) (crypto.scheme.sign key message) message =
    true)
include complete

theorem rowsSigned_step {before after : GdsServer Thread PrivateKey}
    {event : ServerStep Thread PrivateKey} (rowsSigned : before.RowsSigned crypto)
    (stepped : step crypto before event = some after) : after.RowsSigned crypto := by
  cases event with
  | within event =>
      obtain ⟨process, taken, rfl⟩ := Option.map_eq_some_iff.mp stepped
      exact GdsProcess.rowsSigned_step complete rowsSigned taken
  | fails thread =>
      cases stepped
      exact rowsSigned.setPhase thread trivial
  | restart settings signer =>
      cases stepped
      exact rowsSigned_started rowsSigned.shared.described rowsSigned.shared.artifactIds settings
        signer

/-- In every run of any number of threads, over any number of lives of the process, a call
that returns an artifact returns a stored row that describes it. A call comes to its end
without a row only where the rate limit holds back the first regeneration of a place, whose
clock then reads less than one interval; it raises. -/
theorem returned_artifact_described (settings : RegenerationSettings)
    (signer : TrustArtifactSigner PrivateKey) {events : List (ServerStep Thread PrivateKey)}
    {server : GdsServer Thread PrivateKey}
    (reached : Transition.run (step crypto) (started GdsState.initial.db settings signer) events =
      some server) :
    (∀ thread trustList row artifact,
      server.process.phases thread = .returned (.served trustList row artifact) →
        row ∈ server.process.shared.db.trustArtifacts ∧ DescribesArtifact crypto row artifact) ∧
      ∀ thread request trustList cached,
        server.process.phases thread = .checked request trustList cached (.kept none) →
          request.regenAt < server.settings.regenMinIntervalSeconds * 1000000 := by
  have rowsSigned : server.RowsSigned crypto := by
    refine Transition.run_invariant ?_ ?_ reached
    · intro before event after signed stepped
      exact rowsSigned_step complete signed stepped
    · refine rowsSigned_started ?_ ?_ settings signer
      · intro row member
        cases member
      · exact List.nodup_nil
  constructor
  · intro thread trustList row artifact phase
    have isOf := rowsSigned.phases thread
    rw [phase] at isOf
    obtain ⟨member, rfl⟩ := isOf
    exact ⟨member, rowsSigned.shared.described row member⟩
  · intro thread request trustList cached phase
    have isOf := rowsSigned.phases thread
    rw [phase] at isOf
    exact isOf.2

omit complete

/-! A forced call regenerates, a second call gets the document from the cache, and after a
restart a third one gets it from the row. -/

def cachedRun : List (ServerStep (Fin 3) Unit) :=
  [.within (.change [exampleApplication] [exampleCertificate .active none] []),
    .within (.begin 0 (exampleRequest true 100000000)), .within (.ensure 0),
    .within (.buildList 0), .within (.load 0), .within (.firstCheck 0),
    .within (.secondCheck 0), .within (.finish 0),
    .within (.begin 1 (exampleRequest false 101000000)), .within (.ensure 1), .within (.load 1),
    .within (.firstCheck 1), .within (.finish 1)]

def restartedRun : List (ServerStep (Fin 3) Unit) :=
  cachedRun ++ [.restart exampleSettings exampleSigner,
    .within (.begin 2 (exampleRequest false 102000000)), .within (.ensure 2), .within (.load 2),
    .within (.firstCheck 2), .within (.finish 2)]

def servedRevision : RequestPhase → Option Nat
  | .returned (.served _ row _) => some row.artifactRevision
  | _ => none

theorem restarted_artifact_described :
    ∃ server trustList row artifact,
      Transition.run (step transparentCrypto)
          (started GdsState.initial.db exampleSettings exampleSigner) restartedRun = some server ∧
        server.process.phases 2 = .returned (.served trustList row artifact) ∧
          DescribesArtifact transparentCrypto row artifact := by
  have computed : ((Transition.run (step transparentCrypto)
      (started GdsState.initial.db exampleSettings exampleSigner) restartedRun).map fun server =>
        servedRevision (server.process.phases 2)) = some (some 1) := by
    decide +kernel
  obtain ⟨server, reached, served⟩ := Option.map_eq_some_iff.mp computed
  have described := (returned_artifact_described transparentCrypto_ideal.complete exampleSettings
    exampleSigner reached).1
  cases phase : server.process.phases 2 with
  | returned outcome =>
      cases outcome with
      | served trustList row artifact =>
          exact ⟨server, trustList, row, artifact, reached, phase,
            (described 2 trustList row artifact phase).2⟩
      | _ =>
          rw [phase] at served
          cases served
  | _ =>
      rw [phase] at served
      cases served

end GdsServer

end OpcuaGds.Gds
