import OpcuaGds.Gds.ServedArtifact

/-! # Concurrent artifact requests

The threads of one GDS process, each with one request in some phase, next to table
changes and trust list builds. A request reads the trust list before it enters the
lock, so what it inserts may be of a version that is no longer the latest.
-/

namespace OpcuaGds.Gds

/-- How far the request of a thread has come. -/
inductive RequestPhase where
  | idle
  | requested (request : ArtifactRequest)
  /-- The latest version was found outdated, or there is none. -/
  | building (request : ArtifactRequest)
  | ensured (request : ArtifactRequest)
  /-- The list and the cache entry were read, outside the lock. -/
  | loaded (request : ArtifactRequest) (trustList : TrustList)
      (certs : List Database.TrustedCertificate) (cached : Option CacheEntry)
  /-- The first critical section asks for a regeneration. -/
  | due (request : ArtifactRequest) (trustList : TrustList)
      (certs : List Database.TrustedCertificate) (cached : Option CacheEntry)
  | checked (request : ArtifactRequest) (trustList : TrustList) (cached : Option CacheEntry)
      (outcome : Regeneration)
  | returned (served : Served)

/-- One process: the shared state and its threads. -/
structure GdsProcess (Thread : Type*) where
  shared : GdsState
  phases : Thread → RequestPhase

/-- The steps of the threads and of everyone else. -/
inductive ProcessStep (Thread : Type*) where
  | begin (thread : Thread) (request : ArtifactRequest)
  | ensure (thread : Thread)
  | buildList (thread : Thread)
  | load (thread : Thread)
  | firstCheck (thread : Thread)
  | secondCheck (thread : Thread)
  | finish (thread : Thread)
  | change (applications : List Application) (certificates : List Certificate)
      (packages : List CertificatePackage)
  | build (zone : Zone) (role : Role) (now : Int)

namespace GdsProcess

variable {Thread : Type*} [DecidableEq Thread] {PrivateKey PublicKey : Type}
  (crypto : Crypto PrivateKey PublicKey) (settings : RegenerationSettings)
  (signer : TrustArtifactSigner PrivateKey)

def initial : GdsProcess Thread where
  shared := .initial
  phases := fun _ => .idle

def setPhase (process : GdsProcess Thread) (thread : Thread) (phase : RequestPhase) :
    GdsProcess Thread :=
  { process with phases := Function.update process.phases thread phase }

/-- Whether `ensure_trust_list_current` goes on to build a version. -/
def needsBuild (db : Database) (request : ArtifactRequest) : Bool :=
  match db.latestTrustList? request.zone request.role with
  | some trustList => !db.isCurrent trustList
  | none => true

/-- One step; the two critical sections are atomic because they hold the lock and
no one else writes artifacts. -/
def step (process : GdsProcess Thread) : ProcessStep Thread → Option (GdsProcess Thread)
  | .begin thread request =>
      match process.phases thread with
      | .idle => some (process.setPhase thread (.requested request))
      | _ => none
  | .ensure thread =>
      match process.phases thread with
      | .requested request =>
          some (process.setPhase thread
            (if needsBuild process.shared.db request then .building request else .ensured request))
      | _ => none
  | .buildList thread =>
      match process.phases thread with
      | .building request =>
          some { process.setPhase thread (.ensured request) with
            shared := { process.shared with
              db := process.shared.db.buildTrustList request.zone request.role
                request.ensuredAt } }
      | _ => none
  | .load thread =>
      match process.phases thread with
      | .ensured request =>
          some (process.setPhase thread
            (match process.shared.db.latestTrustListWithCerts? request.zone request.role with
              | none => .returned .nothing
              | some (trustList, certs) =>
                  .loaded request trustList certs
                    (process.shared.cache request.zone request.role)))
      | _ => none
  | .firstCheck thread =>
      match process.phases thread with
      | .loaded request trustList certs cached =>
          let row := process.shared.db.latestTrustArtifact? request.zone request.role
          some (process.setPhase thread
            (match regenerationReason crypto settings signer trustList row request.forceRebuild
                request.source request.firstCheckAt with
              | none => .checked request trustList cached (.kept row)
              | some _ => .due request trustList certs cached))
      | _ => none
  | .secondCheck thread =>
      match process.phases thread with
      | .due request trustList certs cached =>
          let (shared, outcome) := regenerate crypto settings signer request trustList certs
            process.shared
          some { process.setPhase thread (.checked request trustList cached outcome) with
            shared := shared }
      | _ => none
  | .finish thread =>
      match process.phases thread with
      | .checked request trustList cached outcome =>
          let (shared, served) := Gds.finish request trustList cached (process.shared, outcome)
          some { process.setPhase thread (.returned served) with shared := shared }
      | _ => none
  | .change applications certificates packages =>
      let db := { process.shared.db with
        applications := applications
        certificates := certificates
        packages := packages }
      if db.WellFormed then
        some { process with shared := { process.shared with db := db } }
      else none
  | .build zone role now =>
      some { process with shared := { process.shared with
        db := process.shared.db.buildTrustList zone role now } }

end GdsProcess

/-- Artifacts of one zone and role carry versions in the order of their revisions. -/
def Database.VersionsFollowRevisions (db : Database) : Prop :=
  ∀ earlier ∈ db.trustArtifacts, ∀ later ∈ db.trustArtifacts, earlier.zone = later.zone →
    earlier.role = later.role → earlier.artifactRevision < later.artifactRevision →
      earlier.trustlistVersion ≤ later.trustlistVersion

instance (db : Database) : Decidable db.VersionsFollowRevisions :=
  inferInstanceAs (Decidable (∀ earlier ∈ db.trustArtifacts, ∀ later ∈ db.trustArtifacts,
    earlier.zone = later.zone → earlier.role = later.role →
      earlier.artifactRevision < later.artifactRevision →
        earlier.trustlistVersion ≤ later.trustlistVersion))

namespace Database

/-- No two artifacts of one zone and role have one revision. -/
def RevisionsUnique (db : Database) : Prop :=
  ∀ left ∈ db.trustArtifacts, ∀ right ∈ db.trustArtifacts, left.zone = right.zone →
    left.role = right.role → left.artifactRevision = right.artifactRevision → left = right

theorem artifactRevision_lt_new {db : Database} {zone : Zone} {role : Role} (version : Nat)
    (signed : SignedArtifact) (reason : String) {row : TrustArtifact}
    (member : row ∈ db.trustArtifacts) (sameZone : row.zone = zone) (sameRole : row.role = role) :
    row.artifactRevision <
      (db.newTrustArtifact zone role version signed reason).artifactRevision :=
  Nat.lt_succ_of_le
    (VersionedTable.le_maxVersion TrustArtifact.artifactRevision
      (mem_trustArtifactsOf.mpr ⟨member, sameZone, sameRole⟩))

theorem RevisionsUnique.insert {db : Database} (unique : db.RevisionsUnique) (zone : Zone)
    (role : Role) (version : Nat) (signed : SignedArtifact) (reason : String) :
    (db.insertTrustArtifact
      (db.newTrustArtifact zone role version signed reason)).RevisionsUnique := by
  intro left leftMember right rightMember sameZone sameRole same
  rcases List.mem_append.mp leftMember with leftOld | leftNew
  · rcases List.mem_append.mp rightMember with rightOld | rightNew
    · exact unique left leftOld right rightOld sameZone sameRole same
    · rw [List.mem_singleton.mp rightNew] at sameZone sameRole same
      have below := artifactRevision_lt_new version signed reason leftOld sameZone sameRole
      exact absurd same below.ne
  · rcases List.mem_append.mp rightMember with rightOld | rightNew
    · rw [List.mem_singleton.mp leftNew] at sameZone sameRole same
      have below :=
        artifactRevision_lt_new version signed reason rightOld sameZone.symm sameRole.symm
      exact absurd same.symm below.ne
    · rw [List.mem_singleton.mp leftNew, List.mem_singleton.mp rightNew]

/-- Where versions follow revisions, the latest row has the greatest version. -/
theorem trustlistVersion_le_latest {db : Database} (unique : db.RevisionsUnique)
    (ordered : db.VersionsFollowRevisions) {row latest : TrustArtifact}
    (found : db.latestTrustArtifact? row.zone row.role = some latest)
    (member : row ∈ db.trustArtifacts) : row.trustlistVersion ≤ latest.trustlistVersion := by
  obtain ⟨latestMember, sameZone, sameRole⟩ := latestTrustArtifact?_mem found
  have revision : row.artifactRevision ≤ latest.artifactRevision :=
    VersionedTable.le_latest? found (mem_trustArtifactsOf.mpr ⟨member, rfl, rfl⟩)
  rcases revision.lt_or_eq with lower | same
  · exact ordered row member latest latestMember sameZone.symm sameRole.symm lower
  · rw [unique row member latest latestMember sameZone.symm sameRole.symm same]

/-- An insertion keeps the order exactly when the latest version is not above the
new one. -/
theorem versionsFollowRevisions_insert_iff {db : Database} (unique : db.RevisionsUnique)
    (ordered : db.VersionsFollowRevisions) (zone : Zone) (role : Role) (version : Nat)
    (signed : SignedArtifact) (reason : String) :
    (db.insertTrustArtifact
        (db.newTrustArtifact zone role version signed reason)).VersionsFollowRevisions ↔
      ∀ row, db.latestTrustArtifact? zone role = some row → row.trustlistVersion ≤ version := by
  constructor
  · intro after row latest
    obtain ⟨member, sameZone, sameRole⟩ := latestTrustArtifact?_mem latest
    exact after row (List.mem_append_left _ member) _
      (List.mem_append_right _ (List.mem_singleton_self _)) sameZone sameRole
      (artifactRevision_lt_new version signed reason member sameZone sameRole)
  · intro bound earlier earlierMember later laterMember sameZone sameRole before
    rcases List.mem_append.mp laterMember with laterOld | laterNew
    · rcases List.mem_append.mp earlierMember with earlierOld | earlierNew
      · exact ordered earlier earlierOld later laterOld sameZone sameRole before
      · rw [List.mem_singleton.mp earlierNew] at sameZone sameRole before
        exact absurd before
          (artifactRevision_lt_new version signed reason laterOld sameZone.symm
            sameRole.symm).asymm
    · rw [List.mem_singleton.mp laterNew] at sameZone sameRole before ⊢
      rcases List.mem_append.mp earlierMember with earlierOld | earlierNew
      · change earlier.zone = zone at sameZone
        change earlier.role = role at sameRole
        subst sameZone sameRole
        cases latest : db.latestTrustArtifact? earlier.zone earlier.role with
        | none =>
            have empty := VersionedTable.latest?_eq_none_iff.mp latest
            have present := mem_trustArtifactsOf.mpr ⟨earlierOld, rfl, rfl⟩
            rw [empty] at present
            cases present
        | some row =>
            exact (trustlistVersion_le_latest unique ordered latest earlierOld).trans
              (bound row latest)
      · rw [List.mem_singleton.mp earlierNew] at before
        exact absurd before (lt_irrefl _)

end Database

namespace GdsProcess

variable {Thread : Type*} [DecidableEq Thread] {PrivateKey PublicKey : Type}
  {crypto : Crypto PrivateKey PublicKey} {settings : RegenerationSettings}
  {signer : TrustArtifactSigner PrivateKey}

/-- A request that enters the second critical section, is not held back by the rate
limit and gets what it needs for an artifact, read a list version that is not below
the one of the latest stored artifact. -/
def RegeneratesUpToDate (settings : RegenerationSettings) (signer : TrustArtifactSigner PrivateKey)
    (before : GdsProcess Thread) (event : ProcessStep Thread) (_ : GdsProcess Thread) : Prop :=
  ∀ thread request trustList certs cached, event = .secondCheck thread →
    before.phases thread = .due request trustList certs cached →
      isRateLimited settings request before.shared = false →
        request.material.isSome →
          (request.generatedAt.addMicros? (signer.ttlSeconds * 1000000)).isSome →
            ∀ row, before.shared.db.latestTrustArtifact? request.zone request.role = some row →
              row.trustlistVersion ≤ trustList.version

/-- Every step but the second critical section leaves the artifacts alone. -/
theorem step_trustArtifacts {before after : GdsProcess Thread} {event : ProcessStep Thread}
    (stepped : step crypto settings signer before event = some after)
    (other : ∀ thread, event ≠ .secondCheck thread) :
    after.shared.db.trustArtifacts = before.shared.db.trustArtifacts := by
  cases event with
  | secondCheck thread => exact absurd rfl (other thread)
  | begin thread request =>
      simp only [step] at stepped
      split at stepped <;> cases stepped
      rfl
  | ensure thread =>
      simp only [step] at stepped
      split at stepped <;> cases stepped
      rfl
  | buildList thread =>
      simp only [step] at stepped
      split at stepped <;> cases stepped
      rfl
  | load thread =>
      simp only [step] at stepped
      split at stepped <;> cases stepped
      rfl
  | firstCheck thread =>
      simp only [step] at stepped
      split at stepped <;> cases stepped
      rfl
  | finish thread =>
      simp only [step] at stepped
      split at stepped <;> cases stepped
      rename_i request trustList cached outcome _
      cases outcome with
      | raised => rfl
      | kept row => cases row <;> rfl
      | inserted row artifact => rfl
  | change applications certificates packages =>
      simp only [step] at stepped
      split at stepped <;> cases stepped
      rfl
  | build zone role now =>
      cases stepped
      rfl

theorem versionsFollowRevisions_congr {db other : Database}
    (same : other.trustArtifacts = db.trustArtifacts) :
    other.VersionsFollowRevisions ↔ db.VersionsFollowRevisions := by
  rw [Database.VersionsFollowRevisions, Database.VersionsFollowRevisions, same]

theorem revisionsUnique_congr {db other : Database}
    (same : other.trustArtifacts = db.trustArtifacts) :
    other.RevisionsUnique ↔ db.RevisionsUnique := by
  rw [Database.RevisionsUnique, Database.RevisionsUnique, same]

variable (crypto signer) in
/-- The signer builds an artifact whenever its expiry is a date. -/
theorem isSome_buildSignedArtifact (trustList : TrustList) (certs : List Json)
    (material : VaultMaterial) (artifactRevision : Nat) (reason : String)
    (generatedAt : Timestamp.DateTime) :
    (signer.buildSignedArtifact crypto trustList certs material artifactRevision reason
        generatedAt).isSome =
      (generatedAt.addMicros? (signer.ttlSeconds * 1000000)).isSome := by
  unfold TrustArtifactSigner.buildSignedArtifact
  cases generatedAt.addMicros? (signer.ttlSeconds * 1000000) <;> rfl

variable (crypto settings signer) in
/-- What the second critical section does to the stored artifacts, by what the
request brings along. -/
theorem regenerate_trustArtifacts (request : ArtifactRequest) (trustList : TrustList)
    (certs : List Database.TrustedCertificate) (state : GdsState) :
    ((regenerate crypto settings signer request trustList certs state).1 = state ∧
      (isRateLimited settings request state = false → request.material.isSome →
        (request.generatedAt.addMicros? (signer.ttlSeconds * 1000000)).isSome →
          ∀ row, state.db.latestTrustArtifact? request.zone request.role = some row →
            row.trustlistVersion ≤ trustList.version)) ∨
    (∃ signed reason,
      (regenerate crypto settings signer request trustList certs state).1.db =
        state.db.insertTrustArtifact (state.db.newTrustArtifact request.zone request.role
          trustList.version signed reason) ∧
      isRateLimited settings request state = false ∧ request.material.isSome ∧
      (request.generatedAt.addMicros? (signer.ttlSeconds * 1000000)).isSome) := by
  unfold regenerate
  simp only
  split
  · rename_i kept
    exact .inl ⟨rfl, fun _ _ _ row found => (regenerationReason_none kept row found).le⟩
  · split
    · rename_i limited
      exact .inl ⟨rfl, fun allowed => absurd (limited.symm.trans allowed) (by decide)⟩
    · rename_i reason _ notLimited
      split
      · rename_i failed
        refine .inl ⟨rfl, fun _ given dated => ?_⟩
        obtain ⟨material, present⟩ := Option.isSome_iff_exists.mp given
        rw [present, Option.bind_some, ← Option.not_isSome_iff_eq_none,
          isSome_buildSignedArtifact] at failed
        exact absurd dated failed
      · rename_i signed made
        obtain ⟨material, present, built⟩ := Option.bind_eq_some_iff.mp made
        have dated : (request.generatedAt.addMicros? (signer.ttlSeconds * 1000000)).isSome := by
          rw [← isSome_buildSignedArtifact crypto signer, built, Option.isSome_some]
        exact .inr ⟨signed, reason, rfl, by simpa using notLimited,
          Option.isSome_iff_exists.mpr ⟨material, present⟩, dated⟩

theorem secondCheck_eq_some {before after : GdsProcess Thread} {thread : Thread}
    (stepped : step crypto settings signer before (.secondCheck thread) = some after) :
    ∃ request trustList certs cached,
      before.phases thread = .due request trustList certs cached ∧
        after.shared =
          (regenerate crypto settings signer request trustList certs before.shared).1 := by
  simp only [step] at stepped
  split at stepped
  · rename_i request trustList certs cached phase
    cases stepped
    exact ⟨request, trustList, certs, cached, phase, rfl⟩
  · cases stepped

theorem revisionsUnique_step {before after : GdsProcess Thread} {event : ProcessStep Thread}
    (unique : before.shared.db.RevisionsUnique)
    (stepped : step crypto settings signer before event = some after) :
    after.shared.db.RevisionsUnique := by
  by_cases check : ∃ thread, event = .secondCheck thread
  · obtain ⟨thread, rfl⟩ := check
    obtain ⟨request, trustList, certs, cached, _, shared⟩ := secondCheck_eq_some stepped
    rw [shared]
    rcases regenerate_trustArtifacts crypto settings signer request trustList certs
      before.shared with ⟨same, _⟩ | ⟨signed, reason, inserted, _⟩
    · rw [same]
      exact unique
    · rw [inserted]
      exact Database.RevisionsUnique.insert unique _ _ _ _ _
  · refine (revisionsUnique_congr (step_trustArtifacts stepped fun thread same => ?_)).mpr unique
    exact check ⟨thread, same⟩

/-- One step keeps versions in the order of revisions exactly when it regenerates, if
at all, for an up-to-date version. -/
theorem versionsFollowRevisions_step_iff {before after : GdsProcess Thread}
    {event : ProcessStep Thread} (unique : before.shared.db.RevisionsUnique)
    (ordered : before.shared.db.VersionsFollowRevisions)
    (stepped : step crypto settings signer before event = some after) :
    after.shared.db.VersionsFollowRevisions ↔
      RegeneratesUpToDate settings signer before event after := by
  by_cases check : ∃ thread, event = .secondCheck thread
  · obtain ⟨thread, rfl⟩ := check
    obtain ⟨request, trustList, certs, cached, phase, shared⟩ := secondCheck_eq_some stepped
    have condition : RegeneratesUpToDate settings signer before (.secondCheck thread) after ↔
        (isRateLimited settings request before.shared = false → request.material.isSome →
          (request.generatedAt.addMicros? (signer.ttlSeconds * 1000000)).isSome →
            ∀ row, before.shared.db.latestTrustArtifact? request.zone request.role = some row →
              row.trustlistVersion ≤ trustList.version) := by
      constructor
      · intro upToDate
        exact upToDate thread request trustList certs cached rfl phase
      · intro bound other _ _ _ _ same otherPhase
        cases same
        rw [phase] at otherPhase
        cases otherPhase
        exact bound
    rw [condition, shared]
    rcases regenerate_trustArtifacts crypto settings signer request trustList certs
        before.shared with
      ⟨same, bound⟩ | ⟨signed, reason, inserted, allowed, given, dated⟩
    · rw [same]
      exact iff_of_true ordered bound
    · rw [inserted, Database.versionsFollowRevisions_insert_iff unique ordered]
      exact ⟨fun bound _ _ _ => bound, fun bound => bound allowed given dated⟩
  · have unchanged := step_trustArtifacts stepped fun thread same => check ⟨thread, same⟩
    refine iff_of_true ((versionsFollowRevisions_congr unchanged).mpr ordered) ?_
    intro thread _ _ _ _ same
    exact absurd ⟨thread, same⟩ check

/-- In a run of any number of threads, versions follow revisions in every state
reached if and only if no request regenerates for a version below the latest stored
one. -/
theorem versions_follow_revisions_iff (crypto : Crypto PrivateKey PublicKey)
    (settings : RegenerationSettings) (signer : TrustArtifactSigner PrivateKey)
    (events : List (ProcessStep Thread)) :
    Transition.EveryStep (step crypto settings signer)
        (fun _ _ after => after.shared.db.VersionsFollowRevisions) initial events ↔
      Transition.EveryStep (step crypto settings signer) (RegeneratesUpToDate settings signer)
        initial events :=
  Transition.EveryStep.invariant_iff
    (fun process : GdsProcess Thread => process.shared.db.RevisionsUnique)
    (fun _ _ _ unique stepped => revisionsUnique_step unique stepped)
    (fun _ _ _ unique ordered stepped => versionsFollowRevisions_step_iff unique ordered stepped)
    events (fun _ member => nomatch member) (fun _ member => nomatch member)

/-! A rebuild that read version 1 waits for the lock while a second request builds
version 2 and stores its artifact. -/

def staleRun : List (ProcessStep Bool) :=
  [.change [exampleApplication] [exampleCertificate .active none] [],
    .begin true (exampleRequest true 100000000), .ensure true, .buildList true, .load true,
    .firstCheck true,
    .change [exampleApplication] [exampleCertificate .revoked (some 6)] [],
    .begin false (exampleRequest false 101000000), .ensure false, .buildList false, .load false,
    .firstCheck false, .secondCheck false, .finish false, .secondCheck true]

def storedVersions (process : GdsProcess Bool) : List (Nat × Nat) × Bool :=
  (process.shared.db.trustArtifacts.map fun row => (row.artifactRevision, row.trustlistVersion),
    process.shared.db.VersionsFollowRevisions)

/-- Revision 1 is of version 2 and revision 2 of version 1. -/
theorem stale_rebuild_lowers_version :
    ((Transition.run (step transparentCrypto exampleSettings exampleSigner) initial
        staleRun).map storedVersions) = some ([(1, 2), (2, 1)], false) ∧
      ¬ Transition.EveryStep (step transparentCrypto exampleSettings exampleSigner)
        (fun _ _ after => after.shared.db.VersionsFollowRevisions) initial staleRun := by
  have computed : ((Transition.run (step transparentCrypto exampleSettings exampleSigner) initial
      staleRun).map storedVersions) = some ([(1, 2), (2, 1)], false) := by
    decide +kernel
  refine ⟨computed, fun every => ?_⟩
  obtain ⟨last, reached, stored⟩ := Option.map_eq_some_iff.mp computed
  have ordered : last.shared.db.VersionsFollowRevisions :=
    every.final (fun _ member => nomatch member) reached
  have disordered := (Prod.mk.inj stored).2
  simp only [ordered, decide_true] at disordered
  cases disordered

end GdsProcess

end OpcuaGds.Gds
