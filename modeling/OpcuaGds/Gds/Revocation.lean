import OpcuaGds.Gds.ServedArtifact

/-! # Revocation of a certificate

`revoke_certificate` from the choice of the certificate on: Vault, the certificate
row, its packages, the trust list of the application's own zone and role, and the
artifact of that list. Lists of other zones and roles that hold the certificate are
not rebuilt.
-/

namespace OpcuaGds.Gds

/-- `RevokeCertificateBody`. -/
structure RevokeCertificateBody where
  certificateId : Option Nat
  packageId : Option String
  fingerprintSha256 : Option String
  reason : String

/-- What the surroundings answer during one call; `none` and `false` stand for
exceptions. The clock readings and the Vault material of the rebuild come as a
request whose zone and role are those of the application. -/
structure RevocationAnswers where
  actor : String
  correlationId : String
  vaultRevokes : Bool
  markedAt : Option Int
  packageWrites : String → Bool
  builtAt : Option Int
  rebuild : ArtifactRequest
  crl : Option Json

/-- The answer of the endpoint. -/
inductive RevocationOutcome where
  | refused (status : Nat) (errorCode : String)
  /-- An exception on the way: status 500, with what was done so far done. -/
  | failed
  | revoked (certificateId : Nat) (packageIds : List String)
  deriving DecidableEq

namespace Database

def certificateByFingerprint? (db : Database) (fingerprint : String) : Option Certificate :=
  db.certificates.find? fun certificate => certificate.fingerprintSha256 = fingerprint

/-- `get_certificate_package`. -/
def package? (db : Database) (packageId : String) : Option CertificatePackage :=
  db.packages.find? fun package => package.packageId = packageId

/-- `_resolve_revoke_certificate`. -/
def resolveRevokeCertificate (db : Database) (body : RevokeCertificateBody) :
    Except String (Option Certificate) :=
  let byId := body.certificateId.filter (· ≠ 0)
  let byPackage := body.packageId.filter (· ≠ "")
  let byFingerprint := body.fingerprintSha256.filter (· ≠ "")
  match byId, byPackage, byFingerprint with
  | none, some packageId, none =>
      .ok (((db.package? packageId).bind CertificatePackage.certificateId).bind db.certificate?)
  | some certificateId, none, none => .ok (db.certificate? certificateId)
  | none, none, some fingerprint =>
      .ok (db.certificateByFingerprint? (PythonText.lower (PythonText.strip fingerprint)))
  | _, _, _ => .error "exactly_one_certificate_selector_required"

/-- `list_certificate_packages_for_certificate`: newest generation first. -/
def packagesForCertificate (db : Database) (certificateId : Nat) : List CertificatePackage :=
  (db.packages.filter fun package => package.certificateId = some certificateId).insertionSort
    fun left right => right.generation ≤ left.generation

/-- `mark_certificate_revoked`. -/
def markCertificateRevoked (db : Database) (certificateId : Nat) (now : Int) : Database :=
  { db with certificates := db.certificates.map fun certificate =>
      if certificate.id = certificateId then
        { certificate with
          status := .revoked
          revokedAt := some (certificate.revokedAt.getD now) }
      else certificate }

/-- `update_certificate_package_lifecycle` without anyone in between. -/
def updatePackageLifecycle (db : Database) (packageId : String) (update : LifecycleUpdate) :
    Database :=
  match requestedState update.requested, db.package? packageId with
  | .ok requested, some package =>
      let current := package.lifecycleState
      { db with
        packages := db.packages.map fun row =>
          if row.packageId = packageId then
            { row with toPackageRow := row.toPackageRow.store (targetState requested current) }
          else row
        packageEvents := db.packageEvents ++ [lifecycleEvent packageId update requested current] }
  | _, _ => db

/-- The loop over the packages; `false` when one of the writes raises. -/
def revokePackages (update : LifecycleUpdate) (packageWrites : String → Bool) :
    List String → Database → Database × Bool
  | [], db => (db, true)
  | packageId :: rest, db =>
      if packageWrites packageId then
        revokePackages update packageWrites rest (db.updatePackageLifecycle packageId update)
      else (db, false)

end Database

section Revocation

variable {PrivateKey PublicKey : Type} (crypto : Crypto PrivateKey PublicKey)
  (settings : RegenerationSettings)

def GdsState.withDb (state : GdsState) (db : Database) : GdsState := { state with db := db }

@[simp] theorem GdsState.withDb_db (state : GdsState) (db : Database) :
    (state.withDb db).db = db := rfl

/-- The request of the rebuild for a zone and role. -/
def RevocationAnswers.rebuildRequest (answers : RevocationAnswers) (zone : Zone) (role : Role) :
    ArtifactRequest :=
  { answers.rebuild with
    zone := zone
    role := role
    forceRebuild := true
    source := "api" }

/-- The rebuild of the list and of the artifact, and the look at the CRL. -/
def rebuildAfterRevocation (signer : Option (TrustArtifactSigner PrivateKey))
    (answers : RevocationAnswers) (zone : Zone) (role : Role) (state : GdsState) :
    GdsState × Bool :=
  match answers.builtAt with
  | none => (state, false)
  | some builtAt =>
      let state := state.withDb (state.db.buildTrustList zone role builtAt)
      match signer with
      | none => (state, answers.crl.isSome)
      | some signer =>
          match getOrRegenerateSignedArtifact crypto settings signer
              (answers.rebuildRequest zone role) state with
          | (state, .raised) => (state, false)
          | (state, _) => (state, answers.crl.isSome)

/-- The steps that may raise. -/
def revokeSteps (signer : Option (TrustArtifactSigner PrivateKey)) (answers : RevocationAnswers)
    (reason : String) (certificate : Certificate) (application : Application) (state : GdsState) :
    GdsState × Bool :=
  if certificate.status ≠ .revoked ∧ answers.vaultRevokes = false then (state, false)
  else
    match answers.markedAt with
    | none => (state, false)
    | some markedAt =>
        let packageIds := (state.db.packagesForCertificate certificate.id).map
          fun package => package.packageId
        let update := revocationUpdate answers.actor certificate.id
          (.str certificate.fingerprintSha256) (.str reason) answers.correlationId
        match Database.revokePackages update answers.packageWrites packageIds
            (state.db.markCertificateRevoked certificate.id markedAt) with
        | (db, false) => (state.withDb db, false)
        | (db, true) =>
            rebuildAfterRevocation crypto settings signer answers application.zone application.role
              (state.withDb db)

/-- `revoke_certificate` after the checks on the caller and on Vault. -/
def revokeCertificate (signer : Option (TrustArtifactSigner PrivateKey))
    (body : RevokeCertificateBody) (answers : RevocationAnswers) (state : GdsState) :
    GdsState × RevocationOutcome :=
  match state.db.resolveRevokeCertificate body with
  | .error code => (state, .refused 400 code)
  | .ok found =>
      match found.bind fun certificate =>
          (state.db.application? certificate.applicationId).map (certificate, ·) with
      | none => (state, .refused 404 "certificate_not_found")
      | some (certificate, application) =>
          if PythonText.strip (certificate.serialNumber.getD "") = "" then
            (state, .refused 400 "certificate_serial_missing")
          else
            match revokeSteps crypto settings signer answers body.reason certificate application
                state with
            | (state, false) => (state, .failed)
            | (after, true) =>
                (after, .revoked certificate.id
                  ((state.db.packagesForCertificate certificate.id).map
                    fun package => package.packageId))

end Revocation

/-! ## What the steps before the rebuild leave alone -/

namespace Database

/-- Two databases with the same lists, artifacts and applications and with
certificates and packages that refer alike. -/
structure SameLists (before after : Database) : Prop where
  trustLists : after.trustLists = before.trustLists
  trustArtifacts : after.trustArtifacts = before.trustArtifacts

theorem SameLists.latestTrustList? {before after : Database} (same : SameLists before after)
    (zone : Zone) (role : Role) :
    after.latestTrustList? zone role = before.latestTrustList? zone role := by
  simp only [Database.latestTrustList?, trustListsOf, same.trustLists]

theorem SameLists.latestTrustArtifact? {before after : Database} (same : SameLists before after)
    (zone : Zone) (role : Role) :
    after.latestTrustArtifact? zone role = before.latestTrustArtifact? zone role := by
  simp only [Database.latestTrustArtifact?, trustArtifactsOf, same.trustArtifacts]

/-- No certificate of this identifier is active. -/
def IsRevoked (db : Database) (certificateId : Nat) : Prop :=
  ∀ certificate ∈ db.certificates, certificate.id = certificateId →
    Certificate.isActive certificate = false

theorem map_id_markCertificateRevoked (db : Database) (certificateId : Nat) (now : Int) :
    (db.markCertificateRevoked certificateId now).certificates.map Certificate.id =
      db.certificates.map Certificate.id := by
  simp only [markCertificateRevoked, List.map_map]
  refine List.map_congr_left fun certificate _ => ?_
  simp only [Function.comp_apply]
  split <;> rfl

theorem isRevoked_markCertificateRevoked (db : Database) (certificateId : Nat) (now : Int) :
    (db.markCertificateRevoked certificateId now).IsRevoked certificateId := by
  intro certificate member same
  obtain ⟨old, _, rfl⟩ := List.mem_map.mp member
  split at same
  · rename_i chosen
    rw [if_pos chosen]
    rfl
  · rename_i other
    exact absurd same other

/-- A certificate keeps a row of its identifier. -/
theorem exists_id_iff {db other : Database}
    (same : other.certificates.map Certificate.id = db.certificates.map Certificate.id)
    (id : Nat) :
    (∃ certificate ∈ other.certificates, certificate.id = id) ↔
      ∃ certificate ∈ db.certificates, certificate.id = id := by
  rw [← List.mem_map, ← List.mem_map, same]

theorem WellFormed.markCertificateRevoked {db : Database} (wellFormed : db.WellFormed)
    (certificateId : Nat) (now : Int) :
    (db.markCertificateRevoked certificateId now).WellFormed := by
  have ids := map_id_markCertificateRevoked db certificateId now
  refine ⟨ids.symm ▸ wellFormed.certificateIds, wellFormed.applicationIds, ?_, ?_, ?_⟩
  · intro certificate member
    obtain ⟨old, oldMember, rfl⟩ := List.mem_map.mp member
    obtain ⟨application, stored, owner⟩ := wellFormed.certificateOwner old oldMember
    refine ⟨application, stored, owner.trans ?_⟩
    split <;> rfl
  · exact fun package member id has =>
      (exists_id_iff ids id).mpr (wellFormed.packageCertificate package member id has)
  · exact fun trustList member id listed =>
      (exists_id_iff ids id).mpr (wellFormed.trustListMember trustList member id listed)

/-- A lifecycle update touches packages and package events only. -/
theorem updatePackageLifecycle_tables (db : Database) (packageId : String)
    (update : LifecycleUpdate) :
    SameLists db (db.updatePackageLifecycle packageId update) ∧
      (db.updatePackageLifecycle packageId update).certificates = db.certificates ∧
      (db.updatePackageLifecycle packageId update).applications = db.applications := by
  unfold updatePackageLifecycle
  split
  · exact ⟨⟨rfl, rfl⟩, rfl, rfl⟩
  · exact ⟨⟨rfl, rfl⟩, rfl, rfl⟩

theorem WellFormed.updatePackageLifecycle {db : Database} (wellFormed : db.WellFormed)
    (packageId : String) (update : LifecycleUpdate) :
    (db.updatePackageLifecycle packageId update).WellFormed := by
  unfold Database.updatePackageLifecycle
  split
  · refine ⟨wellFormed.certificateIds, wellFormed.applicationIds, wellFormed.certificateOwner, ?_,
      wellFormed.trustListMember⟩
    intro package member id has
    obtain ⟨old, oldMember, rfl⟩ := List.mem_map.mp member
    refine wellFormed.packageCertificate old oldMember id ?_
    split at has <;> exact has
  · exact wellFormed

/-- The loop over the packages touches packages and package events only. -/
theorem revokePackages_tables (update : LifecycleUpdate) (packageWrites : String → Bool)
    (packageIds : List String) (db : Database) :
    SameLists db (revokePackages update packageWrites packageIds db).1 ∧
      (revokePackages update packageWrites packageIds db).1.certificates = db.certificates := by
  induction packageIds generalizing db with
  | nil => exact ⟨⟨rfl, rfl⟩, rfl⟩
  | cons packageId rest ih =>
      rw [revokePackages]
      split
      · obtain ⟨sameHere, certificates, _⟩ := updatePackageLifecycle_tables db packageId update
        obtain ⟨same, later⟩ := ih (db.updatePackageLifecycle packageId update)
        exact ⟨⟨same.trustLists.trans sameHere.trustLists,
          same.trustArtifacts.trans sameHere.trustArtifacts⟩, later.trans certificates⟩
      · exact ⟨⟨rfl, rfl⟩, rfl⟩

theorem WellFormed.revokePackages (update : LifecycleUpdate) (packageWrites : String → Bool)
    (packageIds : List String) {db : Database} (wellFormed : db.WellFormed) :
    (revokePackages update packageWrites packageIds db).1.WellFormed := by
  induction packageIds generalizing db with
  | nil => exact wellFormed
  | cons packageId rest ih =>
      rw [Database.revokePackages]
      split
      · exact ih (wellFormed.updatePackageLifecycle packageId update)
      · exact wellFormed

/-- A list built while a certificate is revoked does not hold it. -/
theorem IsRevoked.notMem_desired {db : Database} {certificateId : Nat}
    (revoked : db.IsRevoked certificateId) (zone : Zone) (role : Role) :
    certificateId ∉ db.desiredTrustlistCertificateIds zone role := by
  intro desired
  obtain ⟨certificate, member, same, active⟩ := desired_isActive desired
  rw [revoked certificate member same] at active
  cases active

end Database

/-! ## Where a revoked certificate is left -/

/-- The latest list of a place, if any, and the latest artifact do not hold the
certificate. -/
structure Database.FreeOf (db : Database) (certificateId : Nat) (zone : Zone) (role : Role) :
    Prop where
  list : ∀ trustList, db.latestTrustList? zone role = some trustList →
    certificateId ∉ trustList.members
  artifact : ∀ row, db.latestTrustArtifact? zone role = some row →
    certificateId ∉ artifactCertificateIds row.artifactJson

/-- Every place that has a list is free of the certificate. -/
def Database.FreeEverywhere (db : Database) (certificateId : Nat) : Prop :=
  ∀ zone role, (db.latestTrustList? zone role).isSome → db.FreeOf certificateId zone role

/-- Before the call, only the application's own place may hold the certificate; if no
artifact can be signed, its own artifact may not either. -/
def Database.HeldOnlyAtHome (db : Database) (certificateId : Nat) (zone : Zone) (role : Role)
    (canSign : Bool) : Prop :=
  (∀ other kind, ¬(zone = other ∧ role = kind) → (db.latestTrustList? other kind).isSome →
      db.FreeOf certificateId other kind) ∧
    (canSign = false → ∀ row, db.latestTrustArtifact? zone role = some row →
      certificateId ∉ artifactCertificateIds row.artifactJson)

theorem Database.freeOf_congr {before after : Database} {zone : Zone} {role : Role}
    (lists : after.latestTrustList? zone role = before.latestTrustList? zone role)
    (artifacts : after.latestTrustArtifact? zone role = before.latestTrustArtifact? zone role)
    (certificateId : Nat) :
    after.FreeOf certificateId zone role ↔ before.FreeOf certificateId zone role := by
  constructor
  · intro free
    exact ⟨lists ▸ free.list, artifacts ▸ free.artifact⟩
  · intro free
    exact ⟨lists.symm ▸ free.list, artifacts.symm ▸ free.artifact⟩

section Revocation

variable {PrivateKey PublicKey : Type} {crypto : Crypto PrivateKey PublicKey}
  {settings : RegenerationSettings}

/-- The rebuild frees the place it is for and no other. -/
theorem rebuildAfterRevocation_places {signer : Option (TrustArtifactSigner PrivateKey)}
    {answers : RevocationAnswers} {zone : Zone} {role : Role} {state after : GdsState}
    (wellFormed : state.db.WellFormed) {certificateId : Nat}
    (revoked : state.db.IsRevoked certificateId)
    (completed : rebuildAfterRevocation crypto settings signer answers zone role state =
      (after, true)) :
    (∀ other kind, ¬(zone = other ∧ role = kind) →
      after.db.latestTrustList? other kind = state.db.latestTrustList? other kind ∧
        after.db.latestTrustArtifact? other kind = state.db.latestTrustArtifact? other kind) ∧
      (after.db.latestTrustList? zone role).isSome ∧
      (after.db.FreeOf certificateId zone role ↔
        (signer.isSome = false → ∀ row, state.db.latestTrustArtifact? zone role = some row →
          certificateId ∉ artifactCertificateIds row.artifactJson)) := by
  unfold rebuildAfterRevocation at completed
  split at completed
  · cases completed
  · rename_i builtAt _
    simp only at completed
    split at completed
    · obtain ⟨rfl, _⟩ := Prod.mk.inj completed
      refine ⟨fun other kind distinct =>
        ⟨state.db.latestTrustList?_buildTrustList_of_ne distinct builtAt, rfl⟩, ?_, ?_⟩
      · rw [GdsState.withDb_db, state.db.latestTrustList?_buildTrustList_self, Option.isSome_some]
      · constructor
        · exact fun free _ => free.artifact
        · refine fun artifacts => ⟨fun trustList latest => ?_, artifacts rfl⟩
          rw [GdsState.withDb_db, state.db.latestTrustList?_buildTrustList_self] at latest
          cases latest
          exact fun listed => revoked.notMem_desired zone role (List.mem_dedup.mp listed)
    · rename_i signer
      split at completed
      · cases completed
      · rename_i next served notRaised called
        obtain ⟨rfl, _⟩ := Prod.mk.inj completed
        obtain ⟨trustList, row, rebuilt⟩ :=
          getOrRegenerate_forced (wellFormed.buildTrustList zone role builtAt) rfl called
            notRaised
        have absent : certificateId ∉ trustList.members := fun listed =>
          revoked.notMem_desired zone role ((rebuilt.members certificateId).mp listed)
        refine ⟨fun other kind distinct =>
          ⟨(rebuilt.otherLists other kind distinct).trans
            (state.db.latestTrustList?_buildTrustList_of_ne distinct builtAt),
            rebuilt.otherArtifacts other kind distinct⟩,
          Option.isSome_of_eq_some rebuilt.latestList, iff_of_true ⟨?_, ?_⟩ ?_⟩
        · intro list latest
          cases rebuilt.latestList.symm.trans latest
          exact absent
        · intro artifact latest
          cases rebuilt.latestArtifact.symm.trans latest
          exact fun listed => absent (rebuilt.listed.mem_iff.mp listed)
        · exact fun absentSigner => absurd absentSigner (by simp)

/-- The steps of a completed call: the certificate is revoked, then its place is
rebuilt from tables whose lists and artifacts are the old ones. -/
theorem revokeSteps_completed {signer : Option (TrustArtifactSigner PrivateKey)}
    {answers : RevocationAnswers} {reason : String} {certificate : Certificate}
    {application : Application} {state after : GdsState} (wellFormed : state.db.WellFormed)
    (completed : revokeSteps crypto settings signer answers reason certificate application state =
      (after, true)) :
    ∃ marked : Database, Database.SameLists state.db marked ∧ marked.WellFormed ∧
      marked.IsRevoked certificate.id ∧
      rebuildAfterRevocation crypto settings signer answers application.zone application.role
        (state.withDb marked) = (after, true) := by
  unfold revokeSteps at completed
  split at completed
  · cases completed
  · split at completed
    · cases completed
    · rename_i markedAt _
      simp only at completed
      obtain ⟨same, certificates⟩ := Database.revokePackages_tables
        (revocationUpdate answers.actor certificate.id (.str certificate.fingerprintSha256)
          (.str reason) answers.correlationId) answers.packageWrites
        ((state.db.packagesForCertificate certificate.id).map fun package => package.packageId)
        (state.db.markCertificateRevoked certificate.id markedAt)
      have formed := (wellFormed.markCertificateRevoked certificate.id markedAt).revokePackages
        (revocationUpdate answers.actor certificate.id (.str certificate.fingerprintSha256)
          (.str reason) answers.correlationId) answers.packageWrites
        ((state.db.packagesForCertificate certificate.id).map fun package => package.packageId)
      split at completed
      · cases completed
      · rename_i marked written
        rw [written] at same certificates formed
        refine ⟨marked, ⟨same.trustLists, same.trustArtifacts⟩, formed, ?_, completed⟩
        intro row member
        rw [certificates] at member
        exact Database.isRevoked_markCertificateRevoked state.db certificate.id markedAt row member

/-- A call that answers with a revocation chose a stored certificate with its
application, and completed its steps. -/
theorem revokeCertificate_revoked {signer : Option (TrustArtifactSigner PrivateKey)}
    {body : RevokeCertificateBody} {answers : RevocationAnswers} {state after : GdsState}
    {certificateId : Nat} {packageIds : List String}
    (called : revokeCertificate crypto settings signer body answers state =
      (after, .revoked certificateId packageIds)) :
    ∃ certificate application, state.db.resolveRevokeCertificate body = .ok (some certificate) ∧
      certificate.id = certificateId ∧
      state.db.application? certificate.applicationId = some application ∧
      revokeSteps crypto settings signer answers body.reason certificate application state =
        (after, true) := by
  unfold revokeCertificate at called
  split at called
  · cases called
  · rename_i found resolved
    split at called
    · cases called
    · rename_i certificate application joined
      split at called
      · cases called
      · split at called
        · cases called
        · rename_i next completed
          cases called
          obtain ⟨chosen, rfl, owner⟩ := Option.bind_eq_some_iff.mp joined
          obtain ⟨owned, isOwner, pair⟩ := Option.map_eq_some_iff.mp owner
          cases pair
          exact ⟨certificate, application, resolved, rfl, isOwner, completed⟩

theorem resolveRevokeCertificate_mem {db : Database} {body : RevokeCertificateBody}
    {certificate : Certificate}
    (resolved : db.resolveRevokeCertificate body = .ok (some certificate)) :
    certificate ∈ db.certificates := by
  simp only [Database.resolveRevokeCertificate] at resolved
  split at resolved
  · obtain ⟨id, _, stored⟩ := Option.bind_eq_some_iff.mp (Except.ok.inj resolved)
    exact List.mem_of_find?_eq_some stored
  · exact List.mem_of_find?_eq_some (Except.ok.inj resolved)
  · exact List.mem_of_find?_eq_some (Except.ok.inj resolved)
  · cases resolved

/-- A successful revocation leaves no latest list and no latest artifact with the
certificate if and only if only its application's own place held it before. -/
theorem revocation_reaches_every_list_iff {signer : Option (TrustArtifactSigner PrivateKey)}
    {body : RevokeCertificateBody} {answers : RevocationAnswers} {state after : GdsState}
    {certificateId : Nat} {packageIds : List String} {certificate : Certificate}
    {application : Application} (wellFormed : state.db.WellFormed)
    (chosen : state.db.certificate? certificateId = some certificate)
    (owner : state.db.application? certificate.applicationId = some application)
    (called : revokeCertificate crypto settings signer body answers state =
      (after, .revoked certificateId packageIds)) :
    after.db.FreeEverywhere certificateId ↔
      state.db.HeldOnlyAtHome certificateId application.zone application.role signer.isSome := by
  obtain ⟨resolved, owned, found, same, isOwner, completed⟩ := revokeCertificate_revoked called
  have own := (Database.certificate?_eq_some_iff wellFormed).mpr
    ⟨resolveRevokeCertificate_mem found, same⟩
  cases chosen.symm.trans own
  cases owner.symm.trans isOwner
  obtain ⟨marked, lists, formed, revoked, rebuilt⟩ := revokeSteps_completed wellFormed completed
  rw [same] at revoked
  obtain ⟨elsewhere, listed, home⟩ := rebuildAfterRevocation_places formed revoked rebuilt
  simp only [GdsState.withDb_db] at elsewhere home
  have free : ∀ other kind, ¬(application.zone = other ∧ application.role = kind) →
      ((after.db.latestTrustList? other kind).isSome → after.db.FreeOf certificateId other kind ↔
        (state.db.latestTrustList? other kind).isSome →
          state.db.FreeOf certificateId other kind) := by
    intro other kind distinct
    obtain ⟨sameList, sameArtifact⟩ := elsewhere other kind distinct
    rw [lists.latestTrustList?] at sameList
    rw [lists.latestTrustArtifact?] at sameArtifact
    rw [sameList, Database.freeOf_congr sameList sameArtifact]
  constructor
  · intro everywhere
    refine ⟨fun other kind distinct => (free other kind distinct).mp (everywhere other kind), ?_⟩
    have atHome := home.mp (everywhere _ _ listed)
    rwa [lists.latestTrustArtifact?] at atHome
  · rintro ⟨others, atHome⟩ other kind
    by_cases distinct : application.zone = other ∧ application.role = kind
    · obtain ⟨rfl, rfl⟩ := distinct
      intro _
      refine home.mpr ?_
      rwa [lists.latestTrustArtifact?]
    · exact (free other kind distinct).mpr (others other kind distinct)

end Revocation

/-! The client of the OT server is revoked. Its own list, that of the DMZ clients, is
rebuilt; the list of the OT servers and its artifact keep the certificate. -/

def revocationStart : GdsState :=
  ((Transition.run (GdsState.step transparentCrypto exampleSettings exampleSigner) .initial
    (revocationRun.take 2))).getD .initial

def revocationBody : RevokeCertificateBody where
  certificateId := some 7
  packageId := none
  fingerprintSha256 := none
  reason := "operator requested revocation"

def revocationAnswers : RevocationAnswers where
  actor := "operator"
  correlationId := "corr-1"
  vaultRevokes := true
  markedAt := some 6
  packageWrites := fun _ => true
  builtAt := some 6
  rebuild := exampleRequest true 101000000
  crl := some .null

def revocationExample : GdsState × RevocationOutcome :=
  revokeCertificate transparentCrypto exampleSettings (some exampleSigner) revocationBody
    revocationAnswers revocationStart

/-- The call succeeds, and the OT server list still holds the certificate, as does
its artifact. -/
theorem revoked_certificate_left_in_ot_server_list :
    revocationExample.2 = .revoked 7 [] ∧
      ((revocationExample.1.db.latestTrustList? .ot .server).map TrustList.members =
        some [7]) ∧
      ((revocationExample.1.db.latestTrustArtifact? .ot .server).map
        fun row => artifactCertificateIds row.artifactJson) = some [7] ∧
      ¬ revocationExample.1.db.FreeEverywhere 7 := by
  have list : (revocationExample.1.db.latestTrustList? .ot .server).map TrustList.members =
      some [7] := by
    decide +kernel
  refine ⟨by decide +kernel, list, by decide +kernel, fun everywhere => ?_⟩
  obtain ⟨trustList, latest, members⟩ := Option.map_eq_some_iff.mp list
  have absent := (everywhere .ot .server (Option.isSome_of_eq_some latest)).list trustList latest
  rw [members] at absent
  exact absent (List.mem_singleton_self 7)

/-- The same call as an instance of the equivalence. -/
theorem revocation_example_iff :
    revocationExample.1.db.FreeEverywhere 7 ↔
      revocationStart.db.HeldOnlyAtHome 7 .dmz .southboundClient true := by
  have answered : revocationExample.2 = .revoked 7 [] := by decide +kernel
  have chosen : revocationStart.db.certificate? 7 = some (exampleCertificate .active none) := by
    decide +kernel
  have owner : revocationStart.db.application? 1 = some exampleApplication := by decide +kernel
  exact revocation_reaches_every_list_iff (by decide +kernel) chosen owner (Prod.ext rfl answered)

end OpcuaGds.Gds
