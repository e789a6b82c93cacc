import OpcuaGds.Gds.Revocation

/-! # What a revocation changes

The tables after the steps of `revoke_certificate`, whether they end well or not: the rows
of the packages, the row of the certificate and the members of the lists.
-/

namespace OpcuaGds.Gds

namespace Database

/-- The members of the latest version of a list. -/
def latestMembers (db : Database) (zone : Zone) (role : Role) : List Nat :=
  ((db.latestTrustList? zone role).map TrustList.members).getD []

end Database

/-- The name of a state asks for that state. -/
theorem requestedState_name (state : LifecycleState) : requestedState state.name = .ok state := by
  cases state <;> decide +kernel

/-- Different states have different places in the order. -/
theorem LifecycleState.order_injective {left right : LifecycleState}
    (same : left.order = right.order) : left = right := by
  cases left <;> cases right <;> first | rfl | cases same

theorem targetState_eq_current_iff {requested current : LifecycleState} :
    targetState requested current = current ↔ requested.order ≤ current.order := by
  have order := order_targetState requested current
  constructor
  · intro same
    rw [same] at order
    exact max_eq_right_iff.mp order.symm
  · intro below
    rw [max_eq_right below] at order
    exact LifecycleState.order_injective order

/-! ## Updates of package rows -/

/-- The row after an update to a state. -/
def CertificatePackage.request (requested : LifecycleState) (row : CertificatePackage) :
    CertificatePackage :=
  { row with toPackageRow := row.toPackageRow.store (targetState requested row.lifecycleState) }

/-- The rows after updates of some packages to one state. -/
def requestRows (requested : LifecycleState) (packageIds : List String)
    (rows : List CertificatePackage) : List CertificatePackage :=
  rows.map fun row => if row.packageId ∈ packageIds then row.request requested else row

@[simp] theorem requestRows_nil (requested : LifecycleState) (rows : List CertificatePackage) :
    requestRows requested [] rows = rows := by
  simp [requestRows]

/-- A second update to the same state changes nothing. -/
theorem CertificatePackage.request_request (requested : LifecycleState)
    (row : CertificatePackage) : (row.request requested).request requested =
      row.request requested := by
  have settled : targetState requested (targetState requested row.lifecycleState) =
      targetState requested row.lifecycleState := by
    rw [targetState_eq_current_iff, order_targetState]
    exact le_max_left _ _
  simp only [request, PackageRow.store, settled]
  split <;> rfl

/-- Two rounds of updates are one round over both lists. -/
theorem requestRows_requestRows (requested : LifecycleState) (first second : List String)
    (rows : List CertificatePackage) :
    requestRows requested second (requestRows requested first rows) =
      requestRows requested (first ++ second) rows := by
  rw [requestRows, requestRows, requestRows, List.map_map]
  apply List.map_congr_left
  intro row _
  rw [Function.comp_apply]
  by_cases early : row.packageId ∈ first
  · rw [if_pos early, if_pos (List.mem_append_left second early)]
    split
    · exact row.request_request requested
    · rfl
  · rw [if_neg early]
    by_cases later : row.packageId ∈ second
    · rw [if_pos later, if_pos (List.mem_append_right first later)]
    · rw [if_neg later, if_neg fun listed => (List.mem_append.mp listed).elim early later]

theorem map_packageId_requestRows (requested : LifecycleState) (packageIds : List String)
    (rows : List CertificatePackage) :
    (requestRows requested packageIds rows).map (fun row => row.packageId) =
      rows.map fun row => row.packageId := by
  rw [requestRows, List.map_map]
  apply List.map_congr_left
  intro row _
  rw [Function.comp_apply]
  split <;> rfl

namespace Database

/-- With unique identifiers, a lifecycle update is the update of the rows of its package. -/
theorem updatePackageLifecycle_packages {db : Database} {update : LifecycleUpdate}
    {requested : LifecycleState} (unique : (db.packages.map fun row => row.packageId).Nodup)
    (asked : requestedState update.requested = .ok requested) (packageId : String) :
    (db.updatePackageLifecycle packageId update).packages =
      requestRows requested [packageId] db.packages := by
  have own {row : CertificatePackage} (named : row.packageId = packageId) :
      row.packageId ∈ [packageId] := List.mem_singleton.mpr named
  rw [updatePackageLifecycle, asked]
  cases found : db.package? packageId with
  | none =>
      have absent := List.find?_eq_none.mp found
      have kept : requestRows requested [packageId] db.packages = db.packages.map id := by
        apply List.map_congr_left
        intro row listed
        apply if_neg
        intro same
        exact absent row listed (decide_eq_true (List.mem_singleton.mp same))
      rw [kept, List.map_id]
  | some package =>
      have member := List.mem_of_find?_eq_some found
      have named : package.packageId = packageId := by simpa using List.find?_some found
      apply List.map_congr_left
      intro row listed
      by_cases same : row.packageId = packageId
      · rw [if_pos same, if_pos (own same)]
        have one : row = package :=
          List.inj_on_of_nodup_map unique listed member (same.trans named.symm)
        rw [one]
        rfl
      · rw [if_neg same, if_neg fun listed => same (List.mem_singleton.mp listed)]

/-- The packages that the loop of a revocation updates: those before the first write that
fails. -/
def writtenPackages (packageWrites : String → Bool) (packageIds : List String) : List String :=
  packageIds.takeWhile packageWrites

theorem revokePackages_packages {update : LifecycleUpdate} {requested : LifecycleState}
    (asked : requestedState update.requested = .ok requested) (packageWrites : String → Bool)
    (packageIds : List String) (db : Database)
    (unique : (db.packages.map fun row => row.packageId).Nodup) :
    (revokePackages update packageWrites packageIds db).1.packages =
        requestRows requested (writtenPackages packageWrites packageIds) db.packages ∧
      (revokePackages update packageWrites packageIds db).1.applications = db.applications ∧
      ((revokePackages update packageWrites packageIds db).2 = true ↔
        ∀ packageId ∈ packageIds, packageWrites packageId = true) := by
  induction packageIds generalizing db with
  | nil => exact ⟨(requestRows_nil _ _).symm, rfl, by simp [revokePackages]⟩
  | cons packageId rest ih =>
      rw [revokePackages, writtenPackages, List.takeWhile_cons]
      by_cases writes : packageWrites packageId = true
      · rw [if_pos writes, if_pos writes]
        have here := updatePackageLifecycle_packages unique asked packageId
        obtain ⟨packages, applications, completed⟩ :=
          ih (db.updatePackageLifecycle packageId update)
          (by rwa [here, map_packageId_requestRows])
        refine ⟨?_, applications.trans (updatePackageLifecycle_tables db packageId update).2.2, ?_⟩
        · rw [packages, here, requestRows_requestRows, writtenPackages, List.singleton_append]
        · rw [completed, List.forall_mem_cons]
          exact (and_iff_right writes).symm
      · rw [if_neg writes, if_neg writes]
        refine ⟨(requestRows_nil _ _).symm, rfl, iff_of_false Bool.false_ne_true ?_⟩
        intro all
        exact writes (all packageId List.mem_cons_self)

/-- Which certificates a list is made from depends on three tables. -/
theorem desired_congr {left right : Database}
    (applications : left.applications = right.applications)
    (certificates : left.certificates = right.certificates)
    (packages : left.packages = right.packages) (zone : Zone) (role : Role) :
    left.desiredTrustlistCertificateIds zone role =
      right.desiredTrustlistCertificateIds zone role := by
  obtain ⟨leftApplications, leftCertificates, leftPackages, _, _, _⟩ := left
  obtain ⟨rightApplications, rightCertificates, rightPackages, _, _, _⟩ := right
  subst applications certificates packages
  rfl

theorem latestMembers_congr {left right : Database} {zone : Zone} {role : Role}
    (same : left.latestTrustList? zone role = right.latestTrustList? zone role) :
    left.latestMembers zone role = right.latestMembers zone role := by
  rw [latestMembers, latestMembers, same]

end Database

/-! ## What a revocation changes -/

/-- A revocation asks for the state `REVOKED`. -/
theorem requestedState_revocationUpdate (answers : RevocationAnswers) (certificate : Certificate)
    (reason : String) :
    requestedState (revocationUpdate answers.actor certificate.id
      (.str certificate.fingerprintSha256) (.str reason) answers.correlationId).requested =
        .ok .revoked :=
  requestedState_name .revoked

/-- Whether and when a call comes to mark its certificate. -/
def RevocationAnswers.marked? (answers : RevocationAnswers) (certificate : Certificate) :
    Option Int :=
  if certificate.status ≠ .revoked ∧ answers.vaultRevokes = false then none else answers.markedAt

namespace Database

/-- The packages of a certificate, as the loop goes over them. -/
def packageIdsForCertificate (db : Database) (certificateId : Nat) : List String :=
  (db.packagesForCertificate certificateId).map fun package => package.packageId

/-- The tables with a certificate and some of its packages revoked. -/
def withRevoked (db : Database) (certificateId : Nat) (markedAt : Int)
    (packageIds : List String) : Database :=
  { db.markCertificateRevoked certificateId markedAt with
    packages := requestRows .revoked packageIds db.packages }

/-- The tables after a call that came to mark its certificate, up to lists and events. -/
structure RevokedRows (before after : Database) (certificateId : Nat) (markedAt : Int)
    (packageIds : List String) : Prop where
  applications : after.applications = before.applications
  certificates : after.certificates =
    (before.withRevoked certificateId markedAt packageIds).certificates
  packages : after.packages = (before.withRevoked certificateId markedAt packageIds).packages

end Database

section Revocation

variable {PrivateKey PublicKey : Type} {crypto : Crypto PrivateKey PublicKey}
  {settings : RegenerationSettings} {signer : Option (TrustArtifactSigner PrivateKey)}

theorem latestTrustList?_of_trustLists {left right : Database}
    (same : left.trustLists = right.trustLists) (zone : Zone) (role : Role) :
    left.latestTrustList? zone role = right.latestTrustList? zone role := by
  rw [Database.latestTrustList?, Database.trustListsOf, same]
  rfl

variable (crypto settings) in
/-- A call for an artifact adds nothing but a list version and an artifact. -/
theorem getOrRegenerate_tables (signer : TrustArtifactSigner PrivateKey)
    (request : ArtifactRequest) (state : GdsState) :
    (getOrRegenerateSignedArtifact crypto settings signer request state).1.db.trustLists =
        (state.ensured request).db.trustLists ∧
      (getOrRegenerateSignedArtifact crypto settings signer request state).1.db.certificates =
        state.db.certificates ∧
      (getOrRegenerateSignedArtifact crypto settings signer request state).1.db.packages =
        state.db.packages ∧
      (getOrRegenerateSignedArtifact crypto settings signer request state).1.db.applications =
        state.db.applications := by
  have ensured : (state.ensured request).db.certificates = state.db.certificates ∧
      (state.ensured request).db.packages = state.db.packages ∧
      (state.ensured request).db.applications = state.db.applications := by
    simp only [GdsState.ensured, Database.ensureTrustListCurrent]
    split
    · split <;> exact ⟨rfl, rfl, rfl⟩
    · exact ⟨rfl, rfl, rfl⟩
  rw [getOrRegenerateSignedArtifact, serveLatest]
  split
  · exact ⟨rfl, ensured⟩
  · rename_i trustList certs _
    have checked := checkAndRegenerate_result crypto settings signer request trustList certs
      (state.ensured request)
    generalize checkAndRegenerate crypto settings signer request trustList certs
      (state.ensured request) = result at checked
    cases checked with
    | raised => exact ⟨rfl, ensured⟩
    | kept notForced upToDate =>
        cases (state.ensured request).db.latestTrustArtifact? request.zone request.role with
        | none => exact ⟨rfl, ensured⟩
        | some row => exact ⟨rfl, ensured⟩
    | inserted signed reason allowed listed => exact ⟨rfl, ensured⟩

/-- With a signer, the rebuild leaves what the call for the artifact leaves. -/
theorem rebuildAfterRevocation_signed (signer : TrustArtifactSigner PrivateKey)
    {answers : RevocationAnswers} {builtAt : Int} (built : answers.builtAt = some builtAt)
    (zone : Zone) (role : Role) (state : GdsState) :
    (rebuildAfterRevocation crypto settings (some signer) answers zone role state).1 =
      (getOrRegenerateSignedArtifact crypto settings signer (answers.rebuildRequest zone role)
        (state.withDb (state.db.buildTrustList zone role builtAt))).1 := by
  simp only [rebuildAfterRevocation, built]
  generalize getOrRegenerateSignedArtifact crypto settings signer
    (answers.rebuildRequest zone role)
    (state.withDb (state.db.buildTrustList zone role builtAt)) = result
  obtain ⟨after, served⟩ := result
  cases served <;> rfl

/-- The rebuild, whether it ends well or not: nothing without the clock, otherwise the
list of the place has the members composed from the tables. -/
theorem rebuildAfterRevocation_lists (answers : RevocationAnswers) (zone : Zone) (role : Role)
    (state : GdsState) {after : Database}
    (left : (rebuildAfterRevocation crypto settings signer answers zone role state).1.db = after) :
    (after.applications = state.db.applications ∧ after.certificates = state.db.certificates ∧
      after.packages = state.db.packages) ∧
    (answers.builtAt = none → after = state.db) ∧
    (answers.builtAt.isSome →
      (∀ other kind, ¬(zone = other ∧ role = kind) →
        after.latestMembers other kind = state.db.latestMembers other kind) ∧
      ∀ id, id ∈ after.latestMembers zone role ↔
        id ∈ state.db.desiredTrustlistCertificateIds zone role) := by
  cases built : answers.builtAt with
  | none =>
      rw [rebuildAfterRevocation, built] at left
      subst left
      exact ⟨⟨rfl, rfl, rfl⟩, fun _ => rfl, nofun⟩
  | some builtAt =>
      have elsewhere (other : Zone) (kind : Role) (distinct : ¬(zone = other ∧ role = kind)) :
          (state.db.buildTrustList zone role builtAt).latestTrustList? other kind =
            state.db.latestTrustList? other kind :=
        state.db.latestTrustList?_buildTrustList_of_ne distinct builtAt
      cases signer with
      | none =>
          simp only [rebuildAfterRevocation, built, GdsState.withDb_db] at left
          subst left
          refine ⟨⟨rfl, rfl, rfl⟩, nofun, fun _ => ⟨?_, ?_⟩⟩
          · intro other kind distinct
            exact Database.latestMembers_congr (elsewhere other kind distinct)
          · intro id
            rw [Database.latestMembers, state.db.latestTrustList?_buildTrustList_self]
            exact List.mem_dedup
      | some signer =>
          rw [rebuildAfterRevocation_signed signer built] at left
          subst left
          obtain ⟨lists, certificates, packages, applications⟩ :=
            getOrRegenerate_tables crypto settings signer (answers.rebuildRequest zone role)
              (state.withDb (state.db.buildTrustList zone role builtAt))
          refine ⟨⟨applications, certificates, packages⟩, nofun, fun _ => ⟨?_, ?_⟩⟩
          · intro other kind distinct
            apply Database.latestMembers_congr
            rw [latestTrustList?_of_trustLists lists, ← elsewhere other kind distinct]
            exact latestTrustList?_ensure_of_ne _ distinct _
          · intro id
            obtain ⟨trustList, latest, members⟩ := latestTrustList?_ensure
              (state.db.buildTrustList zone role builtAt) zone role answers.rebuild.ensuredAt
            have held : (getOrRegenerateSignedArtifact crypto settings signer
                (answers.rebuildRequest zone role)
                (state.withDb (state.db.buildTrustList zone role builtAt))).1.db.latestTrustList?
                zone role = some trustList :=
              (latestTrustList?_of_trustLists lists zone role).trans latest
            rw [Database.latestMembers, held]
            exact members id

/-- Whether a call comes to rebuild the list of its place. -/
def RevocationAnswers.rebuilds (answers : RevocationAnswers) (packageIds : List String) : Bool :=
  packageIds.all answers.packageWrites && answers.builtAt.isSome

/-- The tables after a call that came to mark its certificate at `markedAt`. -/
structure Database.RevokedIn (before after : Database) (answers : RevocationAnswers)
    (certificateId : Nat) (zone : Zone) (role : Role) (marked : Database) : Prop where
  certificates : after.certificates = marked.certificates
  packages : after.packages = marked.packages
  kept : ∀ other kind,
    (answers.rebuilds (before.packageIdsForCertificate certificateId) = true →
      ¬(zone = other ∧ role = kind)) →
    after.latestMembers other kind = before.latestMembers other kind
  rebuilt : answers.rebuilds (before.packageIdsForCertificate certificateId) = true →
    ∀ id, id ∈ after.latestMembers zone role ↔
      id ∈ marked.desiredTrustlistCertificateIds zone role

/-- The tables with what a call revokes before it comes to the lists. -/
def Database.markedBy (db : Database) (answers : RevocationAnswers) (certificateId : Nat)
    (markedAt : Int) : Database :=
  db.withRevoked certificateId markedAt
    (writtenPackages answers.packageWrites (db.packageIdsForCertificate certificateId))

variable (crypto settings signer) in
/-- The steps of a call, whether they end well or not. -/
theorem revokeSteps_tables (answers : RevocationAnswers) (reason : String)
    (certificate : Certificate) (application : Application) (state : GdsState)
    (unique : (state.db.packages.map fun row => row.packageId).Nodup) {after : Database}
    (left : (revokeSteps crypto settings signer answers reason certificate application
      state).1.db = after) :
    (answers.marked? certificate = none → after = state.db) ∧
      ∀ markedAt, answers.marked? certificate = some markedAt →
        state.db.RevokedIn after answers certificate.id application.zone application.role
          (state.db.markedBy answers certificate.id markedAt) := by
  rw [revokeSteps] at left
  rw [RevocationAnswers.marked?]
  by_cases stopped : certificate.status ≠ .revoked ∧ answers.vaultRevokes = false
  · rw [if_pos stopped] at left ⊢
    exact ⟨fun _ => left.symm, nofun⟩
  · rw [if_neg stopped] at left ⊢
    cases marked : answers.markedAt with
    | none =>
        rw [marked] at left
        exact ⟨fun _ => left.symm, nofun⟩
    | some markedAt =>
        refine ⟨nofun, fun given same => ?_⟩
        cases same
        simp only [marked] at left
        have loop := Database.revokePackages_packages
          (requestedState_revocationUpdate answers certificate reason) answers.packageWrites
          (state.db.packageIdsForCertificate certificate.id)
          (state.db.markCertificateRevoked certificate.id markedAt) unique
        have tables := Database.revokePackages_tables (revocationUpdate answers.actor
            certificate.id (.str certificate.fingerprintSha256) (.str reason)
            answers.correlationId) answers.packageWrites
          (state.db.packageIdsForCertificate certificate.id)
          (state.db.markCertificateRevoked certificate.id markedAt)
        rw [← Database.packageIdsForCertificate] at left
        generalize Database.revokePackages _ answers.packageWrites _ _ = result
          at left loop tables
        obtain ⟨written, completed⟩ := result
        obtain ⟨packages, applications, all⟩ := loop
        obtain ⟨lists, certificates⟩ := tables
        simp only at packages applications all lists certificates
        have runsOn : answers.rebuilds (state.db.packageIdsForCertificate certificate.id) =
            (completed && answers.builtAt.isSome) := by
          rw [RevocationAnswers.rebuilds, Bool.eq_iff_iff.mpr (List.all_eq_true.trans all.symm)]
        have before (other : Zone) (kind : Role) :
            written.latestMembers other kind = state.db.latestMembers other kind :=
          Database.latestMembers_congr (lists.latestTrustList? other kind)
        cases completed with
        | false =>
            subst left
            refine ⟨certificates, packages, fun other kind _ => before other kind, ?_⟩
            rw [runsOn]
            nofun
        | true =>
            obtain ⟨rows, untouched, listed⟩ := rebuildAfterRevocation_lists answers
              application.zone application.role (state.withDb written) left
            refine ⟨rows.2.1.trans certificates, rows.2.2.trans packages, ?_, ?_⟩
            · intro other kind apart
              rw [← before other kind]
              cases built : answers.builtAt with
              | none => rw [untouched built]; rfl
              | some builtAt =>
                  refine (listed (Option.isSome_of_eq_some built)).1 other kind (apart ?_)
                  rw [runsOn, built]
                  rfl
            · rw [runsOn, Bool.true_and]
              intro built id
              rw [(listed built).2 id]
              have tables : written.applications =
                  (state.db.markedBy answers certificate.id markedAt).applications := applications
              have same := Database.desired_congr tables certificates packages application.zone
                application.role
              exact iff_of_eq (congrArg (id ∈ ·) same)

variable (crypto settings signer) in
/-- No call touches an application. -/
theorem revokeSteps_applications (answers : RevocationAnswers) (reason : String)
    (certificate : Certificate) (application : Application) (state : GdsState)
    (unique : (state.db.packages.map fun row => row.packageId).Nodup) :
    (revokeSteps crypto settings signer answers reason certificate application
      state).1.db.applications = state.db.applications := by
  rw [revokeSteps]
  split
  · rfl
  · split
    · rfl
    · rename_i markedAt _
      have loop := Database.revokePackages_packages
        (requestedState_revocationUpdate answers certificate reason) answers.packageWrites
        (state.db.packageIdsForCertificate certificate.id)
        (state.db.markCertificateRevoked certificate.id markedAt) unique
      rw [← Database.packageIdsForCertificate]
      dsimp only
      generalize Database.revokePackages _ answers.packageWrites _ _ = result at loop
      obtain ⟨written, completed⟩ := result
      cases completed with
      | false => exact loop.2.1
      | true =>
          exact (rebuildAfterRevocation_lists answers application.zone application.role
            (state.withDb written) rfl).1.1.trans loop.2.1

end Revocation

/-! ## Calls that go through -/

section GoThrough

variable {PrivateKey PublicKey : Type} {crypto : Crypto PrivateKey PublicKey}
  {settings : RegenerationSettings} {signer : Option (TrustArtifactSigner PrivateKey)}

/-- Whether an artifact can be signed with what Vault and the clock answer. -/
def ArtifactRequest.Signable (signer : TrustArtifactSigner PrivateKey)
    (request : ArtifactRequest) : Prop :=
  request.material.isSome ∧ (request.generatedAt.addMicros? (signer.ttlSeconds * 1000000)).isSome

variable (crypto settings) in
/-- A forced call for an artifact raises exactly when none can be signed. -/
theorem getOrRegenerate_raised_iff (signer : TrustArtifactSigner PrivateKey)
    (request : ArtifactRequest) (forced : request.forceRebuild = true) (state : GdsState) :
    (getOrRegenerateSignedArtifact crypto settings signer request state).2 = .raised ↔
      ¬ request.Signable signer := by
  obtain ⟨trustList, latest, _⟩ :=
    latestTrustList?_ensure state.db request.zone request.role request.ensuredAt
  change (state.ensured request).db.latestTrustList? _ _ = _ at latest
  rw [getOrRegenerateSignedArtifact, serveLatest, Database.latestTrustListWithCerts?, latest]
  simp only [Option.map_some, checkAndRegenerate, regenerationReason, forced, if_true, regenerate,
    isRateLimited, Bool.not_true, Bool.false_and, Bool.false_eq_true, if_false]
  cases material : request.material with
  | none =>
      refine iff_of_true rfl fun signable => ?_
      simp [ArtifactRequest.Signable, material] at signable
  | some material =>
      simp only [Option.bind_some, TrustArtifactSigner.buildSignedArtifact, Option.bind_eq_bind]
      cases expires : request.generatedAt.addMicros? (signer.ttlSeconds * 1000000) with
      | none =>
          refine iff_of_true rfl fun signable => ?_
          simp [ArtifactRequest.Signable, expires] at signable
      | some expiresAt =>
          refine iff_of_false (by intro raised; cases raised) (not_not.mpr ?_)
          simp [ArtifactRequest.Signable, material, expires]

/-- Whether the surroundings let every step of a call go through. -/
structure RevocationAnswers.GoThrough (answers : RevocationAnswers)
    (signer : Option (TrustArtifactSigner PrivateKey)) (certificate : Certificate)
    (packageIds : List String) : Prop where
  marked : (answers.marked? certificate).isSome
  writes : ∀ packageId ∈ packageIds, answers.packageWrites packageId = true
  builds : answers.builtAt.isSome
  signs : ∀ present ∈ signer, answers.rebuild.Signable present
  crl : answers.crl.isSome

/-- What goes through for a row goes through for one that is revoked already. -/
theorem RevocationAnswers.GoThrough.marked_of_status {answers : RevocationAnswers}
    {certificate row : Certificate} {packageIds : List String}
    (through : answers.GoThrough signer certificate packageIds)
    (status : certificate.status = .revoked → row.status = .revoked) :
    (answers.marked? row).isSome := by
  have marked := through.marked
  rw [RevocationAnswers.marked?] at marked ⊢
  split at marked
  · cases marked
  · rename_i proceeds
    rw [if_neg fun stops => proceeds ⟨fun revoked => stops.1 (status revoked), stops.2⟩]
    exact marked

variable (crypto settings) in
/-- Whether the rebuild goes through does not depend on the tables. -/
theorem rebuildAfterRevocation_completes_iff (signer : Option (TrustArtifactSigner PrivateKey))
    (answers : RevocationAnswers) (zone : Zone) (role : Role) (state : GdsState) :
    (rebuildAfterRevocation crypto settings signer answers zone role state).2 = true ↔
      answers.builtAt.isSome ∧ (∀ present ∈ signer, answers.rebuild.Signable present) ∧
        answers.crl.isSome := by
  rw [rebuildAfterRevocation]
  cases answers.builtAt with
  | none => exact iff_of_false nofun fun through => absurd through.1 nofun
  | some builtAt =>
      cases signer with
      | none => exact ⟨fun looked => ⟨rfl, nofun, looked⟩, fun through => through.2.2⟩
      | some signer =>
          have raises := getOrRegenerate_raised_iff crypto settings signer
            (answers.rebuildRequest zone role) rfl
            (state.withDb (state.db.buildTrustList zone role builtAt))
          dsimp only
          generalize getOrRegenerateSignedArtifact crypto settings signer
            (answers.rebuildRequest zone role)
            (state.withDb (state.db.buildTrustList zone role builtAt)) = result at raises
          obtain ⟨after, served⟩ := result
          by_cases signable : (answers.rebuildRequest zone role).Signable signer
          · have looks : answers.crl.isSome = true ↔ (some builtAt).isSome = true ∧
                (∀ present ∈ some signer, answers.rebuild.Signable present) ∧
                  answers.crl.isSome = true :=
              ⟨fun looked => ⟨rfl, fun _ same => by cases same; exact signable, looked⟩,
                fun through => through.2.2⟩
            cases served with
            | raised => exact absurd signable (raises.mp rfl)
            | nothing => exact looks
            | served _ _ _ => exact looks
          · have raised : served = .raised := raises.mpr signable
            subst raised
            exact iff_of_false nofun fun through => signable (through.2.1 signer rfl)

variable (crypto settings signer) in
theorem revokeSteps_completes_iff (answers : RevocationAnswers) (reason : String)
    (certificate : Certificate) (application : Application) (state : GdsState)
    (unique : (state.db.packages.map fun row => row.packageId).Nodup) :
    (revokeSteps crypto settings signer answers reason certificate application state).2 = true ↔
      answers.GoThrough signer certificate (state.db.packageIdsForCertificate certificate.id) := by
  rw [revokeSteps]
  by_cases stopped : certificate.status ≠ .revoked ∧ answers.vaultRevokes = false
  · rw [if_pos stopped]
    refine iff_of_false nofun fun through => ?_
    have marked := through.marked
    rw [RevocationAnswers.marked?, if_pos stopped] at marked
    cases marked
  · rw [if_neg stopped]
    have marks : answers.marked? certificate = answers.markedAt := if_neg stopped
    cases marked : answers.markedAt with
    | none =>
        refine iff_of_false nofun fun through => ?_
        have isMarked := through.marked
        rw [marks, marked] at isMarked
        cases isMarked
    | some markedAt =>
        have loop := Database.revokePackages_packages
          (requestedState_revocationUpdate answers certificate reason) answers.packageWrites
          (state.db.packageIdsForCertificate certificate.id)
          (state.db.markCertificateRevoked certificate.id markedAt) unique
        dsimp only
        rw [← Database.packageIdsForCertificate]
        generalize Database.revokePackages _ answers.packageWrites _ _ = result at loop
        obtain ⟨written, completed⟩ := result
        obtain ⟨_, _, all⟩ := loop
        cases completed with
        | false =>
            exact iff_of_false nofun fun through => absurd (all.mpr through.writes) nofun
        | true =>
            refine (rebuildAfterRevocation_completes_iff crypto settings signer answers
              application.zone application.role (state.withDb written)).trans ?_
            constructor
            · exact fun ⟨builds, signs, crl⟩ =>
                ⟨by rw [marks, marked]; rfl, all.mp rfl, builds, signs, crl⟩
            · exact fun through => ⟨through.builds, through.signs, through.crl⟩

/-- The tables after steps that went through: the certificate is marked, every package of
it is updated, and the list of its place is composed from these rows. -/
theorem revokeSteps_of_completed {answers : RevocationAnswers} {reason : String}
    {certificate : Certificate} {application : Application} {state after : GdsState}
    (unique : (state.db.packages.map fun row => row.packageId).Nodup)
    (completed : revokeSteps crypto settings signer answers reason certificate application state =
      (after, true)) :
    ∃ markedAt ∈ answers.markedAt, ∃ marked, marked = state.db.withRevoked certificate.id markedAt
        (state.db.packageIdsForCertificate certificate.id) ∧
      after.db.certificates = marked.certificates ∧ after.db.packages = marked.packages ∧
      ∀ id, id ∈ after.db.latestMembers application.zone application.role ↔
        id ∈ marked.desiredTrustlistCertificateIds application.zone application.role := by
  have through := (revokeSteps_completes_iff crypto settings signer answers reason certificate
    application state unique).mp (by rw [completed])
  obtain ⟨markedAt, marked⟩ := Option.isSome_iff_exists.mp through.marked
  have moment : markedAt ∈ answers.markedAt := by
    rw [RevocationAnswers.marked?] at marked
    split at marked
    · cases marked
    · exact marked
  have tables := (revokeSteps_tables crypto settings signer answers reason certificate application
    state unique rfl).2 markedAt marked
  have all : Database.writtenPackages answers.packageWrites
      (state.db.packageIdsForCertificate certificate.id) =
        state.db.packageIdsForCertificate certificate.id :=
    List.takeWhile_eq_self_iff.mpr through.writes
  have rebuilds : answers.rebuilds (state.db.packageIdsForCertificate certificate.id) = true := by
    rw [RevocationAnswers.rebuilds, List.all_eq_true.mpr through.writes, through.builds]
    rfl
  rw [completed, Database.markedBy, all] at tables
  exact ⟨markedAt, moment, _, rfl, tables.certificates, tables.packages, tables.rebuilt rebuilds⟩

end GoThrough

/-! ## The packages of the certificate -/

namespace CertificatePackage

variable (package : CertificatePackage)

theorem request_of_expired (expired : package.lifecycleState = .expired) :
    package.request .revoked = package := by
  have target : targetState .revoked package.lifecycleState = package.lifecycleState := by
    rw [expired]
    rfl
  have status : ¬ package.lifecycleState = .revoked := by
    rw [expired]
    decide
  rw [request, target, PackageRow.store, if_neg status]

/-- Every state but `EXPIRED` gives way to `REVOKED`. -/
theorem request_of_ne_expired (lasting : package.lifecycleState ≠ .expired) :
    (package.request .revoked).lifecycleState = .revoked ∧
      (package.request .revoked).status = "revoked" := by
  have target : targetState .revoked package.lifecycleState = .revoked := by
    cases state : package.lifecycleState <;> first | rfl | exact absurd state lasting
  rw [request, target]
  exact ⟨rfl, rfl⟩

end CertificatePackage

/-- The packages that a revocation goes over are those that refer to the certificate. -/
theorem Database.mem_packageIdsForCertificate {db : Database}
    (unique : (db.packages.map fun row => row.packageId).Nodup) {certificateId : Nat}
    {package : CertificatePackage} (member : package ∈ db.packages) :
    package.packageId ∈ db.packageIdsForCertificate certificateId ↔
      package.certificateId = some certificateId := by
  simp only [packageIdsForCertificate, packagesForCertificate, List.mem_map,
    List.mem_insertionSort, List.mem_filter, decide_eq_true_eq]
  constructor
  · rintro ⟨other, ⟨stored, ofCertificate⟩, same⟩
    rw [← List.inj_on_of_nodup_map unique stored member same]
    exact ofCertificate
  · exact fun ofCertificate => ⟨package, ⟨member, ofCertificate⟩, rfl⟩

section Packages

variable {PrivateKey PublicKey : Type} {crypto : Crypto PrivateKey PublicKey}
  {settings : RegenerationSettings} {signer : Option (TrustArtifactSigner PrivateKey)}

/-- A call that goes through leaves every package of the certificate `REVOKED` with
status `revoked`, except those that were `EXPIRED`, which it does not touch. -/
theorem packages_revoked_unless_expired {body : RevokeCertificateBody}
    {answers : RevocationAnswers} {state after : GdsState} {certificateId : Nat}
    {packageIds : List String} (unique : (state.db.packages.map fun row => row.packageId).Nodup)
    (called : revokeCertificate crypto settings signer body answers state =
      (after, .revoked certificateId packageIds)) :
    (after.db.packages.map fun row => row.packageId) =
        (state.db.packages.map fun row => row.packageId) ∧
      ∀ row ∈ after.db.packages, row.certificateId = some certificateId →
        ∃ package ∈ state.db.packages, package.packageId = row.packageId ∧
          package.certificateId = some certificateId ∧
          (package.lifecycleState ≠ .expired →
            row.lifecycleState = .revoked ∧ row.status = "revoked") ∧
          (package.lifecycleState = .expired → row = package) := by
  obtain ⟨certificate, application, _, rfl, _, completed⟩ := revokeCertificate_revoked called
  obtain ⟨markedAt, _, _, rfl, _, packages, _⟩ :=
    revokeSteps_of_completed unique completed
  rw [packages, Database.withRevoked, map_packageId_requestRows]
  refine ⟨rfl, fun row member ofCertificate => ?_⟩
  obtain ⟨package, stored, rfl⟩ := List.mem_map.mp member
  by_cases listed : package.packageId ∈ state.db.packageIdsForCertificate certificate.id
  · rw [if_pos listed]
    exact ⟨package, stored, rfl, (Database.mem_packageIdsForCertificate unique stored).mp listed,
      package.request_of_ne_expired, package.request_of_expired⟩
  · rw [if_neg listed] at ofCertificate
    exact absurd ((Database.mem_packageIdsForCertificate unique stored).mpr ofCertificate) listed

end Packages

/-! The client of the OT server with one package of its certificate. -/

def examplePackage (lifecycleState : LifecycleState) : CertificatePackage where
  packageId := "p-1"
  lifecycleState := lifecycleState
  status := "active"
  applicationId := 1
  certificateId := some 7
  generation := 1
  createdAt := 5

def packagedStart (lifecycleState : LifecycleState) : GdsState :=
  revocationStart.withDb { revocationStart.db with packages := [examplePackage lifecycleState] }

def packagedCall (lifecycleState : LifecycleState) (answers : RevocationAnswers) :
    GdsState × RevocationOutcome :=
  revokeCertificate transparentCrypto exampleSettings (some exampleSigner) revocationBody answers
    (packagedStart lifecycleState)

/-- An expired package keeps its state and its status through a revocation that succeeds. -/
theorem expired_package_not_revoked :
    (packagedCall .expired revocationAnswers).2 = .revoked 7 ["p-1"] ∧
      (packagedCall .expired revocationAnswers).1.db.packages = [examplePackage .expired] ∧
      ¬ ∀ row ∈ (packagedCall .expired revocationAnswers).1.db.packages,
        row.certificateId = some 7 → row.lifecycleState = .revoked ∧ row.status = "revoked" := by
  have packages : (packagedCall .expired revocationAnswers).1.db.packages =
      [examplePackage .expired] := by
    decide +kernel
  refine ⟨by decide +kernel, packages, fun revoked => ?_⟩
  rw [packages] at revoked
  exact absurd (revoked _ (List.mem_singleton_self _) rfl).1 (by decide)

/-- An activated one is revoked. -/
theorem activated_package_revoked :
    ∃ row ∈ (packagedCall .activated revocationAnswers).1.db.packages,
      ∃ package ∈ [examplePackage .activated], package.packageId = row.packageId ∧
        row.lifecycleState = .revoked ∧ row.status = "revoked" := by
  have answered : (packagedCall .activated revocationAnswers).2 = .revoked 7 ["p-1"] := by
    decide +kernel
  have stored : ∃ row ∈ (packagedCall .activated revocationAnswers).1.db.packages,
      row.certificateId = some 7 := by
    decide +kernel
  obtain ⟨row, member, ofCertificate⟩ := stored
  have unique : ((packagedStart .activated).db.packages.map fun row => row.packageId).Nodup :=
    List.nodup_singleton _
  obtain ⟨package, listed, same, _, revoked, _⟩ :=
    (packages_revoked_unless_expired unique (Prod.ext rfl answered)).2 row member ofCertificate
  have activated : package.lifecycleState ≠ .expired := by
    rw [List.mem_singleton.mp listed]
    decide
  exact ⟨row, member, package, listed, same, revoked activated⟩

end OpcuaGds.Gds
