import OpcuaGds.Gds.CertificateStore
import OpcuaGds.Gds.ServedArtifact

/-! # Keys, references and statuses of the store

In every run of the store from its empty tables identifiers and fingerprints are unique and
references point at rows; and where certificates come in active, as every caller of the program
inserts them, exactly the revoked ones have the time of their revocation.
-/

namespace OpcuaGds.Gds

namespace Database

/-! ## Keys and references -/

theorem WellFormed.withApplications {db : Database} (wellFormed : db.WellFormed)
    {applications : List Application} (unique : (applications.map Application.id).Nodup)
    (kept : ∀ application ∈ db.applications, ∃ later ∈ applications, later.id = application.id) :
    { db with applications := applications }.WellFormed := by
  refine ⟨wellFormed.certificateIds, unique, fun certificate stored => ?_,
    wellFormed.packageCertificate, wellFormed.trustListMember⟩
  obtain ⟨application, there, owner⟩ := wellFormed.certificateOwner certificate stored
  obtain ⟨later, isLater, same⟩ := kept application there
  exact ⟨later, isLater, same.trans owner⟩

theorem WellFormed.changeApplications {db : Database} (wellFormed : db.WellFormed)
    {change : Application → Application}
    (sameId : ∀ application, (change application).id = application.id) :
    { db with applications := db.applications.map change }.WellFormed := by
  have ids : (db.applications.map change).map Application.id =
      db.applications.map Application.id := by
    rw [List.map_map]
    exact List.map_congr_left fun application _ => sameId application
  exact wellFormed.withApplications (ids.symm ▸ wellFormed.applicationIds)
    fun application stored =>
      ⟨change application, List.mem_map_of_mem stored, sameId application⟩

theorem WellFormed.changeCertificates {db : Database} (wellFormed : db.WellFormed)
    {change : Certificate → Certificate} (sameId : ∀ certificate, (change certificate).id =
      certificate.id)
    (sameOwner : ∀ certificate, (change certificate).applicationId = certificate.applicationId) :
    { db with certificates := db.certificates.map change }.WellFormed := by
  have ids : (db.certificates.map change).map Certificate.id =
      db.certificates.map Certificate.id := by
    rw [List.map_map]
    exact List.map_congr_left fun certificate _ => sameId certificate
  refine ⟨ids.symm ▸ wellFormed.certificateIds, wellFormed.applicationIds, ?_, ?_, ?_⟩
  · intro certificate stored
    obtain ⟨old, oldStored, rfl⟩ := List.mem_map.mp stored
    obtain ⟨application, there, owner⟩ := wellFormed.certificateOwner old oldStored
    exact ⟨application, there, owner.trans (sameOwner old).symm⟩
  · exact fun package stored id has =>
      (exists_id_iff ids id).mpr (wellFormed.packageCertificate package stored id has)
  · exact fun trustList stored id listed =>
      (exists_id_iff ids id).mpr (wellFormed.trustListMember trustList stored id listed)

theorem WellFormed.upsertApplication {db : Database} (wellFormed : db.WellFormed)
    (applicationUri commonName : String) (zone : Zone) (role : Role)
    (componentType : Option String) (status : String) :
    (db.upsertApplication applicationUri commonName zone role componentType status).WellFormed := by
  rw [Database.upsertApplication]
  split
  · apply wellFormed.changeApplications
    intro application
    split <;> rfl
  · refine wellFormed.withApplications ?_ fun application stored =>
      ⟨application, List.mem_append_left _ stored, rfl⟩
    rw [List.map_append, List.map_singleton, ← List.concat_eq_append]
    exact wellFormed.applicationIds.concat (freshId_notMem _)

theorem WellFormed.insertCertificate {db after : Database} (wellFormed : db.WellFormed)
    {new : NewCertificate} {now : Int} (inserted : db.insertCertificate new now = some after) :
    after.WellFormed := by
  rw [Database.insertCertificate] at inserted
  split at inserted
  · cases inserted
    exact wellFormed
  · split at inserted
    · rename_i owned
      cases inserted
      refine ⟨?_, wellFormed.applicationIds, ?_, ?_, ?_⟩
      · rw [List.map_append, List.map_singleton, ← List.concat_eq_append]
        exact wellFormed.certificateIds.concat (freshId_notMem _)
      · intro certificate stored
        rcases List.mem_append.mp stored with old | isNew
        · exact wellFormed.certificateOwner certificate old
        · rw [List.mem_singleton.mp isNew]
          simpa using owned
      · intro package stored id has
        obtain ⟨certificate, there, same⟩ := wellFormed.packageCertificate package stored id has
        exact ⟨certificate, List.mem_append_left _ there, same⟩
      · intro trustList stored id listed
        obtain ⟨certificate, there, same⟩ := wellFormed.trustListMember trustList stored id listed
        exact ⟨certificate, List.mem_append_left _ there, same⟩
    · cases inserted

theorem WellFormed.insertPackage {db after : Database} (wellFormed : db.WellFormed)
    {package : CertificatePackage} (inserted : db.insertPackage package = some after) :
    after.WellFormed := by
  rw [Database.insertPackage] at inserted
  split at inserted
  · rename_i references
    cases inserted
    refine ⟨wellFormed.certificateIds, wellFormed.applicationIds, wellFormed.certificateOwner, ?_,
      wellFormed.trustListMember⟩
    intro other stored id has
    rcases List.mem_append.mp stored with old | isNew
    · exact wellFormed.packageCertificate other old id has
    · rw [List.mem_singleton.mp isNew, Option.mem_def] at has
      have there := references.2.2
      rw [has] at there
      simpa using there
  · cases inserted

/-- Every operation keeps primary keys unique and references at rows. -/
theorem WellFormed.storeStep {db after : Database} {operation : StoreOperation}
    (wellFormed : db.WellFormed) (stepped : db.storeStep operation = some after) :
    after.WellFormed := by
  cases operation with
  | upsertApplication => cases stepped; exact wellFormed.upsertApplication _ _ _ _ _ _
  | heartbeatApplication =>
      cases stepped
      apply wellFormed.changeApplications
      intro application
      split <;> rfl
  | insertCertificate => exact wellFormed.insertCertificate stepped
  | insertPackage => exact wellFormed.insertPackage stepped
  | updatePackageLifecycle => cases stepped; exact wellFormed.updatePackageLifecycle _ _
  | markCertificateRevoked => cases stepped; exact wellFormed.markCertificateRevoked _ _
  | markExpiredActiveCertificates =>
      cases stepped
      apply wellFormed.changeCertificates
      · intro certificate
        split <;> rfl
      · intro certificate
        split <;> rfl
  | buildTrustList => cases stepped; exact wellFormed.buildTrustList _ _ _
  | ensureTrustListCurrent => cases stepped; exact wellFormed_ensure wellFormed _ _ _
  | insertTrustArtifact =>
      cases stepped
      exact ⟨wellFormed.certificateIds, wellFormed.applicationIds, wellFormed.certificateOwner,
        wellFormed.packageCertificate, wellFormed.trustListMember⟩

theorem wellFormed_run {operations : List StoreOperation} {db : Database}
    (reached : Transition.run storeStep GdsState.initial.db operations = some db) :
    db.WellFormed :=
  Transition.run_invariant (fun _ _ _ wellFormed stepped => wellFormed.storeStep stepped)
    GdsState.coherent_initial.wellFormed reached

/-! ## The rows of certificates -/

/-- What an operation makes of a row. -/
inductive RowChange (certificate : Certificate) : Certificate → Prop where
  | kept : RowChange certificate certificate
  | revoked (now : Int) : RowChange certificate { certificate with
      status := .revoked
      revokedAt := some (certificate.revokedAt.getD now) }
  | expired {now : Int} (isExpired : Certificate.isExpiredActive certificate now = true) :
      RowChange certificate { certificate with status := .expired }

/-- What an operation makes of the table: it changes rows, or it appends one with a new
fingerprint. -/
inductive TableChange (certificates : List Certificate) (operation : StoreOperation) :
    List Certificate → Prop where
  | changed {change : Certificate → Certificate}
      (each : ∀ certificate, RowChange certificate (change certificate)) :
      TableChange certificates operation (certificates.map change)
  | inserted {new : NewCertificate} {now : Int} {row : Certificate}
      (isInsert : operation = .insertCertificate new now)
      (fresh : ∀ certificate ∈ certificates, certificate.fingerprintSha256 ≠ row.fingerprintSha256)
      (status : row.status = new.status) (revokedAt : row.revokedAt = none) :
      TableChange certificates operation (certificates ++ [row])

theorem TableChange.same (certificates : List Certificate) (operation : StoreOperation) :
    TableChange certificates operation certificates := by
  have changed := @TableChange.changed certificates operation id fun _ => .kept
  rwa [List.map_id] at changed

theorem tableChange_of_step {db after : Database} {operation : StoreOperation}
    (stepped : db.storeStep operation = some after) :
    TableChange db.certificates operation after.certificates := by
  cases operation with
  | upsertApplication =>
      simp only [storeStep, upsertApplication, Option.some.injEq] at stepped
      split at stepped
      · cases stepped; exact .same _ _
      · cases stepped; exact .same _ _
  | heartbeatApplication => cases stepped; exact .same _ _
  | insertCertificate new now =>
      simp only [storeStep, insertCertificate] at stepped
      split at stepped
      · cases stepped
        exact .same _ _
      · rename_i notStored
        split at stepped
        · cases stepped
          exact .inserted rfl (by simpa using notStored) rfl rfl
        · cases stepped
  | insertPackage =>
      simp only [storeStep, insertPackage] at stepped
      split at stepped
      · cases stepped
        exact .same _ _
      · cases stepped
  | updatePackageLifecycle packageId update =>
      cases stepped
      rw [(updatePackageLifecycle_tables db packageId update).2.1]
      exact .same _ _
  | markCertificateRevoked certificateId now =>
      cases stepped
      refine .changed fun certificate => ?_
      split
      · exact .revoked now
      · exact .kept
  | markExpiredActiveCertificates now =>
      cases stepped
      refine .changed fun certificate => ?_
      split
      · rename_i isExpired
        exact .expired isExpired
      · exact .kept
  | buildTrustList => cases stepped; exact .same _ _
  | ensureTrustListCurrent =>
      simp only [storeStep, ensureTrustListCurrent, Option.some.injEq] at stepped
      split at stepped
      · split at stepped
        · cases stepped; exact .same _ _
        · cases stepped; exact .same _ _
      · cases stepped; exact .same _ _
  | insertTrustArtifact => cases stepped; exact .same _ _

/-! ## Times of revocation -/

/-- A certificate that the operation inserts is active. -/
def StoreOperation.InsertsActive : StoreOperation → Prop
  | .insertCertificate new _ => new.status = .active
  | _ => True

/-- Exactly the revoked certificates have the time of their revocation. -/
def RevocationDated (db : Database) : Prop :=
  ∀ certificate ∈ db.certificates,
    certificate.status = .revoked ↔ certificate.revokedAt.isSome = true

theorem RowChange.dated {before after : Certificate} (change : RowChange before after)
    (dated : before.status = .revoked ↔ before.revokedAt.isSome = true) :
    after.status = .revoked ↔ after.revokedAt.isSome = true := by
  cases change with
  | kept => exact dated
  | revoked now => simp
  | expired isExpired =>
      have unrevoked : before.revokedAt = none := (of_decide_eq_true isExpired).2.1
      simp [unrevoked]

theorem RevocationDated.storeStep {db after : Database} {operation : StoreOperation}
    (dated : db.RevocationDated) (active : operation.InsertsActive)
    (stepped : db.storeStep operation = some after) : after.RevocationDated := by
  have change := tableChange_of_step stepped
  rw [RevocationDated]
  generalize after.certificates = later at change ⊢
  cases change with
  | changed each =>
      intro certificate stored
      obtain ⟨old, oldStored, rfl⟩ := List.mem_map.mp stored
      exact (each old).dated (dated old oldStored)
  | @inserted new now row isInsert fresh status revokedAt =>
      intro certificate stored
      rcases List.mem_append.mp stored with old | isNew
      · exact dated certificate old
      · subst isInsert
        have isActive : row.status = .active := status.trans active
        rw [List.mem_singleton.mp isNew]
        simp [isActive, revokedAt]

theorem revocationDated_run {operations : List StoreOperation} {db : Database}
    (active : ∀ operation ∈ operations, operation.InsertsActive)
    (reached : Transition.run storeStep GdsState.initial.db operations = some db) :
    db.RevocationDated :=
  Transition.run_invariant_of_good
    (fun _ _ _ dated active stepped => RevocationDated.storeStep dated active stepped)
    (fun _ stored => absurd stored List.not_mem_nil) active reached

/-! ## Fingerprints -/

theorem RowChange.fingerprint {before after : Certificate} (change : RowChange before after) :
    after.fingerprintSha256 = before.fingerprintSha256 := by
  cases change <;> rfl

theorem TableChange.fingerprints {before after : List Certificate} {operation : StoreOperation}
    (change : TableChange before operation after)
    (unique : (before.map Certificate.fingerprintSha256).Nodup) :
    (after.map Certificate.fingerprintSha256).Nodup := by
  cases change with
  | @changed change each =>
      have same : (before.map change).map Certificate.fingerprintSha256 =
          before.map Certificate.fingerprintSha256 := by
        rw [List.map_map]
        exact List.map_congr_left fun certificate _ => (each certificate).fingerprint
      rw [same]
      exact unique
  | inserted isInsert fresh status revokedAt =>
      rw [List.map_append, List.map_singleton, ← List.concat_eq_append]
      refine unique.concat fun among => ?_
      obtain ⟨certificate, stored, same⟩ := List.mem_map.mp among
      exact fresh certificate stored same

/-- No two certificates have one fingerprint. -/
theorem fingerprints_run {operations : List StoreOperation} {db : Database}
    (reached : Transition.run storeStep GdsState.initial.db operations = some db) :
    (db.certificates.map Certificate.fingerprintSha256).Nodup := by
  have empty : (GdsState.initial.db.certificates.map Certificate.fingerprintSha256).Nodup :=
    List.nodup_nil
  exact Transition.run_invariant
    (fun _ _ _ unique stepped => (tableChange_of_step stepped).fingerprints unique) empty reached

end Database

end OpcuaGds.Gds
