import OpcuaGds.Gds.Revocation

/-! # Operations on the certificate store

The operations of the store that write applications, certificates, packages and trust
lists, and what any sequence of them does to a revoked certificate.
-/

namespace OpcuaGds.Gds

namespace Database

/-! ## Operations -/

/-- `component_type or ("server" if "server" in role else "client")`. -/
def componentTypeOrDefault (componentType : Option String) (role : Role) : String :=
  match componentType.filter (· ≠ "") with
  | some given => given
  | none => if "server".toList <:+: role.name.toList then "server" else "client"

/-- `upsert_application`. -/
def upsertApplication (db : Database) (applicationUri commonName : String) (zone : Zone)
    (role : Role) (componentType : Option String) (status : String) : Database :=
  let componentType := componentTypeOrDefault componentType role
  if db.applications.any (·.applicationUri = applicationUri) then
    { db with applications := db.applications.map fun application =>
        if application.applicationUri = applicationUri then
          { application with
            commonName := commonName
            zone := zone
            role := role
            componentType := application.componentType <|> some componentType
            status := status }
        else application }
  else
    { db with applications := db.applications ++ [{
        id := freshId (db.applications.map Application.id)
        applicationUri := applicationUri
        commonName := commonName
        zone := zone
        role := role
        componentType := some componentType
        status := status }] }

/-- `heartbeat_application`. -/
def heartbeatApplication (db : Database) (id : Nat) : Database :=
  { db with applications := db.applications.map fun application =>
      if application.id = id then { application with status := "active" } else application }

/-- What `insert_certificate` is called with. -/
structure NewCertificate where
  applicationId : Nat
  fingerprintSha256 : String
  serialNumber : Option String
  notBefore : Option Int
  notAfter : Option Int
  pem : String
  status : CertificateStatus := .active
  deriving DecidableEq, Repr

/-- `insert_certificate`: nothing for a fingerprint that is stored, an exception for an
application that is not. -/
def insertCertificate (db : Database) (new : NewCertificate) (now : Int) : Option Database :=
  if db.certificates.any (·.fingerprintSha256 = new.fingerprintSha256) then some db
  else if db.applications.any (·.id = new.applicationId) then
    some { db with certificates := db.certificates ++ [{
      id := freshId (db.certificates.map Certificate.id)
      applicationId := new.applicationId
      fingerprintSha256 := new.fingerprintSha256
      serialNumber := new.serialNumber
      notBefore := new.notBefore
      notAfter := new.notAfter
      pem := new.pem
      status := new.status
      createdAt := now
      revokedAt := none }] }
  else none

/-- `insert_certificate_package`, as far as certificates are concerned: identifiers are
unique, and the application and the certificate are stored. -/
def insertPackage (db : Database) (package : CertificatePackage) : Option Database :=
  if db.packages.any (·.packageId = package.packageId) = false ∧
      db.applications.any (·.id = package.applicationId) ∧
      package.certificateId.all (fun id => db.certificates.any (·.id = id)) then
    some { db with packages := db.packages ++ [package] }
  else none

/-- The rows that `mark_expired_active_certificates` finds. -/
def Certificate.isExpiredActive (certificate : Certificate) (now : Int) : Bool :=
  certificate.status = .active ∧ certificate.revokedAt = none ∧
    certificate.notAfter.any (· < now)

/-- `mark_expired_active_certificates`. -/
def markExpiredActiveCertificates (db : Database) (now : Int) : Database :=
  { db with certificates := db.certificates.map fun certificate =>
      if Certificate.isExpiredActive certificate now then { certificate with status := .expired }
      else certificate }

inductive StoreOperation where
  | upsertApplication (applicationUri commonName : String) (zone : Zone) (role : Role)
      (componentType : Option String) (status : String)
  | heartbeatApplication (id : Nat)
  | insertCertificate (new : NewCertificate) (now : Int)
  | insertPackage (package : CertificatePackage)
  | updatePackageLifecycle (packageId : String) (update : LifecycleUpdate)
  | markCertificateRevoked (certificateId : Nat) (now : Int)
  | markExpiredActiveCertificates (now : Int)
  | buildTrustList (zone : Zone) (role : Role) (now : Int)
  | ensureTrustListCurrent (zone : Zone) (role : Role) (now : Int)
  | insertTrustArtifact (zone : Zone) (role : Role) (trustlistVersion : Nat)
      (signed : SignedArtifact) (reason : String)

/-- One operation; one that raises changes nothing and is not enabled. -/
def storeStep (db : Database) : StoreOperation → Option Database
  | .upsertApplication applicationUri commonName zone role componentType status =>
      some (db.upsertApplication applicationUri commonName zone role componentType status)
  | .heartbeatApplication id => some (db.heartbeatApplication id)
  | .insertCertificate new now => db.insertCertificate new now
  | .insertPackage package => db.insertPackage package
  | .updatePackageLifecycle packageId update => some (db.updatePackageLifecycle packageId update)
  | .markCertificateRevoked certificateId now => some (db.markCertificateRevoked certificateId now)
  | .markExpiredActiveCertificates now => some (db.markExpiredActiveCertificates now)
  | .buildTrustList zone role now => some (db.buildTrustList zone role now)
  | .ensureTrustListCurrent zone role now => some (db.ensureTrustListCurrent zone role now)
  | .insertTrustArtifact zone role trustlistVersion signed reason =>
      some (db.insertTrustArtifact (db.newTrustArtifact zone role trustlistVersion signed reason))

/-! ## What one operation does -/

/-- A later row of a certificate: a revoked one stays revoked, at the same time. -/
structure Certificate.Continues (before after : Certificate) : Prop where
  id : after.id = before.id
  revoked : before.status = .revoked → after.status = .revoked
  revokedAt : before.status = .revoked → ∀ moment, before.revokedAt = some moment →
    after.revokedAt = some moment

theorem Certificate.Continues.refl (certificate : Certificate) :
    Certificate.Continues certificate certificate :=
  ⟨rfl, fun revoked => revoked, fun _ _ at_ => at_⟩

theorem Certificate.Continues.trans {first second third : Certificate}
    (left : Certificate.Continues first second) (right : Certificate.Continues second third) :
    Certificate.Continues first third where
  id := right.id.trans left.id
  revoked revoked := right.revoked (left.revoked revoked)
  revokedAt revoked moment at_ :=
    right.revokedAt (left.revoked revoked) moment (left.revokedAt revoked moment at_)

/-- Every operation continues the certificates row by row, adds certificates under new
identifiers, and adds trust lists that are composed from the rows it finds. -/
structure StoreEffect (before after : Database) : Prop where
  certificates : ∃ kept added, after.certificates = kept ++ added ∧
    List.Forall₂ Certificate.Continues before.certificates kept ∧
      ∀ certificate ∈ added, certificate.id = freshId (before.certificates.map Certificate.id)
  added : after.certificates.length ≤ before.certificates.length + 1
  trustLists : ∃ built, after.trustLists = before.trustLists ++ built ∧
    ∀ trustList ∈ built, ∃ zone role now, trustList = before.newTrustList zone role now

theorem forall₂_continues_refl (certificates : List Certificate) :
    List.Forall₂ Certificate.Continues certificates certificates :=
  List.forall₂_same.mpr fun certificate _ => .refl certificate

theorem forall₂_continues_map {certificates : List Certificate}
    {change : Certificate → Certificate}
    (continues : ∀ certificate, Certificate.Continues certificate (change certificate)) :
    List.Forall₂ Certificate.Continues certificates (certificates.map change) :=
  List.forall₂_map_right_iff.mpr (List.forall₂_same.mpr fun certificate _ => continues certificate)

theorem StoreEffect.of_same {before after : Database}
    (certificates : after.certificates = before.certificates)
    (trustLists : after.trustLists = before.trustLists) : StoreEffect before after where
  certificates := ⟨before.certificates, [], by rw [certificates, List.append_nil],
    forall₂_continues_refl _, fun _ member => nomatch member⟩
  added := by rw [certificates]; exact Nat.le_succ _
  trustLists := ⟨[], by rw [trustLists, List.append_nil], fun _ member => nomatch member⟩

theorem StoreEffect.of_map {before after : Database} {change : Certificate → Certificate}
    (continues : ∀ certificate, Certificate.Continues certificate (change certificate))
    (certificates : after.certificates = before.certificates.map change)
    (trustLists : after.trustLists = before.trustLists) : StoreEffect before after where
  certificates := ⟨before.certificates.map change, [], by rw [certificates, List.append_nil],
    forall₂_continues_map continues, fun _ member => nomatch member⟩
  added := by rw [certificates, List.length_map]; exact Nat.le_succ _
  trustLists := ⟨[], by rw [trustLists, List.append_nil], fun _ member => nomatch member⟩

theorem storeEffect_buildTrustList (db : Database) (zone : Zone) (role : Role) (now : Int) :
    StoreEffect db (db.buildTrustList zone role now) where
  certificates := ⟨db.certificates, [], (List.append_nil _).symm, forall₂_continues_refl _,
    fun _ member => nomatch member⟩
  added := Nat.le_succ _
  trustLists := ⟨[db.newTrustList zone role now], rfl, fun _ member =>
    ⟨zone, role, now, List.mem_singleton.mp member⟩⟩

theorem continues_markRevoked (certificateId : Nat) (now : Int) (certificate : Certificate) :
    Certificate.Continues certificate
      (if certificate.id = certificateId then
        { certificate with
          status := .revoked
          revokedAt := some (certificate.revokedAt.getD now) }
      else certificate) := by
  split
  · refine ⟨rfl, fun _ => rfl, ?_⟩
    intro _ moment at_
    simp only [at_, Option.getD_some]
  · exact .refl certificate

theorem continues_markExpired (now : Int) (certificate : Certificate) :
    Certificate.Continues certificate
      (if Certificate.isExpiredActive certificate now then { certificate with status := .expired }
      else certificate) := by
  split
  · rename_i expired
    have facts := of_decide_eq_true expired
    refine ⟨rfl, ?_, ?_⟩
    · intro revoked
      rw [facts.1] at revoked
      cases revoked
    · intro revoked
      rw [facts.1] at revoked
      cases revoked
  · exact .refl certificate

theorem storeEffect_insertCertificate {db after : Database} {new : NewCertificate} {now : Int}
    (inserted : db.insertCertificate new now = some after) : StoreEffect db after := by
  unfold insertCertificate at inserted
  split at inserted
  · cases inserted
    exact .of_same rfl rfl
  · split at inserted
    · cases inserted
      refine ⟨⟨db.certificates, _, rfl, forall₂_continues_refl _, ?_⟩, ?_, [], ?_, ?_⟩
      · intro certificate member
        rw [List.mem_singleton.mp member]
      · simp
      · exact (List.append_nil _).symm
      · exact fun _ member => nomatch member
    · cases inserted

theorem storeEffect_step {db after : Database} {operation : StoreOperation}
    (stepped : db.storeStep operation = some after) : StoreEffect db after := by
  cases operation with
  | upsertApplication =>
      cases stepped
      unfold upsertApplication
      dsimp only
      split
      · exact .of_same rfl rfl
      · exact .of_same rfl rfl
  | heartbeatApplication => cases stepped; exact .of_same rfl rfl
  | insertCertificate => exact storeEffect_insertCertificate stepped
  | insertPackage =>
      simp only [storeStep, insertPackage] at stepped
      split at stepped
      · cases stepped
        exact .of_same rfl rfl
      · cases stepped
  | updatePackageLifecycle packageId update =>
      cases stepped
      obtain ⟨lists, certificates, _⟩ := updatePackageLifecycle_tables db packageId update
      exact .of_same certificates lists.trustLists
  | markCertificateRevoked certificateId now =>
      cases stepped
      exact .of_map (continues_markRevoked certificateId now) rfl rfl
  | markExpiredActiveCertificates now =>
      cases stepped
      exact .of_map (continues_markExpired now) rfl rfl
  | buildTrustList zone role now =>
      cases stepped
      exact storeEffect_buildTrustList db zone role now
  | ensureTrustListCurrent zone role now =>
      cases stepped
      unfold ensureTrustListCurrent
      split
      · split
        · exact .of_same rfl rfl
        · exact storeEffect_buildTrustList db zone role now
      · exact storeEffect_buildTrustList db zone role now
  | insertTrustArtifact => cases stepped; exact .of_same rfl rfl

/-! ## Runs -/

theorem map_id_of_continues {before after : List Certificate}
    (continues : List.Forall₂ Certificate.Continues before after) :
    after.map Certificate.id = before.map Certificate.id := by
  induction continues with
  | nil => rfl
  | cons same _ ih => rw [List.map_cons, List.map_cons, same.id, ih]

theorem StoreEffect.nodup {before after : Database} (effect : StoreEffect before after)
    (unique : (before.certificates.map Certificate.id).Nodup) :
    (after.certificates.map Certificate.id).Nodup := by
  obtain ⟨kept, added, table, continues, fresh⟩ := effect.certificates
  have ids := map_id_of_continues continues
  have size := effect.added
  have keptSize := continues.length_eq
  rw [table, List.length_append] at size
  have atMostOne : added.length ≤ 1 := by omega
  rw [table, List.map_append, ids]
  cases added with
  | nil => simpa using unique
  | cons certificate more =>
      obtain rfl : more = [] :=
        List.eq_nil_of_length_eq_zero (Nat.le_zero.mp (Nat.succ_le_succ_iff.mp atMostOne))
      rw [List.map_singleton, fresh certificate List.mem_cons_self]
      rw [← List.concat_eq_append]
      exact unique.concat (freshId_notMem _)

/-- What becomes of a revoked certificate: its row stays revoked at its first time, and
no trust list that is added holds it. -/
structure StaysRevoked (before after : Database) (certificate : Certificate) : Prop where
  row : ∃ later ∈ after.certificates, later.id = certificate.id ∧ later.status = .revoked ∧
    ∀ moment, certificate.revokedAt = some moment → later.revokedAt = some moment
  lists : ∃ built, after.trustLists = before.trustLists ++ built ∧
    ∀ trustList ∈ built, certificate.id ∉ trustList.members

theorem isRevoked_of_row {db : Database} (unique : (db.certificates.map Certificate.id).Nodup)
    {certificate : Certificate} (stored : certificate ∈ db.certificates)
    (revoked : certificate.status = .revoked) : db.IsRevoked certificate.id := by
  intro other otherStored same
  rw [List.inj_on_of_nodup_map unique otherStored stored same]
  simp [Certificate.isActive, revoked]

theorem StoreEffect.staysRevoked {before after : Database} (effect : StoreEffect before after)
    (unique : (before.certificates.map Certificate.id).Nodup) {certificate : Certificate}
    (stored : certificate ∈ before.certificates) (revoked : certificate.status = .revoked) :
    StaysRevoked before after certificate := by
  constructor
  · obtain ⟨kept, added, table, continues, _⟩ := effect.certificates
    obtain ⟨index, bound, rfl⟩ := List.getElem_of_mem stored
    have keptBound : index < kept.length := continues.length_eq ▸ bound
    have later := continues.get bound keptBound
    refine ⟨kept[index], ?_, later.id, later.revoked revoked, later.revokedAt revoked⟩
    rw [table]
    exact List.mem_append_left _ (List.getElem_mem keptBound)
  · obtain ⟨built, lists, composed⟩ := effect.trustLists
    refine ⟨built, lists, ?_⟩
    intro trustList member listed
    obtain ⟨zone, role, now, rfl⟩ := composed trustList member
    exact (isRevoked_of_row unique stored revoked).notMem_desired zone role
      (List.mem_dedup.mp listed)

theorem nodup_run {operations : List StoreOperation} {before after : Database}
    (unique : (before.certificates.map Certificate.id).Nodup)
    (reached : Transition.run storeStep before operations = some after) :
    (after.certificates.map Certificate.id).Nodup :=
  Transition.run_invariant (fun _ _ _ unique stepped => (storeEffect_step stepped).nodup unique)
    unique reached

theorem staysRevoked_run {operations : List StoreOperation} {before after : Database}
    (unique : (before.certificates.map Certificate.id).Nodup) {certificate : Certificate}
    (stored : certificate ∈ before.certificates) (revoked : certificate.status = .revoked)
    (reached : Transition.run storeStep before operations = some after) :
    StaysRevoked before after certificate := by
  induction operations generalizing before certificate with
  | nil =>
      cases reached
      exact ⟨⟨certificate, stored, rfl, revoked, fun _ at_ => at_⟩, [], (List.append_nil _).symm,
        fun _ member => nomatch member⟩
  | cons operation rest ih =>
      obtain ⟨next, stepped, onward⟩ := Transition.run_cons_eq_some.mp reached
      have effect := storeEffect_step stepped
      have here := effect.staysRevoked unique stored revoked
      obtain ⟨later, laterStored, id, laterRevoked, laterAt⟩ := here.row
      obtain ⟨built, lists, excluded⟩ := here.lists
      have onwards := ih (effect.nodup unique) laterStored laterRevoked onward
      obtain ⟨last, lastStored, lastId, lastRevoked, lastAt⟩ := onwards.row
      obtain ⟨more, moreLists, moreExcluded⟩ := onwards.lists
      refine ⟨⟨last, lastStored, lastId.trans id, lastRevoked, ?_⟩, built ++ more, ?_, ?_⟩
      · exact fun moment at_ => lastAt moment (laterAt moment at_)
      · rw [moreLists, lists, List.append_assoc]
      · intro trustList member
        rcases List.mem_append.mp member with first | second
        · exact excluded trustList first
        · exact id ▸ moreExcluded trustList second

/-- Revoked is absorbing: in every run of the store from its empty tables, a certificate
that is revoked at some point stays revoked at its first time, and every trust list
version created from then on excludes it. -/
theorem revoked_is_absorbing {front back : List StoreOperation} {middle last : Database}
    (first : Transition.run storeStep GdsState.initial.db front = some middle)
    (second : Transition.run storeStep middle back = some last) {certificate : Certificate}
    (stored : certificate ∈ middle.certificates) (revoked : certificate.status = .revoked) :
    StaysRevoked middle last certificate := by
  have empty : (GdsState.initial.db.certificates.map Certificate.id).Nodup := List.nodup_nil
  exact staysRevoked_run (nodup_run empty first) stored revoked second

/-! A client of the OT server is revoked, its certificate is inserted once more, expiry is
marked, it is revoked again and the list is ensured. -/

def exampleNewCertificate : NewCertificate where
  applicationId := 1
  fingerprintSha256 := "ab"
  serialNumber := some "7"
  notBefore := some 0
  notAfter := some 40
  pem := "pem"

def untilRevocation : List StoreOperation :=
  [.upsertApplication "urn:client" "Client" .ot .scadaClient none "active",
    .insertCertificate exampleNewCertificate 10, .buildTrustList .ot .server 20,
    .markCertificateRevoked 1 30]

def afterRevocation : List StoreOperation :=
  [.insertCertificate exampleNewCertificate 40, .markExpiredActiveCertificates 50,
    .markCertificateRevoked 1 60, .ensureTrustListCurrent .ot .server 70]

theorem revoked_client_stays_revoked :
    ∃ middle last, Transition.run storeStep GdsState.initial.db untilRevocation = some middle ∧
      Transition.run storeStep middle afterRevocation = some last ∧
        ∃ certificate ∈ middle.certificates, StaysRevoked middle last certificate := by
  have stays {middle last : Database}
      (first : Transition.run storeStep GdsState.initial.db untilRevocation = some middle)
      (second : Transition.run storeStep middle afterRevocation = some last)
      {certificate : Certificate} (stored : certificate ∈ middle.certificates)
      (revoked : certificate.status = .revoked) : StaysRevoked middle last certificate :=
    revoked_is_absorbing first second stored revoked
  exact ⟨_, _, rfl, rfl, _, List.mem_cons_self, stays rfl rfl List.mem_cons_self rfl⟩

end Database

end OpcuaGds.Gds
