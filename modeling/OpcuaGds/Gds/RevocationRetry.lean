import OpcuaGds.Foundation.Transition
import OpcuaGds.Gds.RevocationEffects

/-! # Revocation, failed and repeated

A call of `revoke_certificate` commits after each step, and a call that failed is made
again. What any number of such calls leave of the packages, of the certificate row and of
the trust list of its place is compared with one call that goes through.
-/

namespace OpcuaGds.Gds

/-- Filtering by a column that an update keeps. -/
theorem filter_map_of_kept {Row : Type} {update : Row → Row} {column : Row → Bool}
    (kept : ∀ row, column (update row) = column row) (rows : List Row) :
    (rows.map update).filter column = (rows.filter column).map update := by
  rw [List.filter_map]
  exact congrArg (List.map update) (List.filter_congr fun row _ => kept row)

theorem find?_map_of_kept {Row : Type} {update : Row → Row} {column : Row → Bool}
    (kept : ∀ row, column (update row) = column row) (rows : List Row) :
    (rows.map update).find? column = (rows.find? column).map update := by
  rw [List.find?_map]
  exact congrArg _ (congrArg (fun chosen => rows.find? chosen) (funext kept))

/-! ## The marked certificate -/

namespace Database

/-- The row after `mark_certificate_revoked`. -/
def markedRow (certificateId : Nat) (now : Int) (certificate : Certificate) : Certificate :=
  if certificate.id = certificateId then
    { certificate with
      status := .revoked
      revokedAt := some (certificate.revokedAt.getD now) }
  else certificate

theorem markCertificateRevoked_certificates (db : Database) (certificateId : Nat) (now : Int) :
    (db.markCertificateRevoked certificateId now).certificates =
      db.certificates.map (markedRow certificateId now) := rfl

section MarkedRow

variable (certificateId : Nat) (now later : Int) (certificate : Certificate)

/-- A mark keeps what a row is found and resolved by. -/
theorem markedRow_keys :
    (markedRow certificateId now certificate).id = certificate.id ∧
      (markedRow certificateId now certificate).applicationId = certificate.applicationId ∧
      (markedRow certificateId now certificate).fingerprintSha256 =
        certificate.fingerprintSha256 ∧
      (markedRow certificateId now certificate).serialNumber = certificate.serialNumber := by
  rw [markedRow]
  split
  · exact ⟨rfl, rfl, rfl, rfl⟩
  · exact ⟨rfl, rfl, rfl, rfl⟩

/-- `COALESCE` keeps the first moment. -/
theorem markedRow_markedRow :
    markedRow certificateId later (markedRow certificateId now certificate) =
      markedRow certificateId now certificate := by
  by_cases chosen : certificate.id = certificateId
  · simp [markedRow, chosen]
  · simp [markedRow, chosen]

theorem markedRow_of_ne (other : certificate.id ≠ certificateId) :
    markedRow certificateId now certificate = certificate := if_neg other

theorem isActive_markedRow :
    Certificate.isActive (markedRow certificateId now certificate) =
      (Certificate.isActive certificate && decide (certificate.id ≠ certificateId)) := by
  by_cases chosen : certificate.id = certificateId
  · simp [markedRow, chosen, Certificate.isActive]
  · simp [markedRow, chosen]

end MarkedRow

/-- A second mark changes nothing. -/
theorem markCertificateRevoked_again {start middle : Database} {certificateId : Nat} {now : Int}
    (marked : middle.certificates =
      (start.markCertificateRevoked certificateId now).certificates) (later : Int) :
    (middle.markCertificateRevoked certificateId later).certificates =
      (start.markCertificateRevoked certificateId now).certificates := by
  rw [markCertificateRevoked_certificates, marked, markCertificateRevoked_certificates,
    List.map_map]
  exact List.map_congr_left fun certificate _ =>
    markedRow_markedRow certificateId now later certificate

theorem certificate?_mark (db : Database) (certificateId : Nat) (now : Int) (id : Nat) :
    (db.markCertificateRevoked certificateId now).certificate? id =
      (db.certificate? id).map (markedRow certificateId now) := by
  rw [certificate?, markCertificateRevoked_certificates]
  refine find?_map_of_kept (fun certificate => ?_) db.certificates
  rw [(markedRow_keys certificateId now certificate).1]

/-- A marked certificate is no candidate any more, and all others stay candidates. -/
theorem activatedCertificates_mark (db : Database) (certificateId : Nat) (now : Int)
    (applicationId : Nat) :
    (db.markCertificateRevoked certificateId now).activatedCertificates applicationId =
      (db.activatedCertificates applicationId).filter fun row => row.2.id ≠ certificateId := by
  rw [activatedCertificates, activatedCertificates, List.filter_filterMap]
  refine List.filterMap_congr fun package _ => ?_
  split
  · cases package.certificateId with
    | none => rfl
    | some id =>
        simp only [Option.bind_some, certificate?_mark]
        cases db.certificate? id with
        | none => rfl
        | some certificate =>
            simp only [Option.map_some, Option.bind_some, isActive_markedRow]
            by_cases active : Certificate.isActive certificate = true
            · by_cases chosen : certificate.id = certificateId
              · simp [active, chosen, Option.filter_some]
              · simp [active, chosen, markedRow_of_ne, Option.filter_some]
            · simp [active]
  · rfl

theorem ownActiveCertificates_mark (db : Database) (certificateId : Nat) (now : Int)
    (applicationId : Nat) :
    (db.markCertificateRevoked certificateId now).ownActiveCertificates applicationId =
      (db.ownActiveCertificates applicationId).filter fun certificate =>
        certificate.id ≠ certificateId := by
  rw [ownActiveCertificates, ownActiveCertificates, markCertificateRevoked_certificates,
    List.filter_map, List.filter_filter]
  have kept : ∀ certificate : Certificate,
      decide ((markedRow certificateId now certificate).applicationId = applicationId ∧
          Certificate.isActive (markedRow certificateId now certificate) = true) =
        (decide (certificate.id ≠ certificateId) &&
          decide (certificate.applicationId = applicationId ∧
            Certificate.isActive certificate = true)) := by
    intro certificate
    rw [(markedRow_keys certificateId now certificate).2.1, isActive_markedRow]
    by_cases chosen : certificate.id = certificateId
    · simp [chosen]
    · simp [chosen]
  refine (congrArg (List.map _) (List.filter_congr fun certificate _ => kept certificate)).trans ?_
  refine (List.map_congr_left fun certificate member => ?_).trans (List.map_id _)
  have facts := (List.mem_filter.mp member).2
  rw [Bool.and_eq_true, decide_eq_true_eq] at facts
  exact markedRow_of_ne certificateId now certificate facts.1

/-- What a list is composed of does not depend on the moment of a mark. -/
theorem desired_mark (db : Database) (certificateId : Nat) (now later : Int) (zone : Zone)
    (role : Role) :
    (db.markCertificateRevoked certificateId now).desiredTrustlistCertificateIds zone role =
      (db.markCertificateRevoked certificateId later).desiredTrustlistCertificateIds zone role := by
  have selected : (db.markCertificateRevoked certificateId now).activeCertificateIdForApplication =
      (db.markCertificateRevoked certificateId later).activeCertificateIdForApplication := by
    funext applicationId
    rw [activeCertificateIdForApplication, activeCertificateIdForApplication,
      activatedCertificates_mark, activatedCertificates_mark, ownActiveCertificates_mark,
      ownActiveCertificates_mark]
  rw [desiredTrustlistCertificateIds, desiredTrustlistCertificateIds, selected]
  rfl

/-! ## What later attempts find -/

/-- What attempts to revoke a certificate may have done to the tables: the certificate is
marked at one of the given times, or not yet, and some of its packages are updated. -/
structure PartlyRevoked (start : Database) (certificateId : Nat) (times : List Int)
    (middle : Database) : Prop where
  applications : middle.applications = start.applications
  certificates : middle.certificates = start.certificates ∨ ∃ now ∈ times,
    middle.certificates = (start.markCertificateRevoked certificateId now).certificates
  packages : ∃ done ⊆ start.packageIdsForCertificate certificateId,
    middle.packages = requestRows .revoked done start.packages

variable {start middle : Database} {certificateId : Nat} {times : List Int}

theorem PartlyRevoked.refl (start : Database) (certificateId : Nat) (times : List Int) :
    PartlyRevoked start certificateId times start :=
  ⟨rfl, .inl rfl, [], List.nil_subset _, (requestRows_nil _ _).symm⟩

theorem PartlyRevoked.mono {more : List Int}
    (partly : PartlyRevoked start certificateId times middle) (within : times ⊆ more) :
    PartlyRevoked start certificateId more middle :=
  ⟨partly.applications, partly.certificates.imp_right fun ⟨now, listed, marked⟩ =>
    ⟨now, within listed, marked⟩, partly.packages⟩

/-- An update keeps the columns that packages are found and listed by. -/
theorem requestRow_keys (done : List String) (row : CertificatePackage) :
    (if row.packageId ∈ done then row.request .revoked else row).packageId = row.packageId ∧
      (if row.packageId ∈ done then row.request .revoked else row).certificateId =
        row.certificateId ∧
      (if row.packageId ∈ done then row.request .revoked else row).generation =
        row.generation := by
  split
  · exact ⟨rfl, rfl, rfl⟩
  · exact ⟨rfl, rfl, rfl⟩

/-- The packages of a certificate are listed alike whatever was updated. -/
theorem packageIdsForCertificate_of_packages {done : List String}
    (packages : middle.packages = requestRows .revoked done start.packages)
    (certificateId : Nat) :
    middle.packageIdsForCertificate certificateId =
      start.packageIdsForCertificate certificateId := by
  rw [packageIdsForCertificate, packageIdsForCertificate, packagesForCertificate,
    packagesForCertificate, packages, requestRows, filter_map_of_kept]
  · rw [← List.map_insertionSort (fun left right : CertificatePackage =>
        right.generation ≤ left.generation) _ _ _ fun left _ right _ => by
          rw [(requestRow_keys done left).2.2, (requestRow_keys done right).2.2],
      List.map_map]
    exact List.map_congr_left fun row _ => (requestRow_keys done row).1
  · intro row
    rw [(requestRow_keys done row).2.1]

/-- A body chooses the same row when rows keep what it selects by. -/
theorem resolveRevokeCertificate_of_maps {done : List String} (row : Certificate → Certificate)
    (ids : ∀ certificate, (row certificate).id = certificate.id)
    (fingerprints : ∀ certificate,
      (row certificate).fingerprintSha256 = certificate.fingerprintSha256)
    (certificates : middle.certificates = start.certificates.map row)
    (packages : middle.packages = requestRows .revoked done start.packages)
    {body : RevokeCertificateBody} {certificate : Certificate}
    (resolved : start.resolveRevokeCertificate body = .ok (some certificate)) :
    middle.resolveRevokeCertificate body = .ok (some (row certificate)) := by
  have byId : ∀ id, middle.certificate? id = (start.certificate? id).map row := by
    intro id
    rw [certificate?, certificates]
    exact find?_map_of_kept (fun certificate => by rw [ids]) start.certificates
  have byFingerprint : ∀ fingerprint, middle.certificateByFingerprint? fingerprint =
      (start.certificateByFingerprint? fingerprint).map row := by
    intro fingerprint
    rw [certificateByFingerprint?, certificates]
    exact find?_map_of_kept (fun certificate => by rw [fingerprints]) start.certificates
  have ofPackage : ∀ packageId, (middle.package? packageId).bind (fun row => row.certificateId) =
      (start.package? packageId).bind fun row => row.certificateId := by
    intro packageId
    rw [package?, packages, requestRows, find?_map_of_kept]
    · rw [package?]
      cases start.packages.find? fun row => row.packageId = packageId with
      | none => rfl
      | some package => exact (requestRow_keys done package).2.1
    · intro row
      rw [(requestRow_keys done row).1]
  unfold resolveRevokeCertificate at resolved ⊢
  dsimp only at resolved ⊢
  split at resolved
  · rename_i packageId _ _ _
    rw [ofPackage]
    cases has : (start.package? packageId).bind fun row => row.certificateId with
    | none =>
        rw [has] at resolved
        cases resolved
    | some id =>
        rw [has, Option.bind_some] at resolved
        rw [Option.bind_some, byId, Except.ok.inj resolved]
        rfl
  · rw [byId, Except.ok.inj resolved]
    rfl
  · rw [byFingerprint, Except.ok.inj resolved]
    rfl
  · cases resolved

/-- The row that later attempts find. -/
theorem PartlyRevoked.resolve (partly : PartlyRevoked start certificateId times middle)
    {body : RevokeCertificateBody} {certificate : Certificate}
    (resolved : start.resolveRevokeCertificate body = .ok (some certificate)) :
    ∃ row, middle.resolveRevokeCertificate body = .ok (some row) ∧
      (row = certificate ∨ ∃ now, row = markedRow certificateId now certificate) := by
  obtain ⟨done, _, packages⟩ := partly.packages
  rcases partly.certificates with same | ⟨now, _, marked⟩
  · refine ⟨certificate, resolveRevokeCertificate_of_maps id (fun _ => rfl) (fun _ => rfl) ?_
      packages resolved, .inl rfl⟩
    rw [same, List.map_id]
  · have keys := markedRow_keys certificateId now
    exact ⟨_, resolveRevokeCertificate_of_maps _ (fun row => (keys row).1)
      (fun row => (keys row).2.2.1) marked packages resolved, .inr ⟨now, rfl⟩⟩

theorem PartlyRevoked.unique (partly : PartlyRevoked start certificateId times middle)
    (unique : (start.packages.map fun row => row.packageId).Nodup) :
    (middle.packages.map fun row => row.packageId).Nodup := by
  obtain ⟨done, _, packages⟩ := partly.packages
  rw [packages, map_packageId_requestRows]
  exact unique

/-- Attempts add up. -/
theorem PartlyRevoked.trans {last : Database}
    (before : PartlyRevoked start certificateId times middle)
    (after : PartlyRevoked middle certificateId times last) :
    PartlyRevoked start certificateId times last := by
  obtain ⟨first, firstWithin, firstPackages⟩ := before.packages
  obtain ⟨second, secondWithin, secondPackages⟩ := after.packages
  rw [packageIdsForCertificate_of_packages firstPackages] at secondWithin
  refine ⟨after.applications.trans before.applications, ?_, first ++ second,
    List.append_subset.mpr ⟨firstWithin, secondWithin⟩, ?_⟩
  · rcases before.certificates with unmarked | ⟨now, listed, marked⟩
    · rcases after.certificates with same | ⟨now, listed, marked⟩
      · exact .inl (same.trans unmarked)
      · refine .inr ⟨now, listed, marked.trans ?_⟩
        rw [markCertificateRevoked_certificates, unmarked, markCertificateRevoked_certificates]
    · rcases after.certificates with same | ⟨later, _, again⟩
      · exact .inr ⟨now, listed, same.trans marked⟩
      · exact .inr ⟨now, listed, again.trans (markCertificateRevoked_again marked later)⟩
  · rw [secondPackages, firstPackages, requestRows_requestRows]

end Database

section Attempts

variable {PrivateKey PublicKey : Type} {crypto : Crypto PrivateKey PublicKey}
  {settings : RegenerationSettings} {signer : Option (TrustArtifactSigner PrivateKey)}

variable (crypto settings signer) in
/-- One attempt revokes a part. -/
theorem partlyRevoked_of_steps (answers : RevocationAnswers) (reason : String)
    (certificate : Certificate) (application : Application) {state : GdsState}
    (unique : (state.db.packages.map fun row => row.packageId).Nodup) :
    state.db.PartlyRevoked certificate.id answers.markedAt.toList
      (revokeSteps crypto settings signer answers reason certificate application state).1.db := by
  obtain ⟨unmarked, marks⟩ := revokeSteps_tables crypto settings signer answers reason certificate
    application state unique rfl
  cases marked : answers.marked? certificate with
  | none =>
      rw [unmarked marked]
      exact .refl _ _ _
  | some now =>
      have tables := marks now marked
      have moment : answers.markedAt = some now := by
        rw [RevocationAnswers.marked?] at marked
        split at marked
        · cases marked
        · exact marked
      exact ⟨revokeSteps_applications crypto settings signer answers reason certificate application
          state unique,
        .inr ⟨now, Option.mem_toList.mpr moment, tables.certificates⟩, _,
        (List.takeWhile_sublist _).subset, tables.packages⟩

variable (crypto settings signer) in
/-- A call for a stored certificate with a serial number takes its steps. -/
theorem revokeCertificate_of_resolved {body : RevokeCertificateBody} {state : GdsState}
    {certificate : Certificate} {application : Application}
    (resolved : state.db.resolveRevokeCertificate body = .ok (some certificate))
    (owner : state.db.application? certificate.applicationId = some application)
    (serial : PythonText.strip (certificate.serialNumber.getD "") ≠ "")
    (answers : RevocationAnswers) :
    (revokeCertificate crypto settings signer body answers state).1 =
        (revokeSteps crypto settings signer answers body.reason certificate application state).1 ∧
      (revokeCertificate crypto settings signer body answers state).2 =
        if (revokeSteps crypto settings signer answers body.reason certificate application
            state).2 = true then
          .revoked certificate.id (state.db.packageIdsForCertificate certificate.id)
        else .failed := by
  simp only [revokeCertificate, resolved, Option.bind_some, owner, Option.map_some, if_neg serial]
  generalize revokeSteps crypto settings signer answers body.reason certificate application state =
    result
  obtain ⟨after, completed⟩ := result
  cases completed
  · exact ⟨rfl, rfl⟩
  · exact ⟨rfl, rfl⟩

/-- Conversely, an answer other than a refusal comes from such a certificate. -/
theorem resolved_of_answer {body : RevokeCertificateBody} {answers : RevocationAnswers}
    {state : GdsState} (answered : ∀ status code,
      (revokeCertificate crypto settings signer body answers state).2 ≠ .refused status code) :
    ∃ certificate application, state.db.resolveRevokeCertificate body = .ok (some certificate) ∧
      state.db.application? certificate.applicationId = some application ∧
      PythonText.strip (certificate.serialNumber.getD "") ≠ "" := by
  unfold revokeCertificate at answered
  split at answered
  · exact absurd rfl (answered _ _)
  · rename_i found resolved
    split at answered
    · exact absurd rfl (answered _ _)
    · rename_i certificate application joined
      split at answered
      · exact absurd rfl (answered _ _)
      · rename_i serial
        obtain ⟨chosen, rfl, owner⟩ := Option.bind_eq_some_iff.mp joined
        obtain ⟨owned, isOwner, pair⟩ := Option.map_eq_some_iff.mp owner
        cases pair
        exact ⟨certificate, application, resolved, isOwner, serial⟩

variable (crypto settings signer) in
/-- An attempt after others that revoked a part takes its steps for the row as it is now,
and answers by how they end. -/
theorem attempt_of_partlyRevoked {start : Database} {times : List Int}
    {body : RevokeCertificateBody} {certificate : Certificate} {application : Application}
    (resolved : start.resolveRevokeCertificate body = .ok (some certificate))
    (owner : start.application? certificate.applicationId = some application)
    (serial : PythonText.strip (certificate.serialNumber.getD "") ≠ "")
    (answers : RevocationAnswers) {state : GdsState}
    (partly : start.PartlyRevoked certificate.id times state.db) :
    ∃ row, row.id = certificate.id ∧ (certificate.status = .revoked → row.status = .revoked) ∧
      (revokeCertificate crypto settings signer body answers state).1 =
        (revokeSteps crypto settings signer answers body.reason row application state).1 ∧
      (revokeCertificate crypto settings signer body answers state).2 =
        if (revokeSteps crypto settings signer answers body.reason row application
            state).2 = true then
          .revoked certificate.id (start.packageIdsForCertificate certificate.id)
        else .failed := by
  obtain ⟨row, found, isRow⟩ := partly.resolve resolved
  have same : row.id = certificate.id ∧ row.applicationId = certificate.applicationId ∧
      row.serialNumber = certificate.serialNumber ∧
      (certificate.status = .revoked → row.status = .revoked) := by
    rcases isRow with rfl | ⟨now, rfl⟩
    · exact ⟨rfl, rfl, rfl, id⟩
    · obtain ⟨sameId, sameOwner, _, sameSerial⟩ :=
        Database.markedRow_keys certificate.id now certificate
      refine ⟨sameId, sameOwner, sameSerial, fun _ => ?_⟩
      rw [Database.markedRow, if_pos rfl]
  obtain ⟨sameId, sameOwner, sameSerial, sameStatus⟩ := same
  obtain ⟨done, _, packages⟩ := partly.packages
  have rowOwner : state.db.application? row.applicationId = some application := by
    rw [Database.application?, partly.applications, sameOwner]
    exact owner
  obtain ⟨next, answer⟩ := revokeCertificate_of_resolved crypto settings signer found rowOwner
    (sameSerial ▸ serial) answers
  rw [sameId, Database.packageIdsForCertificate_of_packages packages] at answer
  exact ⟨row, sameId, sameStatus, next, answer⟩

/-! ## Attempts until one goes through -/

variable (crypto settings signer) in
/-- A call that fails. -/
def failedAttempt (body : RevokeCertificateBody) (state : GdsState) (answers : RevocationAnswers) :
    Option GdsState :=
  match revokeCertificate crypto settings signer body answers state with
  | (next, .failed) => some next
  | _ => none

theorem failedAttempt_eq_some {body : RevokeCertificateBody} {answers : RevocationAnswers}
    {state next : GdsState} :
    failedAttempt crypto settings signer body state answers = some next ↔
      revokeCertificate crypto settings signer body answers state = (next, .failed) := by
  unfold failedAttempt
  split
  · rename_i after called
    rw [called]
    simp
  · rename_i notFailed
    constructor
    · exact nofun
    · exact fun called => absurd called (notFailed next)

/-- Attempts that failed leave the certificate partly revoked. -/
theorem partlyRevoked_of_failedAttempts {body : RevokeCertificateBody} {certificate : Certificate}
    {application : Application} {start middle : GdsState}
    (unique : (start.db.packages.map fun row => row.packageId).Nodup)
    (resolved : start.db.resolveRevokeCertificate body = .ok (some certificate))
    (owner : start.db.application? certificate.applicationId = some application)
    (serial : PythonText.strip (certificate.serialNumber.getD "") ≠ "")
    {attempts : List RevocationAnswers}
    (failed : Transition.run (failedAttempt crypto settings signer body) start attempts =
      some middle) :
    start.db.PartlyRevoked certificate.id
      (attempts.filterMap fun attempt => attempt.markedAt) middle.db := by
  have kept : ∀ state answers next, start.db.PartlyRevoked certificate.id
      (attempts.filterMap fun attempt => attempt.markedAt) state.db → answers ∈ attempts →
        failedAttempt crypto settings signer body state answers = some next →
          start.db.PartlyRevoked certificate.id
            (attempts.filterMap fun attempt => attempt.markedAt) next.db := by
    intro state answers next partly listed stepped
    obtain ⟨row, sameId, _, taken, _⟩ := attempt_of_partlyRevoked crypto settings signer resolved
      owner serial answers partly
    have steps := partlyRevoked_of_steps crypto settings signer answers body.reason row application
      (partly.unique unique)
    rw [← taken, failedAttempt_eq_some.mp stepped, sameId] at steps
    refine partly.trans (steps.mono fun now moment => ?_)
    exact List.mem_filterMap.mpr ⟨answers, listed, Option.mem_toList.mp moment⟩
  exact Transition.run_invariant_of_good kept (.refl _ _ _) (fun _ listed => listed) failed

end Attempts

/-! ## The end of a revocation -/

namespace Database

/-- The certificate is marked at a moment of one of the calls: status `revoked`, with
the time that was there or else that moment. -/
def MarkedDuring (start : Database) (certificateId : Nat) (calls : List RevocationAnswers)
    (after : Database) : Prop :=
  ∃ call ∈ calls, ∃ now ∈ call.markedAt,
    after.certificates = (start.markCertificateRevoked certificateId now).certificates

/-- The end of a revocation that took the given calls: the certificate is marked, its
packages are updated and the list of its place is composed from these rows. -/
structure Revoked (start : Database) (certificateId : Nat) (zone : Zone) (role : Role)
    (calls : List RevocationAnswers) (after : Database) : Prop where
  marked : start.MarkedDuring certificateId calls after
  packages : after.packages =
    requestRows .revoked (start.packageIdsForCertificate certificateId) start.packages
  members : ∀ now id, id ∈ after.latestMembers zone role ↔
    id ∈ (start.withRevoked certificateId now
      (start.packageIdsForCertificate certificateId)).desiredTrustlistCertificateIds zone role

/-- Two ends of one revocation, by one call and by several: the same packages, the same
status of every certificate, the time of the mark by the same rule, and the same members
of the list. -/
structure RevokedAlike (start : Database) (certificateId : Nat) (zone : Zone) (role : Role)
    (once : RevocationAnswers) (retries : List RevocationAnswers) (direct retried : Database) :
    Prop where
  markedOnce : start.MarkedDuring certificateId [once] direct
  marked : start.MarkedDuring certificateId retries retried
  statuses : (retried.certificates.map fun certificate => (certificate.id, certificate.status)) =
    direct.certificates.map fun certificate => (certificate.id, certificate.status)
  packages : retried.packages = direct.packages
  members : ∀ id, id ∈ retried.latestMembers zone role ↔ id ∈ direct.latestMembers zone role

variable {start direct retried : Database} {certificateId : Nat} {zone : Zone} {role : Role}

/-- The status of a marked row does not depend on the moment. -/
theorem MarkedDuring.statuses {calls : List RevocationAnswers}
    (marked : start.MarkedDuring certificateId calls direct) :
    (direct.certificates.map fun certificate => (certificate.id, certificate.status)) =
      start.certificates.map fun certificate => (certificate.id,
        if certificate.id = certificateId then CertificateStatus.revoked
        else certificate.status) := by
  obtain ⟨_, _, now, _, certificates⟩ := marked
  rw [certificates, markCertificateRevoked_certificates, List.map_map]
  refine List.map_congr_left fun certificate _ => ?_
  rw [Function.comp_apply, markedRow]
  split
  · rfl
  · rfl

theorem Revoked.alike {once : RevocationAnswers} {retries : List RevocationAnswers}
    (first : start.Revoked certificateId zone role [once] direct)
    (second : start.Revoked certificateId zone role retries retried) :
    start.RevokedAlike certificateId zone role once retries direct retried where
  markedOnce := first.marked
  marked := second.marked
  statuses := second.marked.statuses.trans first.marked.statuses.symm
  packages := second.packages.trans first.packages.symm
  members := fun id => (second.members 0 id).trans (first.members 0 id).symm

end Database

section Ends

variable {PrivateKey PublicKey : Type} {crypto : Crypto PrivateKey PublicKey}
  {settings : RegenerationSettings} {signer : Option (TrustArtifactSigner PrivateKey)}

/-- Steps that go through end the revocation, whatever part was revoked before. -/
theorem revoked_of_steps {start : Database} {calls : List RevocationAnswers}
    {answers : RevocationAnswers} {reason : String} {row : Certificate}
    {application : Application} {state after : GdsState}
    (unique : (start.packages.map fun row => row.packageId).Nodup)
    (partly : start.PartlyRevoked row.id (calls.filterMap fun call => call.markedAt) state.db)
    (completed : revokeSteps crypto settings signer answers reason row application state =
      (after, true)) :
    start.Revoked row.id application.zone application.role (calls ++ [answers]) after.db := by
  obtain ⟨now, moment, _, rfl, certificates, packages, members⟩ :=
    revokeSteps_of_completed (partly.unique unique) completed
  obtain ⟨done, within, updated⟩ := partly.packages
  have ids := Database.packageIdsForCertificate_of_packages updated row.id
  have all : after.db.packages =
      requestRows .revoked (start.packageIdsForCertificate row.id) start.packages := by
    rw [packages, Database.withRevoked, ids, updated, requestRows_requestRows]
    refine List.map_congr_left fun package _ => if_congr ?_ rfl rfl
    rw [List.mem_append]
    exact or_iff_right_of_imp fun early => within early
  have marked : start.MarkedDuring row.id (calls ++ [answers]) after.db := by
    rcases partly.certificates with unmarked | ⟨earlier, listed, alreadyMarked⟩
    · refine ⟨answers, List.mem_append_right _ (List.mem_singleton_self _), now, moment, ?_⟩
      refine certificates.trans ?_
      rw [Database.withRevoked, Database.markCertificateRevoked_certificates, unmarked,
        Database.markCertificateRevoked_certificates]
    · obtain ⟨call, member, time⟩ := List.mem_filterMap.mp listed
      refine ⟨call, List.mem_append_left _ member, earlier, time, ?_⟩
      exact certificates.trans (Database.markCertificateRevoked_again alreadyMarked now)
  refine ⟨marked, all, fun later id => (members id).trans (iff_of_eq (congrArg (id ∈ ·) ?_))⟩
  obtain ⟨_, _, time, _, isMarked⟩ := marked
  have applications : (state.db.withRevoked row.id now
      (state.db.packageIdsForCertificate row.id)).applications = (start.withRevoked row.id time
        (start.packageIdsForCertificate row.id)).applications := partly.applications
  have composed := Database.desired_congr applications (certificates.symm.trans isMarked)
    (packages.symm.trans all) application.zone application.role
  exact composed.trans (Database.desired_mark { start with
    packages := requestRows .revoked (start.packageIdsForCertificate row.id) start.packages }
    row.id time later application.zone application.role)

/-- Whatever calls failed before, the call that would have gone through at first goes
through, and any call that goes through ends the revocation like the one at first. -/
theorem retried_revocation_agrees {body : RevokeCertificateBody} {once : RevocationAnswers}
    {start direct middle : GdsState} {attempts : List RevocationAnswers} {certificateId : Nat}
    {packageIds : List String} {certificate : Certificate} {application : Application}
    (wellFormed : start.db.WellFormed)
    (unique : (start.db.packages.map fun row => row.packageId).Nodup)
    (chosen : start.db.certificate? certificateId = some certificate)
    (owner : start.db.application? certificate.applicationId = some application)
    (called : revokeCertificate crypto settings signer body once start =
      (direct, .revoked certificateId packageIds))
    (failed : Transition.run (failedAttempt crypto settings signer body) start attempts =
      some middle) :
    (revokeCertificate crypto settings signer body once middle).2 =
        .revoked certificateId packageIds ∧
      ∀ again retried otherId otherIds,
        revokeCertificate crypto settings signer body again middle =
            (retried, .revoked otherId otherIds) →
          otherId = certificateId ∧ otherIds = packageIds ∧
            start.db.RevokedAlike certificateId application.zone application.role once
              (attempts ++ [again]) direct.db retried.db := by
  obtain ⟨found, owned, resolved, sameId, isOwner, completed⟩ := revokeCertificate_revoked called
  have own := (Database.certificate?_eq_some_iff wellFormed).mpr
    ⟨resolveRevokeCertificate_mem resolved, sameId⟩
  cases chosen.symm.trans own
  cases owner.symm.trans isOwner
  have notRefused : ∀ status code,
      (revokeCertificate crypto settings signer body once start).2 ≠ .refused status code := by
    rw [called]
    exact nofun
  obtain ⟨_, _, sameResolved, _, serial⟩ := resolved_of_answer notRefused
  cases resolved.symm.trans sameResolved
  have partly := partlyRevoked_of_failedAttempts unique resolved owner serial failed
  have answered := (revokeCertificate_of_resolved crypto settings signer resolved owner serial
    once).2
  rw [called, completed, if_pos rfl] at answered
  obtain ⟨_, rfl⟩ := RevocationOutcome.revoked.inj answered
  subst sameId
  constructor
  · obtain ⟨row, rowId, status, _, answer⟩ := attempt_of_partlyRevoked crypto settings signer
      resolved owner serial once partly
    obtain ⟨done, _, packages⟩ := partly.packages
    have goes := (revokeSteps_completes_iff crypto settings signer once body.reason certificate
      application start unique).mp (by rw [completed])
    have goesAgain : once.GoThrough signer row (middle.db.packageIdsForCertificate row.id) := by
      rw [Database.packageIdsForCertificate_of_packages packages, rowId]
      exact ⟨goes.marked_of_status status, goes.writes, goes.builds, goes.signs, goes.crl⟩
    rw [answer, if_pos ((revokeSteps_completes_iff crypto settings signer once body.reason row
      application middle (partly.unique unique)).mpr goesAgain)]
  · intro again retried otherId otherIds calledAgain
    obtain ⟨row, rowId, _, taken, answer⟩ := attempt_of_partlyRevoked crypto settings signer
      resolved owner serial again partly
    rw [calledAgain] at taken answer
    by_cases through : (revokeSteps crypto settings signer again body.reason row application
        middle).2 = true
    · rw [if_pos through] at answer
      obtain ⟨rfl, rfl⟩ := RevocationOutcome.revoked.inj answer
      have untouched : start.db.PartlyRevoked certificate.id
          (([] : List RevocationAnswers).filterMap fun call => call.markedAt) start.db :=
        .refl _ _ _
      have first := revoked_of_steps unique untouched completed
      rw [← rowId] at partly
      have second := revoked_of_steps unique partly (Prod.ext taken.symm through)
      rw [rowId] at second
      exact ⟨rfl, rfl, first.alike second⟩
    · rw [if_neg through] at answer
      cases answer

end Ends

/-! Vault refuses, then the package update fails after the certificate was marked, then the
CRL cannot be fetched; the fourth call goes through, with later clock readings. -/

def failedAnswers : List RevocationAnswers :=
  [{ revocationAnswers with vaultRevokes := false },
    { revocationAnswers with packageWrites := fun _ => false },
    { revocationAnswers with crl := none }]

def retryMiddle : GdsState :=
  ((Transition.run (failedAttempt transparentCrypto exampleSettings (some exampleSigner)
    revocationBody) (packagedStart .activated) failedAnswers)).getD .initial

def laterAnswers : RevocationAnswers :=
  { revocationAnswers with markedAt := some 9, builtAt := some 9 }

/-- The retried revocation ends like the direct one. -/
theorem retried_example_agrees :
    (packagedStart .activated).db.RevokedAlike 7 .dmz .southboundClient revocationAnswers
      (failedAnswers ++ [laterAnswers]) (packagedCall .activated revocationAnswers).1.db
      (revokeCertificate transparentCrypto exampleSettings (some exampleSigner) revocationBody
        laterAnswers retryMiddle).1.db := by
  have answered : (packagedCall .activated revocationAnswers).2 = .revoked 7 ["p-1"] := by
    decide +kernel
  have again : (revokeCertificate transparentCrypto exampleSettings (some exampleSigner)
      revocationBody laterAnswers retryMiddle).2 = .revoked 7 ["p-1"] := by
    decide +kernel
  have chosen : (packagedStart .activated).db.certificate? 7 =
      some (exampleCertificate .active none) := by
    decide +kernel
  have owner : (packagedStart .activated).db.application? 1 = some exampleApplication := by
    decide +kernel
  have unique : ((packagedStart .activated).db.packages.map fun row => row.packageId).Nodup :=
    List.nodup_singleton _
  have ran : (Transition.run (failedAttempt transparentCrypto exampleSettings (some exampleSigner)
      revocationBody) (packagedStart .activated) failedAnswers).isSome := by
    decide +kernel
  have failed : Transition.run (failedAttempt transparentCrypto exampleSettings
      (some exampleSigner) revocationBody) (packagedStart .activated) failedAnswers =
        some retryMiddle := (Option.some_get ran).symm.trans
          (by rw [retryMiddle, Option.get_eq_getD])
  exact ((retried_revocation_agrees (by decide +kernel) unique chosen owner
    (Prod.ext rfl answered) failed).2 laterAnswers _ 7 ["p-1"] (Prod.ext rfl again)).2.2

end OpcuaGds.Gds
