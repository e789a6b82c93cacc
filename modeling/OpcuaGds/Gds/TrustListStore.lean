import OpcuaGds.Gds.ServedArtifact

/-! # The stored trust lists over runs

Builds and ensures between arbitrary changes of applications, certificates and
packages: the versions of a list are numbered without gaps, an ensured version holds
the certificates of the composition rule, one for each application, and a second
ensure builds nothing.
-/

namespace OpcuaGds.Gds

namespace Database

/-! ## The composition rule -/

/-- The certificate of an application: that of the latest activated package that has
an active one, otherwise the newest active certificate of its own. -/
inductive Selects (db : Database) (applicationId : Nat) : Nat → Prop where
  | activated {row : CertificatePackage × Certificate}
      (member : row ∈ db.activatedCertificates applicationId)
      (latest : ∀ other ∈ db.activatedCertificates applicationId,
        activatedBefore other row = false) :
      Selects db applicationId row.2.id
  | own {certificate : Certificate} (none : db.activatedCertificates applicationId = [])
      (member : certificate ∈ db.ownActiveCertificates applicationId)
      (newest : ∀ other ∈ db.ownActiveCertificates applicationId,
        ownBefore other certificate = false) :
      Selects db applicationId certificate.id

/-- The certificates of a list: one for each active application that it is made from. -/
def Composed (db : Database) (zone : Zone) (role : Role) (certificateId : Nat) : Prop :=
  ∃ application ∈ db.applications, application.status = "active" ∧
    trustlistApplicationFilter zone role application = true ∧
      db.Selects application.id certificateId

theorem activatedBefore_isStrictOrder : VersionedTable.IsStrictOrder activatedBefore where
  asymm left right earlier := by
    rw [← Bool.not_eq_true]
    simp only [activatedBefore, VersionedTable.descending_eq_true, Bool.false_eq_true, and_false,
      or_false] at earlier ⊢
    omega
  negTrans left middle right first second := by
    rw [← Bool.not_eq_true] at first second ⊢
    simp only [activatedBefore, VersionedTable.descending_eq_true, Bool.false_eq_true, and_false,
      or_false] at first second ⊢
    omega

/-- Rows that no other comes before are about one certificate. -/
theorem activatedBefore_total {left right : CertificatePackage × Certificate}
    (first : activatedBefore left right = false) (second : activatedBefore right left = false) :
    left.2.id = right.2.id := by
  rw [← Bool.not_eq_true] at first second
  simp only [activatedBefore, VersionedTable.descending_eq_true, Bool.false_eq_true, and_false,
    or_false] at first second
  omega

theorem descendingNullable_eq_true {left right : Option Int} {rest : Bool} :
    descendingNullable left right rest = true ↔
      (left = none ∧ right ≠ none) ∨
        (∃ earlier later, left = some later ∧ right = some earlier ∧ earlier < later) ∨
          left = right ∧ rest = true := by
  cases left with
  | none => cases right <;> simp [descendingNullable]
  | some left =>
      cases right with
      | none => simp [descendingNullable]
      | some right => simp [descendingNullable, VersionedTable.descending_eq_true]

theorem ownBefore_eq_true {left right : Certificate} :
    ownBefore left right = true ↔
      right.createdAt < left.createdAt ∨ left.createdAt = right.createdAt ∧
        ((left.notBefore = none ∧ right.notBefore ≠ none) ∨
          (∃ earlier later, left.notBefore = some later ∧ right.notBefore = some earlier ∧
            earlier < later) ∨
          left.notBefore = right.notBefore ∧ right.id < left.id) := by
  simp only [ownBefore, VersionedTable.descending_eq_true, descendingNullable_eq_true,
    Bool.false_eq_true, and_false, or_false, Nat.cast_lt]

theorem ownBefore_isStrictOrder : VersionedTable.IsStrictOrder ownBefore where
  asymm left right earlier := by
    rw [← Bool.not_eq_true]
    rw [ownBefore_eq_true] at earlier ⊢
    cases leftStart : left.notBefore <;> cases rightStart : right.notBefore <;>
      simp [leftStart, rightStart] at earlier ⊢ <;> omega
  negTrans left middle right first second := by
    rw [← Bool.not_eq_true] at first second ⊢
    rw [ownBefore_eq_true] at first second ⊢
    cases leftStart : left.notBefore <;> cases middleStart : middle.notBefore <;>
      cases rightStart : right.notBefore <;>
        simp [leftStart, middleStart, rightStart] at first second ⊢ <;> omega

theorem ownBefore_total {left right : Certificate} (first : ownBefore left right = false)
    (second : ownBefore right left = false) : left.id = right.id := by
  rw [← Bool.not_eq_true, ownBefore_eq_true] at first second
  cases leftStart : left.notBefore <;> cases rightStart : right.notBefore <;>
    simp [leftStart, rightStart] at first second <;> omega

/-- The two queries find the certificate of the composition rule. -/
theorem selects_iff {db : Database} {applicationId id : Nat} :
    db.Selects applicationId id ↔ db.activeCertificateIdForApplication applicationId = some id := by
  unfold activeCertificateIdForApplication
  cases top : VersionedTable.firstBy activatedBefore (db.activatedCertificates applicationId) with
  | some row =>
      have member := VersionedTable.firstBy_mem top
      have latest := VersionedTable.firstBy_not_before activatedBefore_isStrictOrder top
      rw [Option.some.injEq]
      constructor
      · intro selected
        cases selected with
        | activated otherMember otherLatest =>
            exact activatedBefore_total (otherLatest _ member) (latest _ otherMember)
        | own none _ _ => rw [none] at member; cases member
      · rintro rfl
        exact .activated member latest
  | none =>
      have empty := VersionedTable.firstBy_eq_none_iff.mp top
      dsimp only
      rw [Option.map_eq_some_iff]
      constructor
      · intro selected
        cases selected with
        | activated member _ => rw [empty] at member; cases member
        | @own certificate _ member newest =>
            cases first : VersionedTable.firstBy ownBefore
                (db.ownActiveCertificates applicationId) with
            | none =>
                rw [VersionedTable.firstBy_eq_none_iff.mp first] at member
                cases member
            | some other =>
                refine ⟨other, rfl, ownBefore_total ?_ ?_⟩
                · exact newest other (VersionedTable.firstBy_mem first)
                · exact VersionedTable.firstBy_not_before ownBefore_isStrictOrder first _ member
      · rintro ⟨certificate, first, rfl⟩
        exact .own empty (VersionedTable.firstBy_mem first)
          (VersionedTable.firstBy_not_before ownBefore_isStrictOrder first)

theorem mem_desired_iff {db : Database} {zone : Zone} {role : Role} {id : Nat} :
    id ∈ db.desiredTrustlistCertificateIds zone role ↔ db.Composed zone role id := by
  simp only [desiredTrustlistCertificateIds, trustlistApplications, List.mem_filterMap,
    List.mem_insertionSort, List.mem_filter, decide_eq_true_eq, Composed, selects_iff]
  constructor
  · rintro ⟨application, ⟨stored, active, filtered⟩, selected⟩
    exact ⟨application, stored, active, filtered, selected⟩
  · rintro ⟨application, stored, active, filtered, selected⟩
    exact ⟨application, ⟨stored, active, filtered⟩, selected⟩

/-! ## One certificate for each application -/

/-- A package's certificate belongs to the package's application. -/
def PackagesOwned (db : Database) : Prop :=
  ∀ package ∈ db.packages, ∀ id ∈ package.certificateId.toList,
    ∀ certificate ∈ db.certificates, certificate.id = id →
      certificate.applicationId = package.applicationId

instance (db : Database) : Decidable db.PackagesOwned :=
  inferInstanceAs (Decidable (∀ package ∈ db.packages, _))

theorem selected_owner {db : Database} (owned : db.PackagesOwned) {applicationId id : Nat}
    (selected : db.activeCertificateIdForApplication applicationId = some id) :
    ∃ certificate ∈ db.certificates, certificate.id = id ∧
      certificate.applicationId = applicationId := by
  cases selects_iff.mpr selected with
  | @activated row member _ =>
      obtain ⟨package, stored, found⟩ := List.mem_filterMap.mp member
      split at found
      · rename_i ofApplication
        obtain ⟨certificate, lookup, active⟩ := Option.bind_eq_some_iff.mp found
        obtain ⟨certificateId, has, there⟩ := Option.bind_eq_some_iff.mp lookup
        split at active
        · cases active
          have inTable := List.mem_of_find?_eq_some there
          have sameId : certificate.id = certificateId := by simpa using List.find?_some there
          have owner := owned package stored certificateId (Option.mem_toList.mpr has) certificate
            inTable sameId
          exact ⟨certificate, inTable, rfl, owner.trans ofApplication.1⟩
        · cases active
      · cases found
  | @own certificate _ member _ =>
      obtain ⟨stored, holds⟩ := List.mem_filter.mp member
      have facts := of_decide_eq_true holds
      exact ⟨certificate, stored, rfl, facts.1⟩

/-- Different applications have different certificates. -/
theorem selected_injective {db : Database} (wellFormed : db.WellFormed)
    (owned : db.PackagesOwned) {left right id : Nat}
    (first : db.activeCertificateIdForApplication left = some id)
    (second : db.activeCertificateIdForApplication right = some id) : left = right := by
  obtain ⟨certificate, stored, same, ofLeft⟩ := selected_owner owned first
  obtain ⟨other, otherStored, otherSame, ofRight⟩ := selected_owner owned second
  have one : certificate = other :=
    List.inj_on_of_nodup_map wellFormed.certificateIds stored otherStored
      (same.trans otherSame.symm)
  rw [← ofLeft, one, ofRight]

theorem desired_nodup {db : Database} (wellFormed : db.WellFormed) (owned : db.PackagesOwned)
    (zone : Zone) (role : Role) : (db.desiredTrustlistCertificateIds zone role).Nodup := by
  have ids : ((db.trustlistApplications zone role).map Application.id).Nodup := by
    have sorted := (List.perm_insertionSort
      (fun left right : Application => left.applicationUri ≤ right.applicationUri)
      (db.applications.filter fun application =>
        application.status = "active" ∧ trustlistApplicationFilter zone role application)).map
          Application.id
    exact sorted.nodup_iff.mpr (wellFormed.applicationIds.sublist (List.filter_sublist.map _))
  have through : db.desiredTrustlistCertificateIds zone role =
      ((db.trustlistApplications zone role).map Application.id).filterMap
        db.activeCertificateIdForApplication := by
    rw [List.filterMap_map]
    rfl
  rw [through]
  exact ids.filterMap fun left right id first second =>
    selected_injective wellFormed owned first second

/-! ## Ensured lists -/

theorem isCurrent_of_perm {db : Database} {trustList : TrustList}
    (same : trustList.members.Perm
      (db.desiredTrustlistCertificateIds trustList.zone trustList.role)) :
    db.isCurrent trustList = true := by
  have sorted : (trustList.members.insertionSort (· ≤ ·)).Perm
      ((db.desiredTrustlistCertificateIds trustList.zone trustList.role).insertionSort (· ≤ ·)) :=
    ((List.perm_insertionSort _ _).trans same).trans (List.perm_insertionSort _ _).symm
  exact decide_eq_true (sorted.eq_of_pairwise' (List.pairwise_insertionSort _ _)
    (List.pairwise_insertionSort _ _))

/-- The list after an ensure is current, without repetition. -/
theorem latest_ensure_perm {db : Database} (wellFormed : db.WellFormed) (owned : db.PackagesOwned)
    (zone : Zone) (role : Role) (now : Int) :
    ∃ trustList, (db.ensureTrustListCurrent zone role now).latestTrustList? zone role =
        some trustList ∧ trustList.zone = zone ∧ trustList.role = role ∧
      trustList.members.Perm (db.desiredTrustlistCertificateIds zone role) := by
  have built : (db.newTrustList zone role now).members =
      db.desiredTrustlistCertificateIds zone role :=
    (desired_nodup wellFormed owned zone role).dedup
  unfold ensureTrustListCurrent
  split
  · rename_i trustList latest
    obtain ⟨_, sameZone, sameRole⟩ := latestTrustList?_mem latest
    split
    · rename_i current
      refine ⟨trustList, latest, sameZone, sameRole, ?_⟩
      simp only [isCurrent, sameZone, sameRole, decide_eq_true_eq] at current
      have sorted := List.perm_insertionSort (· ≤ ·) trustList.members
      rw [current] at sorted
      exact sorted.symm.trans (List.perm_insertionSort (· ≤ ·) _)
    · exact ⟨_, db.latestTrustList?_buildTrustList_self zone role now, rfl, rfl, built ▸ .refl _⟩
  · exact ⟨_, db.latestTrustList?_buildTrustList_self zone role now, rfl, rfl, built ▸ .refl _⟩

theorem composed_ensure {db : Database} {zone : Zone} {role : Role} {now : Int} {id : Nat} :
    (db.ensureTrustListCurrent zone role now).Composed zone role id ↔ db.Composed zone role id := by
  unfold ensureTrustListCurrent
  split
  · split
    · exact Iff.rfl
    · rw [← mem_desired_iff, ← mem_desired_iff]
      rfl
  · rw [← mem_desired_iff, ← mem_desired_iff]
    rfl

/-- What the latest version of a list is right after an ensure. -/
structure Ensured (db : Database) (zone : Zone) (role : Role) : Prop where
  members : ∃ trustList, db.latestTrustList? zone role = some trustList ∧
    trustList.members.Nodup ∧ ∀ id, id ∈ trustList.members ↔ db.Composed zone role id
  onePerApplication : ∀ trustList, db.latestTrustList? zone role = some trustList →
    ∀ left ∈ db.certificates, ∀ right ∈ db.certificates, left.id ∈ trustList.members →
      right.id ∈ trustList.members → left.applicationId = right.applicationId → left = right
  again : ∀ now, db.ensureTrustListCurrent zone role now = db

theorem composed_owner {db : Database} (wellFormed : db.WellFormed) (owned : db.PackagesOwned)
    {zone : Zone} {role : Role} {certificate : Certificate}
    (stored : certificate ∈ db.certificates) (composed : db.Composed zone role certificate.id) :
    db.activeCertificateIdForApplication certificate.applicationId = some certificate.id := by
  obtain ⟨application, _, _, _, selects⟩ := composed
  have selected := selects_iff.mp selects
  obtain ⟨other, otherStored, same, owner⟩ := selected_owner owned selected
  have one : other = certificate :=
    List.inj_on_of_nodup_map wellFormed.certificateIds otherStored stored same
  rw [← one, owner, one, selected]

theorem ensured {db : Database} (wellFormed : db.WellFormed) (owned : db.PackagesOwned)
    (zone : Zone) (role : Role) (now : Int) :
    (db.ensureTrustListCurrent zone role now).Ensured zone role := by
  obtain ⟨trustList, latest, sameZone, sameRole, members⟩ :=
    latest_ensure_perm wellFormed owned zone role now
  have composed (id : Nat) : id ∈ trustList.members ↔
      (db.ensureTrustListCurrent zone role now).Composed zone role id := by
    rw [members.mem_iff, mem_desired_iff, composed_ensure]
  obtain ⟨certificates, sameOwned⟩ :
      (db.ensureTrustListCurrent zone role now).certificates = db.certificates ∧
        (db.ensureTrustListCurrent zone role now).PackagesOwned := by
    unfold ensureTrustListCurrent
    split
    · split
      · exact ⟨rfl, owned⟩
      · exact ⟨rfl, owned⟩
    · exact ⟨rfl, owned⟩
  have sameWellFormed := wellFormed_ensure wellFormed zone role now
  refine ⟨⟨trustList, latest, ?nodup, composed⟩, ?onePerApplication, ?again⟩
  case nodup => exact members.nodup_iff.mpr (desired_nodup wellFormed owned zone role)
  case onePerApplication =>
    intro other otherLatest left leftStored right rightStored leftMember rightMember sameOwner
    rw [latest, Option.some.injEq] at otherLatest
    subst otherLatest
    have first := composed_owner sameWellFormed sameOwned leftStored ((composed _).mp leftMember)
    have second :=
      composed_owner sameWellFormed sameOwned rightStored ((composed _).mp rightMember)
    rw [sameOwner, second, Option.some.injEq] at first
    exact List.inj_on_of_nodup_map sameWellFormed.certificateIds leftStored rightStored first.symm
  case again =>
    intro later
    have desired : trustList.members.Perm
        ((db.ensureTrustListCurrent zone role now).desiredTrustlistCertificateIds trustList.zone
          trustList.role) := by
      rw [sameZone, sameRole]
      apply (List.perm_ext_iff_of_nodup ?_ ?_).mpr
      · intro id
        rw [composed, mem_desired_iff]
      · exact members.nodup_iff.mpr (desired_nodup wellFormed owned zone role)
      · exact desired_nodup sameWellFormed sameOwned zone role
    have current := isCurrent_of_perm desired
    generalize db.ensureTrustListCurrent zone role now = after at latest current
    rw [ensureTrustListCurrent, latest]
    exact if_pos current

/-! ## Numbers -/

/-- The versions of every list are numbered from one on without gaps. -/
def Numbered (db : Database) : Prop :=
  ∀ zone role, (db.trustListsOf zone role).map TrustList.version =
    List.range' 1 (db.trustListsOf zone role).length

theorem Numbered.buildTrustList {db : Database} (numbered : db.Numbered) (zone : Zone)
    (role : Role) (now : Int) : (db.buildTrustList zone role now).Numbered := by
  intro other kind
  by_cases own : zone = other ∧ role = kind
  · obtain ⟨rfl, rfl⟩ := own
    rw [trustListsOf_buildTrustList_self]
    exact VersionedTable.range_concat TrustList.version (numbered zone role) rfl
  · rw [trustListsOf_buildTrustList_of_ne db own]
    exact numbered other kind

theorem Numbered.ensureTrustListCurrent {db : Database} (numbered : db.Numbered) (zone : Zone)
    (role : Role) (now : Int) : (db.ensureTrustListCurrent zone role now).Numbered := by
  unfold Database.ensureTrustListCurrent
  split
  · split
    · exact numbered
    · exact numbered.buildTrustList zone role now
  · exact numbered.buildTrustList zone role now

/-! ## Runs -/

/-- A build, an ensure, or a change of the tables that lists are composed from. -/
inductive ListEvent where
  | change (applications : List Application) (certificates : List Certificate)
      (packages : List CertificatePackage)
  | build (zone : Zone) (role : Role) (now : Int)
  | ensure (zone : Zone) (role : Role) (now : Int)

/-- A change keeps keys and references intact, and certificates with their owners. -/
def listStep (db : Database) : ListEvent → Option Database
  | .change applications certificates packages =>
      let db := { db with
        applications := applications
        certificates := certificates
        packages := packages }
      if db.WellFormed ∧ db.PackagesOwned then some db else none
  | .build zone role now => some (db.buildTrustList zone role now)
  | .ensure zone role now => some (db.ensureTrustListCurrent zone role now)

structure ListInvariant (db : Database) : Prop where
  wellFormed : db.WellFormed
  owned : db.PackagesOwned
  numbered : db.Numbered

theorem ListInvariant.step {db next : Database} {event : ListEvent} (holds : db.ListInvariant)
    (stepped : listStep db event = some next) : next.ListInvariant := by
  cases event with
  | change applications certificates packages =>
      simp only [listStep] at stepped
      split at stepped
      · rename_i intact
        cases stepped
        exact ⟨intact.1, intact.2, holds.numbered⟩
      · cases stepped
  | build zone role now =>
      cases stepped
      exact ⟨holds.wellFormed.buildTrustList zone role now, holds.owned,
        holds.numbered.buildTrustList zone role now⟩
  | ensure zone role now =>
      cases stepped
      refine ⟨wellFormed_ensure holds.wellFormed zone role now, ?_,
        holds.numbered.ensureTrustListCurrent zone role now⟩
      unfold ensureTrustListCurrent
      split
      · split
        · exact holds.owned
        · exact holds.owned
      · exact holds.owned

theorem listInvariant_initial : GdsState.initial.db.ListInvariant where
  wellFormed := GdsState.coherent_initial.wellFormed
  owned := fun _ member => nomatch member
  numbered := fun _ _ => rfl

/-- Along every run the versions of every list are numbered without gaps, and an ensure
leaves a latest version that is exactly what the composition rule selects, with one
certificate for each application, and that a further ensure keeps. -/
theorem trust_list_store_invariant (events : List ListEvent) :
    Transition.EveryStep listStep
      (fun _ event next => next.Numbered ∧
        ∀ zone role now, event = .ensure zone role now → next.Ensured zone role)
      GdsState.initial.db events := by
  apply Transition.EveryStep.of_forall ListInvariant
  · exact fun _ _ _ holds stepped => holds.step stepped
  · intro db event next holds stepped
    refine ⟨(holds.step stepped).numbered, ?_⟩
    rintro zone role now rfl
    cases stepped
    exact ensured holds.wellFormed holds.owned zone role now
  · exact listInvariant_initial

end Database

end OpcuaGds.Gds
