import OpcuaGds.Gds.ArtifactRegeneration

/-! # Which certificates a served artifact holds

Over every run of table changes, trust list builds and artifact requests, a stored
artifact holds exactly the members of the trust list version it names, and the
artifact that a request returns is of the current version unless the rate limit held
the regeneration back.
-/

namespace OpcuaGds.Gds

namespace Database

/-- A stored certificate joins to its own row. -/
theorem trustedCertificate?_of_stored {db : Database} (wellFormed : db.WellFormed) {id : Nat}
    (stored : ∃ certificate ∈ db.certificates, certificate.id = id) :
    ∃ row, db.trustedCertificate? id = some row ∧ row.certificateId = id := by
  obtain ⟨certificate, member, rfl⟩ := stored
  have found := (certificate?_eq_some_iff wellFormed).mpr ⟨member, rfl⟩
  obtain ⟨application, owner⟩ :=
    application?_isSome (wellFormed.certificateOwner certificate member)
  simp only [trustedCertificate?, found, owner, Option.bind_eq_bind, Option.bind_some]
  exact ⟨_, rfl, rfl⟩

theorem map_trustedCertificate? {db : Database} (wellFormed : db.WellFormed) {ids : List Nat}
    (stored : ∀ id ∈ ids, ∃ certificate ∈ db.certificates, certificate.id = id) :
    (ids.filterMap db.trustedCertificate?).map TrustedCertificate.certificateId = ids := by
  induction ids with
  | nil => rfl
  | cons id rest ih =>
      obtain ⟨row, found, same⟩ :=
        trustedCertificate?_of_stored wellFormed (stored id List.mem_cons_self)
      rw [List.filterMap_cons_some found, List.map_cons, same,
        ih fun other member => stored other (List.mem_cons_of_mem _ member)]

/-- The certificates read for a version are its members, in another order. -/
theorem trustedCertificates_perm {db : Database} (wellFormed : db.WellFormed)
    {trustList : TrustList} (member : trustList ∈ db.trustLists) :
    ((db.trustedCertificates trustList).map TrustedCertificate.certificateId).Perm
      trustList.members := by
  have sorted := ((List.perm_insertionSort
    (fun left right : TrustedCertificate => left.applicationUri ≤ right.applicationUri)
    (trustList.members.filterMap db.trustedCertificate?)).map TrustedCertificate.certificateId)
  rw [map_trustedCertificate? wellFormed (wellFormed.trustListMember trustList member)] at sorted
  exact sorted

theorem mem_trustListsOf {db : Database} {zone : Zone} {role : Role} {trustList : TrustList} :
    trustList ∈ db.trustListsOf zone role ↔
      trustList ∈ db.trustLists ∧ trustList.zone = zone ∧ trustList.role = role := by
  simp [trustListsOf]

theorem latestTrustList?_mem {db : Database} {zone : Zone} {role : Role} {trustList : TrustList}
    (latest : db.latestTrustList? zone role = some trustList) :
    trustList ∈ db.trustLists ∧ trustList.zone = zone ∧ trustList.role = role :=
  mem_trustListsOf.mp (VersionedTable.latest?_mem latest)

theorem mem_trustArtifactsOf {db : Database} {zone : Zone} {role : Role} {row : TrustArtifact} :
    row ∈ db.trustArtifactsOf zone role ↔
      row ∈ db.trustArtifacts ∧ row.zone = zone ∧ row.role = role := by
  simp [trustArtifactsOf]

theorem latestTrustArtifact?_mem {db : Database} {zone : Zone} {role : Role} {row : TrustArtifact}
    (latest : db.latestTrustArtifact? zone role = some row) :
    row ∈ db.trustArtifacts ∧ row.zone = zone ∧ row.role = role :=
  mem_trustArtifactsOf.mp (VersionedTable.latest?_mem latest)

/-- No two versions of one list have one number. -/
def VersionsUnique (db : Database) : Prop :=
  ∀ left ∈ db.trustLists, ∀ right ∈ db.trustLists, left.zone = right.zone →
    left.role = right.role → left.version = right.version → left = right

/-- A stored artifact holds the members of the version it names. -/
def ArtifactsFaithful (db : Database) : Prop :=
  ∀ row ∈ db.trustArtifacts, ∃ trustList ∈ db.trustLists, trustList.zone = row.zone ∧
    trustList.role = row.role ∧ trustList.version = row.trustlistVersion ∧
      (artifactCertificateIds row.artifactJson).Perm trustList.members

theorem WellFormed.buildTrustList {db : Database} (wellFormed : db.WellFormed) (zone : Zone)
    (role : Role) (now : Int) : (db.buildTrustList zone role now).WellFormed where
  certificateIds := wellFormed.certificateIds
  applicationIds := wellFormed.applicationIds
  certificateOwner := wellFormed.certificateOwner
  packageCertificate := wellFormed.packageCertificate
  trustListMember := by
    intro trustList member id listed
    rcases List.mem_append.mp member with old | new
    · exact wellFormed.trustListMember trustList old id listed
    · rw [List.mem_singleton.mp new] at listed
      obtain ⟨certificate, stored, same, _⟩ := desired_isActive (List.mem_dedup.mp listed)
      exact ⟨certificate, stored, same⟩

theorem VersionsUnique.buildTrustList {db : Database} (unique : db.VersionsUnique) (zone : Zone)
    (role : Role) (now : Int) : (db.buildTrustList zone role now).VersionsUnique := by
  have newer : ∀ old ∈ db.trustLists, old.zone = zone → old.role = role →
      old.version ≠ (db.newTrustList zone role now).version := by
    intro old member sameZone sameRole same
    have bound := VersionedTable.le_maxVersion TrustList.version
      (mem_trustListsOf.mpr ⟨member, sameZone, sameRole⟩)
    rw [same] at bound
    exact absurd bound (Nat.not_succ_le_self _)
  intro left leftMember right rightMember sameZone sameRole sameVersion
  rcases List.mem_append.mp leftMember with leftOld | leftNew
  · rcases List.mem_append.mp rightMember with rightOld | rightNew
    · exact unique left leftOld right rightOld sameZone sameRole sameVersion
    · rw [List.mem_singleton.mp rightNew] at sameZone sameRole sameVersion
      exact absurd sameVersion (newer left leftOld sameZone sameRole)
  · rcases List.mem_append.mp rightMember with rightOld | rightNew
    · rw [List.mem_singleton.mp leftNew] at sameZone sameRole sameVersion
      exact absurd sameVersion.symm (newer right rightOld sameZone.symm sameRole.symm)
    · rw [List.mem_singleton.mp leftNew, List.mem_singleton.mp rightNew]

theorem ArtifactsFaithful.buildTrustList {db : Database} (faithful : db.ArtifactsFaithful)
    (zone : Zone) (role : Role) (now : Int) :
    (db.buildTrustList zone role now).ArtifactsFaithful := by
  intro row member
  obtain ⟨trustList, stored, named⟩ := faithful row member
  exact ⟨trustList, List.mem_append_left _ stored, named⟩

end Database

/-- What holds between the tables and the cache of one process. -/
structure GdsState.Coherent (state : GdsState) : Prop where
  wellFormed : state.db.WellFormed
  versionsUnique : state.db.VersionsUnique
  artifactsFaithful : state.db.ArtifactsFaithful
  artifactIds : (state.db.trustArtifacts.map TrustArtifact.id).Nodup
  cached : ∀ zone role entry, state.cache zone role = some entry →
    ∃ row ∈ state.db.trustArtifacts, row.id = entry.rowId ∧ row.artifactJson = entry.artifact

namespace GdsState

theorem Coherent.buildTrustList {state : GdsState} (coherent : state.Coherent) (zone : Zone)
    (role : Role) (now : Int) :
    ({ state with db := state.db.buildTrustList zone role now } : GdsState).Coherent where
  wellFormed := coherent.wellFormed.buildTrustList zone role now
  versionsUnique := coherent.versionsUnique.buildTrustList zone role now
  artifactsFaithful := coherent.artifactsFaithful.buildTrustList zone role now
  artifactIds := coherent.artifactIds
  cached := coherent.cached

theorem Coherent.ensureTrustListCurrent {state : GdsState} (coherent : state.Coherent)
    (zone : Zone) (role : Role) (now : Int) :
    ({ state with db := state.db.ensureTrustListCurrent zone role now } : GdsState).Coherent := by
  unfold Database.ensureTrustListCurrent
  split
  · split
    · exact coherent
    · exact coherent.buildTrustList zone role now
  · exact coherent.buildTrustList zone role now

/-- The document for a stored row is the stored one, wherever it is taken from. -/
theorem Coherent.documentOf {state : GdsState} (coherent : state.Coherent) (zone : Zone)
    (role : Role) {row : TrustArtifact} (member : row ∈ state.db.trustArtifacts) :
    documentOf (state.cache zone role) row = row.artifactJson := by
  unfold Gds.documentOf
  split
  · rename_i entry held
    split
    · rename_i same
      obtain ⟨other, stored, id, document⟩ := coherent.cached zone role entry held
      have own : other = row :=
        List.inj_on_of_nodup_map coherent.artifactIds stored member (id.trans same.1)
      rw [← document, own]
    · rfl
  · rfl

theorem Coherent.remember {state : GdsState} (coherent : state.Coherent) (zone : Zone)
    (role : Role) {row : TrustArtifact} (member : row ∈ state.db.trustArtifacts) :
    (state.remember zone role row row.artifactJson).Coherent where
  wellFormed := coherent.wellFormed
  versionsUnique := coherent.versionsUnique
  artifactsFaithful := coherent.artifactsFaithful
  artifactIds := coherent.artifactIds
  cached := by
    intro otherZone otherRole entry held
    by_cases sameZone : otherZone = zone
    · subst sameZone
      by_cases sameRole : otherRole = role
      · subst sameRole
        simp only [GdsState.remember, Function.update_self] at held
        cases held
        exact ⟨row, member, rfl, rfl⟩
      · simp only [GdsState.remember, Function.update_self, Function.update_of_ne sameRole] at held
        exact coherent.cached _ _ entry held
    · simp only [GdsState.remember, Function.update_of_ne sameZone] at held
      exact coherent.cached _ _ entry held

end GdsState

section Serving

variable {PrivateKey PublicKey : Type} {crypto : Crypto PrivateKey PublicKey}
  {settings : RegenerationSettings} {signer : TrustArtifactSigner PrivateKey}

theorem artifact_of_buildSignedArtifact {trustList : TrustList} {certs : List Json}
    {material : VaultMaterial} {artifactRevision : Nat} {reason : String}
    {generatedAt : Timestamp.DateTime} {signed : SignedArtifact}
    (built : signer.buildSignedArtifact crypto trustList certs material artifactRevision reason
      generatedAt = some signed) :
    ∃ expiresAt, signed.artifact = signer.artifactDocument crypto trustList.zone trustList.role
      trustList.version certs material artifactRevision reason generatedAt expiresAt := by
  simp only [TrustArtifactSigner.buildSignedArtifact, Option.bind_eq_bind,
    Option.bind_eq_some_iff, Option.some.injEq] at built
  obtain ⟨expiresAt, _, rfl⟩ := built
  exact ⟨expiresAt, rfl⟩

/-- A stored artifact is kept only if it is of the version read. -/
theorem regenerationReason_none {trustList : TrustList} {row : Option TrustArtifact}
    {forceRebuild : Bool} {source : String} {now : Int}
    (kept : regenerationReason crypto settings signer trustList row forceRebuild source now =
      none) : ∀ stored, row = some stored → stored.trustlistVersion = trustList.version := by
  rintro stored rfl
  unfold regenerationReason at kept
  split at kept
  · cases kept
  · simp only at kept
    split at kept
    · cases kept
    · rename_i same
      exact not_not.mp same

theorem regenerationReason_none_notForced {trustList : TrustList} {row : Option TrustArtifact}
    {forceRebuild : Bool} {source : String} {now : Int}
    (kept : regenerationReason crypto settings signer trustList row forceRebuild source now =
      none) : forceRebuild = false := by
  cases forceRebuild with
  | false => rfl
  | true => cases kept

theorem notForced_of_isRateLimited {request : ArtifactRequest} {state : GdsState}
    (limited : isRateLimited settings request state = true) : request.forceRebuild = false := by
  simp only [isRateLimited, Bool.and_eq_true, Bool.not_eq_true'] at limited
  exact limited.1

/-- The state after an insertion in the second critical section. -/
def GdsState.inserted (state : GdsState) (request : ArtifactRequest) (row : TrustArtifact) :
    GdsState :=
  { state with
    db := state.db.insertTrustArtifact row
    lastRegenAt := Function.update state.lastRegenAt request.zone
      (Function.update (state.lastRegenAt request.zone) request.role request.regenAt) }

/-- What the critical sections can do: fail, keep the stored row, or insert an
artifact of the version that was read. -/
inductive CheckResult (settings : RegenerationSettings) (request : ArtifactRequest)
    (trustList : TrustList) (certs : List Database.TrustedCertificate) (state : GdsState) :
    GdsState × Regeneration → Prop where
  | raised : CheckResult settings request trustList certs state (state, .raised)
  | kept (notForced : request.forceRebuild = false)
      (upToDate : ∀ row, state.db.latestTrustArtifact? request.zone request.role = some row →
        row.trustlistVersion = trustList.version ∨ isRateLimited settings request state = true) :
      CheckResult settings request trustList certs state
        (state, .kept (state.db.latestTrustArtifact? request.zone request.role))
  | inserted (signed : SignedArtifact) (reason : String)
      (allowed : isRateLimited settings request state = false)
      (listed : artifactCertificateIds signed.artifact =
        certs.map Database.TrustedCertificate.certificateId) :
      CheckResult settings request trustList certs state
        (state.inserted request (state.db.newTrustArtifact request.zone request.role
            trustList.version signed reason),
          .inserted (state.db.newTrustArtifact request.zone request.role trustList.version signed
            reason) signed.artifact)

theorem regenerate_result (request : ArtifactRequest) (trustList : TrustList)
    (certs : List Database.TrustedCertificate) (state : GdsState) :
    CheckResult settings request trustList certs state
      (regenerate crypto settings signer request trustList certs state) := by
  unfold regenerate
  simp only
  split
  · rename_i none_
    exact .kept (regenerationReason_none_notForced none_)
      fun row found => .inl (regenerationReason_none none_ row found)
  · split
    · rename_i limited
      exact .kept (notForced_of_isRateLimited limited) fun _ _ => .inr limited
    · rename_i reason _ notLimited
      split
      · exact .raised
      · rename_i signed made
        obtain ⟨material, _, built⟩ := Option.bind_eq_some_iff.mp made
        obtain ⟨expiresAt, document⟩ := artifact_of_buildSignedArtifact built
        refine .inserted signed reason (by simpa using notLimited) ?_
        rw [document]
        exact artifactCertificateIds_artifactDocument ..

variable (crypto settings signer) in
theorem checkAndRegenerate_result (request : ArtifactRequest) (trustList : TrustList)
    (certs : List Database.TrustedCertificate) (state : GdsState) :
    CheckResult settings request trustList certs state
      (checkAndRegenerate crypto settings signer request trustList certs state) := by
  unfold checkAndRegenerate
  simp only
  split
  · rename_i none_
    exact .kept (regenerationReason_none_notForced none_)
      fun row found => .inl (regenerationReason_none none_ row found)
  · exact regenerate_result ..

theorem GdsState.Coherent.insert {state : GdsState} (coherent : state.Coherent)
    {trustList : TrustList} {signed : SignedArtifact} {zone : Zone} {role : Role}
    (stored : trustList ∈ state.db.trustLists) (place : trustList.zone = zone ∧
      trustList.role = role)
    (members : (artifactCertificateIds signed.artifact).Perm trustList.members) (reason : String)
    (lastRegenAt : Zone → Role → Int) :
    ({ state with
        db := state.db.insertTrustArtifact
          (state.db.newTrustArtifact zone role trustList.version signed reason)
        lastRegenAt := lastRegenAt } : GdsState).Coherent where
  wellFormed := ⟨coherent.wellFormed.certificateIds, coherent.wellFormed.applicationIds,
    coherent.wellFormed.certificateOwner, coherent.wellFormed.packageCertificate,
    coherent.wellFormed.trustListMember⟩
  versionsUnique := coherent.versionsUnique
  artifactsFaithful := by
    intro row member
    rcases List.mem_append.mp member with old | new
    · exact coherent.artifactsFaithful row old
    · rw [List.mem_singleton.mp new]
      exact ⟨trustList, stored, place.1, place.2, rfl, members⟩
  artifactIds := by
    simp only [Database.insertTrustArtifact, List.map_append, List.map_cons, List.map_nil]
    refine List.nodup_append'.mpr ⟨coherent.artifactIds, List.nodup_singleton _, ?_⟩
    rw [List.disjoint_singleton]
    exact Database.freshId_notMem _
  cached := by
    intro otherZone otherRole entry held
    obtain ⟨row, member, named⟩ := coherent.cached otherZone otherRole entry held
    exact ⟨row, List.mem_append_left _ member, named⟩

/-- The latest version after `ensure_trust_list_current` lists what the tables ask for. -/
theorem latestTrustList?_ensure (db : Database) (zone : Zone) (role : Role) (now : Int) :
    ∃ trustList, (db.ensureTrustListCurrent zone role now).latestTrustList? zone role =
        some trustList ∧
      ∀ id, id ∈ trustList.members ↔ id ∈ db.desiredTrustlistCertificateIds zone role := by
  have built : ∀ id, id ∈ (db.newTrustList zone role now).members ↔
      id ∈ db.desiredTrustlistCertificateIds zone role := fun id => List.mem_dedup
  unfold Database.ensureTrustListCurrent
  split
  · rename_i trustList latest
    split
    · rename_i current
      obtain ⟨_, sameZone, sameRole⟩ := Database.latestTrustList?_mem latest
      refine ⟨trustList, latest, fun id => ?_⟩
      simp only [Database.isCurrent, sameZone, sameRole, decide_eq_true_eq] at current
      rw [← (List.perm_insertionSort (· ≤ ·) trustList.members).mem_iff, current,
        (List.perm_insertionSort (· ≤ ·) _).mem_iff]
    · exact ⟨_, db.latestTrustList?_buildTrustList_self zone role now, built⟩
  · exact ⟨_, db.latestTrustList?_buildTrustList_self zone role now, built⟩

/-- A returned row is stored, returned with its own document, and of the version
returned unless the rate limit was in force. -/
structure ServedFaithfully (settings : RegenerationSettings) (request : ArtifactRequest)
    (before after : GdsState) (trustList : TrustList) (row : TrustArtifact) (artifact : Json) :
    Prop where
  place : row.zone = request.zone ∧ row.role = request.role
  stored : row ∈ after.db.trustArtifacts
  document : artifact = row.artifactJson
  version : row.trustlistVersion = trustList.version ∨ isRateLimited settings request before = true

theorem GdsState.Coherent.inserted {state : GdsState} (coherent : state.Coherent)
    {request : ArtifactRequest} {trustList : TrustList}
    (latest : state.db.latestTrustList? request.zone request.role = some trustList)
    {signed : SignedArtifact}
    (listed : artifactCertificateIds signed.artifact =
      (state.db.trustedCertificates trustList).map Database.TrustedCertificate.certificateId)
    (reason : String) :
    (state.inserted request (state.db.newTrustArtifact request.zone request.role trustList.version
      signed reason)).Coherent := by
  obtain ⟨stored, place⟩ := Database.latestTrustList?_mem latest
  refine coherent.insert stored place ?_ reason _
  rw [listed]
  exact Database.trustedCertificates_perm coherent.wellFormed stored

/-- The rest of a call, once the list was read: the state stays coherent, and what
is returned is returned faithfully. -/
theorem GdsState.Coherent.finish {state : GdsState} (coherent : state.Coherent)
    (request : ArtifactRequest) {trustList : TrustList}
    (latest : state.db.latestTrustList? request.zone request.role = some trustList)
    {result : GdsState × Regeneration}
    (checked : CheckResult settings request trustList (state.db.trustedCertificates trustList)
      state result)
    {after : GdsState} {served : Served}
    (finished : Gds.finish request trustList (state.cache request.zone request.role) result =
      (after, served)) :
    after.Coherent ∧ after.db.trustLists = state.db.trustLists ∧
      ∀ list row artifact, served = .served list row artifact →
        list = trustList ∧
          ServedFaithfully settings request state after trustList row artifact := by
  cases checked with
  | raised =>
      cases finished
      exact ⟨coherent, rfl, fun _ _ _ same => nomatch same⟩
  | kept notForced upToDate =>
      cases found : state.db.latestTrustArtifact? request.zone request.role with
      | none =>
          rw [found] at finished
          cases finished
          exact ⟨coherent, rfl, fun _ _ _ same => nomatch same⟩
      | some stored =>
          obtain ⟨member, place⟩ := Database.latestTrustArtifact?_mem found
          have document := coherent.documentOf request.zone request.role member
          simp only [found, Gds.finish, document] at finished
          cases finished
          refine ⟨coherent.remember _ _ member, rfl, fun list row artifact same => ?_⟩
          cases same
          exact ⟨rfl, place, member, rfl, upToDate stored found⟩
  | inserted signed reason allowed listed =>
      have member : state.db.newTrustArtifact request.zone request.role trustList.version signed
          reason ∈ (state.inserted request (state.db.newTrustArtifact request.zone request.role
            trustList.version signed reason)).db.trustArtifacts :=
        List.mem_append_right _ (List.mem_singleton_self _)
      cases finished
      refine ⟨(coherent.inserted latest listed reason).remember _ _ member, rfl,
        fun list row artifact same => ?_⟩
      cases same
      exact ⟨rfl, ⟨rfl, rfl⟩, member, rfl, .inl rfl⟩

/-- What a call returns, related to the state in which it was made: the version that
the row names is stored with the members that the document lists, and it is the
version returned unless the rate limit was in force. -/
structure ServedMembers (settings : RegenerationSettings) (request : ArtifactRequest)
    (before after : GdsState) (trustList : TrustList) (row : TrustArtifact) (artifact : Json) :
    Prop where
  current : ∀ id, id ∈ trustList.members ↔
    id ∈ before.db.desiredTrustlistCertificateIds request.zone request.role
  named : ∃ list ∈ after.db.trustLists, list.zone = request.zone ∧ list.role = request.role ∧
    list.version = row.trustlistVersion ∧ (artifactCertificateIds artifact).Perm list.members
  upToDate : isRateLimited settings request before = false →
    row.trustlistVersion = trustList.version ∧
      (artifactCertificateIds artifact).Perm trustList.members

/-- One call from a coherent state. -/
theorem GdsState.Coherent.getOrRegenerate {state after : GdsState} {served : Served}
    (coherent : state.Coherent) {request : ArtifactRequest}
    (called : getOrRegenerateSignedArtifact crypto settings signer request state =
      (after, served)) :
    after.Coherent ∧ ∀ trustList row artifact, served = .served trustList row artifact →
      ServedMembers settings request state after trustList row artifact := by
  obtain ⟨trustList, latest, members⟩ :=
    latestTrustList?_ensure state.db request.zone request.role request.ensuredAt
  have ensured : (state.ensured request).Coherent :=
    coherent.ensureTrustListCurrent request.zone request.role request.ensuredAt
  change (state.ensured request).db.latestTrustList? _ _ = _ at latest
  rw [getOrRegenerateSignedArtifact, serveLatest, Database.latestTrustListWithCerts?, latest]
    at called
  obtain ⟨coherentAfter, lists, faithfully⟩ :=
    ensured.finish request latest (checkAndRegenerate_result ..) called
  refine ⟨coherentAfter, fun list row artifact same => ?_⟩
  obtain ⟨rfl, faithful⟩ := faithfully list row artifact same
  obtain ⟨named, stored, sameZone, sameRole, sameVersion, listed⟩ :=
    coherentAfter.artifactsFaithful row faithful.stored
  rw [← faithful.document] at listed
  rw [faithful.place.1] at sameZone
  rw [faithful.place.2] at sameRole
  refine ⟨members, ⟨named, stored, sameZone, sameRole, sameVersion, listed⟩, fun allowed => ?_⟩
  have version : row.trustlistVersion = list.version := by
    rcases faithful.version with version | limited
    · exact version
    · exact absurd (limited.symm.trans allowed) (by decide)
  obtain ⟨isStored, listZone, listRole⟩ := Database.latestTrustList?_mem latest
  rw [lists] at stored
  have own : named = list :=
    ensured.versionsUnique named stored list isStored (sameZone.trans listZone.symm)
      (sameRole.trans listRole.symm) (sameVersion.trans version)
  rw [own] at listed
  exact ⟨version, listed⟩

/-- What a forced call leaves behind when it does not raise: a current list and an
artifact of it in its own place, and every other place as it was. -/
structure Rebuilt (before after : Database) (zone : Zone) (role : Role) (trustList : TrustList)
    (row : TrustArtifact) : Prop where
  latestList : after.latestTrustList? zone role = some trustList
  members : ∀ id, id ∈ trustList.members ↔ id ∈ before.desiredTrustlistCertificateIds zone role
  latestArtifact : after.latestTrustArtifact? zone role = some row
  listed : (artifactCertificateIds row.artifactJson).Perm trustList.members
  otherLists : ∀ other kind, ¬(zone = other ∧ role = kind) →
    after.latestTrustList? other kind = before.latestTrustList? other kind
  otherArtifacts : ∀ other kind, ¬(zone = other ∧ role = kind) →
    after.latestTrustArtifact? other kind = before.latestTrustArtifact? other kind

theorem trustArtifacts_ensure (db : Database) (zone : Zone) (role : Role) (now : Int) :
    (db.ensureTrustListCurrent zone role now).trustArtifacts = db.trustArtifacts := by
  unfold Database.ensureTrustListCurrent
  split
  · split <;> rfl
  · rfl

theorem latestTrustList?_ensure_of_ne (db : Database) {zone other : Zone} {role kind : Role}
    (distinct : ¬(zone = other ∧ role = kind)) (now : Int) :
    (db.ensureTrustListCurrent zone role now).latestTrustList? other kind =
      db.latestTrustList? other kind := by
  unfold Database.ensureTrustListCurrent
  split
  · split
    · rfl
    · exact db.latestTrustList?_buildTrustList_of_ne distinct now
  · exact db.latestTrustList?_buildTrustList_of_ne distinct now

theorem wellFormed_ensure {db : Database} (wellFormed : db.WellFormed) (zone : Zone) (role : Role)
    (now : Int) : (db.ensureTrustListCurrent zone role now).WellFormed := by
  unfold Database.ensureTrustListCurrent
  split
  · split
    · exact wellFormed
    · exact wellFormed.buildTrustList zone role now
  · exact wellFormed.buildTrustList zone role now

/-- A forced call rebuilds its own place, unless it raises. -/
theorem getOrRegenerate_forced {state after : GdsState} {served : Served}
    (wellFormed : state.db.WellFormed) {request : ArtifactRequest}
    (forced : request.forceRebuild = true)
    (called : getOrRegenerateSignedArtifact crypto settings signer request state =
      (after, served)) (completed : served ≠ .raised) :
    ∃ trustList row, Rebuilt state.db after.db request.zone request.role trustList row := by
  obtain ⟨trustList, latest, members⟩ :=
    latestTrustList?_ensure state.db request.zone request.role request.ensuredAt
  have stored := (Database.latestTrustList?_mem latest).1
  have artifacts := trustArtifacts_ensure state.db request.zone request.role request.ensuredAt
  have ensured : (state.ensured request).db.WellFormed :=
    wellFormed_ensure wellFormed request.zone request.role request.ensuredAt
  change (state.ensured request).db.latestTrustList? _ _ = _ at latest
  rw [getOrRegenerateSignedArtifact, serveLatest, Database.latestTrustListWithCerts?, latest]
    at called
  simp only [Option.map_some] at called
  have checked := checkAndRegenerate_result crypto settings signer request trustList
    ((state.ensured request).db.trustedCertificates trustList)
    (state.ensured request)
  generalize checkAndRegenerate crypto settings signer request trustList
    ((state.ensured request).db.trustedCertificates trustList) (state.ensured request) = result
    at called checked
  cases checked with
  | raised =>
      cases called
      exact absurd rfl completed
  | kept notForced upToDate => exact absurd (forced.symm.trans notForced) (by decide)
  | inserted signed reason allowed listed =>
      cases called
      refine ⟨trustList, _, latest, members,
        Database.latestTrustArtifact?_insert_self _ _ _ _ signed reason, ?_,
        fun other kind distinct => latestTrustList?_ensure_of_ne state.db distinct _, ?_⟩
      · change (artifactCertificateIds signed.artifact).Perm trustList.members
        rw [listed]
        exact Database.trustedCertificates_perm ensured stored
      · intro other kind distinct
        refine (Database.latestTrustArtifact?_insert_of_ne _ _ distinct).trans ?_
        simp only [Database.latestTrustArtifact?, Database.trustArtifactsOf, GdsState.ensured,
          artifacts]

/-! ## Runs -/

/-- What happens to the GDS between two looks at it. A change of the other tables is
any change that keeps keys and references intact. -/
inductive GdsEvent where
  | change (applications : List Application) (certificates : List Certificate)
      (packages : List CertificatePackage)
  | build (zone : Zone) (role : Role) (now : Int)
  | request (request : ArtifactRequest)

variable (crypto settings signer) in
def GdsState.step (state : GdsState) : GdsEvent → Option GdsState
  | .change applications certificates packages =>
      let db := { state.db with
        applications := applications
        certificates := certificates
        packages := packages }
      if db.WellFormed then some { state with db := db } else none
  | .build zone role now => some { state with db := state.db.buildTrustList zone role now }
  | .request request =>
      some (getOrRegenerateSignedArtifact crypto settings signer request state).1

/-- A GDS with empty tables. -/
def GdsState.initial : GdsState where
  db := {
    applications := []
    certificates := []
    packages := []
    packageEvents := []
    trustLists := []
    trustArtifacts := [] }
  cache := fun _ _ => none
  lastRegenAt := fun _ _ => 0

theorem GdsState.coherent_initial : GdsState.initial.Coherent where
  wellFormed := by decide
  versionsUnique := fun _ member => nomatch member
  artifactsFaithful := fun _ member => nomatch member
  artifactIds := List.nodup_nil
  cached := fun _ _ _ held => nomatch held

theorem GdsState.Coherent.step {state next : GdsState} {event : GdsEvent}
    (coherent : state.Coherent)
    (stepped : GdsState.step crypto settings signer state event = some next) : next.Coherent := by
  cases event with
  | change applications certificates packages =>
      simp only [GdsState.step] at stepped
      split at stepped
      · rename_i wellFormed
        cases stepped
        exact ⟨wellFormed, coherent.versionsUnique, coherent.artifactsFaithful,
          coherent.artifactIds, coherent.cached⟩
      · cases stepped
  | build zone role now =>
      cases stepped
      exact coherent.buildTrustList zone role now
  | request request =>
      cases stepped
      exact (coherent.getOrRegenerate rfl).1

theorem GdsState.coherent_run {events : List GdsEvent} {state : GdsState}
    (reached : Transition.run (GdsState.step crypto settings signer) .initial events =
      some state) : state.Coherent :=
  Transition.run_invariant (fun _ _ _ coherent stepped => GdsState.Coherent.step coherent stepped)
    GdsState.coherent_initial reached

/-- Whatever happened before, a request that the rate limit does not hold back
returns a row of the version returned, with exactly the members of that version; in
any case the document lists the members of the version that the row names. -/
theorem served_artifact_members {events : List GdsEvent} {before after : GdsState}
    (reached : Transition.run (GdsState.step crypto settings signer) .initial events =
      some before)
    {request : ArtifactRequest} {trustList : TrustList} {row : TrustArtifact} {artifact : Json}
    (called : getOrRegenerateSignedArtifact crypto settings signer request before =
      (after, .served trustList row artifact)) :
    ServedMembers settings request before after trustList row artifact :=
  ((GdsState.coherent_run reached).getOrRegenerate called).2 trustList row artifact rfl

/-- The law without the rate limit: what is served is of the version served. -/
def ServesCurrentVersion (crypto : Crypto PrivateKey PublicKey) (settings : RegenerationSettings)
    (signer : TrustArtifactSigner PrivateKey) : Prop :=
  ∀ events before after request trustList row artifact,
    Transition.run (GdsState.step crypto settings signer) .initial events = some before →
      getOrRegenerateSignedArtifact crypto settings signer request before =
          (after, .served trustList row artifact) →
        row.trustlistVersion = trustList.version ∧
          (artifactCertificateIds artifact).Perm trustList.members

end Serving

/-! A client of the OT server whose certificate is revoked a second after an artifact
was made, with the default interval of thirty seconds. -/

def exampleMoment : Timestamp.DateTime where
  year := 2026
  month := 1
  day := 5
  hour := 3
  minute := 4
  second := 5
  microsecond := 1
  validDate := by decide
  validTime := by decide

def exampleApplication : Application where
  id := 1
  applicationUri := "urn:client"
  commonName := "client"
  zone := .dmz
  role := .southboundClient
  componentType := none
  status := "active"

def exampleCertificate (status : CertificateStatus) (revokedAt : Option Int) : Certificate where
  id := 7
  applicationId := 1
  fingerprintSha256 := "ab"
  serialNumber := some "1f"
  notBefore := none
  notAfter := none
  pem := "pem"
  status := status
  createdAt := 5
  revokedAt := revokedAt

def exampleRequest (forceRebuild : Bool) (regenAt : Int) : ArtifactRequest where
  zone := .ot
  role := .server
  forceRebuild := forceRebuild
  source := "api"
  ensuredAt := regenAt
  firstCheckAt := exampleMoment.micros
  secondCheckAt := exampleMoment.micros
  regenAt := regenAt
  generatedAt := exampleMoment
  material := some { caChainPem := "ca", crlBase64 := "AA==", crlBundle := [], crlMetadata := [] }

def exampleSettings : RegenerationSettings where
  regenThresholdSeconds := 180
  regenMinIntervalSeconds := 30

def exampleSigner : TrustArtifactSigner Unit where
  privateKey := ()
  keyId := "gds"
  ttlSeconds := 900

def revocationRun : List GdsEvent :=
  [.change [exampleApplication] [exampleCertificate .active none] [],
    .request (exampleRequest false 100000000),
    .change [exampleApplication] [exampleCertificate .revoked (some 6)] []]

def exampleVersions : GdsState × Served → Option (Nat × Nat × List Nat × List Nat)
  | (_, .served trustList row artifact) =>
      some (trustList.version, row.trustlistVersion, trustList.members,
        artifactCertificateIds artifact)
  | _ => none

/-- The revoked certificate is still handed out: version 2 is returned with the
artifact of version 1. -/
theorem rate_limited_request_serves_old_version :
    ¬ ServesCurrentVersion transparentCrypto exampleSettings exampleSigner := by
  intro current
  have computed : ((Transition.run (GdsState.step transparentCrypto exampleSettings exampleSigner)
      .initial revocationRun).bind fun state => exampleVersions
        (getOrRegenerateSignedArtifact transparentCrypto exampleSettings exampleSigner
          (exampleRequest false 101000000) state)) = some (2, 1, [], [7]) := by
    decide +kernel
  obtain ⟨state, reached, served⟩ := Option.bind_eq_some_iff.mp computed
  cases called : getOrRegenerateSignedArtifact transparentCrypto exampleSettings exampleSigner
      (exampleRequest false 101000000) state with
  | mk after outcome =>
      rw [called] at served
      cases outcome with
      | nothing => cases served
      | raised => cases served
      | served trustList row artifact =>
          obtain ⟨version, _⟩ := current _ _ _ _ _ _ _ reached called
          simp only [exampleVersions, Option.some.injEq, Prod.mk.injEq] at served
          omega

/-- The same request with the force flag gets version 2, without the certificate. -/
theorem forced_request_serves_current_version :
    ∃ before after trustList row artifact,
      ServedMembers exampleSettings (exampleRequest true 101000000) before after trustList row
        artifact ∧ trustList.version = 2 ∧ artifactCertificateIds artifact = [] := by
  have computed : ((Transition.run (GdsState.step transparentCrypto exampleSettings exampleSigner)
      .initial revocationRun).bind fun state => exampleVersions
        (getOrRegenerateSignedArtifact transparentCrypto exampleSettings exampleSigner
          (exampleRequest true 101000000) state)) = some (2, 2, [], []) := by
    decide +kernel
  obtain ⟨state, reached, served⟩ := Option.bind_eq_some_iff.mp computed
  cases called : getOrRegenerateSignedArtifact transparentCrypto exampleSettings exampleSigner
      (exampleRequest true 101000000) state with
  | mk after outcome =>
      rw [called] at served
      cases outcome with
      | nothing => cases served
      | raised => cases served
      | served trustList row artifact =>
          simp only [exampleVersions, Option.some.injEq, Prod.mk.injEq] at served
          exact ⟨_, _, _, _, _, served_artifact_members reached called, served.1, served.2.2.2⟩

end OpcuaGds.Gds
