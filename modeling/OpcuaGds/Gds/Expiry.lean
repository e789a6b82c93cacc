import OpcuaGds.Gds.CertificateStore
import OpcuaGds.Gds.TrustListStore

/-! # Expired certificates in lists and artifacts

Expiry is a status of its own, set by `mark_expired_active_certificates`, which nothing
in the GDS calls. A list that is built or an artifact that is generated is free of expired
certificates exactly when this operation would mark none of the certificates composed.
-/

namespace OpcuaGds.Gds

/-- `not_after` is earlier than the given time. -/
def Certificate.IsPast (certificate : Certificate) (now : Int) : Prop :=
  ∃ notAfter, certificate.notAfter = some notAfter ∧ notAfter < now

namespace Database

/-- None of the identifiers is that of a certificate past its end. -/
def FreeOfExpired (db : Database) (ids : List Nat) (now : Int) : Prop :=
  ∀ certificate ∈ db.certificates, certificate.id ∈ ids → ¬ Certificate.IsPast certificate now

/-- Of the certificates composed for a list, the expiry operation would mark none. -/
def NothingToMark (db : Database) (zone : Zone) (role : Role) (now : Int) : Prop :=
  ∀ certificate ∈ db.certificates, db.Composed zone role certificate.id →
    Certificate.isExpiredActive certificate now = false

/-- Identifiers of the composed certificates are free of expired ones exactly when
there is nothing to mark: what is composed is active. -/
theorem freeOfExpired_iff {db : Database} (wellFormed : db.WellFormed) {zone : Zone} {role : Role}
    {ids : List Nat} (composed : ∀ id, id ∈ ids ↔ db.Composed zone role id) (now : Int) :
    db.FreeOfExpired ids now ↔ db.NothingToMark zone role now := by
  have past {certificate : Certificate} (stored : certificate ∈ db.certificates)
      (isComposed : db.Composed zone role certificate.id) :
      ¬ Certificate.IsPast certificate now ↔
        Certificate.isExpiredActive certificate now = false := by
    obtain ⟨other, otherStored, same, active⟩ := desired_isActive (mem_desired_iff.mpr isComposed)
    have one : other = certificate :=
      List.inj_on_of_nodup_map wellFormed.certificateIds otherStored stored same
    rw [one, Certificate.isActive, decide_eq_true_eq] at active
    cases notAfter : certificate.notAfter <;>
      simp [Certificate.IsPast, Certificate.isExpiredActive, active, notAfter]
  constructor
  · intro free certificate stored isComposed
    exact (past stored isComposed).mp (free certificate stored ((composed _).mpr isComposed))
  · intro nothing certificate stored listed
    have isComposed := (composed _).mp listed
    exact (past stored isComposed).mpr (nothing certificate stored isComposed)

end Database

/-! ## One step -/

/-- The lists and artifacts that a step adds hold no certificate that is past its end at
their own time. -/
structure DistributesUnexpired (before after : GdsState) : Prop where
  lists : ∀ built, after.db.trustLists = before.db.trustLists ++ built →
    ∀ trustList ∈ built, after.db.FreeOfExpired trustList.members trustList.publishedAt
  artifacts : ∀ inserted, after.db.trustArtifacts = before.db.trustArtifacts ++ inserted →
    ∀ row ∈ inserted,
      after.db.FreeOfExpired (artifactCertificateIds row.artifactJson) row.generatedAt.micros

/-- Whenever a step adds a list or an artifact, there is nothing to mark at its time. -/
def MarkedInTime (before : GdsState) (event : GdsEvent) (after : GdsState) : Prop :=
  match event with
  | .change _ _ _ => True
  | .build zone role now => before.db.NothingToMark zone role now
  | .request request =>
      (after.db.trustLists ≠ before.db.trustLists →
          before.db.NothingToMark request.zone request.role request.ensuredAt) ∧
        (after.db.trustArtifacts ≠ before.db.trustArtifacts →
          before.db.NothingToMark request.zone request.role request.generatedAt.micros)

theorem forall_appended_iff {α : Type} {before after : List α} {holds : α → Prop} {row : α}
    (added : after = before ++ [row]) :
    (∀ appended, after = before ++ appended → ∀ other ∈ appended, holds other) ↔ holds row := by
  subst added
  constructor
  · intro every
    exact every [row] rfl row List.mem_cons_self
  · intro here appended same other member
    rw [← List.append_cancel_left same, List.mem_singleton] at member
    exact member ▸ here

theorem forall_appended_of_same {α : Type} {before after : List α} {holds : α → Prop}
    (same : after = before) :
    ∀ appended, after = before ++ appended → ∀ other ∈ appended, holds other := by
  intro appended added other member
  rw [same] at added
  rw [List.self_eq_append_right.mp added] at member
  cases member

section Serving

variable {PrivateKey PublicKey : Type} {crypto : Crypto PrivateKey PublicKey}
  {settings : RegenerationSettings} {signer : TrustArtifactSigner PrivateKey}

/-- An inserted row is of the time of the request. -/
theorem generatedAt_of_regenerate {request : ArtifactRequest} {trustList : TrustList}
    {certs : List Database.TrustedCertificate} {state after : GdsState} {row : TrustArtifact}
    {artifact : Json}
    (result : checkAndRegenerate crypto settings signer request trustList certs state =
      (after, .inserted row artifact)) : row.generatedAt = request.generatedAt := by
  unfold checkAndRegenerate at result
  simp only at result
  split at result
  · cases result
  · unfold regenerate at result
    simp only at result
    split at result
    · cases result
    · split at result
      · cases result
      · split at result
        · cases result
        · rename_i signed made
          obtain ⟨material, _, built⟩ := Option.bind_eq_some_iff.mp made
          simp only [TrustArtifactSigner.buildSignedArtifact, Option.bind_eq_bind,
            Option.bind_eq_some_iff, Option.some.injEq] at built
          obtain ⟨_, _, rfl⟩ := built
          cases result
          rfl

/-- What a call adds to the tables: at most one list version, and at most one artifact
with the members that were composed before. -/
theorem getOrRegenerate_adds {state after : GdsState} {served : Served}
    (wellFormed : state.db.WellFormed) {request : ArtifactRequest}
    (called : getOrRegenerateSignedArtifact crypto settings signer request state =
      (after, served)) :
    after.db.certificates = state.db.certificates ∧
      (after.db.trustLists = state.db.trustLists ∨
        after.db.trustLists = state.db.trustLists ++
          [state.db.newTrustList request.zone request.role request.ensuredAt]) ∧
      (after.db.trustArtifacts = state.db.trustArtifacts ∨
        ∃ row, after.db.trustArtifacts = state.db.trustArtifacts ++ [row] ∧
          row.generatedAt = request.generatedAt ∧
            ∀ id, id ∈ artifactCertificateIds row.artifactJson ↔
              state.db.Composed request.zone request.role id) := by
  obtain ⟨trustList, latest, members⟩ :=
    latestTrustList?_ensure state.db request.zone request.role request.ensuredAt
  have ensured := wellFormed_ensure wellFormed request.zone request.role request.ensuredAt
  have stored := (Database.latestTrustList?_mem latest).1
  have artifacts := trustArtifacts_ensure state.db request.zone request.role request.ensuredAt
  have lists : (state.ensured request).db.certificates = state.db.certificates ∧
      ((state.ensured request).db.trustLists = state.db.trustLists ∨
        (state.ensured request).db.trustLists = state.db.trustLists ++
          [state.db.newTrustList request.zone request.role request.ensuredAt]) := by
    simp only [GdsState.ensured, Database.ensureTrustListCurrent]
    split
    · split
      · exact ⟨rfl, Or.inl rfl⟩
      · exact ⟨rfl, Or.inr rfl⟩
    · exact ⟨rfl, Or.inr rfl⟩
  change (state.ensured request).db.latestTrustList? _ _ = _ at latest
  rw [getOrRegenerateSignedArtifact, serveLatest, Database.latestTrustListWithCerts?, latest]
    at called
  simp only [Option.map_some] at called
  have checked := checkAndRegenerate_result crypto settings signer request trustList
    ((state.ensured request).db.trustedCertificates trustList) (state.ensured request)
  cases result : checkAndRegenerate crypto settings signer request trustList
      ((state.ensured request).db.trustedCertificates trustList) (state.ensured request) with
  | mk next regeneration =>
      rw [result] at called checked
      cases checked with
      | raised =>
          cases called
          exact ⟨lists.1, lists.2, Or.inl artifacts⟩
      | kept notForced upToDate =>
          cases found :
              (state.ensured request).db.latestTrustArtifact? request.zone request.role with
          | none =>
              rw [found] at called
              cases called
              exact ⟨lists.1, lists.2, Or.inl artifacts⟩
          | some row =>
              rw [found] at called
              cases called
              exact ⟨lists.1, lists.2, Or.inl artifacts⟩
      | inserted signed reason allowed listed =>
          have moment := generatedAt_of_regenerate result
          cases called
          refine ⟨lists.1, lists.2, Or.inr ⟨_, congrArg (· ++ [_]) artifacts, moment, ?_⟩⟩
          intro id
          change id ∈ artifactCertificateIds signed.artifact ↔ _
          rw [listed]
          exact (Database.trustedCertificates_perm ensured stored).mem_iff.trans
            ((members id).trans Database.mem_desired_iff)

/-- Added rows, if any, and a law about each of them. -/
theorem appended_iff {α : Type} {before after : List α} {holds : α → Prop} {condition : Prop}
    (added : after = before ∨ ∃ row, after = before ++ [row] ∧ (holds row ↔ condition)) :
    (∀ appended, after = before ++ appended → ∀ row ∈ appended, holds row) ↔
      (after ≠ before → condition) := by
  rcases added with same | ⟨row, one, law⟩
  · exact iff_of_true (forall_appended_of_same same) (fun changed => absurd same changed)
  · have changed : after ≠ before := by
      rw [one]
      simp
    rw [forall_appended_iff one, law]
    exact ⟨fun holds _ => holds, fun implied => implied changed⟩

theorem distributesUnexpired_iff {state next : GdsState} {event : GdsEvent}
    (coherent : state.Coherent)
    (stepped : GdsState.step crypto settings signer state event = some next) :
    DistributesUnexpired state next ↔ MarkedInTime state event next := by
  have wellFormed := coherent.wellFormed
  have built (zone : Zone) (role : Role) (now : Int) :
      state.db.FreeOfExpired (state.db.newTrustList zone role now).members now ↔
        state.db.NothingToMark zone role now :=
    Database.freeOfExpired_iff wellFormed
      (fun _ => List.mem_dedup.trans Database.mem_desired_iff) now
  cases event with
  | change applications certificates packages =>
      simp only [GdsState.step] at stepped
      split at stepped
      · cases stepped
        exact iff_of_true ⟨forall_appended_of_same rfl, forall_appended_of_same rfl⟩ trivial
      · cases stepped
  | build zone role now =>
      cases stepped
      have law : (∀ appended, (state.db.buildTrustList zone role now).trustLists =
          state.db.trustLists ++ appended → ∀ trustList ∈ appended,
            state.db.FreeOfExpired trustList.members trustList.publishedAt) ↔
          state.db.NothingToMark zone role now :=
        (forall_appended_iff rfl).trans (built zone role now)
      constructor
      · intro unexpired
        exact law.mp unexpired.lists
      · intro marked
        exact ⟨law.mpr marked, forall_appended_of_same rfl⟩
  | request request =>
      cases called : getOrRegenerateSignedArtifact crypto settings signer request state with
      | mk after served =>
          obtain ⟨certificates, lists, artifacts⟩ := getOrRegenerate_adds wellFormed called
          simp only [GdsState.step, called] at stepped
          cases stepped
          have sameRows (ids : List Nat) (now : Int) :
              next.db.FreeOfExpired ids now ↔ state.db.FreeOfExpired ids now := by
            rw [Database.FreeOfExpired, Database.FreeOfExpired, certificates]
          have listLaw : (∀ appended, next.db.trustLists = state.db.trustLists ++ appended →
              ∀ trustList ∈ appended,
                next.db.FreeOfExpired trustList.members trustList.publishedAt) ↔
              (next.db.trustLists ≠ state.db.trustLists →
                state.db.NothingToMark request.zone request.role request.ensuredAt) := by
            apply appended_iff
            apply lists.imp_right
            intro one
            exact ⟨_, one, (sameRows _ _).trans (built request.zone request.role request.ensuredAt)⟩
          have artifactLaw : (∀ appended,
              next.db.trustArtifacts = state.db.trustArtifacts ++ appended → ∀ row ∈ appended,
                next.db.FreeOfExpired (artifactCertificateIds row.artifactJson)
                  row.generatedAt.micros) ↔
              (next.db.trustArtifacts ≠ state.db.trustArtifacts →
                state.db.NothingToMark request.zone request.role request.generatedAt.micros) := by
            apply appended_iff
            apply artifacts.imp_right
            rintro ⟨row, one, moment, listed⟩
            rw [← moment]
            exact ⟨row, one, (sameRows _ _).trans (Database.freeOfExpired_iff wellFormed listed _)⟩
          constructor
          · intro unexpired
            exact ⟨listLaw.mp unexpired.lists, artifactLaw.mp unexpired.artifacts⟩
          · intro marked
            exact ⟨listLaw.mpr marked.1, artifactLaw.mpr marked.2⟩

end Serving

end OpcuaGds.Gds
