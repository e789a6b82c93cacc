import OpcuaGds.Agent.ArtifactAgreement
import OpcuaGds.Agent.SignedSync

/-! # Replay protection of the signed sync

Every document in the cache was accepted by the cycle that stored it, so it is
comparable with the next artifact for its file, and the pair of version and revision
never goes back, over any sequence of cycles and answers.
-/

namespace OpcuaGds.Agent

open Gds (Crypto)

variable {PrivateKey PublicKey : Type} (crypto : Crypto PrivateKey PublicKey)
  (x509 : X509 PublicKey) (pin : Pin)

/-- The artifact was accepted in an exchange: it verified against a key with the pinned
fingerprint, and it had not expired. -/
structure AcceptedIn (zone role : String) (exchange : TargetExchange) (artifact : Json) : Prop where
  verified : ∃ (anchor : PinnedAnchor crypto pin) (signature : Json) (result : String × Nat),
    exchange.fetched = some (artifact, signature) ∧
      verifySignedArtifact crypto artifact signature zone role anchor.publicKey
        anchor.fingerprint = .ok result
  unexpired : ∃ expiresAt,
    parseRfc3339Utc ((artifact.field? "expires_at").getD (.str "")).toStr = some expiresAt ∧
      exchange.now ≤ expiresAt

/-- A cached document that the next cycle compares with. -/
structure IsComparable (artifact : Json) : Prop where
  compatible : ∀ trustAnchorFp : String,
    PythonText.lower trustAnchorFp = PythonText.lower pin.fingerprint →
      prevSignedCompatible (some artifact) trustAnchorFp = .ok true
  hasPair : ∃ pair, revisionPair artifact = some pair

theorem get?_of_isObject {document : Json} (object : document.isObject = true) (key : String)
    (default : Json) :
    document.get? key default = some ((document.field? key).getD default) := by
  rw [Json.get?, if_pos object]

theorem isObject_of_get? {document value default : Json} {key : String}
    (found : document.get? key default = some value) :
    document.isObject = true ∧ (document.field? key).getD default = value := by
  unfold Json.get? at found
  split at found
  · rename_i object
    exact ⟨object, Option.some.inj found⟩
  · cases found

theorem truthy_of_field? {document value : Json} {key : String}
    (found : document.field? key = some value) : document.truthy = true := by
  cases document with
  | obj fields =>
      cases fields with
      | nil => cases found
      | cons field rest => rfl
  | _ => cases found

/-- Reading the signer with `or {}` or with a default is the same for a dictionary. -/
theorem signer_or_empty {signer : Option Json}
    (object : (signer.getD (.obj [])).isObject = true) :
    (if (signer.getD .null).truthy then signer.getD .null else .obj []) =
      signer.getD (.obj []) := by
  cases signer with
  | none => rfl
  | some signer =>
      cases signer with
      | obj fields =>
          cases fields with
          | nil => rfl
          | cons field rest => rfl
      | _ => cases object

/-- A verified artifact counts as a signed artifact of every anchor with the pin. -/
theorem prevSignedCompatible_of_verified {artifact signature : Json} {zone role : String}
    {anchor : PinnedAnchor crypto pin} {result : String × Nat}
    (verified : verifySignedArtifact crypto artifact signature zone role anchor.publicKey
      anchor.fingerprint = .ok result) {trustAnchorFp : String}
    (pinned : PythonText.lower trustAnchorFp = PythonText.lower pin.fingerprint) :
    prevSignedCompatible (some artifact) trustAnchorFp = .ok true := by
  obtain ⟨object, header, own, _⟩ := (verifySignedArtifact_eq_ok crypto).mp verified
  rw [checkHeader_eq_ok, field?_normalizeSignedArtifact (by decide),
    field?_normalizeSignedArtifact (by decide), field?_normalizeSignedArtifact (by decide),
    field?_normalizeSignedArtifact (by decide)] at header
  rw [field?_normalizeSignedArtifact (by decide), checkArtifactSigner_eq_ok] at own
  obtain ⟨hasZone, _, kind, revision, hasRevision, notNull⟩ := header
  obtain ⟨_, fingerprint, found, matching⟩ := own
  obtain ⟨signerObject, _⟩ := isObject_of_get? found
  have isRevision : isNull revision = false := by
    rw [← Bool.not_eq_true, isNull_iff]
    exact notNull
  have sameFp : PythonText.lower fingerprint.toStr = PythonText.lower trustAnchorFp := by
    rw [matching, anchor.pinned, pinned]
  unfold prevSignedCompatible
  simp only [truthy_of_field? hasZone, if_true, get?_of_isObject object, attempt, hasRevision,
    Option.getD_some, signer_or_empty signerObject, found, kind, sameFp, isRevision,
    decide_true, Bool.not_false, Bool.and_self, bind, Except.bind]

theorem previousNumber_of_int {field : String} {previous : Json} {number : Int}
    (read : ((previous.field? field).getD .null).toInt? = some number) :
    previousNumber field (some previous) true = .ok (some number) := by
  have notNull : isNull ((previous.field? field).getD .null) = false := by
    rw [← Bool.not_eq_true, isNull_iff]
    intro null
    rw [null] at read
    cases read
  simp only [previousNumber, notNull, Bool.not_false, Bool.and_self, if_true, read, attempt,
    bind, Except.bind]

theorem revisionPair_eq_some {artifact : Json} {pair : Int × Int} :
    revisionPair artifact = some pair ↔
      ((artifact.field? "version").getD .null).toInt? = some pair.1 ∧
        ((artifact.field? "artifact_revision").getD .null).toInt? = some pair.2 := by
  obtain ⟨version, revision⟩ := pair
  simp only [revisionPair, Option.bind_eq_bind, Option.bind_eq_some_iff, Option.some.injEq,
    Prod.mk.injEq]
  constructor
  · rintro ⟨_, hasVersion, _, hasRevision, rfl, rfl⟩
    exact ⟨hasVersion, hasRevision⟩
  · rintro ⟨hasVersion, hasRevision⟩
    exact ⟨_, hasVersion, _, hasRevision, rfl, rfl⟩

/-- The replay check reads a pair, and it is not below that of a comparable document. -/
theorem checkReplay_eq_ok {previous : Option Json} {compatible : Bool} {artifact : Json}
    {done : Unit} (passed : checkReplay previous compatible artifact = .ok done) :
    ∃ pair, revisionPair artifact = some pair ∧
      ∀ (cached : Json) (old : Int × Int), previous = some cached → compatible = true →
        revisionPair cached = some old → ¬ PairLt pair old := by
  simp only [checkReplay, Fallible.bind_eq_ok, attempt_eq_ok] at passed
  obtain ⟨prevVersion, readVersion, prevRevision, readRevision, pair, current, compared⟩ := passed
  refine ⟨pair, current, ?_⟩
  rintro cached old rfl rfl hasPair
  obtain ⟨version, revision⟩ := revisionPair_eq_some.mp hasPair
  rw [previousNumber_of_int version, Except.ok.injEq] at readVersion
  rw [previousNumber_of_int revision, Except.ok.injEq] at readRevision
  subst readVersion readRevision
  exact ensure_eq_ok.mp compared

/-- What the checks of one target say about the artifact they let through. -/
theorem acceptArtifact_eq_ok {signDebug : Bool} {anchor : PinnedAnchor crypto pin}
    {zone role : String} {previous : Option Json} {compatible : Bool}
    {exchange : TargetExchange} {artifact : Json} {crlDer : List UInt8}
    (accepted : acceptArtifact crypto x509 pin signDebug anchor zone role previous compatible
      exchange = .ok (artifact, crlDer)) :
    AcceptedIn crypto pin zone role exchange artifact ∧ IsComparable pin artifact ∧
      ∀ (cached : Json) (old : Int × Int), previous = some cached → compatible = true →
        revisionPair cached = some old →
          ∃ pair, revisionPair artifact = some pair ∧ ¬ PairLt pair old := by
  simp only [acceptArtifact, Fallible.bind_eq_ok, attempt_eq_ok, ensure_eq_ok,
    Except.ok.injEq] at accepted
  obtain ⟨⟨_, signature⟩, fetched, result, verified, _, _, _, _, expiresAt, readExpiry, _, alive,
    _, replay, _, _, same⟩ := accepted
  rw [Prod.mk.injEq] at same
  obtain ⟨rfl, rfl⟩ := same
  obtain ⟨pair, hasPair, notBelow⟩ := checkReplay_eq_ok replay
  refine ⟨⟨⟨anchor, signature, result, fetched, verified⟩, expiresAt, readExpiry,
    not_lt.mp alive⟩, ⟨?_, pair, hasPair⟩, ?_⟩
  · intro trustAnchorFp pinned
    exact prevSignedCompatible_of_verified crypto pin verified pinned
  · intro cached old found comparable hasOld
    exact ⟨pair, hasPair, notBelow cached old found comparable hasOld⟩

/-- The only way in which a target step changes the cache. -/
structure StoredIn (zone role : String) (exchange : TargetExchange) (before after : SyncFiles)
    (artifact : Json) : Prop where
  accepted : AcceptedIn crypto pin zone role exchange artifact
  comparable : IsComparable pin artifact
  replaced : after.trustlists =
    Function.update before.trustlists (trustlistFile zone role) (some artifact)
  notBelow : ∀ cached, before.trustlists (trustlistFile zone role) = some cached →
    IsComparable pin cached → ∃ pair old, revisionPair artifact = some pair ∧
      revisionPair cached = some old ∧ ¬ PairLt pair old

theorem safeWritePkiBundle_trustlists (files : SyncFiles) (artifact : Json)
    (crlDer : List UInt8) (exchange : TargetExchange) :
    (safeWritePkiBundle files artifact crlDer exchange).1.trustlists = files.trustlists := by
  unfold safeWritePkiBundle
  split
  · rfl
  · split
    · dsimp only
      split <;> rfl
    · rfl

theorem storeArtifact_trustlists (zone role : String) (files : SyncFiles) (artifact : Json)
    (exchange : TargetExchange) :
    (storeArtifact zone role files artifact exchange).1.trustlists = files.trustlists ∨
      (storeArtifact zone role files artifact exchange).1.trustlists =
        Function.update files.trustlists (trustlistFile zone role) (some artifact) := by
  unfold storeArtifact
  split
  · split
    · exact Or.inr rfl
    · exact Or.inl rfl
  · exact Or.inl rfl

theorem storeArtifact_not_rejected (zone role : String) (files : SyncFiles) (artifact : Json)
    (exchange : TargetExchange) (failure : Failure) :
    (storeArtifact zone role files artifact exchange).2 ≠ .rejected failure := by
  unfold storeArtifact
  split
  · split
    · dsimp only
      split <;> exact TargetOutcome.noConfusion
    · exact TargetOutcome.noConfusion
  · exact TargetOutcome.noConfusion

/-- An accepted target is stored, or the cache stays as it was. -/
theorem completeTarget_trustlists (zone role : String) (exchange : TargetExchange)
    (files : SyncFiles) (session : SyncSession crypto pin) (artifact : Json)
    (crlDer : List UInt8) :
    let result := completeTarget crypto pin zone role exchange files session artifact crlDer
    result.1.trustlists = files.trustlists ∨
      (∀ failure, result.2.2 ≠ .rejected failure) ∧ result.1.trustlists =
        Function.update files.trustlists (trustlistFile zone role) (some artifact) := by
  have kept := safeWritePkiBundle_trustlists files artifact crlDer exchange
  unfold completeTarget
  split
  case isTrue =>
    have stored := storeArtifact_not_rejected zone role files artifact exchange
    exact (storeArtifact_trustlists zone role files artifact exchange).imp_right
      fun replaced => ⟨stored, replaced⟩
  case isFalse =>
    split
    case h_1 bundle written =>
      rw [written] at kept
      exact Or.inl kept
    case h_2 bundle written =>
      rw [written] at kept
      have stored := storeArtifact_not_rejected zone role bundle artifact exchange
      rcases storeArtifact_trustlists zone role bundle artifact exchange with same | replaced
      · exact Or.inl (same.trans kept)
      · rw [kept] at replaced
        exact Or.inr ⟨stored, replaced⟩

/-- A target step leaves the cache alone, or does not reject and stores an artifact that
it accepted. -/
theorem syncTarget_cache (zone role : String) (exchange : TargetExchange) (files : SyncFiles)
    (session : SyncSession crypto pin) :
    let result := syncTarget crypto x509 pin zone role exchange files session
    result.1.trustlists = files.trustlists ∨
      (∀ failure, result.2.2 ≠ .rejected failure) ∧
        ∃ artifact, StoredIn crypto pin zone role exchange files result.1 artifact := by
  unfold syncTarget
  dsimp only
  split
  case isFalse => exact Or.inl rfl
  case isTrue =>
    split
    case h_1 => exact Or.inl rfl
    case h_2 compatible comparable =>
      split
      case h_1 => exact Or.inl rfl
      case h_2 artifact crlDer passed =>
        obtain ⟨accepted, isComparable, notBelow⟩ := acceptArtifact_eq_ok crypto x509 pin passed
        refine (completeTarget_trustlists crypto pin zone role exchange files session artifact
          crlDer).imp_right fun ⟨stored, replaced⟩ => ⟨stored, artifact, accepted, isComparable,
            replaced, ?_⟩
        intro cached found same
        obtain ⟨old, hasOld⟩ := same.hasPair
        have isTrue := same.compatible session.anchor.fingerprint session.anchor.pinned
        rw [found, isTrue, Except.ok.injEq] at comparable
        obtain ⟨pair, hasPair, above⟩ := notBelow cached old found comparable.symm hasOld
        exact ⟨pair, old, hasPair, hasOld, above⟩

/-- A rejected response leaves the cache as it was. -/
theorem syncTarget_rejected {zone role : String} {exchange : TargetExchange}
    {files : SyncFiles} {session : SyncSession crypto pin} {failure : Failure}
    (rejected : (syncTarget crypto x509 pin zone role exchange files session).2.2 =
      .rejected failure) :
    (syncTarget crypto x509 pin zone role exchange files session).1.trustlists =
      files.trustlists := by
  rcases syncTarget_cache crypto x509 pin zone role exchange files session with
    kept | ⟨stored, _⟩
  · exact kept
  · exact absurd rejected (stored failure)

/-! ## Runs -/

/-- What one step does to the cache. -/
theorem step_cache {state next : SyncState crypto pin} {event : SyncEvent}
    (stepped : state.step crypto x509 pin event = some next) :
    next.files.trustlists = state.files.trustlists ∨
      ∃ zone role exchange artifact, event = .target zone role exchange ∧
        StoredIn crypto pin zone role exchange state.files next.files artifact := by
  cases event with
  | beginCycle signDebug anchorResponse =>
      simp only [SyncState.step] at stepped
      split at stepped
      · cases stepped
        exact Or.inl rfl
      · cases stepped
        exact Or.inl rfl
  | target zone role exchange =>
      simp only [SyncState.step] at stepped
      split at stepped
      · cases stepped
        exact Or.inl rfl
      · rename_i session _
        have files : next.files =
            (syncTarget crypto x509 pin zone role exchange state.files session).1 := by
          split at stepped
          · rename_i same
            cases stepped
            rw [same]
          · rename_i same
            cases stepped
            rw [same]
        rw [files]
        rcases syncTarget_cache crypto x509 pin zone role exchange state.files session with
          kept | ⟨_, artifact, stored⟩
        · exact Or.inl kept
        · exact Or.inr ⟨zone, role, exchange, artifact, rfl, stored⟩

/-- Every document in the cache is a signed artifact of the pinned anchor. -/
def SyncFiles.AllComparable (files : SyncFiles) : Prop :=
  ∀ file cached, files.trustlists file = some cached → IsComparable pin cached

theorem allComparable_step {state next : SyncState crypto pin} {event : SyncEvent}
    (comparable : state.files.AllComparable pin)
    (stepped : state.step crypto x509 pin event = some next) : next.files.AllComparable pin := by
  intro file cached found
  rcases step_cache crypto x509 pin stepped with kept | ⟨zone, role, _, artifact, _, stored⟩
  · rw [kept] at found
    exact comparable file cached found
  · rw [stored.replaced] at found
    by_cases here : file = trustlistFile zone role
    · subst here
      rw [Function.update_self, Option.some.injEq] at found
      exact found ▸ stored.comparable
    · rw [Function.update_of_ne here] at found
      exact comparable file cached found

/-- One step does not lower the pair of any file. -/
theorem cachedPairs_step_le {state next : SyncState crypto pin} {event : SyncEvent}
    (comparable : state.files.AllComparable pin)
    (stepped : state.step crypto x509 pin event = some next) :
    state.files.cachedPairs ≤ next.files.cachedPairs := by
  rcases step_cache crypto x509 pin stepped with kept | ⟨zone, role, _, artifact, _, stored⟩
  · have same : next.files.cachedPairs = state.files.cachedPairs := by
      rw [SyncFiles.cachedPairs, kept, SyncFiles.cachedPairs]
    rw [same]
  · intro file pair found
    obtain ⟨cached, hasCached, hasPair⟩ := Option.bind_eq_some_iff.mp found
    by_cases here : file = trustlistFile zone role
    · subst here
      obtain ⟨new, old, hasNew, hasOld, notBelow⟩ :=
        stored.notBelow cached hasCached (comparable _ cached hasCached)
      rw [hasPair, Option.some.injEq] at hasOld
      subst hasOld
      refine ⟨new, ?_, notBelow⟩
      simp only [SyncFiles.cachedPairs, stored.replaced, Function.update_self, Option.bind_some,
        hasNew]
    · refine ⟨pair, ?_, ?_⟩
      · simp only [SyncFiles.cachedPairs, stored.replaced, Function.update_of_ne here, hasCached,
          Option.bind_some, hasPair]
      · unfold PairLt
        omega

/-- What is cached at the end of a run was there at the start or was accepted on the way. -/
theorem cached_of_run {state final : SyncState crypto pin} {events : List SyncEvent}
    (reached : Transition.run (SyncState.step crypto x509 pin) state events = some final)
    {file : String} {artifact : Json} (found : final.files.trustlists file = some artifact) :
    state.files.trustlists file = some artifact ∨
      ∃ zone role exchange, .target zone role exchange ∈ events ∧
        file = trustlistFile zone role ∧ AcceptedIn crypto pin zone role exchange artifact := by
  induction events generalizing state with
  | nil =>
      cases reached
      exact Or.inl found
  | cons event events ih =>
      obtain ⟨next, stepped, rest⟩ := Transition.run_cons_eq_some.mp reached
      rcases ih rest with before | ⟨zone, role, exchange, member, here, accepted⟩
      · rcases step_cache crypto x509 pin stepped with
          kept | ⟨zone, role, exchange, stored, rfl, storedIn⟩
        · exact Or.inl (kept ▸ before)
        · rw [storedIn.replaced] at before
          by_cases here : file = trustlistFile zone role
          · subst here
            rw [Function.update_self, Option.some.injEq] at before
            subst before
            exact Or.inr ⟨zone, role, exchange, List.mem_cons_self, rfl, storedIn.accepted⟩
          · rw [Function.update_of_ne here] at before
            exact Or.inl before
      · exact Or.inr ⟨zone, role, exchange, List.mem_cons_of_mem _ member, here, accepted⟩

/-- After an exception the remaining targets are passed over. -/
theorem run_targets_closed (files : SyncFiles)
    (targets : List (String × String × TargetExchange)) :
    Transition.run (SyncState.step crypto x509 pin) ⟨files, none⟩
      (targets.map fun (zone, role, exchange) => .target zone role exchange) =
        some ⟨files, none⟩ := by
  induction targets with
  | nil => rfl
  | cons target rest ih => exact ih

/-- The steps of the targets do what the loop does. -/
theorem run_targets (targets : List (String × String × TargetExchange)) (files : SyncFiles)
    (session : SyncSession crypto pin) :
    ∃ final, Transition.run (SyncState.step crypto x509 pin) ⟨files, some session⟩
        (targets.map fun (zone, role, exchange) => .target zone role exchange) = some final ∧
      final.files = syncTargets crypto x509 pin targets files session := by
  induction targets generalizing files session with
  | nil => exact ⟨_, rfl, rfl⟩
  | cons target rest ih =>
      obtain ⟨zone, role, exchange⟩ := target
      rw [List.map_cons, Transition.run_cons, syncTargets]
      simp only [SyncState.step]
      split
      case h_1 after _ _ => exact ⟨_, run_targets_closed crypto x509 pin after rest, rfl⟩
      case h_2 after opened _ _ _ => exact ih after opened

/-- The steps of a cycle do what `run_sync_cycle_signed` does. -/
theorem run_cycle (cycle : SyncCycle) (state : SyncState crypto pin) :
    ∃ final, Transition.run (SyncState.step crypto x509 pin) state cycle.events = some final ∧
      final.files = runSyncCycleSigned crypto x509 pin cycle state.files := by
  rw [SyncCycle.events, Transition.run_cons, runSyncCycleSigned]
  simp only [SyncState.step]
  split
  · rw [Option.bind_some, run_targets_closed]
    exact ⟨_, rfl, rfl⟩
  · exact run_targets crypto x509 pin cycle.targets state.files _

theorem run_cycles (cycles : List SyncCycle) (state : SyncState crypto pin) :
    ∃ final, Transition.run (SyncState.step crypto x509 pin) state
        (cycles.flatMap SyncCycle.events) = some final ∧
      final.files = cycles.foldl
        (fun files cycle => runSyncCycleSigned crypto x509 pin cycle files) state.files := by
  induction cycles generalizing state with
  | nil => exact ⟨state, rfl, rfl⟩
  | cons cycle rest ih =>
      obtain ⟨middle, first, files⟩ := run_cycle crypto x509 pin cycle state
      obtain ⟨final, second, last⟩ := ih middle
      refine ⟨final, ?_, ?_⟩
      · rw [List.flatMap_cons, Transition.run_append, first, Option.bind_some, second]
      · rw [last, files, List.foldl_cons]

/-- Replay protection of the signed sync. Over any cycles from an empty cache, between
any two moments no cached pair goes back; whatever is cached was accepted by a step that
wrote its file; a rejected response leaves the cache as it was; and the steps are those
of `run_sync_cycle_signed`. -/
theorem signed_sync_replay_protection (cycles : List SyncCycle) :
    Transition.NeverDecreases (SyncState.step crypto x509 pin)
        (fun state => state.files.cachedPairs) (.initial crypto pin)
        (cycles.flatMap SyncCycle.events) ∧
      (∀ front final, front <+: cycles.flatMap SyncCycle.events →
        Transition.run (SyncState.step crypto x509 pin) (.initial crypto pin) front = some final →
          ∀ file artifact, final.files.trustlists file = some artifact →
            (∃ pair, final.files.cachedPairs.pair file = some pair) ∧
              ∃ zone role exchange, .target zone role exchange ∈ front ∧
                file = trustlistFile zone role ∧
                  AcceptedIn crypto pin zone role exchange artifact) ∧
      (∀ zone role exchange files session failure,
        (syncTarget crypto x509 pin zone role exchange files session).2.2 = .rejected failure →
          (syncTarget crypto x509 pin zone role exchange files session).1.trustlists =
            files.trustlists) ∧
      ∃ final, Transition.run (SyncState.step crypto x509 pin) (.initial crypto pin)
          (cycles.flatMap SyncCycle.events) = some final ∧
        final.files = cycles.foldl
          (fun files cycle => runSyncCycleSigned crypto x509 pin cycle files)
          (SyncState.initial crypto pin).files := by
  have empty : (SyncState.initial crypto pin).files.AllComparable pin := nofun
  refine ⟨?monotone, ?accepted, ?rejected, run_cycles crypto x509 pin cycles _⟩
  case monotone =>
    rw [Transition.neverDecreases_iff_everyStep]
    apply Transition.EveryStep.of_forall (fun state => state.files.AllComparable pin)
    · intro state event next comparable stepped
      exact allComparable_step crypto x509 pin comparable stepped
    · intro state event next comparable stepped
      exact cachedPairs_step_le crypto x509 pin comparable stepped
    · exact empty
  case accepted =>
    intro front final _ reached file artifact found
    have comparable : final.files.AllComparable pin :=
      Transition.run_invariant
        (fun _ _ _ before stepped => allComparable_step crypto x509 pin before stepped) empty
        reached
    constructor
    · obtain ⟨pair, hasPair⟩ := (comparable file artifact found).hasPair
      exact ⟨pair, Option.bind_eq_some_iff.mpr ⟨artifact, found, hasPair⟩⟩
    · exact (cached_of_run crypto x509 pin reached found).resolve_left nofun
  case rejected =>
    intro zone role exchange files session failure rejected
    exact syncTarget_rejected crypto x509 pin rejected

/-- A scheme that accepts every signature. -/
def exampleCrypto : Crypto Unit Unit where
  scheme := {
    publicKey := fun _ => ()
    sign := fun _ _ => [1]
    verify := fun _ _ _ => true }
  sha256Hex := fun _ => "key"
  publicKeyDer := fun _ => []

def exampleX509 : X509 Unit where
  loadPemPublicKey := fun _ => some (some ())
  loadPemCertificate := fun _ => some []
  loadDerCrl := fun _ => some ()

def examplePin : Pin := ⟨"key", by decide⟩

/-- GDS serves an artifact of a trust list version, and every write succeeds. -/
def exampleExchange (version : Nat) : TargetExchange where
  readable := true
  fetched := (exampleSigner.buildSignedArtifact exampleCrypto
    { exampleTrustList with version := version } []
    { caChainPem := "BEGIN CERTIFICATE", crlBase64 := "AA==", crlBundle := [], crlMetadata := [] }
    1 "version_changed" exampleMoment).map fun signed =>
      (signed.artifact, .obj [("signature_base64", .str signed.signatureBase64)])
  canonicalView := none
  now := exampleMoment.micros
  caChainWritten := true
  crlWritten := true
  reportWritten := true
  cacheWritten := true
  logged := true

def exampleCycle (version : Nat) : SyncCycle where
  signDebug := false
  anchorResponse := some (.obj [("key_id", .str "gds"), ("algorithm", .str "ed25519"),
    ("public_key_pem", .str "pem"), ("fingerprint_sha256", .str "key")])
  targets := [("OT", "server", exampleExchange version)]

-- Version 3 is stored, version 2 is then rejected as a replay.
example :
    ([3, 2].foldl (fun files version => runSyncCycleSigned exampleCrypto exampleX509
        examplePin (exampleCycle version) files)
      (SyncState.initial exampleCrypto examplePin).files).cachedPairs.pair
        "OT_server.json" = some (3, 1) := by
  decide +kernel

end OpcuaGds.Agent
