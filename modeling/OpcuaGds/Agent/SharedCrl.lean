import OpcuaGds.Agent.ReplayProtection
import Mathlib.Data.Int.ConditionallyCompleteOrder
import Mathlib.Order.WithBot

/-! # The CRL that all targets share

The first target that verifies in a cycle writes `pki/crl.der`. Replay protection orders
the artifacts of one cache file, so a run remembers beside its state from which file and
artifact the stored CRL came.
-/

namespace OpcuaGds.Agent

open Gds (Crypto)

/-! ## Artifacts in the order of their generation -/

/-- The time of `generated_at`. -/
def generatedAt (artifact : Json) : Option Int :=
  parseRfc3339Utc ((artifact.field? "generated_at").getD (.str "")).toStr

/-- Both artifacts carry a time, and the first was generated no later than the second. -/
def GeneratedBy (first second : Json) : Prop :=
  ∃ earlier ∈ generatedAt first, ∃ later ∈ generatedAt second, earlier ≤ later

instance (first second : Json) : Decidable (GeneratedBy first second) :=
  inferInstanceAs (Decidable (∃ earlier ∈ generatedAt first, ∃ later ∈ generatedAt second,
    earlier ≤ later))

/-- What GDS serves in a step, with the cache file of the target. -/
def SyncEvent.served : SyncEvent → List (String × Json)
  | .beginCycle _ _ => []
  | .target zone role exchange =>
      match exchange.fetched with
      | none => []
      | some (artifact, _) => [(trustlistFile zone role, artifact)]

/-- Report and cache entry of an accepted target can be written. -/
def SyncEvent.IsCached : SyncEvent → Prop
  | .beginCycle _ _ => True
  | .target _ _ exchange => exchange.reportWritten = true ∧ exchange.cacheWritten = true

instance (event : SyncEvent) : Decidable event.IsCached :=
  match event with
  | .beginCycle _ _ => inferInstanceAs (Decidable True)
  | .target _ _ exchange =>
      inferInstanceAs (Decidable (exchange.reportWritten = true ∧ exchange.cacheWritten = true))

section Histories

variable {PrivateKey PublicKey : Type} (crypto : Crypto PrivateKey PublicKey)
  (x509 : X509 PublicKey) (pin : Pin) (thisUpdate : List UInt8 → Int)

/-- The `thisUpdate` of the CRL that an artifact carries. -/
def carriedUpdate (artifact : Json) : Option Int :=
  (readCrl x509 artifact).toOption.map thisUpdate

/-- The `thisUpdate` of `pki/crl.der`; a missing file is older than every CRL. -/
def SyncFiles.storedUpdate (files : SyncFiles) : WithBot Int :=
  files.crl.map thisUpdate

/-- A server that serves these artifacts: its CRLs do not get older as generation time
grows, and for one file it numbers the artifacts in the order of their generation. -/
structure OrderedServer (served : List (String × Json)) : Prop where
  crls : ∀ first ∈ served, ∀ second ∈ served, GeneratedBy first.2 second.2 →
    ∀ update ∈ carriedUpdate x509 thisUpdate first.2,
      ∀ later ∈ carriedUpdate x509 thisUpdate second.2, update ≤ later
  revisions : ∀ first ∈ served, ∀ second ∈ served, first.1 = second.1 →
    ∀ pair ∈ revisionPair first.2, ∀ later ∈ revisionPair second.2, ¬ PairLt later pair →
      GeneratedBy first.2 second.2

/-- The artifact and CRL of the bundle that the pass over one target writes in full. -/
def writtenBundle (zone role : String) (exchange : TargetExchange) (files : SyncFiles)
    (session : SyncSession crypto pin) : Option (Json × List UInt8) :=
  let previous := files.trustlists (trustlistFile zone role)
  if exchange.readable = true ∧ session.pkiWritten = false then
    match prevSignedCompatible previous session.anchor.fingerprint with
    | .error _ => none
    | .ok compatible =>
        match acceptArtifact crypto x509 pin session.signDebug session.anchor zone role previous
            compatible exchange with
        | .error _ => none
        | .ok (artifact, crlDer) =>
            if (safeWritePkiBundle files artifact crlDer exchange).2 then some (artifact, crlDer)
            else none
  else none

/-- The bundle of one step with the cache file of its target. -/
def SyncState.writtenBundle (state : SyncState crypto pin) :
    SyncEvent → Option (String × Json × List UInt8)
  | .beginCycle _ _ => none
  | .target zone role exchange => do
      let session ← state.session
      let (artifact, crlDer) ←
        Agent.writtenBundle crypto x509 pin zone role exchange state.files session
      some (trustlistFile zone role, artifact, crlDer)

/-- A state with the file and artifact from which the stored CRL came. -/
structure CrlHistory where
  state : SyncState crypto pin
  source : Option (String × Json)

def CrlHistory.step (history : CrlHistory crypto pin) (event : SyncEvent) :
    Option (CrlHistory crypto pin) :=
  (history.state.step crypto x509 pin event).map fun next =>
    { state := next
      source := ((history.state.writtenBundle crypto x509 pin event).map
        fun (file, artifact, _) => (file, artifact)).or history.source }

def CrlHistory.initial : CrlHistory crypto pin := ⟨.initial crypto pin, none⟩

/-- A bundle is written only together with the cache entry, and it comes from the target
of the stored CRL or was generated no earlier. -/
def CrlHistory.InOrder (history : CrlHistory crypto pin) (event : SyncEvent) : Prop :=
  ∀ file artifact crlDer,
    history.state.writtenBundle crypto x509 pin event = some (file, artifact, crlDer) →
      event.IsCached ∧ ∀ origin stored, history.source = some (origin, stored) →
        origin = file ∨ GeneratedBy stored artifact

end Histories

/-! ## What one target does to the bundle -/

section Bundles

variable {PrivateKey PublicKey : Type} {crypto : Crypto PrivateKey PublicKey}
  {x509 : X509 PublicKey} {pin : Pin}

/-- The stored CRL is that of the bundle written, or nothing was written. -/
theorem safeWritePkiBundle_crl (files : SyncFiles) (artifact : Json) (crlDer : List UInt8)
    (exchange : TargetExchange) :
    (safeWritePkiBundle files artifact crlDer exchange).1.crl =
      if (safeWritePkiBundle files artifact crlDer exchange).2 then some crlDer
      else files.crl := by
  unfold safeWritePkiBundle
  split
  · rfl
  · split
    · dsimp only
      split <;> rfl
    · rfl

theorem storeArtifact_crl (zone role : String) (files : SyncFiles) (artifact : Json)
    (exchange : TargetExchange) :
    (storeArtifact zone role files artifact exchange).1.crl = files.crl := by
  unfold storeArtifact
  split
  · split <;> rfl
  · rfl

/-- An accepted target replaces the CRL, unless the cycle has written one or a write of
the bundle fails. -/
theorem completeTarget_crl (zone role : String) (exchange : TargetExchange) (files : SyncFiles)
    (session : SyncSession crypto pin) (accepted : Json × List UInt8) :
    (completeTarget crypto pin zone role exchange files session accepted.1 accepted.2).1.crl =
      ((if session.pkiWritten = false then
          if (safeWritePkiBundle files accepted.1 accepted.2 exchange).2 then some accepted
          else none
        else none).map Prod.snd).or files.crl := by
  obtain ⟨artifact, crlDer⟩ := accepted
  have bundle := safeWritePkiBundle_crl files artifact crlDer exchange
  unfold completeTarget
  cases session.pkiWritten with
  | true => exact storeArtifact_crl zone role files artifact exchange
  | false =>
      simp only [Bool.false_eq_true, if_false, if_true]
      split
      case h_1 after failed =>
        rw [failed] at bundle ⊢
        exact bundle
      case h_2 after done =>
        rw [done] at bundle ⊢
        exact (storeArtifact_crl zone role after artifact exchange).trans bundle

/-- The pass over one target replaces the CRL by that of its bundle. -/
theorem syncTarget_crl (zone role : String) (exchange : TargetExchange) (files : SyncFiles)
    (session : SyncSession crypto pin) :
    (syncTarget crypto x509 pin zone role exchange files session).1.crl =
      ((writtenBundle crypto x509 pin zone role exchange files session).map Prod.snd).or
        files.crl := by
  unfold syncTarget writtenBundle
  dsimp only
  cases exchange.readable with
  | false => simp only [Bool.false_eq_true, false_and, if_false, Option.map_none, Option.none_or]
  | true =>
      cases prevSignedCompatible (files.trustlists (trustlistFile zone role))
        session.anchor.fingerprint with
      | error failure => simp only [ite_self, Option.map_none, Option.none_or]
      | ok compatible =>
          dsimp only
          cases acceptArtifact crypto x509 pin session.signDebug session.anchor zone role
            (files.trustlists (trustlistFile zone role)) compatible exchange with
          | error failure => simp only [if_true, ite_self, Option.map_none, Option.none_or]
          | ok accepted =>
              simp only [if_true, true_and]
              exact completeTarget_crl zone role exchange files session accepted

/-- The artifact of a bundle was accepted. -/
theorem writtenBundle_eq_some {zone role : String} {exchange : TargetExchange}
    {files : SyncFiles} {session : SyncSession crypto pin} {artifact : Json}
    {crlDer : List UInt8}
    (bundle : writtenBundle crypto x509 pin zone role exchange files session =
      some (artifact, crlDer)) :
    ∃ compatible, prevSignedCompatible (files.trustlists (trustlistFile zone role))
        session.anchor.fingerprint = .ok compatible ∧
      acceptArtifact crypto x509 pin session.signDebug session.anchor zone role
        (files.trustlists (trustlistFile zone role)) compatible exchange =
          .ok (artifact, crlDer) ∧
      exchange.readable = true ∧ session.pkiWritten = false ∧
      (safeWritePkiBundle files artifact crlDer exchange).2 = true := by
  unfold writtenBundle at bundle
  dsimp only at bundle
  split at bundle
  case isFalse => cases bundle
  case isTrue starts =>
    split at bundle
    case h_1 => cases bundle
    case h_2 compatible comparable =>
      split at bundle
      case h_1 => cases bundle
      case h_2 accepted crl passed =>
        split at bundle
        case isFalse => cases bundle
        case isTrue written =>
          cases bundle
          exact ⟨compatible, comparable, passed, starts.1, starts.2, written⟩

/-- A bundle is followed by the cache entry where report and entry can be written. -/
theorem syncTarget_cached {zone role : String} {exchange : TargetExchange}
    {files : SyncFiles} {session : SyncSession crypto pin} {artifact : Json}
    {crlDer : List UInt8}
    (bundle : writtenBundle crypto x509 pin zone role exchange files session =
      some (artifact, crlDer))
    (cached : exchange.reportWritten = true ∧ exchange.cacheWritten = true) :
    (syncTarget crypto x509 pin zone role exchange files session).1.trustlists =
      Function.update files.trustlists (trustlistFile zone role) (some artifact) := by
  obtain ⟨compatible, comparable, passed, readable, fresh, written⟩ :=
    writtenBundle_eq_some bundle
  have kept := safeWritePkiBundle_trustlists files artifact crlDer exchange
  unfold syncTarget completeTarget
  simp only [readable, if_true, comparable, passed, fresh, Bool.false_eq_true, if_false]
  split
  case h_1 failed =>
    rw [failed] at written
    cases written
  case h_2 after done =>
    rw [done] at kept
    simp only [storeArtifact, cached.1, cached.2, if_true]
    rw [kept]

/-- The CRL of an accepted artifact is the one it carries. -/
theorem acceptArtifact_crl {signDebug : Bool} {anchor : PinnedAnchor crypto pin}
    {zone role : String} {previous : Option Json} {compatible : Bool}
    {exchange : TargetExchange} {artifact : Json} {crlDer : List UInt8}
    (accepted : acceptArtifact crypto x509 pin signDebug anchor zone role previous compatible
      exchange = .ok (artifact, crlDer)) : readCrl x509 artifact = .ok crlDer := by
  simp only [acceptArtifact, Fallible.bind_eq_ok, Except.ok.injEq] at accepted
  obtain ⟨⟨first, signature⟩, _, _, _, _, _, _, _, _, _, _, _, _, _, crl, read, same⟩ := accepted
  rw [Prod.mk.injEq] at same
  obtain ⟨rfl, rfl⟩ := same
  exact read

/-! ## Runs with the source of the CRL -/

variable (x509) in
/-- What a step says about the bundle it writes. -/
structure BundleOf (state : SyncState crypto pin) (event : SyncEvent) (file : String)
    (artifact : Json) (crlDer : List UInt8) : Prop where
  served : (file, artifact) ∈ event.served
  carried : readCrl x509 artifact = .ok crlDer
  comparable : IsComparable pin artifact
  notBelow : ∀ cached, state.files.trustlists file = some cached → IsComparable pin cached →
    ∀ pair old, revisionPair artifact = some pair → revisionPair cached = some old →
      ¬ PairLt pair old
  cached : event.IsCached → ∀ next, state.step crypto x509 pin event = some next →
    next.files.trustlists file = some artifact

theorem step_target_files {state next : SyncState crypto pin} {zone role : String}
    {exchange : TargetExchange} {session : SyncSession crypto pin}
    (opened : state.session = some session)
    (stepped : state.step crypto x509 pin (.target zone role exchange) = some next) :
    next.files = (syncTarget crypto x509 pin zone role exchange state.files session).1 := by
  simp only [SyncState.step, opened] at stepped
  split at stepped
  · rename_i same
    cases stepped
    rw [same]
  · rename_i same
    cases stepped
    rw [same]

theorem writtenBundle_target {state : SyncState crypto pin} {zone role : String}
    {exchange : TargetExchange} {session : SyncSession crypto pin}
    (opened : state.session = some session) :
    state.writtenBundle crypto x509 pin (.target zone role exchange) =
      (writtenBundle crypto x509 pin zone role exchange state.files session).map
        fun bundle => (trustlistFile zone role, bundle) := by
  simp only [SyncState.writtenBundle, opened, Option.bind_eq_bind, Option.bind_some]
  exact Option.map_eq_bind.symm

/-- A step replaces the CRL by that of its bundle. -/
theorem step_crl {state next : SyncState crypto pin} {event : SyncEvent}
    (stepped : state.step crypto x509 pin event = some next) :
    next.files.crl =
      ((state.writtenBundle crypto x509 pin event).map fun bundle => bundle.2.2).or
        state.files.crl := by
  cases event with
  | beginCycle signDebug anchorResponse =>
      simp only [SyncState.step] at stepped
      split at stepped <;> cases stepped <;> rfl
  | target zone role exchange =>
      cases opened : state.session with
      | none =>
          simp only [SyncState.step, opened] at stepped
          cases stepped
          simp only [SyncState.writtenBundle, opened]
          rfl
      | some session =>
          rw [step_target_files opened stepped, writtenBundle_target opened, syncTarget_crl,
            Option.map_map]
          rfl

theorem bundleOf_step {state : SyncState crypto pin} {event : SyncEvent} {file : String}
    {artifact : Json} {crlDer : List UInt8}
    (bundle : state.writtenBundle crypto x509 pin event = some (file, artifact, crlDer)) :
    BundleOf x509 state event file artifact crlDer := by
  cases event with
  | beginCycle signDebug anchorResponse => cases bundle
  | target zone role exchange =>
      cases opened : state.session with
      | none =>
          simp only [SyncState.writtenBundle, opened] at bundle
          cases bundle
      | some session =>
          rw [writtenBundle_target opened, Option.map_eq_some_iff] at bundle
          obtain ⟨_, bundle, same⟩ := bundle
          cases same
          obtain ⟨compatible, comparable, passed, _⟩ := writtenBundle_eq_some bundle
          obtain ⟨accepted, isComparable, above⟩ := acceptArtifact_eq_ok crypto x509 pin passed
          refine ⟨?served, acceptArtifact_crl passed, isComparable, ?notBelow, ?cached⟩
          case served =>
            obtain ⟨_, signature, _, fetched, _⟩ := accepted.verified
            simp only [SyncEvent.served, fetched, List.mem_singleton]
          case notBelow =>
            intro cached found same pair old hasPair hasOld
            have isTrue := same.compatible session.anchor.fingerprint session.anchor.pinned
            rw [found, isTrue, Except.ok.injEq] at comparable
            obtain ⟨own, hasOwn, notLess⟩ := above cached old found comparable.symm hasOld
            rw [hasPair, Option.some.injEq] at hasOwn
            exact hasOwn ▸ notLess
          case cached =>
            intro written next stepped
            rw [step_target_files opened stepped, syncTarget_cached bundle written,
              Function.update_self]

variable (x509) in
/-- The stored CRL is that of the source, and the cache holds the source or an artifact
that is not below it. -/
structure CrlHistory.Sourced (served : List (String × Json)) (history : CrlHistory crypto pin) :
    Prop where
  comparable : history.state.files.AllComparable pin
  absent : history.source = none → history.state.files.crl = none
  carried : ∀ file artifact, history.source = some (file, artifact) →
    (file, artifact) ∈ served ∧ ∃ crlDer, history.state.files.crl = some crlDer ∧
      readCrl x509 artifact = .ok crlDer
  cached : ∀ file artifact, history.source = some (file, artifact) → ∃ pair current,
    revisionPair artifact = some pair ∧
      history.state.files.cachedPairs.pair file = some current ∧ ¬ PairLt current pair

variable {served : List (String × Json)}

theorem step_eq_some {history next : CrlHistory crypto pin} {event : SyncEvent}
    (stepped : history.step crypto x509 pin event = some next) :
    history.state.step crypto x509 pin event = some next.state ∧
      next.source = ((history.state.writtenBundle crypto x509 pin event).map
        fun (file, artifact, _) => (file, artifact)).or history.source := by
  obtain ⟨after, done, same⟩ := Option.map_eq_some_iff.mp stepped
  cases same
  exact ⟨done, rfl⟩

/-- A step in order keeps the account of the source. -/
theorem sourced_step {history next : CrlHistory crypto pin} {event : SyncEvent}
    (sourced : history.Sourced x509 served)
    (stepped : history.step crypto x509 pin event = some next)
    (inOrder : history.InOrder crypto x509 pin event)
    (serves : ∀ entry ∈ event.served, entry ∈ served) :
    next.Sourced x509 served := by
  obtain ⟨done, source⟩ := step_eq_some stepped
  have comparable := allComparable_step crypto x509 pin sourced.comparable done
  have crl := step_crl done
  cases bundle : history.state.writtenBundle crypto x509 pin event with
  | none =>
      rw [bundle, Option.map_none, Option.none_or] at crl source
      refine ⟨comparable, ?_, ?_, ?_⟩
      · rw [source, crl]
        exact sourced.absent
      · rw [source, crl]
        exact sourced.carried
      · rw [source]
        intro file artifact found
        obtain ⟨pair, current, hasPair, hasCurrent, notBelow⟩ :=
          sourced.cached file artifact found
        obtain ⟨later, hasLater, notLess⟩ :=
          cachedPairs_step_le crypto x509 pin sourced.comparable done file current hasCurrent
        refine ⟨pair, later, hasPair, hasLater, ?_⟩
        unfold PairLt at notBelow notLess ⊢
        omega
  | some written =>
      obtain ⟨file, artifact, crlDer⟩ := written
      have facts := bundleOf_step bundle
      obtain ⟨isCached, _⟩ := inOrder file artifact crlDer bundle
      rw [bundle, Option.map_some, Option.some_or] at crl source
      refine ⟨comparable, ?_, ?_, ?_⟩
      · rw [source]
        intro absent
        cases absent
      · rw [source]
        rintro _ _ ⟨⟩
        exact ⟨serves _ facts.served, crlDer, crl, facts.carried⟩
      · rw [source]
        rintro _ _ ⟨⟩
        obtain ⟨pair, hasPair⟩ := facts.comparable.hasPair
        refine ⟨pair, pair, hasPair, ?_, ?_⟩
        · exact Option.bind_eq_some_iff.mpr
            ⟨artifact, facts.cached isCached next.state done, hasPair⟩
        · unfold PairLt
          omega

/-- Replay protection puts the next artifact of the same file after the source. -/
theorem generated_of_cached {thisUpdate : List UInt8 → Int}
    (server : OrderedServer x509 thisUpdate served) {history : CrlHistory crypto pin}
    {event : SyncEvent} {file : String} {stored artifact : Json} {crlDer : List UInt8}
    (sourced : history.Sourced x509 served)
    (facts : BundleOf x509 history.state event file artifact crlDer)
    (source : history.source = some (file, stored)) (serves : (file, artifact) ∈ served) :
    GeneratedBy stored artifact := by
  obtain ⟨pair, current, hasPair, hasCurrent, notBelow⟩ := sourced.cached file stored source
  obtain ⟨cached, found, cachedPair⟩ := Option.bind_eq_some_iff.mp hasCurrent
  obtain ⟨own, hasOwn⟩ := facts.comparable.hasPair
  have notLess := facts.notBelow cached found (sourced.comparable file cached found) own current
    hasOwn cachedPair
  have above : ¬ PairLt own pair := by
    unfold PairLt at notBelow notLess ⊢
    omega
  exact server.revisions (file, stored) (sourced.carried file stored source).1 (file, artifact)
    serves rfl pair (Option.mem_def.mpr hasPair) own (Option.mem_def.mpr hasOwn) above

/-- A step in order does not store an older CRL. -/
theorem storedUpdate_step_le {thisUpdate : List UInt8 → Int}
    (server : OrderedServer x509 thisUpdate served) {history next : CrlHistory crypto pin}
    {event : SyncEvent} (sourced : history.Sourced x509 served)
    (stepped : history.step crypto x509 pin event = some next)
    (inOrder : history.InOrder crypto x509 pin event)
    (serves : ∀ entry ∈ event.served, entry ∈ served) :
    history.state.files.storedUpdate thisUpdate ≤ next.state.files.storedUpdate thisUpdate := by
  obtain ⟨done, _⟩ := step_eq_some stepped
  have crl := step_crl done
  cases bundle : history.state.writtenBundle crypto x509 pin event with
  | none =>
      rw [bundle, Option.map_none, Option.none_or] at crl
      have same : next.state.files.storedUpdate thisUpdate =
          history.state.files.storedUpdate thisUpdate := by
        rw [SyncFiles.storedUpdate, crl, SyncFiles.storedUpdate]
      exact same.ge
  | some written =>
      obtain ⟨file, artifact, crlDer⟩ := written
      have facts := bundleOf_step bundle
      rw [bundle, Option.map_some, Option.some_or] at crl
      rw [SyncFiles.storedUpdate, SyncFiles.storedUpdate, crl]
      cases source : history.source with
      | none =>
          rw [sourced.absent source]
          exact bot_le
      | some origin =>
          obtain ⟨origin, stored⟩ := origin
          obtain ⟨wasServed, old, hasOld, carried⟩ := sourced.carried origin stored source
          have update : thisUpdate old ∈ carriedUpdate x509 thisUpdate stored := by
            simp only [carriedUpdate, carried, Except.toOption, Option.map_some, Option.mem_some]
          have later : thisUpdate crlDer ∈ carriedUpdate x509 thisUpdate artifact := by
            simp only [carriedUpdate, facts.carried, Except.toOption, Option.map_some,
              Option.mem_some]
          have generated : GeneratedBy stored artifact := by
            rcases (inOrder file artifact crlDer bundle).2 origin stored source with same | earlier
            · subst same
              exact generated_of_cached server sourced facts source (serves _ facts.served)
            · exact earlier
          rw [hasOld]
          exact WithBot.coe_le_coe.mpr
            (server.crls _ wasServed _ (serves _ facts.served) generated _ update _ later)

/-- The history of a run follows the run. -/
theorem run_history (history : CrlHistory crypto pin) {final : SyncState crypto pin}
    {events : List SyncEvent}
    (reached : Transition.run (SyncState.step crypto x509 pin) history.state events =
      some final) :
    ∃ source, Transition.run (CrlHistory.step crypto x509 pin) history events =
      some ⟨final, source⟩ := by
  induction events generalizing history with
  | nil =>
      cases reached
      exact ⟨history.source, rfl⟩
  | cons event events ih =>
      obtain ⟨next, stepped, rest⟩ := Transition.run_cons_eq_some.mp reached
      have remembered : ∃ source, history.step crypto x509 pin event = some ⟨next, source⟩ :=
        ⟨_, by rw [CrlHistory.step, stepped, Option.map_some]⟩
      obtain ⟨source, remembered⟩ := remembered
      obtain ⟨last, following⟩ := ih ⟨next, source⟩ rest
      exact ⟨last, Transition.run_cons_eq_some.mpr ⟨_, remembered, following⟩⟩

/-- A run whose targets share one cache file writes every bundle in order. -/
theorem inOrder_of_one_file {file : String} {history : CrlHistory crypto pin}
    {events : List SyncEvent}
    (oneFile : ∀ event ∈ events, event.IsCached ∧ ∀ entry ∈ event.served, entry.1 = file)
    (own : ∀ origin stored, history.source = some (origin, stored) → origin = file) :
    Transition.EveryStep (CrlHistory.step crypto x509 pin)
      (fun before event _ => before.InOrder crypto x509 pin event) history events := by
  induction events generalizing history with
  | nil => trivial
  | cons event events ih =>
      intro next stepped
      obtain ⟨isCached, serves⟩ := oneFile event List.mem_cons_self
      obtain ⟨_, source⟩ := step_eq_some stepped
      refine ⟨?here, ih (fun later member => oneFile later (List.mem_cons_of_mem _ member)) ?own⟩
      case here =>
        intro here artifact crlDer bundle
        refine ⟨isCached, fun origin stored found => Or.inl ?_⟩
        have hereFile : here = file := serves _ (bundleOf_step bundle).served
        rw [own origin stored found, hereFile]
      case own =>
        intro origin stored found
        rw [source] at found
        cases bundle : history.state.writtenBundle crypto x509 pin event with
        | none =>
            rw [bundle, Option.map_none, Option.none_or] at found
            exact own origin stored found
        | some written =>
            obtain ⟨here, artifact, crlDer⟩ := written
            rw [bundle, Option.map_some, Option.some_or] at found
            cases found
            exact serves _ (bundleOf_step bundle).served

end Bundles

section Cycles

variable {PrivateKey PublicKey : Type} (crypto : Crypto PrivateKey PublicKey)
  (x509 : X509 PublicKey) (pin : Pin) (thisUpdate : List UInt8 → Int)

/-- The files after some cycles, from an empty cache. -/
def filesAfter (cycles : List SyncCycle) : SyncFiles :=
  cycles.foldl (fun files cycle => runSyncCycleSigned crypto x509 pin cycle files)
    (SyncState.initial crypto pin).files

end Cycles

/-! ## Two targets -/

/-- The first byte stands for the time of a CRL. -/
def exampleThisUpdate (crlDer : List UInt8) : Int := (crlDer.headD 0).toNat

theorem oneTarget : ∀ event ∈ [exampleCycle 2, exampleCycle 3].flatMap SyncCycle.events,
    event.IsCached ∧ ∀ entry ∈ event.served, entry.1 = "OT_server.json" := by
  decide +kernel

/-- GDS serves an artifact of a role that was generated in the given second. -/
def crlExchange (role : Gds.Role) (second : Fin 60) (crlBase64 : String) : TargetExchange :=
  { exampleExchange 3 with
    fetched := (exampleSigner.buildSignedArtifact exampleCrypto
      { exampleTrustList with role := role } []
      { caChainPem := "BEGIN CERTIFICATE", crlBase64 := crlBase64, crlBundle := [],
        crlMetadata := [] }
      1 "version_changed"
      { exampleMoment with
        second := second
        validTime := ⟨by decide, by decide, second.isLt, by decide⟩ }).map fun signed =>
          (signed.artifact, .obj [("signature_base64", .str signed.signatureBase64)]) }

/-- The older artifact of the second target. -/
def secondTarget : String × String × TargetExchange :=
  ("OT", "client", crlExchange .client 5 "AA==")

/-- In the first cycle the newer artifact of the first target writes the bundle. -/
def bothTargets : SyncCycle :=
  { exampleCycle 3 with targets := [("OT", "server", crlExchange .server 6 "AQ=="), secondTarget] }

/-- In the second cycle the first target fails. -/
def firstTargetFails : SyncCycle :=
  { exampleCycle 3 with
    targets := [("OT", "server", { crlExchange .server 6 "AQ==" with fetched := none }),
      secondTarget] }

end OpcuaGds.Agent
