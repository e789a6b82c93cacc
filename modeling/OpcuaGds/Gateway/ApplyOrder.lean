import OpcuaGds.Foundation.Transition
import OpcuaGds.Gateway.ClientCommands
import Mathlib.Algebra.Order.Ring.Int
import Mathlib.Data.Int.ConditionallyCompleteOrder
import Mathlib.Data.Prod.Lex
import Mathlib.Order.ConditionallyCompleteLattice.Basic
import Mathlib.Order.WithBot

/-! # The order of applies

An apply takes its material from one of three cached answers, in a fixed preference that does
not ask which of them is the latest. A run of commands remembers beside the cache and the
runtime files when each answer came.
-/

namespace OpcuaGds.Gateway

open FileTree (WriteEnd attempted lastWritten writeAll)

/-! ## Commands -/

inductive ClientCommand where
  | pullTrust (answer : Answer) (versionStored : Bool)
  | enroll (answer : Answer)
  | renew (answer : Answer)
  | apply (settings : GdsSettings) (allowCertificate : Bool) (ends : Nat → WriteEnd)

/-- The cache directory and the runtime PKI of a target. -/
structure ClientState where
  cache : TargetCache
  tree : FileTree

section Commands

variable (ssl : OpenSsl) (config : TargetConfig)

/-- The state after a command and whether it returns 1. -/
def ClientState.perform (state : ClientState) : ClientCommand → ClientState × Bool
  | .pullTrust answer versionStored =>
      let (cache, done) := commandPullTrustOne config answer versionStored state.cache
      ({ state with cache := cache }, done)
  | .enroll answer =>
      let (cache, done) := commandEnrollOne config answer state.cache
      ({ state with cache := cache }, done)
  | .renew answer =>
      let (cache, done) := commandRenewOne config answer state.cache
      ({ state with cache := cache }, done)
  | .apply settings allowCertificate ends =>
      let result := applyTrustOrCertificateOne ssl config settings state.cache allowCertificate
      ({ state with tree := writeAll (attempted ends 0 result.writes) state.tree },
        result.succeeded)

namespace ClientCommand

/-- The cache file of the answer that a command asks for. -/
def leaf? : ClientCommand → Option String
  | .pullTrust _ _ => some "trust-material.json"
  | .enroll _ => some "enrollment-result.json"
  | .renew _ => some "renewal-result.json"
  | .apply _ _ _ => none

/-- The document of the answer. -/
def body : ClientCommand → Option Json
  | .pullTrust answer _ => answer.body.join
  | .enroll answer => answer.body.join
  | .renew answer => answer.body.join
  | .apply _ _ _ => none

end ClientCommand

/-! ## What an answer carries -/

/-- The trust document in the answer of a cache file. -/
def carriedTrust (leaf : String) (doc : Json) : Option Json :=
  if leaf = "trust-material.json" then some doc else getObjectItem doc "trust_distribution"

/-- `trustlist_version` and `artifact_revision` of a trust document. -/
def materialPair (trustDoc : Json) : Option (Int ×ₗ Int) :=
  match item (trustMaterial trustDoc) "trustlist_version",
      item (trustMaterial trustDoc) "artifact_revision" with
  | some (.int version), some (.int revision) => some (toLex (version, revision))
  | _, _ => none

/-- The pair in the answer of a cache file. -/
def answerPair (leaf : String) (doc : Option Json) : Option (Int ×ₗ Int) :=
  (doc.bind (carriedTrust leaf)).bind materialPair

/-- The certificate in an answer to an enrollment or a renewal. -/
def answerCertificate (doc : Option Json) : Option (List UInt8) :=
  (valuestring? (item doc "certificate_pem")).bind ssl.pemCertToDer

/-- The cache file that an apply takes its material from. -/
def appliedLeaf (cache : TargetCache) (allowCertificate : Bool) : String :=
  let carries (leaf : String) := ((cache leaf).bind (carriedTrust leaf)).isSome
  if allowCertificate ∧ carries "renewal-result.json" then "renewal-result.json"
  else if allowCertificate ∧ carries "enrollment-result.json" then "enrollment-result.json"
  else "trust-material.json"

/-! ## Runs -/

/-- A state with its past: how many answers came, which of them each cache file holds, the
pair of the last, the last answer to an enrollment or renewal, and the answer and trust
document of the last apply that got past its checks. -/
structure ClientHistory where
  state : ClientState
  answered : Nat
  storedAt : String → Nat
  served : WithBot (Int ×ₗ Int)
  latest : Option (String × Option Json)
  runtime : Option (Nat × Json)

def ClientHistory.initial (tree : FileTree) : ClientHistory where
  state := ⟨fun _ => none, tree⟩
  answered := 0
  storedAt := fun _ => 0
  served := ⊥
  latest := none
  runtime := none

namespace ClientHistory

variable (history : ClientHistory)

/-- An answer that is stored. -/
def receive (next : ClientState) (leaf : String) (body : Option Json) : ClientHistory where
  state := next
  answered := history.answered + 1
  storedAt := Function.update history.storedAt leaf (history.answered + 1)
  served := answerPair leaf body
  latest := if leaf = "trust-material.json" then history.latest else some (leaf, body)
  runtime := history.runtime

def step (command : ClientCommand) : Option ClientHistory :=
  let (next, succeeded) := history.state.perform ssl config command
  match command with
  | .apply settings allowCertificate _ =>
      some { history with
        state := next
        runtime :=
          match acceptedSource config settings history.state.cache allowCertificate with
          | none => history.runtime
          | some source =>
              some (history.storedAt (appliedLeaf history.state.cache allowCertificate),
                source.trustDoc) }
  | _ =>
      if succeeded then some (history.receive next (command.leaf?.getD "") command.body)
      else some { history with state := next }

/-- The pair of the trust material in the runtime. -/
def runtimePair : WithBot (Int ×ₗ Int) :=
  history.runtime.bind fun material => materialPair material.2

/-- GDS answers in time order: an answer carries a pair that is not below that of the answer
before it, and to an enrollment or a renewal also a certificate. -/
def Served (command : ClientCommand) : Prop :=
  (history.state.perform ssl config command).2 = true → ∀ leaf ∈ command.leaf?,
    (∃ pair ∈ answerPair leaf command.body, history.served ≤ ↑pair) ∧
      (leaf ≠ "trust-material.json" → (answerCertificate ssl command.body).isSome = true)

/-- An apply in certificate mode that succeeds installs the certificate of the last answer to
an enrollment or a renewal. -/
def InstallsLatest (command : ClientCommand) (after : ClientHistory) : Prop :=
  match command with
  | .apply _ true _ =>
      (history.state.perform ssl config command).2 = true →
        ∀ answer ∈ history.latest, ∃ der ∈ answerCertificate ssl answer.2,
          after.state.tree.read config.certPath = some der
  | _ => True

/-- An apply does not go back behind the answer that the runtime has its material from, and
in certificate mode it does not prefer an earlier renewal to an enrollment, and its last
write, that of the certificate, is done. -/
def InOrder (command : ClientCommand) : Prop :=
  match command with
  | .apply settings allowCertificate ends =>
      ∀ source ∈ acceptedSource config settings history.state.cache allowCertificate,
        (∀ material ∈ history.runtime,
          material.1 ≤ history.storedAt (appliedLeaf history.state.cache allowCertificate)) ∧
        (allowCertificate = true →
          (∀ answer ∈ history.latest, answer.1 = "enrollment-result.json" →
            history.state.cache "renewal-result.json" = none) ∧
          ends ((applyTrustOrCertificateOne ssl config settings history.state.cache
            allowCertificate).writes.length - 1) = .done)
  | _ => True

instance (command : ClientCommand) : Decidable (history.Served ssl config command) :=
  inferInstanceAs (Decidable ((history.state.perform ssl config command).2 = true →
    ∀ leaf ∈ command.leaf?,
      (∃ pair ∈ answerPair leaf command.body, history.served ≤ ↑pair) ∧
        (leaf ≠ "trust-material.json" →
          (answerCertificate ssl command.body).isSome = true)))

instance (command : ClientCommand) (after : ClientHistory) :
    Decidable (history.InstallsLatest ssl config command after) :=
  match command with
  | .apply settings true ends => inferInstanceAs (Decidable
      ((history.state.perform ssl config (.apply settings true ends)).2 = true →
        ∀ answer ∈ history.latest, ∃ der ∈ answerCertificate ssl answer.2,
          after.state.tree.read config.certPath = some der))
  | .apply _ false _ | .pullTrust _ _ | .enroll _ | .renew _ => inferInstanceAs (Decidable True)

instance (command : ClientCommand) : Decidable (history.InOrder ssl config command) :=
  match command with
  | .apply settings allowCertificate ends => inferInstanceAs (Decidable
      (∀ source ∈ acceptedSource config settings history.state.cache allowCertificate,
        (∀ material ∈ history.runtime,
          material.1 ≤ history.storedAt (appliedLeaf history.state.cache allowCertificate)) ∧
        (allowCertificate = true →
          (∀ answer ∈ history.latest, answer.1 = "enrollment-result.json" →
            history.state.cache "renewal-result.json" = none) ∧
          ends ((applyTrustOrCertificateOne ssl config settings history.state.cache
            allowCertificate).writes.length - 1) = .done)))
  | .pullTrust _ _ | .enroll _ | .renew _ => inferInstanceAs (Decidable True)

end ClientHistory

end Commands

section Steps

variable {ssl : OpenSsl} {config : TargetConfig}

/-- The cache files that an apply may use. -/
def answerLeaves : List String :=
  ["trust-material.json", "renewal-result.json", "enrollment-result.json"]

theorem leaf_mem_answerLeaves {command : ClientCommand} {leaf : String}
    (asks : command.leaf? = some leaf) : leaf ∈ answerLeaves := by
  cases command with
  | apply => cases asks
  | _ => cases asks; decide

/-- A command that asks for an answer changes only the cache file of the answer. -/
theorem perform_answer (ssl : OpenSsl) (config : TargetConfig) (state : ClientState)
    {command : ClientCommand} {leaf : String}
    (asks : command.leaf? = some leaf) :
    (state.perform ssl config command).1.tree = state.tree ∧
      ∀ other ∈ answerLeaves, (state.perform ssl config command).1.cache other =
        if other = leaf then
          if (state.perform ssl config command).2 then command.body else state.cache other
        else state.cache other := by
  cases command with
  | pullTrust answer versionStored =>
      cases asks
      refine ⟨rfl, fun other member => ?_⟩
      split
      · rename_i same
        rw [same]
        exact commandPullTrustOne_material
      · rename_i distinct
        have notVersion : other ≠ "trust-version.json" := by
          rintro rfl
          exact absurd member (by decide)
        exact commandPullTrustOne_of_ne distinct notVersion
  | enroll answer =>
      cases asks
      exact ⟨rfl, fun _ _ => issuance_cache⟩
  | renew answer =>
      cases asks
      exact ⟨rfl, fun _ _ => issuance_cache⟩
  | apply => cases asks

theorem trustDistribution_cons (cache : TargetCache) (leaf : String) (rest : List String) :
    trustDistribution cache (leaf :: rest) =
      ((cache leaf).bind fun doc => (getObjectItem doc "trust_distribution").map
        fun trust => ⟨trust, some doc⟩).or (trustDistribution cache rest) := by
  rw [trustDistribution]
  cases cache leaf with
  | none => rfl
  | some doc =>
      dsimp only [Option.bind_some]
      cases getObjectItem doc "trust_distribution" with
      | none => rfl
      | some trust => rfl

/-- An answer that carries a trust document is taken with it, and one that does not is passed
over. -/
theorem distribution_of_leaf {cache : TargetCache} {leaf : String}
    (notMaterial : leaf ≠ "trust-material.json") :
    ((cache leaf).bind fun doc => (getObjectItem doc "trust_distribution").map
        fun trust => (⟨trust, some doc⟩ : TrustSource)) =
      (cache leaf).bind fun doc => (carriedTrust leaf doc).map fun trust => ⟨trust, some doc⟩ := by
  simp only [carriedTrust, if_neg notMaterial]

/-- An apply takes the trust document that its cache file carries, and in certificate mode
with the answer around it. -/
theorem trustPayload_appliedLeaf {cache : TargetCache} {allowCertificate : Bool}
    {source : TrustSource}
    (found : trustPayloadFromCacheOrEnrollment cache allowCertificate = some source) :
    appliedLeaf cache allowCertificate ∈ answerLeaves ∧
      ∃ doc, cache (appliedLeaf cache allowCertificate) = some doc ∧
        carriedTrust (appliedLeaf cache allowCertificate) doc = some source.trustDoc ∧
        (appliedLeaf cache allowCertificate ≠ "trust-material.json" →
          source.ownerDoc = some doc) := by
  have ofLeaf {leaf : String} (notMaterial : leaf ≠ "trust-material.json")
      (taken : ((cache leaf).bind fun doc => (carriedTrust leaf doc).map
        fun trust => (⟨trust, some doc⟩ : TrustSource)) = some source) :
      ∃ doc, cache leaf = some doc ∧ carriedTrust leaf doc = some source.trustDoc ∧
        (leaf ≠ "trust-material.json" → source.ownerDoc = some doc) := by
    obtain ⟨doc, cached, carried⟩ := Option.bind_eq_some_iff.mp taken
    obtain ⟨trust, isTrust, same⟩ := Option.map_eq_some_iff.mp carried
    subst same
    exact ⟨doc, cached, isTrust, fun _ => rfl⟩
  have none_of_not {leaf : String}
      (lacks : ¬ ((cache leaf).bind (carriedTrust leaf)).isSome = true) :
      ((cache leaf).bind fun doc => (carriedTrust leaf doc).map
        fun trust => (⟨trust, some doc⟩ : TrustSource)) = none := by
    rw [Option.not_isSome_iff_eq_none] at lacks
    cases cached : cache leaf with
    | none => rfl
    | some doc =>
        rw [cached, Option.bind_some] at lacks
        rw [Option.bind_some, lacks, Option.map_none]
  have some_of {leaf : String} (carries : ((cache leaf).bind (carriedTrust leaf)).isSome = true) :
      ∃ taken, ((cache leaf).bind fun doc => (carriedTrust leaf doc).map
        fun trust => (⟨trust, some doc⟩ : TrustSource)) = some taken := by
    obtain ⟨trust, carried⟩ := Option.isSome_iff_exists.mp carries
    obtain ⟨doc, cached, isTrust⟩ := Option.bind_eq_some_iff.mp carried
    exact ⟨⟨trust, some doc⟩, by rw [cached, Option.bind_some, isTrust, Option.map_some]⟩
  unfold trustPayloadFromCacheOrEnrollment at found
  rw [trustDistribution_cons, trustDistribution_cons, trustDistribution,
    distribution_of_leaf (by decide), distribution_of_leaf (by decide)] at found
  unfold appliedLeaf
  dsimp only
  split
  · rename_i renewal
    obtain ⟨taken, isTaken⟩ := some_of renewal.2
    rw [if_pos renewal.1, isTaken, Option.some_or] at found
    exact ⟨by decide, ofLeaf (by decide) (isTaken.trans found)⟩
  · rename_i noRenewal
    split
    · rename_i enrollment
      have lacks := none_of_not fun carries => noRenewal ⟨enrollment.1, carries⟩
      obtain ⟨taken, isTaken⟩ := some_of enrollment.2
      rw [if_pos enrollment.1, lacks, Option.none_or, isTaken, Option.some_or] at found
      exact ⟨by decide, ofLeaf (by decide) (isTaken.trans found)⟩
    · rename_i noEnrollment
      have material : (cache "trust-material.json").map
          (fun doc => (⟨doc, none⟩ : TrustSource)) = some source := by
        cases allowCertificate with
        | false => exact found
        | true =>
            have noRen := none_of_not fun carries => noRenewal ⟨rfl, carries⟩
            have noEnr := none_of_not fun carries => noEnrollment ⟨rfl, carries⟩
            rw [if_pos rfl, noRen, noEnr] at found
            exact found
      obtain ⟨doc, cached, same⟩ := Option.map_eq_some_iff.mp material
      subst same
      exact ⟨by decide, doc, cached, rfl, fun distinct => absurd rfl distinct⟩

/-- The pair in the answer that a cache file holds. -/
def ClientHistory.pairAt (history : ClientHistory) (leaf : String) : Option (Int ×ₗ Int) :=
  answerPair leaf (history.state.cache leaf)

variable (ssl) in
/-- Later answers carry pairs that are not below, and the runtime has its material from one
of the answers. -/
structure ClientHistory.Sound (history : ClientHistory) : Prop where
  numbered : ∀ leaf, history.storedAt leaf ≤ history.answered
  cached : ∀ leaf ∈ answerLeaves, ∀ doc, history.state.cache leaf = some doc →
    ∃ pair, history.pairAt leaf = some pair ∧ ↑pair ≤ history.served
  ordered : ∀ leaf ∈ answerLeaves, ∀ other ∈ answerLeaves,
    history.storedAt leaf ≤ history.storedAt other →
      ∀ pair, history.pairAt leaf = some pair → ∀ later, history.pairAt other = some later →
        pair ≤ later
  latest : ∀ answer, history.latest = some answer →
    answer.1 ∈ ["renewal-result.json", "enrollment-result.json"] ∧
      history.state.cache answer.1 = answer.2 ∧ answer.2.isSome = true ∧
      (answerCertificate ssl answer.2).isSome = true
  runtime : ∀ material, history.runtime = some material →
    material.1 ≤ history.answered ∧ ∃ pair, materialPair material.2 = some pair ∧
      ↑pair ≤ history.served ∧ ∀ leaf ∈ answerLeaves, material.1 ≤ history.storedAt leaf →
        ∀ later, history.pairAt leaf = some later → pair ≤ later

theorem ClientHistory.Sound.pair_le {history : ClientHistory} (sound : history.Sound ssl)
    {leaf : String} (member : leaf ∈ answerLeaves) {pair : Int ×ₗ Int}
    (found : history.pairAt leaf = some pair) : ↑pair ≤ history.served := by
  cases cached : history.state.cache leaf with
  | none =>
      rw [ClientHistory.pairAt, cached] at found
      cases found
  | some doc =>
      obtain ⟨other, isOther, below⟩ := sound.cached leaf member doc cached
      rw [found, Option.some.injEq] at isOther
      exact isOther ▸ below

section Receive

variable {history : ClientHistory} {next : ClientState} {leaf other : String}
  {body : Option Json} {pair : Int ×ₗ Int}

theorem storedAt_receive_self :
    (history.receive next leaf body).storedAt leaf = history.answered + 1 :=
  Function.update_self _ _ _

theorem storedAt_receive_of_ne (distinct : other ≠ leaf) :
    (history.receive next leaf body).storedAt other = history.storedAt other :=
  Function.update_of_ne distinct _ _

variable (member : leaf ∈ answerLeaves) (carried : answerPair leaf body = some pair)
  (above : history.served ≤ ↑pair)
  (stored : ∀ other ∈ answerLeaves, next.cache other =
    if other = leaf then body else history.state.cache other)
include stored

include member carried in
theorem pairAt_receive_self : (history.receive next leaf body).pairAt leaf = some pair := by
  rw [ClientHistory.pairAt, ClientHistory.receive, stored leaf member, if_pos rfl, carried]

theorem pairAt_receive_of_ne (isLeaf : other ∈ answerLeaves) (distinct : other ≠ leaf) :
    (history.receive next leaf body).pairAt other = history.pairAt other := by
  rw [ClientHistory.pairAt, ClientHistory.receive, stored other isLeaf, if_neg distinct]
  rfl

include member carried above in
/-- The pairs are in the order of their numbers with the new answer too. -/
theorem ordered_receive (sound : history.Sound ssl) {first second : String}
    (firstLeaf : first ∈ answerLeaves) (secondLeaf : second ∈ answerLeaves)
    (earlier : (history.receive next leaf body).storedAt first ≤
      (history.receive next leaf body).storedAt second) {old later : Int ×ₗ Int}
    (isOld : (history.receive next leaf body).pairAt first = some old)
    (isLater : (history.receive next leaf body).pairAt second = some later) : old ≤ later := by
  have here := pairAt_receive_self member carried stored
  by_cases sameSecond : second = leaf
  · subst sameSecond
    rw [here, Option.some.injEq] at isLater
    subst isLater
    by_cases sameFirst : first = second
    · subst sameFirst
      rw [here, Option.some.injEq] at isOld
      exact isOld.ge
    · rw [pairAt_receive_of_ne stored firstLeaf sameFirst] at isOld
      exact WithBot.coe_le_coe.mp ((sound.pair_le firstLeaf isOld).trans above)
  · rw [pairAt_receive_of_ne stored secondLeaf sameSecond] at isLater
    rw [storedAt_receive_of_ne sameSecond] at earlier
    by_cases sameFirst : first = leaf
    · rw [sameFirst, storedAt_receive_self] at earlier
      have := sound.numbered second
      omega
    · rw [pairAt_receive_of_ne stored firstLeaf sameFirst] at isOld
      rw [storedAt_receive_of_ne sameFirst] at earlier
      exact sound.ordered first firstLeaf second secondLeaf earlier old isOld later isLater

include member carried in
/-- The last issuance answer is in the cache, and its certificate is readable. -/
theorem latest_receive (sound : history.Sound ssl)
    (certificate : leaf ≠ "trust-material.json" → (answerCertificate ssl body).isSome = true)
    {answer : String × Option Json}
    (isLatest : (history.receive next leaf body).latest = some answer) :
    answer.1 ∈ ["renewal-result.json", "enrollment-result.json"] ∧
      next.cache answer.1 = answer.2 ∧ answer.2.isSome = true ∧
      (answerCertificate ssl answer.2).isSome = true := by
  by_cases pulled : leaf = "trust-material.json"
  · have before : history.latest = some answer := by
      rwa [ClientHistory.receive, if_pos pulled] at isLatest
    obtain ⟨issued, held, isSome, readable⟩ := sound.latest answer before
    have distinct : answer.1 ≠ leaf := by
      intro same
      rw [same, pulled] at issued
      exact absurd issued (by decide)
    have isLeaf : answer.1 ∈ answerLeaves := List.mem_cons_of_mem _ issued
    refine ⟨issued, ?_, isSome, readable⟩
    rw [← held]
    exact (stored answer.1 isLeaf).trans (if_neg distinct)
  · have now : some (leaf, body) = some answer := by
      rwa [ClientHistory.receive, if_neg pulled] at isLatest
    cases now
    have present : body.isSome = true := by
      cases body with
      | none => cases carried
      | some doc => rfl
    have here : next.cache leaf = body := by rw [stored leaf member, if_pos rfl]
    exact ⟨(List.mem_cons.mp member).resolve_left pulled, here, present, certificate pulled⟩

include member carried above in
/-- The number of a new answer is the highest, and so is its pair. -/
theorem sound_receive (sound : history.Sound ssl)
    (certificate : leaf ≠ "trust-material.json" → (answerCertificate ssl body).isSome = true) :
    (history.receive next leaf body).Sound ssl := by
  have here := pairAt_receive_self member carried stored
  have served : (history.receive next leaf body).served = ↑pair := carried
  refine ⟨?numbered, ?cached, ?ordered, ?latest, ?runtime⟩
  case numbered =>
    intro other
    by_cases same : other = leaf
    · rw [same, storedAt_receive_self]
      exact le_rfl
    · rw [storedAt_receive_of_ne same]
      exact (sound.numbered other).trans (Nat.le_succ _)
  case cached =>
    intro other isLeaf doc found
    by_cases same : other = leaf
    · subst same
      exact ⟨pair, here, served.ge⟩
    · have before : history.state.cache other = some doc := by
        have kept := stored other isLeaf
        rw [if_neg same] at kept
        exact kept.symm.trans found
      obtain ⟨old, isOld, below⟩ := sound.cached other isLeaf doc before
      exact ⟨old, (pairAt_receive_of_ne stored isLeaf same).trans isOld,
        (below.trans above).trans served.ge⟩
  case ordered =>
    intro first firstLeaf second secondLeaf earlier old isOld later isLater
    exact ordered_receive member carried above stored sound firstLeaf secondLeaf earlier isOld
      isLater
  case latest =>
    intro answer isLatest
    exact latest_receive member carried stored sound certificate isLatest
  case runtime =>
    intro material isMaterial
    obtain ⟨number, old, isOld, below, order⟩ := sound.runtime material isMaterial
    refine ⟨number.trans (Nat.le_succ _), old, isOld, (below.trans above).trans served.ge, ?_⟩
    intro other isLeaf earlier later isLater
    by_cases same : other = leaf
    · subst same
      rw [here, Option.some.injEq] at isLater
      exact WithBot.coe_le_coe.mp (isLater ▸ below.trans above)
    · rw [pairAt_receive_of_ne stored isLeaf same] at isLater
      rw [storedAt_receive_of_ne same] at earlier
      exact order other isLeaf earlier later isLater

end Receive

/-- The pair of the trust document that an apply takes. -/
theorem materialPair_of_source {history : ClientHistory} (sound : history.Sound ssl)
    {allowCertificate : Bool} {source : TrustSource}
    (found : trustPayloadFromCacheOrEnrollment history.state.cache allowCertificate =
      some source) :
    ∃ pair, materialPair source.trustDoc = some pair ∧ ↑pair ≤ history.served ∧
      history.pairAt (appliedLeaf history.state.cache allowCertificate) = some pair := by
  obtain ⟨isLeaf, doc, cached, carried, _⟩ := trustPayload_appliedLeaf found
  obtain ⟨pair, isPair, below⟩ := sound.cached _ isLeaf doc cached
  refine ⟨pair, ?_, below, isPair⟩
  rwa [ClientHistory.pairAt, answerPair, cached, Option.bind_some, carried,
    Option.bind_some] at isPair

theorem sound_apply {history next : ClientHistory} {settings : GdsSettings}
    {allowCertificate : Bool} {ends : Nat → WriteEnd} (sound : history.Sound ssl)
    (stepped : history.step ssl config (.apply settings allowCertificate ends) = some next) :
    next.Sound ssl := by
  simp only [ClientHistory.step, Option.some.injEq] at stepped
  subst stepped
  refine ⟨sound.numbered, sound.cached, sound.ordered, sound.latest, ?_⟩
  intro material isMaterial
  cases accepted : acceptedSource config settings history.state.cache allowCertificate with
  | none =>
      simp only [accepted] at isMaterial
      exact sound.runtime material isMaterial
  | some source =>
      simp only [accepted, Option.some.injEq] at isMaterial
      subst isMaterial
      have found := (acceptedSource_eq_some.mp accepted).2.2.1
      obtain ⟨pair, isPair, below, at_⟩ := materialPair_of_source sound found
      refine ⟨sound.numbered _, pair, isPair, below, fun leaf isLeaf earlier later isLater => ?_⟩
      exact sound.ordered _ (trustPayload_appliedLeaf found).1 leaf isLeaf earlier pair at_ later
        isLater

theorem step_answer {history : ClientHistory} {command : ClientCommand} {leaf : String}
    (asks : command.leaf? = some leaf) :
    history.step ssl config command =
      if (history.state.perform ssl config command).2 then
        some (history.receive (history.state.perform ssl config command).1 leaf command.body)
      else some { history with state := (history.state.perform ssl config command).1 } := by
  cases command with
  | apply => cases asks
  | _ => cases asks; rfl

/-- The cache files of the answers and the past decide. -/
theorem sound_of_leaves {history : ClientHistory} {next : ClientState}
    (sound : history.Sound ssl)
    (kept : ∀ leaf ∈ answerLeaves, next.cache leaf = history.state.cache leaf) :
    ({ history with state := next } : ClientHistory).Sound ssl := by
  have pairs (leaf : String) (isLeaf : leaf ∈ answerLeaves) :
      ({ history with state := next } : ClientHistory).pairAt leaf = history.pairAt leaf := by
    rw [ClientHistory.pairAt, ClientHistory.pairAt, kept leaf isLeaf]
  refine ⟨sound.numbered, ?_, ?_, ?_, ?_⟩
  · intro leaf isLeaf doc found
    rw [pairs leaf isLeaf]
    exact sound.cached leaf isLeaf doc ((kept leaf isLeaf).symm.trans found)
  · intro leaf isLeaf other isOther earlier pair isPair later isLater
    rw [pairs leaf isLeaf] at isPair
    rw [pairs other isOther] at isLater
    exact sound.ordered leaf isLeaf other isOther earlier pair isPair later isLater
  · intro answer isLatest
    obtain ⟨issued, held, rest⟩ := sound.latest answer isLatest
    exact ⟨issued, (kept answer.1 (List.mem_cons_of_mem _ issued)).trans held, rest⟩
  · intro material isMaterial
    obtain ⟨number, pair, isPair, below, order⟩ := sound.runtime material isMaterial
    refine ⟨number, pair, isPair, below, fun leaf isLeaf earlier later isLater => ?_⟩
    rw [pairs leaf isLeaf] at isLater
    exact order leaf isLeaf earlier later isLater

/-- Every command keeps the account of the answers. -/
theorem sound_step {history next : ClientHistory} {command : ClientCommand}
    (sound : history.Sound ssl) (served : history.Served ssl config command)
    (stepped : history.step ssl config command = some next) : next.Sound ssl := by
  cases asks : command.leaf? with
  | none =>
      cases command with
      | apply => exact sound_apply sound stepped
      | _ => cases asks
  | some leaf =>
      obtain ⟨_, cache⟩ := perform_answer ssl config history.state asks
      rw [step_answer asks] at stepped
      split at stepped
      · rename_i succeeded
        cases stepped
        obtain ⟨⟨pair, isPair, above⟩, certificate⟩ :=
          served succeeded leaf (Option.mem_def.mpr asks)
        simp only [succeeded, if_true] at cache
        exact sound_receive (leaf_mem_answerLeaves asks) isPair above cache sound certificate
      · rename_i failed
        cases stepped
        simp only [failed, if_false, ite_self, Bool.false_eq_true] at cache
        exact sound_of_leaves sound cache

/-- Only an apply changes the trust material in the runtime, and one that does not go back
behind its answer does not lower its pair. -/
theorem runtimePair_step_le {history next : ClientHistory} {command : ClientCommand}
    (sound : history.Sound ssl) (inOrder : history.InOrder ssl config command)
    (stepped : history.step ssl config command = some next) :
    history.runtimePair ≤ next.runtimePair := by
  cases asks : command.leaf? with
  | some leaf =>
      rw [step_answer asks] at stepped
      split at stepped
      · cases stepped
        exact le_rfl
      · cases stepped
        exact le_rfl
  | none =>
      cases command with
      | apply settings allowCertificate ends =>
          simp only [ClientHistory.step, Option.some.injEq] at stepped
          subst stepped
          cases accepted : acceptedSource config settings history.state.cache
            allowCertificate with
          | none => exact le_rfl
          | some source =>
              have found := (acceptedSource_eq_some.mp accepted).2.2.1
              obtain ⟨pair, isPair, _, at_⟩ := materialPair_of_source sound found
              obtain ⟨notBehind, _⟩ := inOrder source accepted
              cases before : history.runtime with
              | none =>
                  rw [ClientHistory.runtimePair, before]
                  exact bot_le
              | some material =>
                  obtain ⟨_, old, isOld, _, order⟩ := sound.runtime material before
                  have below := order _ (trustPayload_appliedLeaf found).1
                    (notBehind material before) pair at_
                  rw [ClientHistory.runtimePair, ClientHistory.runtimePair, before,
                    Option.bind_some, Option.bind_some, isOld, isPair]
                  exact WithBot.coe_le_coe.mpr below
      | _ => cases asks

/-- An apply that succeeds writes the own certificate last. -/
theorem writes_of_succeeded {settings : GdsSettings} {cache : TargetCache}
    {allowCertificate : Bool}
    (succeeded : (applyTrustOrCertificateOne ssl config settings cache
      allowCertificate).succeeded = true) :
    ∃ source front, acceptedSource config settings cache allowCertificate = some source ∧
      (applyTrustOrCertificateOne ssl config settings cache allowCertificate).writes =
        front ++ ownCertificateWrites ssl config source.ownerDoc := by
  unfold applyTrustOrCertificateOne at succeeded ⊢
  cases accepted : acceptedSource config settings cache allowCertificate with
  | none =>
      rw [accepted] at succeeded
      cases succeeded
  | some source =>
      rw [accepted] at succeeded
      dsimp only [applyTrustSource] at succeeded ⊢
      cases crls : applyCrls ssl config settings source.trustDoc with
      | none =>
          rw [crls] at succeeded
          cases succeeded
      | some writes => exact ⟨source, _, rfl, rfl⟩

/-- In certificate mode the answer to the last enrollment or renewal is taken, unless that is
an enrollment with a renewal in the cache. -/
theorem appliedLeaf_of_latest {history : ClientHistory} (sound : history.Sound ssl)
    {answer : String × Option Json} (latest : history.latest = some answer)
    (noRenewal : answer.1 = "enrollment-result.json" →
      history.state.cache "renewal-result.json" = none) :
    appliedLeaf history.state.cache true = answer.1 := by
  obtain ⟨issued, held, isSome, _⟩ := sound.latest answer latest
  obtain ⟨doc, isDoc⟩ := Option.isSome_iff_exists.mp isSome
  have cached := held.trans isDoc
  obtain ⟨pair, isPair, _⟩ := sound.cached answer.1 (List.mem_cons_of_mem _ issued) doc cached
  have carries : ((history.state.cache answer.1).bind (carriedTrust answer.1)).isSome = true := by
    rw [ClientHistory.pairAt, answerPair] at isPair
    obtain ⟨trust, isTrust, _⟩ := Option.bind_eq_some_iff.mp isPair
    rw [isTrust]
    rfl
  unfold appliedLeaf
  dsimp only
  rcases List.mem_cons.mp issued with renewal | others
  · rw [renewal] at carries
    rw [if_pos ⟨rfl, carries⟩, renewal]
  · have enrollment := List.mem_singleton.mp others
    rw [enrollment] at carries
    have passedOver : ¬ ((true : Bool) = true ∧ ((history.state.cache
        "renewal-result.json").bind (carriedTrust "renewal-result.json")).isSome = true) := by
      rw [noRenewal enrollment]
      exact fun both => Bool.false_ne_true both.2
    rw [if_neg passedOver, if_pos ⟨rfl, carries⟩, enrollment]

theorem installs_latest {history next : ClientHistory} {command : ClientCommand}
    (sound : history.Sound ssl) (inOrder : history.InOrder ssl config command)
    (stepped : history.step ssl config command = some next) :
    history.InstallsLatest ssl config command next := by
  cases command with
  | apply settings allowCertificate ends =>
      cases allowCertificate with
      | false => trivial
      | true =>
          intro succeeded answer latest
          obtain ⟨source, front, accepted, writes⟩ := writes_of_succeeded succeeded
          obtain ⟨_, certificate⟩ := inOrder source accepted
          obtain ⟨noRenewal, lastDone⟩ := certificate rfl
          obtain ⟨issued, held, _, readable⟩ := sound.latest answer latest
          obtain ⟨der, isDer⟩ := Option.isSome_iff_exists.mp readable
          have used := appliedLeaf_of_latest sound latest (noRenewal answer latest)
          have found := (acceptedSource_eq_some.mp accepted).2.2.1
          obtain ⟨_, doc, cached, _, owner⟩ := trustPayload_appliedLeaf found
          have notMaterial : appliedLeaf history.state.cache true ≠ "trust-material.json" := by
            rw [used]
            intro same
            rw [same] at issued
            exact absurd issued (by decide)
          have isOwner : source.ownerDoc = answer.2 := by
            rw [owner notMaterial, ← cached, used, held]
          have own : ownCertificateWrites ssl config source.ownerDoc =
              [(config.certPath, der)] := by
            obtain ⟨pem, hasPem, read⟩ := Option.bind_eq_some_iff.mp isDer
            simp only [ownCertificateWrites, isOwner, hasPem, writePemCertDer, read]
          refine ⟨der, isDer, ?_⟩
          simp only [ClientHistory.step, Option.some.injEq] at stepped
          subst stepped
          rw [own] at writes
          rw [writes, List.length_append, List.length_singleton, Nat.add_sub_cancel] at lastDone
          simp only [ClientState.perform, writes, FileTree.attempted_append, Nat.zero_add,
            attempted, lastDone, WriteEnd.left]
          rw [FileTree.read_writeAll, FileTree.lastWritten_append, FileTree.lastWritten_cons,
            if_pos rfl]
          rfl
  | _ => trivial

end Steps

/-- Applies do not go back: GDS answers in time order, no apply goes back behind the answer
that the runtime has its material from, and no apply prefers an earlier renewal to an
enrollment or fails to write the certificate. -/
theorem applies_go_forward (ssl : OpenSsl) (config : TargetConfig) (tree : FileTree)
    (commands : List ClientCommand)
    (served : Transition.EveryStep (ClientHistory.step ssl config)
      (fun history command _ => history.Served ssl config command) (.initial tree) commands)
    (inOrder : Transition.EveryStep (ClientHistory.step ssl config)
      (fun history command _ => history.InOrder ssl config command) (.initial tree) commands) :
    Transition.EveryStep (ClientHistory.step ssl config)
        (fun history command after => history.InstallsLatest ssl config command after)
        (.initial tree) commands ∧
      Transition.NeverDecreases (ClientHistory.step ssl config) ClientHistory.runtimePair
        (.initial tree) commands := by
  have initial : (ClientHistory.initial tree).Sound ssl :=
    ⟨fun _ => le_rfl, nofun, nofun, nofun, nofun⟩
  have kept : ∀ history command next, ClientHistory.Sound ssl history →
      history.step ssl config command = some next →
        history.Served ssl config command ∧ history.InOrder ssl config command →
          next.Sound ssl :=
    fun _ _ _ sound stepped held => sound_step sound held.1 stepped
  rw [Transition.neverDecreases_iff_everyStep]
  constructor
  · exact (served.and inOrder).imp_of_kept (ClientHistory.Sound ssl) kept
      (fun _ _ _ sound stepped held => installs_latest sound held.2 stepped) initial
  · exact (served.and inOrder).imp_of_kept (ClientHistory.Sound ssl) kept
      (fun _ _ _ sound stepped held => runtimePair_step_le sound held.2 stepped) initial

/-! ## A gateway that renews, enrolls and pulls -/

/-- Every text is a certificate with its characters as DER form. -/
def textSsl : OpenSsl where
  base64Decode := fun text => some (textBytes text)
  pemCertToDer := fun pem => some (textBytes pem)

def openSettings : GdsSettings where
  runtimeWriteEnabled := true
  requireSignedArtifacts := false
  strictCrlFreshness := false
  requireRevocationLists := false
  trustAnchorFingerprint := none

def materialOf (revision : Int) : Json :=
  .obj [("trust_material", .obj [("trustlist_version", .int 1),
    ("artifact_revision", .int revision)])]

def issuedAnswer (certificate : String) (revision : Int) : Answer where
  body := some (some (.obj [("certificate_pem", .str certificate),
    ("trust_distribution", materialOf revision)]))
  stored := true

def pulledAnswer (revision : Int) : Answer := ⟨some (some (materialOf revision)), true⟩

def applyCommand (allowCertificate : Bool) : ClientCommand :=
  .apply openSettings allowCertificate fun _ => .done

/-- An enrollment, its renewal and a pull, each applied. -/
def orderlyCommands : List ClientCommand :=
  [.enroll (issuedAnswer "first" 1), applyCommand true, .renew (issuedAnswer "second" 2),
    applyCommand true, .pullTrust (pulledAnswer 3) true, applyCommand false]

theorem orderly_applies_go_forward :
    Transition.EveryStep (ClientHistory.step textSsl GdsTarget.dmzGatewayServer.config)
        (fun history command after => history.InstallsLatest textSsl
          GdsTarget.dmzGatewayServer.config command after) (.initial []) orderlyCommands ∧
      Transition.NeverDecreases (ClientHistory.step textSsl GdsTarget.dmzGatewayServer.config)
        ClientHistory.runtimePair (.initial []) orderlyCommands :=
  applies_go_forward textSsl GdsTarget.dmzGatewayServer.config [] orderlyCommands
    (by decide +kernel) (by decide +kernel)

/-- An enrollment after a renewal, and a certificate apply after a newer pull: the answers come
in order, the first apply installs the certificate of the renewal, and the second run ends
with older trust material. -/
theorem renewal_preferred_and_pull_undone :
    let step := ClientHistory.step textSsl GdsTarget.dmzGatewayServer.config
    let shadowed := [.renew (issuedAnswer "first" 1), .enroll (issuedAnswer "second" 2),
      applyCommand true]
    let undone := [.renew (issuedAnswer "first" 1), .pullTrust (pulledAnswer 2) true,
      applyCommand false, applyCommand true]
    Transition.EveryStep step (fun history command _ => history.Served textSsl
          GdsTarget.dmzGatewayServer.config command) (.initial []) shadowed ∧
      Transition.EveryStep step (fun history command _ => history.Served textSsl
          GdsTarget.dmzGatewayServer.config command) (.initial []) undone ∧
      ¬ Transition.EveryStep step (fun history command after => history.InstallsLatest textSsl
          GdsTarget.dmzGatewayServer.config command after) (.initial []) shadowed ∧
      ¬ Transition.NeverDecreases step ClientHistory.runtimePair (.initial []) undone := by
  dsimp only
  rw [Transition.neverDecreases_iff_everyStep]
  decide +kernel

end OpcuaGds.Gateway
