import OpcuaGds.Gateway.TrustedCertificates

/-! # Commands of the DMZ gateway client

`command_pull_trust_one`, `command_enroll_one`, `command_renew_one` and the two applies, on
the cache directory and the runtime PKI of one target.
-/

namespace OpcuaGds.Gateway

/-- What a request brings: the body, `none` when the request fails and `some none` when the
body is no JSON, and whether it can be written into the cache. -/
structure Answer where
  body : Option (Option Json)
  stored : Bool

/-- `cache_json_response`; a refused write leaves the file as it is. -/
def TargetCache.store (cache : TargetCache) (leaf : String) (body : Option Json)
    (stored : Bool) : TargetCache :=
  if stored then Function.update cache leaf body else cache

/-- The cache after a request and whether the command returns 1. -/
def TargetCache.receive (cache : TargetCache) (leaf : String) (answer : Answer) :
    TargetCache × Bool :=
  match answer.body with
  | none => (cache, false)
  | some body => (cache.store leaf body answer.stored, answer.stored)

/-- `command_enroll_one`; without a key or CSR there is no answer. -/
def commandEnrollOne (config : TargetConfig) (answer : Answer) (cache : TargetCache) :
    TargetCache × Bool :=
  if config.remotePeerReadOnly then (cache, false)
  else cache.receive "enrollment-result.json" answer

/-- `command_renew_one`. -/
def commandRenewOne (config : TargetConfig) (answer : Answer) (cache : TargetCache) :
    TargetCache × Bool :=
  if config.remotePeerReadOnly then (cache, false)
  else cache.receive "renewal-result.json" answer

/-- `item ? item->valuedouble : 0`, as the number that is printed again. -/
def valuedouble : Option Json → Json
  | some (.int value) => .int value
  | some (.float value) => .float value
  | _ => .int 0

/-- `artifact_sha256` of a trust material. -/
def artifactSha256 (trustMaterial : Option Json) : Option String :=
  valuestring? (item trustMaterial "artifact_sha256")

/-- The CRL metadata of the artifact, or of the trust material without one. -/
def materialCrlMetadata (trustMaterial : Json) : Option Json :=
  match getObjectItem trustMaterial "artifact" with
  | some artifact => getObjectItem artifact "crl_metadata"
  | none => getObjectItem trustMaterial "crl_metadata"

/-- The `trust-version.json` that a pull derives from the trust material. -/
def pulledVersion (config : TargetConfig) (trustMaterial : Json) : Json :=
  .obj ([("application_uri", .str config.applicationUri),
      ("trust_artifact_version", valuedouble (getObjectItem trustMaterial "trustlist_version")),
      ("trust_artifact_revision", valuedouble (getObjectItem trustMaterial "artifact_revision"))] ++
    ((artifactSha256 (some trustMaterial)).map fun sha =>
      ("trust_artifact_sha256", Json.str sha)).toList ++
    ((materialCrlMetadata trustMaterial).map fun metadata => ("crl_metadata", metadata)).toList)

/-- `command_pull_trust_one`; whether `trust-version.json` can be written is no part of its
outcome. -/
def commandPullTrustOne (config : TargetConfig) (answer : Answer) (versionStored : Bool)
    (cache : TargetCache) : TargetCache × Bool :=
  match cache.receive "trust-material.json" answer with
  | (cache, false) => (cache, false)
  | (cache, true) =>
      match item (answer.body.getD none) "trust_material" with
      | none => (cache, true)
      | some material =>
          (cache.store "trust-version.json" (some (pulledVersion config material)) versionStored,
            true)

/-! ## What the commands leave in the cache -/

section Cache

variable {cache : TargetCache} {config : TargetConfig} {answer : Answer} {leaf other : String}

theorem TargetCache.store_of_ne {body : Option Json} {stored : Bool} (distinct : other ≠ leaf) :
    cache.store leaf body stored other = cache other := by
  unfold store
  split
  · exact Function.update_of_ne distinct _ _
  · rfl

theorem TargetCache.store_refused {body : Option Json} : cache.store leaf body false = cache :=
  rfl

theorem TargetCache.store_self {body : Option Json} :
    cache.store leaf body true leaf = body := by
  rw [store, if_pos rfl, Function.update_self]

variable (cache leaf answer) in
/-- A request that fails, or whose answer is not stored, leaves the cache. -/
theorem TargetCache.receive_cases :
    (cache.receive leaf answer = (cache, false)) ∨
      ∃ body, answer.body = some body ∧ answer.stored = true ∧
        cache.receive leaf answer = (Function.update cache leaf body, true) := by
  unfold receive
  cases answer.body with
  | none => exact Or.inl rfl
  | some body =>
      cases answer.stored with
      | false => exact Or.inl rfl
      | true => exact Or.inr ⟨body, rfl, rfl, rfl⟩

/-- A pull succeeds when its answer is stored. -/
theorem commandPullTrustOne_succeeds {versionStored : Bool} :
    (commandPullTrustOne config answer versionStored cache).2 =
      (answer.body.isSome && answer.stored) := by
  unfold commandPullTrustOne TargetCache.receive
  cases answer.body with
  | none => rfl
  | some body =>
      cases answer.stored with
      | false => rfl
      | true =>
          dsimp only
          split <;> rfl

theorem commandPullTrustOne_of_ne {versionStored : Bool}
    (notMaterial : other ≠ "trust-material.json")
    (notVersion : other ≠ "trust-version.json") :
    (commandPullTrustOne config answer versionStored cache).1 other = cache other := by
  unfold commandPullTrustOne
  rcases TargetCache.receive_cases cache answer "trust-material.json" with
    failed | ⟨body, _, _, received⟩
  · rw [failed]
  · rw [received]
    have material : Function.update cache "trust-material.json" body other = cache other :=
      Function.update_of_ne notMaterial _ _
    dsimp only
    split
    · exact material
    · exact (TargetCache.store_of_ne notVersion).trans material

/-- The cache file that was asked for holds the answer, when the command succeeds. -/
theorem receive_cache :
    (cache.receive leaf answer).1 other =
      if other = leaf then
        if (cache.receive leaf answer).2 then answer.body.join else cache other
      else cache other := by
  rcases TargetCache.receive_cases cache answer leaf with failed | ⟨body, answered, _, received⟩
  · rw [failed]
    exact (ite_self _).symm
  · rw [received, answered, if_pos rfl]
    exact Function.update_apply _ _ _ _

/-- An enrollment or a renewal, for the leaf of its answer. -/
theorem issuance_cache {remote : Bool} :
    (if remote then (cache, false) else cache.receive leaf answer).1 other =
      if other = leaf then
        if (if remote then (cache, false) else cache.receive leaf answer).2 then answer.body.join
        else cache other
      else cache other := by
  cases remote with
  | true => exact (ite_self _).symm
  | false => exact receive_cache

theorem commandPullTrustOne_material {versionStored : Bool} :
    (commandPullTrustOne config answer versionStored cache).1 "trust-material.json" =
      if (commandPullTrustOne config answer versionStored cache).2 then answer.body.join
      else cache "trust-material.json" := by
  have received := @receive_cache cache answer "trust-material.json" "trust-material.json"
  rw [if_pos rfl] at received
  unfold commandPullTrustOne
  split
  · rename_i failed
    rw [failed] at received
    exact received
  · rename_i done
    rw [done] at received
    split
    · exact received
    · exact (TargetCache.store_of_ne (by decide)).trans received

end Cache

end OpcuaGds.Gateway
