import OpcuaGds.Gds.AgentAuth

/-! # What a grant to an agent says

`_authorize_agent_pull` with agent authentication switched on: when it grants, when it raises,
and what the policy of the agent holds in a grant.
-/

namespace OpcuaGds.Gds

/-- The only texts that `hmac.compare_digest` compares. -/
def isAscii (text : String) : Bool := text.toList.all fun c => c.toNat < 128

/-- The applications that a lifecycle access may name. -/
def AgentPolicy.lifecycleApplications (policy : AgentPolicy) : List String :=
  if policy.ownedApplications = [] then policy.allowedApplications else policy.ownedApplications

/-- What a granted access has in the policy of the presented agent. -/
structure GrantedBy (policy : AgentPolicy) (agentToken access : String)
    (zone role applicationUri : Option String) : Prop where
  token : policy.token = agentToken
  trustlist : access = "artifact_read" → ∃ z r, zone = some z ∧ role = some r ∧
    (z, r) ∈ policy.allowedTrustlists
  application : access = "lifecycle_read" ∨ access = "lifecycle_write" →
    ∀ uri, applicationUri = some uri → uri ≠ "" → uri ∈ policy.lifecycleApplications

/-- The call returns, and grants only what the policy stored for the presented agent grants. -/
structure AuthorizesSoundly (auth : AgentAuth) (request : AgentRequest) (access : String)
    (zone role applicationUri : Option String) : Prop where
  total : authorizeAgentPull auth request access zone role applicationUri ≠ .error .raised
  sound : authorizeAgentPull auth request access zone role applicationUri = .ok () →
    ∃ policy, auth.policy? (PythonText.strip request.agentId) = some policy ∧
      GrantedBy policy (PythonText.strip request.agentToken) access zone role applicationUri

/-- The token of a known agent is compared although it, or the one presented, is not ASCII. -/
def ComparesOtherText (auth : AgentAuth) (request : AgentRequest) : Prop :=
  auth.storeInitialized = true ∧ PythonText.strip request.agentId ≠ "" ∧
    PythonText.strip request.agentToken ≠ "" ∧
    ∃ policy, auth.policy? (PythonText.strip request.agentId) = some policy ∧
      ¬ (isAscii policy.token = true ∧ isAscii (PythonText.strip request.agentToken) = true)

section Decision

variable {auth : AgentAuth} {request : AgentRequest} {access : String}
  {zone role applicationUri : Option String} {policy : AgentPolicy}

/-- What is allowed on a resource is allowed at all. -/
theorem AgentPolicy.allowsAccess_of_allows
    (allowed : policy.allows access zone role applicationUri = true) :
    policy.allowsAccess access zone role = true := by
  rw [allows] at allowed
  split at allowed
  · exact allowed
  · split at allowed
    · rename_i both
      exact both.1
    · split at allowed
      · rename_i both
        exact both.1
      · exact allowed

theorem AgentPolicy.mem_allowedTrustlists
    (allowed : policy.allowsAccess "artifact_read" zone role = true) :
    ∃ z r, zone = some z ∧ role = some r ∧ (z, r) ∈ policy.allowedTrustlists := by
  cases zone with
  | none => cases allowed
  | some z =>
      cases role with
      | none => cases allowed
      | some r => exact ⟨z, r, rfl, rfl, List.contains_iff_mem.mp allowed⟩

theorem AgentPolicy.mem_lifecycleApplications {uri : String}
    (lifecycle : access = "lifecycle_read" ∨ access = "lifecycle_write") (named : uri ≠ "")
    (allowed : policy.allows access zone role (some uri) = true) :
    uri ∈ policy.lifecycleApplications := by
  have atAll := allowsAccess_of_allows allowed
  have given : (some uri).filter (fun text => decide (text ≠ "")) = some uri := by
    simp [named]
  have isLifecycle : ["lifecycle_read", "lifecycle_write"].contains access = true := by
    rcases lifecycle with rfl | rfl <;> decide
  simp only [allows, given, atAll, isLifecycle, and_self, if_true] at allowed
  exact List.contains_iff_mem.mp allowed

theorem verifyToken_eq {agentToken : String} :
    verifyToken policy agentToken =
      if isAscii policy.token = true ∧ isAscii agentToken = true then
        .ok (policy.token == agentToken) else .error .raised := rfl

/-- The decision for an agent whose policy was found. -/
theorem authorizeAgentPull_of_policy {payload : Json} (enabled : auth.agentAuthEnabled = true)
    (initialized : auth.storeInitialized = true) (agentId : PythonText.strip request.agentId ≠ "")
    (agentToken : PythonText.strip request.agentToken ≠ "")
    (file : auth.tokensFile = .document payload)
    (found : (parsePolicies payload).lookup (PythonText.strip request.agentId) = some policy) :
    authorizeAgentPull auth request access zone role applicationUri = (do
      let verified ← verifyToken policy (PythonText.strip request.agentToken)
      refuseUnless (verified = true) 401 "agent_invalid_token"
      refuseUnless (policy.allows access zone role applicationUri = true) 403
        "agent_not_authorized") := by
  rw [authorizeAgentPull, if_neg (by rw [enabled]; decide), refuseUnless, if_pos initialized]
  simp only [refuseUnless, ne_eq, agentId, agentToken, not_false_eq_true, and_self, if_true, file,
    found]
  rfl

/-- ASCII tokens are compared, and what is granted then is what the policy grants. -/
theorem authorizesSoundly_of_ascii
    (found : auth.policy? (PythonText.strip request.agentId) = some policy)
    (ascii : isAscii policy.token = true ∧ isAscii (PythonText.strip request.agentToken) = true)
    (decided : authorizeAgentPull auth request access zone role applicationUri = (do
      let verified ← verifyToken policy (PythonText.strip request.agentToken)
      refuseUnless (verified = true) 401 "agent_invalid_token"
      refuseUnless (policy.allows access zone role applicationUri = true) 403
        "agent_not_authorized")) :
    AuthorizesSoundly auth request access zone role applicationUri := by
  rw [verifyToken_eq, if_pos ascii] at decided
  constructor
  · rw [decided]
    intro raised
    rcases Fallible.bind_eq_error.mp raised with impossible | ⟨verified, _, rest⟩
    · cases impossible
    · rcases Fallible.bind_eq_error.mp rest with refused | ⟨_, _, refused⟩
      · exact absurd (Fallible.check_eq_error.mp refused).2 nofun
      · exact absurd (Fallible.check_eq_error.mp refused).2 nofun
  · rw [decided]
    intro granted
    simp only [Fallible.bind_eq_ok, Except.ok.injEq, refuseUnless_eq_ok, Fallible.exists_check]
      at granted
    obtain ⟨_, rfl, sameToken, allowed⟩ := granted
    refine ⟨policy, found, by simpa using sameToken, fun isRead => ?_,
      fun lifecycle uri isUri named => ?_⟩
    · subst isRead
      exact AgentPolicy.mem_allowedTrustlists (AgentPolicy.allowsAccess_of_allows allowed)
    · subst isUri
      exact AgentPolicy.mem_lifecycleApplications lifecycle named allowed

/-- Where no policy is looked at, the call denies. -/
theorem authorizeAgentPull_of_noPolicy (enabled : auth.agentAuthEnabled = true)
    (noPolicy : ¬ (auth.storeInitialized = true ∧ PythonText.strip request.agentId ≠ "" ∧
      PythonText.strip request.agentToken ≠ "" ∧
      ∃ policy, auth.policy? (PythonText.strip request.agentId) = some policy)) :
    ∃ status errorCode, authorizeAgentPull auth request access zone role applicationUri =
      .error (.refused status errorCode) := by
  rw [authorizeAgentPull, if_neg (by rw [enabled]; decide)]
  by_cases initialized : auth.storeInitialized = true
  · by_cases headers : PythonText.strip request.agentId ≠ "" ∧
        PythonText.strip request.agentToken ≠ ""
    · simp only [refuseUnless, if_pos initialized, if_pos headers]
      cases file : auth.tokensFile with
      | missing => exact ⟨_, _, rfl⟩
      | unreadable => exact ⟨_, _, rfl⟩
      | malformed => exact ⟨_, _, rfl⟩
      | document payload =>
          have absent : (parsePolicies payload).lookup (PythonText.strip request.agentId) =
              none := by
            rw [Option.eq_none_iff_forall_not_mem]
            intro policy found
            refine noPolicy ⟨initialized, headers.1, headers.2, policy, ?_⟩
            rw [AgentAuth.policy?, file]
            exact found
          simp only [absent]
          exact ⟨_, _, rfl⟩
    · simp only [refuseUnless, if_pos initialized, if_neg headers]
      exact ⟨_, _, rfl⟩
  · rw [refuseUnless, if_neg initialized]
    exact ⟨_, _, rfl⟩

/-- With agent authentication on, the call returns and grants by the policy of the agent if and
only if it does not compare a token that is not ASCII. -/
theorem authorizes_soundly_iff (auth : AgentAuth) (enabled : auth.agentAuthEnabled = true)
    (request : AgentRequest) (access : String) (zone role applicationUri : Option String) :
    AuthorizesSoundly auth request access zone role applicationUri ↔
      ¬ ComparesOtherText auth request := by
  by_cases looked : auth.storeInitialized = true ∧ PythonText.strip request.agentId ≠ "" ∧
      PythonText.strip request.agentToken ≠ "" ∧
      ∃ policy, auth.policy? (PythonText.strip request.agentId) = some policy
  · obtain ⟨initialized, agentId, agentToken, policy, found⟩ := looked
    obtain ⟨payload, file, lookup⟩ : ∃ payload, auth.tokensFile = .document payload ∧
        (parsePolicies payload).lookup (PythonText.strip request.agentId) = some policy := by
      rw [AgentAuth.policy?] at found
      cases file : auth.tokensFile with
      | document payload => exact ⟨payload, rfl, by rwa [file] at found⟩
      | _ => rw [file] at found; cases found
    have decided : authorizeAgentPull auth request access zone role applicationUri = _ :=
      authorizeAgentPull_of_policy enabled initialized agentId agentToken file lookup
    by_cases ascii : isAscii policy.token = true ∧
        isAscii (PythonText.strip request.agentToken) = true
    · refine iff_of_true ?_ fun ⟨_, _, _, other, isOther, notAscii⟩ => ?_
      · exact authorizesSoundly_of_ascii found ascii decided
      · cases found.symm.trans isOther
        exact notAscii ascii
    · refine iff_of_false (fun soundly => soundly.total ?_) fun otherwise =>
        otherwise ⟨initialized, agentId, agentToken, policy, found, ascii⟩
      rw [decided, verifyToken_eq, if_neg ascii]
      rfl
  · obtain ⟨status, errorCode, isDenied⟩ : ∃ status errorCode,
        authorizeAgentPull auth request access zone role applicationUri =
          .error (.refused status errorCode) :=
      authorizeAgentPull_of_noPolicy enabled looked
    refine iff_of_true ?_ fun other =>
      looked ⟨other.1, other.2.1, other.2.2.1, other.2.2.2.imp fun _ found => found.1⟩
    constructor
    · rw [isDenied]
      nofun
    · rw [isDenied]
      nofun

end Decision

/-! ## A token that is not ASCII -/

def plainAuth : AgentAuth where
  agentAuthEnabled := true
  storeInitialized := true
  tokensFile := .document (.obj [("agent-1", .str "secret")])

def accentedRequest : AgentRequest where
  forwardedProto := "https"
  clientCertVerify := "SUCCESS"
  agentId := "agent-1"
  agentToken := "sécret"

/-- It raises instead of being refused. -/
theorem accented_token_raises :
    ¬ AuthorizesSoundly plainAuth accentedRequest "lifecycle_read" none none none := by
  intro soundly
  exact soundly.total (by decide +kernel)

/-- The equivalence for it. -/
theorem accented_token_iff :
    AuthorizesSoundly plainAuth accentedRequest "lifecycle_read" none none none ↔
      ¬ ComparesOtherText plainAuth accentedRequest :=
  authorizes_soundly_iff plainAuth rfl accentedRequest "lifecycle_read" none none none

end OpcuaGds.Gds
