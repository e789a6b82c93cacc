import OpcuaGds.Foundation.Fallible
import OpcuaGds.Foundation.JsonPython

/-! # Authorization of agents

The policies of the tokens file (`agent_auth.py`), the check on the client certificate
headers and `_authorize_agent_pull`, the one function that every endpoint for agents
asks for permission.
-/

namespace OpcuaGds.Gds

/-- `AgentPolicy`; a set is a list of its members. -/
structure AgentPolicy where
  token : String
  allowTrustAnchor : Bool
  allowedTrustlists : List (String × String)
  allowedApplications : List String
  ownedApplications : List String
  deriving DecidableEq, Repr

/-! ## Policies -/

/-- One entry of `_parse_allowed_trustlists`. -/
def parseAllowedTrustlist : Json → Option (String × String)
  | .str item =>
      match item.toList.splitOn ':' with
      | [zone, role] =>
          some (PythonText.strip (String.ofList zone), PythonText.strip (String.ofList role))
      | _ => none
  | .obj fields =>
      let zone := PythonText.strip ((fields.lookup "zone").getD (.str "")).toStr
      let role := PythonText.strip ((fields.lookup "role").getD (.str "")).toStr
      if zone ≠ "" ∧ role ≠ "" then some (zone, role) else none
  | _ => none

/-- `_parse_allowed_trustlists`. -/
def parseAllowedTrustlists : Json → List (String × String)
  | .arr items => items.filterMap parseAllowedTrustlist
  | _ => []

/-- One entry of `_parse_allowed_applications`. -/
def parseAllowedApplication : Json → Option String
  | .str item => if PythonText.strip item = "" then none else some (PythonText.strip item)
  | _ => none

/-- `_parse_allowed_applications`. -/
def parseAllowedApplications : Json → List String
  | .arr items => items.filterMap parseAllowedApplication
  | _ => []

/-- `_parse_single_policy`. -/
def parseSinglePolicy : Json → Option AgentPolicy
  | .str raw =>
      if PythonText.strip raw = "" then none
      else some {
        token := PythonText.strip raw
        allowTrustAnchor := true
        allowedTrustlists := []
        allowedApplications := []
        ownedApplications := [] }
  | .obj fields =>
      let get (key : String) (default : Json) : Json := (fields.lookup key).getD default
      let token := PythonText.strip (get "token" (.str "")).toStr
      if token = "" then none
      else some {
        token := token
        allowTrustAnchor := (get "allow_trust_anchor" (.bool true)).truthy
        allowedTrustlists := parseAllowedTrustlists (get "allowed_trustlists" (.arr []))
        allowedApplications := parseAllowedApplications (get "allowed_applications" (.arr []))
        ownedApplications := parseAllowedApplications (get "owned_applications" (.arr [])) }
  | _ => none

/-- `_parse_policies`: a later entry of an identifier replaces an earlier one. -/
def parsePolicies : Json → List (String × AgentPolicy)
  | .obj payload =>
      let source := match payload.lookup "agents" with
        | some (.obj agents) => agents
        | _ => payload
      (source.filterMap fun entry =>
        if PythonText.strip entry.1 = "" then none
        else (parseSinglePolicy entry.2).map fun policy =>
          (PythonText.strip entry.1, policy)).reverse
  | _ => []

/-- What `get_policy` finds when it looks at the tokens file. -/
inductive TokensFile where
  | missing
  | unreadable
  | malformed
  | document (payload : Json)

/-- The configuration of agent authentication. -/
structure AgentAuth where
  agentAuthEnabled : Bool
  storeInitialized : Bool
  tokensFile : TokensFile

/-- `AgentAuthStore.get_policy`. -/
def AgentAuth.policy? (auth : AgentAuth) (agentId : String) : Option AgentPolicy :=
  match auth.tokensFile with
  | .document payload => (parsePolicies payload).lookup agentId
  | _ => none

/-! ## Requests -/

/-- The headers that authentication reads; a missing header is empty. -/
structure AgentRequest where
  forwardedProto : String
  clientCertVerify : String
  agentId : String
  agentToken : String

/-- How a request is turned away. -/
inductive Refusal where
  | refused (status : Nat) (errorCode : String)
  | raised
  deriving DecidableEq, Repr

def refuseUnless (condition : Prop) [Decidable condition] (status : Nat) (errorCode : String) :
    Except Refusal Unit :=
  if condition then .ok () else .error (.refused status errorCode)

theorem refuseUnless_eq_ok {condition : Prop} [Decidable condition] {status : Nat}
    {errorCode : String} {result : Unit} :
    refuseUnless condition status errorCode = .ok result ↔ condition :=
  Fallible.check_eq_ok

/-- `_require_https_mtls`. -/
def requireHttpsMtls (request : AgentRequest) : Except Refusal Unit := do
  refuseUnless (PythonText.lower (PythonText.strip request.forwardedProto) = "https") 403
    "https_mtls_required"
  refuseUnless (PythonText.strip request.clientCertVerify = "SUCCESS") 401
    "missing_client_certificate"

/-- `verify_token`; `hmac.compare_digest` takes ASCII texts only. -/
def verifyToken (policy : AgentPolicy) (providedToken : String) : Except Refusal Bool :=
  if policy.token.toList.all (fun c => c.toNat < 128) ∧
      providedToken.toList.all fun c => c.toNat < 128 then
    .ok (policy.token == providedToken)
  else .error .raised

/-- Whether an agent has an access at all. -/
def AgentPolicy.allowsAccess (policy : AgentPolicy) (access : String)
    (zone role : Option String) : Bool :=
  if access = "trust_anchor" then policy.allowTrustAnchor
  else if access = "artifact_read" then
    match zone, role with
    | some zone, some role => policy.allowedTrustlists.contains (zone, role)
    | _, _ => false
  else ["telemetry_read", "lifecycle_read", "lifecycle_write", "enrollment_submit",
    "package_read", "package_update"].contains access

/-- The decision on a resource, once the agent is known. -/
def AgentPolicy.allows (policy : AgentPolicy) (access : String) (zone role : Option String)
    (applicationUri : Option String) : Bool :=
  let allowed := policy.allowsAccess access zone role
  match applicationUri.filter (· ≠ "") with
  | none => allowed
  | some uri =>
      if allowed = true ∧ ["lifecycle_read", "lifecycle_write"].contains access then
        let lifecycleApps :=
          if policy.ownedApplications = [] then policy.allowedApplications
          else policy.ownedApplications
        lifecycleApps.contains uri
      else if allowed = true ∧ policy.allowedApplications ≠ [] then
        policy.allowedApplications.contains uri
      else allowed

/-- `_authorize_agent_pull`; without agent authentication everyone passes. -/
def authorizeAgentPull (auth : AgentAuth) (request : AgentRequest) (access : String)
    (zone role applicationUri : Option String) : Except Refusal Unit :=
  if auth.agentAuthEnabled = false then .ok ()
  else do
    refuseUnless (auth.storeInitialized = true) 503 "agent_auth_not_initialized"
    let agentId := PythonText.strip request.agentId
    let agentToken := PythonText.strip request.agentToken
    refuseUnless (agentId ≠ "" ∧ agentToken ≠ "") 401 "agent_auth_missing_headers"
    match auth.tokensFile with
    | .missing => .error (.refused 503 "agent_token_policy_missing")
    | .unreadable => .error (.refused 503 "agent_token_policy_unreadable")
    | .malformed => .error (.refused 503 "agent_token_policy_error")
    | .document payload =>
        match (parsePolicies payload).lookup agentId with
        | none => .error (.refused 401 "agent_unknown")
        | some policy => do
            let verified ← verifyToken policy agentToken
            refuseUnless (verified = true) 401 "agent_invalid_token"
            refuseUnless (policy.allows access zone role applicationUri = true) 403
              "agent_not_authorized"

/-- An agent with a scope is allowed what concerns an application only inside it. -/
theorem AgentPolicy.allows_inside {policy : AgentPolicy} {access uri : String}
    {zone role : Option String} (limited : policy.allowedApplications ≠ [])
    (unowned : policy.ownedApplications = []) (named : uri ≠ "")
    (allowed : policy.allows access zone role (some uri) = true) :
    uri ∈ policy.allowedApplications := by
  have given : (some uri).filter (fun text => decide (text ≠ "")) = some uri := by
    simp [named]
  simp only [allows, given, unowned, if_true] at allowed
  split at allowed
  · exact List.contains_iff_mem.mp allowed
  · split at allowed
    · exact List.contains_iff_mem.mp allowed
    · rename_i notAllowed
      exact absurd ⟨allowed, limited⟩ notAllowed

/-- Without an application the scope is not looked at. -/
theorem AgentPolicy.allows_package_update (policy : AgentPolicy) :
    policy.allows "package_update" none none none = true := by
  simp [allows, allowsAccess]

end OpcuaGds.Gds
