import OpcuaGds.Foundation.Fallible
import OpcuaGds.Foundation.JsonPython
import OpcuaGds.Foundation.Transition

/-! # The Vault token

`VaultClient.ensure_token` talks to Vault under a lock: it logs in, looks its token up, renews
it. Other threads send their own requests in between. An event of a run is one thing that the
outside gives to the client, and the step is the code up to the next thing that it waits for.
-/

namespace OpcuaGds.Gds.Vault

/-! ## Responses -/

/-- What is read of a response; `json` is what `res.json()` returns, if it does not raise. -/
structure HttpResponse where
  statusCode : Nat
  content : List UInt8
  text : String
  json : Option Json

/-- The exceptions of a call. -/
inductive VaultFailure where
  | vaultSealed
  /-- A credential file cannot be read. -/
  | credentialFile
  | transport
  /-- `raise_for_status`. -/
  | httpStatus (code : Nat)
  /-- A body that is not of the expected shape. -/
  | malformed
  /-- `Vault AppRole login returned no client_token`. -/
  | noClientToken
  deriving DecidableEq, Repr

/-- `_is_sealed_response`. -/
def isSealedResponse (res : HttpResponse) : Bool :=
  res.statusCode == 503 ||
    (let body := if res.content.isEmpty then "" else String.ofList (res.text.toList.take 4096)
    decide ("vault is sealed".toList <:+: (PythonText.lower body).toList))

/-- What `_request` makes of an answer, or of an exception instead of one. -/
def answered : Option HttpResponse → Except VaultFailure HttpResponse
  | none => .error .transport
  | some res => if isSealedResponse res then .error .vaultSealed else .ok res

/-- `res.raise_for_status()`, then `res.json().get(key, {})`. -/
def HttpResponse.part (key : String) (res : HttpResponse) : Except VaultFailure Json := do
  Fallible.check (200 ≤ res.statusCode ∧ res.statusCode < 300) (.httpStatus res.statusCode)
  let body ← Fallible.orRaise .malformed res.json
  Fallible.orRaise .malformed (body.get? key (.obj []))

/-- `int(data.get(key, 0))`. -/
def intField (key : String) (data : Json) : Except VaultFailure Int :=
  Fallible.orRaise .malformed ((data.get? key (.int 0)).bind Json.toInt?)

/-- `bool(data.get("renewable", default))`. -/
def renewableField (fallback : Bool) (data : Json) : Except VaultFailure Bool :=
  (Fallible.orRaise .malformed (data.get? "renewable" (.bool fallback))).map Json.truthy

structure LoginGrant where
  token : Json
  leaseDuration : Int
  renewable : Bool

/-- What `_login_approle` reads of a response. -/
def loginGrant (res : HttpResponse) : Except VaultFailure LoginGrant := do
  let data ← res.part "auth"
  let token ← Fallible.orRaise .malformed (data.get? "client_token" .null)
  Fallible.check (token.truthy = true) .noClientToken
  let leaseDuration ← intField "lease_duration" data
  let renewable ← renewableField false data
  return { token := token, leaseDuration := leaseDuration, renewable := renewable }

/-- A time to live and whether it can be extended. -/
structure TokenLease where
  ttl : Int
  renewable : Bool
  deriving DecidableEq, Repr

/-- What `ensure_token` reads of the answer to `_lookup_self`. -/
def lookupLease (fallback : Bool) (res : HttpResponse) : Except VaultFailure TokenLease := do
  let data ← res.part "data"
  let ttl ← intField "ttl" data
  let renewable ← renewableField fallback data
  return { ttl := ttl, renewable := renewable }

/-- What `_renew_self` reads of a response. -/
def renewedLease (fallback : Bool) (res : HttpResponse) : Except VaultFailure TokenLease := do
  let data ← res.part "auth"
  let ttl ← intField "lease_duration" data
  let renewable ← renewableField fallback data
  return { ttl := ttl, renewable := renewable }

/-- `data["sealed"]` of `/v1/sys/seal-status`; `none` for an exception. -/
def sealStatusFlag? (res : HttpResponse) : Option Bool := do
  let data ← if res.content.isEmpty then some (.obj []) else res.json
  let flag ← data.get? "sealed" (.bool true)
  return flag.truthy

/-! ## Requests -/

structure TokenSettings where
  vaultApproleLoginPath : String
  vaultTokenLookupPath : String
  vaultTokenRenewPath : String
  vaultTokenRenewMarginSeconds : Int

/-- The stripped contents of the two credential files. -/
structure Credentials where
  roleId : String
  secretId : String

structure VaultRequest where
  method : String
  path : String
  /-- `X-Vault-Token`. -/
  token : Option Json
  body : Option Credentials

section Requests

variable (settings : TokenSettings)

def loginRequest (credentials : Credentials) : VaultRequest where
  method := "POST"
  path := settings.vaultApproleLoginPath
  token := none
  body := some credentials

def lookupRequest (token : Json) : VaultRequest where
  method := "GET"
  path := settings.vaultTokenLookupPath
  token := some token
  body := none

def renewRequest (token : Json) : VaultRequest where
  method := "POST"
  path := settings.vaultTokenRenewPath
  token := some token
  body := none

end Requests

structure Exchange where
  request : VaultRequest
  reply : Option HttpResponse

/-! ## The client -/

/-- `VaultTokenState`; a token that is `None` is null. -/
structure VaultTokenState where
  token : Json := .null
  renewable : Bool := false
  expireTimeEpoch : Int := 0
  lastError : Option String := none
  vaultSealed : Bool := false

/-- `self._state.token or ""`. -/
def VaultTokenState.tokenOrEmpty (state : VaultTokenState) : Json :=
  if state.token.truthy then state.token else .str ""

/-- What a call waits for. A login is `guarded` inside the `try` around the renewal, where
its exceptions lead to another login. -/
inductive Awaiting where
  | credentials (guarded : Bool)
  | login (credentials : Credentials) (guarded : Bool)
  | lookup (now : Int)
  | renewal

/-- A call that holds the lock: the token that it found and what it said to Vault so far. -/
structure OngoingCall where
  found : Json
  exchanges : List Exchange
  awaiting : Awaiting

/-- A call of `ensure_token` that is over; `left` is the token that the client keeps. -/
structure TokenCall where
  found : Json
  exchanges : List Exchange
  left : Json
  result : Except VaultFailure Json

def OngoingCall.over (call : OngoingCall) (left : Json) (result : Except VaultFailure Json) :
    TokenCall where
  found := call.found
  exchanges := call.exchanges
  left := left
  result := result

structure VaultRun where
  state : VaultTokenState
  holder : Option OngoingCall
  /-- The calls that are over, the last of them first. -/
  calls : List TokenCall
  /-- How often `vault_unsealed_detected` was reported to the audit. -/
  unsealedAudits : Nat

def VaultRun.initial : VaultRun := { state := {}, holder := none, calls := [], unsealedAudits := 0 }

namespace VaultRun

/-- `_mark_sealed`. -/
def markSealed (run : VaultRun) : VaultRun :=
  { run with state := { run.state with vaultSealed := true, lastError := some "vault_sealed" } }

/-- `_mark_success`. -/
def markSuccess (run : VaultRun) : VaultRun :=
  { run with
    state := { run.state with vaultSealed := false }
    unsealedAudits := run.unsealedAudits + if run.state.vaultSealed then 1 else 0 }

/-- The marks that `_request` sets. -/
def receive (run : VaultRun) : Option HttpResponse → VaultRun
  | none => run
  | some res => if isSealedResponse res then run.markSealed else run.markSuccess

def setError (run : VaultRun) (lastError : String) : VaultRun :=
  { run with state := { run.state with lastError := some lastError } }

/-- The assignments after a lookup or a renewal. -/
def setLease (run : VaultRun) (now : Int) (lease : TokenLease) : VaultRun :=
  { run with state := { run.state with
    renewable := lease.renewable, expireTimeEpoch := now + lease.ttl, lastError := none } }

def setGrant (run : VaultRun) (now : Int) (grant : LoginGrant) : VaultRun :=
  { run with state := { run.state with
    token := grant.token, renewable := grant.renewable
    expireTimeEpoch := now + grant.leaseDuration, lastError := none } }

def waitFor (run : VaultRun) (call : OngoingCall) (awaiting : Awaiting) : VaultRun :=
  { run with holder := some { call with awaiting := awaiting } }

/-- The lock is released. -/
def finish (run : VaultRun) (call : OngoingCall) (result : Except VaultFailure Json) : VaultRun :=
  { run with holder := none, calls := call.over run.state.token result :: run.calls }

/-- An exception of `_login_approle`. -/
def loginFailed (run : VaultRun) (call : OngoingCall) (guarded : Bool) (failure : VaultFailure) :
    VaultRun :=
  if guarded ∧ failure ≠ .vaultSealed then
    (run.setError "token_renew_failed").waitFor call (.credentials false)
  else run.finish call (.error failure)

end VaultRun

def OngoingCall.exchange (call : OngoingCall) (request : VaultRequest)
    (reply : Option HttpResponse) : OngoingCall :=
  { call with exchanges := call.exchanges ++ [{ request := request, reply := reply }] }

namespace VaultRun

section Steps

variable (settings : TokenSettings)

/-- The lock is taken: `ensure_token` up to what it waits for first. -/
def ensureToken (run : VaultRun) (now : Int) : VaultRun :=
  { run with holder := some {
      found := run.state.token
      exchanges := []
      awaiting := if run.state.token.truthy then .lookup now else .credentials false } }

def onCredentials (run : VaultRun) (call : OngoingCall) (guarded : Bool) :
    Option Credentials → VaultRun
  | none => run.loginFailed call guarded .credentialFile
  | some credentials => run.waitFor call (.login credentials guarded)

def onLogin (run : VaultRun) (call : OngoingCall) (credentials : Credentials) (guarded : Bool)
    (reply : Option HttpResponse) (now : Int) : VaultRun :=
  let call := call.exchange (loginRequest settings credentials) reply
  match answered reply >>= loginGrant with
  | .error failure => (run.receive reply).loginFailed call guarded failure
  | .ok grant =>
      let run := (run.receive reply).setGrant now grant
      run.finish call (.ok run.state.tokenOrEmpty)

def onLookup (run : VaultRun) (call : OngoingCall) (now : Int) (reply : Option HttpResponse) :
    VaultRun :=
  let call := call.exchange (lookupRequest settings run.state.token) reply
  match answered reply >>= lookupLease run.state.renewable with
  | .error failure =>
      if failure = .vaultSealed then (run.receive reply).finish call (.error failure)
      else ((run.receive reply).setError "token_lookup_failed").waitFor call (.credentials false)
  | .ok lease =>
      let run := (run.receive reply).setLease now lease
      if run.state.expireTimeEpoch - now ≤ settings.vaultTokenRenewMarginSeconds then
        run.waitFor call (if run.state.renewable then .renewal else .credentials true)
      else run.finish call (.ok run.state.tokenOrEmpty)

def onRenewal (run : VaultRun) (call : OngoingCall) (reply : Option HttpResponse) (now : Int) :
    VaultRun :=
  let call := call.exchange (renewRequest settings run.state.token) reply
  match answered reply >>= renewedLease run.state.renewable with
  | .error failure =>
      if failure = .vaultSealed then (run.receive reply).finish call (.error failure)
      else ((run.receive reply).setError "token_renew_failed").waitFor call (.credentials false)
  | .ok lease =>
      let run := (run.receive reply).setLease now lease
      run.finish call (.ok run.state.tokenOrEmpty)

/-- The first part of `get_status`. -/
def onSealStatus (run : VaultRun) (reply : Option HttpResponse) : VaultRun :=
  match reply.bind sealStatusFlag? with
  | none => run.setError "vault_status_unavailable"
  | some true => run.markSealed
  | some false => run.markSuccess

end Steps

end VaultRun

inductive VaultEvent where
  /-- A thread takes the lock of `ensure_token`. -/
  | ensureToken (now : Int)
  /-- The holder of the lock reads the credential files. -/
  | credentials (files : Option Credentials)
  /-- The holder of the lock gets an answer, and reads the clock if it does. -/
  | answer (reply : Option HttpResponse) (now : Int)
  /-- Another request gets its answer. -/
  | otherRequest (reply : Option HttpResponse)
  /-- A call of `get_status` gets the answer to its first request. -/
  | sealStatus (reply : Option HttpResponse)

def vaultStep (settings : TokenSettings) (run : VaultRun) : VaultEvent → Option VaultRun
  | .ensureToken now =>
      match run.holder with
      | none => some (run.ensureToken now)
      | some _ => none
  | .credentials files =>
      run.holder.bind fun call =>
        match call.awaiting with
        | .credentials guarded => some (run.onCredentials call guarded files)
        | _ => none
  | .answer reply now =>
      run.holder.bind fun call =>
        match call.awaiting with
        | .credentials _ => none
        | .login credentials guarded =>
            some (run.onLogin settings call credentials guarded reply now)
        | .lookup start => some (run.onLookup settings call start reply)
        | .renewal => some (run.onRenewal settings call reply now)
  | .otherRequest reply => some (run.receive reply)
  | .sealStatus reply => some (run.onSealStatus reply)

/-! ## Sealed answers -/

/-- Vault said that it is sealed. -/
def Exchange.Sealed (exchange : Exchange) : Prop :=
  answered exchange.reply = .error .vaultSealed

theorem part_ne_sealed (key : String) (res : HttpResponse) :
    res.part key ≠ .error .vaultSealed := by
  simp [HttpResponse.part, Fallible.bind_eq_error, Fallible.check_eq_error,
    Fallible.orRaise_eq_error]

theorem intField_ne_sealed (key : String) (data : Json) :
    intField key data ≠ .error .vaultSealed := by
  simp [intField, Fallible.orRaise_eq_error]

theorem renewableField_ne_sealed (fallback : Bool) (data : Json) :
    renewableField fallback data ≠ .error .vaultSealed := by
  rw [renewableField]
  cases data.get? "renewable" (.bool fallback) <;> simp [Fallible.orRaise, Except.map]

theorem loginGrant_ne_sealed (res : HttpResponse) : loginGrant res ≠ .error .vaultSealed := by
  simp [loginGrant, Fallible.bind_eq_error, Fallible.check_eq_error, Fallible.orRaise_eq_error,
    part_ne_sealed, intField_ne_sealed, renewableField_ne_sealed, pure, Except.pure]

theorem lookupLease_ne_sealed (fallback : Bool) (res : HttpResponse) :
    lookupLease fallback res ≠ .error .vaultSealed := by
  simp [lookupLease, Fallible.bind_eq_error, part_ne_sealed, intField_ne_sealed,
    renewableField_ne_sealed, pure, Except.pure]

theorem renewedLease_ne_sealed (fallback : Bool) (res : HttpResponse) :
    renewedLease fallback res ≠ .error .vaultSealed := by
  simp [renewedLease, Fallible.bind_eq_error, part_ne_sealed, intField_ne_sealed,
    renewableField_ne_sealed, pure, Except.pure]

/-- What reads a response cannot find that Vault is sealed. -/
theorem bind_eq_sealed {Value : Type} {reply : Option HttpResponse}
    {read : HttpResponse → Except VaultFailure Value}
    (never : ∀ res, read res ≠ .error .vaultSealed) :
    (answered reply >>= read) = .error .vaultSealed ↔ answered reply = .error .vaultSealed := by
  simp [Fallible.bind_eq_error, never]

theorem not_sealed_of_bind {Value : Type} {reply : Option HttpResponse}
    {read : HttpResponse → Except VaultFailure Value} {value : Value}
    (succeeded : (answered reply >>= read) = .ok value) :
    answered reply ≠ .error .vaultSealed := by
  obtain ⟨res, got, -⟩ := Fallible.bind_eq_ok.mp succeeded
  simp [got]

/-! ## What a call may end with -/

section Calls

variable (settings : TokenSettings)

/-- A login answered with the token. -/
def Exchange.Grants (exchange : Exchange) (token : Json) : Prop :=
  ∃ credentials grant, exchange.request = loginRequest settings credentials ∧
    (answered exchange.reply >>= loginGrant) = .ok grant ∧ grant.token = token

/-- The requests of one call show that Vault takes the token: a login has just returned it,
or a lookup has found it alive for longer than the margin, or it has been renewed after a
lookup that found less. -/
inductive Vouched : List Exchange → Json → Prop where
  | login {before : List Exchange} {exchange : Exchange} {token : Json}
      (granted : exchange.Grants settings token) : Vouched (before ++ [exchange]) token
  | lookup {reply : Option HttpResponse} {fallback : Bool} {lease : TokenLease} {token : Json}
      (accepted : (answered reply >>= lookupLease fallback) = .ok lease)
      (enough : settings.vaultTokenRenewMarginSeconds < lease.ttl) :
      Vouched [⟨lookupRequest settings token, reply⟩] token
  | renewal {first second : Option HttpResponse} {fallback : Bool} {lease renewed : TokenLease}
      {token : Json} (accepted : (answered first >>= lookupLease fallback) = .ok lease)
      (short : lease.ttl ≤ settings.vaultTokenRenewMarginSeconds) (able : lease.renewable = true)
      (extended : (answered second >>= renewedLease true) = .ok renewed) :
      Vouched [⟨lookupRequest settings token, first⟩, ⟨renewRequest settings token, second⟩]
        token

/-- What holds of a call when it is over. -/
structure TokenCall.Sound (call : TokenCall) : Prop where
  vouched : ∀ token, call.result = .ok token →
    token.truthy = true ∧ Vouched settings call.exchanges token ∧ call.left = token
  failed : ∀ failure, call.result = .error failure → call.left = call.found
  sealed_iff : call.result = .error .vaultSealed ↔
    ∃ last, call.exchanges.getLast? = some last ∧ last.Sealed
  unsealedBefore : ∀ exchange ∈ call.exchanges.dropLast, ¬exchange.Sealed
  few : call.exchanges.length ≤ 3

def TokenCall.Granted (call : TokenCall) (token : Json) : Prop :=
  ∃ exchange ∈ call.exchanges, exchange.Grants settings token

/-- What has happened when a call waits. -/
def Awaiting.Fits (exchanges : List Exchange) (token : Json) : Awaiting → Prop
  | .credentials guarded | .login _ guarded => exchanges.length + guarded.toNat ≤ 2
  | .lookup _ => token.truthy = true ∧ exchanges = []
  | .renewal => token.truthy = true ∧ ∃ reply fallback lease,
      exchanges = [⟨lookupRequest settings token, reply⟩] ∧
        (answered reply >>= lookupLease fallback) = .ok lease ∧
        lease.ttl ≤ settings.vaultTokenRenewMarginSeconds ∧ lease.renewable = true

structure OngoingCall.Fits (call : OngoingCall) (state : VaultTokenState) : Prop where
  found : call.found = state.token
  unsealed : ∀ exchange ∈ call.exchanges, ¬exchange.Sealed
  awaiting : call.awaiting.Fits settings call.exchanges state.token
  lease : call.awaiting = .renewal → state.renewable = true

end Calls

variable {settings : TokenSettings}

/-- A call that ends with an answer. -/
theorem TokenCall.sound_of_answer {found left : Json} {before : List Exchange}
    {last : Exchange} {result : Except VaultFailure Json}
    (unsealed : ∀ exchange ∈ before, ¬exchange.Sealed) (few : before.length ≤ 2)
    (isSealed : result = .error .vaultSealed ↔ last.Sealed)
    (vouched : ∀ token, result = .ok token →
      token.truthy = true ∧ Vouched settings (before ++ [last]) token ∧ left = token)
    (failed : ∀ failure, result = .error failure → left = found) :
    TokenCall.Sound settings
      { found := found, exchanges := before ++ [last], left := left, result := result } where
  vouched := vouched
  failed := failed
  sealed_iff := by simpa using isSealed
  unsealedBefore := by simpa using unsealed
  few := by
    have counted : (before ++ [last]).length ≤ 3 := by
      rw [List.length_append, List.length_singleton]
      omega
    exact counted

/-- A call that ends without its login request. -/
theorem TokenCall.sound_of_credentialFile {found : Json} {exchanges : List Exchange}
    (unsealed : ∀ exchange ∈ exchanges, ¬exchange.Sealed) (few : exchanges.length ≤ 2) :
    TokenCall.Sound settings
      { found := found, exchanges := exchanges, left := found
        result := .error .credentialFile } where
  vouched := by simp
  failed := by simp
  sealed_iff := by
    simp only [Except.error.injEq, reduceCtorEq, false_iff, not_exists, not_and]
    intro last isLast
    exact unsealed last (List.mem_of_getLast? isLast)
  unsealedBefore := by
    intro exchange member
    exact unsealed exchange (List.dropLast_subset exchanges member)
  few := by
    have counted := few
    simp only
    omega

/-! ## Every run -/

namespace VaultRun

section Frame

variable (run : VaultRun) (reply : Option HttpResponse)

@[simp] theorem receive_token : (run.receive reply).state.token = run.state.token := by
  cases reply with
  | none => rfl
  | some res => rw [receive]; split <;> rfl

@[simp] theorem receive_renewable :
    (run.receive reply).state.renewable = run.state.renewable := by
  cases reply with
  | none => rfl
  | some res => rw [receive]; split <;> rfl

@[simp] theorem receive_holder : (run.receive reply).holder = run.holder := by
  cases reply with
  | none => rfl
  | some res => rw [receive]; split <;> rfl

@[simp] theorem receive_calls : (run.receive reply).calls = run.calls := by
  cases reply with
  | none => rfl
  | some res => rw [receive]; split <;> rfl

end Frame

variable (settings) in
/-- Every call that is over is sound, and what it returned was granted by a login of the
run; so was the token that the client has. -/
structure Kept (run : VaultRun) : Prop where
  ended : ∀ call ∈ run.calls, call.Sound settings
  returned : ∀ call ∈ run.calls, ∀ token, call.result = .ok token →
    ∃ granting ∈ run.calls, granting.Granted settings token
  origin : run.state.token.truthy = true →
    ∃ granting ∈ run.calls, granting.Granted settings run.state.token
  underWay : ∀ call, run.holder = some call → call.Fits settings run.state

theorem Kept.initial : VaultRun.initial.Kept settings where
  ended := by simp [VaultRun.initial]
  returned := by simp [VaultRun.initial]
  origin := by simp [VaultRun.initial, Json.truthy]
  underWay := by simp [VaultRun.initial]

/-- Only the token, its lease, the holder of the lock and the calls count. -/
theorem Kept.congr {run next : VaultRun} (kept : run.Kept settings)
    (token : next.state.token = run.state.token)
    (renewable : next.state.renewable = run.state.renewable)
    (holder : next.holder = run.holder) (calls : next.calls = run.calls) :
    next.Kept settings where
  ended := by simpa [calls] using kept.ended
  returned := by simpa [calls] using kept.returned
  origin := by simpa [calls, token] using kept.origin
  underWay := by
    intro call holds
    have fits := kept.underWay call (holder ▸ holds)
    exact ⟨fits.found.trans token.symm, fits.unsealed, token ▸ fits.awaiting,
      fun waits => renewable.trans (fits.lease waits)⟩

theorem Kept.receive {run : VaultRun} (kept : run.Kept settings) (reply : Option HttpResponse) :
    (run.receive reply).Kept settings :=
  kept.congr (by simp) (by simp) (by simp) (by simp)

/-- The holder goes on to what it waits for next. -/
theorem Kept.goOn {run next : VaultRun} (kept : run.Kept settings)
    (token : next.state.token = run.state.token) (calls : next.calls = run.calls)
    {call : OngoingCall} (holder : next.holder = some call)
    (fits : call.Fits settings next.state) : next.Kept settings where
  ended := by simpa [calls] using kept.ended
  returned := by simpa [calls] using kept.returned
  origin := by simpa [calls, token] using kept.origin
  underWay := by
    intro other holds
    cases holder.symm.trans holds
    exact fits

/-- The holder is done. -/
theorem Kept.finish {run next : VaultRun} (kept : run.Kept settings)
    (calls : next.calls = run.calls) {call : OngoingCall} {result : Except VaultFailure Json}
    (sound : (call.over next.state.token result).Sound settings)
    (origin : next.state.token.truthy = true →
      next.state.token = run.state.token ∨
        ∃ exchange ∈ call.exchanges, exchange.Grants settings next.state.token) :
    (next.finish call result).Kept settings := by
  have fromLogin : next.state.token.truthy = true →
      ∃ granting ∈ (next.finish call result).calls,
        granting.Granted settings next.state.token := by
    intro truthy
    rcases origin truthy with same | granted
    · rw [same] at truthy ⊢
      obtain ⟨granting, member, grants⟩ := kept.origin truthy
      refine ⟨granting, ?_, grants⟩
      simp [VaultRun.finish, calls, member]
    · exact ⟨_, List.mem_cons_self, granted⟩
  refine ⟨?_, ?_, fromLogin, ?_⟩
  · intro ended member
    rcases List.mem_cons.mp member with rfl | earlier
    · exact sound
    · exact kept.ended ended (calls ▸ earlier)
  · intro ended member token isToken
    rcases List.mem_cons.mp member with rfl | earlier
    · obtain ⟨truthy, -, left⟩ := sound.vouched token isToken
      rw [← left] at truthy ⊢
      exact fromLogin truthy
    · obtain ⟨granting, listed, grants⟩ :=
        kept.returned ended (calls ▸ earlier) token isToken
      refine ⟨granting, ?_, grants⟩
      simp [VaultRun.finish, calls, listed]
  · intro other holds
    cases holds

theorem Kept.ensureToken {run : VaultRun} (kept : run.Kept settings) (now : Int) :
    (run.ensureToken now).Kept settings := by
  have fits : OngoingCall.Fits settings
      { found := run.state.token
        exchanges := []
        awaiting := if run.state.token.truthy then .lookup now else .credentials false }
      run.state := by
    by_cases truthy : run.state.token.truthy = true
    · exact ⟨rfl, by simp, by simp [truthy, Awaiting.Fits], by simp [truthy]⟩
    · exact ⟨rfl, by simp, by simp [truthy, Awaiting.Fits], by simp [truthy]⟩
  exact kept.goOn rfl rfl rfl fits

section Holder

variable {run : VaultRun} {call : OngoingCall}

theorem Kept.onCredentials (kept : run.Kept settings) (holds : run.holder = some call)
    {guarded : Bool} (waits : call.awaiting = .credentials guarded)
    (files : Option Credentials) : (run.onCredentials call guarded files).Kept settings := by
  obtain ⟨found, unsealed, few, -⟩ := kept.underWay call holds
  rw [waits] at few
  simp only [Awaiting.Fits] at few
  cases files with
  | some credentials =>
      have fits : OngoingCall.Fits settings
          { call with awaiting := .login credentials guarded } run.state :=
        ⟨found, unsealed, few, by simp⟩
      exact kept.goOn rfl rfl rfl fits
  | none =>
      rw [VaultRun.onCredentials, loginFailed]
      cases guarded with
      | true =>
          have fits : OngoingCall.Fits settings { call with awaiting := .credentials false }
              (run.setError "token_renew_failed").state :=
            ⟨found, unsealed, Nat.le_of_succ_le few, by simp⟩
          rw [if_pos (by simp)]
          exact kept.goOn rfl rfl rfl fits
      | false =>
          rw [if_neg (by simp)]
          refine kept.finish rfl ?_ fun _ => Or.inl rfl
          rw [OngoingCall.over, ← found]
          exact TokenCall.sound_of_credentialFile unsealed few

/-- An exception of a request ends the call. -/
theorem Kept.failRequest (kept : run.Kept settings) (holds : run.holder = some call)
    (few : call.exchanges.length ≤ 2) (request : VaultRequest) {reply : Option HttpResponse}
    {failure : VaultFailure}
    (isSealed : failure = .vaultSealed ↔ answered reply = .error .vaultSealed) :
    ((run.receive reply).finish (call.exchange request reply) (.error failure)).Kept
      settings := by
  obtain ⟨found, unsealed, -, -⟩ := kept.underWay call holds
  refine kept.finish (by simp) ?_ fun _ => Or.inl (by simp)
  refine TokenCall.sound_of_answer unsealed few ?_ (by simp) ?_
  · simpa [Exchange.Sealed] using isSealed
  · intro _ _
    simp [OngoingCall.exchange, found]

/-- An exception of a request leads to a login. -/
theorem Kept.loginAfter (kept : run.Kept settings) (holds : run.holder = some call)
    (few : call.exchanges.length ≤ 1) (request : VaultRequest) {reply : Option HttpResponse}
    (notSealed : answered reply ≠ .error .vaultSealed) (lastError : String) :
    (((run.receive reply).setError lastError).waitFor (call.exchange request reply)
      (.credentials false)).Kept settings := by
  obtain ⟨found, unsealed, -, -⟩ := kept.underWay call holds
  have fits : OngoingCall.Fits settings
      { call.exchange request reply with awaiting := .credentials false }
      ((run.receive reply).setError lastError).state := by
    refine ⟨by simpa [setError, OngoingCall.exchange] using found, ?_, ?_, by simp⟩
    · intro exchange member
      rcases List.mem_append.mp member with earlier | new
      · exact unsealed exchange earlier
      · cases List.mem_singleton.mp new
        exact notSealed
    · simp only [OngoingCall.exchange, Awaiting.Fits, List.length_append, List.length_cons,
        List.length_nil, Bool.toNat_false]
      omega
  exact kept.goOn (by simp [setError, VaultRun.waitFor])
    (by simp [setError, VaultRun.waitFor]) rfl fits

theorem loginGrant_truthy {res : HttpResponse} {grant : LoginGrant}
    (reads : loginGrant res = .ok grant) : grant.token.truthy = true := by
  simp only [loginGrant, Fallible.bind_eq_ok, Fallible.check_eq_ok] at reads
  obtain ⟨data, -, token, -, done, truthy, lease, -, able, -, same⟩ := reads
  cases same
  exact truthy

theorem Kept.onLogin (kept : run.Kept settings) (holds : run.holder = some call)
    {credentials : Credentials} {guarded : Bool}
    (waits : call.awaiting = .login credentials guarded) (reply : Option HttpResponse)
    (now : Int) : (run.onLogin settings call credentials guarded reply now).Kept settings := by
  obtain ⟨found, unsealed, few, -⟩ := kept.underWay call holds
  rw [waits] at few
  simp only [Awaiting.Fits] at few
  rw [VaultRun.onLogin]
  cases read : answered reply >>= loginGrant with
  | ok grant =>
      obtain ⟨res, -, reads⟩ := Fallible.bind_eq_ok.mp read
      have truthy := loginGrant_truthy reads
      have grants : Exchange.Grants settings ⟨loginRequest settings credentials, reply⟩
          grant.token := ⟨credentials, grant, rfl, read, rfl⟩
      refine kept.finish (by simp [setGrant]) ?_ fun _ => Or.inr ⟨_, ?_, grants⟩
      · refine TokenCall.sound_of_answer unsealed (by omega) ?_ ?_ (by simp)
        · simpa [Exchange.Sealed] using not_sealed_of_bind read
        · intro token returned
          have same : grant.token = token := by
            simpa [setGrant, VaultTokenState.tokenOrEmpty, truthy] using returned
          subst same
          exact ⟨truthy, .login grants, rfl⟩
      · simp [OngoingCall.exchange]
  | error failure =>
      have isSealed : failure = .vaultSealed ↔ answered reply = .error .vaultSealed := by
        rw [← bind_eq_sealed loginGrant_ne_sealed, read, Except.error.injEq]
      simp only [loginFailed]
      by_cases again : guarded = true ∧ failure ≠ .vaultSealed
      · obtain ⟨isGuarded, other⟩ := again
        rw [if_pos ⟨isGuarded, other⟩]
        rw [isGuarded] at few
        exact kept.loginAfter holds (Nat.le_of_succ_le_succ few) _
          (fun sealed => other (isSealed.mpr sealed)) _
      · rw [if_neg again]
        exact kept.failRequest holds (by omega) _ isSealed

theorem Kept.onLookup (kept : run.Kept settings) (holds : run.holder = some call) {now : Int}
    (waits : call.awaiting = .lookup now) (reply : Option HttpResponse) :
    (run.onLookup settings call now reply).Kept settings := by
  obtain ⟨found, unsealed, first, -⟩ := kept.underWay call holds
  rw [waits] at first
  obtain ⟨truthy, none⟩ := first
  rw [VaultRun.onLookup]
  cases read : answered reply >>= lookupLease run.state.renewable with
  | error failure =>
      have isSealed : failure = .vaultSealed ↔ answered reply = .error .vaultSealed := by
        rw [← bind_eq_sealed (lookupLease_ne_sealed run.state.renewable), read,
          Except.error.injEq]
      by_cases ends : failure = .vaultSealed
      · simp only [if_pos ends]
        exact kept.failRequest holds (by simp [none]) _ isSealed
      · simp only [if_neg ends]
        exact kept.loginAfter holds (by simp [none]) _ (fun sealed => ends (isSealed.mpr sealed)) _
  | ok lease =>
      have unsealedNow := not_sealed_of_bind read
      have left : ((run.receive reply).setLease now lease).state.expireTimeEpoch - now =
          lease.ttl := by
        have added : now + lease.ttl - now = lease.ttl := by omega
        exact added
      simp only [left]
      by_cases short : lease.ttl ≤ settings.vaultTokenRenewMarginSeconds
      · rw [if_pos short]
        have fits : OngoingCall.Fits settings
            { call.exchange (lookupRequest settings run.state.token) reply with
              awaiting := if lease.renewable then .renewal else .credentials true }
            ((run.receive reply).setLease now lease).state := by
          refine ⟨by simpa [setLease, OngoingCall.exchange] using found, ?_, ?_, ?_⟩
          · simpa [OngoingCall.exchange, none, Exchange.Sealed] using unsealedNow
          · by_cases able : lease.renewable = true
            · rw [if_pos able]
              refine ⟨by simpa [setLease] using truthy, reply, run.state.renewable, lease, ?_,
                read, short, able⟩
              simp [OngoingCall.exchange, none, setLease]
            · simp [able, Awaiting.Fits, OngoingCall.exchange, none]
          · by_cases able : lease.renewable = true <;> simp [able, setLease]
        exact kept.goOn (by simp [setLease, VaultRun.waitFor])
          (by simp [setLease, VaultRun.waitFor]) rfl fits
      · rw [if_neg short]
        refine kept.finish (by simp [setLease]) ?_ fun _ => Or.inl (by simp [setLease])
        refine TokenCall.sound_of_answer unsealed (by simp [none]) ?_ ?_ (by simp)
        · simpa [Exchange.Sealed] using unsealedNow
        · intro token returned
          have same : run.state.token = token := by
            simpa [setLease, VaultTokenState.tokenOrEmpty, truthy] using returned
          subst same
          refine ⟨truthy, ?_, by simp [setLease]⟩
          rw [none]
          exact .lookup read (not_le.mp short)

theorem Kept.onRenewal (kept : run.Kept settings) (holds : run.holder = some call)
    (waits : call.awaiting = .renewal) (reply : Option HttpResponse) (now : Int) :
    (run.onRenewal settings call reply now).Kept settings := by
  obtain ⟨found, unsealed, looked, able⟩ := kept.underWay call holds
  rw [waits] at looked
  obtain ⟨truthy, first, fallback, lease, one, accepted, short, renewable⟩ := looked
  have length : call.exchanges.length = 1 := by rw [one]; rfl
  rw [VaultRun.onRenewal]
  cases read : answered reply >>= renewedLease run.state.renewable with
  | error failure =>
      have isSealed : failure = .vaultSealed ↔ answered reply = .error .vaultSealed := by
        rw [← bind_eq_sealed (renewedLease_ne_sealed run.state.renewable), read,
          Except.error.injEq]
      by_cases ends : failure = .vaultSealed
      · simp only [if_pos ends]
        exact kept.failRequest holds (by omega) _ isSealed
      · simp only [if_neg ends]
        exact kept.loginAfter holds (by omega) _ (fun sealed => ends (isSealed.mpr sealed)) _
  | ok renewed =>
      refine kept.finish (by simp [setLease]) ?_ fun _ => Or.inl (by simp [setLease])
      refine TokenCall.sound_of_answer unsealed (by omega) ?_ ?_ (by simp)
      · simpa [Exchange.Sealed] using not_sealed_of_bind read
      · intro token returned
        have same : run.state.token = token := by
          simpa [setLease, VaultTokenState.tokenOrEmpty, truthy] using returned
        subst same
        refine ⟨truthy, ?_, by simp [setLease]⟩
        rw [one]
        rw [able waits] at read
        exact .renewal accepted short renewable read

end Holder

theorem Kept.step {run next : VaultRun} {event : VaultEvent} (kept : run.Kept settings)
    (stepped : vaultStep settings run event = some next) : next.Kept settings := by
  cases event with
  | ensureToken now =>
      cases holder : run.holder with
      | some call => simp [vaultStep, holder] at stepped
      | none =>
          simp only [vaultStep, holder, Option.some.injEq] at stepped
          exact stepped ▸ kept.ensureToken now
  | credentials files =>
      obtain ⟨call, holds, stepped⟩ := Option.bind_eq_some_iff.mp stepped
      cases waits : call.awaiting with
      | credentials guarded =>
          simp only [waits, Option.some.injEq] at stepped
          exact stepped ▸ kept.onCredentials holds waits files
      | _ => simp [waits] at stepped
  | answer reply now =>
      obtain ⟨call, holds, stepped⟩ := Option.bind_eq_some_iff.mp stepped
      cases waits : call.awaiting with
      | credentials guarded => simp [waits] at stepped
      | login credentials guarded =>
          simp only [waits, Option.some.injEq] at stepped
          exact stepped ▸ kept.onLogin holds waits reply now
      | lookup start =>
          simp only [waits, Option.some.injEq] at stepped
          exact stepped ▸ kept.onLookup holds waits reply
      | renewal =>
          simp only [waits, Option.some.injEq] at stepped
          exact stepped ▸ kept.onRenewal holds waits reply now
  | otherRequest reply =>
      cases stepped
      exact kept.receive reply
  | sealStatus reply =>
      cases stepped
      rw [onSealStatus]
      split
      · exact kept.congr rfl rfl rfl rfl
      · exact kept.congr rfl rfl rfl rfl
      · exact kept.congr rfl rfl rfl rfl

theorem Kept.of_run {run : VaultRun} {events : List VaultEvent}
    (reached : Transition.run (vaultStep settings) .initial events = some run) :
    run.Kept settings :=
  Transition.run_invariant (fun _ _ _ kept stepped => Kept.step kept stepped) Kept.initial reached

end VaultRun

/-- Whatever other threads ask in between, a token that `ensure_token` returns is not empty,
the requests of that very call show that Vault takes it, and a login of the run gave it. -/
theorem ensureToken_vouched {run : VaultRun} {events : List VaultEvent}
    (reached : Transition.run (vaultStep settings) .initial events = some run)
    {call : TokenCall} (ended : call ∈ run.calls) {token : Json}
    (returned : call.result = .ok token) :
    token.truthy = true ∧ Vouched settings call.exchanges token ∧
      ∃ granting ∈ run.calls, granting.Granted settings token := by
  have kept := VaultRun.Kept.of_run reached
  obtain ⟨truthy, vouched, -⟩ := (kept.ended call ended).vouched token returned
  exact ⟨truthy, vouched, kept.returned call ended token returned⟩

/-- A login, and a second call that looks the token up and renews it. -/
def renewalEvents : List VaultEvent :=
  let response (fields : List (String × Json)) : Option HttpResponse :=
    some { statusCode := 200, content := [], text := "", json := some (.obj fields) }
  [.ensureToken 0, .credentials (some ⟨"gds", "secret"⟩),
    .answer (response [("auth", .obj [("client_token", .str "s.1"),
      ("lease_duration", .int 3600), ("renewable", .bool true)])]) 1,
    .otherRequest none, .ensureToken 3500,
    .answer (response [("data", .obj [("ttl", .int 101), ("renewable", .bool true)])]) 3501,
    .otherRequest (some { statusCode := 503, content := [], text := "", json := none }),
    .answer (response [("auth", .obj [("lease_duration", .int 3600)])]) 3502]

def renewalSettings : TokenSettings := ⟨"/login", "/lookup", "/renew", 300⟩

theorem renewalEvents_run : ∃ run call,
    Transition.run (vaultStep renewalSettings) .initial renewalEvents = some run ∧
      run.unsealedAudits = 1 ∧ call ∈ run.calls ∧ call.exchanges.length = 2 ∧
      call.result = .ok (.str "s.1") := ⟨_, _, rfl, rfl, List.mem_cons_self, rfl, rfl⟩

theorem ensureToken_vouched_renewal : ∃ run call,
    Transition.run (vaultStep renewalSettings) .initial renewalEvents = some run ∧
      call ∈ run.calls ∧ call.exchanges.length = 2 ∧ Json.truthy (.str "s.1") = true ∧
      Vouched renewalSettings call.exchanges (.str "s.1") ∧
      ∃ granting ∈ run.calls, granting.Granted renewalSettings (.str "s.1") := by
  obtain ⟨run, call, reached, -, ended, two, returned⟩ := renewalEvents_run
  exact ⟨run, call, reached, ended, two, ensureToken_vouched reached ended returned⟩

/-- What an answer says of the seal. -/
def VaultEvent.verdict? : VaultEvent → Option Bool
  | .answer reply _ | .otherRequest reply => reply.map isSealedResponse
  | .sealStatus reply => reply.bind sealStatusFlag?
  | .ensureToken _ | .credentials _ => none

/-- How often a sealed Vault is found unsealed. -/
def unsealings : Bool → List Bool → Nat
  | _, [] => 0
  | before, verdict :: rest => (if before && !verdict then 1 else 0) + unsealings verdict rest

namespace VaultRun

/-- The seal flag and the count of its audits. -/
def sealing (run : VaultRun) : Bool × Nat := (run.state.vaultSealed, run.unsealedAudits)

/-- The seal after what an answer said. -/
def sealAfter (before : Bool × Nat) : Option Bool → Bool × Nat
  | none => before
  | some verdict => (verdict, before.2 + if before.1 && !verdict then 1 else 0)

theorem seal_markSealed (run : VaultRun) :
    run.markSealed.sealing = sealAfter run.sealing (some true) := by
  simp [markSealed, sealing, sealAfter]

theorem seal_markSuccess (run : VaultRun) :
    run.markSuccess.sealing = sealAfter run.sealing (some false) := by
  simp [markSuccess, sealing, sealAfter]

theorem seal_receive (run : VaultRun) (reply : Option HttpResponse) :
    (run.receive reply).sealing = sealAfter run.sealing (reply.map isSealedResponse) := by
  cases reply with
  | none => rfl
  | some res =>
      rw [receive, Option.map_some]
      split
      case isTrue isSealed => rw [isSealed, seal_markSealed]
      case isFalse unsealed => rw [Bool.not_eq_true] at unsealed; rw [unsealed, seal_markSuccess]

theorem seal_loginFailed (run : VaultRun) (call : OngoingCall) (guarded : Bool)
    (failure : VaultFailure) : (run.loginFailed call guarded failure).sealing = run.sealing := by
  rw [loginFailed]
  split <;> rfl

theorem seal_step {run next : VaultRun} {event : VaultEvent}
    (stepped : vaultStep settings run event = some next) :
    next.sealing = sealAfter run.sealing event.verdict? := by
  cases event with
  | ensureToken now =>
      cases holder : run.holder with
      | some call => simp [vaultStep, holder] at stepped
      | none =>
          simp only [vaultStep, holder, Option.some.injEq] at stepped
          exact stepped ▸ rfl
  | credentials files =>
      obtain ⟨call, -, stepped⟩ := Option.bind_eq_some_iff.mp stepped
      cases waits : call.awaiting with
      | credentials guarded =>
          simp only [waits, Option.some.injEq] at stepped
          subst stepped
          cases files with
          | none => exact seal_loginFailed run call guarded _
          | some credentials => rfl
      | _ => simp [waits] at stepped
  | answer reply now =>
      obtain ⟨call, -, stepped⟩ := Option.bind_eq_some_iff.mp stepped
      have received : next.sealing = (run.receive reply).sealing := by
        cases waits : call.awaiting with
        | credentials guarded => simp [waits] at stepped
        | login credentials guarded =>
            simp only [waits, Option.some.injEq] at stepped
            subst stepped
            rw [onLogin]
            split
            · exact seal_loginFailed _ _ guarded _
            · rfl
        | lookup start =>
            simp only [waits, Option.some.injEq] at stepped
            subst stepped
            simp only [onLookup]
            split
            · split <;> rfl
            · split <;> rfl
        | renewal =>
            simp only [waits, Option.some.injEq] at stepped
            subst stepped
            simp only [onRenewal]
            split
            · split <;> rfl
            · rfl
      exact received.trans (seal_receive run reply)
  | otherRequest reply =>
      cases stepped
      exact seal_receive run reply
  | sealStatus reply =>
      cases stepped
      rw [onSealStatus, VaultEvent.verdict?]
      split
      case h_1 none => rw [none]; rfl
      case h_2 isSealed => rw [isSealed, seal_markSealed]
      case h_3 unsealed => rw [unsealed, seal_markSuccess]

theorem seal_run {run final : VaultRun} {events : List VaultEvent}
    (reached : Transition.run (vaultStep settings) run events = some final) :
    final.sealing = ((events.filterMap VaultEvent.verdict?).getLast?.getD run.sealing.1,
      run.sealing.2 + unsealings run.sealing.1 (events.filterMap VaultEvent.verdict?)) := by
  induction events generalizing run with
  | nil =>
      cases reached
      rfl
  | cons event events ih =>
      obtain ⟨next, stepped, rest⟩ := Transition.run_cons_eq_some.mp reached
      rw [ih rest, seal_step stepped, List.filterMap_cons]
      cases event.verdict? with
      | none => rfl
      | some verdict =>
          simp only [sealAfter, unsealings, List.getLast?_cons, Option.getD_some]
          rw [Nat.add_assoc]

end VaultRun

end OpcuaGds.Gds.Vault
