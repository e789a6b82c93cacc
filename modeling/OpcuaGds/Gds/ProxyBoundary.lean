import OpcuaGds.Gds.AgentAuth

/-! # The boundary to the proxy

The middleware that tells requests of the TLS proxy from others by the proxy's secret, and the
check with which the handlers for agents begin. Both read the client certificate headers.
-/

namespace OpcuaGds.Gds

/-! ## Headers -/

/-- A request as the middleware sees it. -/
structure HttpRequest where
  path : String
  peer : String
  headers : List (String × String)

/-- The client certificate headers that hold texts. -/
def identityHeaders : List String :=
  ["X-Client-Cert-Verify", "X-Client-Cert-Subject", "X-Client-Cert-Issuer",
    "X-Client-Cert-Serial", "X-Client-Cert-Fingerprint", "X-Client-Cert-Not-Before",
    "X-Client-Cert-Not-After"]

def daysRemainingHeader : String := "X-Client-Cert-Days-Remaining"

namespace HttpRequest

variable (request : HttpRequest)

/-- `request.headers.get(name, "")`: the first header of the name, in any case. -/
def rawHeader (name : String) : String :=
  ((request.headers.find? fun entry =>
    PythonText.lower entry.1 = PythonText.lower name).map Prod.snd).getD ""

def header (name : String) : String := PythonText.strip (request.rawHeader name)

def forwardedProto : String := PythonText.lower (request.header "X-Forwarded-Proto")

/-- The request as the authorization of agents sees it. -/
def agentRequest : AgentRequest where
  forwardedProto := request.rawHeader "X-Forwarded-Proto"
  clientCertVerify := request.rawHeader "X-Client-Cert-Verify"
  agentId := request.rawHeader "X-GDS-Agent-ID"
  agentToken := request.rawHeader "X-GDS-Agent-Token"

end HttpRequest

/-- `str.isdigit` in the characters of a header. -/
def isDigitText (chars : List Char) : Bool :=
  !chars.isEmpty && chars.all fun c => c.isDigit || c == '²' || c == '³' || c == '¹'

/-- `header_value.strip().lstrip("-").isdigit()`. -/
def looksNumeric (headerValue : String) : Bool :=
  isDigitText ((PythonText.strip headerValue).toList.dropWhile fun c => c == '-')

/-- `_client_cert_header_details`. -/
structure ClientCertDetails where
  verify : String
  subject : String
  issuer : String
  serial : String
  fingerprint : String
  notBefore : String
  notAfter : String
  daysRemaining : Option Int

section Boundary

-- The secret of the settings, and the days until a date of a header, by the clock.
variable (internalProxySecret : String) (daysUntil : String → Option Int)

/-- `_cert_days_remaining`; `none` where `int` raises. -/
def certDaysRemaining (notAfterValue headerValue : String) : Option (Option Int) :=
  if looksNumeric headerValue then (PythonText.readInt headerValue).map some
  else some (if notAfterValue = "" then none else daysUntil notAfterValue)

def clientCertHeaderDetails (request : HttpRequest) : Option ClientCertDetails := do
  let notAfter := request.header "X-Client-Cert-Not-After"
  let daysRemaining ←
    certDaysRemaining daysUntil notAfter (request.header daysRemainingHeader)
  some {
    verify := request.header "X-Client-Cert-Verify"
    subject := request.header "X-Client-Cert-Subject"
    issuer := request.header "X-Client-Cert-Issuer"
    serial := request.header "X-Client-Cert-Serial"
    fingerprint := request.header "X-Client-Cert-Fingerprint"
    notBefore := request.header "X-Client-Cert-Not-Before"
    notAfter := notAfter
    daysRemaining := daysRemaining }

/-- `_has_client_cert_headers`, from the details. -/
def ClientCertDetails.hasHeaders (details : ClientCertDetails) : Bool :=
  [details.verify, details.subject, details.issuer, details.serial, details.fingerprint,
    details.notBefore, details.notAfter].any (· != "") || details.daysRemaining.any (· != 0)

/-- `_internal_proxy_proof_ok`. -/
def internalProxyProofOk (request : HttpRequest) : Bool :=
  internalProxySecret != "" && request.header "X-GDS-Internal-Proxy" == internalProxySecret

/-- `enforce_mtls_header_boundary` up to `call_next`. -/
def enforceMtlsHeaderBoundary (request : HttpRequest) : Except Refusal Unit := do
  let details ← Fallible.orRaise .raised (clientCertHeaderDetails daysUntil request)
  if request.path = "/internal/health" then
    -- this answer has no error code
    refuseUnless (request.peer ∈ ["127.0.0.1", "::1"]) 404 ""
  else do
    refuseUnless (details.hasHeaders = true ∨ request.forwardedProto = "https" →
      internalProxyProofOk internalProxySecret request = true) 403 "untrusted_proxy_headers"
    refuseUnless (details.hasHeaders = true → request.forwardedProto = "https") 403
      "mtls_headers_on_non_https_request"
    refuseUnless (request.forwardedProto = "https" → details.verify = "SUCCESS") 401
      (if details.verify ∈ ["", "NONE"] then "missing_client_certificate"
        else "client_certificate_verify_failed")

/-- `_require_https_mtls` on a request. -/
def guardHttpsMtls (request : HttpRequest) : Except Refusal Unit := do
  refuseUnless (request.forwardedProto = "https") 403 "https_mtls_required"
  let details ← Fallible.orRaise .raised (clientCertHeaderDetails daysUntil request)
  refuseUnless (details.verify = "SUCCESS") 401 "missing_client_certificate"

/-! ## What is promised -/

/-- A handler is called. -/
def HandlerRuns (request : HttpRequest) : Prop :=
  enforceMtlsHeaderBoundary internalProxySecret daysUntil request = .ok ()

/-- A handler that begins with `_require_https_mtls` goes on behind it. -/
def GuardedBodyRuns (request : HttpRequest) : Prop :=
  HandlerRuns internalProxySecret daysUntil request ∧ guardHttpsMtls daysUntil request = .ok ()

def HttpRequest.CarriesSecret (request : HttpRequest) : Prop :=
  internalProxySecret ≠ "" ∧ request.header "X-GDS-Internal-Proxy" = internalProxySecret

def HttpRequest.CarriesCertHeader (request : HttpRequest) : Prop :=
  ∃ name ∈ daysRemainingHeader :: identityHeaders, request.header name ≠ ""

/-- The promise of the boundary for a request; `/internal/health` is the one handler that the
middleware treats apart, and it does not begin with the check. -/
structure BoundaryKept (request : HttpRequest) : Prop where
  unproven : ¬ request.CarriesSecret internalProxySecret →
    request.forwardedProto = "https" ∨ request.CarriesCertHeader →
      HandlerRuns internalProxySecret daysUntil request →
        request.path = "/internal/health" ∧ request.peer ∈ ["127.0.0.1", "::1"]
  guarded : request.path ≠ "/internal/health" →
    GuardedBodyRuns internalProxySecret daysUntil request →
      request.CarriesSecret internalProxySecret ∧ request.forwardedProto = "https" ∧
        request.header "X-Client-Cert-Verify" = "SUCCESS"
  withoutSecret : internalProxySecret = "" → request.path ≠ "/internal/health" →
    ¬ GuardedBodyRuns internalProxySecret daysUntil request

/-- The remaining days are the only client certificate header, and read as zero or as no
number. -/
structure DaysUnnoticed (request : HttpRequest) : Prop where
  unproven : ¬ request.CarriesSecret internalProxySecret
  path : request.path ≠ "/internal/health"
  proto : request.forwardedProto ≠ "https"
  others : ∀ name ∈ identityHeaders, request.header name = ""
  present : request.header daysRemainingHeader ≠ ""
  days : looksNumeric (request.header daysRemainingHeader) = false ∨
    PythonText.readInt (request.header daysRemainingHeader) = some 0

variable {internalProxySecret daysUntil} {request : HttpRequest}

theorem internalProxyProofOk_iff :
    internalProxyProofOk internalProxySecret request = true ↔
      request.CarriesSecret internalProxySecret := by
  rw [internalProxyProofOk, Bool.and_eq_true, bne_iff_ne, beq_iff_eq, HttpRequest.CarriesSecret]

/-- When the middleware calls a handler. -/
theorem handlerRuns_iff :
    HandlerRuns internalProxySecret daysUntil request ↔
      ∃ details, clientCertHeaderDetails daysUntil request = some details ∧
        if request.path = "/internal/health" then request.peer ∈ ["127.0.0.1", "::1"]
        else (details.hasHeaders = true ∨ request.forwardedProto = "https" →
            request.CarriesSecret internalProxySecret) ∧
          (details.hasHeaders = true → request.forwardedProto = "https") ∧
          (request.forwardedProto = "https" → details.verify = "SUCCESS") := by
  simp only [HandlerRuns, enforceMtlsHeaderBoundary, Fallible.bind_eq_ok, Fallible.orRaise_eq_ok]
  refine exists_congr fun details => and_congr_right fun _ => ?_
  split
  · rw [refuseUnless_eq_ok]
  · simp only [Fallible.bind_eq_ok, refuseUnless_eq_ok, Fallible.exists_check,
      internalProxyProofOk_iff]

theorem guardHttpsMtls_eq_ok :
    guardHttpsMtls daysUntil request = .ok () ↔ request.forwardedProto = "https" ∧
      ∃ details, clientCertHeaderDetails daysUntil request = some details ∧
        details.verify = "SUCCESS" := by
  simp only [guardHttpsMtls, Fallible.bind_eq_ok, Fallible.orRaise_eq_ok, refuseUnless_eq_ok,
    Fallible.exists_check]

theorem clientCertHeaderDetails_verify {details : ClientCertDetails}
    (found : clientCertHeaderDetails daysUntil request = some details) :
    details.verify = request.header "X-Client-Cert-Verify" := by
  simp only [clientCertHeaderDetails, Option.bind_eq_bind, Option.bind_eq_some_iff,
    Option.some.injEq] at found
  obtain ⟨daysRemaining, -, rfl⟩ := found
  rfl

/-- The check of the handlers is the one that the authorization of agents begins with. -/
theorem guardHttpsMtls_eq_requireHttpsMtls {details : ClientCertDetails}
    (found : clientCertHeaderDetails daysUntil request = some details) :
    guardHttpsMtls daysUntil request = requireHttpsMtls request.agentRequest := by
  rw [guardHttpsMtls, found, requireHttpsMtls, HttpRequest.agentRequest, HttpRequest.forwardedProto,
    HttpRequest.header]
  change (refuseUnless _ _ _ >>= fun _ => refuseUnless (details.verify = "SUCCESS") _ _) = _
  rw [clientCertHeaderDetails_verify found]
  rfl

/-- When the remaining days count as no header, given that there is no end of validity. -/
theorem certDaysRemaining_zero_iff {headerValue : String} {daysRemaining : Option Int}
    (read : certDaysRemaining daysUntil "" headerValue = some daysRemaining) :
    daysRemaining.any (· != 0) = false ↔
      looksNumeric headerValue = false ∨ PythonText.readInt headerValue = some 0 := by
  rw [certDaysRemaining] at read
  split at read
  · rename_i numeric
    obtain ⟨value, isValue, rfl⟩ := Option.map_eq_some_iff.mp read
    simp [numeric, isValue]
  · rename_i other
    cases read
    simp [other]

/-- When the middleware sees no client certificate header. -/
theorem hasHeaders_eq_false_iff {details : ClientCertDetails}
    (found : clientCertHeaderDetails daysUntil request = some details) :
    details.hasHeaders = false ↔ (∀ name ∈ identityHeaders, request.header name = "") ∧
      (looksNumeric (request.header daysRemainingHeader) = false ∨
        PythonText.readInt (request.header daysRemainingHeader) = some 0) := by
  simp only [clientCertHeaderDetails, Option.bind_eq_bind, Option.bind_eq_some_iff,
    Option.some.injEq] at found
  obtain ⟨daysRemaining, read, rfl⟩ := found
  rw [ClientCertDetails.hasHeaders, Bool.or_eq_false_iff]
  have texts : [request.header "X-Client-Cert-Verify", request.header "X-Client-Cert-Subject",
      request.header "X-Client-Cert-Issuer", request.header "X-Client-Cert-Serial",
      request.header "X-Client-Cert-Fingerprint", request.header "X-Client-Cert-Not-Before",
      request.header "X-Client-Cert-Not-After"].any (· != "") = false ↔
        ∀ name ∈ identityHeaders, request.header name = "" := by
    simp [identityHeaders]
  refine (and_congr_left fun _ => texts).trans (and_congr_right fun absent => ?_)
  have noEnd : request.header "X-Client-Cert-Not-After" = "" :=
    absent "X-Client-Cert-Not-After" (by simp [identityHeaders])
  rw [noEnd] at read
  exact certDaysRemaining_zero_iff read

variable (daysUntil) in
/-- The details can be read where only the remaining days are there, and go unnoticed. -/
theorem details_of_daysUnnoticed (unnoticed : DaysUnnoticed internalProxySecret request) :
    ∃ details, clientCertHeaderDetails daysUntil request = some details ∧
      details.hasHeaders = false := by
  have noEnd : request.header "X-Client-Cert-Not-After" = "" :=
    unnoticed.others "X-Client-Cert-Not-After" (by simp [identityHeaders])
  have read : ∃ daysRemaining, certDaysRemaining daysUntil
      (request.header "X-Client-Cert-Not-After") (request.header daysRemainingHeader) =
        some daysRemaining := by
    rw [certDaysRemaining, noEnd]
    rcases unnoticed.days with other | zero
    · exact ⟨none, by rw [other]; rfl⟩
    · split
      · exact ⟨some 0, by rw [zero]; rfl⟩
      · exact ⟨none, rfl⟩
  obtain ⟨daysRemaining, isRead⟩ := read
  have found : ∃ details, clientCertHeaderDetails daysUntil request = some details := by
    simp only [clientCertHeaderDetails, isRead, Option.bind_eq_bind, Option.bind_some]
    exact ⟨_, rfl⟩
  obtain ⟨details, isFound⟩ := found
  exact ⟨details, isFound, (hasHeaders_eq_false_iff isFound).mpr
    ⟨unnoticed.others, unnoticed.days⟩⟩

/-- A guarded handler goes on only for a proven request. -/
theorem guardedBodyRuns_proven (path : request.path ≠ "/internal/health")
    (runs : GuardedBodyRuns internalProxySecret daysUntil request) :
    request.CarriesSecret internalProxySecret ∧ request.forwardedProto = "https" ∧
      request.header "X-Client-Cert-Verify" = "SUCCESS" := by
  obtain ⟨details, found, checked⟩ := handlerRuns_iff.mp runs.1
  obtain ⟨proto, guarded, isFound, verified⟩ := guardHttpsMtls_eq_ok.mp runs.2
  rw [if_neg path] at checked
  refine ⟨checked.1 (Or.inr proto), proto, ?_⟩
  rw [← clientCertHeaderDetails_verify isFound, verified]

variable (internalProxySecret daysUntil) in
/-- The boundary keeps its promise for a request if and only if the request does not get by
with remaining days that go unnoticed. -/
theorem boundary_kept_iff (request : HttpRequest) :
    BoundaryKept internalProxySecret daysUntil request ↔
      ¬ DaysUnnoticed internalProxySecret request := by
  constructor
  · intro kept unnoticed
    obtain ⟨details, found, unseen⟩ := details_of_daysUnnoticed daysUntil unnoticed
    have runs : HandlerRuns internalProxySecret daysUntil request := by
      refine handlerRuns_iff.mpr ⟨details, found, ?_⟩
      rw [if_neg unnoticed.path, unseen]
      simp [unnoticed.proto]
    exact unnoticed.path (kept.unproven unnoticed.unproven
      (Or.inr ⟨daysRemainingHeader, List.mem_cons_self, unnoticed.present⟩) runs).1
  · intro noticed
    refine ⟨fun unproven claims runs => ?_, guardedBodyRuns_proven, fun noSecret path runs =>
      (guardedBodyRuns_proven path runs).1.1 noSecret⟩
    obtain ⟨details, found, checked⟩ := handlerRuns_iff.mp runs
    by_cases path : request.path = "/internal/health"
    · rw [if_pos path] at checked
      exact ⟨path, checked⟩
    · rw [if_neg path] at checked
      have proto : request.forwardedProto ≠ "https" :=
        fun https => unproven (checked.1 (Or.inr https))
      have unseen : details.hasHeaders = false := by
        by_contra seen
        exact unproven (checked.1 (Or.inl (by simpa using seen)))
      obtain ⟨others, days⟩ := (hasHeaders_eq_false_iff found).mp unseen
      obtain ⟨name, isName, present⟩ := claims.resolve_left proto
      rcases List.mem_cons.mp isName with rfl | other
      · exact absurd ⟨unproven, path, proto, others, present, days⟩ noticed
      · exact absurd (others name other) present

end Boundary

/-- A direct request with a certificate header and without the secret. -/
def zeroDaysRequest : HttpRequest where
  path := "/trust-lists/DMZ/client"
  peer := "192.168.10.40"
  headers := [("X-Client-Cert-Days-Remaining", "0")]

/-- It reaches a handler. -/
theorem zero_days_not_kept :
    ¬ BoundaryKept "secret" (fun _ => none) zeroDaysRequest := by
  intro kept
  have unproven : ¬ zeroDaysRequest.CarriesSecret "secret" := by
    rintro ⟨-, same⟩
    exact absurd same (by decide +kernel)
  have present : zeroDaysRequest.CarriesCertHeader :=
    ⟨daysRemainingHeader, List.mem_cons_self, by decide +kernel⟩
  have runs : HandlerRuns "secret" (fun _ => none) zeroDaysRequest := by
    rw [HandlerRuns]
    decide +kernel
  exact absurd (kept.unproven unproven (Or.inr present) runs).1 (by decide)

end OpcuaGds.Gds
