import OpcuaGds.Agent.DiffReport
import OpcuaGds.Agent.SignedSync

/-! # The unsigned trust-list sync

`run_sync_cycle`: fetch the CA chain and the CRL, then for every target fetch the list, compare
it with the cached one, save the report of the comparison and replace the cache entry. A cycle
says of a changed chain or CRL that it has changed once both files are written.
-/

namespace OpcuaGds.Agent

open Gds (Crypto)

/-! ## Documents as a comparison sees them -/

/-- A field that is a text, null or missing; no other value is followed. -/
def textField? (key : String) (document : Json) : Option (Option String) :=
  match document.field? key with
  | none | some .null => some none
  | some (.str text) => some (some text)
  | some _ => none

def certEntry? (cert : Json) : Option CertEntry :=
  if cert.isObject then do
    let applicationUri ← textField? "application_uri" cert
    let commonName ← textField? "common_name" cert
    let fingerprintSha256 ← textField? "fingerprint_sha256" cert
    let pem ← textField? "pem" cert
    return ⟨applicationUri, commonName, fingerprintSha256, pem⟩
  else none

/-- What `build_diff_report` reads of a document. Without a truth value there is no list; `none`
for a document that the comparison raises at, or that has fields of other kinds. -/
def trustListView? (document : Json) : Option (Option TrustListView) :=
  if document.truthy then
    if document.isObject then do
      let entries ← match document.field? "certificates" with
        | none => some []
        | some (.arr entries) => some entries
        | some _ => none
      let certificates ← entries.mapM certEntry?
      let caChainPem ← match document.field? "ca_chain_pem" with
        | none => some none
        | some _ => (textField? "ca_chain_pem" document).map some
      return some ⟨(document.field? "version").getD .null, certificates, caChainPem⟩
    else none
  else some none

/-- The same of a cached document, if there is one. -/
def cachedView? : Option Json → Option (Option TrustListView)
  | none => some none
  | some document => trustListView? document

/-! ## What a cycle is given and what it leaves -/

/-- What is handed to `forward_ot_collector_event`. -/
structure OtEvent where
  severity : String
  eventCategory : String
  message : String
  raw : List (String × Json)
  tags : List (String × Json)
  deriving Repr

/-- The files, the saved reports and the events, in the order in which they were made. -/
structure SyncRecord where
  files : SyncFiles
  reports : List DiffReport
  events : List OtEvent

def SyncRecord.forward (record : SyncRecord) (event : OtEvent) : SyncRecord :=
  { record with events := record.events ++ [event] }

def SyncRecord.saveReport (record : SyncRecord) (report : DiffReport) : SyncRecord :=
  { record with reports := record.reports ++ [report] }

def SyncRecord.saveList (record : SyncRecord) (zone role : String) (payload : Json) : SyncRecord :=
  { record with files := { record.files with
    trustlists := Function.update record.files.trustlists (trustlistFile zone role)
      (some payload) } }

/-- An answer to the request for a trust list. -/
inductive ListAnswer where
  /-- The status is 404. -/
  | notFound
  /-- The request, `raise_for_status` or the decoding raises. -/
  | raised
  | decoded (payload : Json)

/-- How a write ends: an exception is given by its text. -/
abbrev WriteOutcome := Except String Unit

/-- What the outside supplies for one target: whether the cached document can be read, the
answer, the text of an exception of the `try` block that is not a `ValueError` of the checks, the
id and the time of the report, and how the writes end. -/
structure ListExchange where
  readable : Bool
  answer : ListAnswer
  exceptionText : String
  diffId : String
  generatedAt : String
  reportWrite : WriteOutcome
  cacheWrite : WriteOutcome

/-- What the outside supplies for one cycle: whether the two cached PKI files can be read, the
decoded answers, and how the writes end. -/
structure PlainCycle where
  pkiReadable : Bool
  caChainAnswer : Option Json
  caChainWrite : WriteOutcome
  crlAnswer : Option Json
  crlWrite : WriteOutcome
  targets : List (String × String × ListExchange)

/-- `pki_dir` and `trust_dir`. -/
structure SyncDirs where
  pkiDir : String
  trustDir : String

/-! ## Events -/

section Events

variable (dirs : SyncDirs)

/-- The events about the write of a file. -/
def writeEvent (file path : String) (raw tags : List (String × Json)) : WriteOutcome → OtEvent
  | .ok _ => {
      severity := "info"
      eventCategory := "pki_trust_sync"
      message := "cache_write_success " ++ file
      raw := ("path", .str path) :: raw
      tags := tags }
  | .error text => {
      severity := "warning"
      eventCategory := "gds_agent_error"
      message := "cache_write_failure " ++ file
      raw := ("path", .str path) :: raw ++ [("error", .str text)]
      tags := tags }

def pkiWriteEvent (file : String) (outcome : WriteOutcome) : OtEvent :=
  writeEvent file (dirs.pkiDir ++ "/" ++ file) [] [] outcome

/-- `ca_chain_changed` and `crl_changed`. -/
def changedEvent (name : String) : OtEvent where
  severity := "warning"
  eventCategory := "pki_validation"
  message := name
  raw := [(name, .bool true)]
  tags := [("risk_level", .str "HIGH")]

def DiffRisk.text : DiffRisk → String
  | .low => "LOW"
  | .medium => "MEDIUM"
  | .high => "HIGH"
  | .critical => "CRITICAL"

/-- `normalize_severity_for_diff`. -/
def normalizeSeverityForDiff : DiffRisk → String
  | .low => "info"
  | .medium | .high => "warning"
  | .critical => "critical"

def DiffReport.tags (report : DiffReport) : List (String × Json) :=
  [("trustlist_zone", .str report.zone), ("trustlist_role", .str report.role),
    ("risk_level", .str report.riskLevel.text), ("diff_id", .str report.diffId)]

def DiffReport.reasonsRaw (report : DiffReport) : List (String × Json) :=
  [("zone", .str report.zone), ("role", .str report.role),
    ("critical_reasons", .arr (report.criticalReasons.map .str))]

def malformedListEvent (report : DiffReport) : OtEvent where
  severity := "critical"
  eventCategory := "pki_validation"
  message := "malformed_trustlist_or_certificate"
  raw := report.reasonsRaw
  tags := [("trustlist_zone", .str report.zone), ("trustlist_role", .str report.role),
    ("risk_level", .str "CRITICAL"), ("diff_id", .str report.diffId)]

def diffDetectedEvent (report : DiffReport) : OtEvent where
  severity := normalizeSeverityForDiff report.riskLevel
  eventCategory := "trustlist_diff"
  message := "trustlist_diff_detected"
  raw := [("zone", .str report.zone), ("role", .str report.role),
    ("previous_version", report.previousVersion), ("new_version", report.newVersion),
    ("added_count", .int report.added.length), ("removed_count", .int report.removed.length),
    ("changed_count", .int report.changed.length),
    ("ca_chain_changed", .bool report.caChainChanged), ("crl_changed", .bool report.crlChanged)]
  tags := report.tags

def criticalDiffEvent (report : DiffReport) : OtEvent where
  severity := "critical"
  eventCategory := "gds_agent_error"
  message := "critical_diff_detected"
  raw := report.reasonsRaw
  tags := report.tags

/-- The event about the write of a cache entry; the version is in it if the write went well. -/
def listWriteEvent (zone role : String) (payload : Json) (outcome : WriteOutcome) : OtEvent :=
  writeEvent "trustlist" (dirs.trustDir ++ "/" ++ trustlistFile zone role)
    ([("zone", .str zone), ("role", .str role)] ++
      match outcome with
      | .ok _ => [("version", (payload.field? "version").getD .null)]
      | .error _ => [])
    [("trustlist_zone", .str zone), ("trustlist_role", .str role)] outcome

end Events

/-! ## The PKI files -/

section Pki

variable {PublicKey : Type} (x509 : X509 PublicKey) (dirs : SyncDirs) (cycle : PlainCycle)

/-- The `ca_chain_pem` of the answer; `none` for an exception. -/
def caChainPem? : Option Json := do
  let answer ← cycle.caChainAnswer
  let pem ← answer.get? "ca_chain_pem" (.str "")
  let found ← pem.contains? "BEGIN CERTIFICATE"
  if found then some pem else none

/-- `atomic_write_text` of a value that may be no text. -/
def textToWrite (value : Json) (outcome : WriteOutcome) : Except String String :=
  match outcome, value with
  | .error text, _ => .error text
  | .ok _, .str text => .ok text
  | .ok _, .arr _ => .error "write() argument must be str, not list"
  | .ok _, _ => .error "write() argument must be str, not dict"

/-- The old chain, as it is read, is there and is not the new one. -/
def caChainChanged (old : Option String) (pem : Json) : Bool :=
  old.any fun old => asText pem != some (PythonText.universalNewlines old)

def crlChanged (old : Option (List UInt8)) (crlDer : List UInt8) : Bool :=
  old.any fun old => old != crlDer

/-- Fetch and write the CA chain; with whether it has changed, unless an exception ends the
cycle. -/
def syncCaChain (record : SyncRecord) : SyncRecord × Option Bool :=
  if cycle.pkiReadable then
    match caChainPem? cycle with
    | none => (record, none)
    | some pem =>
        match textToWrite pem cycle.caChainWrite with
        | .ok text =>
            ({ record with files := { record.files with caChain := some text } }.forward
                (pkiWriteEvent dirs "ca-chain.pem" (.ok ())),
              some (caChainChanged record.files.caChain pem))
        | .error text =>
            (record.forward (pkiWriteEvent dirs "ca-chain.pem" (.error text)), none)
  else (record, none)

/-- `base64.b64decode(crl.get("crl_base64", ""))`, if it is a CRL. -/
def crlDer? : Option (List UInt8) := do
  let answer ← cycle.crlAnswer
  let encoded ← answer.get? "crl_base64" (.str "")
  let der ← b64decode encoded
  x509.loadDerCrl der
  return der

/-- Fetch and write the CRL. -/
def syncCrl (record : SyncRecord) : SyncRecord × Option Bool :=
  match crlDer? x509 cycle with
  | none => (record, none)
  | some der =>
      match cycle.crlWrite with
      | .ok _ =>
          ({ record with files := { record.files with crl := some der } }.forward
              (pkiWriteEvent dirs "crl.der" (.ok ())),
            some (crlChanged record.files.crl der))
      | .error text => (record.forward (pkiWriteEvent dirs "crl.der" (.error text)), none)

/-- The events about changed PKI files. -/
def announceChanges (chain crl : Bool) (record : SyncRecord) : SyncRecord :=
  let record := if chain then record.forward (changedEvent "ca_chain_changed") else record
  if crl then record.forward (changedEvent "crl_changed") else record

end Pki

/-! ## The targets -/

section Targets

variable {PrivateKey PublicKey : Type} (crypto : Crypto PrivateKey PublicKey)
  (x509 : X509 PublicKey) (parseNotAfter : String → Option String) (dirs : SyncDirs)
  (chainChanged crlChanged : Bool)

/-- `str(exc)`. -/
def ListExchange.failureText (exchange : ListExchange) : Failure → String
  | .rejected _ message | .valueError message => message
  | .raised => exchange.exceptionText

/-- The list of an answer that passes the checks. -/
def ListExchange.checked (exchange : ListExchange) (zone role : String) : Except Failure Json :=
  match exchange.answer with
  | .decoded payload => do
      validateTrustlistPayload crypto x509 payload zone role
      return payload
  | _ => .error .raised

def ListExchange.diffInput (exchange : ListExchange) (zone role : String)
    (previous current : Option TrustListView) (criticalReasons : List String) : DiffInput where
  diffId := exchange.diffId
  generatedAt := exchange.generatedAt
  zone := zone
  role := role
  previous := previous
  current := current
  caChainChanged := chainChanged
  crlChanged := crlChanged
  criticalReasons := criticalReasons

/-- A list that is not there or malformed: a report without a current list. -/
def reportMalformed (zone role : String) (exchange : ListExchange)
    (previous : Option TrustListView) (failure : Failure) (record : SyncRecord) :
    SyncRecord × Bool :=
  let report := buildDiffReport parseNotAfter
    (exchange.diffInput chainChanged crlChanged zone role previous none
      ["malformed_or_unavailable_trustlist:" ++ exchange.failureText failure])
  match exchange.reportWrite with
  | .error _ => (record, false)
  | .ok _ => ((record.saveReport report).forward (malformedListEvent report), true)

/-- The events about a saved report. -/
def forwardReport (report : DiffReport) (record : SyncRecord) : SyncRecord :=
  let record := record.forward (diffDetectedEvent report)
  if report.riskLevel = .critical then record.forward (criticalDiffEvent report) else record

/-- A list that passes the checks: its report, then the cache entry. -/
def storeList (zone role : String) (exchange : ListExchange)
    (previous current : Option TrustListView) (payload : Json) (record : SyncRecord) :
    SyncRecord × Bool :=
  let report := buildDiffReport parseNotAfter
    (exchange.diffInput chainChanged crlChanged zone role previous current [])
  match exchange.reportWrite with
  | .error _ => (record, false)
  | .ok _ =>
      let record := forwardReport report (record.saveReport report)
      match exchange.cacheWrite with
      | .error text =>
          (record.forward (listWriteEvent dirs zone role payload (.error text)), false)
      | .ok _ =>
          ((record.saveList zone role payload).forward
            (listWriteEvent dirs zone role payload (.ok ())), true)

/-- One round of the loop over the targets, with whether the loop goes on; `none` for documents
that are not followed. -/
def syncList (zone role : String) (exchange : ListExchange) (record : SyncRecord) :
    Option (SyncRecord × Bool) :=
  if exchange.readable then
    match exchange.answer with
    | .notFound => some (record, true)
    | _ => do
        let previous ← cachedView? (record.files.trustlists (trustlistFile zone role))
        match exchange.checked crypto x509 zone role with
        | .error failure =>
            some (reportMalformed parseNotAfter chainChanged crlChanged zone role exchange previous
              failure record)
        | .ok payload =>
            let current ← trustListView? payload
            some (storeList parseNotAfter dirs chainChanged crlChanged zone role exchange previous
              current payload record)
  else some (record, false)

/-- The loop over the targets. -/
def syncLists : List (String × String × ListExchange) → SyncRecord → Option SyncRecord
  | [], record => some record
  | (zone, role, exchange) :: rest, record => do
      let (next, goesOn) ← syncList crypto x509 parseNotAfter dirs chainChanged crlChanged zone role
        exchange record
      if goesOn then syncLists rest next else some next

end Targets

/-- `run_sync_cycle`. -/
def runSyncCycle {PrivateKey PublicKey : Type} (crypto : Crypto PrivateKey PublicKey)
    (x509 : X509 PublicKey) (parseNotAfter : String → Option String) (dirs : SyncDirs)
    (record : SyncRecord) (cycle : PlainCycle) : Option SyncRecord :=
  match syncCaChain dirs cycle record with
  | (record, none) => some record
  | (record, some chainChanged) =>
      match syncCrl x509 dirs cycle record with
      | (record, none) => some record
      | (record, some crlChanged) =>
          syncLists crypto x509 parseNotAfter dirs chainChanged crlChanged cycle.targets
            (announceChanges chainChanged crlChanged record)

end OpcuaGds.Agent
