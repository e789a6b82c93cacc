import OpcuaGds.Agent.TrustAnchor
import OpcuaGds.Foundation.Transition

/-! # The signed trust-list sync

`run_sync_cycle_signed`: for every target fetch the artifact, verify it, check it for
expiry and replay against the cached one, write the PKI bundle once a cycle and
replace the cache entry. A cycle is a session with one trust anchor and a sequence of
target steps; a failed cache write or report ends it.
-/

namespace OpcuaGds.Agent

open Gds (Crypto)

/-! ## The checks of one target -/

section Checks

variable {PrivateKey PublicKey : Type} (crypto : Crypto PrivateKey PublicKey)
  (x509 : X509 PublicKey)

/-- One entry of `certificates`. -/
def validateCertificate (cert : Json) : Except Failure Unit := do
  ["application_uri", "common_name", "fingerprint_sha256", "pem"].forM fun key => do
    let found ← attempt (cert.contains? key)
    ensure (found = true) ("certificate entry missing field: " ++ key)
  let pem ← subscript cert "pem"
  let der ← attempt ((asText pem).bind x509.loadPemCertificate)
  let declared ← subscript cert "fingerprint_sha256"
  ensure (PythonText.lower (crypto.sha256Hex der) = PythonText.lower declared.toStr)
    ("certificate fingerprint mismatch for " ++
      ((cert.field? "application_uri").getD .null).toStr)

/-- `base64.b64decode` and `load_der_x509_crl` of the field `crl_base64`. -/
def readCrl (payload : Json) : Except Failure (List UInt8) := do
  let encoded ← subscript payload "crl_base64"
  let der ← attempt (b64decode encoded)
  attempt (x509.loadDerCrl der)
  .ok der

/-- `validate_trustlist_payload`. -/
def validateTrustlistPayload (payload : Json) (zone role : String) : Except Failure Unit := do
  let zoneField ← attempt (payload.get? "zone" .null)
  ensure (isText zone zoneField)
    ("zone mismatch in trustlist payload: " ++ zoneField.toStr ++ " != " ++ zone)
  let roleField ← attempt (payload.get? "role" .null)
  ensure (isText role roleField)
    ("role mismatch in trustlist payload: " ++ roleField.toStr ++ " != " ++ role)
  ["ca_chain_pem", "crl_base64", "certificates"].forM fun key =>
    ensure ((payload.field? key).isSome = true) "trustlist payload missing required fields"
  let caChain ← subscript payload "ca_chain_pem"
  let found ← attempt (caChain.contains? "BEGIN CERTIFICATE")
  ensure (found = true) "ca_chain_pem does not contain PEM certificate text"
  let certificates ← subscript payload "certificates"
  let entries ← attempt certificates.iterate?
  entries.forM (validateCertificate crypto x509)
  let _ ← readCrl x509 payload
  .ok ()

/-- `fetch_canonical_artifact_view` and the comparison that follows it. -/
def checkCanonicalView (view : Option Json) (digest : String) : Except Failure Unit := do
  let view ← attempt view
  ["canonical_sha256", "canonical_payload"].forM fun key => do
    let found ← attempt (view.contains? key)
    require (found = true) "malformed_artifact" ("canonical endpoint missing field: " ++ key)
  let declared ← attempt (view.get? "canonical_sha256" (.str ""))
  let gdsSha := PythonText.lower declared.toStr
  require (gdsSha = "" ∨ gdsSha = PythonText.lower digest) "canonical_hash_mismatch"
    ("canonical hash mismatch agent=" ++ digest ++ " gds=" ++ gdsSha)

/-- The comparison is made in debug mode only. -/
def checkSignDebug (signDebug : Bool) (view : Option Json) (digest : String) :
    Except Failure Unit :=
  if signDebug then checkCanonicalView view digest else .ok ()

/-- Whether the cached document counts as a signed artifact of this anchor
(`prev_signed_compatible`). -/
def prevSignedCompatible (previous : Option Json) (trustAnchorFp : String) :
    Except Failure Bool :=
  match previous with
  | none => .ok false
  | some previous =>
      if previous.truthy then do
        let kind ← attempt (previous.get? "artifact_type" (.str ""))
        let signer ← attempt (previous.get? "signer" .null)
        let signer := if signer.truthy then signer else .obj []
        let fingerprint ← attempt (signer.get? "fingerprint_sha256" (.str ""))
        let revision ← attempt (previous.get? "artifact_revision" .null)
        .ok (PythonText.lower kind.toStr = "opcua_trustlist" &&
          PythonText.lower fingerprint.toStr = PythonText.lower trustAnchorFp &&
          !isNull revision)
      else .ok false

/-- `int(prev_tl.get(field))` of a comparable document that has the field. -/
def previousNumber (field : String) (previous : Option Json) (compatible : Bool) :
    Except Failure (Option Int) :=
  match previous with
  | none => .ok none
  | some previous =>
      let value := (previous.field? field).getD .null
      if compatible && !isNull value then do
        let number ← attempt value.toInt?
        .ok (some number)
      else .ok none

/-- The comparison of the pairs `(version, artifact_revision)`, as tuples. -/
def PairLt (left right : Int × Int) : Prop :=
  left.1 < right.1 ∨ left.1 = right.1 ∧ left.2 < right.2

instance (left right : Int × Int) : Decidable (PairLt left right) :=
  inferInstanceAs (Decidable (_ ∨ _))

def pairText (pair : Int × Int) : String :=
  "(" ++ toString pair.1 ++ ", " ++ toString pair.2 ++ ")"

/-- `(int(artifact.get("version")), int(artifact.get("artifact_revision")))`. -/
def revisionPair (artifact : Json) : Option (Int × Int) := do
  let version ← ((artifact.field? "version").getD .null).toInt?
  let revision ← ((artifact.field? "artifact_revision").getD .null).toInt?
  some (version, revision)

/-- The replay check against the cached document. -/
def checkReplay (previous : Option Json) (compatible : Bool) (artifact : Json) :
    Except Failure Unit := do
  let prevVersion ← previousNumber "version" previous compatible
  let prevRevision ← previousNumber "artifact_revision" previous compatible
  let current ← attempt (revisionPair artifact)
  match prevVersion, prevRevision with
  | some version, some revision =>
      ensure (¬ PairLt current (version, revision))
        ("replay_detected tuple_regression " ++ pairText current ++ " < " ++
          pairText (version, revision))
  | _, _ => .ok ()

end Checks

/-! ## Files and target steps -/

/-- The files that the cycle writes: the cache of trust lists by file name, and the
PKI bundle. -/
structure SyncFiles where
  trustlists : String → Option Json
  caChain : Option String
  crl : Option (List UInt8)

/-- What the outside supplies for one target: whether the cached file can be read, the
two answers of GDS, the canonical view in debug mode, the clock, and how the writes
end. -/
structure TargetExchange where
  readable : Bool
  fetched : Option (Json × Json)
  canonicalView : Option Json
  now : Int
  caChainWritten : Bool
  crlWritten : Bool
  reportWritten : Bool
  cacheWritten : Bool
  logged : Bool

/-- How the step of one target ends: the artifact is in the cache, the response was
rejected and the loop continues, or an exception ends the cycle. -/
inductive TargetOutcome where
  | stored
  | rejected (failure : Failure)
  | aborted
  deriving DecidableEq, Repr

/-- `f"{target_zone}_{target_role}.json"`. -/
def trustlistFile (zone role : String) : String := zone ++ "_" ++ role ++ ".json"

section Steps

variable {PrivateKey PublicKey : Type} (crypto : Crypto PrivateKey PublicKey)
  (x509 : X509 PublicKey) (pin : Pin)

/-- A cycle under way. -/
structure SyncSession where
  signDebug : Bool
  anchor : PinnedAnchor crypto pin
  pkiWritten : Bool

/-- The body of the `try` block up to the PKI bundle: the artifact to store and its CRL. -/
def acceptArtifact (signDebug : Bool) (anchor : PinnedAnchor crypto pin) (zone role : String)
    (previous : Option Json) (compatible : Bool) (exchange : TargetExchange) :
    Except Failure (Json × List UInt8) := do
  let (artifact, signature) ← attempt exchange.fetched
  let (digest, _) ← verifySignedArtifact crypto artifact signature zone role anchor.publicKey
    anchor.fingerprint
  checkSignDebug signDebug exchange.canonicalView digest
  validateTrustlistPayload crypto x509 artifact zone role
  let expiresAt ← attempt
    (parseRfc3339Utc ((artifact.field? "expires_at").getD (.str "")).toStr)
  ensure (¬ expiresAt < exchange.now) "signed trustlist artifact expired"
  checkReplay previous compatible artifact
  let crlDer ← readCrl x509 artifact
  .ok (artifact, crlDer)

/-- `safe_write_pki_bundle`: the chain first, then the CRL. -/
def safeWritePkiBundle (files : SyncFiles) (artifact : Json) (crlDer : List UInt8)
    (exchange : TargetExchange) : SyncFiles × Bool :=
  match (artifact.field? "ca_chain_pem").bind asText with
  | none => (files, false)
  | some caChain =>
      if exchange.caChainWritten then
        let files := { files with caChain := some caChain }
        if exchange.crlWritten then ({ files with crl := some crlDer }, true) else (files, false)
      else (files, false)

/-- The end of a target that was accepted: report, then the cache entry. -/
def storeArtifact (zone role : String) (files : SyncFiles) (artifact : Json)
    (exchange : TargetExchange) : SyncFiles × TargetOutcome :=
  if exchange.reportWritten then
    if exchange.cacheWritten then
      ({ files with
          trustlists := Function.update files.trustlists (trustlistFile zone role)
            (some artifact) },
        if exchange.logged then .stored else .aborted)
    else (files, .aborted)
  else (files, .aborted)

/-- The end of a target that was not accepted: a report is written. -/
def rejectTarget (exchange : TargetExchange) (failure : Failure) : TargetOutcome :=
  if exchange.reportWritten then .rejected failure else .aborted

/-- A target that was accepted: the PKI bundle unless this cycle has written it, then
the cache entry. -/
def completeTarget (zone role : String) (exchange : TargetExchange) (files : SyncFiles)
    (session : SyncSession crypto pin) (artifact : Json) (crlDer : List UInt8) :
    SyncFiles × SyncSession crypto pin × TargetOutcome :=
  if session.pkiWritten then
    let (files, outcome) := storeArtifact zone role files artifact exchange
    (files, session, outcome)
  else
    match safeWritePkiBundle files artifact crlDer exchange with
    | (files, false) => (files, session, rejectTarget exchange .raised)
    | (files, true) =>
        let (files, outcome) := storeArtifact zone role files artifact exchange
        (files, { session with pkiWritten := true }, outcome)

/-- One pass of the loop over the targets. -/
def syncTarget (zone role : String) (exchange : TargetExchange)
    (files : SyncFiles) (session : SyncSession crypto pin) :
    SyncFiles × SyncSession crypto pin × TargetOutcome :=
  let previous := files.trustlists (trustlistFile zone role)
  if exchange.readable then
    match prevSignedCompatible previous session.anchor.fingerprint with
    | .error _ => (files, session, .aborted)
    | .ok compatible =>
        match acceptArtifact crypto x509 pin session.signDebug session.anchor zone role previous
            compatible exchange with
        | .error failure => (files, session, rejectTarget exchange failure)
        | .ok (artifact, crlDer) =>
            completeTarget crypto pin zone role exchange files session artifact crlDer
  else (files, session, .aborted)

/-- The loop over the targets. -/
def syncTargets : List (String × String × TargetExchange) → SyncFiles →
    SyncSession crypto pin → SyncFiles
  | [], files, _ => files
  | (zone, role, exchange) :: rest, files, session =>
      match syncTarget crypto x509 pin zone role exchange files session with
      | (files, _, .aborted) => files
      | (files, session, _) => syncTargets rest files session

/-- The settings and answers of one cycle. -/
structure SyncCycle where
  signDebug : Bool
  anchorResponse : Option Json
  targets : List (String × String × TargetExchange)

/-- `run_sync_cycle_signed`. -/
def runSyncCycleSigned (cycle : SyncCycle) (files : SyncFiles) : SyncFiles :=
  match openSession crypto x509 pin cycle.anchorResponse with
  | .error _ => files
  | .ok anchor => syncTargets crypto x509 pin cycle.targets files ⟨cycle.signDebug, anchor, false⟩

/-! ## Cycles as runs of single steps -/

inductive SyncEvent where
  | beginCycle (signDebug : Bool) (anchorResponse : Option Json)
  | target (zone role : String) (exchange : TargetExchange)

def SyncCycle.events (cycle : SyncCycle) : List SyncEvent :=
  .beginCycle cycle.signDebug cycle.anchorResponse ::
    cycle.targets.map fun (zone, role, exchange) => .target zone role exchange

structure SyncState where
  files : SyncFiles
  session : Option (SyncSession crypto pin)

/-- One step; the targets after an exception are passed over. -/
def SyncState.step (state : SyncState crypto pin) : SyncEvent → Option (SyncState crypto pin)
  | .beginCycle signDebug anchorResponse =>
      match openSession crypto x509 pin anchorResponse with
      | .error _ => some { state with session := none }
      | .ok anchor => some { state with session := some ⟨signDebug, anchor, false⟩ }
  | .target zone role exchange =>
      match state.session with
      | none => some state
      | some session =>
          match syncTarget crypto x509 pin zone role exchange state.files session with
          | (files, _, .aborted) => some ⟨files, none⟩
          | (files, session, _) => some ⟨files, some session⟩

/-- An agent with an empty cache. -/
def SyncState.initial : SyncState crypto pin where
  files := { trustlists := fun _ => none, caChain := none, crl := none }
  session := none

end Steps

/-! ## Pairs -/

/-- The pairs of all cached artifacts; a document without a pair has none. -/
structure CachedPairs where
  pair : String → Option (Int × Int)

def SyncFiles.cachedPairs (files : SyncFiles) : CachedPairs :=
  ⟨fun file => (files.trustlists file).bind revisionPair⟩

/-- File by file, no pair is lexicographically below the old one. -/
instance : LE CachedPairs :=
  ⟨fun left right => ∀ file pair, left.pair file = some pair →
    ∃ later, right.pair file = some later ∧ ¬ PairLt later pair⟩

instance : Preorder CachedPairs where
  le_refl pairs file pair found := by
    refine ⟨pair, found, ?_⟩
    unfold PairLt
    omega
  le_trans first second third below above file pair found := by
    obtain ⟨middle, foundMiddle, notLess⟩ := below file pair found
    obtain ⟨last, foundLast, notLessLast⟩ := above file middle foundMiddle
    refine ⟨last, foundLast, ?_⟩
    unfold PairLt at notLess notLessLast ⊢
    omega

end OpcuaGds.Agent
