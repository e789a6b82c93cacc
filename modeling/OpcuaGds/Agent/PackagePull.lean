import OpcuaGds.Agent.ActivationEntry
import OpcuaGds.Foundation.Transition
import Mathlib.Logic.Function.Basic

/-! # Pulling certificate packages

`pull_and_cache_certificate_packages`: a package is asked for by the id of a list, verified, and
cached under the id in its own manifest. What is then reported to GDS is the id of the list.
-/

namespace OpcuaGds.Agent

open Gds (Crypto)

/-! ## The agent and its server -/

/-- The directory of a package in the cache. -/
structure PulledPackage where
  manifest : Option Json
  signature : Option Json
  plan : Option Json

inductive LifecycleState where
  | pulled
  | verified
  | staged
  deriving DecidableEq, Repr

/-- One `report_certificate_package_lifecycle`; whether GDS takes it changes nothing. -/
structure LifecycleReport where
  packageId : String
  lifecycleState : LifecycleState
  details : List (String × Json)

/-- The event for the OT collector. -/
structure CollectorNotice where
  severity : String
  category : String
  message : String
  raw : List (String × Json)
  tags : List (String × Json)

structure PullState where
  cache : String → PulledPackage
  reports : List LifecycleReport
  notices : List CollectorNotice

/-- One id of the list, with the decoded answers of the server (`none` where a request or the
decoding fails), how many files of the cache can be written, and what the plan is given. -/
structure PackageRequest where
  packageId : String
  manifest : Option Json
  signature : Option Json
  written : Nat
  planId : String
  createdAt : String
  syncCycleId : String

/-- `manifest.get(key)`. -/
def fieldOrNull (manifest : Json) (key : String) : Json := (manifest.field? key).getD .null

/-- `manifest.get("compatibility") or {}`. -/
def packageCompatibility (manifest : Json) : Json :=
  orElse (fieldOrNull manifest "compatibility") (.obj [])

/-- `activation-plan-preview.json`. -/
def activationPlanPreview (request : PackageRequest) (packageId : String) (manifest : Json) :
    Json :=
  let status := fieldOrNull (packageCompatibility manifest) "status"
  .obj [("plan_id", .str request.planId), ("created_at", .str request.createdAt),
    ("source", .str "certificate_package"), ("package_id", .str packageId),
    ("generation", fieldOrNull manifest "generation"),
    ("runtime_instance_id", fieldOrNull manifest "runtime_instance_id"),
    ("profile_name", fieldOrNull manifest "profile_name"), ("compatibility_status", status),
    ("status", .str (if isText "INCOMPATIBLE" status then "blocked_incompatible"
      else "package_verified_dry_run_only")),
    ("runtime_write_enabled", .bool false), ("dry_run_only", .bool true),
    ("install_plan", fieldOrNull manifest "install_plan"),
    ("rollback_metadata", fieldOrNull manifest "rollback_metadata")]

/-- `cache_certificate_package`, and whether it returns: a write may fail, and the plan has no
status when the compatibility is no dictionary. -/
def cacheCertificatePackage (request : PackageRequest) (manifest signature : Json)
    (cache : String → PulledPackage) : (String → PulledPackage) × Bool :=
  let packageId := (fieldOrNull manifest "package_id").toStr
  let before := cache packageId
  let put (package : PulledPackage) := Function.update cache packageId package
  if request.written = 0 then (cache, false)
  else if request.written = 1 then (put { before with manifest := some manifest }, false)
  else if request.written = 2 ∨ (packageCompatibility manifest).isObject = false then
    (put { before with manifest := some manifest, signature := some signature }, false)
  else
    (put { manifest := some manifest, signature := some signature,
           plan := some (activationPlanPreview request packageId manifest) }, true)

section Reports

variable (request : PackageRequest) (manifest : Json)

/-- `compatibility_status` as it is reported. -/
def reportedStatus : String :=
  (((packageCompatibility manifest).field? "status").getD (.str "UNKNOWN")).toStr

def pulledReport : LifecycleReport where
  packageId := request.packageId
  lifecycleState := .pulled
  details := [("generation", fieldOrNull manifest "generation"),
    ("manifest_sha256", fieldOrNull manifest "manifest_sha256"),
    ("sync_cycle_id", .str request.syncCycleId)]

def verifiedReport (digest : String) : LifecycleReport where
  packageId := request.packageId
  lifecycleState := .verified
  details := [("generation", fieldOrNull manifest "generation"),
    ("manifest_sha256", .str digest), ("compatibility_status", .str (reportedStatus manifest)),
    ("sync_cycle_id", .str request.syncCycleId)]

/-- The paths are relative to the directory of the packages. -/
def stagedReport : LifecycleReport :=
  let outDir := (fieldOrNull manifest "package_id").toStr
  { packageId := request.packageId
    lifecycleState := .staged
    details := [("generation", fieldOrNull manifest "generation"), ("cache_dir", .str outDir),
      ("activation_plan_preview", .str (FileTree.join outDir "activation-plan-preview.json")),
      ("runtime_write_enabled", .bool false), ("dry_run_only", .bool true),
      ("sync_cycle_id", .str request.syncCycleId)] }

def verifiedNotice (digest : String) : CollectorNotice :=
  let riskLevel := ((packageCompatibility manifest).field? "risk_level").getD (.str "")
  let applicationUri := (manifest.field? "application_uri").getD (.str "")
  { severity := if reportedStatus manifest = "INCOMPATIBLE" then "warning" else "info"
    category := "pki_trust_sync"
    message := "certificate_package_verified"
    raw := [("package_id", .str request.packageId),
      ("generation", fieldOrNull manifest "generation"), ("manifest_sha256", .str digest),
      ("cache_dir", .str (fieldOrNull manifest "package_id").toStr),
      ("compatibility_status", .str (reportedStatus manifest)),
      ("runtime_write_enabled", .bool false), ("dry_run_only", .bool true),
      ("sync_cycle_id", .str request.syncCycleId)]
    tags := [("risk_level", .str riskLevel.toStr), ("application_uri", .str applicationUri.toStr),
      ("sync_cycle_id", .str request.syncCycleId), ("correlation_id", .str request.syncCycleId)] }

/-- The event of a round that an exception ends; the text of the exception is left out. -/
def rejectedNotice (failureCode : String) : CollectorNotice where
  severity := "critical"
  category := "pki_validation"
  message := "certificate_package_rejected"
  raw := [("package_id", .str request.packageId), ("failure_code", .str failureCode),
    ("sync_cycle_id", .str request.syncCycleId)]
  tags := [("risk_level", .str "CRITICAL"), ("sync_cycle_id", .str request.syncCycleId),
    ("correlation_id", .str request.syncCycleId)]

end Reports

namespace PullState

variable (state : PullState)

/-- The report before the package is verified. -/
def pulled (request : PackageRequest) (manifest : Json) : PullState :=
  { state with reports := state.reports ++ [pulledReport request manifest] }

/-- The reports of a package that is verified and cached. -/
def announce (request : PackageRequest) (manifest : Json) (digest : String) : PullState :=
  { state with
    reports := state.reports ++
      [verifiedReport request manifest digest, stagedReport request manifest]
    notices := state.notices ++ [verifiedNotice request manifest digest] }

def reject (request : PackageRequest) (failureCode : String) : PullState :=
  { state with notices := state.notices ++ [rejectedNotice request failureCode] }

/-- What a round does with a package that is verified. -/
def store (request : PackageRequest) (manifest signature : Json) (digest : String) : PullState :=
  match cacheCertificatePackage request manifest signature state.cache with
  | (cache, true) => { state with cache }.announce request manifest digest
  | (cache, false) => { state with cache }.reject request "certificate_package_pull_error"

end PullState

/-- The code of a failure, as the loop reports it. -/
def Failure.pullCode : Failure → String
  | .rejected code _ => code
  | _ => "certificate_package_pull_error"

section Pull

variable {PrivateKey PublicKey : Type} (crypto : Crypto PrivateKey PublicKey)
  (x509 : X509 PublicKey)

/-- One round of the loop. -/
def pullPackage (trustAnchorPub : PublicKey) (trustAnchorFp : String) (state : PullState)
    (request : PackageRequest) : PullState :=
  match request.manifest, request.signature with
  | some manifest, some signature =>
      if manifest.isObject = false then state.reject request (Failure.pullCode .raised)
      else
        let state := state.pulled request manifest
        match verifyCertificatePackageManifest crypto manifest signature trustAnchorPub
            trustAnchorFp with
        | .error failure => state.reject request failure.pullCode
        | .ok digest => state.store request manifest signature digest
  | _, _ => state.reject request (Failure.pullCode .raised)

/-- The trust anchor of a call. -/
def openTrustAnchor (anchorResponse : Option Json) (pinnedFingerprint : String) :
    Except Failure (PublicKey × String) := do
  let anchor ← loadTrustAnchor anchorResponse
  verifyTrustAnchorFingerprint crypto x509 anchor pinnedFingerprint

/-- `pull_and_cache_certificate_packages`. -/
def pullAndCacheCertificatePackages (anchorResponse : Option Json) (pinnedFingerprint : String)
    (state : PullState) (requests : List PackageRequest) : Except Failure PullState :=
  if requests.isEmpty then .ok state
  else do
    let (anchorPub, anchorFp) ← openTrustAnchor crypto x509 anchorResponse pinnedFingerprint
    .ok (requests.foldl (pullPackage crypto anchorPub anchorFp) state)

/-- The rounds of a call as a run. -/
def pullStep (trustAnchorPub : PublicKey) (trustAnchorFp : String) (state : PullState)
    (request : PackageRequest) : Option PullState :=
  some (pullPackage crypto trustAnchorPub trustAnchorFp state request)

/-! ## What is reported -/

/-- The id that a manifest carries. -/
def manifestId (manifest : Json) : String := (fieldOrNull manifest "package_id").toStr

/-- A VERIFIED or STAGED report of a round names the package that was verified and cached in
that round. -/
def ReportsNamePackage (trustAnchorPub : PublicKey) (trustAnchorFp : String) (before : PullState)
    (request : PackageRequest) (after : PullState) : Prop :=
  ∀ new, after.reports = before.reports ++ new → ∀ report ∈ new,
    report.lifecycleState ≠ .pulled →
      ∃ manifest signature digest, request.manifest = some manifest ∧
        request.signature = some signature ∧
        verifyCertificatePackageManifest crypto manifest signature trustAnchorPub trustAnchorFp =
          .ok digest ∧
        (after.cache (manifestId manifest)).manifest = some manifest ∧
        manifestId manifest = report.packageId

/-- What makes a round report a package: the answers are verified and can be cached. -/
structure Announced (trustAnchorPub : PublicKey) (trustAnchorFp : String)
    (request : PackageRequest) (manifest signature : Json) (digest : String) : Prop where
  isManifest : request.manifest = some manifest
  isSignature : request.signature = some signature
  verified : verifyCertificatePackageManifest crypto manifest signature trustAnchorPub
    trustAnchorFp = .ok digest
  compatibility : (packageCompatibility manifest).isObject = true
  written : 3 ≤ request.written

/-- An answer that is verified and can be cached is of the package that was asked for. -/
def AnswersRequest (trustAnchorPub : PublicKey) (trustAnchorFp : String)
    (request : PackageRequest) : Prop :=
  ∀ manifest signature digest,
    Announced crypto trustAnchorPub trustAnchorFp request manifest signature digest →
      manifestId manifest = request.packageId

end Pull

section Rounds

variable {PrivateKey PublicKey : Type} {crypto : Crypto PrivateKey PublicKey}
  {x509 : X509 PublicKey} {trustAnchorPub : PublicKey} {trustAnchorFp : String}
  {before : PullState} {request : PackageRequest}

/-- The rounds of a call, one after the other. -/
theorem run_pullStep (state : PullState) (requests : List PackageRequest) :
    Transition.run (pullStep crypto trustAnchorPub trustAnchorFp) state requests =
      some (requests.foldl (pullPackage crypto trustAnchorPub trustAnchorFp) state) := by
  induction requests generalizing state with
  | nil => rfl
  | cons request rest ih => exact ih (pullPackage crypto trustAnchorPub trustAnchorFp state request)

/-- A call runs its rounds when the trust anchor opens. -/
theorem pullAndCache_eq_ok {anchorResponse : Option Json} {pinnedFingerprint : String}
    {requests : List PackageRequest} {after : PullState} (asked : requests ≠ []) :
    pullAndCacheCertificatePackages crypto x509 anchorResponse pinnedFingerprint before requests =
        .ok after ↔
      ∃ trustAnchorPub trustAnchorFp,
        openTrustAnchor crypto x509 anchorResponse pinnedFingerprint =
          .ok (trustAnchorPub, trustAnchorFp) ∧
        Transition.run (pullStep crypto trustAnchorPub trustAnchorFp) before requests =
          some after := by
  have nonempty : requests.isEmpty = false := List.isEmpty_eq_false_iff.mpr asked
  rw [pullAndCacheCertificatePackages, nonempty, if_neg Bool.false_ne_true, Fallible.bind_eq_ok,
    Prod.exists]
  simp only [run_pullStep, Except.ok.injEq, Option.some.injEq]

/-- A manifest that is verified is a dictionary. -/
theorem isObject_of_verified {manifest signature : Json} {digest : String}
    (verified : verifyCertificatePackageManifest crypto manifest signature trustAnchorPub
      trustAnchorFp = .ok digest) : manifest.isObject = true := by
  have header := ((verifyCertificatePackageManifest_eq_ok crypto).mp verified).1
  have schema := (checkPackageHeader_eq_ok.mp header).1
  unfold Json.get? at schema
  split at schema
  · assumption
  · cases schema

/-- Caching returns when the three files are written and the plan has a status to read. -/
theorem cacheCertificatePackage_eq_returned {manifest signature : Json}
    {cache after : String → PulledPackage} :
    cacheCertificatePackage request manifest signature cache = (after, true) ↔
      3 ≤ request.written ∧ (packageCompatibility manifest).isObject = true ∧
        after = Function.update cache (manifestId manifest) {
          manifest := some manifest
          signature := some signature
          plan := some (activationPlanPreview request (manifestId manifest) manifest) } := by
  unfold cacheCertificatePackage
  split_ifs with none one two
  · simp [none]
  · simp [one]
  · obtain short | noObject := two
    · simp [short]
    · simp [noObject]
  · obtain ⟨notTwo, isObject⟩ := not_or.mp two
    have three : 3 ≤ request.written := by omega
    simp [three, Bool.not_eq_false _ ▸ isObject, manifestId, eq_comm]

/-- A package that is cached is announced. -/
theorem PullState.store_of_cached {state : PullState} {manifest signature : Json} {digest : String}
    (written : 3 ≤ request.written)
    (compatibility : (packageCompatibility manifest).isObject = true) :
    ∃ cache, (cache (manifestId manifest)).manifest = some manifest ∧
      state.store request manifest signature digest =
        { state with cache }.announce request manifest digest := by
  have cached : cacheCertificatePackage request manifest signature state.cache = (_, true) :=
    cacheCertificatePackage_eq_returned.mpr ⟨written, compatibility, rfl⟩
  refine ⟨_, ?_, by rw [store, cached]⟩
  rw [Function.update_self]

/-- A package that is not cached is not announced. -/
theorem PullState.store_reports {state : PullState} {manifest signature : Json} {digest : String}
    (held : ¬ (3 ≤ request.written ∧ (packageCompatibility manifest).isObject = true)) :
    (state.store request manifest signature digest).reports = state.reports := by
  unfold PullState.store
  split
  case h_1 returned =>
    obtain ⟨written, compatibility, -⟩ := cacheCertificatePackage_eq_returned.mp returned
    exact absurd ⟨written, compatibility⟩ held
  case h_2 => rfl

variable (before) in
/-- A round with an answer that is verified and can be cached. -/
theorem pullPackage_of_announced {manifest signature : Json} {digest : String}
    (announced : Announced crypto trustAnchorPub trustAnchorFp request manifest signature digest) :
    ∃ cache, (cache (manifestId manifest)).manifest = some manifest ∧
      pullPackage crypto trustAnchorPub trustAnchorFp before request =
        PullState.announce { before.pulled request manifest with cache } request manifest
          digest := by
  rw [pullPackage, announced.isManifest, announced.isSignature]
  simp only [isObject_of_verified announced.verified, announced.verified]
  exact PullState.store_of_cached announced.written announced.compatibility

variable (before) in
/-- Any other round reports at most that something was pulled. -/
theorem pullPackage_of_not_announced
    (notAnnounced : ¬ ∃ manifest signature digest,
      Announced crypto trustAnchorPub trustAnchorFp request manifest signature digest) :
    ∃ new, (pullPackage crypto trustAnchorPub trustAnchorFp before request).reports =
        before.reports ++ new ∧ ∀ report ∈ new, report.lifecycleState = .pulled := by
  unfold pullPackage
  split
  case h_2 => exact ⟨[], (List.append_nil _).symm, nofun⟩
  case h_1 manifest signature isManifest isSignature =>
    split_ifs
    · exact ⟨[], (List.append_nil _).symm, nofun⟩
    · refine ⟨[pulledReport request manifest], ?_, List.forall_mem_singleton.mpr rfl⟩
      split
      case h_1 => rfl
      case h_2 digest verified =>
        refine PullState.store_reports fun ⟨written, compatibility⟩ => ?_
        exact notAnnounced ⟨manifest, signature, digest, isManifest, isSignature, verified,
          compatibility, written⟩

variable (before) in
/-- A round reports what the manifest names when the answer is of the package that was asked
for. -/
theorem reportsNamePackage_iff :
    ReportsNamePackage crypto trustAnchorPub trustAnchorFp before request
        (pullPackage crypto trustAnchorPub trustAnchorFp before request) ↔
      AnswersRequest crypto trustAnchorPub trustAnchorFp request := by
  constructor
  · intro named manifest signature digest announced
    obtain ⟨cache, -, round⟩ := pullPackage_of_announced before announced
    have reported : (pullPackage crypto trustAnchorPub trustAnchorFp before request).reports =
        before.reports ++ [pulledReport request manifest, verifiedReport request manifest digest,
          stagedReport request manifest] := by
      rw [round]
      exact List.append_assoc ..
    obtain ⟨other, _, _, isManifest, -, -, -, sameId⟩ := named _ reported
      (verifiedReport request manifest digest) (by simp) nofun
    cases announced.isManifest.symm.trans isManifest
    exact sameId
  · intro answers new reported report member notPulled
    by_cases announces : ∃ manifest signature digest,
        Announced crypto trustAnchorPub trustAnchorFp request manifest signature digest
    · obtain ⟨manifest, signature, digest, announced⟩ := announces
      obtain ⟨cache, cached, round⟩ := pullPackage_of_announced before announced
      have named : report.packageId = request.packageId := by
        rw [round, PullState.announce, PullState.pulled, List.append_assoc] at reported
        rw [← List.append_cancel_left reported] at member
        simp only [List.cons_append, List.nil_append, List.mem_cons, List.not_mem_nil,
          or_false] at member
        obtain rfl | rfl | rfl := member <;> rfl
      refine ⟨manifest, signature, digest, announced.isManifest, announced.isSignature,
        announced.verified, ?_, ?_⟩
      · rw [round]
        exact cached
      · exact (answers manifest signature digest announced).trans named.symm
    · obtain ⟨others, appended, onlyPulled⟩ := pullPackage_of_not_announced before announces
      cases List.append_cancel_left (reported.symm.trans appended)
      exact absurd (onlyPulled report member) notPulled

end Rounds

/-! ## A call -/

section Call

variable {PrivateKey PublicKey : Type} (crypto : Crypto PrivateKey PublicKey)
  (x509 : X509 PublicKey) (anchorResponse : Option Json) (pinnedFingerprint : String)

/-- Package reports name the verified package, in every round of a call: `pullAndCache_eq_ok` has
the rounds. -/
def PullNamesPackages (before : PullState) (requests : List PackageRequest) : Prop :=
  ∀ trustAnchorPub trustAnchorFp,
    openTrustAnchor crypto x509 anchorResponse pinnedFingerprint =
        .ok (trustAnchorPub, trustAnchorFp) →
      Transition.EveryStep (pullStep crypto trustAnchorPub trustAnchorFp)
        (ReportsNamePackage crypto trustAnchorPub trustAnchorFp) before requests

/-- Every answer that a call verifies and caches is of the package that was asked for. -/
def EveryAnswerIsAsked (requests : List PackageRequest) : Prop :=
  ∀ trustAnchorPub trustAnchorFp,
    openTrustAnchor crypto x509 anchorResponse pinnedFingerprint =
        .ok (trustAnchorPub, trustAnchorFp) →
      ∀ request ∈ requests, AnswersRequest crypto trustAnchorPub trustAnchorFp request

variable {crypto x509 anchorResponse pinnedFingerprint}

/-- The reports of a call name the packages that it caches exactly when no answer is of another
package: nothing on the way compares the two ids. -/
theorem package_reports_named_iff (before : PullState) (requests : List PackageRequest) :
    PullNamesPackages crypto x509 anchorResponse pinnedFingerprint before requests ↔
      EveryAnswerIsAsked crypto x509 anchorResponse pinnedFingerprint requests := by
  refine forall_congr' fun trustAnchorPub => forall_congr' fun trustAnchorFp =>
    imp_congr_right fun _ => ?_
  induction requests generalizing before with
  | nil => simp [Transition.EveryStep]
  | cons request rest ih =>
      rw [List.forall_mem_cons, ← reportsNamePackage_iff before,
        ← ih (pullPackage crypto trustAnchorPub trustAnchorFp before request)]
      simp only [Transition.EveryStep, pullStep, Option.some.injEq, forall_eq']

end Call

/-! The server answers a request with an issued package of another id. -/

def otherRequest : PackageRequest where
  packageId := "a"
  manifest := some (issuedManifest exampleMaterial)
  signature := some (issuedRecord exampleMaterial)
  written := 3
  planId := "p"
  createdAt := "t"
  syncCycleId := "c"

def emptyPullState : PullState where
  cache := fun _ => { manifest := none, signature := none, plan := none }
  reports := []
  notices := []

theorem otherRequest_announced :
    Announced Gds.digestCrypto () (Gds.digestCrypto.sha256Hex (Gds.digestCrypto.publicKeyDer ()))
      otherRequest (issuedManifest exampleMaterial) (issuedRecord exampleMaterial)
      (Gds.manifestSha256 Gds.digestCrypto (issuedManifest exampleMaterial)) where
  isManifest := rfl
  isSignature := rfl
  verified := issued_accepted exampleMaterial
  compatibility := rfl
  written := le_rfl

/-- What is reported for `a` is a package with another id. -/
theorem other_package_reported :
    ¬ PullNamesPackages Gds.digestCrypto replaceX509 (some replaceAnchor)
      replaceAttempt.settings.pinnedAnchorFingerprint emptyPullState [otherRequest] := by
  intro named
  have round := (named () _ (Fallible.bind_eq_ok.mpr ⟨replaceAnchor, rfl, replaceAnchor_verified⟩)
    _ rfl).1
  have sameId : manifestId (issuedManifest exampleMaterial) = "a" :=
    (reportsNamePackage_iff emptyPullState).mp round _ _ _ otherRequest_announced
  exact absurd sameId (by decide +kernel)

end OpcuaGds.Agent
