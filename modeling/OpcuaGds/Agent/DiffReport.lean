import OpcuaGds.Agent.RuntimePaths
import OpcuaGds.Foundation.Dict
import OpcuaGds.Foundation.Json

/-! # The difference of two trust lists

The certificates of both lists are put into dictionaries by application URI before they are
compared, and the risk of the change is read from what the comparison finds.
-/

namespace OpcuaGds.Agent

/-! ## Lists and indices -/

/-- A certificate of a trust list; `none` for a field that is missing or null. -/
structure CertEntry where
  applicationUri : Option String
  commonName : Option String
  fingerprintSha256 : Option String
  pem : Option String
  deriving DecidableEq, Repr

/-- An entry of the index. -/
structure IndexedCert where
  applicationUri : String
  commonName : Option String
  fingerprintSha256 : Option String
  pem : Option String
  notAfter : Option String
  deriving DecidableEq, Repr

/-- What a comparison reads of a trust list; `caChainPem` is `none` without the field. -/
structure TrustListView where
  version : Json
  certificates : List CertEntry
  caChainPem : Option (Option String)

/-- A text that is there and not empty. -/
def presentText (text : Option String) : Option String := text.filter fun text => text != ""

section Index

variable (parseNotAfter : String → Option String)

/-- The entry of a certificate with an application URI, and whether its PEM text is malformed. -/
def indexedCert (appUri : String) (cert : CertEntry) : IndexedCert × Bool :=
  let entry (notAfter : Option String) : IndexedCert :=
    ⟨appUri, cert.commonName, cert.fingerprintSha256, cert.pem, notAfter⟩
  match presentText cert.pem with
  | none => (entry none, false)
  | some pem => (entry (parseNotAfter pem), (parseNotAfter pem).isNone)

/-- The certificates that `build_cert_index` puts into the index, one after the other. -/
def indexedEntries (certs : List CertEntry) : List (String × (IndexedCert × Bool)) :=
  certs.filterMap fun cert =>
    (presentText cert.applicationUri).map fun appUri =>
      (appUri, indexedCert parseNotAfter appUri cert)

/-- `build_cert_index`. -/
def buildCertIndex (certs : List CertEntry) : Dict String IndexedCert × List String :=
  (.ofList ((indexedEntries parseNotAfter certs).map fun entry => (entry.1, entry.2.1)),
    (indexedEntries parseNotAfter certs).filterMap fun entry =>
      if entry.2.2 then some ("malformed_certificate_entry:" ++ entry.1) else none)

end Index

/-! ## The report -/

/-- `cert_view`. -/
structure CertView where
  applicationUri : String
  commonName : Option String
  fingerprintSha256 : Option String
  notAfter : Option String
  deriving DecidableEq, Repr

def certView (cert : IndexedCert) : CertView :=
  ⟨cert.applicationUri, cert.commonName, cert.fingerprintSha256, cert.notAfter⟩

inductive NotAfterKind where
  | changed
  | extended
  | reduced
  deriving DecidableEq, Repr

inductive CertChange where
  | applicationUriChanged (previous new fingerprintSha256 : String)
  | fingerprintChanged (applicationUri : String) (previous new : Option String)
  | commonNameChanged (applicationUri : String) (previous new : Option String)
  | notAfter (kind : NotAfterKind) (applicationUri : String) (previous new : Option String)
  deriving DecidableEq, Repr

inductive DiffRisk where
  | low
  | medium
  | high
  | critical
  deriving DecidableEq, Repr

structure DiffReport where
  diffId : String
  generatedAt : String
  zone : String
  role : String
  previousVersion : Json
  newVersion : Json
  added : List CertView
  removed : List CertView
  changed : List CertChange
  caChainChanged : Bool
  crlChanged : Bool
  riskLevel : DiffRisk
  recommendation : String
  criticalReasons : List String

/-- What `build_diff_report` is given, with the id and the time that it takes; a list is `none`
where it is missing or has no field. -/
structure DiffInput where
  diffId : String
  generatedAt : String
  zone : String
  role : String
  previous : Option TrustListView
  current : Option TrustListView
  caChainChanged : Bool
  crlChanged : Bool
  criticalReasons : List String

section Compare

variable (prevIdx newIdx : Dict String IndexedCert)

/-- `{v["fingerprint_sha256"]: k for k, v in idx.items()}`, for the fingerprints that are there. -/
def fpToUri (idx : Dict String IndexedCert) : Dict String String :=
  .ofList (idx.items.filterMap fun item =>
    (presentText item.2.fingerprintSha256).map fun fp => (fp, item.1))

/-- A fingerprint in lower case; a missing one is empty. -/
def foldedFp (fp : Option String) : String := PythonText.lower (fp.getD "")

/-- The fingerprints under different application URIs, with the URIs; in the order of the previous
list, where the source leaves the order open. -/
def movedFingerprints : List (String × (String × String)) :=
  (fpToUri prevIdx).items.filterMap fun item =>
    ((fpToUri newIdx).get? item.1).bind fun newUri =>
      if item.2 ≠ newUri then some (item.1, (item.2, newUri)) else none

/-- The kind of a change of the end of validity. -/
def notAfterKind (before after : Option String) : NotAfterKind :=
  match presentText before, presentText after with
  | some old, some new => if old < new then .extended else .reduced
  | _, _ => .changed

/-- The changes of one application URI. -/
def entryChanges (appUri : String) (before after : IndexedCert) : List CertChange :=
  (if foldedFp before.fingerprintSha256 ≠ foldedFp after.fingerprintSha256 then
    [.fingerprintChanged appUri before.fingerprintSha256 after.fingerprintSha256] else []) ++
  (if before.commonName ≠ after.commonName then
    [.commonNameChanged appUri before.commonName after.commonName] else []) ++
  (if before.notAfter ≠ after.notAfter then
    [.notAfter (notAfterKind before.notAfter after.notAfter) appUri before.notAfter after.notAfter]
    else [])

/-- All changes. -/
def certChanges : List CertChange :=
  (movedFingerprints prevIdx newIdx).map (fun moved =>
    .applicationUriChanged moved.2.1 moved.2.2 moved.1) ++
  ((prevIdx.keys.filter fun uri => uri ∈ newIdx.keys).insertionSort (· ≤ ·)).flatMap fun uri =>
    match prevIdx.get? uri, newIdx.get? uri with
    | some before, some after => entryChanges uri before after
    | _, _ => []

/-- The entries of one index whose application URIs are not in the other, without those of a
moved fingerprint. -/
def onlyIn (idx other : Dict String IndexedCert) (movedUris : List String) : List CertView :=
  ((idx.keys.filter fun uri => uri ∉ other.keys ∧ uri ∉ movedUris).insertionSort (· ≤ ·)).filterMap
    fun uri => (idx.get? uri).map certView

def addedCerts : List CertView :=
  onlyIn newIdx prevIdx ((movedFingerprints prevIdx newIdx).map fun moved => moved.2.2)

def removedCerts : List CertView :=
  onlyIn prevIdx newIdx ((movedFingerprints prevIdx newIdx).map fun moved => moved.2.1)

end Compare

/-- The kinds of changes that a review is required for. -/
def CertChange.isHigh : CertChange → Bool
  | .applicationUriChanged _ _ _ => true
  | .fingerprintChanged _ _ _ => true
  | .commonNameChanged _ _ _ => true
  | .notAfter kind _ _ _ => kind == .reduced

def CertChange.isExtension : CertChange → Bool
  | .notAfter kind _ _ _ => kind == .extended
  | _ => false

/-- The risk of a change. -/
def diffRisk (criticalReasons : List String) (added removed : List CertView)
    (changed : List CertChange) (caChainChanged : Bool) : DiffRisk :=
  if criticalReasons ≠ [] then .critical
  else if removed ≠ [] ∨ caChainChanged ∨ changed.any CertChange.isHigh then .high
  else if added ≠ [] ∨ changed.any CertChange.isExtension then .medium
  else .low

def DiffRisk.recommendation : DiffRisk → String
  | .critical =>
      "Do not enforce runtime trust. Investigate control-plane data integrity immediately."
  | .high => "Operator review required before any runtime trust enforcement."
  | .medium => "Review additions/expiry changes and validate expected maintenance activity."
  | .low => "No action required. Continue monitoring."

section Report

variable (parseNotAfter : String → Option String) (input : DiffInput)

def DiffInput.prevCerts : List CertEntry := (input.previous.map TrustListView.certificates).getD []

def DiffInput.newCerts : List CertEntry := (input.current.map TrustListView.certificates).getD []

/-- The critical reasons of the current list itself. -/
def currentReasons : List String :=
  match input.current with
  | none => []
  | some current =>
      (if current.certificates.isEmpty then ["trust_list_empty"] else []) ++
      (match current.caChainPem with
        | none => []
        | some pem =>
            if textContains "BEGIN CERTIFICATE" (pem.getD "") then [] else ["ca_chain_missing"])

/-- `build_diff_report`. -/
def buildDiffReport : DiffReport :=
  let prevIndex := buildCertIndex parseNotAfter input.prevCerts
  let newIndex := buildCertIndex parseNotAfter input.newCerts
  let added := addedCerts prevIndex.1 newIndex.1
  let removed := removedCerts prevIndex.1 newIndex.1
  let changed := certChanges prevIndex.1 newIndex.1
  let criticalReasons := input.criticalReasons ++ currentReasons input ++ prevIndex.2 ++ newIndex.2
  let risk := diffRisk criticalReasons added removed changed input.caChainChanged
  { diffId := input.diffId
    generatedAt := input.generatedAt
    zone := input.zone
    role := input.role
    previousVersion := (input.previous.map TrustListView.version).getD .null
    newVersion := (input.current.map TrustListView.version).getD .null
    added := added
    removed := removed
    changed := changed
    caChainChanged := input.caChainChanged
    crlChanged := input.crlChanged
    riskLevel := risk
    recommendation := risk.recommendation
    criticalReasons := criticalReasons }

end Report

end OpcuaGds.Agent
