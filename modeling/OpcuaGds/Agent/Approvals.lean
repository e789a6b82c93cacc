import OpcuaGds.Agent.ArtifactAgreement
import OpcuaGds.Foundation.DirectoryListing

/-! # Signed approvals

`ApprovalSigner` and the approval records of a target: how a record is made and signed,
which records of the approvals directory count, and what they sum up to.
-/

namespace OpcuaGds.Agent

open Gds (Crypto)

/-- `ApprovalSigner`, once its key is loaded. -/
structure ApprovalSigner (PrivateKey : Type) where
  privateKey : PrivateKey
  keyId : String

/-- `canonical_approval_payload`. -/
def canonicalApprovalPayload (approvalPayload : Json) : Json :=
  let get (key : String) : Json := (approvalPayload.field? key).getD .null
  .obj [
    ("schema", get "schema"),
    ("schema_version", get "schema_version"),
    ("approval_id", get "approval_id"),
    ("created_at", get "created_at"),
    ("expires_at", get "expires_at"),
    ("target", get "target"),
    ("plan_id", get "plan_id"),
    ("operator", get "operator"),
    ("decision", get "decision"),
    ("reason", get "reason"),
    ("approval_level", get "approval_level"),
    ("emergency_override", get "emergency_override"),
    ("policy_snapshot", get "policy_snapshot")]

/-- The arguments of `create_signed_approval_file` that the operator gives. -/
structure ApprovalOrder where
  target : String
  operator : String
  decision : String
  reason : String
  expiresInMinutes : Int
  approvalLevel : String
  emergencyOverride : Bool
  policySnapshot : List (String × Json)
  planId : String

/-- The approvals directory: unreadable files and files that are not JSON hold `none`.
`none` is a directory that does not exist. -/
abbrev ApprovalsDir := Option (DirectoryListing (Option Json))

section Approvals

variable {PrivateKey PublicKey : Type} (crypto : Crypto PrivateKey PublicKey)

namespace ApprovalSigner

variable (signer : ApprovalSigner PrivateKey)

def publicKey : PublicKey := crypto.scheme.publicKey signer.privateKey

def fingerprintSha256 : String := crypto.sha256Hex (crypto.publicKeyDer (signer.publicKey crypto))

/-- The signature record of a payload. -/
def signatureOf (approvalPayload : Json) : List (String × Json) :=
  let canonical := (canonicalApprovalPayload approvalPayload).canonicalBytes
  [("algorithm", .str "ed25519"),
    ("key_id", .str signer.keyId),
    ("fingerprint_sha256", .str (signer.fingerprintSha256 crypto)),
    ("signature_base64", .str (String.ofList
      (Base64.encode (crypto.scheme.sign signer.privateKey canonical))))]

/-- `ApprovalSigner.sign`. -/
def sign (approvalPayload : List (String × Json)) : Json :=
  .obj (Json.setField "signature" (.obj (signer.signatureOf crypto (.obj approvalPayload)))
    approvalPayload)

/-- `ApprovalSigner.verify`. -/
def verify (approvalRecord : Json) : Except String Unit :=
  match approvalRecord.field? "signature" with
  | some (.obj sigMeta) =>
      let get (key : String) : String := ((sigMeta.lookup key).getD (.str "")).toStr
      let sigB64 := PythonText.strip (get "signature_base64")
      if PythonText.lower (get "algorithm") ≠ "ed25519" then
        .error "approval_signature_unsupported"
      else if PythonText.strip (get "key_id") ≠ signer.keyId then
        .error "approval_signature_key_id_mismatch"
      else if PythonText.lower (PythonText.strip (get "fingerprint_sha256")) ≠
          PythonText.lower (signer.fingerprintSha256 crypto) then
        .error "approval_signature_fingerprint_mismatch"
      else if sigB64 = "" then .error "approval_signature_missing_bytes"
      else
        match Base64.decode sigB64.toList with
        | none => .error "approval_signature_malformed"
        | some sigBytes =>
            if crypto.scheme.verify (signer.publicKey crypto) sigBytes
                (canonicalApprovalPayload approvalRecord).canonicalBytes = true then .ok ()
            else .error "approval_signature_invalid"
  | _ => .error "approval_signature_missing"

end ApprovalSigner

/-- The name and the content of the file of an approval with a given expiry. -/
def signedApprovalFile (signer : ApprovalSigner PrivateKey) (order : ApprovalOrder)
    (approvalId : String) (createdAt expiresAt : Timestamp.DateTime) : String × Json :=
  let created := Gds.toRfc3339Utc createdAt
  let payload := [
    ("schema", .str "labshock_approval_v1"),
    ("schema_version", .int 1),
    ("approval_id", .str approvalId),
    ("created_at", .str created),
    ("expires_at", .str (Gds.toRfc3339Utc expiresAt)),
    ("target", .str order.target),
    ("plan_id", .str order.planId),
    ("operator", .str order.operator),
    ("decision", .str order.decision),
    ("reason", .str order.reason),
    ("approval_level", .str order.approvalLevel),
    ("emergency_override", .bool order.emergencyOverride),
    ("policy_snapshot", .obj order.policySnapshot)]
  (String.ofList (created.toList.filter fun c => c ≠ ':' ∧ c ≠ '-') ++ "_" ++ approvalId ++
    ".json", signer.sign crypto payload)

/-- `create_signed_approval_file`. The clock is read once for the creation and once for
the expiry, which may be out of the calendar. -/
def createSignedApprovalFile (signer : ApprovalSigner PrivateKey) (order : ApprovalOrder)
    (approvalId : String) (createdAt now : Timestamp.DateTime) : Option (String × Json) :=
  (now.addMicros? (max 1 order.expiresInMinutes * 60000000)).map
    (signedApprovalFile crypto signer order approvalId createdAt)

/-- The text of a field, empty when the field is missing. -/
def textOf (record : Json) (key : String) : String := ((record.field? key).getD (.str "")).toStr

/-- Whether a record counts: the checks of the loop over the approvals directory. -/
def isValidApproval (signer : ApprovalSigner PrivateKey) (target : String) (now : Int)
    (payload : Json) : Bool :=
  let expiresAt := PythonText.strip (textOf payload "expires_at")
  textOf payload "target" = target ∧
    PythonText.lower (textOf payload "decision") = "approve" ∧
    (signer.verify crypto payload).isOk ∧
    expiresAt ≠ "" ∧
    (parseRfc3339Utc expiresAt).any fun expiry => now < expiry

/-- The loop over the files; a document that is no dictionary has no `get`. -/
def collectApprovals (signer : ApprovalSigner PrivateKey) (target : String) (now : Int) :
    List (Option Json) → Except Failure (List Json)
  | [] => .ok []
  | none :: rest => collectApprovals signer target now rest
  | some payload :: rest =>
      if payload.isObject then do
        let out ← collectApprovals signer target now rest
        .ok (if isValidApproval crypto signer target now payload then payload :: out else out)
      else .error .raised

/-- `load_valid_approvals_for_target`. -/
def loadValidApprovalsForTarget (signer : ApprovalSigner PrivateKey) (approvalsDir : ApprovalsDir)
    (target : String) (now : Int) : Except Failure (List Json) :=
  match approvalsDir with
  | none => .ok []
  | some files => collectApprovals crypto signer target now (files.newestFirst.map Prod.snd)

/-- The summary of the approvals that count. -/
structure ApprovalSummary where
  approvalId : Json
  operators : List Json
  emergencyOverride : Bool
  count : Nat

/-- `str(a.get("operator", "")).strip()`. -/
def operatorOf (approval : Json) : String := PythonText.strip (textOf approval "operator")

/-- `bool(a.get("emergency_override"))`. -/
def requestsOverride (approval : Json) : Bool :=
  ((approval.field? "emergency_override").getD .null).truthy

/-- The different operators, sorted. -/
def uniqueOperators (approvals : List Json) : List String :=
  ((approvals.map operatorOf).filter (· ≠ "")).dedup.insertionSort (· ≤ ·)

/-- What the approvals of a target amount to at the required level. -/
def summarizeApprovals (requiredLevel : String) (approvals : List Json) :
    Option ApprovalSummary × String :=
  if requiredLevel = "dual" then
    let uniqueOps := uniqueOperators approvals
    if 2 ≤ uniqueOps.length then
      (some {
        approvalId := .str (",".intercalate
          ((approvals.take 2).map fun approval => textOf approval "approval_id"))
        operators := (uniqueOps.take 2).map .str
        emergencyOverride := approvals.any requestsOverride
        count := uniqueOps.length }, "approved_dual")
    else (none, "required_missing_dual")
  else
    match approvals with
    | approval :: _ =>
        (some {
          approvalId := (approval.field? "approval_id").getD .null
          operators := [(approval.field? "operator").getD .null]
          emergencyOverride := requestsOverride approval
          count := 1 }, "approved_single")
    | [] => (none, "required_missing_single")

/-- `load_active_approval_for_target`. -/
def loadActiveApprovalForTarget (signer : ApprovalSigner PrivateKey) (approvalsDir : ApprovalsDir)
    (target requiredLevel : String) (now : Int) :
    Except Failure (Option ApprovalSummary × String) := do
  let approvals ← loadValidApprovalsForTarget crypto signer approvalsDir target now
  .ok (summarizeApprovals requiredLevel approvals)

/-! ## What an approval that counts is -/

/-- The signature bytes that a record carries. -/
def signatureBytes (record : Json) : Option (List UInt8) :=
  Base64.decode (PythonText.strip
    (textOf ((record.field? "signature").getD .null) "signature_base64")).toList

/-- A record that approves the target, is signed with the signer's key and has not
expired. -/
structure ValidApproval (signer : ApprovalSigner PrivateKey) (target : String) (now : Int)
    (record : Json) : Prop where
  target : textOf record "target" = target
  approves : PythonText.lower (textOf record "decision") = "approve"
  signed : ∃ sigBytes, signatureBytes record = some sigBytes ∧
    crypto.scheme.verify (signer.publicKey crypto) sigBytes
      (canonicalApprovalPayload record).canonicalBytes = true
  unexpired : ∃ expiry,
    parseRfc3339Utc (PythonText.strip (textOf record "expires_at")) = some expiry ∧ now < expiry

variable {crypto}

/-- A record that passes the verification carries a signature of its payload. -/
theorem ApprovalSigner.verify_isOk {signer : ApprovalSigner PrivateKey} {record : Json}
    (verified : (signer.verify crypto record).isOk = true) :
    ∃ sigBytes, signatureBytes record = some sigBytes ∧
      crypto.scheme.verify (signer.publicKey crypto) sigBytes
        (canonicalApprovalPayload record).canonicalBytes = true := by
  unfold verify at verified
  split at verified
  · rename_i sigMeta carried
    have own : signatureBytes record = Base64.decode (PythonText.strip
        ((sigMeta.lookup "signature_base64").getD (.str "")).toStr).toList := by
      rw [signatureBytes, carried]
      rfl
    rw [own]
    simp only at verified
    generalize Base64.decode _ = decoded at verified ⊢
    split at verified
    · cases verified
    · split at verified
      · cases verified
      · split at verified
        · cases verified
        · split at verified
          · cases verified
          · cases decoded with
            | none => cases verified
            | some sigBytes =>
                refine ⟨sigBytes, rfl, ?_⟩
                by_contra refused
                simp only [if_neg refused] at verified
                cases verified
  · cases verified

/-- Signing a payload changes none of its fields. -/
theorem field?_sign {key : String} (other : key ≠ "signature")
    (signer : ApprovalSigner PrivateKey) (payload : List (String × Json)) :
    (signer.sign crypto payload).field? key = (Json.obj payload).field? key :=
  Json.lookup_setField_of_ne other _ payload

/-- What the signer signs it verifies, when its key identifier and its fingerprint are
free of white space. -/
theorem ApprovalSigner.verify_sign (ideal : crypto.scheme.Ideal)
    {signer : ApprovalSigner PrivateKey} (keyId : PythonText.strip signer.keyId = signer.keyId)
    (fingerprint : PythonText.strip (signer.fingerprintSha256 crypto) =
      signer.fingerprintSha256 crypto) (payload : List (String × Json)) :
    signer.verify crypto (signer.sign crypto payload) = .ok () := by
  have carried : (signer.sign crypto payload).field? "signature" =
      some (.obj (signer.signatureOf crypto (.obj payload))) :=
    Json.lookup_setField_self "signature" _ payload
  have canonical : canonicalApprovalPayload (signer.sign crypto payload) =
      canonicalApprovalPayload (.obj payload) := by
    simp only [canonicalApprovalPayload, field?_sign, ne_eq, String.reduceEq, not_false_eq_true]
  have algorithm : (signer.signatureOf crypto (.obj payload)).lookup "algorithm" =
      some (.str "ed25519") := rfl
  have key : (signer.signatureOf crypto (.obj payload)).lookup "key_id" =
      some (.str signer.keyId) := rfl
  have own : (signer.signatureOf crypto (.obj payload)).lookup "fingerprint_sha256" =
      some (.str (signer.fingerprintSha256 crypto)) := rfl
  have encoded : (signer.signatureOf crypto (.obj payload)).lookup "signature_base64" =
      some (.str (String.ofList (Base64.encode (crypto.scheme.sign signer.privateKey
        (canonicalApprovalPayload (.obj payload)).canonicalBytes)))) := rfl
  have lower : PythonText.lower "ed25519" = "ed25519" := by decide +kernel
  simp only [verify, carried, algorithm, key, own, encoded, Option.getD_some, Json.toStr_str,
    canonical, keyId, fingerprint, Base64.strip_encode, lower, ne_eq, not_true_eq_false, if_false,
    if_neg (Base64.ofList_encode_ne_empty (ideal.nonempty _ _)), String.toList_ofList,
    Base64.decode_encode]
  exact if_pos (ideal.complete _ _)

/-- A created approval counts for its target until it expires. -/
theorem signedApprovalFile_counts (ideal : crypto.scheme.Ideal)
    {signer : ApprovalSigner PrivateKey} (keyId : PythonText.strip signer.keyId = signer.keyId)
    (fingerprint : PythonText.strip (signer.fingerprintSha256 crypto) =
      signer.fingerprintSha256 crypto) (order : ApprovalOrder)
    (approves : PythonText.lower order.decision = "approve") (approvalId : String)
    (createdAt : Timestamp.DateTime) {expiresAt : Timestamp.DateTime} {now : Int}
    (early : now < expiresAt.micros) :
    isValidApproval crypto signer order.target now
      (signedApprovalFile crypto signer order approvalId createdAt expiresAt).2 = true := by
  have target : textOf (signedApprovalFile crypto signer order approvalId createdAt
      expiresAt).2 "target" = order.target :=
    congrArg (fun found => (found.getD (.str "")).toStr) (field?_sign (by decide) signer _)
  have decision : textOf (signedApprovalFile crypto signer order approvalId createdAt
      expiresAt).2 "decision" = order.decision :=
    congrArg (fun found => (found.getD (.str "")).toStr) (field?_sign (by decide) signer _)
  have expiry : textOf (signedApprovalFile crypto signer order approvalId createdAt
      expiresAt).2 "expires_at" = Gds.toRfc3339Utc expiresAt :=
    congrArg (fun found => (found.getD (.str "")).toStr) (field?_sign (by decide) signer _)
  have verified : signer.verify crypto (signedApprovalFile crypto signer order approvalId
      createdAt expiresAt).2 = .ok () := ApprovalSigner.verify_sign ideal keyId fingerprint _
  have notEmpty : Gds.toRfc3339Utc expiresAt ≠ "" := by
    intro empty
    have chars := Gds.toList_toRfc3339Utc expiresAt
    rw [empty] at chars
    simp at chars
  rw [isValidApproval, target, decision, expiry, verified, strip_toRfc3339Utc,
    parseRfc3339Utc_toRfc3339Utc]
  simp only [approves, notEmpty, early, Except.isOk, Except.toBool, Option.any_some, ne_eq,
    not_false_eq_true, decide_true, and_self]

theorem isValidApproval_valid {signer : ApprovalSigner PrivateKey} {target : String} {now : Int}
    {record : Json} (counts : isValidApproval crypto signer target now record = true) :
    ValidApproval crypto signer target now record := by
  simp only [isValidApproval, decide_eq_true_eq, Option.any_eq_true] at counts
  obtain ⟨sameTarget, approves, verified, _, expiry, parsed, later⟩ := counts
  exact ⟨sameTarget, approves, ApprovalSigner.verify_isOk verified, expiry, parsed, later⟩

variable (crypto) in
/-- The loop raises at a document that is no dictionary, and otherwise returns the records
that count in the order of the files. -/
theorem collectApprovals_eq (signer : ApprovalSigner PrivateKey) (target : String) (now : Int)
    (files : List (Option Json)) :
    collectApprovals crypto signer target now files =
      if (files.filterMap id).all Json.isObject then
        .ok ((files.filterMap id).filter (isValidApproval crypto signer target now))
      else .error .raised := by
  induction files with
  | nil => rfl
  | cons file rest ih =>
      cases file with
      | none => exact ih
      | some payload =>
          have listed : (some payload :: rest).filterMap id = payload :: rest.filterMap id := rfl
          rw [collectApprovals, listed, ih, List.all_cons, List.filter_cons]
          by_cases object : payload.isObject = true
          · rw [if_pos object, object, Bool.true_and]
            by_cases others : (rest.filterMap id).all Json.isObject = true
            · rw [if_pos others, if_pos others]
              rfl
            · rw [if_neg others, if_neg others]
              rfl
          · rw [if_neg object, if_neg]
            rw [Bool.and_eq_true]
            exact fun both => object both.1

/-- The documents in the JSON files of the directory, newest first. -/
def ApprovalsDir.documents (approvalsDir : ApprovalsDir) : List Json :=
  (DirectoryListing.newestFirst (approvalsDir.getD [])).filterMap Prod.snd

/-- The directory holds a record in a JSON file. -/
def ApprovalsDir.Holds (approvalsDir : ApprovalsDir) (record : Json) : Prop :=
  record ∈ approvalsDir.documents

variable (crypto) in
/-- What is loaded: the documents that count, unless one is no dictionary. -/
theorem loadValidApprovalsForTarget_eq (signer : ApprovalSigner PrivateKey)
    (approvalsDir : ApprovalsDir) (target : String) (now : Int) :
    loadValidApprovalsForTarget crypto signer approvalsDir target now =
      if approvalsDir.documents.all Json.isObject then
        .ok (approvalsDir.documents.filter (isValidApproval crypto signer target now))
      else .error .raised := by
  cases approvalsDir with
  | none => rfl
  | some files =>
      have documents : (files.newestFirst.map Prod.snd).filterMap id =
          ApprovalsDir.documents (some files) := List.filterMap_map
      rw [loadValidApprovalsForTarget, collectApprovals_eq, documents]

/-- Every loaded approval is held by the directory and is valid. -/
theorem loadValidApprovalsForTarget_valid {signer : ApprovalSigner PrivateKey}
    {approvalsDir : ApprovalsDir} {target : String} {now : Int} {approvals : List Json}
    (loaded : loadValidApprovalsForTarget crypto signer approvalsDir target now = .ok approvals) :
    ∀ record ∈ approvals,
      approvalsDir.Holds record ∧ ValidApproval crypto signer target now record := by
  intro record member
  rw [loadValidApprovalsForTarget_eq] at loaded
  split at loaded
  · cases loaded
    obtain ⟨held, counts⟩ := List.mem_filter.mp member
    exact ⟨held, isValidApproval_valid counts⟩
  · cases loaded

/-- The one document of a directory with one JSON file. -/
theorem ApprovalsDir.documents_singleton {name : String} {record : Json}
    (json : DirectoryListing.isJsonName name = true) :
    ApprovalsDir.documents (some [(name, some record)]) = [record] := by
  rw [documents, Option.getD_some, DirectoryListing.newestFirst, List.filter_cons, if_pos json]
  rfl

variable (crypto) in
theorem isJsonName_signedApprovalFile (signer : ApprovalSigner PrivateKey) (order : ApprovalOrder)
    (approvalId : String) (createdAt expiresAt : Timestamp.DateTime) :
    DirectoryListing.isJsonName
      (signedApprovalFile crypto signer order approvalId createdAt expiresAt).1 = true := by
  rw [DirectoryListing.isJsonName, List.isSuffixOf_iff_suffix, signedApprovalFile,
    String.toList_append]
  exact List.suffix_append _ _

/-- Enough records with a property for a level: one, or two of different operators. -/
def Approved (requiredLevel : String) (counts : Json → Prop) : Prop :=
  if requiredLevel = "dual" then
    ∃ first second, counts first ∧ counts second ∧ operatorOf first ≠ operatorOf second
  else ∃ record, counts record

theorem mem_uniqueOperators {approvals : List Json} {operator : String} :
    operator ∈ uniqueOperators approvals ↔
      operator ≠ "" ∧ ∃ approval ∈ approvals, operatorOf approval = operator := by
  rw [uniqueOperators, List.mem_insertionSort, List.mem_dedup, List.mem_filter, List.mem_map,
    decide_eq_true_eq, and_comm]

theorem nodup_uniqueOperators (approvals : List Json) : (uniqueOperators approvals).Nodup :=
  (List.perm_insertionSort _ _).nodup_iff.mpr (List.nodup_dedup _)

/-- A summary says that enough approvals were given, and it asks for the override only
if one of them does. -/
theorem summarizeApprovals_eq_some {requiredLevel : String} {approvals : List Json}
    {summary : ApprovalSummary}
    (summarized : (summarizeApprovals requiredLevel approvals).1 = some summary) :
    Approved requiredLevel (· ∈ approvals) ∧
      (summary.emergencyOverride = true →
        ∃ approval ∈ approvals, requestsOverride approval = true) := by
  unfold summarizeApprovals at summarized
  rw [Approved]
  by_cases dual : requiredLevel = "dual"
  · rw [if_pos dual] at summarized ⊢
    simp only at summarized
    split at summarized
    · rename_i two
      cases summarized
      refine ⟨?_, List.any_eq_true.mp⟩
      have distinct := nodup_uniqueOperators approvals
      match operators : uniqueOperators approvals with
      | [] => rw [operators] at two; cases two
      | [_] => rw [operators] at two; exact absurd two (Nat.not_succ_le_self 1)
      | left :: right :: _ =>
          rw [operators] at distinct
          have ofLeft : left ∈ uniqueOperators approvals := operators ▸ List.mem_cons_self
          have ofRight : right ∈ uniqueOperators approvals := by
            rw [operators]
            exact List.mem_cons_of_mem _ List.mem_cons_self
          obtain ⟨_, first, firstListed, firstOperator⟩ := mem_uniqueOperators.mp ofLeft
          obtain ⟨_, second, secondListed, secondOperator⟩ := mem_uniqueOperators.mp ofRight
          refine ⟨first, second, firstListed, secondListed, ?_⟩
          rw [firstOperator, secondOperator]
          rintro rfl
          exact (List.nodup_cons.mp distinct).1 List.mem_cons_self
    · cases summarized
  · rw [if_neg dual] at summarized ⊢
    cases approvals with
    | nil => cases summarized
    | cons approval rest =>
        cases summarized
        exact ⟨⟨approval, List.mem_cons_self⟩,
          fun requested => ⟨approval, List.mem_cons_self, requested⟩⟩

end Approvals

end OpcuaGds.Agent
