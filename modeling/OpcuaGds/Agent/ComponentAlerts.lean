import OpcuaGds.Agent.ExpiryAlerts

/-! # Alerts about components

What reaches the collector of the status reports that components post to the GDS.
-/

namespace OpcuaGds.Agent

open Gds (ComponentStatusBody ComponentStatusRow ComponentStatusTable StatusPost)

/-- The component, the message and the severity of an alert. -/
def OtEvent.componentAlert? (event : OtEvent) : Option (String × String × String) :=
  if event.message ∈ componentMessages then
    match event.raw.lookup "application_uri" with
    | some (.str applicationUri) => some (applicationUri, event.message, event.severity)
    | _ => none
  else none

/-- The status is the word `failed`. -/
def HasFailed (status : Option String) : Prop :=
  ∃ text, status = some text ∧ PythonText.lower text = "failed"

instance (status : Option String) : Decidable (HasFailed status) :=
  decidable_of_iff (status.any fun text => PythonText.lower text = "failed")
    (by simp [HasFailed, Option.any_eq_true])

/-- The first problem of a report, with its severity. -/
def reportProblem? (report : ComponentStatusBody) : Option (String × String) :=
  if report.privateKeyExported ∨ report.privateKeyTouched then
    some ("component_private_key_policy_violation_reported", "critical")
  else if ¬report.crlFreshnessVerified then some ("component_crl_freshness_not_verified", "warning")
  else if HasFailed report.lastRenewalStatus then some ("component_renewal_failed", "warning")
  else if HasFailed report.lastApplyStatus then some ("component_trust_apply_failed", "warning")
  else none

/-! ## Reading the rows -/

theorem textOrEmpty_str (text : String) : textOrEmpty (.str text) = text := by
  rw [textOrEmpty]
  by_cases empty : text = ""
  · simp [Json.truthy, empty]
  · simp [Json.truthy, Json.toStr, empty]

theorem lower_textOrEmpty_eq_failed (status : Option String) :
    PythonText.lower (textOrEmpty (Gds.jsonText status)) = "failed" ↔ HasFailed status := by
  cases status with
  | none => simp [Gds.jsonText, textOrEmpty, Json.truthy, HasFailed, PythonText.lower]
  | some text => simp [Gds.jsonText, textOrEmpty_str, HasFailed]

/-- The agent alerts about the first problem of a listed row. -/
theorem componentAlert?_of_row (syncCycleId : String) (row : ComponentStatusRow) :
    (componentEvent? syncCycleId row.toJson).bind OtEvent.componentAlert? =
      (reportProblem? row.report).map (row.applicationUri, ·) := by
  have isDict : row.toJson.isObject = true := rfl
  have applicationUri : entryOr row.toJson "application_uri" .null = .str row.applicationUri := rfl
  have exported : entryOr row.toJson "private_key_exported" .null =
      .bool row.report.privateKeyExported := rfl
  have touched : entryOr row.toJson "private_key_touched" .null =
      .bool row.report.privateKeyTouched := rfl
  have fresh : entryOr row.toJson "crl_freshness_verified" .null =
      .bool row.report.crlFreshnessVerified := rfl
  have renewal : entryOr row.toJson "last_renewal_status" .null =
      Gds.jsonText row.report.lastRenewalStatus := rfl
  have applied : entryOr row.toJson "last_apply_status" .null =
      Gds.jsonText row.report.lastApplyStatus := rfl
  rw [componentEvent?, if_pos isDict, applicationUri, textOrEmpty_str, componentProblem?, exported,
    touched, fresh, renewal, applied, reportProblem?]
  simp only [isTrueValue, isFalseValue, lower_textOrEmpty_eq_failed, Bool.or_eq_true,
    Bool.not_eq_true, Bool.not_eq_true']
  split
  · rfl
  · split
    · rfl
    · split
      · rfl
      · split
        · rfl
        · rfl

/-! ## Every run of posts -/

/-- The alerts about components are those about the documents of components. -/
theorem filterMap_componentAlert?_of_complete {syncCycleId telemetryPath : String}
    {telemetry : GdsTelemetry}
    (complete : (gdsTelemetryEvents syncCycleId telemetryPath telemetry).2 = true) :
    (gdsTelemetryEvents syncCycleId telemetryPath telemetry).1.filterMap OtEvent.componentAlert? =
      (componentEvents syncCycleId (documentOrEmpty telemetry.componentLifecycleStatus)).filterMap
        OtEvent.componentAlert? := by
  have apart : ∀ message ∈ expiryMessages, message ∉ componentMessages := by decide
  have noCerts : ((telemetryCertEvents (documentOrEmpty telemetry.certificateTelemetry)).map
      (certEvent syncCycleId)).filterMap OtEvent.componentAlert? = [] :=
    List.filterMap_eq_nil_iff.mpr fun event member =>
      if_neg (apart _ (certEvent_message member))
  rw [gdsTelemetryEvents] at complete ⊢
  cases isCount :
      intOrZero (entryOr (documentOrEmpty telemetry.certificateDrift) "drift_count" .null) with
  | none => simp [isCount] at complete
  | some driftCount =>
      have noDrift (drift : Json) : (if 0 < driftCount then [driftDetectedEvent syncCycleId drift]
          else []).filterMap OtEvent.componentAlert? = [] := by
        split <;> rfl
      have noPulled (metrics drift components : Json) :
          (telemetryPulledEvent syncCycleId telemetryPath metrics drift
            components).componentAlert? = none := rfl
      simp only [List.cons_append, List.filterMap_cons_none (noPulled _ _ _),
        List.filterMap_append, noDrift, noCerts, List.nil_append, List.append_nil]

/-- The alerts: each is about the first problem of the last report of a component, there is one at
most for a component, and none is missing unless 200 other rows are as new. -/
structure ComponentAlertsExact (posts : List StatusPost) (table : ComponentStatusTable)
    (alerts : List (String × String × String)) : Prop where
  once : (alerts.map Prod.fst).Nodup
  sound : ∀ applicationUri problem, (applicationUri, problem) ∈ alerts →
    ∃ row, Gds.lastRow? posts applicationUri = some row ∧
      reportProblem? row.report = some problem
  announced : ∀ applicationUri row problem, Gds.lastRow? posts applicationUri = some row →
    reportProblem? row.report = some problem →
      ((table.items.map Prod.snd).countP fun other =>
          other ≠ row ∧ row.updatedAt ≤ other.updatedAt) < 200 →
        (applicationUri, problem) ∈ alerts

/-- A client posts that its private key was touched. -/
def touchedPost : StatusPost where
  applicationUri := "urn:client"
  body := ⟨"urn:client", none, none, none, none, none, none, none, none, none, none, none, none,
    true, none, none, none, false, true, false, none⟩
  mtls := true
  registered := true
  authorized := true
  receivedAt := 5
  now := 5

end OpcuaGds.Agent
