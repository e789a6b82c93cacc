import OpcuaGds.Agent.TelemetryDecision
import OpcuaGds.Foundation.PythonValue

/-! # The event that the agent posts to the collector

`forward_ot_collector_event` puts the tags of an event among its own, writes the raw value as JSON
text with some entries redacted, and cuts the message and the raw text. An event with tags that
JSON has no text for is not posted.
-/

namespace OpcuaGds.Agent.Telemetry

/-! ## The raw text -/

/-- The keys of which `sanitize_payload` redacts the values. -/
def sensitiveExact : List String :=
  ["pem", "ca_chain_pem", "crl_base64", "token", "vault_token", "role_id", "secret_id",
    "private_key"]

mutual

/-- `sanitize_payload`. -/
def sanitizePayload : PyValue → PyValue
  | .dict entries => .dict (scrubEntries entries)
  | .list items => .list (scrubItems items)
  | value => value

def scrubItems : List PyValue → List PyValue
  | [] => []
  | item :: rest => sanitizePayload item :: scrubItems rest

def scrubEntries : List (String × PyValue) → List (String × PyValue)
  | [] => []
  | (key, value) :: rest =>
      (key, if PythonText.lower key ∈ sensitiveExact then .str "[redacted]"
        else sanitizePayload value) :: scrubEntries rest

end

/-- What `truncate_text` appends. -/
def truncationMark : String := "...[truncated]"

/-- `truncate_text`. -/
def truncateText (value : String) (maxLen : Int) : String :=
  if maxLen ≤ 0 ∨ (value.toList.length : Int) ≤ maxLen then value
  else String.ofList (value.toList.take maxLen.toNat) ++ truncationMark

/-- What is sent for a raw value that JSON has no text for. -/
def serializationFailed : Json := .obj [("error", .str "raw_payload_serialization_failed")]

/-- The document that the raw text is of. -/
def rawDocument (raw : PyValue) : Json :=
  if (sanitizePayload raw).encodable then (sanitizePayload raw).toJson else serializationFailed

/-- `to_raw_string`. -/
def toRawString (raw : PyValue) (maxLen : Int) : String :=
  truncateText (String.ofList (rawDocument raw).text) maxLen

/-! ## The event -/

/-- `collector_max_message_len`, `collector_max_raw_len` and `collector_max_payload_bytes`. -/
structure CollectorLimits where
  maxMessageLen : Int
  maxRawLen : Int
  maxPayloadBytes : Int

structure CollectorEvent where
  id : String
  timestamp : String
  zone : String
  sourceType : String
  assetName : String
  assetIp : String
  severity : String
  protocol : String
  eventCategory : String
  message : String
  raw : String
  tags : Dict String PyValue

namespace CollectorEvent

variable (event : CollectorEvent)

/-- The posted document. -/
def toJson : Json :=
  .obj [("id", .str event.id), ("timestamp", .str event.timestamp), ("zone", .str event.zone),
    ("source_type", .str event.sourceType), ("asset_name", .str event.assetName),
    ("asset_ip", .str event.assetIp), ("severity", .str event.severity),
    ("protocol", .str event.protocol), ("event_category", .str event.eventCategory),
    ("message", .str event.message), ("raw", .str event.raw),
    ("tags", (PyValue.dict event.tags.items).toJson)]

/-- Its length as ASCII text, which is its number of bytes. -/
def bytes : Nat := event.toJson.text.length

end CollectorEvent

/-- `value or default`. -/
def orDefault (value default : String) : String := if value = "" then default else value

/-- What the reduction of a payload that is too large changes. -/
def reducePayload (maxRawLen : Int) (payload : CollectorEvent) : CollectorEvent :=
  { payload with
    raw := truncateText payload.raw (max 256 (maxRawLen / 2))
    tags := payload.tags.set "payload_truncated" (.str "true") }

/-- The payload that `normalize_for_ot_collector` builds from the texts and tags of an event, given
with an empty raw text, and its raw value. -/
def firstPayload (limits : CollectorLimits) (event : CollectorEvent) (raw : PyValue) :
    CollectorEvent where
  id := event.id
  timestamp := event.timestamp
  zone := orDefault event.zone "OT"
  sourceType := orDefault event.sourceType "gds-agent"
  assetName := orDefault event.assetName "OT GDS Agent"
  assetIp := orDefault event.assetIp "0.0.0.0"
  severity := orDefault event.severity "info"
  protocol := orDefault event.protocol "http"
  eventCategory := orDefault event.eventCategory "pki_trust_sync"
  message := truncateText (orDefault event.message "gds-agent event") limits.maxMessageLen
  raw := toRawString raw limits.maxRawLen
  tags := event.tags

/-- `normalize_for_ot_collector`; `none` when the tags cannot be encoded. -/
def normalizeForOtCollector (limits : CollectorLimits) (event : CollectorEvent) (raw : PyValue) :
    Option CollectorEvent :=
  let payload := firstPayload limits event raw
  if !(PyValue.dict event.tags.items).encodable then none
  else if limits.maxPayloadBytes < payload.bytes then some (reducePayload limits.maxRawLen payload)
  else some payload

/-! ## Forwarding -/

/-- How the agent reaches the collector and what it says of itself. -/
structure CollectorSender where
  enabled : Bool
  agentZone : String
  assetIp : String
  controlPlaneHost : String
  limits : CollectorLimits

/-- What is drawn and read for one event, `uuid4().hex` and `format_rfc3339_utc()`; neither is ever
empty. -/
structure EventStamp where
  id : String
  timestamp : String

/-- `tags.get(name, "")`. -/
def tagOrEmpty (tags : Dict String PyValue) (name : String) : PyValue :=
  (tags.get? name).getD (.str "")

/-- The agent's own tags, with the four that it takes over. -/
def ownTags (sender : CollectorSender) (reason : String) (tags : Dict String PyValue) :
    List (String × PyValue) :=
  [("component", .str "labshock_ot_gds_agent"), ("source_type", .str "gds_agent"),
    ("zone", .str sender.agentZone), ("collector_decision", .str "forward"),
    ("reason", .str reason), ("gds_control_plane", .str sender.controlPlaneHost),
    ("trustlist_zone", tagOrEmpty tags "trustlist_zone"),
    ("trustlist_role", tagOrEmpty tags "trustlist_role"),
    ("risk_level", tagOrEmpty tags "risk_level"), ("diff_id", tagOrEmpty tags "diff_id"),
    ("collector_decision_hint", .str "store_forward")]

/-- `if key not in tag_payload: tag_payload[key] = value`. -/
def addTag (payload : Dict String PyValue) (tag : String × PyValue) : Dict String PyValue :=
  if tag.1 ∈ payload.keys then payload else payload.set tag.1 tag.2

/-- The tags that are posted. -/
def tagPayload (sender : CollectorSender) (reason : String) (tags : Dict String PyValue) :
    Dict String PyValue :=
  tags.items.foldl addTag (Dict.ofList (ownTags sender reason tags))

/-- `forward_ot_collector_event`: the state that the decision leaves and what is posted. -/
def forwardOtCollectorEvent (str : PyValue → String) (sender : CollectorSender)
    (env : TelemetryEnv) (stamp : EventStamp) (state : TelemetryState)
    (event : TelemetryEvent PyValue) : TelemetryState × Option CollectorEvent :=
  if !sender.enabled then (state, none)
  else
    let (decision, next) := telemetryDecision str env state event
    if !decision.allow then (next, none)
    else
      (next, normalizeForOtCollector sender.limits
        { id := stamp.id
          timestamp := stamp.timestamp
          zone := sender.agentZone
          sourceType := "gds_agent"
          assetName := "OT GDS Agent"
          assetIp := sender.assetIp
          severity := event.severity
          protocol := "http"
          eventCategory := event.eventCategory
          message := event.message
          raw := ""
          tags := tagPayload sender decision.reason event.tags }
        (.dict event.raw.items))

end OpcuaGds.Agent.Telemetry
