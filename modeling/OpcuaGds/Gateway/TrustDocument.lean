import OpcuaGds.Foundation.CText
import OpcuaGds.Foundation.Json

/-! # Cached trust documents of the DMZ gateway

The targets and settings of the GDS client, how it reads a cached document, and
`validate_signed_artifact_metadata`, the check that every apply makes of one.
-/

namespace OpcuaGds.Gateway

/-! ## Targets and settings -/

/-- The fields of a `GdsTarget` that an apply reads; a remote peer has no paths. -/
structure TargetConfig where
  name : String
  applicationUri : String
  runtimeSide : String
  certPath : String
  issuerDir : String
  trustedDir : String
  remotePeerReadOnly : Bool

inductive GdsTarget where
  | dmzGatewayClient
  | dmzGatewayServer
  | otServer
  deriving DecidableEq, Repr

/-- `TARGETS`. -/
def GdsTarget.config : GdsTarget → TargetConfig
  | .dmzGatewayClient => {
      name := "dmz-gateway-client"
      applicationUri := "urn:dataprotect:opcua:dmz-gateway-client"
      runtimeSide := "southbound"
      certPath := "/app/pki/southbound/own/certs/client.der"
      issuerDir := "/app/pki/southbound/issuer"
      trustedDir := "/app/pki/southbound/trusted"
      remotePeerReadOnly := false }
  | .dmzGatewayServer => {
      name := "dmz-gateway-server"
      applicationUri := "urn:dataprotect:opcua:dmz-gateway-server"
      runtimeSide := "northbound"
      certPath := "/app/pki/northbound/own/certs/server.der"
      issuerDir := "/app/pki/northbound/issuer"
      trustedDir := "/app/pki/northbound/trusted"
      remotePeerReadOnly := false }
  | .otServer => {
      name := "ot-server"
      applicationUri := "urn:dataprotect:opcua:ot-server"
      runtimeSide := "remote-peer"
      certPath := ""
      issuerDir := ""
      trustedDir := ""
      remotePeerReadOnly := true }

/-- The environment variables `DMZ_GDS_*` that an apply reads, as `env_bool` returns them. -/
structure GdsSettings where
  runtimeWriteEnabled : Bool
  requireSignedArtifacts : Bool
  strictCrlFreshness : Bool
  requireRevocationLists : Bool
  trustAnchorFingerprint : Option String

/-! ## Documents -/

/-- `cJSON_GetObjectItemCaseSensitive`: the first field of a name. -/
def getObjectItem (object : Json) (name : String) : Option Json :=
  match object with
  | .obj fields => (fields.find? fun field => CText.ofText field.1 == name).map Prod.snd
  | _ => none

theorem getObjectItem_nil (name : String) : getObjectItem (.obj []) name = none := rfl

theorem getObjectItem_cons (field : String × Json) (fields : List (String × Json))
    (name : String) :
    getObjectItem (.obj (field :: fields)) name =
      if CText.ofText field.1 = name then some field.2 else getObjectItem (.obj fields) name := by
  rw [getObjectItem, List.find?_cons]
  by_cases same : CText.ofText field.1 = name
  · rw [if_pos same, beq_iff_eq.mpr same]
    rfl
  · rw [if_neg same, beq_eq_false_iff_ne.mpr same]
    rfl

/-- `object ? cJSON_GetObjectItemCaseSensitive(object, name) : NULL`. -/
def item (object : Option Json) (name : String) : Option Json :=
  object.bind fun object => getObjectItem object name

/-- The `valuestring` of an item for which `cJSON_IsString` holds. -/
def valuestring? : Option Json → Option String
  | some (.str value) => some (CText.ofText value)
  | _ => none

theorem ofText_valuestring {found : Option Json} {value : String}
    (isText : valuestring? found = some value) : CText.ofText value = value := by
  unfold valuestring? at isText
  split at isText
  · rw [← Option.some.inj isText]
    exact CText.ofText_ofText _
  · cases isText

/-- `cJSON_IsTrue`. -/
def isTrue : Option Json → Bool
  | some (.bool value) => value
  | _ => false

/-- The files of one target's cache directory, by leaf; `none` for one that cannot be read
or parsed. -/
abbrev TargetCache := String → Option Json

/-- The document that an apply takes its trust material from, and the document around it
in certificate mode. -/
structure TrustSource where
  trustDoc : Json
  ownerDoc : Option Json

/-- The first of the leaves with a field `trust_distribution`. -/
def trustDistribution (cache : TargetCache) : List String → Option TrustSource
  | [] => none
  | leaf :: rest =>
      match cache leaf with
      | none => trustDistribution cache rest
      | some doc =>
          match getObjectItem doc "trust_distribution" with
          | none => trustDistribution cache rest
          | some trust => some ⟨trust, some doc⟩

/-- `trust_payload_from_cache_or_enrollment`. -/
def trustPayloadFromCacheOrEnrollment (cache : TargetCache) (allowCertificate : Bool) :
    Option TrustSource :=
  (if allowCertificate then
    trustDistribution cache ["renewal-result.json", "enrollment-result.json"]
  else none) <|>
    (cache "trust-material.json").map fun doc => ⟨doc, none⟩

/-! ## The metadata check -/

def trustMaterial (trustDoc : Json) : Option Json := getObjectItem trustDoc "trust_material"

def artifact (trustDoc : Json) : Option Json := item (trustMaterial trustDoc) "artifact"

def artifactSignature (trustDoc : Json) : Option Json :=
  item (trustMaterial trustDoc) "artifact_signature"

/-- The fingerprint that the signature record gives for its signer. -/
def signerFingerprint (trustDoc : Json) : Option Json :=
  item (item (artifactSignature trustDoc) "signer") "fingerprint_sha256"

/-- `crl_metadata` of the artifact, or of the trust material without one. -/
def crlMetadata (trustDoc : Json) : Option Json :=
  match artifact trustDoc with
  | some artifact => getObjectItem artifact "crl_metadata"
  | none => item (trustMaterial trustDoc) "crl_metadata"

/-- The pinned fingerprint, when it is set. -/
def GdsSettings.pinned (settings : GdsSettings) : Option String :=
  settings.trustAnchorFingerprint.filter fun pinned => pinned != ""

/-- Whether a fingerprint item is a text that equals the pin. -/
def matchesPin (pinned : String) (fingerprint : Option Json) : Bool :=
  match valuestring? fingerprint with
  | some value => CText.equalsIgnoreCase value pinned
  | none => false

/-- Why a document is not applied, as the source prints it. -/
inductive Refusal where
  | privateKeyIncludedBlocked
  | signedArtifactMissing
  | trustAnchorFingerprintMismatch
  | crlFreshnessNotVerified
  deriving DecidableEq, Repr

/-- `validate_signed_artifact_metadata`; `none` where it returns 1. -/
def validateSignedArtifactMetadata (settings : GdsSettings) (trustDoc : Json) : Option Refusal :=
  let sig := artifactSignature trustDoc
  let fingerprint := signerFingerprint trustDoc
  if isTrue (getObjectItem trustDoc "private_key_included") then some .privateKeyIncludedBlocked
  else if settings.requireSignedArtifacts ∧
      (sig.isNone ∨ (item sig "signature_base64").isNone ∨ fingerprint.isNone) then
    some .signedArtifactMissing
  else if settings.pinned.any fun pinned => !matchesPin pinned fingerprint then
    some .trustAnchorFingerprintMismatch
  else if settings.strictCrlFreshness ∧
      ¬ isTrue (item (crlMetadata trustDoc) "crl_freshness_verified") then
    some .crlFreshnessNotVerified
  else none

/-- The conditions on a document that passes. -/
structure PassesMetadata (settings : GdsSettings) (trustDoc : Json) : Prop where
  noPrivateKey : isTrue (getObjectItem trustDoc "private_key_included") = false
  signaturePresent : settings.requireSignedArtifacts = true →
    (artifactSignature trustDoc).isSome = true ∧
      (item (artifactSignature trustDoc) "signature_base64").isSome = true ∧
      (signerFingerprint trustDoc).isSome = true
  matchesPin : ∀ pinned, settings.pinned = some pinned →
    matchesPin pinned (signerFingerprint trustDoc) = true
  crlFresh : settings.strictCrlFreshness = true →
    isTrue (item (crlMetadata trustDoc) "crl_freshness_verified") = true

theorem validateSignedArtifactMetadata_eq_none {settings : GdsSettings} {trustDoc : Json} :
    validateSignedArtifactMetadata settings trustDoc = none ↔
      PassesMetadata settings trustDoc := by
  unfold validateSignedArtifactMetadata
  constructor
  · intro passed
    dsimp only at passed
    split at passed
    · cases passed
    · rename_i noKey
      split at passed
      · cases passed
      · rename_i present
        split at passed
        · cases passed
        · rename_i pin
          split at passed
          · cases passed
          · rename_i fresh
            refine ⟨Bool.eq_false_iff.mpr noKey, ?_, ?_, ?_⟩
            · intro required
              simpa [required, Option.isSome_iff_ne_none] using present
            · intro pinned isPinned
              simpa [isPinned] using pin
            · intro strict
              simpa [strict] using fresh
  · rintro ⟨noKey, present, pin, fresh⟩
    have kept : ¬ (settings.requireSignedArtifacts = true ∧
        ((artifactSignature trustDoc).isNone = true ∨
          (item (artifactSignature trustDoc) "signature_base64").isNone = true ∨
          (signerFingerprint trustDoc).isNone = true)) := by
      rintro ⟨required, missing⟩
      obtain ⟨hasSignature, hasText, hasFingerprint⟩ := present required
      rcases missing with missing | missing | missing
      · exact Option.isSome_iff_ne_none.mp hasSignature (Option.isNone_iff_eq_none.mp missing)
      · exact Option.isSome_iff_ne_none.mp hasText (Option.isNone_iff_eq_none.mp missing)
      · exact Option.isSome_iff_ne_none.mp hasFingerprint (Option.isNone_iff_eq_none.mp missing)
    have matching : ¬ (settings.pinned.any fun pinned =>
        !Gateway.matchesPin pinned (signerFingerprint trustDoc)) = true := by
      cases isPinned : settings.pinned with
      | none => exact Bool.false_ne_true
      | some pinned => simp [pin pinned isPinned]
    have isFresh : ¬ (settings.strictCrlFreshness = true ∧
        ¬ isTrue (item (crlMetadata trustDoc) "crl_freshness_verified") = true) :=
      fun ⟨strict, stale⟩ => stale (fresh strict)
    rw [if_neg (Bool.eq_false_iff.mp noKey), if_neg kept, if_neg matching, if_neg isFresh]

end OpcuaGds.Gateway
