import OpcuaGds.Foundation.Transition
import OpcuaGds.Gds.ArtifactSigning

/-! # Serving and regenerating signed artifacts

`_get_or_regenerate_signed_artifact` in its phases: bring the trust list up to date,
read it, decide under the lock whether the stored artifact will do, regenerate it
under the lock, and pick the document to return with the cache in front.
-/

namespace OpcuaGds.Gds

/-- The settings that regeneration reads; the threshold is the share of the
artifact lifetime, in whole seconds. -/
structure RegenerationSettings where
  regenThresholdSeconds : Int
  regenMinIntervalSeconds : Int

/-- An entry of `SIGNED_ARTIFACT_CACHE`. -/
structure CacheEntry where
  rowId : Nat
  artifactRevision : Nat
  artifact : Json

/-- The database and the process state of one GDS. The times of the last
regenerations are readings of `time.time()` in microseconds. -/
structure GdsState where
  db : Database
  cache : Zone → Role → Option CacheEntry
  lastRegenAt : Zone → Role → Int

/-- A request, with the clock readings and the answer of Vault that it will meet;
no answer stands for an exception. -/
structure ArtifactRequest where
  zone : Zone
  role : Role
  forceRebuild : Bool
  source : String
  ensuredAt : Int
  firstCheckAt : Int
  secondCheckAt : Int
  regenAt : Int
  generatedAt : Timestamp.DateTime
  material : Option VaultMaterial

namespace Database

def trustArtifactsOf (db : Database) (zone : Zone) (role : Role) : List TrustArtifact :=
  db.trustArtifacts.filter fun row => row.zone = zone ∧ row.role = role

/-- `get_latest_trust_artifact`. -/
def latestTrustArtifact? (db : Database) (zone : Zone) (role : Role) : Option TrustArtifact :=
  VersionedTable.latest? TrustArtifact.artifactRevision (db.trustArtifactsOf zone role)

/-- The row that `insert_trust_artifact` stores. -/
def newTrustArtifact (db : Database) (zone : Zone) (role : Role) (trustlistVersion : Nat)
    (signed : SignedArtifact) (reason : String) : TrustArtifact where
  id := freshId (db.trustArtifacts.map TrustArtifact.id)
  zone := zone
  role := role
  trustlistVersion := trustlistVersion
  artifactRevision :=
    VersionedTable.maxVersion TrustArtifact.artifactRevision (db.trustArtifactsOf zone role) + 1
  artifactJson := signed.artifact
  artifactSha256 := signed.artifactSha256
  signatureBase64 := signed.signatureBase64
  signerKeyId := signed.signerKeyId
  signerFingerprintSha256 := signed.signerFingerprintSha256
  generatedAt := signed.generatedAt
  expiresAt := signed.expiresAt
  reason := reason

def insertTrustArtifact (db : Database) (row : TrustArtifact) : Database :=
  { db with trustArtifacts := db.trustArtifacts ++ [row] }

theorem trustArtifactsOf_insertTrustArtifact_self (db : Database) (row : TrustArtifact) :
    (db.insertTrustArtifact row).trustArtifactsOf row.zone row.role =
      db.trustArtifactsOf row.zone row.role ++ [row] := by
  simp [trustArtifactsOf, insertTrustArtifact]

theorem trustArtifactsOf_insertTrustArtifact_of_ne (db : Database) (row : TrustArtifact)
    {zone : Zone} {role : Role} (distinct : ¬(row.zone = zone ∧ row.role = role)) :
    (db.insertTrustArtifact row).trustArtifactsOf zone role = db.trustArtifactsOf zone role := by
  simp [trustArtifactsOf, insertTrustArtifact, distinct]

/-- The inserted row is the latest of its zone and role. -/
theorem latestTrustArtifact?_insert_self (db : Database) (zone : Zone) (role : Role)
    (trustlistVersion : Nat) (signed : SignedArtifact) (reason : String) :
    (db.insertTrustArtifact
      (db.newTrustArtifact zone role trustlistVersion signed reason)).latestTrustArtifact?
        zone role = some (db.newTrustArtifact zone role trustlistVersion signed reason) := by
  have inserted := trustArtifactsOf_insertTrustArtifact_self db
    (db.newTrustArtifact zone role trustlistVersion signed reason)
  rw [latestTrustArtifact?]
  refine (congrArg _ inserted).trans ?_
  exact VersionedTable.latest?_concat (Nat.lt_succ_self _)

/-- The other zones and roles keep their latest row. -/
theorem latestTrustArtifact?_insert_of_ne (db : Database) (row : TrustArtifact) {zone : Zone}
    {role : Role} (distinct : ¬(row.zone = zone ∧ row.role = role)) :
    (db.insertTrustArtifact row).latestTrustArtifact? zone role =
      db.latestTrustArtifact? zone role := by
  rw [latestTrustArtifact?, trustArtifactsOf_insertTrustArtifact_of_ne db row distinct,
    latestTrustArtifact?]

end Database

/-- `_ttl_remaining_seconds`. -/
def ttlRemainingSeconds (row : TrustArtifact) (now : Int) : Int :=
  max 0 ((row.expiresAt.micros - now) / 1000000)

section Regeneration

variable {PrivateKey PublicKey : Type} (crypto : Crypto PrivateKey PublicKey)
  (settings : RegenerationSettings) (signer : TrustArtifactSigner PrivateKey)

/-- `_regeneration_reason`. -/
def regenerationReason (trustList : TrustList) (currentRow : Option TrustArtifact)
    (forceRebuild : Bool) (source : String) (now : Int) : Option String :=
  if forceRebuild then some "force_rebuild"
  else
    match currentRow with
    | none => some "cache_miss"
    | some row =>
        if row.trustlistVersion ≠ trustList.version then some "version_changed"
        else if row.signerKeyId ≠ signer.keyId then some "signer_changed"
        else if PythonText.lower row.signerFingerprintSha256 ≠
            PythonText.lower (signer.fingerprintSha256 crypto) then some "signer_changed"
        else if ttlRemainingSeconds row now < settings.regenThresholdSeconds then
          some (if source = "scheduler" then "ttl_refresh" else "ttl_threshold")
        else none

/-- Whether the rate limit holds a regeneration back. -/
def isRateLimited (request : ArtifactRequest) (state : GdsState) : Bool :=
  !request.forceRebuild &&
    request.regenAt - state.lastRegenAt request.zone request.role <
      settings.regenMinIntervalSeconds * 1000000

/-- What a critical section ends with. -/
inductive Regeneration where
  | raised
  | kept (row : Option TrustArtifact)
  | inserted (row : TrustArtifact) (artifact : Json)

/-- The second critical section: decide again, and regenerate unless the rate limit
holds it back. -/
def regenerate (request : ArtifactRequest) (trustList : TrustList)
    (certs : List Database.TrustedCertificate) (state : GdsState) : GdsState × Regeneration :=
  let row := state.db.latestTrustArtifact? request.zone request.role
  match regenerationReason crypto settings signer trustList row request.forceRebuild request.source
      request.secondCheckAt with
  | none => (state, .kept row)
  | some reason =>
      if isRateLimited settings request state then (state, .kept row)
      else
        let nextRevision := (row.map TrustArtifact.artifactRevision).getD 0 + 1
        match request.material.bind fun material =>
            signer.buildSignedArtifact crypto trustList (certs.map TrustedCertificate.toJson)
              material nextRevision reason request.generatedAt with
        | none => (state, .raised)
        | some signed =>
            let row := state.db.newTrustArtifact request.zone request.role trustList.version signed
              reason
            ({ state with
                db := state.db.insertTrustArtifact row
                lastRegenAt := Function.update state.lastRegenAt request.zone
                  (Function.update (state.lastRegenAt request.zone) request.role request.regenAt) },
              .inserted row signed.artifact)

/-- Both critical sections. -/
def checkAndRegenerate (request : ArtifactRequest) (trustList : TrustList)
    (certs : List Database.TrustedCertificate) (state : GdsState) : GdsState × Regeneration :=
  let row := state.db.latestTrustArtifact? request.zone request.role
  match regenerationReason crypto settings signer trustList row request.forceRebuild request.source
      request.firstCheckAt with
  | none => (state, .kept row)
  | some _ => regenerate crypto settings signer request trustList certs state

/-- What a call returns. -/
inductive Served where
  | nothing
  | raised
  | served (trustList : TrustList) (row : TrustArtifact) (artifact : Json)

/-- The document for a stored row: the cached one if the cache is about that row. -/
def documentOf (cached : Option CacheEntry) (row : TrustArtifact) : Json :=
  match cached with
  | some entry =>
      if entry.rowId = row.id ∧ entry.artifact.isObject then entry.artifact else row.artifactJson
  | none => row.artifactJson

def GdsState.remember (state : GdsState) (zone : Zone) (role : Role) (row : TrustArtifact)
    (artifact : Json) : GdsState :=
  { state with
    cache := Function.update state.cache zone (Function.update (state.cache zone) role
      (some { rowId := row.id, artifactRevision := row.artifactRevision, artifact := artifact })) }

/-- The end of the call: choose the document and remember it. Without any stored
row there is none to read. -/
def finish (request : ArtifactRequest) (trustList : TrustList) (cached : Option CacheEntry) :
    GdsState × Regeneration → GdsState × Served
  | (state, .raised) => (state, .raised)
  | (state, .kept none) => (state, .raised)
  | (state, .kept (some row)) =>
      let artifact := documentOf cached row
      (state.remember request.zone request.role row artifact, .served trustList row artifact)
  | (state, .inserted row artifact) =>
      (state.remember request.zone request.role row artifact, .served trustList row artifact)

/-- The first step of a call. -/
def GdsState.ensured (state : GdsState) (request : ArtifactRequest) : GdsState :=
  { state with
    db := state.db.ensureTrustListCurrent request.zone request.role request.ensuredAt }

/-- The call after its first step. -/
def serveLatest (request : ArtifactRequest) (state : GdsState) : GdsState × Served :=
  match state.db.latestTrustListWithCerts? request.zone request.role with
  | none => (state, .nothing)
  | some (trustList, certs) =>
      finish request trustList (state.cache request.zone request.role)
        (checkAndRegenerate crypto settings signer request trustList certs state)

/-- `_get_or_regenerate_signed_artifact` with the Vault client and the signer at hand. -/
def getOrRegenerateSignedArtifact (request : ArtifactRequest) (state : GdsState) :
    GdsState × Served :=
  serveLatest crypto settings signer request (state.ensured request)

end Regeneration

end OpcuaGds.Gds
