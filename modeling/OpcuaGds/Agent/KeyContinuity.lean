import OpcuaGds.Agent.ComponentTrust
import OpcuaGds.Agent.QuarantineMoves
import OpcuaGds.Agent.RuntimeFrame

/-! # The keys of the requests

The certificate signing requests that the agent makes for the components of one runtime, with the
private keys that sign them, and every call of the agent that writes to a runtime. A certificate
that was issued for a request is of use only as long as the runtime has the key of the request.
-/

namespace OpcuaGds.Agent

open Gds (Crypto)

/-! ## Requests -/

/-- Hashes and public keys, also of a certificate file in either encoding. -/
structure RequestCrypto extends RuntimeCrypto where
  publicKeyOfCertificateFile : List UInt8 → Option (List UInt8)

/-- What a request is about: a component, or the certificate whose subject and extensions it
takes over. -/
inductive RequestSubject where
  | component (commonName applicationUri : String) (serverAuth : Bool)
  | renewal (certificate : List UInt8)
  deriving DecidableEq

/-- A signed request, with the private key that signed it and its public key. -/
structure SigningRequest where
  target : String
  subject : RequestSubject
  privateKey : List UInt8
  publicKey : List UInt8
  deriving DecidableEq

/-- What an enrollment meets: the key that it would generate, in both encodings, the write of the
key, whether the key can be read, and whether the request can be built and signed. -/
structure EnrollOutcomes where
  generatedPem : List UInt8
  generatedDer : List UInt8
  keyWrite : FileTree.WriteOutcome
  keyRead : Bool
  signed : Bool

/-- What a renewal request meets. -/
structure RenewOutcomes where
  certificateRead : Bool
  keyRead : Bool
  signed : Bool

/-- `_component_private_key_path`, relative to the runtime root. -/
def componentPrivateKeyPath (target : String) (runtime : FileTree) : Except Failure String :=
  match (targetPrivateKeyCandidates target).find? fun path => (runtime.read path).isSome with
  | some path => .ok path
  | none =>
      match targetPrivateKeyCandidates target with
      | [] => .error (.valueError "component_private_key_path_unknown")
      | first :: _ => .ok first

/-- `_ensure_component_private_key`, with the runtime that it leaves. -/
def ensureComponentPrivateKey (target : String) (outcomes : EnrollOutcomes) (runtime : FileTree) :
    Except Failure (String × Bool) × FileTree :=
  match componentPrivateKeyPath target runtime with
  | .error failure => (.error failure, runtime)
  | .ok path =>
      if (runtime.read path).isSome then (.ok (path, false), runtime)
      else
        let raw := if target = "fuxa" ∨ textEndsWith ".pem" (PythonText.lower path) then
          outcomes.generatedPem else outcomes.generatedDer
        match outcomes.keyWrite with
        | .done => (.ok (path, true), runtime.write path raw)
        | .fails _ leftover =>
            (.error .raised,
              runtime.leave path (leftover.map fun file => (file.1.text, file.2)))

section Requests

variable (crypto : RequestCrypto)

/-- `_component_csr_for_target`. -/
def componentCsrForTarget (targetCfg : Json) (outcomes : EnrollOutcomes) (runtime : FileTree) :
    Except Failure SigningRequest × FileTree :=
  let target := configText targetCfg "target" ""
  match ensureComponentPrivateKey target outcomes runtime with
  | (.error failure, left) => (.error failure, left)
  | (.ok (path, _), left) =>
      let key := if outcomes.keyRead then left.read path else none
      match key, key.bind crypto.publicKeyOfPrivateKey with
      | some privateKey, some publicKey =>
          if outcomes.signed = false then (.error .raised, left)
          else
            let commonName := textOr ((targetCfg.field? "common_name").getD .null)
              (orText target "LabShockComponent")
            let applicationUri := PythonText.strip
              (textOr ((targetCfg.field? "application_uri").getD .null) "")
            let serverAuth :=
              decide (((targetCfg.field? "component_type").getD .null).toStr = "server")
            (.ok {
              target := target
              subject := .component commonName applicationUri serverAuth
              privateKey := privateKey
              publicKey := publicKey }, left)
      | _, _ => (.error .raised, left)

/-- `build_runtime_renewal_csr`. -/
def buildRuntimeRenewalCsr (target : String) (outcomes : RenewOutcomes) (runtime : FileTree) :
    Except Failure SigningRequest := do
  let path ← runtimeCertificatePath target
  match if outcomes.certificateRead then runtime.read path else none with
  | none => .error .raised
  | some certificate =>
      match crypto.publicKeyOfCertificateFile certificate with
      | none => .error .raised
      | some certificateKey =>
          match runtimePrivateKey target runtime with
          | none => .error .raised
          | some privateKey =>
              match if outcomes.keyRead then crypto.publicKeyOfPrivateKey privateKey else none with
              | none => .error .raised
              | some publicKey =>
                  if crypto.sha256Hex certificateKey ≠ crypto.sha256Hex publicKey then
                    .error (.valueError "runtime_certificate_private_key_mismatch")
                  else if outcomes.signed = false then .error .raised
                  else .ok {
                    target := target
                    subject := .renewal certificate
                    privateKey := privateKey
                    publicKey := publicKey }

end Requests

/-! ## Runs -/

/-- The files of a runtime, which may be shared by targets, and the requests made from it. -/
structure KeyRuntime where
  runtime : FileTree
  requests : List SigningRequest

/-- A call of the agent that reads or writes a runtime. What an activation or a quarantine finds
outside of the runtime comes with the call. -/
inductive KeyEvent (PrivateKey : Type) where
  | enroll (targetCfg : Json) (outcomes : EnrollOutcomes)
  | renew (target : String) (outcomes : RenewOutcomes)
  | trustOnly (env : StageEnvironment) (targetCfg : Json) (outcomes : StageOutcomes)
      (uuids : Nat → String) (artifact : Json)
  | activation (input : ActivationInput) (outcomes : ActivationOutcomes) (found : RuntimeState)
  | quarantine (input : QuarantineInput PrivateKey) (outcomes : QuarantineOutcomes)
      (found : QuarantineState)

variable {PrivateKey PublicKey : Type}

/-- The requests that a result adds. -/
def madeRequests (result : Except Failure SigningRequest) : List SigningRequest :=
  match result with
  | .ok request => [request]
  | .error _ => []

/-- One call. -/
def KeyRuntime.step (crypto : RequestCrypto) (signers : Crypto PrivateKey PublicKey)
    (state : KeyRuntime) : KeyEvent PrivateKey → Option KeyRuntime
  | .enroll targetCfg outcomes =>
      let made := componentCsrForTarget crypto targetCfg outcomes state.runtime
      some { runtime := made.2, requests := state.requests ++ madeRequests made.1 }
  | .renew target outcomes =>
      let made := buildRuntimeRenewalCsr crypto target outcomes state.runtime
      some { state with requests := state.requests ++ madeRequests made }
  | .trustOnly env targetCfg outcomes uuids artifact =>
      some { state with
        runtime := leftFiles (applyTargetStageMaterial env (targetStageLayout targetCfg) outcomes
          uuids artifact state.runtime) }
  | .activation input outcomes found =>
      let after := (activatePackageRuntime crypto.toRuntimeCrypto input outcomes
        { found with runtime := state.runtime }).2
      some { state with runtime := after.runtime }
  | .quarantine input outcomes found =>
      let files := { found.files with runtime := state.runtime }
      let after := (activateRevocationQuarantine signers crypto.sha256Hex input outcomes
        { found with files := files }).2
      some { state with runtime := after.files.runtime }

/-- The temporary files that stay have names without a separator, and the fingerprints of an
artifact are hexadecimal. -/
def KeyEvent.Plain : KeyEvent PrivateKey → Prop
  | .enroll .. => True
  | .renew .. => True
  | .trustOnly _ _ _ _ artifact => HexFingerprints artifact
  | .activation _ outcomes _ => PlainLeftovers outcomes
  | .quarantine _ outcomes _ =>
      ∀ name content, outcomes.probe = .refused (some (name, content)) → '/' ∉ name.toList

/-- The key of a request is the key that its target has. -/
def SigningRequest.HasKey (request : SigningRequest) (crypto : RequestCrypto)
    (runtime : FileTree) : Prop :=
  runtimePrivateKey request.target runtime = some request.privateKey ∧
    crypto.publicKeyOfPrivateKey request.privateKey = some request.publicKey

/-! ## What keeps the keys -/

section Keys

variable {before after : FileTree} {target path : String}

/-- Every target that has a private key keeps it. -/
def KeepsKeys (before after : FileTree) : Prop :=
  ∀ target key, runtimePrivateKey target before = some key →
    runtimePrivateKey target after = some key

theorem keepsKeys_of_reads (same : ∀ target, ∀ path ∈ targetPrivateKeyCandidates target,
    after.read path = before.read path) : KeepsKeys before after := by
  intro target key held
  have reads : (targetPrivateKeyCandidates target).filterMap (fun path => after.read path) =
      (targetPrivateKeyCandidates target).filterMap fun path => before.read path :=
    List.filterMap_congr (same target)
  rw [runtimePrivateKey, reads]
  exact held

/-- The lists of places that there are. -/
def candidateLists : List (List String) :=
  ["fuxa", "dmz-gateway-client", "opcua-server", ""].map targetPrivateKeyCandidates

theorem candidates_mem (target : String) : targetPrivateKeyCandidates target ∈ candidateLists := by
  rw [candidateLists, List.mem_map]
  rw [targetPrivateKeyCandidates]
  split
  · exact ⟨"fuxa", by simp, by simp [targetPrivateKeyCandidates]⟩
  · split
    · exact ⟨"dmz-gateway-client", by simp, by simp [targetPrivateKeyCandidates]⟩
    · split
      · exact ⟨"opcua-server", by simp, by simp [targetPrivateKeyCandidates]⟩
      · exact ⟨"", by simp, by simp [targetPrivateKeyCandidates]⟩

/-- The place where a target's key is made is no place of a target with other places. -/
theorem candidates_eq_of_first {made target first : String} {rest : List String}
    (places : targetPrivateKeyCandidates made = first :: rest)
    (candidate : first ∈ targetPrivateKeyCandidates target) :
    targetPrivateKeyCandidates target = targetPrivateKeyCandidates made := by
  have all : ∀ theirs ∈ candidateLists, ∀ ours ∈ candidateLists,
      ours.headD "" ∈ theirs → theirs = ours := by decide +kernel
  apply all _ (candidates_mem target) _ (candidates_mem made)
  rwa [places]

theorem runtimePrivateKey_eq_none {runtime : FileTree}
    (free : (targetPrivateKeyCandidates target).find? (fun path => (runtime.read path).isSome) =
      none) : runtimePrivateKey target runtime = none := by
  have nothing : (targetPrivateKeyCandidates target).filterMap (fun path => runtime.read path) =
      [] := by
    rw [List.filterMap_eq_nil_iff]
    intro path candidate
    simpa using List.find?_eq_none.mp free path candidate
  rw [runtimePrivateKey, nothing]
  rfl

/-- The path of a component is that of its private key, or a free one where it has none. -/
theorem componentPrivateKeyPath_cases {runtime : FileTree}
    (found : componentPrivateKeyPath target runtime = .ok path) :
    (∃ key, runtime.read path = some key ∧ runtimePrivateKey target runtime = some key) ∨
      runtime.read path = none ∧ runtimePrivateKey target runtime = none ∧
        ∃ rest, targetPrivateKeyCandidates target = path :: rest := by
  unfold componentPrivateKeyPath at found
  split at found
  · rename_i first isFirst
    cases found
    obtain ⟨there, front, back, places, before⟩ := List.find?_eq_some_iff_append.mp isFirst
    obtain ⟨key, read⟩ := Option.isSome_iff_exists.mp there
    have nothing : front.filterMap (fun path => runtime.read path) = [] := by
      rw [List.filterMap_eq_nil_iff]
      intro other member
      simpa using before other member
    refine .inl ⟨key, read, ?_⟩
    rw [runtimePrivateKey, places, List.filterMap_append, nothing, List.nil_append,
      List.filterMap_cons, read]
    rfl
  · rename_i free
    split at found
    · cases found
    · rename_i rest places
      cases found
      refine .inr ⟨?_, runtimePrivateKey_eq_none free, rest, places⟩
      simpa using List.find?_eq_none.mp free path (places ▸ List.mem_cons_self)

/-- An enrollment makes a key only for a target without one, at no place of another target. -/
theorem ensureComponentPrivateKey_spec (made : String) (outcomes : EnrollOutcomes)
    (runtime : FileTree) :
    KeepsKeys runtime (ensureComponentPrivateKey made outcomes runtime).2 ∧
      ∀ path created, (ensureComponentPrivateKey made outcomes runtime).1 = .ok (path, created) →
        ∃ key, (ensureComponentPrivateKey made outcomes runtime).2.read path = some key ∧
          runtimePrivateKey made (ensureComponentPrivateKey made outcomes runtime).2 =
            some key := by
  unfold ensureComponentPrivateKey
  cases found : componentPrivateKeyPath made runtime with
  | error failure => exact ⟨fun _ _ held => held, fun _ _ returned => by cases returned⟩
  | ok path =>
      dsimp only
      rcases componentPrivateKeyPath_cases found with
        ⟨key, read, isKey⟩ | ⟨free, noKey, rest, places⟩
      · rw [if_pos (by rw [read]; rfl)]
        refine ⟨fun _ _ held => held, fun other created same => ?_⟩
        cases same
        exact ⟨key, read, isKey⟩
      · rw [if_neg (by rw [free]; decide)]
        generalize (if made = "fuxa" ∨ textEndsWith ".pem" (PythonText.lower path) = true then
          outcomes.generatedPem else outcomes.generatedDer) = raw
        cases outcomes.keyWrite with
        | done =>
            refine ⟨fun target key held => ?_, fun other created same => ?_⟩
            · have elsewhere : path ∉ targetPrivateKeyCandidates target := by
                intro candidate
                have same := candidates_eq_of_first places candidate
                rw [runtimePrivateKey, same] at held
                cases noKey.symm.trans held
              have reads : (targetPrivateKeyCandidates target).filterMap
                  (fun other => (runtime.write path raw).read other) =
                  (targetPrivateKeyCandidates target).filterMap fun other => runtime.read other :=
                List.filterMap_congr fun other candidate =>
                  FileTree.read_write_of_ne (by rintro rfl; exact elsewhere candidate) raw runtime
              rw [runtimePrivateKey, reads]
              exact held
            · cases same
              have read := FileTree.read_write_self path raw runtime
              refine ⟨raw, read, ?_⟩
              rw [runtimePrivateKey, places, List.filterMap_cons, read]
              rfl
        | fails denied leftover =>
            refine ⟨keepsKeys_of_reads fun target other candidate => ?_, fun _ _ returned => ?_⟩
            · have changed := FileTree.Changed.leave path leftover runtime
              exact changed.permanent other (permanent_of_candidate candidate)
            · cases returned

/-- A quarantine moves no private key. -/
theorem quarantine_keepsKeys {signers : Crypto PrivateKey PublicKey}
    {sha256Hex : List UInt8 → String} {input : QuarantineInput PrivateKey}
    {outcomes : QuarantineOutcomes} {state : QuarantineState}
    (plain : ∀ name content, outcomes.probe = .refused (some (name, content)) →
      '/' ∉ name.toList) :
    KeepsKeys state.files.runtime
      (activateRevocationQuarantine signers sha256Hex input outcomes state).2.files.runtime := by
  refine keepsKeys_of_reads fun target path candidate => ?_
  have isPrivate : isPrivateFile path = true ∧ '/' ∈ path.toList := by
    have all : ∀ path ∈ privateKeyPlaces, isPrivateFile path = true ∧ '/' ∈ path.toList := by
      decide +kernel
    exact all path (candidate_mem candidate)
  have outcome := activate_cases signers sha256Hex input outcomes state
  generalize activateRevocationQuarantine signers sha256Hex input outcomes state = result
    at outcome ⊢
  cases outcome with
  | stops _ idle never =>
      rcases idle.runtime with same | ⟨leftover, refused, left⟩
      · rw [same]
      · rw [left]
        rcases FileTree.read_leave "" path leftover state.files.runtime with
          same | ⟨_, name, content, rfl, here, _⟩
        · exact same
        · rw [here] at isPrivate
          exact absurd isPrivate.2 (plain name content refused)
  | performs plan warnings proceeds =>
      rw [performQuarantine_files]
      have notTaken : ¬Takes outcomes state.files.runtime (quarantineCandidates plan) path :=
        fun takes => Bool.false_ne_true ((takes_public takes).1.symm.trans isPrivate.1)
      apply Option.ext
      intro content
      exact (read_moveCandidates sha256Hex _ _).trans (and_iff_left notTaken)

end Keys

section Runs

variable {crypto : RequestCrypto} {signers : Crypto PrivateKey PublicKey}
  {state next : KeyRuntime} {event : KeyEvent PrivateKey}

theorem componentCsrForTarget_snd (targetCfg : Json) (outcomes : EnrollOutcomes)
    (runtime : FileTree) :
    (componentCsrForTarget crypto targetCfg outcomes runtime).2 =
      (ensureComponentPrivateKey (configText targetCfg "target" "") outcomes runtime).2 := by
  rw [componentCsrForTarget]
  rcases ensureComponentPrivateKey (configText targetCfg "target" "") outcomes runtime with
    ⟨failure | ⟨path, created⟩, left⟩
  · rfl
  · dsimp only
    split
    · split <;> rfl
    · rfl

theorem componentCsrForTarget_hasKey {targetCfg : Json} {outcomes : EnrollOutcomes}
    {runtime : FileTree} {request : SigningRequest}
    (made : (componentCsrForTarget crypto targetCfg outcomes runtime).1 = .ok request) :
    request.HasKey crypto (componentCsrForTarget crypto targetCfg outcomes runtime).2 := by
  have spec := (ensureComponentPrivateKey_spec (configText targetCfg "target" "") outcomes
    runtime).2
  rw [componentCsrForTarget_snd]
  rw [componentCsrForTarget] at made
  generalize ensureComponentPrivateKey (configText targetCfg "target" "") outcomes runtime =
    ensured at made spec ⊢
  obtain ⟨failure | ⟨path, created⟩, left⟩ := ensured
  · cases made
  · obtain ⟨key, read, isKey⟩ := spec path created rfl
    dsimp only at made
    split at made
    · rename_i privateKey publicKey found isPublic
      split at made
      · cases made
      · cases made
        cases keyRead : outcomes.keyRead with
        | false => simp [keyRead] at found
        | true =>
            simp only [keyRead, if_true, read, Option.some.injEq] at found
            simp only [keyRead, if_true, read, Option.bind_some] at isPublic
            subst found
            exact ⟨isKey, isPublic⟩
    · cases made

theorem buildRuntimeRenewalCsr_hasKey {target : String} {outcomes : RenewOutcomes}
    {runtime : FileTree} {request : SigningRequest}
    (made : buildRuntimeRenewalCsr crypto target outcomes runtime = .ok request) :
    request.HasKey crypto runtime := by
  rw [buildRuntimeRenewalCsr] at made
  cases place : runtimeCertificatePath target with
  | error failure =>
      rw [place] at made
      cases made
  | ok path =>
      rw [place] at made
      simp only [bind, Except.bind] at made
      split at made
      · cases made
      · split at made
        · cases made
        · split at made
          · cases made
          · rename_i privateKey isKey
            split at made
            · cases made
            · rename_i publicKey isPublic
              split at made
              · cases made
              · split at made
                · cases made
                · cases made
                  cases keyRead : outcomes.keyRead with
                  | false => simp [keyRead] at isPublic
                  | true =>
                      rw [keyRead, if_pos rfl] at isPublic
                      exact ⟨isKey, isPublic⟩

theorem mem_madeRequests {result : Except Failure SigningRequest} {request : SigningRequest}
    (member : request ∈ madeRequests result) : result = .ok request := by
  cases result with
  | error failure => cases member
  | ok made => rw [List.mem_singleton.mp member]

/-- A call keeps the keys, and the requests that it makes are for them. -/
theorem KeyRuntime.step_spec (plain : event.Plain)
    (stepped : state.step crypto signers event = some next) :
    KeepsKeys state.runtime next.runtime ∧
      ∀ request ∈ next.requests, request ∈ state.requests ∨
        request.HasKey crypto next.runtime := by
  cases event with
  | enroll targetCfg outcomes =>
      cases stepped
      refine ⟨?_, fun request member => ?_⟩
      · dsimp only
        rw [componentCsrForTarget_snd]
        exact (ensureComponentPrivateKey_spec _ outcomes state.runtime).1
      · rcases List.mem_append.mp member with earlier | made
        · exact .inl earlier
        · exact .inr (componentCsrForTarget_hasKey (mem_madeRequests made))
  | renew target outcomes =>
      cases stepped
      refine ⟨fun _ _ held => held, fun request member => ?_⟩
      rcases List.mem_append.mp member with earlier | made
      · exact .inl earlier
      · exact .inr (buildRuntimeRenewalCsr_hasKey (mem_madeRequests made))
  | trustOnly env targetCfg outcomes uuids artifact =>
      cases stepped
      refine ⟨keepsKeys_of_reads fun target => ?_, fun _ member => .inl member⟩
      exact (apply_frame env _ outcomes uuids plain state.runtime).keys target
  | activation input outcomes found =>
      cases stepped
      refine ⟨keepsKeys_of_reads fun target path candidate => ?_, fun _ member => .inl member⟩
      exact (activation_frame crypto.toRuntimeCrypto input outcomes _).keys target path candidate
        (.inr plain)
  | quarantine input outcomes found =>
      cases stepped
      refine ⟨?_, fun _ member => .inl member⟩
      exact @quarantine_keepsKeys _ _ signers crypto.sha256Hex input outcomes
        { found with files := { found.files with runtime := state.runtime } } plain

theorem SigningRequest.HasKey.verified {request : SigningRequest} {runtime : FileTree}
    (hasKey : request.HasKey crypto runtime) {input : ActivationInput}
    {outcomes : ActivationOutcomes} (target : input.target = request.target)
    (isGiven : input.certificatePem ≠ "")
    (issued : crypto.publicKeyOfCertificate input.certificatePem = some request.publicKey)
    (keyRead : outcomes.keyRead = true) :
    verifiedKeySha256 crypto.toRuntimeCrypto input outcomes runtime =
      .ok (crypto.sha256Hex request.privateKey) := by
  rw [verifiedKeySha256, if_neg isGiven, target, hasKey.1]
  simp [issued, keyRead, hasKey.2]

/-- Every request that the agent has made for a target is for the private key that the target
still has, whatever else was enrolled, renewed, applied, activated or quarantined since; the key
check of an activation passes for a certificate that was issued for any of them. -/
theorem requests_keep_key {runtime : FileTree} {events : List (KeyEvent PrivateKey)}
    {final : KeyRuntime} (plain : ∀ event ∈ events, event.Plain)
    (reached : Transition.run (KeyRuntime.step crypto signers) ⟨runtime, []⟩ events =
      some final) :
    KeepsKeys runtime final.runtime ∧
      ∀ request ∈ final.requests,
        runtimePrivateKey request.target final.runtime = some request.privateKey ∧
          ∀ (input : ActivationInput) (outcomes : ActivationOutcomes),
            input.target = request.target → input.certificatePem ≠ "" →
            crypto.publicKeyOfCertificate input.certificatePem = some request.publicKey →
            outcomes.keyRead = true →
              verifiedKeySha256 crypto.toRuntimeCrypto input outcomes final.runtime =
                .ok (crypto.sha256Hex request.privateKey) := by
  have preserved : ∀ state event next,
      (KeepsKeys runtime state.runtime ∧
        ∀ request ∈ state.requests, request.HasKey crypto state.runtime) →
      event.Plain → KeyRuntime.step crypto signers state event = some next →
        KeepsKeys runtime next.runtime ∧
          ∀ request ∈ next.requests, request.HasKey crypto next.runtime := by
    intro state event next invariant plain stepped
    obtain ⟨keeps, made⟩ := KeyRuntime.step_spec plain stepped
    refine ⟨fun target key held => keeps target key (invariant.1 target key held),
      fun request member => ?_⟩
    rcases made request member with earlier | hasKey
    · obtain ⟨isKey, isPublic⟩ := invariant.2 request earlier
      exact ⟨keeps _ _ isKey, isPublic⟩
    · exact hasKey
  have kept := Transition.run_invariant_of_good preserved
    ⟨fun _ _ held => held, fun _ member => absurd member List.not_mem_nil⟩ plain reached
  refine ⟨kept.1, fun request member => ⟨(kept.2 request member).1, ?_⟩⟩
  intro input outcomes target isGiven issued keyRead
  exact (kept.2 request member).verified target isGiven issued keyRead

end Runs

/-- Hashes, keys and certificates that are their own texts. -/
def plainKeys : RequestCrypto where
  sha256Hex := fun content => String.ofList (content.map fun byte => Char.ofNat byte.toNat)
  publicKeyOfCertificate := fun pem => some (textBytes pem)
  publicKeyOfPrivateKey := some
  publicKeyOfCertificateFile := some

def enrollmentDone : EnrollOutcomes where
  generatedPem := [1]
  generatedDer := [2]
  keyWrite := .done
  keyRead := true
  signed := true

/-- A server is enrolled, gets its trust material, and is enrolled again. -/
def enrolledTwice : List (KeyEvent Unit) :=
  [.enroll opcuaServerCfg enrollmentDone,
    .trustOnly freshCrls opcuaServerCfg smoothStage (fun _ => "") crlArtifact,
    .enroll opcuaServerCfg { enrollmentDone with generatedDer := [3] }]

theorem enrolledTwice_key : ∃ final request,
    Transition.run (KeyRuntime.step plainKeys Gds.transparentCrypto) ⟨[], []⟩ enrolledTwice =
      some final ∧
      request ∈ final.requests ∧ request.privateKey = [2] ∧
      runtimePrivateKey "opcua-server" final.runtime = some [2] := by
  have plain : ∀ event ∈ enrolledTwice, event.Plain := by
    intro event member
    simp only [enrolledTwice, List.mem_cons, List.not_mem_nil, or_false] at member
    rcases member with rfl | rfl | rfl
    · exact trivial
    · exact crlArtifact_fingerprints
    · exact trivial
  have member : (⟨"opcua-server", .component "opcua-server" "" false, [2], [2]⟩ :
      SigningRequest) ∈ ((Transition.run (KeyRuntime.step plainKeys Gds.transparentCrypto) ⟨[], []⟩
        enrolledTwice).map KeyRuntime.requests).getD [] := by
    decide +kernel
  obtain ⟨final, reached⟩ : ∃ final, Transition.run
      (KeyRuntime.step plainKeys Gds.transparentCrypto) ⟨[], []⟩ enrolledTwice = some final :=
    ⟨_, rfl⟩
  rw [reached] at member
  exact ⟨final, _, reached, member, rfl, ((requests_keep_key plain reached).2 _ member).1⟩

end OpcuaGds.Agent
