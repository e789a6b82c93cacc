import OpcuaGds.Agent.StageWrites

/-! # What the signature determines of the written material

Two artifacts that are accepted with one signature have canonical payloads that agree.
The writer reads the raw artifacts, each field through `str` with its own default, so
the files agree exactly when these readings do.
-/

namespace OpcuaGds.Agent

open Gds (Crypto)

/-! ## The two artifacts -/

/-- Artifacts accepted with one signature and one key have payloads that agree. -/
theorem accepted_payloads_agree {PrivateKey PublicKey : Type}
    {crypto : Crypto PrivateKey PublicKey} (ideal : crypto.scheme.Ideal)
    {left right signature : Json} {zone role otherZone otherRole : String}
    {trustAnchorPub : PublicKey} {trustAnchorFp : String} {result other : String × Nat}
    (acceptedLeft : verifySignedArtifact crypto left signature zone role trustAnchorPub
      trustAnchorFp = .ok result)
    (acceptedRight : verifySignedArtifact crypto right signature otherZone otherRole
      trustAnchorPub trustAnchorFp = .ok other) :
    Json.Agrees (canonicalArtifactPayload (normalizeSignedArtifactForVerification left))
      (canonicalArtifactPayload (normalizeSignedArtifactForVerification right)) := by
  obtain ⟨_, _, _, _, _, _, _, _, _, first, _⟩ :=
    (verifySignedArtifact_eq_ok crypto).mp acceptedLeft
  obtain ⟨_, _, _, _, _, _, _, _, _, second, _⟩ :=
    (verifySignedArtifact_eq_ok crypto).mp acceptedRight
  obtain ⟨text, bytes, found, _, decoded, verifiedLeft⟩ := (checkSignature_eq_ok crypto).mp first
  obtain ⟨text', bytes', found', _, decoded', verifiedRight⟩ :=
    (checkSignature_eq_ok crypto).mp second
  rw [found, Option.some.injEq, Json.str.injEq] at found'
  subst found'
  rw [decoded, Option.some.injEq] at decoded'
  subst decoded'
  exact Json.canonicalBytes_eq_iff.mp (ideal.binding _ _ _ _ verifiedLeft verifiedRight)

/-- What agreement of the payloads says about the fields that the writer reads. -/
structure PayloadsAgree (left right : Json) : Prop where
  crlBase64 : Json.Agrees ((left.field? "crl_base64").getD .null)
    ((right.field? "crl_base64").getD .null)
  certificates : Json.Agrees ((left.field? "certificates").getD (.arr []))
    ((right.field? "certificates").getD (.arr []))
  bundleField : (left.field? "crl_bundle").map Json.normalize =
    (right.field? "crl_bundle").map Json.normalize

theorem payloadsAgree_of_accepted {PrivateKey PublicKey : Type}
    {crypto : Crypto PrivateKey PublicKey} (ideal : crypto.scheme.Ideal)
    {left right signature : Json} {zone role otherZone otherRole : String}
    {trustAnchorPub : PublicKey} {trustAnchorFp : String} {result other : String × Nat}
    (acceptedLeft : verifySignedArtifact crypto left signature zone role trustAnchorPub
      trustAnchorFp = .ok result)
    (acceptedRight : verifySignedArtifact crypto right signature otherZone otherRole
      trustAnchorPub trustAnchorFp = .ok other) : PayloadsAgree left right := by
  have agrees := accepted_payloads_agree ideal acceptedLeft acceptedRight
  have bundle (artifact : Json) :
      (canonicalArtifactPayload (normalizeSignedArtifactForVerification artifact)).field?
        "crl_bundle" = artifact.field? "crl_bundle" := by
    have selected (signed : Json) : (canonicalArtifactPayload signed).field? "crl_bundle" =
        signed.field? "crl_bundle" := by
      unfold canonicalArtifactPayload
      dsimp only
      cases signed.field? "crl_bundle" <;> cases signed.field? "crl_metadata" <;> rfl
    rw [selected, field?_normalizeSignedArtifact (by decide)]
  have read {key : String} (notAdded : key ≠ "ttl_remaining_seconds") {default : Json}
      (selected : ∀ artifact, (canonicalArtifactPayload artifact).field? key =
        some ((artifact.field? key).getD default)) :
      Json.Agrees ((left.field? key).getD default) ((right.field? key).getD default) := by
    obtain ⟨value, found, same⟩ := agrees.field?_eq_some (selected _)
    rw [selected, Option.some.injEq, field?_normalizeSignedArtifact notAdded] at found
    rw [field?_normalizeSignedArtifact notAdded] at same
    exact found ▸ same
  have bundles := agrees.field? "crl_bundle"
  rw [bundle, bundle] at bundles
  exact ⟨read (by decide) fun _ => rfl, read (by decide) fun _ => rfl, bundles⟩

theorem orElse_toStr_eq_empty_iff {value other : Json} :
    (orElse value other).toStr = "" ↔ value.truthy = false ∧ other.toStr = "" := by
  unfold orElse
  cases truth : value.truthy with
  | false => simp
  | true =>
      rw [if_pos rfl, Json.toStr_eq_empty_iff]
      refine iff_of_false ?_ (fun both => Bool.noConfusion both.1)
      rintro rfl
      cases truth

variable {left right : Json}

theorem PayloadsAgree.bundles (agree : PayloadsAgree left right) :
    Json.Agrees (crlBundle left) (crlBundle right) := by
  have same := agree.bundleField
  unfold crlBundle
  cases leftFound : left.field? "crl_bundle" with
  | none =>
      rw [leftFound, Option.map_none, eq_comm, Option.map_eq_none_iff] at same
      rw [same]
      exact Json.Agrees.refl _
  | some value =>
      rw [leftFound, Option.map_some, eq_comm, Option.map_eq_some_iff] at same
      obtain ⟨other, rightFound, agrees⟩ := same
      rw [rightFound]
      have shape : other.isObject = value.isObject := Json.Agrees.isObject agrees
      cases value <;> cases other <;>
        first | exact Json.Agrees.refl _ | exact Eq.symm agrees | cases shape

/-- The two artifacts have the same CRLs to write. -/
theorem PayloadsAgree.rootCrlText_eq_empty (agree : PayloadsAgree left right) :
    rootCrlText left = "" ↔ rootCrlText right = "" := by
  rw [rootCrlText, rootCrlText, orElse_toStr_eq_empty_iff, orElse_toStr_eq_empty_iff,
    (agree.bundles.getD "root_crl_base64" .null).truthy]

theorem PayloadsAgree.intermediateCrlText_eq_empty (agree : PayloadsAgree left right) :
    intermediateCrlText left = "" ↔ intermediateCrlText right = "" := by
  rw [intermediateCrlText, intermediateCrlText, orElse_toStr_eq_empty_iff,
    orElse_toStr_eq_empty_iff, orElse_toStr_eq_empty_iff, orElse_toStr_eq_empty_iff,
    (agree.bundles.getD "intermediate_crl_base64" .null).truthy, agree.crlBase64.truthy]

/-- The two artifacts have entries that agree one by one. -/
theorem PayloadsAgree.entries (agree : PayloadsAgree left right) :
    List.Forall₂ Json.Agrees (certificateEntries left) (certificateEntries right) := by
  have read (artifact : Json) : certificateEntries artifact = certificateEntries
      (.obj [("certificates", (artifact.field? "certificates").getD (.arr []))]) := by
    unfold certificateEntries
    cases artifact.field? "certificates" with
    | none => rfl
    | some value => cases value <;> rfl
  have same := agree.certificates
  rw [read left, read right]
  generalize (left.field? "certificates").getD (.arr []) = first at same ⊢
  generalize (right.field? "certificates").getD (.arr []) = second at same ⊢
  cases first with
  | arr items =>
      cases second with
      | arr others => exact same.entries
      | _ => cases same
  | _ => cases second <;> first | exact List.Forall₂.nil | cases same

/-! ## When two artifacts are read alike -/

section Conditions

variable (pemCertToDer : String → Option (List UInt8))
  (crlNextUpdate : List UInt8 → Option (Option Int))

/-- Whatever surrounds the two calls, they write the same files. -/
def WritesAlike (left right : Json) : Prop :=
  ∀ (now : Int) (strictFreshness : Bool) (layout : StageLayout) (uuids uuids' : Nat → String)
    (tree : FileTree),
    (writeTargetStageMaterial ⟨pemCertToDer, crlNextUpdate, now, strictFreshness⟩ layout uuids left
        tree).log =
      (writeTargetStageMaterial ⟨pemCertToDer, crlNextUpdate, now, strictFreshness⟩ layout uuids'
        right tree).log

/-- Entries give the same file name and the same PEM text, up to the first one that
ends the loop with an exception. -/
def CertificatesAlike : List Json → List Json → Prop
  | left :: lefts, right :: rights =>
      left.isObject = true →
        ((certificateFile "" left).2 ≠ "" →
          (left.field? "fingerprint_sha256").isSome = true ∧
            certificateFile "" left = certificateFile "" right) ∧
        ((certificateFile "" left).2 = "" ∨
            (∃ der, pemCertToDer (certificateFile "" left).2 = some der) →
          CertificatesAlike lefts rights)
  | _, _ => True

/-- The readings of two artifacts agree as far as the writer gets. -/
structure ReadAlike (left right : Json) : Prop where
  caChain : caChainText left = caChainText right
  rootCrl : ChainReadable pemCertToDer (caChainText left) →
    crlRead (rootCrlText left) = crlRead (rootCrlText right)
  intermediateCrl : ChainReadable pemCertToDer (caChainText left) →
    crlRead (rootCrlText left) ≠ some none →
      crlRead (intermediateCrlText left) = crlRead (intermediateCrlText right)
  certificates : ChainReadable pemCertToDer (caChainText left) →
    CrlUsable crlNextUpdate (rootCrlText left) →
      CrlUsable crlNextUpdate (intermediateCrlText left) →
        CertificatesAlike pemCertToDer (certificateEntries left) (certificateEntries right)

/-! ## Artifacts that are read alike -/

variable {pemCertToDer crlNextUpdate}

theorem certificatePem_eq_empty (fresh : String) {left right : Json}
    (agree : Json.Agrees left right) :
    (certificateFile fresh left).2 = "" ↔ (certificateFile fresh right).2 = "" := by
  have same := agree.getD "pem" (.str "")
  have empty (cert : Json) : (certificateFile fresh cert).2 = "" ↔
      (cert.field? "pem").getD (.str "") = .str "" := Json.toStr_eq_empty_iff
  rw [empty, empty]
  constructor
  · intro isEmpty
    rw [isEmpty] at same
    exact same.symm.eq_of_isScalar rfl
  · intro isEmpty
    rw [isEmpty] at same
    exact same.eq_of_isScalar rfl

/-- With a fingerprint the fresh identifier is not used. -/
theorem certificateFile_of_isSome {cert : Json}
    (declared : (cert.field? "fingerprint_sha256").isSome = true) (fresh other : String) :
    certificateFile fresh cert = certificateFile other cert := by
  obtain ⟨value, found⟩ := Option.isSome_iff_exists.mp declared
  simp only [certificateFile, found, Option.getD_some]

/-- A step for an entry depends on its file name and its PEM text. -/
theorem writeCertificate_eq {env : StageEnvironment} {layout : StageLayout} {fresh : String}
    {cert : Json} (object : cert.isObject = true) (state : StageState) :
    writeCertificate env layout fresh cert state =
      if (certificateFile fresh cert).2 = "" then .ok state
      else
        match env.pemCertToDer (certificateFile fresh cert).2 with
        | none => .error (state.write layout.trustedCertsDir
            ((certificateFile fresh cert).1 ++ ".pem") (textBytes (certificateFile fresh cert).2))
        | some der => .ok ((state.write layout.trustedCertsDir
            ((certificateFile fresh cert).1 ++ ".pem")
            (textBytes (certificateFile fresh cert).2)).write layout.trustedCertsDir
            ((certificateFile fresh cert).1 ++ ".der") der) := by
  exact if_pos object

theorem writeCertificates_alike {env : StageEnvironment} {layout : StageLayout}
    {lefts rights : List Json} (agree : List.Forall₂ Json.Agrees lefts rights)
    (alike : CertificatesAlike env.pemCertToDer lefts rights) (uuids uuids' : Nat → String)
    (index : Nat) (state : StageState) :
    (writeCertificates env layout uuids index lefts state).log =
      (writeCertificates env layout uuids' index rights state).log := by
  induction agree generalizing index state with
  | nil => rfl
  | @cons left right lefts rights same rest ih =>
      rw [writeCertificates, writeCertificates]
      have shape := same.isObject
      cases object : left.isObject with
      | false =>
          rw [object] at shape
          simp only [writeCertificate, object, ← shape]
          rfl
      | true =>
          rw [object] at shape
          obtain ⟨file, continued⟩ := alike object
          have pem (fresh : String) (cert : Json) :
              (certificateFile fresh cert).2 = (certificateFile "" cert).2 := rfl
          rw [writeCertificate_eq object, writeCertificate_eq shape.symm]
          by_cases empty : (certificateFile "" left).2 = ""
          · have emptyRight := (certificatePem_eq_empty "" same).mp empty
            rw [pem, if_pos empty, pem, if_pos emptyRight]
            exact ih (continued (Or.inl empty)) _ _
          · obtain ⟨declared, equal⟩ := file empty
            have declaredRight := same.isSome_field? "fingerprint_sha256" ▸ declared
            rw [certificateFile_of_isSome declared _ "",
              certificateFile_of_isSome declaredRight _ "", ← equal, if_neg empty]
            cases read : env.pemCertToDer (certificateFile "" left).2 with
            | none => rfl
            | some der => exact ih (continued (Or.inr ⟨der, read⟩)) _ _

theorem writesAlike_of_readAlike {left right : Json} (leftObject : left.isObject = true)
    (rightObject : right.isObject = true) (agree : PayloadsAgree left right)
    (alike : ReadAlike pemCertToDer crlNextUpdate left right) :
    WritesAlike pemCertToDer crlNextUpdate left right := by
  intro now strictFreshness layout uuids uuids' tree
  rw [writeTargetStageMaterial, writeTargetStageMaterial, if_pos leftObject, if_pos rightObject,
    ← alike.caChain]
  generalize environment :
    (⟨pemCertToDer, crlNextUpdate, now, strictFreshness⟩ : StageEnvironment) = env
  have readPem : env.pemCertToDer = pemCertToDer := by rw [← environment]
  have readCrl : env.crlNextUpdate = crlNextUpdate := by rw [← environment]
  cases chainWritten : writeCaChain env layout (caChainText left) ⟨tree, []⟩ with
  | error state => rfl
  | ok chainState =>
      have readable : ChainReadable pemCertToDer (caChainText left) :=
        readPem ▸ chainReadable_of_ok chainWritten
      have crls : writeCrls env layout (rootCrlText left) (intermediateCrlText left) chainState =
          writeCrls env layout (rootCrlText right) (intermediateCrlText right) chainState :=
        writeCrls_congr (alike.rootCrl readable) agree.intermediateCrlText_eq_empty
          (alike.intermediateCrl readable) chainState
      simp only [bind, Except.bind]
      rw [← crls]
      cases crlsWritten : writeCrls env layout (rootCrlText left) (intermediateCrlText left)
          chainState with
      | error state => rfl
      | ok crlState =>
          have usable := crlsUsable_of_ok crlsWritten
          rw [readCrl] at usable
          apply writeCertificates_alike agree.entries
          rw [readPem]
          exact alike.certificates readable usable.1 usable.2

end Conditions

end OpcuaGds.Agent
