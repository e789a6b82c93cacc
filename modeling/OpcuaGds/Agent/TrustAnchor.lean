import OpcuaGds.Agent.ArtifactVerification

/-! # The pinned trust anchor

`load_trust_anchor` and `verify_trust_anchor_fingerprint`: the key that GDS offers is
used only if its fingerprint is the configured one.
-/

namespace OpcuaGds.Agent

open Gds (Crypto)

/-- What the `cryptography` package reads; `none` stands for an exception. A public key
may be of another kind than Ed25519; a certificate is read as its DER form. -/
structure X509 (PublicKey : Type) where
  loadPemPublicKey : String → Option (Option PublicKey)
  loadPemCertificate : String → Option (List UInt8)
  loadDerCrl : List UInt8 → Option Unit

/-- `GDS_AGENT_TRUST_ANCHOR_FINGERPRINT`, when it is set. -/
structure Pin where
  fingerprint : String
  isSet : fingerprint ≠ ""

/-- `value[key]` of a dictionary. -/
def subscript (document : Json) (key : String) : Except Failure Json :=
  attempt (document.field? key)

def asText : Json → Option String
  | .str value => some value
  | _ => none

/-- `load_trust_anchor`, given the decoded response. -/
def loadTrustAnchor (response : Option Json) : Except Failure Json := do
  let anchor ← attempt response
  ["key_id", "algorithm", "public_key_pem", "fingerprint_sha256"].forM fun key => do
    let found ← attempt (anchor.contains? key)
    require (found = true) "malformed_artifact" ("trust anchor missing field: " ++ key)
  let algorithm ← subscript anchor "algorithm"
  require (PythonText.lower algorithm.toStr = "ed25519") "unsupported_signer"
    ("unsupported trust anchor algorithm: " ++ algorithm.toStr)
  .ok anchor

section Anchor

variable {PrivateKey PublicKey : Type} (crypto : Crypto PrivateKey PublicKey)
  (x509 : X509 PublicKey)

/-- `verify_trust_anchor_fingerprint`. -/
def verifyTrustAnchorFingerprint (anchor : Json) (pinnedFingerprint : String) :
    Except Failure (PublicKey × String) := do
  let pem ← subscript anchor "public_key_pem"
  let loaded ← attempt ((asText pem).bind x509.loadPemPublicKey)
  match loaded with
  | none => .error (.rejected "unsupported_signer" "trust anchor public key is not Ed25519")
  | some publicKey => do
      let computed := crypto.sha256Hex (crypto.publicKeyDer publicKey)
      let declared := ((anchor.field? "fingerprint_sha256").getD (.str "")).toStr
      require (PythonText.lower computed = PythonText.lower declared)
        "signer_fingerprint_mismatch" "trust anchor fingerprint mismatch with provided public key"
      require (pinnedFingerprint = "" ∨
          PythonText.lower computed = PythonText.lower pinnedFingerprint)
        "signer_fingerprint_mismatch" "trust anchor fingerprint does not match pinned fingerprint"
      .ok (publicKey, computed)

/-- The anchor of one cycle, with the reason for which it is trusted. -/
structure PinnedAnchor (pin : Pin) where
  publicKey : PublicKey
  fingerprint : String
  computed : fingerprint = crypto.sha256Hex (crypto.publicKeyDer publicKey)
  pinned : PythonText.lower fingerprint = PythonText.lower pin.fingerprint

/-- A key that passes has the pinned fingerprint. -/
theorem verifyTrustAnchorFingerprint_eq_ok {anchor : Json} {pin : Pin} {publicKey : PublicKey}
    {fingerprint : String}
    (verified : verifyTrustAnchorFingerprint crypto x509 anchor pin.fingerprint =
      .ok (publicKey, fingerprint)) :
    fingerprint = crypto.sha256Hex (crypto.publicKeyDer publicKey) ∧
      PythonText.lower fingerprint = PythonText.lower pin.fingerprint := by
  simp only [verifyTrustAnchorFingerprint, Fallible.bind_eq_ok] at verified
  obtain ⟨pem, _, loaded, _, rest⟩ := verified
  cases loaded with
  | none => cases rest
  | some key =>
      simp only [Fallible.bind_eq_ok, Fallible.exists_check, require_eq_ok, Except.ok.injEq,
        Prod.mk.injEq] at rest
      obtain ⟨_, pinned, rfl, rfl⟩ := rest
      exact ⟨rfl, pinned.resolve_left pin.isSet⟩

/-- The first requests of a cycle: load the anchor and check it against the pin. -/
def openSession (pin : Pin) (response : Option Json) :
    Except Failure (PinnedAnchor crypto pin) :=
  match loadTrustAnchor response with
  | .error failure => .error failure
  | .ok anchor =>
      match verified : verifyTrustAnchorFingerprint crypto x509 anchor pin.fingerprint with
      | .error failure => .error failure
      | .ok (publicKey, fingerprint) => .ok {
          publicKey := publicKey
          fingerprint := fingerprint
          computed := (verifyTrustAnchorFingerprint_eq_ok crypto x509 verified).1
          pinned := (verifyTrustAnchorFingerprint_eq_ok crypto x509 verified).2 }

end Anchor

end OpcuaGds.Agent
