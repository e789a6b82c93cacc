import Mathlib.Logic.Function.Basic

/-! # Digital signatures

A signature scheme over byte strings, and what it means for one to be ideal: every
signature made with a key verifies under its public key, a signature that verifies
does so for one message only, and no signature is empty.
-/

/-- Key generation aside, the operations of a signature scheme. -/
structure SignatureScheme (PrivateKey PublicKey : Type) where
  publicKey : PrivateKey → PublicKey
  sign : PrivateKey → List UInt8 → List UInt8
  verify : PublicKey → List UInt8 → List UInt8 → Bool

namespace SignatureScheme

variable {PrivateKey PublicKey : Type}

structure Ideal (scheme : SignatureScheme PrivateKey PublicKey) : Prop where
  complete : ∀ key message,
    scheme.verify (scheme.publicKey key) (scheme.sign key message) message = true
  binding : ∀ publicKey signature message other,
    scheme.verify publicKey signature message = true →
      scheme.verify publicKey signature other = true → message = other
  nonempty : ∀ key message, scheme.sign key message ≠ []

variable {scheme : SignatureScheme PrivateKey PublicKey}

/-- Under an ideal scheme the signature of a message verifies for that message
and no other. -/
theorem Ideal.verify_sign_iff (ideal : scheme.Ideal) (key : PrivateKey)
    (message other : List UInt8) :
    scheme.verify (scheme.publicKey key) (scheme.sign key message) other = true ↔
      other = message := by
  constructor
  · intro verified
    exact ideal.binding _ _ _ _ verified (ideal.complete key message)
  · rintro rfl
    exact ideal.complete key other

end SignatureScheme
