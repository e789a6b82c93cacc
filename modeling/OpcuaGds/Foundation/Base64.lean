import OpcuaGds.Foundation.PythonText
import Mathlib.Data.List.Basic
import Mathlib.Tactic.Common

/-! # Base64

The encoder, and the decoder of Python's `base64.b64decode` without validation:
characters outside the alphabet are skipped, padding ends the text once the last
group is complete, and an incomplete last group is an error.
-/

namespace Base64

def alphabet : List Char :=
  "ABCDEFGHIJKLMNOPQRSTUVWXYZabcdefghijklmnopqrstuvwxyz0123456789+/".toList

def sextetChar (n : Nat) : Char := alphabet.getD n 'A'

def sextet? (c : Char) : Option Nat :=
  if c.isUpper then some (c.toNat - 65)
  else if c.isLower then some (c.toNat - 97 + 26)
  else if c.isDigit then some (c.toNat - 48 + 52)
  else if c = '+' then some 62
  else if c = '/' then some 63
  else none

def encode : List UInt8 → List Char
  | [] => []
  | [a] => [sextetChar (a.toNat / 4), sextetChar (a.toNat % 4 * 16), '=', '=']
  | [a, b] =>
      [sextetChar (a.toNat / 4), sextetChar (a.toNat % 4 * 16 + b.toNat / 16),
        sextetChar (b.toNat % 16 * 4), '=']
  | a :: b :: c :: rest =>
      sextetChar (a.toNat / 4) :: sextetChar (a.toNat % 4 * 16 + b.toNat / 16) ::
        sextetChar (b.toNat % 16 * 4 + c.toNat / 64) :: sextetChar (c.toNat % 64) :: encode rest

/-- Decode from a place inside a group: `quad` characters of it were read, `left`
holds their bits that are not yet part of a byte, `pads` counts the padding. -/
def decodeFrom : Nat → Nat → Nat → List Char → Option (List UInt8)
  | quad, _, _, [] => if quad = 0 then some [] else none
  | quad, left, pads, c :: rest =>
      if c = '=' then
        if 2 ≤ quad then
          if 4 ≤ quad + (pads + 1) then some [] else decodeFrom quad left (pads + 1) rest
        else decodeFrom quad left pads rest
      else
        match sextet? c, quad with
        | none, _ => decodeFrom quad left pads rest
        | some value, 0 => decodeFrom 1 value 0 rest
        | some value, 1 =>
            (decodeFrom 2 (value % 16) 0 rest).map (UInt8.ofNat (left * 4 + value / 16) :: ·)
        | some value, 2 =>
            (decodeFrom 3 (value % 4) 0 rest).map (UInt8.ofNat (left * 16 + value / 4) :: ·)
        | some value, _ => (decodeFrom 0 0 0 rest).map (UInt8.ofNat (left * 64 + value) :: ·)

/-- `base64.b64decode` of a text; a text that is not ASCII is refused. -/
def decode (chars : List Char) : Option (List UInt8) :=
  if chars.all fun c => c.toNat < 128 then decodeFrom 0 0 0 chars else none

theorem sextetChar_spec {n : Nat} (small : n < 64) :
    sextet? (sextetChar n) = some n ∧ sextetChar n ≠ '=' ∧ (sextetChar n).toNat < 128 := by
  have all : ∀ m < 64,
      sextet? (sextetChar m) = some m ∧ sextetChar m ≠ '=' ∧ (sextetChar m).toNat < 128 := by
    decide +kernel
  exact all n small

/-- One character of the alphabet. -/
theorem decodeFrom_sextet {n : Nat} (small : n < 64) (quad left pads : Nat) (rest : List Char) :
    decodeFrom quad left pads (sextetChar n :: rest) =
      match quad with
      | 0 => decodeFrom 1 n 0 rest
      | 1 => (decodeFrom 2 (n % 16) 0 rest).map (UInt8.ofNat (left * 4 + n / 16) :: ·)
      | 2 => (decodeFrom 3 (n % 4) 0 rest).map (UInt8.ofNat (left * 16 + n / 4) :: ·)
      | _ => (decodeFrom 0 0 0 rest).map (UInt8.ofNat (left * 64 + n) :: ·) := by
  obtain ⟨value, notPad, _⟩ := sextetChar_spec small
  rcases quad with _ | _ | _ | quad <;> simp only [decodeFrom, if_neg notPad, value]

theorem ofNat_eq_of_toNat {n : Nat} {byte : UInt8} (same : n = byte.toNat) :
    UInt8.ofNat n = byte := by
  rw [same, UInt8.ofNat_toNat]

theorem decodeFrom_encode (bytes : List UInt8) : decodeFrom 0 0 0 (encode bytes) = some bytes := by
  have bound (byte : UInt8) : byte.toNat < 256 := byte.toNat_lt
  induction bytes using encode.induct with
  | case1 => rfl
  | case2 a =>
      have first := bound a
      rw [encode, decodeFrom_sextet (by omega)]
      simp only
      rw [decodeFrom_sextet (by omega)]
      simp only [decodeFrom, if_true, Nat.reduceLeDiff, Nat.reduceAdd, if_false, Option.map_some,
        Option.some.injEq, List.cons.injEq, and_true]
      exact ofNat_eq_of_toNat (by omega)
  | case3 a b =>
      have first := bound a
      have second := bound b
      rw [encode, decodeFrom_sextet (by omega)]
      simp only
      rw [decodeFrom_sextet (by omega)]
      simp only
      rw [decodeFrom_sextet (by omega)]
      simp only [decodeFrom, if_true, Nat.reduceLeDiff, Nat.reduceAdd, Option.map_some,
        Option.some.injEq, List.cons.injEq, and_true]
      exact ⟨ofNat_eq_of_toNat (by omega), ofNat_eq_of_toNat (by omega)⟩
  | case4 a b c rest ih =>
      have first := bound a
      have second := bound b
      have third := bound c
      rw [encode, decodeFrom_sextet (by omega)]
      simp only
      rw [decodeFrom_sextet (by omega)]
      simp only
      rw [decodeFrom_sextet (by omega)]
      simp only
      rw [decodeFrom_sextet (by omega)]
      simp only [ih, Option.map_some, Option.some.injEq, List.cons.injEq, and_true]
      exact ⟨ofNat_eq_of_toNat (by omega), ofNat_eq_of_toNat (by omega),
        ofNat_eq_of_toNat (by omega)⟩

/-- What holds of the alphabet and of the padding holds of every encoded character. -/
theorem encode_forall {holds : Char → Prop} (sextet : ∀ n < 64, holds (sextetChar n))
    (pad : holds '=') (bytes : List UInt8) : ∀ c ∈ encode bytes, holds c := by
  have bound (byte : UInt8) : byte.toNat < 256 := byte.toNat_lt
  induction bytes using encode.induct with
  | case1 => exact fun c member => nomatch member
  | case2 a =>
      have first := bound a
      simp only [encode, List.mem_cons, List.not_mem_nil, or_false, forall_eq_or_imp, forall_eq]
      exact ⟨sextet _ (by omega), sextet _ (by omega), pad, pad⟩
  | case3 a b =>
      have first := bound a
      have second := bound b
      simp only [encode, List.mem_cons, List.not_mem_nil, or_false, forall_eq_or_imp, forall_eq]
      exact ⟨sextet _ (by omega), sextet _ (by omega), sextet _ (by omega), pad⟩
  | case4 a b c rest ih =>
      have first := bound a
      have second := bound b
      have third := bound c
      simp only [encode, List.mem_cons, forall_eq_or_imp]
      exact ⟨sextet _ (by omega), sextet _ (by omega), sextet _ (by omega), sextet _ (by omega), ih⟩

theorem encode_ascii (bytes : List UInt8) : ∀ c ∈ encode bytes, c.toNat < 128 :=
  encode_forall (fun _ small => (sextetChar_spec small).2.2) (by decide) bytes

/-- What was encoded is decoded. -/
theorem decode_encode (bytes : List UInt8) : decode (encode bytes) = some bytes := by
  have ascii : ((encode bytes).all fun c => decide (c.toNat < 128)) = true := by
    simpa only [List.all_eq_true, decide_eq_true_eq] using encode_ascii bytes
  rw [decode, if_pos ascii, decodeFrom_encode]

/-- There is no white space around an encoded text. -/
theorem strip_encode (bytes : List UInt8) :
    PythonText.strip (String.ofList (encode bytes)) = String.ofList (encode bytes) := by
  have alphabet : ∀ n < 64, PythonText.isSpace (sextetChar n) = false := by decide +kernel
  apply PythonText.strip_eq_self
  rw [String.toList_ofList]
  exact encode_forall alphabet (by decide) bytes

/-- Only no bytes at all are encoded by no text. -/
theorem ofList_encode_ne_empty {bytes : List UInt8} (some : bytes ≠ []) :
    String.ofList (encode bytes) ≠ "" := by
  intro empty
  have blank : encode bytes = [] := by
    rw [← String.toList_ofList (l := encode bytes), empty]
    rfl
  have decoded := decode_encode bytes
  rw [blank] at decoded
  exact some (Option.some.inj decoded).symm

end Base64
