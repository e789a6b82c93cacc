import OpcuaGds.Agent.Approvals
import OpcuaGds.Foundation.NumberText

/-! # Revocation by serial number

The serial numbers of a certificate revocation list are kept as texts, decimal and hexadecimal
ones together, and serials are looked up as texts.
-/

namespace OpcuaGds.Agent

open NumberText

section Model

variable (loadCrl : List UInt8 → Option (List Int))

/-- The serial numbers that a revocation list has; none where there is no list or it cannot be
loaded. -/
def listedSerials (crlDer : Option (List UInt8)) : List Int :=
  match crlDer with
  | none => []
  | some der => if der = [] then [] else (loadCrl der).getD []

/-- `_crl_serials`. -/
def crlSerials (crlDer : Option (List UInt8)) : List String :=
  (listedSerials loadCrl crlDer).flatMap fun serial => [intText 10 serial, intText 16 serial]

/-- `sorted(new_serials - old_serials)`. -/
def newlyRevokedSerials (oldSerials newSerials : List String) : List String :=
  (newSerials.filter fun serial => serial ∉ oldSerials).dedup.insertionSort (· ≤ ·)

/-- What a report says about a revoked certificate of the inventory. -/
def revokedCertificate (newSerials : List String) (cert : Json) : Json :=
  let get (key : String) : String × Json := (key, (cert.field? key).getD .null)
  .obj [get "certificate_id", get "application_uri", get "common_name", get "fingerprint_sha256",
    get "serial_number", get "revoked_at",
    ("crl_contains_serial", .bool (newSerials.contains (textOf cert "serial_number")))]

/-- What `build_revocation_dry_run_report` says about the revocation list. -/
structure RevocationDryRun where
  crlChanged : Bool
  newlyRevokedCrlSerials : List String
  certificatesRevokedTotal : Nat
  certificatesRevokedKnown : List Json
  certificatesNewlyRevoked : List Json

/-- `build_revocation_dry_run_report`. -/
def buildRevocationDryRunReport (revokedCertificates : List Json)
    (oldCrlDer newCrlDer : Option (List UInt8)) : RevocationDryRun :=
  let oldSerials := crlSerials loadCrl oldCrlDer
  let newSerials := crlSerials loadCrl newCrlDer
  let newlyRevoked := newlyRevokedSerials oldSerials newSerials
  { crlChanged := oldCrlDer != newCrlDer
    newlyRevokedCrlSerials := newlyRevoked
    certificatesRevokedTotal := revokedCertificates.length
    certificatesRevokedKnown := revokedCertificates.map (revokedCertificate newSerials)
    certificatesNewlyRevoked := (revokedCertificates.filter fun cert =>
      newlyRevoked.contains (textOf cert "serial_number")).map (revokedCertificate newSerials) }

/-- `rollback_serial_in_crl` of the rollback preflights. -/
def rollbackSerialInCrl (crlDer : Option (List UInt8)) (serialNumber : Int) : Bool :=
  (crlSerials loadCrl crlDer).contains (intText 10 serialNumber) ||
    (crlSerials loadCrl crlDer).contains (intText 16 serialNumber)

end Model

/-! ## Which serials match -/

section Matches

variable {loadCrl : List UInt8 → Option (List Int)} {crlDer : Option (List UInt8)} {serial : Nat}

variable (loadCrl crlDer serial) in
/-- The revocation list has a serial number. -/
def Lists : Prop := (serial : Int) ∈ listedSerials loadCrl crlDer

/-- A text is a serial number of the list in one of its two forms. -/
theorem mem_crlSerials {text : String} :
    text ∈ crlSerials loadCrl crlDer ↔ ∃ serial ∈ listedSerials loadCrl crlDer,
      intText 10 serial = text ∨ intText 16 serial = text := by
  simp only [crlSerials, List.mem_flatMap, List.mem_cons, List.not_mem_nil, or_false, eq_comm]

variable (serial) in
/-- The number that a hexadecimal text without letters is, read as a decimal one. -/
def decimalReading : Nat := Nat.ofDigits 10 (Nat.digits 16 serial)

variable (serial) in
/-- The number that a decimal text is, read as a hexadecimal one. -/
def hexReading : Nat := Nat.ofDigits 16 (Nat.digits 10 serial)

variable (serial) in
/-- The hexadecimal text has no letters. -/
def HexIsDecimal : Prop := ∀ digit ∈ Nat.digits 16 serial, digit < 10

/-- The texts in a base that match a listed serial: read as decimal or as hexadecimal numbers. -/
theorem digitText_mem_crlSerials {base : Nat} (large : 1 < base) (small : base ≤ 16) :
    digitText base serial ∈ crlSerials loadCrl crlDer ↔
      ((∀ digit ∈ Nat.digits base serial, digit < 10) ∧
        Lists loadCrl crlDer (Nat.ofDigits 10 (Nat.digits base serial))) ∨
      ((∀ digit ∈ Nat.digits base serial, digit < 16) ∧
        Lists loadCrl crlDer (Nat.ofDigits 16 (Nat.digits base serial))) := by
  have decimal : (1 < 10) ∧ 10 ≤ 16 := by decide
  have hexadecimal : (1 < 16) ∧ 16 ≤ 16 := by decide
  simp only [mem_crlSerials, intText_eq_iff large small,
    digitText_eq_iff decimal.1 decimal.2 large small,
    digitText_eq_iff hexadecimal.1 hexadecimal.2 large small]
  constructor
  · intro found
    obtain ⟨listed, among, ⟨number, isNumber, digits, same⟩ | ⟨number, isNumber, digits, same⟩⟩ :=
      found
    · rw [isNumber, same] at among
      exact .inl ⟨digits, among⟩
    · rw [isNumber, same] at among
      exact .inr ⟨digits, among⟩
  · intro found
    rcases found with ⟨digits, listed⟩ | ⟨digits, listed⟩
    · exact ⟨_, listed, .inl ⟨_, rfl, digits, rfl⟩⟩
    · exact ⟨_, listed, .inr ⟨_, rfl, digits, rfl⟩⟩

/-- The hexadecimal text of a serial that is listed, or that is the decimal text of a listed
one. -/
theorem hexText_mem_crlSerials :
    digitText 16 serial ∈ crlSerials loadCrl crlDer ↔
      Lists loadCrl crlDer serial ∨
        (HexIsDecimal serial ∧ Lists loadCrl crlDer (decimalReading serial)) := by
  have hex : ∀ digit ∈ Nat.digits 16 serial, digit < 16 := fun _ => Nat.digits_lt_base (by decide)
  rw [digitText_mem_crlSerials (by decide) (le_refl 16), Nat.ofDigits_digits, or_comm,
    and_iff_right hex]
  rfl

/-- The decimal text of a serial that is listed, or that is the hexadecimal text of a listed
one. -/
theorem decimalText_mem_crlSerials :
    digitText 10 serial ∈ crlSerials loadCrl crlDer ↔
      Lists loadCrl crlDer serial ∨ Lists loadCrl crlDer (hexReading serial) := by
  have decimal : ∀ digit ∈ Nat.digits 10 serial, digit < 10 :=
    fun _ => Nat.digits_lt_base (by decide)
  have hex : ∀ digit ∈ Nat.digits 10 serial, digit < 16 := fun digit among =>
    (decimal digit among).trans (by decide)
  rw [digitText_mem_crlSerials (by decide) (by decide), Nat.ofDigits_digits,
    and_iff_right decimal, and_iff_right hex]
  rfl

variable (loadCrl crlDer serial) in
/-- The report of a certificate with the serial number in its hexadecimal form, and the rollback
preflight, say that the list has it exactly where it does. -/
structure SerialTestsExact : Prop where
  report : ∀ certificate : Json,
    certificate.field? "serial_number" = some (.str (digitText 16 serial)) →
      ((revokedCertificate (crlSerials loadCrl crlDer) certificate).field? "crl_contains_serial" =
        some (.bool true) ↔ Lists loadCrl crlDer serial)
  preflight : rollbackSerialInCrl loadCrl crlDer serial = true ↔ Lists loadCrl crlDer serial

theorem crlContainsSerial_iff {newSerials : List String} {certificate : Json} :
    (revokedCertificate newSerials certificate).field? "crl_contains_serial" = some (.bool true) ↔
      textOf certificate "serial_number" ∈ newSerials := by
  have said : (revokedCertificate newSerials certificate).field? "crl_contains_serial" =
      some (.bool (newSerials.contains (textOf certificate "serial_number"))) := rfl
  rw [said, Option.some.injEq, Json.bool.injEq, List.contains_iff_mem]

theorem rollbackSerialInCrl_iff :
    rollbackSerialInCrl loadCrl crlDer serial = true ↔
      digitText 10 serial ∈ crlSerials loadCrl crlDer ∨
        digitText 16 serial ∈ crlSerials loadCrl crlDer := by
  rw [rollbackSerialInCrl, Bool.or_eq_true, List.contains_iff_mem, List.contains_iff_mem]
  rfl

/-- The tests by serial number are exact where the serial is listed, or where neither the decimal
reading of its hexadecimal text nor the hexadecimal reading of its decimal text is. -/
theorem serial_tests_exact_iff :
    SerialTestsExact loadCrl crlDer serial ↔
      Lists loadCrl crlDer serial ∨
        (¬(HexIsDecimal serial ∧ Lists loadCrl crlDer (decimalReading serial)) ∧
          ¬Lists loadCrl crlDer (hexReading serial)) := by
  have preflight : rollbackSerialInCrl loadCrl crlDer serial = true ↔
      Lists loadCrl crlDer serial ∨
        (HexIsDecimal serial ∧ Lists loadCrl crlDer (decimalReading serial)) ∨
          Lists loadCrl crlDer (hexReading serial) := by
    rw [rollbackSerialInCrl_iff, hexText_mem_crlSerials, decimalText_mem_crlSerials]
    tauto
  constructor
  · intro exact
    have missed (absent : ¬Lists loadCrl crlDer serial) :=
      not_or.mp fun found => absent (exact.preflight.mp (preflight.mpr (.inr found)))
    exact or_iff_not_imp_left.mpr missed
  · intro apart
    refine ⟨fun certificate serialNumber => ?_, ?_⟩
    · have text : textOf certificate "serial_number" = digitText 16 serial := by
        rw [textOf, serialNumber]
        rfl
      rw [crlContainsSerial_iff, text, hexText_mem_crlSerials]
      exact or_iff_left_of_imp fun found => apart.elim id fun none => absurd found none.1
    · rw [preflight]
      exact or_iff_left_of_imp fun found => apart.elim id fun none =>
        found.elim (fun read => absurd read none.1) fun read => absurd read none.2

/-- A list with the serial ten is taken to have the serial sixteen. -/
theorem ten_revokes_sixteen : ¬SerialTestsExact (fun _ => some [10]) (some [48]) 16 := by
  have digits : Nat.digits 16 16 = [0, 1] := by norm_num
  have decimal : HexIsDecimal 16 := by
    rw [HexIsDecimal, digits]
    decide
  have reading : Lists (fun _ => some [10]) (some [48]) (decimalReading 16) := by
    rw [decimalReading, digits, Lists]
    decide
  have absent : ¬Lists (fun _ => some [10]) (some [48]) 16 := by
    rw [Lists]
    decide
  rw [serial_tests_exact_iff]
  intro apart
  exact apart.elim absent fun none => none.1 ⟨decimal, reading⟩

end Matches

end OpcuaGds.Agent
