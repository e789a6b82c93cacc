import OpcuaGds.Foundation.NumberText
import OpcuaGds.Foundation.PythonText
import OpcuaGds.Foundation.SplitText

/-! # The serial number of a revocation

The GDS keeps the serial number of a certificate as one hexadecimal number. Vault is asked for it
byte by byte, with a colon between two bytes.
-/

namespace OpcuaGds.Gds

open NumberText
open PythonText (strip lower lowerChar isSpace replaceChar)

/-- The `serial_number` of `parse_pem_certificate`. -/
def parsedSerialNumber (serialNumber : Int) : String := intText 16 serialNumber

/-- `serial[i : i + 2]` for every second index. -/
def slicesOfTwo : List Char → List (List Char)
  | [] => []
  | [c] => [[c]]
  | c :: d :: rest => [c, d] :: slicesOfTwo rest

/-- `_vault_serial_number`. -/
def vaultSerialNumber (serialNumber : String) : String :=
  let serial := replaceChar '-' [':'] (lower (strip serialNumber)).toList
  if ':' ∈ serial then String.ofList serial
  else
    let serial := if serial.length % 2 = 1 then '0' :: serial else serial
    String.ofList ([':'].intercalate (slicesOfTwo serial))

/-- Bytes in two hexadecimal digits each, with colons between them. -/
def colonText (bytes : List Nat) : String :=
  String.ofList ([':'].intercalate (bytes.map byteText))

/-! ## Texts that are not normalised further -/

/-- Neither `strip` nor `lower` nor `replace` changes the character. -/
def IsPlain (c : Char) : Prop := isSpace c = false ∧ lowerChar c = c ∧ c ≠ '-'

theorem isPlain_digitChar {digit : Nat} (small : digit < 16) : IsPlain (Nat.digitChar digit) := by
  have plain : ∀ digit < 16, isSpace (Nat.digitChar digit) = false ∧
      lowerChar (Nat.digitChar digit) = Nat.digitChar digit ∧ Nat.digitChar digit ≠ '-' := by
    decide
  exact plain digit small

theorem digitChar_ne_colon {digit : Nat} (small : digit < 16) : Nat.digitChar digit ≠ ':' := by
  have distinct : ∀ digit < 16, Nat.digitChar digit ≠ ':' := by decide
  exact distinct digit small

theorem isPlain_colon : IsPlain ':' := by
  exact ⟨by decide, by decide, by decide⟩

theorem normalized_of_isPlain {text : String} (plain : ∀ c ∈ text.toList, IsPlain c) :
    replaceChar '-' [':'] (lower (strip text)).toList = text.toList := by
  have lowered : text.toList.map lowerChar = text.toList :=
    (List.map_congr_left fun c among => (plain c among).2.1).trans (List.map_id _)
  rw [PythonText.strip_eq_self fun c among => (plain c among).1, lower, String.toList_ofList,
    lowered]
  exact PythonText.replaceChar_of_notMem (fun minus => (plain '-' minus).2.2 rfl) _

/-- A text with a colon is only normalised. -/
theorem vaultSerialNumber_of_colon {text : String} (plain : ∀ c ∈ text.toList, IsPlain c)
    (colon : ':' ∈ text.toList) : vaultSerialNumber text = text := by
  rw [vaultSerialNumber, normalized_of_isPlain plain, if_pos colon, String.ofList_toList]

/-! ## The bytes of a serial number -/

/-- The digits of bytes are cut at the bytes. -/
theorem slicesOfTwo_flatMap (bytes : List Nat) :
    slicesOfTwo (bytes.flatMap byteText) = bytes.map byteText := by
  induction bytes with
  | nil => rfl
  | cons byte rest ih =>
      rw [List.flatMap_cons, List.map_cons, ← ih]
      rfl

theorem vaultSerialNumber_digitText {serial : Nat} (positive : 0 < serial) :
    vaultSerialNumber (digitText 16 serial) = colonText (byteDigits serial) := by
  have digits : ∀ c ∈ (digitText 16 serial).toList, ∃ digit < 16, c = Nat.digitChar digit := by
    intro c among
    rw [digitText, String.toList_ofList] at among
    exact mem_toDigits (by omega) (by omega) among
  have plain : ∀ c ∈ (digitText 16 serial).toList, IsPlain c := by
    intro c among
    obtain ⟨digit, small, rfl⟩ := digits c among
    exact isPlain_digitChar small
  have noColon : ':' ∉ (digitText 16 serial).toList := by
    intro colon
    obtain ⟨digit, small, same⟩ := digits ':' colon
    exact digitChar_ne_colon small same.symm
  rw [vaultSerialNumber, normalized_of_isPlain plain, if_neg noColon, digitText,
    String.toList_ofList]
  dsimp only
  rw [toDigits_bytes positive, slicesOfTwo_flatMap, colonText]

theorem notMem_byteText {byte : Nat} (small : byte < 256) : ':' ∉ byteText byte := by
  intro colon
  obtain ⟨digit, below, same⟩ := mem_byteText small colon
  exact digitChar_ne_colon below same.symm

/-- Reading the bytes of a text between its colons. -/
theorem splitOn_colonText {bytes : List Nat} (small : ∀ byte ∈ bytes, byte < 256)
    (some : bytes ≠ []) : (colonText bytes).toList.splitOn ':' = bytes.map byteText := by
  rw [colonText, String.toList_ofList]
  refine List.splitOn_intercalate ':' (fun text member => ?_)
    fun none => some (List.map_eq_nil_iff.mp none)
  obtain ⟨byte, among, rfl⟩ := List.mem_map.mp member
  exact notMem_byteText (small byte among)

theorem byteDigits_ne_nil {serial : Nat} (positive : 0 < serial) : byteDigits serial ≠ [] :=
  fun none => positive.ne'
    (Nat.digits_eq_nil_iff_eq_zero.mp (List.reverse_eq_nil_iff.mp none))

theorem colonText_inj {serial other : Nat} (positive : 0 < serial) (otherPositive : 0 < other)
    (same : colonText (byteDigits serial) = colonText (byteDigits other)) : serial = other := by
  have parts := congrArg (fun text : String => text.toList.splitOn ':') same
  rw [splitOn_colonText (fun _ => lt_of_mem_byteDigits) (byteDigits_ne_nil positive),
    splitOn_colonText (fun _ => lt_of_mem_byteDigits) (byteDigits_ne_nil otherPositive)] at parts
  exact byteDigits_inj
    (map_byteText_inj (fun _ => lt_of_mem_byteDigits) (fun _ => lt_of_mem_byteDigits) parts)

theorem isPlain_colonText {bytes : List Nat} (small : ∀ byte ∈ bytes, byte < 256) :
    ∀ c ∈ (colonText bytes).toList, IsPlain c := by
  intro c among
  rw [colonText, String.toList_ofList] at among
  rcases SplitText.mem_intercalate among with rfl | ⟨text, member, inText⟩
  · exact isPlain_colon
  · obtain ⟨byte, isByte, rfl⟩ := List.mem_map.mp member
    obtain ⟨digit, below, rfl⟩ := mem_byteText (small byte isByte) inText
    exact isPlain_digitChar below

/-- A number of more than one byte has a colon in its text. -/
theorem colon_mem_colonText {serial : Nat} (large : 255 < serial) :
    ':' ∈ (colonText (byteDigits serial)).toList := by
  have several : 1 < (Nat.digits 256 serial).length :=
    (Nat.lt_digits_length_iff (by omega) serial).mpr (by omega)
  rw [colonText, String.toList_ofList]
  refine SplitText.sep_mem_intercalate ?_
  rwa [List.length_map, byteDigits, List.length_reverse]

/-! ## The conversion of a stored serial number -/

/-- Vault is given the bytes of a positive serial number in two hexadecimal digits each, with
colons between them. No other serial number has the same text, and converting the text of a
number of two bytes or more again does not change it. -/
theorem vaultSerialNumber_parsed (serial : Int) (positive : 0 < serial) :
    vaultSerialNumber (parsedSerialNumber serial) = colonText (byteDigits serial.toNat) ∧
      (∀ other : Int, 0 < other → other ≠ serial →
        vaultSerialNumber (parsedSerialNumber other) ≠
          vaultSerialNumber (parsedSerialNumber serial)) ∧
      (255 < serial →
        vaultSerialNumber (vaultSerialNumber (parsedSerialNumber serial)) =
          vaultSerialNumber (parsedSerialNumber serial)) := by
  have converted {number : Int} (positive : 0 < number) :
      vaultSerialNumber (parsedSerialNumber number) = colonText (byteDigits number.toNat) := by
    obtain ⟨natural, rfl⟩ := Int.eq_ofNat_of_zero_le positive.le
    exact vaultSerialNumber_digitText (Int.natCast_pos.mp positive)
  refine ⟨converted positive, fun other otherPositive different same => ?_, fun large => ?_⟩
  · rw [converted positive, converted otherPositive] at same
    have naturals := colonText_inj (by omega) (by omega) same
    omega
  · rw [converted positive]
    exact vaultSerialNumber_of_colon (isPlain_colonText fun _ => lt_of_mem_byteDigits)
      (colon_mem_colonText (by omega))

/-- An odd number of digits. -/
theorem vaultSerialNumber_parsed_three_digits :
    vaultSerialNumber (parsedSerialNumber 0x1ff) = "01:ff" ∧
      vaultSerialNumber (parsedSerialNumber 0x1fe) ≠ vaultSerialNumber (parsedSerialNumber 0x1ff) ∧
      vaultSerialNumber "01:ff" = "01:ff" := by
  have text : colonText (byteDigits (Int.toNat 0x1ff)) = "01:ff" := by
    decide +kernel
  obtain ⟨converted, apart, again⟩ := vaultSerialNumber_parsed 0x1ff (by decide)
  rw [text] at converted
  refine ⟨converted, apart 0x1fe (by decide) (by decide), ?_⟩
  have fixed := again (by decide)
  rwa [converted] at fixed

end OpcuaGds.Gds
