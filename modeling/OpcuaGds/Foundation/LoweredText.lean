import OpcuaGds.Foundation.PythonText

/-! # Lower case and white space at the ends

Lower case changes no white space, so a text can be stripped before or after, and neither has to
be done twice.
-/

namespace PythonText

/-! ## Lower case -/

/-- Lower case changes no white space. -/
theorem lowerChar_of_isSpace {c : Char} (space : isSpace c = true) : lowerChar c = c := by
  have notKelvin : c.toNat ≠ 0x212a := by
    intro kelvin
    rw [isSpace, kelvin] at space
    exact absurd space (by decide)
  have notUpper : ¬('A'.val ≤ c.val ∧ c.val ≤ 'Z'.val) := by
    intro upper
    have low : 65 ≤ c.toNat := UInt32.le_iff_toNat_le.mp upper.1
    have high : c.toNat ≤ 90 := UInt32.le_iff_toNat_le.mp upper.2
    simp only [isSpace, Bool.or_eq_true, Bool.and_eq_true, decide_eq_true_eq, beq_iff_eq] at space
    omega
  exact lowerChar_of_not_upper notKelvin notUpper

theorem lowerChar_lowerChar (c : Char) : lowerChar (lowerChar c) = lowerChar c := by
  by_cases upper : 'A'.val ≤ c.val ∧ c.val ≤ 'Z'.val
  · have letters : ∀ n < 91, lowerChar (lowerChar (Char.ofNat n)) = lowerChar (Char.ofNat n) := by
      decide
    have small : c.toNat < 91 := Nat.lt_succ_of_le (UInt32.le_iff_toNat_le.mp upper.2)
    rw [← Char.ofNat_toNat c]
    exact letters _ small
  · by_cases kelvin : c.toNat = 0x212a
    · have same : lowerChar c = 'k' := if_pos kelvin
      rw [same]
      decide
    · have same := lowerChar_of_not_upper kelvin upper
      rw [same, same]

theorem lower_lower (text : String) : lower (lower text) = lower text := by
  rw [lower, lower, String.toList_ofList, List.map_map]
  exact congrArg String.ofList (List.map_congr_left fun c _ => lowerChar_lowerChar c)

theorem lowerChar_eq_iff {c d : Char} (notLetter : d.isLower = false) (same : lowerChar d = d) :
    lowerChar c = d ↔ c = d :=
  ⟨fun lowered => eq_of_lowerChar lowered notLetter, fun here => here ▸ same⟩

/-- A text whose lower case has no white space has none. -/
theorem not_isSpace_of_lower {text lowered : String} (same : lower text = lowered)
    (solid : lowered.toList.any isSpace = false) : ∀ c ∈ text.toList, ¬isSpace c = true := by
  intro c member space
  have there : c ∈ lowered.toList := by
    rw [← same, lower, String.toList_ofList, ← lowerChar_of_isSpace space]
    exact List.mem_map_of_mem member
  exact Bool.false_ne_true (solid.symm.trans (List.any_eq_true.mpr ⟨c, there, space⟩))

theorem isSpace_lowerChar (c : Char) : isSpace (lowerChar c) = isSpace c := by
  rw [Bool.eq_iff_iff]
  constructor
  · intro space
    have notLetter : (lowerChar c).isLower = false := by
      have isLower : (lowerChar c).isLower =
          (decide ('a'.val ≤ (lowerChar c).val) && decide ((lowerChar c).val ≤ 'z'.val)) := rfl
      rw [isLower, Bool.and_eq_false_iff, decide_eq_false_iff_not, decide_eq_false_iff_not,
        ← not_and_or]
      intro letter
      have low : 97 ≤ (lowerChar c).toNat := UInt32.le_iff_toNat_le.mp letter.1
      have high : (lowerChar c).toNat ≤ 122 := UInt32.le_iff_toNat_le.mp letter.2
      simp only [isSpace, Bool.or_eq_true, Bool.and_eq_true, decide_eq_true_eq, beq_iff_eq]
        at space
      omega
    rw [eq_of_lowerChar rfl notLetter]
    exact space
  · intro space
    rw [lowerChar_of_isSpace space]
    exact space

/-! ## White space at the ends -/

theorem mem_stripChars {c : Char} {chars : List Char} (member : c ∈ stripChars chars) :
    c ∈ chars := by
  rw [stripChars, List.mem_reverse] at member
  have inner := (List.dropWhile_suffix _).subset member
  exact (List.dropWhile_suffix _).subset (List.mem_reverse.mp inner)

/-- What is left of a stripped text at its end needs no stripping there. -/
theorem stripChars_of_suffix {chars rest : List Char}
    (ends : rest <:+ stripChars chars) :
    stripChars rest = rest.dropWhile isSpace := by
  have inner : rest.dropWhile isSpace <:+ stripChars chars :=
    (List.dropWhile_suffix _).trans ends
  rw [stripChars]
  have reversed := List.reverse_prefix.mpr inner
  rw [stripChars, List.reverse_reverse] at reversed
  have kept : (rest.dropWhile isSpace).reverse.dropWhile isSpace =
      (rest.dropWhile isSpace).reverse := by
    cases last : (rest.dropWhile isSpace).reverse with
    | nil => rfl
    | cons c others =>
        rw [last] at reversed
        obtain ⟨more, whole⟩ := reversed
        have solid : ¬isSpace c = true := by
          intro space
          have first := List.head?_dropWhile_not isSpace
            (chars.dropWhile isSpace).reverse
          rw [← whole] at first
          simp [space] at first
        rw [List.dropWhile_cons, if_neg solid]
  rw [kept, List.reverse_reverse]

theorem stripChars_lower (chars : List Char) :
    stripChars (chars.map lowerChar) = (stripChars chars).map lowerChar := by
  have same : isSpace ∘ lowerChar = isSpace := funext isSpace_lowerChar
  rw [stripChars, stripChars, List.dropWhile_map, same, ← List.map_reverse, List.dropWhile_map,
    same, List.map_reverse]

theorem stripChars_stripChars (chars : List Char) :
    stripChars (stripChars chars) = stripChars chars := by
  rw [stripChars_of_suffix (List.suffix_refl _), List.dropWhile_eq_self_iff]
  intro nonempty space
  have ends : stripChars chars <+: chars.dropWhile isSpace := by
    rw [stripChars, ← List.reverse_suffix, List.reverse_reverse]
    exact List.dropWhile_suffix _
  obtain ⟨more, whole⟩ := ends
  have first := List.head?_dropWhile_not isSpace chars
  rw [← whole, List.head?_append, List.head?_eq_getElem?, List.getElem?_eq_getElem nonempty]
    at first
  simp [space] at first

/-- A text in lower case without blanks around it stays so. -/
theorem lower_strip_lower_strip (text : String) :
    lower (strip (lower (strip text))) = lower (strip text) := by
  have lowered : strip (lower (strip text)) = lower (strip text) := by
    rw [strip, lower, strip, String.toList_ofList, String.toList_ofList, stripChars_lower,
      stripChars_stripChars]
  rw [lowered, lower_lower]

end PythonText
