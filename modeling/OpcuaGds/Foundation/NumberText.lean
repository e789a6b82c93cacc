import Mathlib.Data.Nat.Digits.Lemmas

/-! # Texts of integers in a base

The text of a number in one base may be the text of another number in another base: exactly the
one that is read from its digits.
-/

namespace NumberText

variable {base other number digit : Nat}

/-- The text of a number in a base, without a prefix. -/
def digitText (base number : Nat) : String := String.ofList (Nat.toDigits base number)

/-- The text of an integer: `str` in base ten, `format` with the code `x` in base sixteen. -/
def intText (base : Nat) : Int → String
  | .ofNat number => digitText base number
  | .negSucc number => "-" ++ digitText base (number + 1)

/-- Digits up to fifteen have characters of their own. -/
theorem digitChar_inj {digit other : Nat} (small : digit < 16) (otherSmall : other < 16)
    (same : Nat.digitChar digit = Nat.digitChar other) : digit = other := by
  have distinct : ∀ digit < 16, ∀ other < 16,
      Nat.digitChar digit = Nat.digitChar other → digit = other := by decide
  exact distinct digit small other otherSmall same

theorem digitChar_ne_minus (digit : Nat) (small : digit < 16) : Nat.digitChar digit ≠ '-' := by
  have distinct : ∀ digit < 16, Nat.digitChar digit ≠ '-' := by decide
  exact distinct digit small

/-- What tells the numbers below a bound apart tells their lists apart. -/
theorem map_inj_of_lt {α : Type} {f : Nat → α} {bound : Nat}
    (inj : ∀ {number other : Nat}, number < bound → other < bound → f number = f other →
      number = other)
    {left right : List Nat} (small : ∀ number ∈ left, number < bound)
    (otherSmall : ∀ number ∈ right, number < bound)
    (same : left.map f = right.map f) : left = right := by
  induction left generalizing right with
  | nil => exact (List.map_eq_nil_iff.mp same.symm).symm
  | cons number left ih =>
      cases right with
      | nil => cases same
      | cons other right =>
          rw [List.map_cons, List.map_cons, List.cons.injEq] at same
          rw [List.forall_mem_cons] at small otherSmall
          rw [inj small.1 otherSmall.1 same.1, ih small.2 otherSmall.2 same.2]

theorem map_digitChar_inj {left right : List Nat} (small : ∀ digit ∈ left, digit < 16)
    (otherSmall : ∀ digit ∈ right, digit < 16)
    (same : left.map Nat.digitChar = right.map Nat.digitChar) : left = right :=
  map_inj_of_lt digitChar_inj small otherSmall same

theorem toDigits_eq_digits (large : 1 < base) (positive : 0 < number) :
    Nat.toDigits base number = (Nat.digits base number).reverse.map Nat.digitChar := by
  induction number using Nat.strong_induction_on with
  | _ number ih =>
      rw [Nat.toDigits_eq_if large, Nat.digits_def' large positive, List.reverse_cons,
        List.map_append, List.map_singleton]
      split
      · rename_i below
        rw [Nat.div_eq_of_lt below, Nat.mod_eq_of_lt below, Nat.digits_zero]
        rfl
      · rename_i above
        have next : 0 < number / base := Nat.div_pos (not_lt.mp above) (Nat.zero_lt_of_lt large)
        rw [ih (number / base) (Nat.div_lt_self positive large) next]

theorem mem_toDigits {char : Char} (large : 1 < base) (small : base ≤ 16)
    (member : char ∈ Nat.toDigits base number) : ∃ digit < 16, char = Nat.digitChar digit := by
  rcases Nat.eq_zero_or_pos number with zero | positive
  · rw [zero, Nat.toDigits_zero, List.mem_singleton] at member
    exact ⟨0, by omega, member⟩
  · rw [toDigits_eq_digits large positive, List.mem_map] at member
    obtain ⟨digit, among, rfl⟩ := member
    have below := Nat.digits_lt_base large (List.mem_reverse.mp among)
    exact ⟨digit, by omega, rfl⟩

/-- Two texts in bases up to sixteen agree where the digits do. -/
theorem digitText_eq_iff_digits (large : 1 < base) (small : base ≤ 16) (otherLarge : 1 < other)
    (otherSmall : other ≤ 16) {left right : Nat} :
    digitText base left = digitText other right ↔
      Nat.digits base left = Nat.digits other right := by
  have sixteen {base number : Nat} (large : 1 < base) (small : base ≤ 16) :
      ∀ digit ∈ (Nat.digits base number).reverse, digit < 16 := by
    intro digit among
    have below := Nat.digits_lt_base large (List.mem_reverse.mp among)
    omega
  -- A zero on its own is the digit of no positive number.
  have zeroText {base number : Nat} (large : 1 < base) (small : base ≤ 16)
      (positive : 0 < number) : Nat.toDigits base number ≠ ['0'] := by
    intro zero
    rw [toDigits_eq_digits large positive] at zero
    have alone : ∀ digit ∈ [0], digit < 16 := by decide
    have digits := map_digitChar_inj (sixteen large small) alone zero
    rw [List.reverse_eq_iff, List.reverse_singleton] at digits
    have value := Nat.ofDigits_digits base number
    rw [digits, Nat.ofDigits_singleton] at value
    omega
  rw [digitText, digitText, String.ofList_inj]
  rcases Nat.eq_zero_or_pos left with zero | positive
  · rcases Nat.eq_zero_or_pos right with otherZero | otherPositive
    · rw [zero, otherZero, Nat.toDigits_zero, Nat.toDigits_zero, Nat.digits_zero, Nat.digits_zero]
      exact iff_of_true rfl rfl
    · rw [zero, Nat.toDigits_zero, Nat.digits_zero]
      refine iff_of_false (fun same => zeroText otherLarge otherSmall otherPositive same.symm) ?_
      exact fun none => otherPositive.ne' (Nat.digits_eq_nil_iff_eq_zero.mp none.symm)
  · rcases Nat.eq_zero_or_pos right with otherZero | otherPositive
    · rw [otherZero, Nat.toDigits_zero, Nat.digits_zero]
      refine iff_of_false (zeroText large small positive) ?_
      exact fun none => positive.ne' (Nat.digits_eq_nil_iff_eq_zero.mp none)
    · rw [toDigits_eq_digits large positive, toDigits_eq_digits otherLarge otherPositive]
      constructor
      · intro same
        exact List.reverse_injective
          (map_digitChar_inj (sixteen large small) (sixteen otherLarge otherSmall) same)
      · exact fun same => congrArg (fun digits => digits.reverse.map Nat.digitChar) same

/-- The number whose text in one base is the text of another number in another base is read from
its digits, where these are digits of both bases. -/
theorem digitText_eq_iff (large : 1 < base) (small : base ≤ 16) (otherLarge : 1 < other)
    (otherSmall : other ≤ 16) {left right : Nat} :
    digitText base left = digitText other right ↔
      (∀ digit ∈ Nat.digits other right, digit < base) ∧
        left = Nat.ofDigits base (Nat.digits other right) := by
  rw [digitText_eq_iff_digits large small otherLarge otherSmall]
  constructor
  · intro same
    rw [← same, Nat.ofDigits_digits]
    exact ⟨fun digit among => Nat.digits_lt_base large among, rfl⟩
  · intro read
    rw [read.2]
    refine Nat.digits_ofDigits base large _ read.1 fun some => ?_
    exact Nat.getLast_digit_ne_zero other (Nat.digits_ne_nil_iff_ne_zero.mp some)

/-- No text of a negative number is the text of a number. -/
theorem intText_eq_iff (otherLarge : 1 < other) (otherSmall : other ≤ 16) {left : Int}
    {right : Nat} :
    intText base left = digitText other right ↔
      ∃ number : Nat, left = number ∧ digitText base number = digitText other right := by
  cases left with
  | ofNat number =>
      constructor
      · exact fun same => ⟨number, rfl, same⟩
      · intro same
        obtain ⟨_, isNumber, same⟩ := same
        rw [Int.ofNat_eq_natCast, Int.natCast_inj] at isNumber
        rw [intText, isNumber, same]
  | negSucc number =>
      refine iff_of_false (fun same => ?_) (fun same => nomatch same.choose_spec.1)
      have chars := congrArg String.toList same
      rw [intText, String.toList_append, digitText, digitText, String.toList_ofList,
        String.toList_ofList, String.toList_ofList] at chars
      have minus : '-' ∈ Nat.toDigits other right := by
        rw [← chars]
        exact List.mem_append_left _ (by decide)
      obtain ⟨digit, below, same⟩ := mem_toDigits otherLarge otherSmall minus
      exact digitChar_ne_minus digit below same.symm

/-! ## Bytes -/

/-- The bytes of a number, the highest first and as few as hold it. -/
def byteDigits (number : Nat) : List Nat := (Nat.digits 256 number).reverse

/-- The two hexadecimal digits of a byte. -/
def byteText (byte : Nat) : List Char := [Nat.digitChar (byte / 16), Nat.digitChar (byte % 16)]

theorem byteDigits_inj {left right : Nat} (same : byteDigits left = byteDigits right) :
    left = right :=
  Nat.digits_inj_iff.mp (List.reverse_injective same)

theorem lt_of_mem_byteDigits {byte : Nat} (among : byte ∈ byteDigits number) : byte < 256 :=
  Nat.digits_lt_base (by omega) (List.mem_reverse.mp among)

/-- The digits in the square of a base are the digits in the base by twos, with a zero above the
highest where their count is odd. -/
theorem digits_square (large : 1 < base) (number : Nat) :
    (if (Nat.digits base number).length % 2 = 1 then Nat.digits base number ++ [0]
      else Nat.digits base number) =
      (Nat.digits (base * base) number).flatMap fun digit => [digit % base, digit / base] := by
  induction number using Nat.strong_induction_on with
  | _ number ih =>
      rcases Nat.eq_zero_or_pos number with rfl | positive
      · rw [Nat.digits_zero, Nat.digits_zero]
        rfl
      · have square : 1 < base * base := Nat.one_lt_mul_iff.mpr (by omega)
        rw [Nat.digits_def' square positive, Nat.digits_def' large positive, List.flatMap_cons,
          Nat.mod_mul_right_mod, Nat.mod_mul_right_div_self, ← Nat.div_div_eq_div_mul]
        rcases Nat.eq_zero_or_pos (number / base) with none | some
        · rw [none, Nat.zero_mod, Nat.zero_div, Nat.digits_zero, Nat.digits_zero]
          rfl
        · have smaller : number / base / base < number :=
            (Nat.div_le_self _ _).trans_lt (Nat.div_lt_self positive large)
          rw [Nat.digits_def' large some, ← ih _ smaller, List.length_cons, List.length_cons,
            Nat.add_assoc, Nat.add_mod_right]
          split
          · rfl
          · rfl

/-- The hexadecimal text of a positive number, led by a zero where its length is odd, is made of
the digits of its bytes. -/
theorem toDigits_bytes (positive : 0 < number) :
    (if (Nat.toDigits 16 number).length % 2 = 1 then '0' :: Nat.toDigits 16 number
      else Nat.toDigits 16 number) = (byteDigits number).flatMap byteText := by
  have large : 1 < 16 := by omega
  have paired := congrArg (fun digits => digits.reverse.map Nat.digitChar)
    (digits_square large number)
  rw [List.reverse_flatMap, List.map_flatMap] at paired
  rw [toDigits_eq_digits large positive, List.length_map, List.length_reverse]
  refine Eq.trans ?_ paired
  split
  · rw [List.reverse_append]
    rfl
  · rfl

theorem mem_byteText {char : Char} {byte : Nat} (small : byte < 256)
    (among : char ∈ byteText byte) : ∃ digit < 16, char = Nat.digitChar digit := by
  rw [byteText, List.mem_pair] at among
  rcases among with rfl | rfl
  · exact ⟨byte / 16, by omega, rfl⟩
  · exact ⟨byte % 16, by omega, rfl⟩

theorem byteText_inj {byte another : Nat} (small : byte < 256) (anotherSmall : another < 256)
    (same : byteText byte = byteText another) : byte = another := by
  rw [byteText, byteText, List.cons.injEq, List.cons.injEq] at same
  have high := digitChar_inj (by omega) (by omega) same.1
  have low := digitChar_inj (by omega) (by omega) same.2.1
  omega

theorem map_byteText_inj {left right : List Nat} (small : ∀ byte ∈ left, byte < 256)
    (otherSmall : ∀ byte ∈ right, byte < 256)
    (same : left.map byteText = right.map byteText) : left = right :=
  map_inj_of_lt byteText_inj small otherSmall same

end NumberText
