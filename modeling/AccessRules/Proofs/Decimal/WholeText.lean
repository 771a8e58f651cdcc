import AccessRules.Proofs.Decimal.Digits
import AccessRules.Proofs.Decimal.Whole
import AccessRules.Value.Member
import AccessRules.Value.Text

/-!
# The text of a whole number

The reals that round to a whole number with at most 53 binary digits reach half way to the next
whole number at most. So the shortest decimal is the number itself, and its text are its digits, by
which it can be read again as a position.
-/

namespace AccessRules.Decimal

/-! ### The shortest decimal -/

namespace Shortest

/-- The interval lies around a whole number, and ends before the next one on either side. -/
structure Interval.Around (bounds : Interval) (number : Nat) : Prop where
  value : bounds.value = number * bounds.denominator
  denominator : 4 ≤ bounds.denominator
  low : bounds.value ≤ bounds.low + 2
  high : bounds.high ≤ bounds.value + 2

theorem around_interval {number : Nat} (exact : number < exactBound) :
    (interval (number * Nat.pow 2 (52 - number.log2)) (number.log2 - 52)).Around number := by
  have small := log2_le_of_lt exact
  have noScale : (number.log2 - 52 : Int).toNat = 0 := by omega
  have shift : (-(number.log2 - 52 : Int)).toNat = 52 - number.log2 := by omega
  have power : 0 < Nat.pow 2 (52 - number.log2) := Nat.pow_pos (by decide)
  unfold interval
  extract_lets dense scale value
  have isScale : scale = 1 := by
    change Nat.pow 2 (number.log2 - 52 : Int).toNat = 1
    rw [noScale]
  constructor
  · change value = number * (4 * Nat.pow 2 (-(number.log2 - 52 : Int)).toNat)
    rw [show value = 4 * (number * Nat.pow 2 (52 - number.log2)) * scale from rfl, isScale, shift]
    ring
  · change 4 ≤ 4 * Nat.pow 2 (-(number.log2 - 52 : Int)).toNat
    rw [shift]
    omega
  · change value ≤ value - (if dense then scale else 2 * scale) + 2
    split <;> omega
  · change value + 2 * scale ≤ value + 2
    omega

variable {bounds : Interval} {number : Nat}

/-- No other whole number lies in the interval. -/
theorem Interval.Around.contains_eq_false (around : bounds.Around number) {coefficient power : Nat}
    (differs : coefficient * Nat.pow 10 power ≠ number) :
    bounds.contains ⟨coefficient, power⟩ = false := by
  have unit : Nat.pow 10 (-(power : Int)).toNat = 1 := by
    rw [show (-(power : Int)).toNat = 0 by omega]
  have apart : bounds.high < coefficient * Nat.pow 10 power * bounds.denominator
      ∨ coefficient * Nat.pow 10 power * bounds.denominator < bounds.low := by
    have wide := around.denominator
    have low := around.low
    have high := around.high
    rw [around.value] at low high
    rcases Nat.lt_or_gt_of_ne differs with below | above
    · have step := Nat.mul_le_mul_right bounds.denominator (Nat.succ_le_of_lt below)
      rw [Nat.succ_mul] at step
      omega
    · have step := Nat.mul_le_mul_right bounds.denominator (Nat.succ_le_of_lt above)
      rw [Nat.succ_mul] at step
      omega
  unfold Interval.contains
  extract_lets point unit' low high
  have isPoint : point = coefficient * Nat.pow 10 power * bounds.denominator := by
    change coefficient * Nat.pow 10 (power : Int).toNat * bounds.denominator = _
    rw [Int.toNat_natCast]
  have isLow : low = bounds.low := by
    change bounds.low * Nat.pow 10 (-(power : Int)).toNat = _
    rw [unit, Nat.mul_one]
  have isHigh : high = bounds.high := by
    change bounds.high * Nat.pow 10 (-(power : Int)).toNat = _
    rw [unit, Nat.mul_one]
  rw [isPoint, isLow, isHigh]
  split
  · rw [Bool.and_eq_false_iff, decide_eq_false_iff_not, decide_eq_false_iff_not]
    omega
  · rw [Bool.and_eq_false_iff, decide_eq_false_iff_not, decide_eq_false_iff_not]
    omega

theorem Interval.Around.onGrid? (around : bounds.Around number) (tie : Tie) (power : Nat) :
    onGrid? bounds tie power = if number % Nat.pow 10 power = 0 then
      some ⟨number / Nat.pow 10 power, power⟩ else none := by
  have positive : 0 < bounds.denominator := Nat.lt_of_lt_of_le (by decide) around.denominator
  have unit : Nat.pow 10 (-(power : Int)).toNat = 1 := by
    rw [show (-(power : Int)).toNat = 0 by omega]
  unfold Shortest.onGrid?
  extract_lets numerator denominator below above rest
  have isNumerator : numerator = number * bounds.denominator := by
    change bounds.value * Nat.pow 10 (-(power : Int)).toNat = _
    rw [unit, Nat.mul_one, around.value]
  have isDenominator : denominator = Nat.pow 10 power * bounds.denominator := by
    change bounds.denominator * Nat.pow 10 (power : Int).toNat = _
    rw [Int.toNat_natCast, Nat.mul_comm]
  have quotient : numerator / denominator = number / Nat.pow 10 power := by
    rw [isNumerator, isDenominator, Nat.mul_div_mul_right _ _ positive]
  have isRest : rest = number % Nat.pow 10 power * bounds.denominator := by
    change numerator % denominator = _
    rw [isNumerator, isDenominator, Nat.mul_mod_mul_right]
  have isBelow : below = ⟨number / Nat.pow 10 power, power⟩ := congrArg (Scaled.mk · _) quotient
  have isAbove : above = ⟨number / Nat.pow 10 power + 1, power⟩ :=
    congrArg (fun quotient => Scaled.mk (quotient + 1) _) quotient
  have isRest' : rest = 0 ↔ number % Nat.pow 10 power = 0 := by
    rw [isRest, Nat.mul_eq_zero]
    omega
  by_cases divides : number % Nat.pow 10 power = 0
  · rw [if_pos (isRest'.mpr divides), if_pos divides, isBelow]
  · have differs (coefficient : Nat) : coefficient * Nat.pow 10 power ≠ number := by
      rintro rfl
      exact divides (Nat.mul_mod_left _ _)
    rw [if_neg (mt isRest'.mp divides), if_neg divides, isBelow, isAbove,
      around.contains_eq_false (differs _), around.contains_eq_false (differs _)]
    rfl

/-- The coarsest grid that holds the number is the first with a hit. -/
theorem Interval.Around.exists_search (around : bounds.Around number) (tie : Tie) (leading : Nat) :
    ∀ more digits, digits ≤ leading → leading < digits + more →
      ∃ coefficient power : Nat, search bounds tie leading more digits = some ⟨coefficient, power⟩
        ∧ coefficient * Nat.pow 10 power = number := by
  intro more
  induction more with
  | zero =>
      intro digits start enough
      omega
  | succ more inductionHypothesis =>
      intro digits start enough
      have grid : (leading : Int) - digits = (leading - digits : Nat) := by omega
      rw [search, grid, around.onGrid?]
      by_cases divides : number % Nat.pow 10 (leading - digits) = 0
      · rw [if_pos divides]
        exact ⟨_, _, rfl, Nat.div_mul_cancel (Nat.dvd_of_mod_eq_zero divides)⟩
      · rw [if_neg divides]
        have later : digits + 1 ≤ leading := by
          by_contra last
          rw [show leading - digits = 0 by omega] at divides
          exact divides (Nat.mod_one number)
        exact inductionHypothesis (digits + 1) later (by omega)

theorem exists_trimZeros (more : Nat) {coefficient power : Nat}
    (value : coefficient * Nat.pow 10 power = number) :
    ∃ coefficient' power' : Nat, trimZeros more ⟨coefficient, power⟩ = ⟨coefficient', power'⟩
      ∧ coefficient' * Nat.pow 10 power' = number := by
  induction more generalizing coefficient power with
  | zero => exact ⟨coefficient, power, rfl, value⟩
  | succ more inductionHypothesis =>
      rw [trimZeros]
      split
      · next trims =>
        obtain ⟨isSome, ends⟩ := trims
        have shorter : coefficient / 10 * Nat.pow 10 (power + 1) = number := by
          rw [← value]
          change coefficient / 10 * (Nat.pow 10 power * 10) = _
          rw [Nat.mul_comm (Nat.pow 10 power), ← Nat.mul_assoc,
            Nat.div_mul_cancel (Nat.dvd_of_mod_eq_zero ends)]
        exact inductionHypothesis shorter
      · exact ⟨coefficient, power, rfl, value⟩

/-- A guess that is corrected upwards as far as the value reaches does not stay behind a power that
it reaches. -/
theorem le_corrected {reaches : Int → Bool} {guess low : Int} (reached : reaches low = true)
    (near : low ≤ guess + 2) :
    low ≤ if reaches (guess + 3) then guess + 3
      else if reaches (guess + 2) then guess + 2
      else if reaches (guess + 1) then guess + 1
      else guess := by
  have isOther {power : Int} (notReached : ¬ reaches power = true) : low ≠ power := by
    rintro rfl
    exact notReached reached
  split
  · omega
  split
  · exact near
  · next notTwo =>
    have other := isOther notTwo
    split
    · omega
    · next notOne =>
      have other' := isOther notOne
      omega

/-- Nor does it come to a power that the value does not reach. -/
theorem corrected_lt {reaches : Int → Bool} {guess high : Int} (notReached : reaches high = false)
    (near : guess + 3 ≤ high) :
    (if reaches (guess + 3) then guess + 3
      else if reaches (guess + 2) then guess + 2
      else if reaches (guess + 1) then guess + 1
      else guess) < high := by
  split
  · next three =>
    have isOther : guess + 3 ≠ high := by
      rintro rfl
      rw [notReached] at three
      cases three
    omega
  · split_ifs <;> omega

/-- The leading digit of a whole number with at most 53 binary digits stands for one at least, and
for less than a seventeenth power of ten. -/
theorem Interval.Around.exists_leadingPower (around : bounds.Around number) (isSome : 0 < number)
    (exact : number < exactBound) (wide : bounds.denominator.log2 = 54 - number.log2)
    (full : bounds.value.log2 = 54) :
    ∃ leading : Nat, leadingPower bounds.value bounds.denominator = leading ∧ leading ≤ 16 := by
  have small := log2_le_of_lt exact
  unfold leadingPower
  extract_lets reaches guess
  have isGuess : guess = ((number.log2 : Int) - 1) * 30103 / 100000 - 1 := by
    change ((bounds.value.log2 : Int) - bounds.denominator.log2 - 1) * 30103 / 100000 - 1 = _
    rw [full, wide]
    congr 4
    omega
  have reachesOne : reaches 0 = true := by
    change decide (bounds.denominator * 1 ≤ bounds.value * 1) = true
    rw [decide_eq_true_eq, around.value]
    exact Nat.mul_le_mul_right 1 (Nat.le_mul_of_pos_left _ isSome)
  have reachesNot : reaches 17 = false := by
    change decide (bounds.denominator * Nat.pow 10 17 ≤ bounds.value * 1) = false
    rw [decide_eq_false_iff_not, around.value, Nat.mul_one, Nat.mul_comm, Nat.not_le]
    have positive : 0 < bounds.denominator := Nat.lt_of_lt_of_le (by decide) around.denominator
    exact (Nat.mul_lt_mul_right positive).mpr (Nat.lt_trans exact (by decide))
  have atLeast := le_corrected reachesOne (by omega : 0 ≤ guess + 2)
  have below := corrected_lt reachesNot (by omega : guess + 3 ≤ 17)
  obtain ⟨leading, isLeading⟩ := Int.eq_ofNat_of_zero_le atLeast
  refine ⟨leading, isLeading, ?_⟩
  rw [isLeading] at below
  exact Nat.le_of_lt_succ (Int.ofNat_lt.mp below)

end Shortest

/-- The shortest decimal of a whole number is the number. -/
theorem exists_shortest {number : Nat} (isSome : 0 < number) (exact : number < exactBound)
    (tie : Tie) :
    ∃ coefficient power : Nat,
      shortest tie (number * Nat.pow 2 (52 - number.log2)) (number.log2 - 52) = ⟨coefficient, power⟩
        ∧ coefficient * Nat.pow 10 power = number := by
  have around := Shortest.around_interval exact
  have small := log2_le_of_lt exact
  have wide : (Shortest.interval (number * Nat.pow 2 (52 - number.log2))
      (number.log2 - 52)).denominator.log2 = 54 - number.log2 := by
    change (4 * Nat.pow 2 (-(number.log2 - 52 : Int)).toNat).log2 = _
    rw [log2_mul_pow (by decide), show Nat.log2 4 = 2 by decide]
    omega
  have full : (Shortest.interval (number * Nat.pow 2 (52 - number.log2))
      (number.log2 - 52)).value.log2 = 54 := by
    rw [around.value, Nat.mul_comm]
    change (4 * Nat.pow 2 (-(number.log2 - 52 : Int)).toNat * number).log2 = _
    rw [Nat.mul_right_comm, log2_mul_pow (by omega), Nat.mul_comm 4]
    change (number * Nat.pow 2 2).log2 + _ = _
    rw [log2_mul_pow isSome]
    omega
  obtain ⟨leading, isLeading, most⟩ := around.exists_leadingPower isSome exact wide full
  obtain ⟨coefficient, power, found, value⟩ :=
    around.exists_search tie leading 17 0 (Nat.zero_le _) (by omega)
  unfold shortest
  extract_lets bounds leading'
  rw [show leading' = _ from isLeading, show bounds = _ from rfl, found]
  exact Shortest.exists_trimZeros 20 value

/-! ### Its digits -/

theorem digits_mul_pow {coefficient : Nat} (isSome : 0 < coefficient) (power : Nat) :
    Layout.digits (coefficient * Nat.pow 10 power)
      = Layout.digits coefficient ++ List.replicate power '0' := by
  induction power with
  | zero =>
      rw [show coefficient * Nat.pow 10 0 = coefficient from Nat.mul_one _, List.replicate_zero,
        List.append_nil]
  | succ power inductionHypothesis =>
      have positive : 0 < coefficient * Nat.pow 10 power :=
        Nat.mul_pos isSome (Nat.pow_pos (by decide))
      have split : coefficient * Nat.pow 10 (power + 1)
          = 10 * (coefficient * Nat.pow 10 power) + 0 := by
        change coefficient * (Nat.pow 10 power * 10) = _
        ring
      rw [List.replicate_succ', ← List.append_assoc, ← inductionHypothesis, split]
      exact (Nat.toDigits_append_toDigits (by decide) positive (by decide)).symm

/-- The text of a whole number are its digits. -/
theorem render_ofNat {number : Nat} (exact : number < exactBound) :
    Value.numberLayout.render (Float.ofNat number) = toString number := by
  rcases Nat.eq_zero_or_pos number with rfl | isSome
  · decide
  · obtain ⟨coefficient, power, isShortest, value⟩ :=
      exists_shortest isSome exact Value.numberLayout.tie
    have positive : 0 < number * Nat.pow 2 (52 - number.log2) :=
      Nat.mul_pos isSome (Nat.pow_pos (by decide))
    have isSome' : 0 < coefficient := by
      rcases Nat.eq_zero_or_pos coefficient with rfl | isSome'
      · rw [Nat.zero_mul] at value
        omega
      · exact isSome'
    have figures := digits_mul_pow isSome' power
    rw [value] at figures
    have length : (Layout.digits number).length ≤ 16 :=
      (Nat.length_toDigits_le_iff (by decide) (by decide)).mpr
        (Nat.lt_trans exact (by decide))
    have leading : (Layout.digits coefficient).length ≠ 0 :=
      mt List.length_eq_zero_iff.mp (digits_ne_nil coefficient)
    rw [figures, List.length_append, List.length_replicate] at length
    unfold Layout.render
    rw [ofFloat_ofNat isSome exact]
    simp only [Nat.ne_of_gt positive, if_false, isShortest, Bool.false_eq_true]
    rw [if_pos]
    · rw [String.empty_append, Layout.positional, if_pos (Int.natCast_nonneg power)]
      simp only [Int.toNat_natCast]
      rw [← figures]
      exact String.append_empty
    · change (-6 : Int) ≤ _ ∧ _ ≤ (20 : Int)
      omega

/-- The digits of a number are read as the position, if there is one as high. -/
theorem position?_toString {number : Nat} (inRange : number < Value.positionBound) :
    Value.position? (toString number) = some number := by
  have figures : (toString number).toList = Layout.digits number := Nat.toList_repr
  rw [Value.position?, figures, natural?_of_digits _ (digits_ne_nil number)
    fun digit among => isDigit_of_mem_digits among, ofDigits_digits, if_pos inRange]

end AccessRules.Decimal
