import Mathlib.Tactic.Ring
import TopicWire.Number.Binary

/-!
# Widening and narrowing

A number that the format has is rounded to itself (`ofRatio_units`), and the numbers of four bytes
are among those of eight bytes (`exists_widened`). So a finite number that was widened is narrowed to
the same bits (`narrow_widen`), whatever its sign.
-/

namespace TopicWire.Number

namespace Format

variable {f : Format} {bits : Nat}

/-! ### Rounding a number of the format -/

theorem magnitude_lt_infinity (finite : f.isFinite bits = true) : f.magnitude bits < f.infinity := by
  simpa [isFinite] using finite

theorem roundDiv_mul (q : Nat) {den : Nat} (positive : 0 < den) : roundDiv (q * den) den = q := by
  simp [roundDiv, Nat.mul_div_cancel q positive, positive]

theorem units_subnormal (low : f.magnitude bits / 2 ^ f.fractionBits = 0) :
    f.units bits = f.magnitude bits ∧ f.magnitude bits < 2 ^ f.fractionBits := by
  have small : f.magnitude bits < 2 ^ f.fractionBits :=
    (Nat.div_eq_zero_iff_lt (Nat.two_pow_pos _)).mp low
  refine ⟨?_, small⟩
  simp only [units, Nat.pow_eq, low, if_true]
  exact Nat.mod_eq_of_lt small

theorem units_normal {exponent : Nat}
    (high : f.magnitude bits / 2 ^ f.fractionBits = exponent + 1) :
    f.units bits =
      (2 ^ f.fractionBits + f.magnitude bits % 2 ^ f.fractionBits) * 2 ^ exponent := by
  simp [units, Nat.pow_eq, high]

theorem log2_units_subnormal (low : f.magnitude bits / 2 ^ f.fractionBits = 0) :
    (f.units bits).log2 - f.fractionBits = 0 := by
  obtain ⟨units, small⟩ := units_subnormal low
  rw [units]
  by_cases zero : f.magnitude bits = 0
  · rw [zero, Nat.log2_zero, Nat.zero_sub]
  · exact Nat.sub_eq_zero_of_le (Nat.le_of_lt ((Nat.log2_lt zero).mpr small))

theorem log2_units_normal {exponent : Nat}
    (high : f.magnitude bits / 2 ^ f.fractionBits = exponent + 1) :
    (f.units bits).log2 - f.fractionBits = exponent := by
  have fraction := Nat.mod_lt (f.magnitude bits) (Nat.two_pow_pos f.fractionBits)
  have low : 2 ^ (f.fractionBits + exponent) ≤ f.units bits := by
    rw [units_normal high, Nat.pow_add]
    exact Nat.mul_le_mul_right _ (Nat.le_add_right ..)
  have above : f.units bits < 2 ^ (f.fractionBits + exponent + 1) := by
    rw [units_normal high, Nat.add_right_comm, Nat.pow_add, Nat.pow_succ]
    exact Nat.mul_lt_mul_of_pos_right (by omega) (Nat.two_pow_pos _)
  have positive : f.units bits ≠ 0 := Nat.ne_of_gt ((Nat.two_pow_pos _).trans_le low)
  rw [(Nat.log2_eq_iff positive).mpr ⟨low, above⟩, Nat.add_sub_cancel_left]

/-- A number of the format is rounded to itself. -/
theorem ofRatio_units (finite : f.isFinite bits = true) {den : Nat} (positive : 0 < den) :
    f.ofRatio (f.units bits * den) den = f.magnitude bits := by
  have below := magnitude_lt_infinity finite
  have whole := Nat.div_add_mod (f.magnitude bits) (2 ^ f.fractionBits)
  simp only [ofRatio, Nat.pow_eq, Nat.mul_div_cancel _ positive]
  cases exponent : f.magnitude bits / 2 ^ f.fractionBits with
  | zero =>
    rw [log2_units_subnormal exponent, Nat.zero_mul, Nat.zero_add, Nat.pow_zero, Nat.mul_one,
      roundDiv_mul _ positive, (units_subnormal exponent).1]
    exact Nat.min_eq_right below.le
  | succ shift =>
    have divided : f.units bits * den =
        (2 ^ f.fractionBits + f.magnitude bits % 2 ^ f.fractionBits) * (den * 2 ^ shift) := by
      rw [units_normal exponent]
      ring
    have sum : shift * 2 ^ f.fractionBits +
        (2 ^ f.fractionBits + f.magnitude bits % 2 ^ f.fractionBits) = f.magnitude bits := by
      rw [exponent] at whole
      refine Eq.trans ?_ whole
      ring
    rw [log2_units_normal exponent, divided,
      roundDiv_mul _ (Nat.mul_pos positive (Nat.two_pow_pos _)), sum]
    exact Nat.min_eq_right below.le

/-! ### Which numbers a format has -/

theorem magnitude_of_lt (small : bits < f.signWeight) : f.magnitude bits = bits :=
  Nat.mod_eq_of_lt small

/-- The least numbers of a format are their own units, also the first ones with an exponent. -/
theorem units_of_lt (small : bits < 2 ^ (f.fractionBits + 1)) (room : bits < f.signWeight) :
    f.units bits = bits := by
  have magnitude := magnitude_of_lt room
  rw [Nat.pow_succ] at small
  by_cases low : bits < 2 ^ f.fractionBits
  · rw [(units_subnormal (by rw [magnitude]; exact Nat.div_eq_of_lt low)).1, magnitude]
  · have one : bits / 2 ^ f.fractionBits = 1 := Nat.div_eq_of_lt_le (by omega) (by omega)
    have fraction := Nat.div_add_mod bits (2 ^ f.fractionBits)
    rw [one] at fraction
    have least : f.magnitude bits / 2 ^ f.fractionBits = 0 + 1 := by rw [magnitude, one]
    rw [units_normal least, magnitude]
    omega

theorem exists_double (room : bits + 2 ^ f.fractionBits < f.signWeight) :
    ∃ twice ≤ bits + 2 ^ f.fractionBits, f.units twice = 2 * f.units bits := by
  have magnitude : f.magnitude bits = bits := magnitude_of_lt ((Nat.le_add_right ..).trans_lt room)
  cases exponent : bits / 2 ^ f.fractionBits with
  | zero =>
    have low : bits < 2 ^ f.fractionBits :=
      (Nat.div_eq_zero_iff_lt (Nat.two_pow_pos _)).mp exponent
    refine ⟨2 * bits, by omega, ?_⟩
    rw [units_of_lt (by rw [Nat.pow_succ]; omega) (by omega),
      units_of_lt (by rw [Nat.pow_succ]; omega) (by omega)]
  | succ shift =>
    have above : f.magnitude (bits + 2 ^ f.fractionBits) = bits + 2 ^ f.fractionBits :=
      magnitude_of_lt room
    have next : (bits + 2 ^ f.fractionBits) / 2 ^ f.fractionBits = shift + 1 + 1 := by
      rw [Nat.add_div_right _ (Nat.two_pow_pos _), exponent]
    refine ⟨_, Nat.le_refl _, ?_⟩
    rw [units_normal (by rw [above, next]), units_normal (by rw [magnitude, exponent]), above,
      magnitude, Nat.add_mod_right, Nat.pow_succ]
    ring

/-- A number with few enough digits that is not too large belongs to the format. -/
theorem exists_units {digits : Nat} (few : digits < 2 ^ (f.fractionBits + 1)) (shift : Nat)
    (room : digits + shift * 2 ^ f.fractionBits < f.signWeight) :
    ∃ bits ≤ digits + shift * 2 ^ f.fractionBits, f.units bits = digits * 2 ^ shift := by
  induction shift with
  | zero =>
    refine ⟨digits, Nat.le_add_right .., ?_⟩
    rw [units_of_lt few (by omega), Nat.pow_zero, Nat.mul_one]
  | succ shift ih =>
    rw [Nat.succ_mul] at room ⊢
    obtain ⟨bits, below, units⟩ := ih (by omega)
    have space : bits + 2 ^ f.fractionBits < f.signWeight := by omega
    obtain ⟨twice, bound, double⟩ := exists_double space
    refine ⟨twice, by omega, ?_⟩
    rw [double, units, Nat.pow_succ]
    ring

/-! ### Signs -/

theorem signed_magnitude (room : bits < 2 * f.signWeight) :
    f.signed (f.isNegative bits) (f.magnitude bits) = bits := by
  unfold signed isNegative magnitude
  by_cases negative : f.signWeight ≤ bits
  · rw [decide_eq_true negative, if_pos rfl, Nat.mod_eq_sub_mod negative,
      Nat.mod_eq_of_lt (by omega)]
    omega
  · rw [decide_eq_false negative]
    exact Nat.mod_eq_of_lt (by omega)

theorem magnitude_signed (negative : Bool) (room : bits < f.signWeight) :
    f.magnitude (f.signed negative bits) = bits := by
  cases negative with
  | false => exact magnitude_of_lt room
  | true => exact (Nat.add_mod_left ..).trans (Nat.mod_eq_of_lt room)

theorem isNegative_signed (negative : Bool) (room : bits < f.signWeight) :
    f.isNegative (f.signed negative bits) = negative := by
  cases negative with
  | false => exact decide_eq_false (Nat.not_le.mpr room)
  | true => exact decide_eq_true (Nat.le_add_right ..)

theorem units_signed (negative : Bool) (room : bits < f.signWeight) :
    f.units (f.signed negative bits) = f.units bits := by
  simp only [units, magnitude_signed negative room, magnitude_of_lt room]

/-- A finite number that another format has too is converted to it. -/
theorem convert_eq {source target : Format} {bits other : Nat}
    (finite : source.isFinite bits = true) (there : target.isFinite other = true)
    (same : source.units bits * 2 ^ target.unitExponent =
      target.units other * 2 ^ source.unitExponent) :
    source.convert target bits = target.signed (source.isNegative bits) (target.magnitude other) := by
  have below := magnitude_lt_infinity finite
  have number : source.isNaN bits = false := decide_eq_false (by omega)
  simp only [convert, number, finite, if_true, Bool.false_eq_true, if_false, Nat.pow_eq, same]
  rw [ofRatio_units there (Nat.two_pow_pos _)]

end Format

/-! ### Four and eight bytes -/

section Widening

open Format

variable {bits : UInt32}

theorem single_units (finite : single.isFinite bits.toNat = true) :
    ∃ digits < 0x1000000, ∃ shift ≤ 253, single.units bits.toNat = digits * 2 ^ shift := by
  have below := magnitude_lt_infinity finite
  have infinity : single.infinity = 0x7F800000 := by decide
  have size : 2 ^ single.fractionBits = 0x800000 := by decide
  cases exponent : single.magnitude bits.toNat / 2 ^ single.fractionBits with
  | zero =>
    obtain ⟨units, small⟩ := units_subnormal exponent
    refine ⟨single.magnitude bits.toNat, by omega, 0, Nat.zero_le _, ?_⟩
    rw [units, Nat.pow_zero, Nat.mul_one]
  | succ shift =>
    have units := units_normal exponent
    rw [size] at units exponent
    exact ⟨_, by omega, shift, by omega, units⟩

theorem unitExponents : 925 + single.unitExponent = double.unitExponent := by
  decide

theorem signWeight_double : double.signWeight = 0x8000000000000000 := by
  decide

/-- A finite number of four bytes has the same value in eight bytes. -/
theorem exists_widened (finite : single.isFinite bits.toNat = true) :
    ∃ wide ≤ 0x47EFFFFFE0000000, double.units wide = single.units bits.toNat * 2 ^ 925 ∧
      (widen bits).toNat = double.signed (single.isNegative bits.toNat) wide := by
  obtain ⟨digits, few, shift, small, value⟩ := single_units finite
  have size : 2 ^ double.fractionBits = 0x10000000000000 := by decide
  have weight := signWeight_double
  have zeros : 2 ^ 29 = 0x20000000 := by decide
  have largest : digits * 0x20000000 + (shift + 896) * 0x10000000000000 ≤ 0x47EFFFFFE0000000 := by
    omega
  -- With 29 zeros behind them the digits fill the fraction of eight bytes.
  have filled : digits * 2 ^ 29 < 2 ^ (double.fractionBits + 1) := by
    rw [Nat.pow_succ _ double.fractionBits, size, zeros]
    omega
  have room : digits * 2 ^ 29 + (shift + 896) * 2 ^ double.fractionBits < double.signWeight := by
    rw [size, weight, zeros]
    exact largest.trans_lt (by decide)
  obtain ⟨wide, bound, units⟩ := exists_units filled (shift + 896) room
  rw [size, zeros] at bound
  have limit := bound.trans largest
  have same : double.units wide = single.units bits.toNat * 2 ^ 925 := by
    rw [units, value, Nat.mul_assoc, Nat.mul_assoc, ← Nat.pow_add, ← Nat.pow_add,
      Nat.add_left_comm]
  clear units value
  have magnitude : double.magnitude wide = wide := magnitude_of_lt (by omega)
  have there : double.isFinite wide = true := by
    rw [isFinite, magnitude]
    exact decide_eq_true (limit.trans_lt (by decide))
  have exact : single.units bits.toNat * 2 ^ double.unitExponent =
      double.units wide * 2 ^ single.unitExponent := by
    rw [same, Nat.mul_assoc, ← Nat.pow_add, unitExponents]
  refine ⟨wide, limit, same, ?_⟩
  rw [widen, convert_eq finite there exact, magnitude]
  refine UInt64.toNat_ofNat_of_lt ?_
  show _ < 0x10000000000000000
  unfold signed
  split <;> omega

/-- A finite number of four bytes is widened to one that four bytes can hold. -/
theorem widen_holds (finite : single.isFinite bits.toNat = true) :
    double.isFinite (widen bits).toNat = true ∧ exceedsSingle (widen bits) = false := by
  obtain ⟨wide, limit, -, widened⟩ := exists_widened finite
  have weight := signWeight_double
  have magnitude : double.magnitude (widen bits).toNat = wide := by
    rw [widened, magnitude_signed _ (by omega)]
  constructor
  · rw [isFinite, magnitude]
    exact decide_eq_true (limit.trans_lt (by decide))
  · rw [exceedsSingle, magnitude, decide_eq_false (by omega), Bool.and_false]

/-- A finite number of four bytes comes back from eight bytes as it was, also a zero with a sign. -/
theorem narrow_widen (finite : single.isFinite bits.toNat = true) : narrow (widen bits) = bits := by
  obtain ⟨wide, limit, same, widened⟩ := exists_widened finite
  have weight := signWeight_double
  have room : wide < double.signWeight := by omega
  have exact : double.units (widen bits).toNat * 2 ^ single.unitExponent =
      single.units bits.toNat * 2 ^ double.unitExponent := by
    rw [widened, units_signed _ room, same, Nat.mul_assoc, ← Nat.pow_add, unitExponents]
  have size : bits.toNat < 2 * single.signWeight := bits.toNat_lt
  rw [narrow, convert_eq (widen_holds finite).1 finite exact, widened, isNegative_signed _ room,
    signed_magnitude size, UInt32.ofNat_toNat]

end Widening

end TopicWire.Number
