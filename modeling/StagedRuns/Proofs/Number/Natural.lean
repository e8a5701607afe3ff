import Mathlib.Algebra.Group.Nat.Defs
import StagedRuns.Number.Binary64

/-!
Naturals of 64 bits as floating-point numbers. A floating-point number has 53 binary digits; a
natural that needs more of them becomes the nearest number that does not.
-/

namespace StagedRuns.Number

open Float.Model
open Float.Model.UnpackedFloat

/-- The number is a natural: its mantissa times a power of two. -/
def IsNatural (x : Float) (value : Nat) : Prop :=
  match x.toModel.unpack with
  | .zero _ => value = 0
  | .finite .positive mantissa exponent _ =>
      mantissa * 2 ^ exponent.toNat = value * 2 ^ (-exponent).toNat
  | _ => False

theorem IsNatural.unique {x : Float} {value other : Nat} (isValue : IsNatural x value)
    (isOther : IsNatural x other) : value = other := by
  unfold IsNatural at isValue isOther
  generalize x.toModel.unpack = parts at isValue isOther
  split at isValue
  · exact isValue.trans isOther.symm
  · exact Nat.mul_right_cancel (Nat.two_pow_pos _) (isValue.symm.trans isOther)
  · exact isValue.elim

/-- How far apart neighbouring floating-point numbers are from the first binary digit of a natural
on. -/
def spacing (natural : Nat) : Nat :=
  2 ^ (natural.log2 - 52)

/-- A multiple of the spacing that is away by half of it at most, and an even multiple where it is
away by just that. -/
def RoundsTo (natural rounded : Nat) : Prop :=
  ∃ multiple, rounded = multiple * spacing natural ∧
    2 * (natural - rounded) ≤ spacing natural ∧ 2 * (rounded - natural) ≤ spacing natural ∧
    (2 * (natural - rounded) = spacing natural ∨ 2 * (rounded - natural) = spacing natural →
      multiple % 2 = 0)

def rounded (natural : Nat) : Nat :=
  Binary64.divideToEven natural (spacing natural) * spacing natural

theorem spacing_pos (natural : Nat) : 0 < spacing natural :=
  Nat.two_pow_pos _

theorem rounded_roundsTo (natural : Nat) : RoundsTo natural (rounded natural) := by
  refine ⟨Binary64.divideToEven natural (spacing natural), rfl, ?_⟩
  have positive := spacing_pos natural
  have parts := Nat.div_add_mod' natural (spacing natural)
  have below := Nat.mod_lt natural positive
  unfold rounded Binary64.divideToEven
  generalize spacing natural = unit at *
  generalize natural / unit = quotient at *
  generalize natural % unit = rest at *
  have next : (quotient + 1) * unit = quotient * unit + unit := Nat.succ_mul quotient unit
  dsimp only
  split
  · omega
  · split
    · omega
    · rcases Nat.mod_two_eq_zero_or_one quotient with even | odd
      · rw [even, Nat.add_zero]
        omega
      · rw [odd, next]
        omega

theorem rounded_of_le {natural : Nat} (small : natural ≤ 2 ^ 53) : rounded natural = natural := by
  rcases Nat.eq_or_lt_of_le small with rfl | below
  · decide
  · have digits : natural.log2 ≤ 52 := by
      rcases Nat.eq_zero_or_pos natural with rfl | positive
      · decide
      · exact Nat.le_of_lt_succ ((Nat.log2_lt (Nat.ne_of_gt positive)).mpr below)
    have one : spacing natural = 1 := by
      rw [spacing, Nat.sub_eq_zero_of_le digits, Nat.pow_zero]
    simp only [rounded, Binary64.divideToEven, one, Nat.div_one, Nat.mod_one]
    exact Nat.mul_one natural

/-! ### Digits shifted out -/

/-- A mantissa from which binary digits have been shifted out: whether the rest is half of the
last digit at least, and whether it is neither nothing nor just half. -/
structure Shifted (natural places : Nat) (result : ExtendedMantissa) : Prop where
  mantissa : result.mantissa = natural / 2 ^ places
  roundBit : result.roundBit = true ↔ 2 ^ places ≤ 2 * (natural % 2 ^ places)
  stickyBit : result.stickyBit = true ↔
    natural % 2 ^ places ≠ 0 ∧ 2 * (natural % 2 ^ places) ≠ 2 ^ places

theorem Shifted.none (natural : Nat) : Shifted natural 0 ⟨natural, false, false⟩ where
  mantissa := (Nat.div_one natural).symm
  roundBit := by simp [Nat.mod_one]
  stickyBit := by simp [Nat.mod_one]

theorem Shifted.one {natural places : Nat} {result : ExtendedMantissa}
    (shifted : Shifted natural places result) :
    Shifted natural (places + 1) result.shiftRightOne := by
  have positive : 0 < 2 ^ places := Nat.two_pow_pos places
  have below := Nat.mod_lt natural positive
  have rest : natural % 2 ^ (places + 1) =
      natural % 2 ^ places + 2 ^ places * (natural / 2 ^ places % 2) := by
    rw [Nat.pow_succ, Nat.mod_mul]
  obtain ⟨mantissa, roundBit, stickyBit⟩ := shifted
  refine ⟨?_, ?_, ?_⟩
  · show result.mantissa / 2 = _
    rw [mantissa, Nat.div_div_eq_div_mul, Nat.pow_succ]
  · show (result.mantissa % 2 != 0) = true ↔ _
    rw [mantissa, rest, Nat.pow_succ]
    rcases Nat.mod_two_eq_zero_or_one (natural / 2 ^ places) with even | odd
    · simp only [even]
      simp
      omega
    · simp only [odd]
      simp
      omega
  · show (result.roundBit || result.stickyBit) = true ↔ _
    rw [Bool.or_eq_true, roundBit, stickyBit, rest, Nat.pow_succ]
    rcases Nat.mod_two_eq_zero_or_one (natural / 2 ^ places) with even | odd
    · simp only [even]
      omega
    · simp only [odd]
      omega

theorem Shifted.all (natural places : Nat) :
    Shifted natural places ((⟨natural, false, false⟩ : ExtendedMantissa) >>> places) := by
  induction places with
  | zero => exact .none natural
  | succ places ih => exact ih.one

theorem Shifted.roundedMantissa {natural places : Nat} {result : ExtendedMantissa}
    (shifted : Shifted natural places result) :
    result.roundedMantissa = Binary64.divideToEven natural (2 ^ places) := by
  obtain ⟨mantissa, roundBit, stickyBit⟩ := shifted
  unfold Binary64.divideToEven
  rw [← mantissa]
  dsimp only
  rcases result with ⟨quotient, _ | _, _ | _⟩ <;>
    simp only [Bool.false_eq_true, false_iff, true_iff] at roundBit stickyBit
  · have below : 2 * (natural % 2 ^ places) < 2 ^ places := Nat.lt_of_not_le roundBit
    rw [if_pos below]
    rfl
  · have below : 2 * (natural % 2 ^ places) < 2 ^ places := Nat.lt_of_not_le roundBit
    rw [if_pos below]
    rfl
  · have half : 2 * (natural % 2 ^ places) = 2 ^ places := by
      have positive : 0 < 2 ^ places := Nat.two_pow_pos places
      omega
    rw [half, if_neg (Nat.lt_irrefl _), if_neg (Nat.lt_irrefl _)]
    rfl
  · have above : 2 ^ places < 2 * (natural % 2 ^ places) := by omega
    rw [if_neg (Nat.not_lt_of_gt above), if_pos above]
    rfl

/-! ### Conversion -/

/-- The form in which a positive number stands in 64 bits, wherever it is not too small for it:
53 binary digits. -/
structure Canonical (mantissa : Nat) (exponent : Int) : Prop where
  least : 2 ^ 52 ≤ mantissa
  most : mantissa < 2 ^ 53
  low : -1022 < exponent + 52
  high : exponent + 52 < 1024

theorem Canonical.log2 {mantissa : Nat} {exponent : Int} (canonical : Canonical mantissa exponent) :
    mantissa.log2 = 52 := by
  have positive : mantissa ≠ 0 := Nat.ne_of_gt (Nat.lt_of_lt_of_le (by decide) canonical.least)
  exact (Nat.log2_eq_iff positive).mpr ⟨canonical.least, canonical.most⟩

theorem unpackSign_packComponents {spec : Format} {sign : Sign}
    {exponent : BitVec spec.exponentBits} {mantissa : BitVec spec.mantissaBitsWithoutImplicit} :
    unpackSign (packComponents spec sign exponent mantissa) = sign.toBitVec := by
  ext place inside
  obtain rfl : place = 0 := Nat.lt_one_iff.mp inside
  unfold unpackSign packComponents
  simp [BitVec.getLsbD_append, BitVec.getElem_append]

theorem Canonical.toNat_append {mantissa : Nat} {exponent : Int}
    (canonical : Canonical mantissa exponent) :
    (1#1 ++ BitVec.ofNat 52 mantissa).toNat = mantissa := by
  have least := canonical.least
  have most := canonical.most
  rw [BitVec.toNat_append, ← Nat.shiftLeft_add_eq_or_of_lt (BitVec.isLt _), BitVec.toNat_ofNat,
    Nat.shiftLeft_eq]
  simp only [BitVec.toNat_ofNat]
  omega

theorem Canonical.unpack_pack {mantissa : Nat} {exponent : Int}
    (canonical : Canonical mantissa exponent) (positive : 0 < mantissa) :
    (Float.Model.pack (.finite .positive mantissa exponent positive)).unpack =
      .finite .positive mantissa exponent positive := by
  have low := canonical.low
  have high := canonical.high
  let biased := (exponent + 1023 + 52).toNat
  have back : (biased : Int) = exponent + 1075 := by
    show ((exponent + 1023 + 52).toNat : Int) = exponent + 1075
    omega
  have field : (BitVec.ofNat 11 biased).toNat = biased := by
    rw [BitVec.toNat_ofNat, Nat.mod_eq_of_lt (by omega)]
  have notLeast : BitVec.ofNat 11 biased ≠ 0#11 := by
    intro least
    have zero := congrArg BitVec.toNat least
    rw [field] at zero
    simp only [BitVec.toNat_ofNat] at zero
    omega
  have notMost : BitVec.ofNat 11 biased ≠ -1#11 := by
    intro most
    have same := congrArg BitVec.toNat most
    rw [field] at same
    have ones : (-1#11).toNat = 2047 := rfl
    omega
  have packed : UnpackedFloat.pack .binary64 (.finite .positive mantissa exponent positive) =
      packComponents .binary64 .positive (BitVec.ofNat 11 biased) (BitVec.ofNat 52 mantissa) := by
    have fits : ¬ 2 ^ 11 ≤ biased + 1 := by omega
    have digits : mantissa.log2 + 1 = 53 := congrArg (· + 1) canonical.log2
    exact (if_neg fits).trans (if_pos digits)
  show UnpackedFloat.unpack .binary64 (UnpackedFloat.pack .binary64 _) = _
  rw [packed]
  unfold UnpackedFloat.unpack
  dsimp only
  rw [if_neg (unpackExponent_packComponents ▸ notMost),
    if_neg (unpackExponent_packComponents ▸ notLeast), UnpackedFloat.finite.injEq]
  refine ⟨?_, ?_, ?_⟩
  · rw [unpackSign_packComponents]
    rfl
  · rw [unpackMantissa_packComponents]
    exact canonical.toNat_append
  · rw [unpackExponent_packComponents, field]
    show (biased : Int) - (1023 + 52) = exponent
    omega

theorem targetExponent_eq {mantissa : Nat} {exponent : Int}
    (normal : -1022 ≤ exponent + mantissa.log2) :
    Format.binary64.targetExponent (totalExponent mantissa exponent) =
      exponent + mantissa.log2 - 52 := by
  show max ((mantissa.log2 : Int) + 1 + exponent - 53) (3 - 2 ^ 10 - 53) =
    exponent + mantissa.log2 - 52
  omega

theorem Canonical.shifted {mantissa : Nat} {exponent : Int}
    (canonical : Canonical mantissa exponent) :
    shiftToTargetExponent .binary64 mantissa exponent .exact =
      (⟨mantissa, false, false⟩, exponent) := by
  have digits := canonical.log2
  have low := canonical.low
  have stay : (exponent + mantissa.log2 - 52 - exponent).toNat = 0 := by omega
  rw [shiftToTargetExponent, targetExponent_eq (by omega), shiftToExponent, stay]
  exact congrArg _ (Int.add_zero exponent)

theorem Canonical.roundWithAccuracy {mantissa : Nat} {exponent : Int}
    (canonical : Canonical mantissa exponent) (positive : 0 < mantissa) :
    UnpackedFloat.roundWithAccuracy .binary64 .positive mantissa exponent .exact =
      .finite .positive mantissa exponent positive := by
  have same : ExtendedMantissa.roundedMantissa ⟨mantissa, false, false⟩ = mantissa := rfl
  rw [UnpackedFloat.roundWithAccuracy, canonical.shifted]
  dsimp only
  rw [same, canonical.shifted]
  exact dif_neg (Nat.ne_of_gt positive)

/-- A natural with 53 binary digits at most is filled up with zeros. -/
theorem round_few {natural : Nat} (positive : 0 < natural) (few : natural.log2 ≤ 52) :
    ∃ above, Canonical (natural * 2 ^ (52 - natural.log2)) (natural.log2 - 52) ∧
      UnpackedFloat.round .binary64 .positive natural 0 =
        .finite .positive (natural * 2 ^ (52 - natural.log2)) (natural.log2 - 52) above := by
  have notZero : natural ≠ 0 := Nat.ne_of_gt positive
  have places : ((0 : Int) - (0 + natural.log2 - 52)).toNat = 52 - natural.log2 := by omega
  have exponent : (0 : Int) - (52 - natural.log2 : Nat) = natural.log2 - 52 := by omega
  have full : 2 ^ natural.log2 * 2 ^ (52 - natural.log2) = 2 ^ 52 := by
    rw [← Nat.pow_add, Nat.add_sub_cancel' few]
  have canonical : Canonical (natural * 2 ^ (52 - natural.log2)) (natural.log2 - 52) := by
    refine ⟨?_, ?_, by omega, by omega⟩
    · rw [← full]
      exact Nat.mul_le_mul_right _ (Nat.log2_self_le notZero)
    · have below : natural < 2 ^ natural.log2 * 2 := Nat.lt_log2_self
      calc natural * 2 ^ (52 - natural.log2)
          < 2 ^ natural.log2 * 2 * 2 ^ (52 - natural.log2) :=
            Nat.mul_lt_mul_of_pos_right below (Nat.two_pow_pos _)
        _ = 2 ^ 52 * 2 := by rw [Nat.mul_right_comm, full]
  have above := Nat.mul_pos positive (Nat.two_pow_pos (52 - natural.log2))
  refine ⟨above, canonical, ?_⟩
  rw [UnpackedFloat.round, targetExponent_eq (by omega), decreaseExponent, places, exponent,
    Nat.shiftLeft_eq]
  exact canonical.roundWithAccuracy above

theorem divideToEven_bounds (numerator denominator : Nat) :
    numerator / denominator ≤ Binary64.divideToEven numerator denominator ∧
      Binary64.divideToEven numerator denominator ≤ numerator / denominator + 1 := by
  unfold Binary64.divideToEven
  dsimp only
  split
  · omega
  · split <;> omega

/-- Of the digits of a natural the first 53 make a mantissa. -/
theorem div_bounds {natural places : Nat} (digits : natural.log2 = 52 + places) :
    2 ^ 52 ≤ natural / 2 ^ places ∧ natural / 2 ^ places < 2 ^ 53 := by
  have notZero : natural ≠ 0 := by
    rintro rfl
    exact absurd digits (by rw [Nat.log2_zero]; omega)
  have least : 2 ^ (52 + places) ≤ natural := digits ▸ Nat.log2_self_le notZero
  have below : natural < 2 ^ (52 + places + 1) := digits ▸ Nat.lt_log2_self
  constructor
  · rw [Nat.le_div_iff_mul_le (Nat.two_pow_pos places), ← Nat.pow_add]
    exact least
  · rw [Nat.div_lt_iff_lt_mul (Nat.two_pow_pos places), ← Nat.pow_add]
    exact Nat.lt_of_lt_of_eq below (congrArg _ (by omega))

theorem shifted_overflow (exponent : Nat) :
    shiftToTargetExponent .binary64 (2 ^ 53) exponent .exact =
      (⟨2 ^ 52, false, false⟩, ((exponent + 1 : Nat) : Int)) := by
  have digits : (2 ^ 53 : Nat).log2 = 53 := Nat.log2_two_pow
  have one : ((exponent : Int) + (53 : Nat) - 52 - exponent).toNat = 1 := by omega
  rw [shiftToTargetExponent, targetExponent_eq (by omega), digits, shiftToExponent, one]
  rfl

/-- A natural with more digits is rounded to 53 of them. Where the mantissa becomes a power of two
by that, it has a digit more, and that last digit, a zero, is taken away. -/
theorem round_many {natural places : Nat} (digits : natural.log2 = 52 + places)
    (few : places ≤ 11) :
    ∃ mantissa exponent, ∃ above : 0 < mantissa, Canonical mantissa (exponent : Nat) ∧
      UnpackedFloat.round .binary64 .positive natural 0 =
        .finite .positive mantissa exponent above ∧
      mantissa * 2 ^ exponent = Binary64.divideToEven natural (2 ^ places) * 2 ^ places := by
  have target : ((0 : Int) + (52 + places : Nat) - 52) = places := by omega
  have stay : ((0 : Int) - places).toNat = 0 := by omega
  have start : UnpackedFloat.round .binary64 .positive natural 0 =
      UnpackedFloat.roundWithAccuracy .binary64 .positive natural 0 .exact := by
    rw [UnpackedFloat.round, targetExponent_eq (by omega), digits, target, decreaseExponent, stay]
    rfl
  have first : shiftToTargetExponent .binary64 natural 0 .exact =
      ((⟨natural, false, false⟩ : ExtendedMantissa) >>> places, (places : Int)) := by
    rw [shiftToTargetExponent, targetExponent_eq (by omega), digits, target, shiftToExponent]
    exact congrArg _ (Int.zero_add _)
  rw [start, UnpackedFloat.roundWithAccuracy, first]
  dsimp only
  rw [(Shifted.all natural places).roundedMantissa]
  obtain ⟨least, most⟩ := div_bounds digits
  obtain ⟨from_, to_⟩ := divideToEven_bounds natural (2 ^ places)
  generalize Binary64.divideToEven natural (2 ^ places) = mantissa at *
  rcases Nat.lt_or_ge mantissa (2 ^ 53) with inside | outside
  · have canonical : Canonical mantissa (places : Int) := ⟨by omega, inside, by omega, by omega⟩
    have above : 0 < mantissa := by omega
    refine ⟨mantissa, places, above, canonical, ?_, rfl⟩
    rw [canonical.shifted]
    exact dif_neg (Nat.ne_of_gt above)
  · obtain rfl : mantissa = 2 ^ 53 := by omega
    have canonical : Canonical (2 ^ 52) ((places + 1 : Nat) : Int) :=
      ⟨by omega, by omega, by omega, by omega⟩
    refine ⟨2 ^ 52, places + 1, Nat.two_pow_pos 52, canonical, ?_, ?_⟩
    · rw [shifted_overflow]
      exact dif_neg (Nat.ne_of_gt (Nat.two_pow_pos 52))
    · rw [Nat.pow_succ 2 places, Nat.mul_comm (2 ^ places), ← Nat.mul_assoc]
      rfl

theorem round_canonical {natural : Nat} (positive : 0 < natural) (bounded : natural < 2 ^ 64) :
    ∃ mantissa exponent, ∃ above : 0 < mantissa, Canonical mantissa exponent ∧
      UnpackedFloat.round .binary64 .positive natural 0 =
        .finite .positive mantissa exponent above ∧
      mantissa * 2 ^ exponent.toNat = rounded natural * 2 ^ (-exponent).toNat := by
  have digits : natural.log2 < 64 := (Nat.log2_lt (Nat.ne_of_gt positive)).mpr bounded
  rcases Nat.le_total natural.log2 52 with few | many
  · obtain ⟨above, canonical, same⟩ := round_few positive few
    refine ⟨_, _, above, canonical, same, ?_⟩
    have exact : rounded natural = natural := by
      refine rounded_of_le (Nat.le_of_lt ?_)
      exact Nat.lt_of_lt_of_le Nat.lt_log2_self (Nat.pow_le_pow_right (by decide) (by omega))
    have noPower : ((natural.log2 : Int) - 52).toNat = 0 := by omega
    have places : (-((natural.log2 : Int) - 52)).toNat = 52 - natural.log2 := by omega
    rw [exact, noPower, places, Nat.pow_zero, Nat.mul_one]
  · have split : natural.log2 = 52 + (natural.log2 - 52) := by omega
    obtain ⟨mantissa, exponent, above, canonical, same, value⟩ := round_many split (by omega)
    refine ⟨mantissa, exponent, above, canonical, same, ?_⟩
    have noPower : (-(exponent : Int)).toNat = 0 := by omega
    rw [noPower, Nat.pow_zero, Nat.mul_one, Int.toNat_natCast]
    exact value

theorem toFloat_isNatural (natural : UInt64) :
    IsNatural natural.toFloat (rounded natural.toNat) := by
  show (match (Float.Model.pack
      (UnpackedFloat.normalize .binary64 natural.toNat 0 .positive)).unpack with
    | .zero _ => rounded natural.toNat = 0
    | .finite .positive mantissa exponent _ =>
        mantissa * 2 ^ exponent.toNat = rounded natural.toNat * 2 ^ (-exponent).toNat
    | _ => False)
  rcases Nat.eq_zero_or_pos natural.toNat with zero | positive
  · have unpacked : (Float.Model.pack (UnpackedFloat.normalize .binary64 0 0 .positive)).unpack =
        .zero .positive := rfl
    rw [zero]
    exact unpacked ▸ (by decide : rounded 0 = 0)
  · obtain ⟨mantissa, exponent, above, canonical, same, value⟩ :=
      round_canonical positive natural.toNat_lt
    have normal : UnpackedFloat.normalize .binary64 natural.toNat 0 .positive =
        .finite .positive mantissa exponent above := by
      rw [UnpackedFloat.normalize, Int.compare_eq_gt.mpr (Int.natCast_pos.mpr positive)]
      exact same
    rw [normal, canonical.unpack_pack above]
    exact value

theorem toFloat_injective {natural other : UInt64} (small : natural.toNat ≤ 2 ^ 53)
    (otherSmall : other.toNat ≤ 2 ^ 53) (same : natural.toFloat = other.toFloat) :
    natural = other := by
  have isNatural := toFloat_isNatural natural
  have isOther := toFloat_isNatural other
  rw [rounded_of_le small] at isNatural
  rw [rounded_of_le otherSmall, ← same] at isOther
  exact UInt64.toNat_inj.mp (isNatural.unique isOther)

end StagedRuns.Number
