import DesignGraph.Proofs.Number.Shortest
import DesignGraph.Proofs.Number.Whole
/-!
# Decimals as rational numbers

A decimal denotes a rational number, and its double is the one nearest to that number, however it is
written. The shortest decimals of doubles lie in the order of the doubles, although they are not
equal to them: between two neighbouring doubles there is a midpoint that separates the decimals.

## Main definitions

* `DesignGraph.Decimal.magnitude`, `DesignGraph.Decimal.value` — the number that a decimal denotes,
  without and with its sign.
* `DesignGraph.Double.nearestTo` — the double nearest to a rational magnitude.
* `DesignGraph.Double.magnitude` — the number that a finite double stands for, without its sign.
* `DesignGraph.Decimal.ofShortest` — the shortest decimal of a magnitude.

## Main results

* `DesignGraph.Decimal.toDouble_eq_nearestTo` — the double of a decimal is the one nearest to the
  number that it denotes.
* `DesignGraph.Decimal.magnitude_ofShortest_lt_iff` — shortest decimals keep the order.
* `DesignGraph.Decimal.magnitude_ofShortest_whole` — up to `2 ^ 53` the shortest decimal of a whole
  number is the number itself.
-/

set_option relaxedAutoImplicit false
set_option autoImplicit false

namespace DesignGraph

/-! ## Rounding of rational numbers -/

namespace Double

/-- The bits of the double nearest to a rational magnitude. -/
def bitsNearestTo (q : ℚ) : Nat :=
  nearestBits q.num.natAbs q.den

/-- The double nearest to a rational magnitude, with the given sign. -/
def nearestTo (negative : Bool) (q : ℚ) : Float :=
  ofMagnitude negative (bitsNearestTo q)

/-- The units of a finite double. -/
def units (x : Float) : Nat :=
  match view x with
  | .finite _ u => u
  | _ => 0

/-- The number that a finite double stands for, without its sign. -/
def magnitude (x : Float) : ℚ :=
  units x / unitsPerOne

theorem magnitude_of_view {x : Float} {s : Bool} {u : Nat} (h : view x = .finite s u) :
    magnitude x = u / unitsPerOne := by
  rw [magnitude, units, h]

/-- A magnitude is the quotient of its parts. -/
theorem natAbs_num_div_den {q : ℚ} (h : 0 ≤ q) : (q.num.natAbs : ℚ) / q.den = q := by
  have hnum : ((q.num.natAbs : ℤ) : ℚ) = q.num := by
    rw [Int.natAbs_of_nonneg (Rat.num_nonneg.2 h)]
  rw [Int.cast_natCast] at hnum
  rw [hnum, Rat.num_div_den]

/-- Rounding a fraction is rounding the number that it stands for. -/
theorem bitsNearestTo_div (num : Nat) {den : Nat} (hden : 0 < den) :
    bitsNearestTo (num / den) = nearestBits num den :=
  Decimal.nearestBits_congr (Rat.den_pos _) hden (natAbs_num_div_den (by positivity))

/-- Rounding a whole number. -/
theorem nearestTo_natCast (negative : Bool) (n : Nat) :
    nearestTo negative n = nearest negative n 1 := by
  rw [nearestTo, nearest, ← bitsNearestTo_div n one_pos, Nat.cast_one, div_one]

/-- Rounding keeps the order of magnitudes. -/
theorem bitsNearestTo_mono {p q : ℚ} (hp : 0 ≤ p) (h : p ≤ q) :
    bitsNearestTo p ≤ bitsNearestTo q := by
  have hfractions : (p.num.natAbs : ℚ) / p.den ≤ q.num.natAbs / q.den := by
    rwa [natAbs_num_div_den hp, natAbs_num_div_den (hp.trans h)]
  rw [div_le_div_iff₀ (Nat.cast_pos.2 (Rat.den_pos p)) (Nat.cast_pos.2 (Rat.den_pos q))]
    at hfractions
  exact nearestBits_mono (Rat.den_pos p) (Rat.den_pos q) (by exact_mod_cast hfractions)

/-- A magnitude is the nearest one to itself. -/
theorem bitsNearestTo_units {u : Nat} (hu : IsMagnitude u) :
    bitsNearestTo (u / unitsPerOne) = magnitudeBits u := by
  have hpos : 0 < unitsPerOne := Decimal.unitsPerOne_pos
  obtain ⟨m, p, rfl, hm, hp, hle⟩ := hu
  rw [bitsNearestTo_div _ hpos, magnitudeBits_mul hm hp]
  refine nearestBits_eq hm hp hle hpos ?_
  rw [Nat.mul_assoc]
  have hstep : 0 < 2 ^ p * unitsPerOne := Nat.mul_pos (Nat.two_pow_pos p) hpos
  constructor <;> intros <;> omega

/-- The double of a magnitude stands for it. -/
theorem view_magnitude (s : Bool) {u : Nat} (hu : IsMagnitude u) :
    view (ofMagnitude s (magnitudeBits u)) = .finite s u := by
  obtain ⟨m, p, rfl, hm, hp, hle⟩ := hu
  have hbits := magnitudeBits_mul hm hp
  rw [exponentUnit_eq] at hbits
  have hlt : p * 2 ^ 52 + m < infinityBits := by
    rw [infinityBits_eq]
    omega
  rw [hbits, view_ofMagnitude s hlt]
  by_cases hsmall : p * 2 ^ 52 + m < 2 ^ 52
  · obtain rfl : p = 0 := by omega
    rw [if_pos hsmall, Nat.zero_mul, Nat.zero_add, Nat.pow_zero, Nat.mul_one]
  · have hleast : 2 ^ 52 ≤ m := by omega
    have hpower : (p * 2 ^ 52 + m) / 2 ^ 52 - 1 = p := by omega
    have hsignificand : 2 ^ 52 + (p * 2 ^ 52 + m) % 2 ^ 52 = m := by omega
    rw [if_neg hsmall, hpower, hsignificand]

/-- Different magnitudes have different bits. -/
theorem magnitudeBits_inj {u v : Nat} (hu : IsMagnitude u) (hv : IsMagnitude v)
    (h : magnitudeBits u = magnitudeBits v) : u = v := by
  obtain ⟨m, p, rfl, hm, hp, -⟩ := hu
  obtain ⟨n, q, rfl, hn, hq, -⟩ := hv
  rw [magnitudeBits_mul hm hp, magnitudeBits_mul hn hq, exponentUnit_eq] at h
  obtain rfl : p = q := by omega
  obtain rfl : m = n := by omega
  rfl

/-- Magnitudes are in the order of their bits. -/
theorem le_of_bitsNearestTo_le {u v : Nat} (hu : IsMagnitude u) (hv : IsMagnitude v)
    (h : magnitudeBits u ≤ magnitudeBits v) : u ≤ v := by
  by_contra hlt
  have hle : (v : ℚ) / (unitsPerOne : Nat) ≤ u / (unitsPerOne : Nat) :=
    div_le_div_of_nonneg_right (Nat.cast_le.2 (not_le.1 hlt).le) (Nat.cast_nonneg _)
  have hbits := bitsNearestTo_mono (div_nonneg (Nat.cast_nonneg _) (Nat.cast_nonneg _)) hle
  rw [bitsNearestTo_units hu, bitsNearestTo_units hv] at hbits
  exact hlt (magnitudeBits_inj hu hv (h.antisymm hbits)).le

end Double

namespace Decimal

open Double

/-! ## What a decimal denotes -/

/-- The number that a decimal denotes, without its sign. -/
def magnitude (d : Decimal) : ℚ :=
  d.coefficient * 10 ^ d.exponent

/-- The number that a decimal denotes. -/
def value (d : Decimal) : ℚ :=
  if d.negative then -d.magnitude else d.magnitude

theorem magnitude_nonneg (d : Decimal) : 0 ≤ d.magnitude :=
  mul_nonneg (Nat.cast_nonneg _) (zpow_nonneg (by norm_num) _)

theorem abs_value (d : Decimal) : |d.value| = d.magnitude := by
  unfold value
  split
  · rw [abs_neg, abs_of_nonneg d.magnitude_nonneg]
  · exact abs_of_nonneg d.magnitude_nonneg

/-- The magnitude of a decimal as a fraction of whole numbers. -/
theorem shift_div_eq_magnitude (d : Decimal) :
    ((shift d.coefficient 1 d.exponent).1 : ℚ) / (shift d.coefficient 1 d.exponent).2 =
      d.magnitude := by
  rw [shift_div _ one_pos, Nat.cast_one, div_one, magnitude]

/-- Rounding the fraction of a decimal is rounding what it denotes. -/
theorem nearestBits_shift (d : Decimal) :
    nearestBits (shift d.coefficient 1 d.exponent).1 (shift d.coefficient 1 d.exponent).2 =
      bitsNearestTo d.magnitude := by
  rw [← shift_div_eq_magnitude, bitsNearestTo_div _ (shift_snd_pos _ one_pos _)]

/-- The least power of ten beyond the range rounds to zero, and the greatest one to infinity. -/
theorem bitsNearestTo_range :
    bitsNearestTo (10 ^ (-400 : ℤ)) = 0 ∧ bitsNearestTo (10 ^ (400 : ℤ)) = infinityBits := by
  have hlow : (10 : ℚ) ^ (-400 : ℤ) = (1 : Nat) / (10 ^ 400 : Nat) := by
    rw [zpow_neg, Nat.cast_one, one_div, Nat.cast_pow, Nat.cast_ofNat]
    norm_cast
  have hhigh : (10 : ℚ) ^ (400 : ℤ) = (10 ^ 400 : Nat) / (1 : Nat) := by
    rw [Nat.cast_one, div_one, Nat.cast_pow, Nat.cast_ofNat]
    exact zpow_natCast _ 400
  constructor
  · rw [hlow, bitsNearestTo_div _ (by positivity)]
    decide +kernel
  · rw [hhigh, bitsNearestTo_div _ one_pos]
    decide +kernel

/-- A decimal lies below the power of ten that follows its leading digit. -/
theorem magnitude_lt_pow (d : Decimal) :
    d.magnitude < 10 ^ (d.exponent + (digits d.coefficient).length) := by
  have hten : (0 : ℚ) < 10 := by norm_num
  have hlt : (d.coefficient : ℚ) < 10 ^ ((digits d.coefficient).length : ℤ) := by
    exact_mod_cast lt_pow_length d.coefficient
  calc d.magnitude < 10 ^ ((digits d.coefficient).length : ℤ) * 10 ^ d.exponent :=
        mul_lt_mul_of_pos_right hlt (zpow_pos hten _)
    _ = 10 ^ (d.exponent + (digits d.coefficient).length) := by
      rw [zpow_add₀ hten.ne', mul_comm]

/-- A decimal other than zero is at least the power of ten of its leading digit. -/
theorem pow_le_magnitude {d : Decimal} (h : 0 < d.coefficient) :
    10 ^ (d.exponent + (digits d.coefficient).length - 1) ≤ d.magnitude := by
  have hten : (0 : ℚ) < 10 := by norm_num
  have hlength : 0 < (digits d.coefficient).length := Nat.length_toDigits_pos
  have hle : (10 : ℚ) ^ (((digits d.coefficient).length - 1 : Nat) : ℤ) ≤ d.coefficient := by
    exact_mod_cast pow_length_le h
  calc (10 : ℚ) ^ (d.exponent + (digits d.coefficient).length - 1)
      = 10 ^ ((((digits d.coefficient).length - 1 : Nat) : ℤ) + d.exponent) :=
        congrArg ((10 : ℚ) ^ ·) (by omega)
    _ = 10 ^ (((digits d.coefficient).length - 1 : Nat) : ℤ) * 10 ^ d.exponent :=
      zpow_add₀ hten.ne' _ _
    _ ≤ d.magnitude := mul_le_mul_of_nonneg_right hle (zpow_pos hten _).le

/-- The place of its leading digit tells how large a decimal is. -/
theorem magnitude_lt_pow_iff {d : Decimal} (h : 0 < d.coefficient) (n : ℤ) :
    d.magnitude < 10 ^ n ↔ d.exponent + (digits d.coefficient).length ≤ n := by
  have hten : (1 : ℚ) < 10 := by norm_num
  constructor
  · intro hlt
    have := (zpow_lt_zpow_iff_right₀ hten).1 ((pow_le_magnitude h).trans_lt hlt)
    omega
  · exact fun hle => d.magnitude_lt_pow.trans_le (zpow_le_zpow_right₀ hten.le hle)

/-- Zero is rounded to zero. -/
theorem nearestBits_zero : nearestBits 0 1 = 0 := by
  have hle := bitsNearestTo_mono le_rfl (zpow_nonneg (by norm_num : (0 : ℚ) ≤ 10) (-400))
  rw [bitsNearestTo_range.1, Nat.le_zero, ← zero_div ((1 : Nat) : ℚ), ← Nat.cast_zero] at hle
  rwa [bitsNearestTo_div 0 one_pos] at hle

/-- **The double of a decimal is the one nearest to the number that it denotes.** Beyond the range
of powers that number rounds to zero or to infinity. -/
theorem toDouble_eq_nearestTo (d : Decimal) : d.toDouble = nearestTo d.negative d.magnitude := by
  obtain ⟨hleast, hgreatest⟩ := bitsNearestTo_range
  rcases Nat.eq_zero_or_pos d.coefficient with h0 | hpos
  · have hzero : d.magnitude = 0 := by rw [magnitude, h0, Nat.cast_zero, zero_mul]
    have hbits : bitsNearestTo 0 = nearestBits 0 1 := by
      rw [← bitsNearestTo_div 0 one_pos, Nat.cast_zero, zero_div]
    rw [nearestTo, hzero, hbits, toDouble, if_pos (.inl h0), nearest]
  by_cases hl : d.exponent + (digits d.coefficient).length < -rangeOfPowers
  · have hsmall : d.magnitude < 10 ^ (-400 : ℤ) := (magnitude_lt_pow_iff hpos _).2 hl.le
    have hbits := bitsNearestTo_mono d.magnitude_nonneg hsmall.le
    rw [hleast, Nat.le_zero] at hbits
    rw [nearestTo, hbits, toDouble, if_pos (.inr hl), nearest, nearestBits_zero]
  by_cases hr : rangeOfPowers < d.exponent + (digits d.coefficient).length
  · have hlarge : 10 ^ (400 : ℤ) ≤ d.magnitude :=
      not_lt.1 (mt (magnitude_lt_pow_iff hpos _).1 (not_le.2 hr))
    have hbits := bitsNearestTo_mono (by positivity) hlarge
    have hinfinite : bitsNearestTo d.magnitude = infinityBits :=
      (nearestBits_le _ _).antisymm (hgreatest ▸ hbits)
    rw [nearestTo, hinfinite, toDouble, if_neg (not_or.2 ⟨hpos.ne', hl⟩), if_pos hr, infinity]
  · rw [toDouble_eq hpos.ne' (not_lt.1 hl) (not_lt.1 hr), nearest, nearestBits_shift, nearestTo]

/-! ## Shortest decimals -/

/-- The shortest decimal of a magnitude, with the given sign. -/
def ofShortest (negative : Bool) (u : Nat) : Decimal :=
  ⟨negative, (shortest u).1, (shortest u).2⟩

/-- What the shortest decimal of a magnitude denotes rounds to the magnitude. -/
theorem bitsNearestTo_ofShortest (s : Bool) {u : Nat} (h0 : 0 < u) (hu : IsMagnitude u) :
    bitsNearestTo (ofShortest s u).magnitude = magnitudeBits u := by
  obtain ⟨m, p, rfl, hm, hp, hle⟩ := hu
  have hm0 : 0 < m := Nat.pos_of_mul_pos_right h0
  have hreads := (readsBack_iff hm hp _ _).1 (readsBack_shortest hm0 hm hp)
  rw [magnitudeBits_mul hm hp, ← nearestBits_eq hm hp hle (shift_snd_pos _ one_pos _) hreads]
  exact (nearestBits_shift (ofShortest s (m * 2 ^ p))).symm

/-- **Shortest decimals are in the order of the magnitudes.** -/
theorem magnitude_ofShortest_lt_iff (s t : Bool) {u v : Nat} (hu0 : 0 < u) (hu : IsMagnitude u)
    (hv0 : 0 < v) (hv : IsMagnitude v) :
    (ofShortest s u).magnitude < (ofShortest t v).magnitude ↔ u < v := by
  have hle {s t : Bool} {u v : Nat} (hu0 : 0 < u) (hu : IsMagnitude u) (hv0 : 0 < v)
      (hv : IsMagnitude v) (h : (ofShortest s u).magnitude ≤ (ofShortest t v).magnitude) :
      u ≤ v := by
    have hbits := bitsNearestTo_mono (magnitude_nonneg _) h
    rw [bitsNearestTo_ofShortest s hu0 hu, bitsNearestTo_ofShortest t hv0 hv] at hbits
    exact le_of_bitsNearestTo_le hu hv hbits
  constructor
  · intro hlt
    refine lt_of_le_of_ne (hle hu0 hu hv0 hv hlt.le) fun heq => ?_
    subst heq
    exact absurd hlt (lt_irrefl _)
  · intro hlt
    by_contra hge
    exact absurd hlt (not_lt.2 (hle hv0 hv hu0 hu (not_lt.1 hge)))

/-! ## Shortest decimals of whole numbers -/

/-- What is found on a grid lies on it. -/
theorem snd_of_nearestOnGrid? {u c : Nat} {t t' : Int} (h : nearestOnGrid? u t = some (c, t')) :
    t' = t := by
  simp only [nearestOnGrid?] at h
  generalize shift u unitsPerOne (-t) = grid at h
  split at h <;> cases h <;> rfl

/-- If the multiple below reads back, something is found. -/
theorem isSome_nearestOnGrid? {u num den : Nat} {t : Int}
    (hshift : shift u unitsPerOne (-t) = (num, den)) (h : readsBack u (num / den) t = true) :
    (nearestOnGrid? u t).isSome = true := by
  simp only [nearestOnGrid?, hshift]
  rw [h]
  cases readsBack u (num / den + 1) t <;> rfl

/-- Whole numbers below `2 ^ 53` are magnitudes whose neighbours are at most one apart. -/
theorem exists_significand {n : Nat} (h0 : 0 < n) (h : n < 2 ^ 53) :
    ∃ m p, n * unitsPerOne = m * 2 ^ p ∧ m < 2 ^ 53 ∧ 2 ^ 52 ≤ m ∧ 2 ^ p ≤ unitsPerOne := by
  obtain ⟨e, he, hunits⟩ := exists_unitsPerOne_eq
  have hlog : n.log2 ≤ 52 := by
    have := (Nat.log2_lt h0.ne').2 h
    omega
  have hsplit : 2 ^ e = 2 ^ (52 - n.log2) * 2 ^ (e - 52 + n.log2) := by
    rw [← Nat.pow_add]
    exact congrArg (2 ^ ·) (by omega)
  have hpow (k : Nat) (hk : n.log2 ≤ k) : 2 ^ k = 2 ^ n.log2 * 2 ^ (k - n.log2) := by
    rw [← Nat.pow_add, Nat.add_sub_of_le hk]
  refine ⟨n * 2 ^ (52 - n.log2), e - 52 + n.log2, ?_, ?_, ?_, ?_⟩
  · rw [hunits, hsplit, Nat.mul_assoc]
  · have hlt : n < 2 ^ (n.log2 + 1) := Nat.lt_log2_self
    have hup : 2 ^ (n.log2 + 1) * 2 ^ (52 - n.log2) = 2 ^ 53 := by
      rw [← Nat.pow_add]
      exact congrArg (2 ^ ·) (by omega)
    rw [← hup]
    exact Nat.mul_lt_mul_of_pos_right hlt (Nat.two_pow_pos _)
  · rw [hpow 52 hlog]
    exact Nat.mul_le_mul_right _ (Nat.log2_self_le h0.ne')
  · rw [hunits]
    exact Nat.pow_le_pow_right (by omega) (by omega)

/-- Whole numbers up to `2 ^ 53` are doubles. -/
theorem isMagnitude_whole {n : Nat} (h0 : 0 < n) (h : n ≤ 2 ^ 53) :
    IsMagnitude (n * unitsPerOne) := by
  obtain ⟨e, he, hunits⟩ := exists_unitsPerOne_eq
  rcases h.eq_or_lt with rfl | h
  · refine ⟨2 ^ 52, e + 1, ?_, by omega, .inr le_rfl, by omega⟩
    rw [hunits, Nat.pow_succ 2 52, Nat.pow_succ 2 e, Nat.mul_assoc, Nat.mul_comm 2]
  · obtain ⟨m, p, hu, hm, hleast, hgap⟩ := exists_significand h0 h
    have hp : p ≤ 2045 := by
      rw [hunits] at hgap
      have := (Nat.pow_le_pow_iff_right (by omega)).1 hgap
      omega
    exact ⟨m, p, hu, hm, .inr hleast, hp⟩

/-- The units of a whole number up to `2 ^ 53`. -/
theorem units_nearest_whole (s : Bool) {n : Nat} (h0 : 0 < n) (h : n ≤ 2 ^ 53) :
    units (nearest s n 1) = n * unitsPerOne := by
  have hu := isMagnitude_whole h0 h
  have hpos : ((unitsPerOne : Nat) : ℚ) ≠ 0 := Nat.cast_ne_zero.2 unitsPerOne_pos.ne'
  have hbits := bitsNearestTo_units hu
  rw [Nat.cast_mul, mul_div_cancel_right₀ _ hpos] at hbits
  rw [← nearestTo_natCast, nearestTo, hbits, units, view_magnitude s hu]

/-- A whole number that reads back as a smaller one than `2 ^ 53` is that number: neighbours are
not further apart than whole numbers are. -/
theorem readsBack_whole_iff {n : Nat} (h0 : 0 < n) (h : n < 2 ^ 53) (c k : Nat) :
    readsBack (n * unitsPerOne) c k = true ↔ c * 10 ^ k = n := by
  obtain ⟨m, p, hu, hm, hleast, hgap⟩ := exists_significand h0 h
  have hshift : shift c 1 (k : Int) = (c * 10 ^ k, 1) := by simp [shift]
  rw [hu, readsBack_iff hm (.inr hleast), hshift]
  have hpos : 0 < unitsPerOne := unitsPerOne_pos
  have hstep : 0 < 2 ^ p := Nat.two_pow_pos p
  generalize c * 10 ^ k = r
  generalize unitsPerOne = units at *
  constructor
  · rintro ⟨below, above, -, -⟩
    dsimp only at below above
    rw [Nat.mul_one, ← hu] at below above
    apply le_antisymm
    · by_contra hlt
      have := Nat.mul_le_mul_right units (by omega : n + 1 ≤ r)
      rw [Nat.add_mul] at this
      omega
    · by_contra hlt
      have := Nat.mul_le_mul_right units (by omega : r + 1 ≤ n)
      rw [Nat.add_mul] at this
      omega
  · rintro rfl
    constructor <;> intros <;> dsimp only <;> rw [Nat.mul_one] <;> omega

/-- What is found first in a range is found no later than what is known to be there. -/
theorem exists_findSome?_range' {α : Type} {f : Nat → Option α} {start length n : Nat}
    (hn : n ∈ List.range' start length) (h : (f n).isSome = true) :
    ∃ k a, k ≤ n ∧ f k = some a ∧ (List.range' start length).findSome? f = some a := by
  cases hsome : (List.range' start length).findSome? f with
  | none =>
    rw [List.findSome?_eq_none_iff.1 hsome _ hn] at h
    cases h
  | some a =>
    obtain ⟨before, k, after, hrange, hk, hbefore⟩ := List.findSome?_eq_some_iff.1 hsome
    refine ⟨k, a, ?_, hk, rfl⟩
    have hsorted : (before ++ k :: after).Pairwise (· < ·) := by
      rw [← hrange]
      exact List.pairwise_lt_range'
    rw [hrange, List.mem_append, List.mem_cons] at hn
    rcases hn with hn | rfl | hn
    · rw [hbefore _ hn] at h
      cases h
    · exact le_rfl
    · exact ((List.pairwise_cons.1 (List.pairwise_append.1 hsorted).2.1).1 _ hn).le

/-- A whole number below `2 ^ 53` is found on the grid of ones. -/
theorem isSome_nearestOnGrid?_whole {n : Nat} (h0 : 0 < n) (h : n < 2 ^ 53) :
    (nearestOnGrid? (n * unitsPerOne) 0).isSome = true := by
  have hshift : shift (n * unitsPerOne) unitsPerOne (-0) = (n * unitsPerOne, unitsPerOne) := by
    simp [shift]
  have hreads := (readsBack_whole_iff h0 h n 0).2 (by rw [pow_zero, Nat.mul_one])
  rw [Nat.cast_zero] at hreads
  refine isSome_nearestOnGrid? hshift ?_
  rwa [Nat.mul_div_cancel _ unitsPerOne_pos]

/-- Up to `2 ^ 53` the shortest decimal of a whole number is the number itself.

**Proof sketch.** On the grid of ones the number itself reads back, so the digits are found there or
on a coarser grid. A decimal on such a grid is whole, and no other whole number reads back. -/
theorem magnitude_ofShortest_whole (s : Bool) {n : Nat} (h0 : 0 < n) (h : n ≤ 2 ^ 53) :
    (ofShortest s (n * unitsPerOne)).magnitude = n := by
  rcases h.eq_or_lt with rfl | h
  · have hfound : shortest (2 ^ 53 * unitsPerOne) = (2 ^ 53, 0) := by decide +kernel
    rw [magnitude, ofShortest, hfound, zpow_zero, mul_one]
  have hplace : leadingPlace (n * unitsPerOne) unitsPerOne = (digits n).length := by
    rw [leadingPlace, if_pos (Nat.le_mul_of_pos_left _ h0), Nat.mul_div_cancel _ unitsPerOne_pos]
  have hlength : (digits n).length ≤ 16 :=
    (Nat.length_toDigits_le_iff (by omega) (by omega)).2 (by omega)
  have hlength0 : 0 < (digits n).length := Nat.length_toDigits_pos
  have hmem : (digits n).length ∈ List.range' 1 17 := by
    rw [List.mem_range'_1]
    omega
  obtain ⟨k, ⟨c, t⟩, hle, hk, hsome⟩ := exists_findSome?_range' hmem
    (f := fun k : Nat => nearestOnGrid? (n * unitsPerOne) ((digits n).length - k))
    (by rw [sub_self]; exact isSome_nearestOnGrid?_whole h0 h)
  have hfound : shortest (n * unitsPerOne) = (c, t) := by
    rw [shortest, if_neg (Nat.mul_pos h0 unitsPerOne_pos).ne', hplace]
    exact congrArg (Option.getD · _) hsome
  obtain ⟨d, hd⟩ := Nat.exists_eq_add_of_le hle
  have ht : t = d := by
    rw [snd_of_nearestOnGrid? hk, hd]
    push_cast
    ring
  have hreads := readsBack_of_nearestOnGrid? hk
  rw [ht, readsBack_whole_iff h0 h] at hreads
  rw [magnitude, ofShortest, hfound, ht, zpow_natCast]
  exact_mod_cast hreads

end Decimal

end DesignGraph
