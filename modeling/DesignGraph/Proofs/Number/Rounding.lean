import DesignGraph.Proofs.Number.Bits
/-!
# Rounding to a double

Which fractions round to a given double: those between the midpoints to its neighbours, a midpoint
belonging to the double with the even significand. Below a power of two the neighbours are twice
as close, so that the lower midpoint is nearer there.

## Main definitions

* `DesignGraph.Double.RoundsTo` — a fraction lies between the midpoints around a magnitude.

## Main results

* `DesignGraph.Double.nearestBits_eq` — such a fraction has that magnitude as the nearest one.
* `DesignGraph.Double.nearestBits_scale` — the nearest double depends on the value of a fraction
  only.
* `DesignGraph.Double.nearestBits_le` — a rounded magnitude is at most infinite.
-/

set_option relaxedAutoImplicit false
set_option autoImplicit false

namespace DesignGraph.Double

/-- `num / den` units lie between the midpoints around the magnitude `m * 2 ^ p`; the midpoints
themselves count if the significand is even. -/
@[mk_iff]
structure RoundsTo (m p num den : Nat) : Prop where
  below : 2 * (m * (2 ^ p * den)) ≤ 2 * num + 2 ^ p * den
  above : 2 * num ≤ 2 * (m * (2 ^ p * den)) + 2 ^ p * den
  strict : m % 2 = 1 → 2 * (m * (2 ^ p * den)) < 2 * num + 2 ^ p * den ∧
    2 * num < 2 * (m * (2 ^ p * den)) + 2 ^ p * den
  /-- Under the least significand, neighbours are half as far apart. -/
  finer : m = 2 ^ 52 → 0 < p → 4 * (m * (2 ^ p * den)) ≤ 4 * num + 2 ^ p * den

/-! ## Whole numbers -/

/-- A whole number within half a unit is the rounded one, an even one also at half a unit. -/
theorem roundDiv_eq {num den m : Nat} (below : 2 * (m * den) ≤ 2 * num + den)
    (above : 2 * num ≤ 2 * (m * den) + den)
    (strict : m % 2 = 1 → 2 * (m * den) < 2 * num + den ∧ 2 * num < 2 * (m * den) + den)
    (hden : 0 < den) : roundDiv num den = m := by
  have hd := Nat.div_add_mod num den
  have hr := Nat.mod_lt num hden
  rw [Nat.mul_comm] at hd
  have hle : m ≤ num / den + 1 := by
    by_contra hlt
    have := Nat.mul_le_mul_right den (by omega : num / den + 2 ≤ m)
    rw [Nat.add_mul] at this
    omega
  have hge : num / den ≤ m := by
    by_contra hlt
    have := Nat.mul_le_mul_right den (by omega : m + 1 ≤ num / den)
    rw [Nat.add_mul] at this
    omega
  simp only [roundDiv]
  obtain rfl | rfl : m = num / den ∨ m = num / den + 1 := by omega
  · generalize num / den = q at *
    generalize num % den = r at *
    split
    · rfl
    · split
      · omega
      · split <;> omega
  · generalize num / den = q at *
    generalize num % den = r at *
    rw [Nat.add_mul] at *
    split
    · omega
    · split
      · rfl
      · split <;> omega

/-- Rounding gives the whole number below or the one after it. -/
theorem roundDiv_eq_or (num den : Nat) :
    roundDiv num den = num / den ∨ roundDiv num den = num / den + 1 := by
  simp only [roundDiv]
  split <;> (try split) <;> (try split) <;> simp

/-- Rounding depends on the value of a fraction only. -/
theorem roundDiv_scale {k : Nat} (num den : Nat) (hk : 0 < k) :
    roundDiv (k * num) (k * den) = roundDiv num den := by
  have h2 (a : Nat) : 2 * (k * a) = k * (2 * a) := by ring
  simp only [roundDiv, Nat.mul_div_mul_left _ _ hk, Nat.mul_mod_mul_left, h2,
    Nat.mul_lt_mul_left hk]

/-! ## Magnitudes -/

/-- The nearest double depends on the value of a fraction only. -/
theorem nearestBits_scale {k : Nat} (num den : Nat) (hk : 0 < k) :
    nearestBits (k * num) (k * den) = nearestBits num den := by
  simp only [nearestBits, Nat.mul_assoc, Nat.mul_div_mul_left _ _ hk, roundDiv_scale _ _ hk]

/-- A rounded magnitude is at most infinite. -/
theorem nearestBits_le (num den : Nat) : nearestBits num den ≤ infinityBits :=
  Nat.min_le_left ..

/-- The bits of a magnitude are those of the spacing and the rounded significand. -/
theorem nearestBits_eq_min {num den p : Nat} (hp : spacing (num * unitsPerOne / den) = p) :
    nearestBits num den =
      min infinityBits (p * exponentUnit + roundDiv (num * unitsPerOne) (2 ^ p * den)) := by
  simp only [nearestBits, hp, Nat.pow_eq, Nat.mul_comm den]

/-- Where neighbours are as far apart on both sides, or the fraction lies above the magnitude, the
spacing is that of the magnitude. -/
theorem spacing_of_roundsTo {m p num den : Nat} (hm : m < 2 ^ 53) (hp : p = 0 ∨ 2 ^ 52 ≤ m)
    (hden : 0 < den) (h : RoundsTo m p num den)
    (hside : p = 0 ∨ m ≠ 2 ^ 52 ∨ m * (2 ^ p * den) ≤ num) : spacing (num / den) = p := by
  obtain ⟨below, above, -, -⟩ := h
  have hk : 0 < 2 ^ p * den := by positivity
  apply spacing_eq
  · rw [Nat.div_lt_iff_lt_mul hden, Nat.pow_add, Nat.mul_assoc]
    have := Nat.mul_le_mul_right (2 ^ p * den) (by omega : m ≤ 2 ^ 53 - 1)
    omega
  · rcases hp with hp | hp
    · exact .inl hp
    refine hside.imp id fun hside => ?_
    rw [Nat.le_div_iff_mul_le hden, Nat.pow_add, Nat.mul_assoc]
    rcases hside with hne | hle
    · have := Nat.mul_le_mul_right (2 ^ p * den) (by omega : 2 ^ 52 + 1 ≤ m)
      omega
    · exact (Nat.mul_le_mul_right _ hp).trans hle

/-- Just below a power of two the spacing is half as large. -/
theorem spacing_of_roundsTo_below {p num den : Nat} (hden : 0 < den)
    (h : RoundsTo (2 ^ 52) (p + 1) num den) (hlt : num < 2 ^ 52 * (2 ^ (p + 1) * den)) :
    spacing (num / den) = p := by
  have hfiner := h.finer rfl (Nat.succ_pos p)
  have hdouble : 2 ^ (p + 1) * den = 2 * (2 ^ p * den) := by ring
  have hk : 0 < 2 ^ p * den := by positivity
  rw [hdouble] at hfiner hlt
  apply spacing_eq
  · rw [Nat.div_lt_iff_lt_mul hden, Nat.pow_add, Nat.mul_assoc]
    omega
  · right
    rw [Nat.le_div_iff_mul_le hden, Nat.pow_add, Nat.mul_assoc]
    omega

/-- A fraction between the midpoints around a magnitude has it as the nearest one. -/
theorem nearestBits_eq {m p num den : Nat} (hm : m < 2 ^ 53) (hp : p = 0 ∨ 2 ^ 52 ≤ m)
    (hle : p ≤ 2045) (hden : 0 < den) (h : RoundsTo m p (num * unitsPerOne) den) :
    nearestBits num den = p * exponentUnit + m := by
  have hk : 0 < 2 ^ p * den := by positivity
  have hbits : p * exponentUnit + m ≤ infinityBits := by
    rw [exponentUnit_eq, infinityBits_eq]
    omega
  by_cases hside : p = 0 ∨ m ≠ 2 ^ 52 ∨ m * (2 ^ p * den) ≤ num * unitsPerOne
  · rw [nearestBits_eq_min (spacing_of_roundsTo hm hp hden h hside),
      roundDiv_eq h.below h.above h.strict hk, Nat.min_eq_right hbits]
  · simp only [not_or, not_not, Nat.not_le] at hside
    obtain ⟨hp0, rfl, hlt⟩ := hside
    obtain ⟨p, rfl⟩ := Nat.exists_eq_add_one.2 (Nat.pos_of_ne_zero hp0)
    rw [nearestBits_eq_min (spacing_of_roundsTo_below hden h hlt)]
    have hfiner := h.finer rfl (Nat.succ_pos p)
    have hdouble : 2 ^ (p + 1) * den = 2 * (2 ^ p * den) := by ring
    -- the fraction rounds up to a power of two, which is twice the least significand
    have hround : roundDiv (num * unitsPerOne) (2 ^ p * den) = 2 ^ 53 := by
      apply roundDiv_eq <;> omega
    rw [exponentUnit_eq, infinityBits_eq] at *
    omega

end DesignGraph.Double
