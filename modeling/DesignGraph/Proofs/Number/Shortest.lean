import DesignGraph.Number.Decimal
import DesignGraph.Proofs.Number.Rounding
/-!
# Shortest decimals read back

The digits that are found for a double stand for it: the decimal with these digits has the double
as its nearest one, and seventeen digits always suffice.

## Main results

* `DesignGraph.Decimal.toDouble_scale` — the double of a decimal depends on its value only.
* `DesignGraph.Decimal.readsBack_iff` — the test for digits is exact.
* `DesignGraph.Decimal.nearestOnGrid?_isSome` — some decimal of seventeen digits passes it.
* `DesignGraph.Decimal.toDouble_shortest` — the shortest digits of a magnitude stand for it.

## Design

All comparisons are between whole numbers. A power of ten of either sign scales the first or the
second of two of them (`DesignGraph.Decimal.shift`), so that a decimal is a fraction, and the
midpoints around a magnitude are compared after both sides are multiplied out.
-/

set_option relaxedAutoImplicit false
set_option autoImplicit false

namespace DesignGraph.Decimal

open Double

/-! ## Powers of ten -/

/-- Scaling keeps the second number positive. -/
theorem shift_snd_pos (a : Nat) {b : Nat} (hb : 0 < b) (t : Int) : 0 < (shift a b t).2 := by
  cases t with
  | ofNat k => exact hb
  | negSucc k => exact Nat.mul_pos hb (Nat.pow_pos (by omega))

/-- Scaling scales a fraction by the power of ten. -/
theorem shift_div (a : Nat) {b : Nat} (hb : 0 < b) (t : Int) :
    ((shift a b t).1 : ℚ) / (shift a b t).2 = a / b * 10 ^ t := by
  have hb' : (b : ℚ) ≠ 0 := by positivity
  cases t with
  | ofNat k => simp [shift, div_mul_eq_mul_div]
  | negSucc k =>
    simp only [shift, zpow_negSucc, Nat.pow_eq]
    push_cast
    rw [div_mul_eq_div_div, div_eq_mul_inv _ ((10 : ℚ) ^ (k + 1))]

/-- A factor of the first number stays one. -/
theorem shift_mul (k a b : Nat) (t : Int) :
    shift (k * a) b t = (k * (shift a b t).1, (shift a b t).2) := by
  cases t <;> simp [shift, Nat.mul_assoc]

/-- Scaling by a power and by its inverse: what one multiplies the other divides by. -/
theorem shift_neg (a b c : Nat) (t : Int) :
    (shift a b (-t)).1 = a * (shift c 1 t).2 ∧
      c * (shift a b (-t)).2 = (shift c 1 t).1 * b := by
  rcases t with (_ | k) | k
  · simp [shift]
  · have : -(Int.ofNat (k + 1)) = Int.negSucc k := rfl
    simp only [this, shift, Nat.mul_one, true_and]
    ring
  · have : -(Int.negSucc k) = Int.ofNat (k + 1) := rfl
    simp only [this, shift, Nat.one_mul, true_and]

/-! ## Digits -/

/-- A number lies below the power of ten with as many zeros as it has digits. -/
theorem lt_pow_length (n : Nat) : n < 10 ^ (digits n).length :=
  (Nat.length_toDigits_le_iff (by omega) Nat.length_toDigits_pos).1 le_rfl

/-- A positive number is at least the least one with as many digits. -/
theorem pow_length_le {n : Nat} (hn : 0 < n) : 10 ^ ((digits n).length - 1) ≤ n := by
  have hiff (l : Nat) (hl : 0 < l) : (digits n).length ≤ l ↔ n < 10 ^ l :=
    Nat.length_toDigits_le_iff (by omega) hl
  rcases Nat.eq_zero_or_pos ((digits n).length - 1) with h | h
  · rw [h]
    exact hn
  · have := (hiff _ h).not
    omega

/-- The nearest double depends on the value of a fraction only. -/
theorem nearestBits_congr {n d n' d' : Nat} (hd : 0 < d) (hd' : 0 < d')
    (h : (n : ℚ) / d = n' / d') : nearestBits n d = nearestBits n' d' := by
  have hcross : d' * n = d * n' := by
    have hd : (d : ℚ) ≠ 0 := by positivity
    have hd' : (d' : ℚ) ≠ 0 := by positivity
    rw [div_eq_div_iff hd hd'] at h
    have h : n * d' = n' * d := by exact_mod_cast h
    linarith
  rw [← nearestBits_scale n d hd', ← nearestBits_scale n' d' hd, hcross, Nat.mul_comm d' d]

/-- Within the range of powers, the double of a decimal is the one nearest to its fraction. -/
theorem toDouble_eq {d : Decimal} (h0 : d.coefficient ≠ 0)
    (hl : -rangeOfPowers ≤ d.exponent + (digits d.coefficient).length)
    (hr : d.exponent + (digits d.coefficient).length ≤ rangeOfPowers) :
    d.toDouble = nearest d.negative (shift d.coefficient 1 d.exponent).1
      (shift d.coefficient 1 d.exponent).2 := by
  obtain ⟨s, c, e⟩ := d
  simp only [toDouble]
  rw [if_neg (by simp_all), if_neg (by simp_all)]
  cases e <;> simp [shift]

/-- A decimal passes the test for the digits of a magnitude exactly if it lies between the
midpoints around the magnitude. -/
theorem readsBack_iff {m p : Nat} (hm : m < 2 ^ 53) (hp : p = 0 ∨ 2 ^ 52 ≤ m) (c : Nat) (t : Int) :
    readsBack (m * 2 ^ p) c t = true ↔
      RoundsTo m p ((shift c 1 t).1 * unitsPerOne) (shift c 1 t).2 := by
  have hgap : 0 < 2 ^ p := Nat.two_pow_pos p
  have hcandidate : shift (4 * c * unitsPerOne) 1 t =
      (4 * ((shift c 1 t).1 * unitsPerOne), (shift c 1 t).2) := by
    rw [Nat.mul_right_comm, shift_mul, Nat.mul_assoc, Nat.mul_comm unitsPerOne]
  simp only [readsBack, spacing_mul hm hp, Nat.pow_eq, Nat.mul_div_cancel _ hgap, hcandidate,
    exponentUnit_eq]
  have hd := shift_snd_pos c one_pos t
  clear hcandidate
  generalize (shift c 1 t).2 = d at *
  generalize (shift c 1 t).1 * unitsPerOne = num at *
  generalize hk : 2 ^ p * d = k
  have hlow (b : Nat) : (4 * (m * 2 ^ p) - b) * d = 4 * (m * k) - b * d := by
    rw [← hk, Nat.sub_mul]
    ring_nf
  have hhigh : (4 * (m * 2 ^ p) + 2 * 2 ^ p) * d = 4 * (m * k) + 2 * k := by
    rw [← hk]
    ring
  have hbelow : (if m = 2 ^ 52 ∧ 1 < 2 ^ p then 2 ^ p else 2 * 2 ^ p) * d =
      if m = 2 ^ 52 ∧ 0 < p then k else 2 * k := by
    simp only [Nat.one_lt_two_pow_iff, ← Nat.pos_iff_ne_zero, ← hk]
    split <;> ring
  rw [hlow, hhigh, hbelow, roundsTo_iff, hk]
  by_cases heven : m % 2 = 0
  · rw [if_pos heven, decide_eq_true_iff]
    split <;> omega
  · have hmk : k ≤ m * k := Nat.le_mul_of_pos_left k (by omega)
    have hk0 : 0 < k := by rw [← hk]; positivity
    rw [if_neg heven, decide_eq_true_iff]
    split <;> omega

/-! ## The range -/

/-- One is a positive number of units. -/
theorem unitsPerOne_pos : 0 < unitsPerOne := by
  obtain ⟨k, -, hk⟩ := exists_unitsPerOne_eq
  rw [hk]
  exact Nat.two_pow_pos k

/-- Twice the least positive double lies above the least power of ten in range. -/
theorem two_mul_unitsPerOne_lt : 2 * unitsPerOne < 10 ^ 400 := by
  decide +kernel

/-- The greatest magnitudes lie below the greatest power of ten in range. -/
theorem greatest_lt : 2 ^ 53 * 2 ^ 2045 < 10 ^ 400 * unitsPerOne := by
  decide +kernel

/-- A fraction between the midpoints around a positive magnitude is neither too small nor too
great for the powers of ten in range. -/
theorem range_of_roundsTo {m p n d : Nat} (h0 : 0 < m) (hm : m < 2 ^ 53) (hp : p ≤ 2045)
    (hd : 0 < d) (h : RoundsTo m p (n * unitsPerOne) d) :
    d < 10 ^ 400 * n ∧ n < 10 ^ 400 * d := by
  obtain ⟨below, above, -, -⟩ := h
  have hleast := two_mul_unitsPerOne_lt
  have hgreatest := greatest_lt
  have hp' : 2 ^ p ≤ 2 ^ 2045 := pow_le_pow_right₀ one_le_two hp
  have hgap : d ≤ 2 ^ p * d := Nat.le_mul_of_pos_left d (Nat.two_pow_pos p)
  generalize unitsPerOne = units at *
  generalize 2 ^ 2045 = widest at *
  constructor
  · have hm1 : 2 ^ p * d ≤ m * (2 ^ p * d) := Nat.le_mul_of_pos_left _ h0
    have hn : 0 < n := by
      rcases Nat.eq_zero_or_pos n with rfl | hn
      · omega
      · exact hn
    calc d ≤ 2 * units * n := by linarith
      _ < 10 ^ 400 * n := Nat.mul_lt_mul_of_pos_right hleast hn
  · have hm1 : (m + 1) * (2 ^ p * d) ≤ 2 ^ 53 * (2 ^ p * d) := Nat.mul_le_mul_right _ hm
    rw [Nat.add_mul] at hm1
    refine Nat.lt_of_mul_lt_mul_right (a := units) ?_
    calc n * units ≤ 2 ^ 53 * (2 ^ p * d) := by linarith
      _ ≤ 2 ^ 53 * (widest * d) := Nat.mul_le_mul_left _ (Nat.mul_le_mul_right d hp')
      _ = 2 ^ 53 * widest * d := (Nat.mul_assoc ..).symm
      _ < 10 ^ 400 * units * d := Nat.mul_lt_mul_of_pos_right hgreatest hd
      _ = 10 ^ 400 * d * units := Nat.mul_right_comm ..

/-- The place of the first digit of a decimal in the range of powers. -/
theorem length_in_range {c : Nat} {t : Int} (hc : 0 < c)
    (hlow : (10 : ℚ) ^ (-400 : ℤ) < c * 10 ^ t) (hhigh : (c : ℚ) * 10 ^ t < 10 ^ (400 : ℤ)) :
    -rangeOfPowers ≤ t + (digits c).length ∧ t + (digits c).length ≤ rangeOfPowers := by
  have hlen : 0 < (digits c).length := Nat.length_toDigits_pos
  have hpow : (0 : ℚ) < 10 ^ t := zpow_pos (by norm_num) t
  show -400 ≤ _ ∧ _ ≤ (400 : Int)
  constructor
  · have hlt : (c : ℚ) < 10 ^ ((digits c).length : ℤ) := by exact_mod_cast lt_pow_length c
    have h : (10 : ℚ) ^ (-400 : ℤ) < 10 ^ (t + (digits c).length) := by
      rw [zpow_add₀ (by norm_num), mul_comm]
      exact hlow.trans (mul_lt_mul_of_pos_right hlt hpow)
    exact ((zpow_lt_zpow_iff_right₀ (by norm_num)).1 h).le
  · have hle : (10 : ℚ) ^ (((digits c).length - 1 : Nat) : ℤ) ≤ c := by
      exact_mod_cast pow_length_le hc
    have h : (10 : ℚ) ^ (t + ((digits c).length - 1 : Nat)) < 10 ^ (400 : ℤ) := by
      rw [zpow_add₀ (by norm_num), mul_comm]
      exact (mul_le_mul_of_nonneg_right hle hpow.le).trans_lt hhigh
    have := (zpow_lt_zpow_iff_right₀ (by norm_num)).1 h
    omega

/-- A decimal between the midpoints around a positive magnitude has it as the nearest one. -/
theorem toDouble_of_roundsTo (s : Bool) {m p c : Nat} {t : Int} (h0 : 0 < m) (hm : m < 2 ^ 53)
    (hp : p = 0 ∨ 2 ^ 52 ≤ m) (hle : p ≤ 2045)
    (h : RoundsTo m p ((shift c 1 t).1 * unitsPerOne) (shift c 1 t).2) :
    0 < c ∧ toDouble ⟨s, c, t⟩ = ofMagnitude s (p * exponentUnit + m) := by
  have hd := shift_snd_pos c one_pos t
  obtain ⟨hlow, hhigh⟩ := range_of_roundsTo h0 hm hle hd h
  have hvalue := shift_div c one_pos t
  rw [Nat.cast_one, div_one] at hvalue
  have hd' : (0 : ℚ) < (shift c 1 t).2 := by exact_mod_cast hd
  have hlow' : (10 : ℚ) ^ (-400 : ℤ) < c * 10 ^ t := by
    rw [← hvalue, lt_div_iff₀ hd', zpow_neg, inv_mul_lt_iff₀ (by positivity)]
    exact_mod_cast hlow
  have hhigh' : (c : ℚ) * 10 ^ t < 10 ^ (400 : ℤ) := by
    rw [← hvalue, div_lt_iff₀ hd']
    exact_mod_cast hhigh
  have hc : 0 < c := by
    rcases Nat.eq_zero_or_pos c with rfl | hc
    · rw [Nat.cast_zero, zero_mul] at hlow'
      exact absurd (zpow_pos (by norm_num : (0 : ℚ) < 10) (-400)) (not_lt.2 hlow'.le)
    · exact hc
  obtain ⟨hl, hr⟩ := length_in_range hc hlow' hhigh'
  refine ⟨hc, (toDouble_eq hc.ne' hl hr).trans ?_⟩
  rw [nearest, nearestBits_eq hm hp hle hd h]

/-! ## Seventeen digits suffice -/

/-- The place of the first digit is not beyond it. -/
theorem pow_leadingPlace_le {num den : Nat} (hn : 0 < num) (hd : 0 < den) :
    (10 : ℚ) ^ (leadingPlace num den - 1) ≤ num / den := by
  have hd' : (0 : ℚ) < den := by exact_mod_cast hd
  rw [le_div_iff₀ hd']
  unfold leadingPlace
  by_cases h : den ≤ num
  · rw [if_pos h]
    have hq : 0 < num / den := Nat.div_pos h hd
    have hlen : 0 < (digits (num / den)).length := Nat.length_toDigits_pos
    have hle := (Nat.le_div_iff_mul_le hd).1 (pow_length_le hq)
    rw [show ((digits (num / den)).length : Int) - 1 = ((digits (num / den)).length - 1 : Nat)
      by omega, zpow_natCast]
    exact_mod_cast hle
  rw [if_neg h]
  have hlen : 0 < (digits (den / num)).length := Nat.length_toDigits_pos
  have hlt := (Nat.div_lt_iff_lt_mul hn).1 (lt_pow_length (den / num))
  generalize (digits (den / num)).length = d at *
  simp only [Nat.pow_eq]
  by_cases hexact : den = num * 10 ^ (d - 1)
  · rw [if_pos hexact, show (2 : Int) - d - 1 = -((d - 1 : Nat) : Int) by omega, zpow_neg,
      zpow_natCast, inv_mul_le_iff₀ (by positivity), mul_comm]
    exact_mod_cast hexact.le
  · rw [if_neg hexact, show (1 : Int) - d - 1 = -(d : Int) by omega, zpow_neg, zpow_natCast,
      inv_mul_le_iff₀ (by positivity)]
    exact_mod_cast hlt.le

/-- A whole number of steps `den` below a magnitude of `num`, or one step more, lies between the
midpoints, if steps are fine. -/
theorem roundsTo_or {m p c num den scale : Nat} (hm : m < 2 ^ 53) (hden : 0 < den)
    (hnum : num = m * (2 ^ p * scale)) (hfine : 10 ^ 16 * den ≤ num) (hle : c * den ≤ num)
    (hlt : num < (c + 1) * den) :
    RoundsTo m p (c * den) scale ∨ RoundsTo m p ((c + 1) * den) scale := by
  rw [Nat.add_mul, Nat.one_mul] at *
  simp only [roundsTo_iff]
  generalize 2 ^ p * scale = k at *
  rw [← hnum]
  by_cases hleast : m = 2 ^ 52
  · -- the midpoint below is half as far away as the one above
    rw [hleast] at hnum
    by_cases hclose : 4 * num ≤ 4 * (c * den) + k
    · left
      omega
    · right
      omega
  · have hmk : m * k ≤ (2 ^ 53 - 1) * k := Nat.mul_le_mul_right k (by omega)
    by_cases hclose : 2 * num < 2 * (c * den) + k
    · left
      omega
    · right
      omega

/-- Of the two neighbours of a magnitude on a fine decimal grid one reads back. -/
theorem nearestOnGrid?_isSome {m p : Nat} (hm : m < 2 ^ 53) (hp : p = 0 ∨ 2 ^ 52 ≤ m) {t : Int}
    (h : (10 : ℚ) ^ (t + 16) ≤ ((m * 2 ^ p : Nat) : ℚ) / unitsPerOne) :
    (nearestOnGrid? (m * 2 ^ p) t).isSome = true := by
  have hunits : 0 < unitsPerOne := unitsPerOne_pos
  have hden := shift_snd_pos (m * 2 ^ p) hunits (-t)
  have hvalue := shift_div (m * 2 ^ p) hunits (-t)
  have hneg (c : Nat) := shift_neg (m * 2 ^ p) unitsPerOne c t
  have hscale (c : Nat) : (shift c 1 t).2 = (shift 0 1 t).2 := by cases t <;> rfl
  simp only [nearestOnGrid?]
  generalize (shift (m * 2 ^ p) unitsPerOne (-t)).1 = num at *
  generalize (shift (m * 2 ^ p) unitsPerOne (-t)).2 = den at *
  have hfine : 10 ^ 16 * den ≤ num := by
    have hden' : (0 : ℚ) < den := by exact_mod_cast hden
    have hq : (10 : ℚ) ^ (16 : ℤ) ≤ num / den := by
      rw [hvalue]
      calc (10 : ℚ) ^ (16 : ℤ) = 10 ^ (t + 16) * 10 ^ (-t) := by
            rw [← zpow_add₀ (by norm_num), add_neg_cancel_comm]
        _ ≤ _ := mul_le_mul_of_nonneg_right h (zpow_pos (by norm_num) _).le
    rw [le_div_iff₀ hden'] at hq
    exact_mod_cast hq
  have hreads (c : Nat) : readsBack (m * 2 ^ p) c t = true ↔
      RoundsTo m p (c * den) (shift 0 1 t).2 := by
    rw [readsBack_iff hm hp, (hneg c).2, hscale]
  have hor := roundsTo_or hm hden ((hneg 0).1.trans (Nat.mul_assoc ..)) hfine
    (Nat.div_mul_le_self num den) ((Nat.div_lt_iff_lt_mul hden).1 (Nat.lt_succ_self _))
  rw [← hreads, ← hreads] at hor
  clear hreads hneg hvalue hunits h
  split
  · rfl
  · rfl
  · rfl
  · rename_i hfirst hsecond
    rw [hfirst, hsecond] at hor
    simp at hor

/-- What is found on a grid reads back. -/
theorem readsBack_of_nearestOnGrid? {u c : Nat} {t t' : Int}
    (h : nearestOnGrid? u t = some (c, t')) : readsBack u c t' = true := by
  simp only [nearestOnGrid?] at h
  generalize shift u unitsPerOne (-t) = grid at h
  obtain ⟨num, den⟩ := grid
  simp only at h
  cases hfirst : readsBack u (num / den) t <;> cases hsecond : readsBack u (num / den + 1) t <;>
    simp only [hfirst, hsecond, Option.some.injEq, Prod.mk.injEq, reduceCtorEq] at h
  · obtain ⟨rfl, rfl⟩ := h
    exact hsecond
  · obtain ⟨rfl, rfl⟩ := h
    exact hfirst
  · obtain ⟨rfl, rfl⟩ := h
    rcases roundDiv_eq_or num den with hr | hr <;> rw [hr]
    · exact hfirst
    · exact hsecond

/-- The digits of a positive magnitude read back. -/
theorem readsBack_shortest {m p : Nat} (h0 : 0 < m) (hm : m < 2 ^ 53) (hp : p = 0 ∨ 2 ^ 52 ≤ m) :
    readsBack (m * 2 ^ p) (shortest (m * 2 ^ p)).1 (shortest (m * 2 ^ p)).2 = true := by
  have hu : 0 < m * 2 ^ p := by positivity
  simp only [shortest, if_neg hu.ne']
  cases hfound : (List.range' 1 17).findSome? fun n =>
      nearestOnGrid? (m * 2 ^ p) (leadingPlace (m * 2 ^ p) unitsPerOne - (n : Nat)) with
  | some found =>
    obtain ⟨n, -, hn⟩ := List.exists_of_findSome?_eq_some hfound
    exact readsBack_of_nearestOnGrid? hn
  | none =>
    have hlast := List.findSome?_eq_none_iff.1 hfound 17 (by decide)
    have hsome := nearestOnGrid?_isSome (t := leadingPlace (m * 2 ^ p) unitsPerOne - 17) hm hp (by
      rw [show ∀ place : Int, place - 17 + 16 = place - 1 by intro; ring]
      exact pow_leadingPlace_le hu unitsPerOne_pos)
    rw [Nat.cast_ofNat] at hlast
    rw [hlast] at hsome
    cases hsome

/-- The shortest digits of a positive magnitude stand for it. -/
theorem toDouble_shortest (s : Bool) {u : Nat} (h0 : 0 < u) (hu : IsMagnitude u) :
    0 < (shortest u).1 ∧
      toDouble ⟨s, (shortest u).1, (shortest u).2⟩ = ofMagnitude s (magnitudeBits u) := by
  obtain ⟨m, p, rfl, hm, hp, hle⟩ := hu
  have hm0 : 0 < m := Nat.pos_of_mul_pos_right h0
  rw [magnitudeBits_mul hm hp]
  exact toDouble_of_roundsTo s hm0 hm hp hle
    ((readsBack_iff hm hp _ _).1 (readsBack_shortest hm0 hm hp))

end DesignGraph.Decimal
