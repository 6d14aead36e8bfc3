import DesignGraph.Proofs.Coercion.Equality
import DesignGraph.Proofs.Coercion.Writing
/-!
# Equal numbers and their texts

Doubles that are equal have the same text. An integer is compared through its double, but its text
shows all its digits, however many there are, while a double shows its shortest decimal and from
`10 ^ 21` on an exponent. So equal numbers print alike as long as the integers among them are what
their doubles show.

## Main definitions

* `DesignGraph.Coercion.KeepsDigits` — an integer that is what its double shows.

## Main results

* `DesignGraph.Coercion.text_eq_digits` — a tight text that denotes a whole number without exponent
  consists of the digits of that number.
* `DesignGraph.Coercion.intText_eq_number_iff` — an integer prints as its double exactly if it keeps
  its digits.
* `DesignGraph.Coercion.equal_numbers_alike` — which equal numbers print alike.
-/

set_option relaxedAutoImplicit false
set_option autoImplicit false

namespace DesignGraph.Coercion

open Json.Reader (AllDigits IsSignificant)

/-! ## Digits of whole numbers -/

/-- A digit is the one of its value. -/
theorem digitChar_of_isDigit {c : Char} (h : c.isDigit = true) :
    c.toNat - '0'.toNat < 10 ∧ Nat.digitChar (c.toNat - '0'.toNat) = c := by
  obtain ⟨hle, hge⟩ := Bool.and_eq_true_iff.1 h
  have hle : 48 ≤ c.toNat := of_decide_eq_true hle
  have hge : c.toNat ≤ 57 := of_decide_eq_true hge
  have hchar : ∀ n < 10, Nat.digitChar n = Char.ofNat (48 + n) := by decide
  have hzero : '0'.toNat = 48 := rfl
  rw [hzero]
  refine ⟨by omega, ?_⟩
  rw [hchar _ (by omega), Nat.add_sub_cancel' hle, Char.ofNat_toNat]

/-- The number of a row of digits with one more. -/
theorem ofDigits_concat (ds : List Char) (c : Char) :
    Json.Reader.ofDigits (ds ++ [c]) = Json.Reader.ofDigits ds * 10 + (c.toNat - '0'.toNat) := by
  rw [Json.Reader.ofDigits, List.foldl_append]
  rfl

/-- Digits that start with none but a zero are the digits of their number. -/
theorem digits_ofDigits {ds : List Char} (hd : IsSignificant ds) :
    Decimal.digits (Json.Reader.ofDigits ds) = ds := by
  induction ds using List.reverseRecOn with
  | nil => exact absurd rfl (head?_of_isSignificant hd).1
  | append_singleton ds c ih =>
    obtain ⟨hlt, hchar⟩ := digitChar_of_isDigit (hd.allDigits c (by simp))
    rw [ofDigits_concat, Decimal.digits]
    by_cases hnil : ds = []
    · subst hnil
      rw [Json.Reader.ofDigits, List.foldl_nil, Nat.zero_mul, Nat.zero_add,
        Nat.toDigits_of_lt_base hlt, hchar]
      rfl
    · have hinit : IsSignificant ds := by
        refine ⟨fun c hc => hd.allDigits c (List.mem_append_left _ hc), ?_⟩
        obtain ⟨d, rest, hds⟩ := List.exists_cons_of_ne_nil hnil
        refine ⟨d, rest, hds, fun h0 => (head?_of_isSignificant hd).2 ?_⟩
        rw [hds, h0]
        rfl
      have hpos := hinit.ofDigits_pos
      have hdiv : (Json.Reader.ofDigits ds * 10 + (c.toNat - '0'.toNat)) / 10 =
          Json.Reader.ofDigits ds := by omega
      have hmod : (Json.Reader.ofDigits ds * 10 + (c.toNat - '0'.toNat)) % 10 =
          c.toNat - '0'.toNat := by omega
      rw [Nat.toDigits_of_base_le (by omega) (by omega), hdiv, hmod, hchar]
      exact congrArg (· ++ [c]) (ih hinit)

/-! ## Texts that denote whole numbers -/

theorem DigitRow.allDigits (row : DigitRow latinDigit?) : AllDigits row.chars :=
  fun c hc => isSome_latinDigit?.1 (row.isDigit c hc)

section Whole

variable {t : DecimalText latinDigit?} {n : Nat}

/-- What a whole number shows behind a point ends in a zero. -/
theorem fraction_eq_none (ht : t.IsTight) (he : t.exponent = none)
    (hn : t.decimal.magnitude = n) : t.fraction = none := by
  cases hfraction : t.fraction with
  | none => rfl
  | some row =>
    obtain ⟨hne, hlast⟩ := ht.fraction row hfraction
    obtain ⟨init, c, hrow⟩ := (List.eq_nil_or_concat row.chars).resolve_left hne
    rw [List.concat_eq_append] at hrow
    have hcoefficient : t.decimal.coefficient =
        Json.Reader.ofDigits (t.whole.chars ++ init) * 10 + (c.toNat - '0'.toNat) := by
      rw [← ofDigits_concat, List.append_assoc, ← hrow,
        ← positional_latin (t.whole.allDigits.append row.allDigits), List.filterMap_append]
      simp only [DecimalText.decimal, hfraction]
      rfl
    have hshift : t.decimal.coefficient = n * 10 ^ (init.length + 1) := by
      have hexponent : t.decimal.exponent = -((init.length + 1 : Nat) : Int) := by
        simp [DecimalText.decimal, hfraction, he, DecimalText.exponentValue,
          DecimalText.fractionValues, row.length_values, hrow]
      rw [Decimal.magnitude, hexponent, zpow_neg, zpow_natCast, ← div_eq_mul_inv,
        div_eq_iff (by positivity)] at hn
      exact_mod_cast hn
    obtain ⟨hlt, hchar⟩ := digitChar_of_isDigit (row.allDigits c (by simp [hrow]))
    rw [hcoefficient, Nat.pow_succ, ← Nat.mul_assoc] at hshift
    have hzero : c.toNat - '0'.toNat = 0 := by omega
    rw [hzero] at hchar
    refine absurd ?_ hlast
    rw [hrow, List.getLast?_concat, ← hchar]
    rfl

/-- The digits before the point are those of the number. -/
theorem whole_eq_digits (ht : t.IsTight) (he : t.exponent = none)
    (hn : t.decimal.magnitude = n) : t.whole.chars = Decimal.digits n := by
  have hvalue : Json.Reader.ofDigits t.whole.chars = n := by
    have hcoefficient : t.decimal.coefficient = positional 10 t.whole.values := by
      simp [DecimalText.decimal, fraction_eq_none ht he hn, DecimalText.fractionValues]
    have hexponent : t.decimal.exponent = 0 := by
      simp [DecimalText.decimal, fraction_eq_none ht he hn, he, DecimalText.exponentValue,
        DecimalText.fractionValues]
    rw [Decimal.magnitude, hexponent, zpow_zero, mul_one, hcoefficient, Nat.cast_inj] at hn
    exact (positional_latin t.whole.allDigits).symm.trans hn
  rcases ht.whole with h0 | ⟨hne, hhead⟩
  · rw [h0] at hvalue ⊢
    rw [← hvalue]
    rfl
  · have hsignificant : IsSignificant t.whole.chars := by
      obtain ⟨d, rest, hd⟩ := List.exists_cons_of_ne_nil hne
      refine ⟨t.whole.allDigits, d, rest, hd, ?_⟩
      rintro rfl
      exact hhead (congrArg List.head? hd)
    rw [← hvalue, digits_ofDigits hsignificant]

/-- **A text without exponent in which nothing can be left out, and which denotes a whole number,
consists of the digits of that number** behind its sign. -/
theorem text_eq_digits (ht : t.IsTight) (he : t.exponent = none)
    (hn : t.decimal.magnitude = n) :
    t.text = (if t.decimal.negative then ['-'] else []) ++ Decimal.digits n := by
  have hsign : t.sign.text = if t.sign.negative then ['-'] else [] := by
    cases h : t.sign with
    | plus => exact absurd h ht.sign
    | _ => rfl
  rw [DecimalText.text, fraction_eq_none ht he hn, he, whole_eq_digits ht he hn, hsign]
  simp only [DecimalText.fractionText, DecimalText.exponentText, List.append_nil]
  rfl

end Whole

/-- Texts that are the same denote the same. -/
theorem decimal_eq_of_text_eq {t t' : DecimalText latinDigit?} (h : t.text = t'.text) :
    t.decimal = t'.decimal := by
  exact Option.some.inj ((decimal?_latin t).symm.trans (h ▸ decimal?_latin t'))

/-! ## Integers that print as their doubles -/

/-- The shortest decimal of the double of an integer is the integer, and needs no exponent. -/
def KeepsDigits (i : Int) : Prop :=
  i.natAbs < 10 ^ 21 ∧ (Decimal.ofShortest (decide (i < 0))
    (Double.units (Double.ofIntOrInfinite i))).magnitude = i.natAbs

theorem keepsDigits_zero : KeepsDigits 0 := by
  have hunits : Double.units 0 = 0 := rfl
  refine ⟨by decide, ?_⟩
  rw [ofIntOrInfinite_zero, hunits]
  simp [Decimal.ofShortest, Decimal.shortest, Decimal.magnitude]

/-- Integers up to `2 ^ 53` keep their digits. -/
theorem keepsDigits_of_le {i : Int} (h : i.natAbs ≤ 2 ^ 53) : KeepsDigits i := by
  by_cases h0 : i = 0
  · subst h0
    exact keepsDigits_zero
  · have hpos : 0 < i.natAbs := Int.natAbs_pos.2 h0
    refine ⟨by omega, ?_⟩
    rw [Double.ofIntOrInfinite, Decimal.units_nearest_whole _ hpos h,
      Decimal.magnitude_ofShortest_whole _ hpos h]

/-- The double of an integer in range other than zero is finite and has the sign of the integer. -/
theorem exists_view_of_ofInt {i : Int} {x : Float} (h : Double.ofInt i = .ok x) (h0 : i ≠ 0) :
    ∃ u, Double.view x = .finite (decide (i < 0)) u ∧ u ≠ 0 ∧ Double.units x = u := by
  obtain rfl := eq_of_ofInt h
  have hlt : Double.nearestBits i.natAbs 1 < Double.infinityBits := by
    rw [Double.ofInt] at h
    split_ifs at h with hlt
    exact hlt
  have hview := Double.view_ofMagnitude (decide (i < 0)) hlt
  refine ⟨_, hview, ?_, by rw [Double.units, Double.ofIntOrInfinite, Double.nearest, hview]⟩
  intro hzero
  rw [hzero] at hview
  have hne := Double.ofIntOrInfinite_ne_zero h0
  rw [Double.ofIntOrInfinite, Double.nearest, Double.beq_zero_of_view hview] at hne
  cases hne

/-- **An integer prints as its double exactly if the double keeps its digits.** -/
theorem intText_eq_number_iff {i : Int} {x : Float} (h : Double.ofInt i = .ok x) :
    Decimal.intText i = DigitLayout.browser.number x ↔ KeepsDigits i := by
  by_cases h0 : i = 0
  · subst h0
    obtain rfl := eq_of_ofInt h
    rw [ofIntOrInfinite_zero]
    exact iff_of_true rfl keepsDigits_zero
  obtain ⟨u, hview, hu0, hunits⟩ := exists_view_of_ofInt h h0
  obtain ⟨t, htext, hdecimal, hexponent⟩ := exists_intText i
  obtain ⟨t', htext', hnegative', hmagnitude', hexponent', htight'⟩ :=
    exists_number_text endsWhole_browser hview hu0
  have hbounds : DigitLayout.browser.leastPlace - 1 = -6 ∧
      DigitLayout.browser.greatestPlace = 21 := ⟨rfl, rfl⟩
  rw [hbounds.1, hbounds.2] at hexponent'
  have hmagnitude : t.decimal.magnitude = i.natAbs := by
    rw [Decimal.magnitude, hdecimal, zpow_zero, mul_one]
  have hgreatest : (10 : ℚ) ^ (21 : ℤ) = (10 ^ 21 : Nat) := by norm_num
  rw [KeepsDigits, ← eq_of_ofInt h, hunits, ← hmagnitude']
  constructor
  · intro heq
    have hsame : t.text = t'.text := by rw [htext, htext', heq]
    have hvalue : t'.decimal.magnitude = i.natAbs := by
      rw [← decimal_eq_of_text_eq hsame, hmagnitude]
    refine ⟨?_, hvalue⟩
    -- the digits of an integer show no exponent
    have hplain : ¬ t'.exponent.isSome = true := by
      rw [isSome_exponent_iff, ← hsame, ← isSome_exponent_iff, hexponent]
      exact Bool.false_ne_true
    rw [hexponent', ← hmagnitude', hvalue, not_or, not_le, hgreatest, Nat.cast_lt] at hplain
    exact hplain.2
  · rintro ⟨hlt, hvalue⟩
    have hplain : t'.exponent = none := by
      rw [← Option.not_isSome_iff_eq_none, hexponent', ← hmagnitude', hvalue, not_or, not_lt,
        not_le, hgreatest, Nat.cast_lt]
      refine ⟨?_, hlt⟩
      calc (10 : ℚ) ^ (-6 : ℤ) ≤ 1 := by norm_num
        _ ≤ i.natAbs := by exact_mod_cast Int.natAbs_pos.2 h0
    have hdigits := text_eq_digits (htight' rfl) hplain hvalue
    apply String.toList_inj.1
    rw [← htext', hdigits, hnegative', Decimal.intText, String.toList_ofList]
    by_cases hneg : i < 0 <;> simp [hneg]

/-- A number that prints as its double: any double, and an integer that keeps its digits. -/
def PrintsAsDouble (v : Value) : Prop :=
  ∀ i, v = .int i → KeepsDigits i

/-- The text of a number that prints as its double. -/
theorem toText_eq_number_iff {v : Value} {x : Float} (hnumber : isNumber v = true)
    (h : toNumber v = .ok x) : toText v = DigitLayout.browser.number x ↔ PrintsAsDouble v := by
  cases v with
  | int i =>
    rw [toText, intText_eq_number_iff h]
    exact ⟨fun hkeeps j hj => Value.int.inj hj ▸ hkeeps, fun hall => hall i rfl⟩
  | float | nan =>
    cases h
    refine iff_of_true rfl fun i hi => ?_
    cases hi
  | _ => cases hnumber

/-- Integers with the same digits are the same. -/
theorem intText_inj {i j : Int} (h : Decimal.intText i = Decimal.intText j) : i = j := by
  obtain ⟨t, htext, hdecimal, -⟩ := exists_intText i
  obtain ⟨t', htext', hdecimal', -⟩ := exists_intText j
  have hsame : t.text = t'.text := by rw [htext, htext', h]
  have heq := decimal_eq_of_text_eq hsame
  rw [hdecimal, hdecimal'] at heq
  have hsign := congrArg Decimal.negative heq
  have habs := congrArg Decimal.coefficient heq
  simp only [decide_eq_decide] at hsign habs
  omega

/-- Equal doubles print alike. -/
theorem number_eq_of_beq {x y : Float} (h : (x == y) = true) :
    DigitLayout.browser.number x = DigitLayout.browser.number y := by
  have hzero {x : Float} (hx : (x == 0) = true) : DigitLayout.browser.number x = "0" := by
    obtain ⟨s, hs⟩ := Double.view_of_beq_zero hx
    rw [DigitLayout.number, hs]
    cases s <;> rfl
  rcases Double.eq_or_zero_of_beq h with rfl | ⟨hx, hy⟩
  · rfl
  · rw [hzero hx, hzero hy]

/-- Numbers are compared as doubles. -/
theorem exists_doubles_of_looseEquals {same : Bool} {a b : Value} (ha : isNumber a = true)
    (hb : isNumber b = true) (h : looseEquals same a b = .ok true) :
    ∃ x y, toNumber a = .ok x ∧ toNumber b = .ok y ∧ (x == y) = true := by
  have hdoubles : doubleEquals a b = .ok true := by
    rw [looseEquals_eq_abstract, abstractEquals_of_isNumber ha] at h
    cases b with
    | int | float | nan => exact h
    | _ => cases hb
  exact doubleEquals_eq_true_iff.1 hdoubles

/-- **Which equal numbers print alike.** As doubles they do. So two equal numbers have the same text
exactly if each of them prints as its double, or if they are one and the same integer. An integer
prints as its double if it lies below `10 ^ 21` and is the shortest decimal of its double, which
holds up to `2 ^ 53`. -/
theorem equal_numbers_alike {same : Bool} {a b : Value} (ha : isNumber a = true)
    (hb : isNumber b = true) (h : looseEquals same a b = .ok true) :
    (∃ x y, toNumber a = .ok x ∧ toNumber b = .ok y ∧ toText (.float x) = toText (.float y)) ∧
    (toText a = toText b ↔ PrintsAsDouble a ∧ PrintsAsDouble b ∨ ∃ i, a = .int i ∧ b = .int i) ∧
    ((∀ i, a = .int i ∨ b = .int i → i.natAbs ≤ 2 ^ 53) → toText a = toText b) := by
  obtain ⟨x, y, hx, hy, hbeq⟩ := exists_doubles_of_looseEquals ha hb h
  have hdoubles : DigitLayout.browser.number x = DigitLayout.browser.number y :=
    number_eq_of_beq hbeq
  have hleft := toText_eq_number_iff ha hx
  have hright := toText_eq_number_iff hb hy
  rw [← hdoubles] at hright
  have hiff : toText a = toText b ↔
      PrintsAsDouble a ∧ PrintsAsDouble b ∨ ∃ i, a = .int i ∧ b = .int i := by
    constructor
    · intro heq
      by_cases hprints : PrintsAsDouble a
      · exact .inl ⟨hprints, hright.1 (heq ▸ hleft.2 hprints)⟩
      · have hprints' : ¬ PrintsAsDouble b := fun hb => hprints (hleft.1 (heq ▸ hright.2 hb))
        -- only integers do not print as their doubles
        simp only [PrintsAsDouble, not_forall] at hprints hprints'
        obtain ⟨i, rfl, -⟩ := hprints
        obtain ⟨j, rfl, -⟩ := hprints'
        obtain rfl : i = j := intText_inj heq
        exact .inr ⟨i, rfl, rfl⟩
    · rintro (⟨hprints, hprints'⟩ | ⟨i, rfl, rfl⟩)
      · exact (hleft.2 hprints).trans (hright.2 hprints').symm
      · rfl
  refine ⟨⟨x, y, hx, hy, hdoubles⟩, hiff, fun hsmall => hiff.2 (.inl ⟨?_, ?_⟩)⟩
  · exact fun i hi => keepsDigits_of_le (hsmall i (.inl hi))
  · exact fun i hi => keepsDigits_of_le (hsmall i (.inr hi))

/-- Seven is printed as its double. -/
theorem seven_alike : isNumber (.int 7) = true ∧ isNumber (.float 7) = true ∧
    looseEquals false (.int 7) (.float 7) = .ok true ∧ toText (.int 7) = toText (.float 7) := by
  have h : looseEquals false (.int 7) (.float 7) = .ok true := by decide +kernel
  refine ⟨rfl, rfl, h, (equal_numbers_alike rfl rfl h).2.2 ?_⟩
  rintro i (hi | hi)
  · cases hi
    decide
  · cases hi

/-- Beyond `10 ^ 21` an integer shows all its digits, and a double equal to it shows an exponent.
Beyond `2 ^ 53` different integers are equal as doubles. -/
theorem equal_numbers_differ :
    (looseEquals false (.int (10 ^ 21)) (.float 1e21) = .ok true ∧
      toText (.int (10 ^ 21)) ≠ toText (.float 1e21)) ∧
    (looseEquals false (.int (2 ^ 53 + 1)) (.int (2 ^ 53)) = .ok true ∧
      toText (.int (2 ^ 53 + 1)) ≠ toText (.int (2 ^ 53))) := by
  decide +kernel

end DesignGraph.Coercion
