import DesignGraph.Proofs.Coercion.NumericText
import DesignGraph.Proofs.Json.Numeral
/-!
# Numbers written and read

The text of a number in browser layout. It is a decimal text of basic Latin, it denotes the shortest
decimal of the double, as the literal of the double does in its own layout, and it has no zero that
could be left out. Read again, it gives the same double. An exponent shows by the size of that
decimal alone.

## Main definitions

* `DesignGraph.Coercion.DecimalText.IsTight` — no sign or zero of a decimal text can be left out.
* `DesignGraph.Coercion.Shows` — a decimal text shows digits at a place in a layout.

## Main results

* `DesignGraph.Coercion.exists_shows` — digits laid out at a place are a decimal text.
* `DesignGraph.Coercion.exists_number_text` — the text of a double denotes its shortest decimal.
* `DesignGraph.Coercion.numbers_written` — writing a number loses nothing.

## Design

A layout has four notations. Each is a decimal text made of digits before a point, digits behind it
and an exponent, so that what they denote is computed once, in
`DesignGraph.Coercion.shows_latinText`, and each notation only names its parts.
-/

set_option relaxedAutoImplicit false
set_option autoImplicit false

namespace DesignGraph.Coercion

open Json.Reader (AllDigits IsSignificant)

/-! ## Texts from their digits -/

/-- Digits of basic Latin. -/
def latinRow (ds : List Char) (h : AllDigits ds) : DigitRow latinDigit? :=
  ⟨ds, fun c hc => isSome_latinDigit?.2 (h c hc)⟩

/-- The value of a row of digits, as numerals have it. -/
theorem positional_latin {ds : List Char} (h : AllDigits ds) :
    positional 10 (ds.filterMap latinDigit?) = Json.Reader.ofDigits ds := by
  have hvalues : ds.filterMap latinDigit? = ds.map fun c => c.toNat - '0'.toNat := by
    rw [← List.filterMap_eq_map]
    exact List.filterMap_congr fun c hc => if_pos (h c hc)
  rw [hvalues, positional_eq_foldl, List.foldl_map]
  rfl

/-- A sign that shows only if it is a minus. -/
def minusMark (negative : Bool) : SignMark :=
  if negative then .minus else .none

/-- An exponent with a small mark and a sign that always shows. -/
def signedExponent (negative : Bool) (ds : List Char) (h : AllDigits ds) (hne : ds ≠ []) :
    ExponentText latinDigit? :=
  ⟨false, if negative then .minus else .plus, latinRow ds h, hne⟩

/-- The decimal text with the given digits, where no digits behind the point leave out the point. -/
def latinText (negative : Bool) (whole fraction : List Char) (hwhole : AllDigits whole)
    (hne : whole ≠ []) (hfraction : AllDigits fraction)
    (exponent : Option (ExponentText latinDigit?)) : DecimalText latinDigit? where
  sign := minusMark negative
  whole := latinRow whole hwhole
  fraction := if fraction = [] then none else some (latinRow fraction hfraction)
  exponent := exponent
  hasDigit := .inl hne

/-- The power of ten that an exponent names, as numerals have it. -/
theorem signedExponent_value (negative : Bool) {ds : List Char} (h : AllDigits ds) (hne : ds ≠ []) :
    (signedExponent negative ds h hne).value =
      if negative then -(Json.Reader.ofDigits ds : Int) else Json.Reader.ofDigits ds := by
  have hpositional : positional 10 (latinRow ds h).values = Json.Reader.ofDigits ds :=
    positional_latin h
  cases negative <;> simp [signedExponent, ExponentText.value, SignMark.negative, hpositional]

section LatinText

variable {negative : Bool} {whole fraction : List Char} {hwhole : AllDigits whole}
  {hne : whole ≠ []} {hfraction : AllDigits fraction} {exponent : Option (ExponentText latinDigit?)}

theorem latinText_text :
    (latinText negative whole fraction hwhole hne hfraction exponent).text =
      (if negative then ['-'] else []) ++ (whole ++
        ((if fraction = [] then [] else '.' :: fraction) ++
          DecimalText.exponentText exponent)) := by
  simp only [latinText, DecimalText.text, minusMark]
  split <;> split <;> rfl

theorem latinText_decimal :
    (latinText negative whole fraction hwhole hne hfraction exponent).decimal =
      ⟨negative, Json.Reader.ofDigits (whole ++ fraction),
        DecimalText.exponentValue exponent - fraction.length⟩ := by
  have hvalues : DecimalText.fractionValues
      (if fraction = [] then none else some (latinRow fraction hfraction)) =
      fraction.filterMap latinDigit? := by
    split
    · rename_i hnil
      rw [hnil]
      rfl
    · rfl
  have hlength : (fraction.filterMap latinDigit?).length = fraction.length :=
    (latinRow fraction hfraction).length_values
  have hsign : (minusMark negative).negative = negative := by
    cases negative <;> rfl
  simp only [latinText, DecimalText.decimal, hvalues, hlength, hsign]
  congr
  rw [← positional_latin (hwhole.append hfraction), List.filterMap_append]
  rfl

end LatinText

/-! ## Texts of a layout -/

/-- No sign or zero of a decimal text can be left out. -/
structure DecimalText.IsTight {digit? : DigitClass} (t : DecimalText digit?) : Prop where
  sign : t.sign ≠ .plus
  whole : t.whole.chars = ['0'] ∨ t.whole.chars ≠ [] ∧ t.whole.chars.head? ≠ some '0'
  fraction : ∀ row ∈ t.fraction, row.chars ≠ [] ∧ row.chars.getLast? ≠ some '0'
  exponent : ∀ e ∈ t.exponent, e.digits.chars.head? ≠ some '0' ∧
    t.whole.chars.length = 1 ∧ t.whole.chars ≠ ['0']

/-- The decimal text that shows digits at a place in a layout. -/
structure Shows (layout : DigitLayout) (negative : Bool) (ds : List Char) (place : Int)
    (t : DecimalText latinDigit?) : Prop where
  text : t.text = (if negative then ['-'] else []) ++ layout.place ds place
  negative_eq : t.decimal.negative = negative
  magnitude : t.decimal.magnitude = Json.Reader.ofDigits ds * 10 ^ (place - ds.length)
  exponent : t.exponent.isSome = true ↔
    ¬ (layout.leastPlace ≤ place ∧ place ≤ layout.greatestPlace)
  tight : layout = .browser → ds.getLast? ≠ some '0' → t.IsTight

/-- The layout ends whole numbers with a point and a zero, or with nothing. -/
def EndsWhole (layout : DigitLayout) (fraction : List Char) : Prop :=
  (fraction = [] ∨ fraction = ['0']) ∧
    layout.wholeEnd.toList = if fraction = [] then [] else '.' :: fraction

section Shows

variable {layout : DigitLayout} {negative : Bool} {ds : List Char} {place : Int}

/-- A text shows digits at a place if it has these digits, further zeros aside, and its exponent
and its point give the place. -/
theorem shows_latinText {whole fraction : List Char} {hwhole : AllDigits whole} {hne : whole ≠ []}
    {hfraction : AllDigits fraction} {exponent : Option (ExponentText latinDigit?)}
    (htext : layout.place ds place = whole ++
      ((if fraction = [] then [] else '.' :: fraction) ++ DecimalText.exponentText exponent))
    (k : Nat)
    (hdigits : Json.Reader.ofDigits (whole ++ fraction) = Json.Reader.ofDigits ds * 10 ^ k)
    (hplace : k + (DecimalText.exponentValue exponent - fraction.length) = place - ds.length)
    (hexponent : exponent.isSome = true ↔
      ¬ (layout.leastPlace ≤ place ∧ place ≤ layout.greatestPlace))
    (htight : layout = .browser → ds.getLast? ≠ some '0' →
      (whole = ['0'] ∨ whole.head? ≠ some '0') ∧ fraction.getLast? ≠ some '0' ∧
      ∀ e ∈ exponent, e.digits.chars.head? ≠ some '0' ∧ whole.length = 1 ∧ whole ≠ ['0']) :
    Shows layout negative ds place
      (latinText negative whole fraction hwhole hne hfraction exponent) where
  text := by rw [latinText_text, htext]
  negative_eq := by rw [latinText_decimal]
  magnitude := by
    have hten : (10 : ℚ) ≠ 0 := by norm_num
    rw [Decimal.magnitude, latinText_decimal]
    dsimp only
    rw [hdigits, ← hplace, zpow_add₀ hten, zpow_natCast, Nat.cast_mul, Nat.cast_pow,
      Nat.cast_ofNat, mul_assoc]
  exponent := hexponent
  tight hbrowser hlast := by
    obtain ⟨hw, hf, he⟩ := htight hbrowser hlast
    refine ⟨?_, hw.imp id fun h => ⟨hne, h⟩, fun row hrow => ?_, he⟩
    · cases negative <;> intro h <;> cases h
    by_cases hnil : fraction = []
    · simp [latinText, hnil] at hrow
    · simp only [latinText, if_neg hnil, Option.mem_some_iff] at hrow
      subst hrow
      exact ⟨hnil, hf⟩

/-- Significant digits are digits, and there are some. -/
theorem head?_of_isSignificant (hd : IsSignificant ds) : ds ≠ [] ∧ ds.head? ≠ some '0' := by
  obtain ⟨d, rest, rfl, h0⟩ := hd.exists_cons
  exact ⟨List.cons_ne_nil _ _, fun h => h0 (Option.some.inj h)⟩

/-- Digits behind a zero, a point and further zeros. -/
theorem exists_shows_small (hd : IsSignificant ds) {k : Nat} (hplace : place = -k)
    (hplain : layout.leastPlace ≤ place ∧ place ≤ layout.greatestPlace)
    (htext : layout.place ds place = '0' :: '.' :: (List.replicate k '0' ++ ds)) :
    ∃ t, Shows layout negative ds place t := by
  obtain ⟨hne, -⟩ := head?_of_isSignificant hd
  have hfraction : List.replicate k '0' ++ ds ≠ [] := by simp [hne]
  have hall : AllDigits (List.replicate k '0' ++ ds) :=
    (Json.Reader.allDigits_zeros k).append hd.allDigits
  refine ⟨latinText negative ['0'] (List.replicate k '0' ++ ds) (Json.Reader.allDigits_zeros 1)
    (by decide) hall none, shows_latinText ?_ 0 ?_ ?_ ?_ ?_⟩
  · rw [htext, if_neg hfraction, DecimalText.exponentText, List.append_nil]
    rfl
  · rw [pow_zero, Nat.mul_one, ← Json.Reader.ofDigits_zeros_append (k + 1) ds]
    rfl
  · rw [hplace, List.length_append, List.length_replicate, DecimalText.exponentValue]
    push_cast
    ring
  · exact iff_of_false Bool.false_ne_true (not_not_intro hplain)
  · intro _ hlast
    refine ⟨.inl rfl, ?_, fun e he => absurd he (Option.not_mem_none e)⟩
    rwa [List.getLast?_append_of_ne_nil _ hne]

/-- Digits and zeros, and what ends whole numbers. -/
theorem exists_shows_whole (hd : IsSignificant ds) {fraction : List Char}
    (hend : EndsWhole layout fraction) {k : Nat} (hplace : place = ds.length + k)
    (hplain : layout.leastPlace ≤ place ∧ place ≤ layout.greatestPlace)
    (htext : layout.place ds place = ds ++ List.replicate k '0' ++ layout.wholeEnd.toList) :
    ∃ t, Shows layout negative ds place t := by
  obtain ⟨hne, hhead⟩ := head?_of_isSignificant hd
  obtain ⟨j, rfl⟩ : ∃ j : Nat, fraction = List.replicate j '0' := by
    rcases hend.1 with rfl | rfl
    · exact ⟨0, rfl⟩
    · exact ⟨1, rfl⟩
  have hall : AllDigits (ds ++ List.replicate k '0') :=
    hd.allDigits.append (Json.Reader.allDigits_zeros k)
  refine ⟨latinText negative (ds ++ List.replicate k '0') (List.replicate j '0') hall
    (by simp [hne]) (Json.Reader.allDigits_zeros j) none, shows_latinText ?_ (k + j) ?_ ?_ ?_ ?_⟩
  · rw [htext, hend.2, DecimalText.exponentText, List.append_nil]
  · rw [List.append_assoc, List.replicate_append_replicate, Json.Reader.ofDigits_append_zeros]
  · rw [hplace, List.length_replicate, DecimalText.exponentValue]
    push_cast
    ring
  · exact iff_of_false Bool.false_ne_true (not_not_intro hplain)
  · rintro rfl -
    have hnil : List.replicate j '0' = [] := by
      rcases hend with ⟨h | h, htail⟩
      · exact h
      · rw [h] at htail
        cases htail
    rw [hnil, List.head?_append_of_ne_nil _ hne]
    exact ⟨.inr hhead, by simp, fun e he => absurd he (Option.not_mem_none e)⟩

/-- Digits around a point. -/
theorem exists_shows_inner (hd : IsSignificant ds) {n : Nat} (h0 : 0 < n) (hn : n < ds.length)
    (hplace : place = n) (hplain : layout.leastPlace ≤ place ∧ place ≤ layout.greatestPlace)
    (htext : layout.place ds place = ds.take n ++ '.' :: ds.drop n) :
    ∃ t, Shows layout negative ds place t := by
  obtain ⟨hne, hhead⟩ := head?_of_isSignificant hd
  have hfraction : ds.drop n ≠ [] := by
    rw [ne_eq, List.drop_eq_nil_iff]
    omega
  have htake : AllDigits (ds.take n) := fun c hc => hd.allDigits c (List.mem_of_mem_take hc)
  have hdrop : AllDigits (ds.drop n) := fun c hc => hd.allDigits c (List.mem_of_mem_drop hc)
  refine ⟨latinText negative (ds.take n) (ds.drop n) htake (by simp [hne, h0.ne']) hdrop none,
    shows_latinText ?_ 0 ?_ ?_ ?_ ?_⟩
  · rw [htext, if_neg hfraction, DecimalText.exponentText, List.append_nil]
  · rw [List.take_append_drop, pow_zero, Nat.mul_one]
  · rw [hplace, List.length_drop, DecimalText.exponentValue]
    omega
  · exact iff_of_false Bool.false_ne_true (not_not_intro hplain)
  · intro _ hlast
    rw [List.head?_take, if_neg h0.ne', List.getLast?_drop, if_neg (by omega)]
    exact ⟨.inr hhead, hlast, fun e he => absurd he (Option.not_mem_none e)⟩

/-- The digits of an exponent are those of its number, with zeros before them. -/
theorem exponentText_spec (layout : DigitLayout) (n : Nat) :
    AllDigits (layout.exponentText n) ∧ layout.exponentText n ≠ [] ∧
      Json.Reader.ofDigits (layout.exponentText n) = n := by
  refine ⟨(Json.Reader.allDigits_zeros _).append (Json.Reader.allDigits_digits _), ?_, ?_⟩
  · simp [DigitLayout.exponentText, (Json.Reader.isWhole_digits _).ne_nil]
  · exact (Json.Reader.ofDigits_zeros_append _ _).trans (Json.Reader.ofDigits_digits _)

/-- A browser writes no zeros before an exponent. -/
theorem head?_exponentText {n : Nat} (h : 0 < n) :
    (DigitLayout.browser.exponentText n).head? ≠ some '0' := by
  have hdigits := head?_of_isSignificant (Json.Reader.isSignificant_digits h)
  have hlength : 0 < (Decimal.digits n).length := List.length_pos_iff.2 hdigits.1
  show (List.replicate (1 - (Decimal.digits n).length) '0' ++ Decimal.digits n).head? ≠ _
  rw [Nat.sub_eq_zero_of_le hlength]
  exact hdigits.2

/-- A digit, the digits after it behind a point, and an exponent. -/
theorem exists_shows_scientific (hd : IsSignificant ds)
    (hplain : ¬ (layout.leastPlace ≤ place ∧ place ≤ layout.greatestPlace)) :
    ∃ t, Shows layout negative ds place t := by
  obtain ⟨d, rest, rfl, h0⟩ := hd.exists_cons
  have hrest : AllDigits rest := fun c hc => hd.allDigits c (List.mem_cons_of_mem _ hc)
  have hfirst : AllDigits [d] :=
    List.forall_mem_singleton.2 (hd.allDigits d List.mem_cons_self)
  obtain ⟨hall, hne, hvalue⟩ := exponentText_spec layout (place - 1).natAbs
  refine ⟨latinText negative [d] rest hfirst (by simp) hrest
    (some (signedExponent (decide (place - 1 < 0)) _ hall hne)),
    shows_latinText ?_ 0 ?_ ?_ ?_ ?_⟩
  · unfold DigitLayout.place
    rw [if_neg hplain]
    cases rest <;> by_cases hneg : place - 1 < 0 <;>
      simp [DecimalText.exponentText, ExponentText.text, signedExponent, latinRow, hneg,
        SignMark.text]
  · rw [pow_zero, Nat.mul_one]
    rfl
  · rw [DecimalText.exponentValue, signedExponent_value, hvalue, List.length_cons]
    by_cases hneg : place - 1 < 0
    · rw [if_pos (decide_eq_true hneg), Int.ofNat_natAbs_of_nonpos hneg.le]
      push_cast
      ring
    · rw [if_neg (by simpa using hneg), Int.natAbs_of_nonneg (not_lt.1 hneg)]
      push_cast
      ring
  · exact ⟨fun _ => hplain, fun _ => rfl⟩
  · rintro rfl hlast
    have hfirst : ['0'] ≠ [d] ∧ [d].head? ≠ some '0' := by simpa [eq_comm] using h0
    refine ⟨.inr hfirst.2, ?_, ?_⟩
    · cases rest with
      | nil => simp
      | cons d' rest => rwa [List.getLast?_cons_cons] at hlast
    · rintro e he
      obtain rfl := Option.some.inj he
      refine ⟨?_, rfl, hfirst.1.symm⟩
      have hpos : 0 < (place - 1).natAbs := by
        rw [Int.natAbs_pos, sub_ne_zero]
        rintro rfl
        exact hplain (by decide)
      exact head?_exponentText hpos

/-- **Digits laid out at a place are a decimal text** that shows these digits at this place. -/
theorem exists_shows (negative : Bool) (hd : IsSignificant ds) {fraction : List Char}
    (hend : EndsWhole layout fraction) (place : Int) :
    ∃ t, Shows layout negative ds place t := by
  by_cases hplain : layout.leastPlace ≤ place ∧ place ≤ layout.greatestPlace
  · cases place with
    | negSucc n =>
      refine exists_shows_small hd (k := n + 1) (Int.negSucc_eq n) hplain ?_
      unfold DigitLayout.place
      exact if_pos hplain
    | ofNat n =>
      rcases Nat.eq_zero_or_pos n with rfl | h0
      · refine exists_shows_small hd (k := 0) rfl hplain ?_
        unfold DigitLayout.place
        exact if_pos hplain
      · by_cases hlarge : ds.length ≤ n
        · refine exists_shows_whole hd hend (k := n - ds.length) ?_ hplain ?_
          · rw [Int.ofNat_eq_natCast]
            omega
          · unfold DigitLayout.place
            rw [if_pos hplain]
            simp only [h0.ne', if_false, hlarge, if_true]
        · refine exists_shows_inner hd h0 (not_le.1 hlarge) rfl hplain ?_
          unfold DigitLayout.place
          rw [if_pos hplain]
          simp only [h0.ne', if_false, hlarge]
  · exact exists_shows_scientific hd hplain

end Shows

/-! ## Texts of doubles -/

/-- The last digit without the zeros at the end is none. -/
theorem getLast?_dropTrailingZeros (ds : List Char) :
    (DigitLayout.dropTrailingZeros ds).getLast? ≠ some '0' := by
  rw [DigitLayout.dropTrailingZeros, List.getLast?_reverse]
  intro h
  have hhead := List.head?_dropWhile_not (· == '0') ds.reverse
  rw [h] at hhead
  cases hhead

/-- A positive number, laid out, is a decimal text that denotes the number. Its exponent depends on
the size of the number alone. -/
theorem exists_positive_text {layout : DigitLayout} {fraction : List Char}
    (hend : EndsWhole layout fraction) (negative : Bool) {c : Nat} (hc : 0 < c) (t : Int) :
    ∃ text : DecimalText latinDigit?,
      text.text = (if negative then ['-'] else []) ++ layout.positive c t ∧
      text.decimal.negative = negative ∧ text.decimal.magnitude = c * 10 ^ t ∧
      (text.exponent.isSome = true ↔ (c : ℚ) * 10 ^ t < 10 ^ (layout.leastPlace - 1) ∨
        10 ^ layout.greatestPlace ≤ (c : ℚ) * 10 ^ t) ∧
      (layout = .browser → text.IsTight) := by
  have hsignificant :=
    Json.Reader.isSignificant_dropTrailingZeros (Json.Reader.isSignificant_digits hc)
  obtain ⟨text, htext, hnegative, hmagnitude, hexponent, htight⟩ :=
    exists_shows negative hsignificant hend ((Decimal.digits c).length + t)
  refine ⟨text, htext, hnegative, ?_, ?_, fun hbrowser =>
    htight hbrowser (getLast?_dropTrailingZeros _)⟩
  · obtain ⟨k, hk⟩ := Json.Reader.dropTrailingZeros_append (Decimal.digits c)
    have hcoefficient : c =
        Json.Reader.ofDigits (DigitLayout.dropTrailingZeros (Decimal.digits c)) * 10 ^ k := by
      rw [← Json.Reader.ofDigits_append_zeros, ← hk, Json.Reader.ofDigits_digits]
    have hplace : ((Decimal.digits c).length : Int) + t -
        (DigitLayout.dropTrailingZeros (Decimal.digits c)).length = k + t := by
      have hlen := congrArg List.length hk
      rw [List.length_append, List.length_replicate] at hlen
      omega
    rw [hmagnitude, hplace, zpow_add₀ (by norm_num), zpow_natCast, ← mul_assoc]
    congr 1
    exact_mod_cast hcoefficient.symm
  · have hplace := Decimal.magnitude_lt_pow_iff (d := ⟨negative, c, t⟩) hc
    dsimp only [Decimal.magnitude] at hplace
    rw [hexponent, ← not_lt (b := (10 : ℚ) ^ _), hplace, hplace]
    omega

/-- Browsers and literals end whole numbers in their own ways. -/
theorem endsWhole_browser : EndsWhole .browser [] :=
  ⟨.inl rfl, rfl⟩

theorem endsWhole_literal : EndsWhole .literal ['0'] :=
  ⟨.inr rfl, rfl⟩

/-- **The text of a double denotes its shortest decimal**, in either layout. -/
theorem exists_number_text {layout : DigitLayout} {fraction : List Char}
    (hend : EndsWhole layout fraction) {x : Float} {s : Bool} {u : Nat}
    (hview : Double.view x = .finite s u) (h0 : u ≠ 0) :
    ∃ text : DecimalText latinDigit?,
      text.text = (layout.number x).toList ∧ text.decimal.negative = s ∧
      text.decimal.magnitude = (Decimal.ofShortest s u).magnitude ∧
      (text.exponent.isSome = true ↔
        (Decimal.ofShortest s u).magnitude < 10 ^ (layout.leastPlace - 1) ∨
          10 ^ layout.greatestPlace ≤ (Decimal.ofShortest s u).magnitude) ∧
      (layout = .browser → text.IsTight) := by
  obtain ⟨hu, -⟩ := Double.of_view_finite hview
  obtain ⟨hc, -⟩ := Decimal.toDouble_shortest s (Nat.pos_of_ne_zero h0) hu
  obtain ⟨text, htext, hrest⟩ := exists_positive_text hend s hc (Decimal.shortest u).2
  refine ⟨text, ?_, hrest⟩
  rw [htext, DigitLayout.number]
  simp only [hview, if_neg h0, String.toList_append, String.toList_ofList]
  cases s <;> rfl

/-! ## When an exponent shows -/

/-- An exponent shows by its mark. -/
theorem isSome_exponent_iff (t : DecimalText latinDigit?) :
    t.exponent.isSome = true ↔ 'e' ∈ t.text ∨ 'E' ∈ t.text := by
  constructor
  · intro h
    obtain ⟨e, he⟩ := Option.isSome_iff_exists.1 h
    have hmem : (if e.capital then 'E' else 'e') ∈ t.text := by
      simp [DecimalText.text, he, DecimalText.exponentText, ExponentText.text]
    cases hcapital : e.capital <;> rw [hcapital] at hmem
    · exact .inl hmem
    · exact .inr hmem
  · have hexponent {c : Char} (hc : c ∈ t.text) (hmark : c ∈ ['e', 'E']) :
        t.exponent.isSome = true := by
      rcases t.mem_text_cases hc with hdigit | hother | ⟨h, -⟩
      · have hnone : ['e', 'E'].map latinDigit? = List.replicate 2 none := by decide
        rw [List.map_eq_replicate_iff.1 hnone c hmark] at hdigit
        cases hdigit
      · exact absurd hother (by fin_cases hmark <;> decide)
      · exact h
    rintro (h | h)
    · exact hexponent h (by decide)
    · exact hexponent h (by decide)

/-- The double nearest to a millionth; its exact value is a little less. -/
def millionth : Float :=
  Double.nearest false 1 (10 ^ 6)

theorem view_millionth : Double.view millionth = .finite false (Double.units millionth) ∧
    0 < Double.units millionth ∧ Decimal.shortest (Double.units millionth) = (10, -7) ∧
    Double.units millionth * 10 ^ 6 < 1 * Double.unitsPerOne ∧
    formatNumber (.float millionth) = .ok "0.000001" := by
  decide +kernel

/-- `10 ^ 21` is a double. -/
theorem view_greatest : Double.view (Double.nearest false (10 ^ 21) 1) =
      .finite false (10 ^ 21 * Double.unitsPerOne) ∧
    Decimal.shortest (10 ^ 21 * Double.unitsPerOne) = (1, 21) := by
  decide +kernel

section Thresholds

variable (s : Bool) {u : Nat} (h0 : 0 < u) (hu : Double.IsMagnitude u)
include h0 hu

/-- The shortest decimals below a millionth are those of the doubles below the nearest one. -/
theorem ofShortest_lt_millionth_iff : (Decimal.ofShortest s u).magnitude < 10 ^ (-6 : ℤ) ↔
    (u : ℚ) / (Double.unitsPerOne : Nat) < Double.magnitude millionth := by
  obtain ⟨hview, hpos, hshortest, -⟩ := view_millionth
  have hmagnitude : (Decimal.ofShortest false (Double.units millionth)).magnitude =
      10 ^ (-6 : ℤ) := by
    rw [Decimal.magnitude, Decimal.ofShortest, hshortest]
    norm_num
  rw [← hmagnitude,
    Decimal.magnitude_ofShortest_lt_iff s false h0 hu hpos (Double.of_view_finite hview).1,
    Double.magnitude, div_lt_div_iff_of_pos_right (Nat.cast_pos.2 Decimal.unitsPerOne_pos),
    Nat.cast_lt]

/-- The shortest decimals from `10 ^ 21` on are those of the doubles from there on. -/
theorem greatest_le_ofShortest_iff : 10 ^ (21 : ℤ) ≤ (Decimal.ofShortest s u).magnitude ↔
    10 ^ (21 : ℤ) ≤ (u : ℚ) / (Double.unitsPerOne : Nat) := by
  obtain ⟨hview, hshortest⟩ := view_greatest
  have hunits : 0 < Double.unitsPerOne := Decimal.unitsPerOne_pos
  have hmagnitude : (Decimal.ofShortest false (10 ^ 21 * Double.unitsPerOne)).magnitude =
      10 ^ (21 : ℤ) := by
    rw [Decimal.magnitude, Decimal.ofShortest, hshortest, Nat.cast_one, one_mul]
  have hpos : 0 < 10 ^ 21 * Double.unitsPerOne := Nat.mul_pos (by omega) hunits
  have hlt := Decimal.magnitude_ofShortest_lt_iff s false h0 hu hpos (Double.of_view_finite hview).1
  rw [hmagnitude] at hlt
  have hpower : (10 : ℚ) ^ (21 : ℤ) = (10 ^ 21 : Nat) := by norm_num
  rw [← not_lt, hlt, not_lt, le_div_iff₀ (Nat.cast_pos.2 hunits), hpower, ← Nat.cast_mul,
    Nat.cast_le]

end Thresholds

/-! ## Numbers and their texts -/

/-- Decimal texts have no blanks. -/
theorem isBlank_of_mem_text (t : DecimalText latinDigit?) {c : Char} (h : c ∈ t.text) :
    isBlank c = false := by
  rcases t.mem_text h with hdigit | hmark
  · obtain ⟨hle, hge⟩ := Bool.and_eq_true_iff.1 (isSome_latinDigit?.1 hdigit)
    have hle : 48 ≤ c.toNat := of_decide_eq_true hle
    have hge : c.toNat ≤ 57 := of_decide_eq_true hge
    have hcodes : ∀ n ∈ blankCodes, n < 48 ∨ 57 < n := by decide
    rw [isBlank, List.contains_eq_mem, decide_eq_false_iff_not]
    intro hmem
    have := hcodes _ hmem
    omega
  · fin_cases hmark <;> decide

/-- A text without blanks stays as it is. -/
theorem trimBlanks_eq_self {cs : List Char} (h : ∀ c ∈ cs, isBlank c = false) :
    trimBlanks cs = cs := by
  have hdrop {ds : List Char} (h : ∀ c ∈ ds, isBlank c = false) : ds.dropWhile isBlank = ds := by
    cases ds with
    | nil => rfl
    | cons c rest => simp [h c List.mem_cons_self]
  rw [trimBlanks, hdrop h, hdrop fun c hc => h c (List.mem_reverse.1 hc), List.reverse_reverse]

/-- A decimal text is read as the double nearest to what it denotes. -/
theorem toNumber_text {s : String} {t : DecimalText latinDigit?} (h : t.text = s.toList) :
    toNumber (.str s) = .ok (Double.nearestTo t.decimal.negative t.decimal.magnitude) := by
  obtain ⟨t', htext, hdecimal⟩ := t.exists_wide
  have htrim : trimBlanks s.toList = t'.text := by
    rw [← h, trimBlanks_eq_self fun c => isBlank_of_mem_text t, htext]
  rw [toNumber, textToNumber_text htrim, hdecimal]

/-- The digits of an integer are a decimal text that denotes it. -/
theorem exists_intText (i : Int) : ∃ t : DecimalText latinDigit?,
    t.text = (Decimal.intText i).toList ∧ t.decimal = ⟨decide (i < 0), i.natAbs, 0⟩ ∧
      t.exponent = none := by
  have hall : AllDigits (Decimal.digits i.natAbs) := Json.Reader.allDigits_digits _
  have hne : Decimal.digits i.natAbs ≠ [] := (Json.Reader.isWhole_digits _).ne_nil
  have hnil : AllDigits [] := List.forall_mem_nil _
  refine ⟨latinText (decide (i < 0)) (Decimal.digits i.natAbs) [] hall hne hnil none, ?_, ?_, rfl⟩
  · rw [latinText_text, Decimal.intText, String.toList_ofList]
    by_cases hneg : i < 0 <;> simp [hneg, DecimalText.exponentText]
  · rw [latinText_decimal, List.append_nil, Json.Reader.ofDigits_digits]
    rfl

/-- The double of the integer zero. -/
theorem ofIntOrInfinite_zero : Double.ofIntOrInfinite 0 = 0 := by
  rw [Double.ofIntOrInfinite, Double.nearest, Int.natAbs_zero, Decimal.nearestBits_zero]
  rfl

/-- The integer zero is in range. -/
theorem ofInt_zero : Double.ofInt 0 = .ok 0 := by
  rw [Double.ofInt, ofIntOrInfinite_zero]
  exact if_pos (Double.nearestBits_lt (Nat.zero_le _))

/-- The text of an integer in range is read as its double. -/
theorem toNumber_intText {i : Int} {y : Float} (h : Double.ofInt i = .ok y) :
    toNumber (.str (Decimal.intText i)) = .ok (if y == 0 then 0 else y) := by
  obtain ⟨t, htext, hdecimal, -⟩ := exists_intText i
  have hmagnitude : t.decimal.magnitude = i.natAbs := by
    rw [Decimal.magnitude, hdecimal, zpow_zero, mul_one]
  rw [toNumber_text htext, hmagnitude, Double.nearestTo_natCast, hdecimal, eq_of_ofInt h]
  by_cases h0 : i = 0
  · subst h0
    change Except.ok (Double.ofIntOrInfinite 0) = _
    rw [ofIntOrInfinite_zero, ite_self]
  · rw [Double.ofIntOrInfinite_ne_zero h0]
    rfl

/-- The text of a double is read as the double, zeros as the positive one. -/
theorem toNumber_number (x : Float) :
    toNumber (.str (DigitLayout.browser.number x)) = .ok (if x == 0 then 0 else x) := by
  rcases hview : Double.view x with _ | s | ⟨s, u⟩
  · have hnan := Double.isNaN_of_view hview
    rw [Double.not_beq_of_isNaN hnan, Double.eq_nan_of_isNaN hnan]
    rfl
  · obtain rfl := Double.of_view_infinite hview
    cases s <;> rfl
  · by_cases h0 : u = 0
    · subst h0
      have htext : DigitLayout.browser.number x = "0" := by
        rw [DigitLayout.number, hview]
        cases s <;> rfl
      have hdigits : Decimal.intText 0 = "0" := rfl
      have hread := toNumber_intText ofInt_zero
      rw [ite_self, hdigits] at hread
      rw [Double.beq_zero_of_view hview, htext, if_pos rfl, hread]
    · obtain ⟨text, htext, hnegative, hmagnitude, -⟩ :=
        exists_number_text endsWhole_browser hview h0
      obtain ⟨hu, hx⟩ := Double.of_view_finite hview
      have hne : (x == 0) = false := by
        rw [Bool.eq_false_iff]
        intro hzero
        obtain ⟨t, ht⟩ := Double.view_of_beq_zero hzero
        rw [hview] at ht
        exact h0 (Double.View.finite.inj ht).2
      rw [toNumber_text htext, hnegative, hmagnitude, Double.nearestTo,
        Decimal.bitsNearestTo_ofShortest s (Nat.pos_of_ne_zero h0) hu, ← hx, hne]
      rfl

/-- **Writing a number loses nothing.** The text of a number is read as its double again, zeros as
the positive one. The text of a finite double other than zero is a decimal text that denotes the
same number as its literal and has no zero that could be left out. An exponent shows exactly for
the doubles below the one nearest to a millionth and from `10 ^ 21` on; equivalently, for what the
literal denotes, below a millionth and from `10 ^ 21` on. -/
theorem numbers_written {v : Value} {y : Float} (hnumber : isNumber v = true)
    (hy : toNumber v = .ok y) :
    toNumber (.str (toText v)) = .ok (if y == 0 then 0 else y) ∧
    ∀ s u, Double.view y = .finite s u → u ≠ 0 →
      ∃ text literal : DecimalText latinDigit?,
        formatNumber (.float y) = .ok (String.ofList text.text) ∧
        literal.text = (DigitLayout.literal.number y).toList ∧
        text.decimal.value = literal.decimal.value ∧ text.IsTight ∧
        (text.exponent.isSome = true ↔
          Double.magnitude y < Double.magnitude millionth ∨ 10 ^ (21 : ℤ) ≤ Double.magnitude y) ∧
        (text.exponent.isSome = true ↔ |literal.decimal.value| < 10 ^ (-6 : ℤ) ∨
          10 ^ (21 : ℤ) ≤ |literal.decimal.value|) := by
  constructor
  · cases v with
    | int i => exact toNumber_intText hy
    | float x =>
      cases hy
      exact toNumber_number _
    | nan mark =>
      cases hy
      exact toNumber_number Double.nan
    | _ => cases hnumber
  · intro s u hview h0
    have hpos : 0 < u := Nat.pos_of_ne_zero h0
    have hu := (Double.of_view_finite hview).1
    obtain ⟨text, htext, hnegative, hmagnitude, hexponent, htight⟩ :=
      exists_number_text endsWhole_browser hview h0
    obtain ⟨literal, hliteral, hnegative', hmagnitude', -⟩ :=
      exists_number_text endsWhole_literal hview h0
    have hleast : DigitLayout.browser.leastPlace - 1 = -6 := rfl
    have hgreatest : DigitLayout.browser.greatestPlace = 21 := rfl
    rw [hleast, hgreatest] at hexponent
    refine ⟨text, literal, ?_, hliteral, ?_, htight rfl, ?_, ?_⟩
    · rw [htext, String.ofList_toList]
      rfl
    · rw [Decimal.value, Decimal.value, hnegative, hnegative', hmagnitude, hmagnitude']
    · rw [hexponent, ofShortest_lt_millionth_iff s hpos hu, greatest_le_ofShortest_iff s hpos hu,
        Double.magnitude_of_view hview]
    · rw [hexponent, Decimal.abs_value, hmagnitude']

/-- A tenth is written and read. -/
theorem tenth_written : isNumber (.float 0.1) = true ∧ toNumber (.float 0.1) = .ok 0.1 ∧
    toNumber (.str (toText (.float 0.1))) = .ok (if (0.1 : Float) == 0 then 0 else 0.1) :=
  ⟨rfl, rfl, (numbers_written (v := .float 0.1) (y := 0.1) rfl rfl).1⟩

/-- The double nearest to a millionth is less than a millionth, and no exponent shows. -/
theorem millionth_plain : ¬ ∀ (y : Float) (s : Bool) (u : Nat), Double.view y = .finite s u →
    u ≠ 0 → ∃ text : DecimalText latinDigit?,
      formatNumber (.float y) = .ok (String.ofList text.text) ∧
      (text.exponent.isSome = true ↔
        Double.magnitude y < 10 ^ (-6 : ℤ) ∨ 10 ^ (21 : ℤ) ≤ Double.magnitude y) := by
  intro h
  obtain ⟨hview, hpos, -, hunits, hplain⟩ := view_millionth
  obtain ⟨text, htext, hexponent⟩ := h _ _ _ hview hpos.ne'
  have hchars : text.text = "0.000001".toList := by
    rw [hplain] at htext
    rw [Except.ok.inj htext, String.toList_ofList]
  have hless : Double.magnitude millionth < 10 ^ (-6 : ℤ) := by
    have hpower : (10 : ℚ) ^ (-6 : ℤ) = (1 : Nat) / (10 ^ 6 : Nat) := by norm_num
    rw [Double.magnitude, hpower, div_lt_div_iff₀ (Nat.cast_pos.2 Decimal.unitsPerOne_pos)
      (by positivity), ← Nat.cast_mul, ← Nat.cast_mul, Nat.cast_lt]
    exact hunits
  have hmark := (isSome_exponent_iff text).1 (hexponent.2 (.inl hless))
  rw [hchars] at hmark
  revert hmark
  decide

end DesignGraph.Coercion
