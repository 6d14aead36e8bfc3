import DesignGraph.Coercion
import DesignGraph.Proofs.Number.Order
/-!
# The texts of decimals

The grammar of decimal texts, taken apart into its pieces: an optional sign, digits with an optional
point after, among or before them, and an optional exponent. Which characters count as digits is a
parameter, so that the digits of all scripts can be told from those of basic Latin.

## Main definitions

* `DesignGraph.Coercion.DecimalText` — a decimal text by its pieces.
* `DesignGraph.Coercion.DecimalText.text`, `DesignGraph.Coercion.DecimalText.decimal` — how it is
  written, and the decimal that it denotes.

## Main results

* `DesignGraph.Coercion.decimal?_eq_some_iff` — the reader of decimals takes the texts of the
  grammar and no others, and gives what they denote.
-/

set_option relaxedAutoImplicit false
set_option autoImplicit false

namespace DesignGraph.Coercion

/-! ## Digits -/

/-- The digits of a class with their values; a character of another class has none. -/
abbrev DigitClass := Char → Option Nat

/-- The decimal digits of basic Latin. -/
def latinDigit? : DigitClass := fun c =>
  if c.isDigit then some (c.toNat - '0'.toNat) else none

/-- The number that a row of digits stands for, the first digit having the greatest weight. -/
def positional (base : Nat) (values : List Nat) : Nat :=
  Nat.ofDigits base values.reverse

/-- The digits are taken up from left to right. -/
theorem positional_eq_foldl (base : Nat) (values : List Nat) :
    positional base values = values.foldl (fun n d => n * base + d) 0 := by
  rw [positional, Nat.ofDigits_eq_foldr, List.foldr_reverse]
  congr 1
  funext n d
  rw [Nat.cast_id, Nat.mul_comm, Nat.add_comm]

/-- Digits as decimals collect them. -/
theorem ofDigits_eq_positional (values : List Nat) : ofDigits values = positional 10 values :=
  (positional_eq_foldl 10 values).symm

/-- A row of digits of one class. -/
structure DigitRow (digit? : DigitClass) where
  chars : List Char
  isDigit : ∀ c ∈ chars, (digit? c).isSome = true

/-- The text goes on with no digit of the class, or ends. -/
def EndsDigits (digit? : DigitClass) (cs : List Char) : Prop :=
  ∀ c ∈ cs.head?, (digit? c).isSome = false

namespace DigitRow

variable {digit? : DigitClass}

/-- The values of the digits. -/
def values (row : DigitRow digit?) : List Nat :=
  row.chars.filterMap digit?

/-- Every digit has a value. -/
theorem length_values (row : DigitRow digit?) : row.values.length = row.chars.length := by
  obtain ⟨chars, hchars⟩ := row
  show (chars.filterMap digit?).length = chars.length
  induction chars with
  | nil => rfl
  | cons c rest ih =>
    obtain ⟨hc, hrest⟩ := List.forall_mem_cons.1 hchars
    obtain ⟨d, hd⟩ := Option.isSome_iff_exists.1 hc
    rw [List.filterMap_cons_some hd, List.length_cons, List.length_cons, ih hrest]

theorem values_eq_nil (row : DigitRow digit?) : row.values = [] ↔ row.chars = [] := by
  rw [← List.length_eq_zero_iff, length_values, List.length_eq_zero_iff]

end DigitRow

/-! ## The pieces -/

/-- An optional sign. -/
inductive SignMark where
  | none
  | plus
  | minus

namespace SignMark

/-- How a sign is written. -/
def text : SignMark → List Char
  | none => []
  | plus => ['+']
  | minus => ['-']

/-- Whether a sign negates. -/
def negative : SignMark → Bool
  | minus => true
  | _ => false

end SignMark

/-- An exponent: its mark in either case, an optional sign, and digits. -/
structure ExponentText (digit? : DigitClass) where
  capital : Bool
  sign : SignMark
  digits : DigitRow digit?
  hasDigit : digits.chars ≠ []

namespace ExponentText

variable {digit? : DigitClass}

/-- How an exponent is written. -/
def text (e : ExponentText digit?) : List Char :=
  (if e.capital then 'E' else 'e') :: (e.sign.text ++ e.digits.chars)

/-- The power of ten. -/
def value (e : ExponentText digit?) : Int :=
  if e.sign.negative then -(positional 10 e.digits.values : Int) else positional 10 e.digits.values

end ExponentText

/-- A decimal text by its pieces: an optional sign, digits, a point with the digits behind it, an
exponent. At least one digit stands before or behind the point. -/
structure DecimalText (digit? : DigitClass) where
  sign : SignMark
  whole : DigitRow digit?
  fraction : Option (DigitRow digit?)
  exponent : Option (ExponentText digit?)
  hasDigit : whole.chars ≠ [] ∨ ∃ row ∈ fraction, row.chars ≠ []

namespace DecimalText

variable {digit? : DigitClass}

/-- The point and the digits behind it. -/
def fractionText : Option (DigitRow digit?) → List Char
  | none => []
  | some row => '.' :: row.chars

/-- The values of the digits behind the point. -/
def fractionValues : Option (DigitRow digit?) → List Nat
  | none => []
  | some row => row.values

/-- How the exponent is written. -/
def exponentText : Option (ExponentText digit?) → List Char
  | none => []
  | some e => e.text

/-- The power of ten that the exponent names. -/
def exponentValue : Option (ExponentText digit?) → Int
  | none => 0
  | some e => e.value

/-- How a decimal text is written. -/
def text (t : DecimalText digit?) : List Char :=
  t.sign.text ++ (t.whole.chars ++ (fractionText t.fraction ++ exponentText t.exponent))

/-- The decimal that a decimal text denotes. -/
def decimal (t : DecimalText digit?) : Decimal where
  negative := t.sign.negative
  coefficient := positional 10 (t.whole.values ++ fractionValues t.fraction)
  exponent := exponentValue t.exponent - (fractionValues t.fraction).length

end DecimalText

/-! ## Reading the pieces -/

/-- The marks of a decimal text are no digits. -/
theorem digitValue?_of_mark : ∀ c ∈ ['+', '-', '.', 'e', 'E'], digitValue? c = none := by
  have h : ['+', '-', '.', 'e', 'E'].map digitValue? = List.replicate 5 none := by decide
  exact List.map_eq_replicate_iff.1 h

/-- A sign is taken off a text that goes on without one. -/
theorem splitSign_text (s : SignMark) {rest : List Char}
    (h : '+' ∉ rest.head? ∧ '-' ∉ rest.head?) :
    splitSign (s.text ++ rest) = (s.negative, rest) := by
  cases s with
  | plus => rfl
  | minus => rfl
  | none =>
    show splitSign rest = (false, rest)
    unfold splitSign
    split
    · exact absurd rfl h.1
    · exact absurd rfl h.2
    · rfl

/-- What was taken off a text is a sign. -/
theorem exists_signMark (cs : List Char) :
    ∃ s : SignMark, cs = s.text ++ (splitSign cs).2 ∧ s.negative = (splitSign cs).1 := by
  unfold splitSign
  split
  · exact ⟨.plus, rfl, rfl⟩
  · exact ⟨.minus, rfl, rfl⟩
  · exact ⟨.none, rfl, rfl⟩

/-- A row of digits is taken off a text that goes on without one. -/
theorem splitDigits_chars (row : DigitRow digitValue?) {rest : List Char}
    (h : EndsDigits digitValue? rest) : splitDigits (row.chars ++ rest) = (row.values, rest) := by
  have hnone : rest.takeWhile isDecimalDigit = [] ∧ rest.dropWhile isDecimalDigit = rest := by
    cases rest with
    | nil => exact ⟨rfl, rfl⟩
    | cons c rest =>
      have hc : isDecimalDigit c = false := h c rfl
      simp [hc]
  have hrow : ∀ c ∈ row.chars, isDecimalDigit c = true := row.isDigit
  rw [splitDigits, List.takeWhile_append_of_pos hrow, List.dropWhile_append_of_pos hrow, hnone.1,
    hnone.2, List.append_nil, DigitRow.values]

/-- What was taken off a text is a row of digits. -/
theorem exists_digitRow (cs : List Char) : ∃ row : DigitRow digitValue?,
    cs = row.chars ++ (splitDigits cs).2 ∧ row.values = (splitDigits cs).1 :=
  ⟨⟨cs.takeWhile isDecimalDigit, fun _ h => List.mem_takeWhile_imp (p := isDecimalDigit) h⟩,
    List.takeWhile_append_dropWhile.symm, rfl⟩

/-- An exponent that ends a text is read as the power that it names. -/
theorem exponent?_exponentText (e : Option (ExponentText digitValue?)) :
    exponent? (DecimalText.exponentText e) = some (DecimalText.exponentValue e) := by
  cases e with
  | none => rfl
  | some e =>
    obtain ⟨capital, sign, digits, hdigits⟩ := e
    have hmark : (if capital then 'E' else 'e') = 'e' ∨ (if capital then 'E' else 'e') = 'E' := by
      cases capital
      · exact .inl rfl
      · exact .inr rfl
    have hhead : '+' ∉ digits.chars.head? ∧ '-' ∉ digits.chars.head? := by
      constructor <;> intro hmem <;>
        exact absurd (digits.isDigit _ (List.mem_of_mem_head? hmem))
          (by rw [digitValue?_of_mark _ (by decide)]; decide)
    have hrow : splitDigits digits.chars = (digits.values, []) := by
      have hsplit : splitDigits (digits.chars ++ []) = (digits.values, []) :=
        splitDigits_chars digits nofun
      rwa [List.append_nil] at hsplit
    have hne : digits.values ≠ [] := fun h => hdigits (digits.values_eq_nil.1 h)
    simp only [DecimalText.exponentText, ExponentText.text, exponent?, if_pos hmark,
      splitSign_text sign hhead, hrow]
    cases hvalues : digits.values with
    | nil => exact absurd hvalues hne
    | cons d ds =>
      simp only [DecimalText.exponentValue, ExponentText.value, hvalues, ofDigits_eq_positional]

/-- Only exponents are read as powers. -/
theorem exists_exponentText {cs : List Char} {k : Int} (h : exponent? cs = some k) :
    ∃ e : Option (ExponentText digitValue?),
      cs = DecimalText.exponentText e ∧ DecimalText.exponentValue e = k := by
  cases cs with
  | nil =>
    cases h
    exact ⟨none, rfl, rfl⟩
  | cons c rest =>
    rw [exponent?] at h
    split at h
    · rename_i hmark
      obtain ⟨sign, hrest, hnegative⟩ := exists_signMark rest
      obtain ⟨row, hdigits, hvalues⟩ := exists_digitRow (splitSign rest).2
      dsimp only at h
      split at h
      · cases h
      · rename_i ds hds hsplit
        rw [hsplit] at hdigits hvalues
        rw [List.append_nil] at hdigits
        have hne : row.chars ≠ [] := fun hnil =>
          hds (hvalues.symm.trans (row.values_eq_nil.2 hnil))
        refine ⟨some ⟨decide (c = 'E'), sign, row, hne⟩, ?_, ?_⟩
        · show c :: rest =
            (if decide (c = 'E') = true then 'E' else 'e') :: (sign.text ++ row.chars)
          rw [← hdigits, ← hrest]
          rcases hmark with rfl | rfl <;> rfl
        · rw [← Option.some.inj h, ofDigits_eq_positional]
          show (if sign.negative = true then _ else _) = _
          rw [hnegative, hvalues]
      · cases h
    · cases h

/-! ## Reading a decimal text -/

/-- The values of the digits behind a point, if there is one, and what follows. -/
def splitFraction (cs : List Char) : List Nat × List Char :=
  match cs with
  | '.' :: rest => splitDigits rest
  | _ => ([], cs)

/-- A decimal is read piece by piece. -/
theorem decimal?_eq (cs : List Char) :
    decimal? cs =
      let whole := splitDigits (splitSign cs).2
      let fraction := splitFraction whole.2
      if whole.1.isEmpty && fraction.1.isEmpty then none
      else (exponent? fraction.2).map fun e =>
        ⟨(splitSign cs).1, ofDigits (whole.1 ++ fraction.1), e - fraction.1.length⟩ :=
  rfl

/-- The digits behind the point are taken off before the exponent. -/
theorem splitFraction_text (fraction : Option (DigitRow digitValue?))
    {e : Option (ExponentText digitValue?)}
    (hends : EndsDigits digitValue? (DecimalText.exponentText e)) :
    splitFraction (DecimalText.fractionText fraction ++ DecimalText.exponentText e) =
      (DecimalText.fractionValues fraction, DecimalText.exponentText e) := by
  cases fraction with
  | some row => exact splitDigits_chars row hends
  | none =>
    cases e with
    | none => rfl
    | some e =>
      obtain ⟨capital, sign, digits, hdigits⟩ := e
      cases capital <;> rfl

/-- What was taken off a text is a point and digits, or nothing. -/
theorem exists_fraction (cs : List Char) : ∃ fraction : Option (DigitRow digitValue?),
    cs = DecimalText.fractionText fraction ++ (splitFraction cs).2 ∧
      DecimalText.fractionValues fraction = (splitFraction cs).1 := by
  unfold splitFraction
  split
  · rename_i rest
    obtain ⟨row, hrow, hvalues⟩ := exists_digitRow rest
    exact ⟨some row, congrArg ('.' :: ·) hrow, hvalues⟩
  · exact ⟨none, rfl, rfl⟩

/-- The digits and the point of a decimal text do not start with a sign. -/
theorem DecimalText.head?_digits (t : DecimalText digitValue?) {c : Char} (hc : c ∈ ['+', '-']) :
    c ∉ (t.whole.chars ++ (fractionText t.fraction ++ exponentText t.exponent)).head? := by
  have hnone : digitValue? c = none :=
    digitValue?_of_mark c (List.mem_append_left ['.', 'e', 'E'] hc)
  intro hmem
  cases hwhole : t.whole.chars with
  | cons d ds =>
    rw [hwhole, List.cons_append, List.head?_cons, Option.mem_some_iff] at hmem
    have hdigit := t.whole.isDigit d (hwhole ▸ List.mem_cons_self)
    rw [hmem, hnone] at hdigit
    cases hdigit
  | nil =>
    obtain ⟨row, hrow, -⟩ := t.hasDigit.resolve_left (fun h => h hwhole)
    rw [hwhole, List.nil_append, Option.mem_def.1 hrow, fractionText, List.cons_append,
      List.head?_cons, Option.mem_some_iff] at hmem
    subst hmem
    revert hc
    decide

/-- What follows the digits of a decimal text is no digit. -/
theorem endsDigits_exponentText (e : Option (ExponentText digitValue?)) :
    EndsDigits digitValue? (DecimalText.exponentText e) := by
  intro c hc
  cases e with
  | none => cases hc
  | some e =>
    have hmark : (if e.capital then 'E' else 'e') = c := Option.mem_some_iff.1 hc
    rw [← hmark]
    cases e.capital <;> exact congrArg Option.isSome (digitValue?_of_mark _ (by decide))

/-- A decimal text is read as the decimal that it denotes. -/
theorem decimal?_text (t : DecimalText digitValue?) : decimal? t.text = some t.decimal := by
  have hsign := splitSign_text t.sign
    ⟨t.head?_digits (c := '+') (by decide), t.head?_digits (c := '-') (by decide)⟩
  have hexponent := exponent?_exponentText t.exponent
  have hends := endsDigits_exponentText t.exponent
  -- the digits before the point, and what is made of the rest
  have hwhole : splitDigits (t.whole.chars ++
      (DecimalText.fractionText t.fraction ++ DecimalText.exponentText t.exponent)) =
      (t.whole.values,
        DecimalText.fractionText t.fraction ++ DecimalText.exponentText t.exponent) := by
    apply splitDigits_chars
    cases t.fraction with
    | none => exact hends
    | some row =>
      intro c hc
      obtain rfl : '.' = c := Option.mem_some_iff.1 hc
      exact congrArg Option.isSome (digitValue?_of_mark _ (by decide))
  have hfraction := splitFraction_text t.fraction hends
  have hdigits : (t.whole.values.isEmpty &&
      (DecimalText.fractionValues t.fraction).isEmpty) = false := by
    rw [Bool.and_eq_false_iff, List.isEmpty_eq_false_iff, List.isEmpty_eq_false_iff]
    rcases t.hasDigit with hne | ⟨row, hrow, hne⟩
    · exact .inl fun h => hne (t.whole.values_eq_nil.1 h)
    · rw [Option.mem_def.1 hrow]
      exact .inr fun h => hne (row.values_eq_nil.1 h)
  simp only [decimal?_eq, DecimalText.text, hsign, hwhole, hfraction, hdigits, hexponent,
    Bool.false_eq_true, if_false, Option.map_some, ofDigits_eq_positional]
  rfl

/-- Only decimal texts are read as decimals. -/
theorem exists_decimalText {cs : List Char} {d : Decimal} (h : decimal? cs = some d) :
    ∃ t : DecimalText digitValue?, t.text = cs ∧ t.decimal = d := by
  obtain ⟨sign, hsign, hnegative⟩ := exists_signMark cs
  obtain ⟨whole, hwhole, hwholeValues⟩ := exists_digitRow (splitSign cs).2
  obtain ⟨fraction, hfraction, hfractionValues⟩ :=
    exists_fraction (splitDigits (splitSign cs).2).2
  rw [decimal?_eq] at h
  dsimp only at h
  split_ifs at h with hdigits
  obtain ⟨k, hk, rfl⟩ := Option.map_eq_some_iff.1 h
  obtain ⟨e, he, rfl⟩ := exists_exponentText hk
  have hdigit : whole.chars ≠ [] ∨ ∃ row ∈ fraction, row.chars ≠ [] := by
    rw [← hwholeValues, ← hfractionValues, Bool.and_eq_true, List.isEmpty_iff, List.isEmpty_iff,
      whole.values_eq_nil, not_and_or] at hdigits
    refine hdigits.imp id fun hne => ?_
    cases fraction with
    | none => exact absurd rfl hne
    | some row => exact ⟨row, rfl, fun hnil => hne (row.values_eq_nil.2 hnil)⟩
  refine ⟨⟨sign, whole, fraction, e, hdigit⟩, ?_, ?_⟩
  · rw [DecimalText.text, ← he, ← hfraction, ← hwhole, ← hsign]
  · rw [DecimalText.decimal, hnegative, hwholeValues, hfractionValues, ofDigits_eq_positional]

/-- **The reader of decimals takes the decimal texts and no others**, with the digits of all
scripts, and gives the decimals that they denote. -/
theorem decimal?_eq_some_iff {cs : List Char} {d : Decimal} :
    decimal? cs = some d ↔ ∃ t : DecimalText digitValue?, t.text = cs ∧ t.decimal = d := by
  constructor
  · exact exists_decimalText
  · rintro ⟨t, rfl, rfl⟩
    exact decimal?_text t

end DesignGraph.Coercion
