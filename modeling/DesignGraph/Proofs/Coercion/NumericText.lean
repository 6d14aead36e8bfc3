import DesignGraph.Proofs.Coercion.DecimalText
import DesignGraph.Proofs.Number.Comparison
import DesignGraph.Proofs.Operation.Faults
/-!
# Numeric texts

Which texts stand for numbers, and for which. A browser takes no text for zero, infinity by name
with an optional sign, digits after a base marker, and decimals; its digits are those of basic
Latin. The reader takes all of these, and gives the same doubles for them. It takes more: decimals
with digits of other scripts, and binary digits whose marker stands twice.

## Main definitions

* `DesignGraph.Coercion.Denotes` — a numeric text and its double, under a convention on digits and
  markers; `DesignGraph.Coercion.Convention.browser` and `DesignGraph.Coercion.Convention.wide` are
  the conventions of a browser and of the reader.
* `DesignGraph.Coercion.IsPlain` — a text with digits of basic Latin alone and no second marker.
* `DesignGraph.Coercion.IsTrimmed` — what is left of a text without the blanks at its ends.

## Main results

* `DesignGraph.Coercion.denotes_of_textToNumber`, `DesignGraph.Coercion.eq_of_denotes` — the reader
  takes the numeric texts of the wide convention and no others.
* `DesignGraph.Coercion.denotes_browser_iff` — of these the plain ones are the numeric texts of a
  browser.
* `DesignGraph.Coercion.read_numeric_texts` — which texts are read as numbers, and as which.
-/

set_option relaxedAutoImplicit false
set_option autoImplicit false

namespace DesignGraph.Coercion

/-! ## The grammar -/

/-- What counts as a decimal digit, and whether the marker of binary digits may stand twice. -/
structure Convention where
  digit? : DigitClass
  repeatsMarker : Bool

namespace Convention

/-- Digits of basic Latin, and one marker. -/
def browser : Convention :=
  ⟨latinDigit?, false⟩

/-- Decimal digits of all scripts, and a second binary marker if need be. -/
def wide : Convention :=
  ⟨digitValue?, true⟩

end Convention

/-- The values of a nonempty row of digits in a base. -/
structure HasValues (base : Nat) (ds : List Char) (values : List Nat) : Prop where
  map_eq : ds.map (radixDigit? base) = values.map some
  ne_nil : ds ≠ []

/-- A numeric text without blanks at its ends, and the double that it denotes. -/
inductive Denotes (convention : Convention) : List Char → Float → Prop where
  | nothing : Denotes convention [] 0
  | infinity (sign : SignMark) :
    Denotes convention (sign.text ++ "Infinity".toList) (Double.infinity sign.negative)
  | radix {marker : Char} {base : Nat} {ds : List Char} {values : List Nat}
    (hmarker : radixOf? marker = some base) (hvalues : HasValues base ds values) :
    Denotes convention ('0' :: marker :: ds) (Double.nearestTo false (positional base values))
  | again {marker second : Char} {ds : List Char} {values : List Nat}
    (hrepeats : convention.repeatsMarker = true) (hmarker : radixOf? marker = some 2)
    (hsecond : radixOf? second = some 2) (hvalues : HasValues 2 ds values) :
    Denotes convention ('0' :: marker :: '0' :: second :: ds)
      (Double.nearestTo false (positional 2 values))
  | decimal (t : DecimalText convention.digit?) :
    Denotes convention t.text (Double.nearestTo t.decimal.negative t.decimal.magnitude)

/-! ## Digits after a marker -/

/-- The markers, with the bases that they announce. -/
theorem radixOf?_eq_some {c : Char} {base : Nat} (h : radixOf? c = some base) :
    c ∈ ['x', 'X'] ∧ base = 16 ∨ c ∈ ['o', 'O'] ∧ base = 8 ∨ c ∈ ['b', 'B'] ∧ base = 2 := by
  rw [radixOf?] at h
  split_ifs at h with hx ho hb <;> cases h
  · exact .inl ⟨by simpa using hx, rfl⟩
  · exact .inr (.inl ⟨by simpa using ho, rfl⟩)
  · exact .inr (.inr ⟨by simpa using hb, rfl⟩)

/-- A digit in a small base is one in base sixteen. -/
theorem isSome_radixDigit?_of_le {base d : Nat} {c : Char} (hbase : base ≤ 16)
    (h : radixDigit? base c = some d) : (radixDigit? 16 c).isSome = true := by
  obtain ⟨hvalue, hlt⟩ := Option.filter_eq_some_iff.1 h
  have hlt : d < base := of_decide_eq_true hlt
  have hd : radixDigit? 16 c = some d :=
    Option.filter_eq_some_iff.2 ⟨hvalue, decide_eq_true (by omega)⟩
  rw [hd]
  rfl

/-- Digits are taken up from left to right, as long as all of them are digits. -/
theorem foldlM_radixDigit?_eq_some_iff (base : Nat) (ds : List Char) (start n : Nat) :
    ds.foldlM (fun n c => (radixDigit? base c).map (n * base + ·)) start = some n ↔
      ∃ values : List Nat, ds.map (radixDigit? base) = values.map some ∧
        values.foldl (fun n d => n * base + d) start = n := by
  induction ds generalizing start with
  | nil =>
    constructor
    · intro h
      exact ⟨[], rfl, Option.some.inj h⟩
    · rintro ⟨values, hvalues, rfl⟩
      rw [List.map_nil, eq_comm, List.map_eq_nil_iff] at hvalues
      rw [hvalues]
      rfl
  | cons c rest ih =>
    rw [List.foldlM_cons]
    cases hc : radixDigit? base c with
    | none =>
      constructor
      · intro h
        cases h
      · rintro ⟨values, hvalues, -⟩
        rw [List.map_cons, hc] at hvalues
        cases values <;> cases hvalues
    | some d =>
      show rest.foldlM _ (start * base + d) = some n ↔ _
      rw [ih]
      constructor
      · rintro ⟨values, hvalues, hn⟩
        exact ⟨d :: values, by rw [List.map_cons, hc, hvalues, List.map_cons], hn⟩
      · rintro ⟨values, hvalues, hn⟩
        rw [List.map_cons, hc] at hvalues
        cases values with
        | nil => cases hvalues
        | cons d' values =>
          rw [List.map_cons, List.cons.injEq, Option.some.injEq] at hvalues
          obtain ⟨rfl, hvalues⟩ := hvalues
          exact ⟨values, hvalues, hn⟩

/-- A row of digits in a base is read as the number that it stands for. -/
theorem radixNumber?_eq_some_iff {base : Nat} {ds : List Char} {n : Nat} :
    radixNumber? base ds = some n ↔ ∃ values, HasValues base ds values ∧
      positional base values = n := by
  cases ds with
  | nil =>
    constructor
    · intro h
      cases h
    · rintro ⟨values, hvalues, -⟩
      exact absurd rfl hvalues.ne_nil
  | cons c rest =>
    have hfold : radixNumber? base (c :: rest) =
        (c :: rest).foldlM (fun n c => (radixDigit? base c).map (n * base + ·)) 0 := rfl
    rw [hfold, foldlM_radixDigit?_eq_some_iff]
    constructor
    · rintro ⟨values, hvalues, hn⟩
      exact ⟨values, ⟨hvalues, List.cons_ne_nil _ _⟩, (positional_eq_foldl _ _).trans hn⟩
    · rintro ⟨values, hvalues, hn⟩
      exact ⟨values, hvalues.map_eq, (positional_eq_foldl _ _).symm.trans hn⟩

/-- Every digit of a row is one. -/
theorem HasValues.exists_value {base : Nat} {ds : List Char} {values : List Nat}
    (h : HasValues base ds values) {c : Char} (hc : c ∈ ds) : ∃ d, radixDigit? base c = some d := by
  have hmem : radixDigit? base c ∈ values.map some := h.map_eq ▸ List.mem_map_of_mem hc
  obtain ⟨d, -, hd⟩ := List.mem_map.1 hmem
  exact ⟨d, hd.symm⟩

/-- A text is split at its marker if hexadecimal digits follow and nothing else. -/
theorem splitRadix?_cons {marker : Char} {base : Nat} {ds : List Char}
    (hmarker : radixOf? marker = some base) (hne : ds ≠ [])
    (hall : ∀ d ∈ ds, (radixDigit? 16 d).isSome = true) :
    splitRadix? ('0' :: marker :: ds) = some (base, ds) := by
  simp only [splitRadix?, hmarker]
  rw [if_pos ⟨hne, List.all_eq_true.2 hall⟩]

/-- What is split at a marker starts with a zero and the marker. -/
theorem eq_of_splitRadix? {cs ds : List Char} {base : Nat}
    (h : splitRadix? cs = some (base, ds)) :
    ∃ marker, cs = '0' :: marker :: ds ∧ radixOf? marker = some base := by
  unfold splitRadix? at h
  split at h
  · rename_i marker rest
    cases hmarker : radixOf? marker with
    | none =>
      rw [hmarker] at h
      cases h
    | some base' =>
      rw [hmarker] at h
      dsimp only at h
      split_ifs at h
      cases h
      exact ⟨marker, rfl, hmarker⟩
  · cases h

/-- The marker of binary digits is no binary digit, but a hexadecimal one. -/
theorem radixDigit?_of_binary_marker {c : Char} (h : radixOf? c = some 2) :
    radixDigit? 2 c = none ∧ (radixDigit? 16 c).isSome = true := by
  rcases radixOf?_eq_some h with ⟨-, hbase⟩ | ⟨-, hbase⟩ | ⟨hb, -⟩
  · cases hbase
  · cases hbase
  · fin_cases hb <;> exact ⟨rfl, rfl⟩

/-- Digits do not start with a second marker, so that none is dropped. -/
theorem dropSecondMarker_of_hasValues {base : Nat} {ds : List Char} {values : List Nat}
    (h : HasValues base ds values) : dropSecondMarker base ds = ds := by
  unfold dropSecondMarker
  split
  · rename_i c rest
    rw [if_neg]
    rintro ⟨rfl, hc⟩
    obtain ⟨d, hd⟩ := h.exists_value (c := c) (by simp)
    rw [(radixDigit?_of_binary_marker hc).1] at hd
    cases hd
  · rfl

/-- A second marker is dropped, or the digits stay as they are. -/
theorem dropSecondMarker_cases (base : Nat) (ds : List Char) :
    dropSecondMarker base ds = ds ∨ base = 2 ∧ ∃ second rest, ds = '0' :: second :: rest ∧
      radixOf? second = some 2 ∧ dropSecondMarker base ds = rest := by
  unfold dropSecondMarker
  split
  · rename_i c rest
    split_ifs with h
    · exact .inr ⟨h.1, c, rest, rfl, h.2, rfl⟩
    · exact .inl rfl
  · exact .inl rfl

/-- No decimal starts with a zero and a marker. -/
theorem decimal?_marker {marker : Char} {base : Nat} (h : radixOf? marker = some base)
    (ds : List Char) : decimal? ('0' :: marker :: ds) = none := by
  have hcases : marker ∈ ['x', 'X', 'o', 'O', 'b', 'B'] := by
    rcases radixOf?_eq_some h with ⟨h, -⟩ | ⟨h, -⟩ | ⟨h, -⟩ <;>
      simp only [List.mem_cons, List.not_mem_nil, or_false] at h ⊢ <;> tauto
  have hzero : isDecimalDigit '0' = true := by decide
  have hmarker : isDecimalDigit marker = false := by
    have hnone : ['x', 'X', 'o', 'O', 'b', 'B'].map digitValue? = List.replicate 6 none := by
      decide
    exact congrArg Option.isSome (List.map_eq_replicate_iff.1 hnone marker hcases)
  have hdigits : splitDigits ('0' :: marker :: ds) = ([0], marker :: ds) := by
    simp only [splitDigits, List.takeWhile_cons, List.dropWhile_cons, hzero, hmarker]
    rfl
  have hsign : splitSign ('0' :: marker :: ds) = (false, '0' :: marker :: ds) := rfl
  have hrest : splitFraction (marker :: ds) = ([], marker :: ds) ∧
      exponent? (marker :: ds) = none := by
    fin_cases hcases <;> exact ⟨rfl, rfl⟩
  simp [decimal?_eq, hsign, hdigits, hrest]

/-! ## Reading numeric texts -/

/-- Whole numbers are rounded like other magnitudes. -/
theorem nearestTo_eq_ofIntOrInfinite (n : Nat) :
    Double.nearestTo false (n : ℚ) = Double.ofIntOrInfinite n := by
  have hsign : decide ((n : Int) < 0) = false := decide_eq_false (by omega)
  rw [Double.nearestTo_natCast, Double.ofIntOrInfinite, Int.natAbs_natCast, hsign]

/-- An integer has no other double than the one nearest to it. -/
theorem eq_of_ofInt {i : Int} {x : Float} (h : Double.ofInt i = .ok x) :
    x = Double.ofIntOrInfinite i := by
  rw [Double.ofInt] at h
  split_ifs at h
  exact (Except.ok.inj h).symm

/-- Numeric texts denote numbers. -/
theorem Denotes.isNaN {convention : Convention} {cs : List Char} {x : Float}
    (h : Denotes convention cs x) : x.isNaN = false := by
  cases h with
  | nothing => rfl
  | infinity sign => exact Double.isNaN_ofMagnitude _ le_rfl
  | radix => exact Double.isNaN_ofMagnitude _ (Double.nearestBits_le _ _)
  | again => exact Double.isNaN_ofMagnitude _ (Double.nearestBits_le _ _)
  | decimal => exact Double.isNaN_ofMagnitude _ (Double.nearestBits_le _ _)

/-- What is read after a marker is denoted by the text. -/
theorem denotes_of_radixNumber? {cs ds : List Char} {base n : Nat}
    (hsplit : splitRadix? cs = some (base, ds))
    (hnumber : radixNumber? base (dropSecondMarker base ds) = some n) :
    Denotes .wide cs (Double.nearestTo false n) := by
  obtain ⟨marker, rfl, hmarker⟩ := eq_of_splitRadix? hsplit
  obtain ⟨values, hvalues, rfl⟩ := radixNumber?_eq_some_iff.1 hnumber
  rcases dropSecondMarker_cases base ds with heq | ⟨rfl, second, rest, rfl, hsecond, heq⟩
  · rw [heq] at hvalues
    exact .radix hmarker hvalues
  · rw [heq] at hvalues
    exact .again rfl hmarker hsecond hvalues

section Reading

variable {s : String} {x : Float}

/-- **What is read from a text is denoted by it, or it is NaN.** -/
theorem denotes_of_textToNumber (h : textToNumber s = .ok x) :
    Denotes .wide (trimBlanks s.toList) x ∨ x = Double.nan := by
  rw [textToNumber] at h
  generalize trimBlanks s.toList = cs at h ⊢
  split_ifs at h with hnil hplus hminus
  · cases h
    exact .inl (hnil ▸ .nothing)
  · cases h
    rcases hplus with rfl | rfl
    · exact .inl (.infinity .none)
    · exact .inl (.infinity .plus)
  · cases h
    subst hminus
    exact .inl (.infinity .minus)
  cases hsplit : splitRadix? cs with
  | some found =>
    obtain ⟨base, ds⟩ := found
    rw [hsplit] at h
    dsimp only at h
    cases hnumber : radixNumber? base (dropSecondMarker base ds) with
    | none =>
      rw [hnumber] at h
      cases h
      exact .inr rfl
    | some n =>
      rw [hnumber] at h
      rw [eq_of_ofInt h, ← nearestTo_eq_ofIntOrInfinite]
      exact .inl (denotes_of_radixNumber? hsplit hnumber)
  | none =>
    rw [hsplit] at h
    dsimp only at h
    cases hdecimal : decimal? cs with
    | none =>
      rw [hdecimal] at h
      cases h
      exact .inr rfl
    | some d =>
      rw [hdecimal] at h
      obtain ⟨t, rfl, rfl⟩ := exists_decimalText hdecimal
      rw [← Except.ok.inj h, Decimal.toDouble_eq_nearestTo]
      exact .inl (@Denotes.decimal .wide t)

/-- A decimal text is read as the double nearest to what it denotes. -/
theorem textToNumber_text {t : DecimalText digitValue?} (h : trimBlanks s.toList = t.text) :
    textToNumber s = .ok (Double.nearestTo t.decimal.negative t.decimal.magnitude) := by
  have hread : decimal? t.text = some t.decimal := decimal?_text t
  have hne {other : List Char} (hother : decimal? other = none) : t.text ≠ other := by
    rintro rfl
    rw [hother] at hread
    cases hread
  have hsplit : splitRadix? t.text = none := by
    cases hsplit : splitRadix? t.text with
    | none => rfl
    | some found =>
      obtain ⟨base, ds⟩ := found
      obtain ⟨marker, htext, hmarker⟩ := eq_of_splitRadix? hsplit
      exact absurd htext (hne (decimal?_marker hmarker _))
  rw [textToNumber, h, if_neg (hne rfl), if_neg (not_or.2 ⟨hne rfl, hne rfl⟩),
    if_neg (hne rfl), hsplit]
  dsimp only
  rw [hread, ← Decimal.toDouble_eq_nearestTo]

/-- Digits after a marker are read as the double nearest to their number, unless it is out of
range. -/
theorem textToNumber_radix {marker : Char} {base : Nat} {ds : List Char} {values : List Nat}
    (h : trimBlanks s.toList = '0' :: marker :: ds) (hmarker : radixOf? marker = some base)
    (hne : ds ≠ []) (hall : ∀ d ∈ ds, (radixDigit? 16 d).isSome = true)
    (hvalues : HasValues base (dropSecondMarker base ds) values) :
    textToNumber s = .ok (Double.nearestTo false (positional base values)) ∨
      textToNumber s = .error .outOfRange := by
  have hnumber := radixNumber?_eq_some_iff.2 ⟨values, hvalues, rfl⟩
  rw [textToNumber, h, if_neg (List.cons_ne_nil _ _), if_neg (by simp), if_neg (by simp),
    splitRadix?_cons hmarker hne hall]
  dsimp only
  rw [hnumber, nearestTo_eq_ofIntOrInfinite]
  dsimp only
  rw [Double.ofInt]
  split_ifs
  · exact .inl rfl
  · exact .inr rfl

/-- **A text that denotes a double is read as that double**, unless it is out of range. -/
theorem textToNumber_of_denotes (h : Denotes .wide (trimBlanks s.toList) x) :
    textToNumber s = .ok x ∨ textToNumber s = .error .outOfRange := by
  generalize hcs : trimBlanks s.toList = cs at h
  cases h with
  | nothing =>
    rw [textToNumber, hcs]
    exact .inl rfl
  | infinity sign =>
    rw [textToNumber, hcs]
    cases sign <;> exact .inl rfl
  | @radix marker base ds values hmarker hvalues =>
    have hbase : base ≤ 16 := by rcases radixOf?_eq_some hmarker with h | h | h <;> omega
    refine textToNumber_radix hcs hmarker hvalues.ne_nil (fun c hc => ?_) ?_
    · exact (hvalues.exists_value hc).elim fun _ => isSome_radixDigit?_of_le hbase
    · rwa [dropSecondMarker_of_hasValues hvalues]
  | @again marker second ds values hrepeats hmarker hsecond hvalues =>
    have hdrop : dropSecondMarker 2 ('0' :: second :: ds) = ds := by
      rw [dropSecondMarker, if_pos ⟨rfl, hsecond⟩]
    refine textToNumber_radix hcs hmarker (List.cons_ne_nil _ _) ?_ (by rwa [hdrop])
    have hhex := (radixDigit?_of_binary_marker hsecond).2
    refine List.forall_mem_cons.2 ⟨rfl, List.forall_mem_cons.2 ⟨hhex, fun c hc => ?_⟩⟩
    exact (hvalues.exists_value hc).elim fun _ => isSome_radixDigit?_of_le (by omega)
  | decimal t => exact .inl (textToNumber_text hcs)

/-- What is read from a text that denotes a double is that double. -/
theorem eq_of_denotes {y : Float} (h : textToNumber s = .ok x)
    (hy : Denotes .wide (trimBlanks s.toList) y) : x = y := by
  rcases textToNumber_of_denotes hy with hread | hread
  · exact Except.ok.inj (h.symm.trans hread)
  · rw [h] at hread
    cases hread

end Reading

/-! ## Plain texts -/

/-- Below the digits of other scripts there are only those of basic Latin. -/
theorem digitValue?_of_lt {c : Char} (h : c.toNat < 1632) : digitValue? c = latinDigit? c := by
  have hothers : zeroDigits.tail.find? (fun z => z ≤ c.toNat && c.toNat < z + 10) = none := by
    rw [List.find?_eq_none]
    intro z hz
    have hle : 1632 ≤ z := (by decide : ∀ z ∈ zeroDigits.tail, 1632 ≤ z) z hz
    rw [Bool.and_eq_true, decide_eq_true_iff]
    omega
  have hzero : zeroDigits = 48 :: zeroDigits.tail := rfl
  have hdigit : c.isDigit = (48 ≤ c.toNat && c.toNat < 48 + 10) := by
    rw [Bool.eq_iff_iff, Bool.and_eq_true, decide_eq_true_iff, decide_eq_true_iff, Char.isDigit,
      Bool.and_eq_true, decide_eq_true_iff, decide_eq_true_iff, ge_iff_le, UInt32.le_iff_toNat_le,
      UInt32.le_iff_toNat_le]
    show 48 ≤ c.toNat ∧ c.toNat ≤ 57 ↔ 48 ≤ c.toNat ∧ c.toNat < 48 + 10
    omega
  rw [digitValue?, hzero, List.find?_cons, hothers, latinDigit?, hdigit]
  cases 48 ≤ c.toNat && c.toNat < 48 + 10 <;> rfl

/-- What has a value among the digits of basic Latin is one of them. -/
theorem isSome_latinDigit? {c : Char} : (latinDigit? c).isSome = true ↔ c.isDigit = true := by
  rw [latinDigit?]
  cases c.isDigit <;> simp

/-- The digits of basic Latin have the same values among those of all scripts. -/
theorem digitValue?_of_latinDigit? {c : Char} (h : (latinDigit? c).isSome = true) :
    digitValue? c = latinDigit? c := by
  apply digitValue?_of_lt
  have hle : c.toNat ≤ 57 :=
    of_decide_eq_true (Bool.and_eq_true_iff.1 (isSome_latinDigit?.1 h)).2
  omega

/-- A row of digits of one class is one of another class that has these digits. -/
def DigitRow.transfer {digit? digit?' : DigitClass} (row : DigitRow digit?)
    (h : ∀ c ∈ row.chars, digit?' c = digit? c) : DigitRow digit?' :=
  ⟨row.chars, fun c hc => by rw [h c hc]; exact row.isDigit c hc⟩

theorem DigitRow.values_transfer {digit? digit?' : DigitClass} (row : DigitRow digit?)
    (h : ∀ c ∈ row.chars, digit?' c = digit? c) : (row.transfer h).values = row.values :=
  List.filterMap_congr h

/-- A decimal text with the digits of one class is one with the digits of another class that has
these digits. -/
theorem DecimalText.exists_transfer {digit? : DigitClass} (t : DecimalText digit?)
    (digit?' : DigitClass) (h : ∀ c ∈ t.text, (digit? c).isSome = true → digit?' c = digit? c) :
    ∃ t' : DecimalText digit?', t'.text = t.text ∧ t'.decimal = t.decimal := by
  obtain ⟨sign, whole, fraction, exponent, hdigit⟩ := t
  have hwhole : ∀ c ∈ whole.chars, digit?' c = digit? c := fun c hc =>
    h c (by simp [text, hc]) (whole.isDigit c hc)
  have hfraction : ∃ fraction' : Option (DigitRow digit?'),
      fractionText fraction' = fractionText fraction ∧
      fractionValues fraction' = fractionValues fraction ∧
      ((∃ row ∈ fraction, row.chars ≠ []) → ∃ row ∈ fraction', row.chars ≠ []) := by
    cases fraction with
    | none =>
      refine ⟨none, rfl, rfl, ?_⟩
      rintro ⟨row, hrow, -⟩
      cases hrow
    | some row =>
      have hrow : ∀ c ∈ row.chars, digit?' c = digit? c := fun c hc =>
        h c (by simp [text, fractionText, hc]) (row.isDigit c hc)
      refine ⟨some (row.transfer hrow), rfl, row.values_transfer hrow, ?_⟩
      rintro ⟨_, hmem, hne⟩
      cases hmem
      exact ⟨_, rfl, hne⟩
  have hexponent : ∃ exponent' : Option (ExponentText digit?'),
      exponentText exponent' = exponentText exponent ∧
      exponentValue exponent' = exponentValue exponent := by
    cases exponent with
    | none => exact ⟨none, rfl, rfl⟩
    | some e =>
      have hrow : ∀ c ∈ e.digits.chars, digit?' c = digit? c := fun c hc =>
        h c (by simp [text, exponentText, ExponentText.text, hc]) (e.digits.isDigit c hc)
      refine ⟨some ⟨e.capital, e.sign, e.digits.transfer hrow, e.hasDigit⟩, rfl, ?_⟩
      simp only [exponentValue, ExponentText.value, e.digits.values_transfer hrow]
  obtain ⟨fraction', hfractionText, hfractionValues, hsome⟩ := hfraction
  obtain ⟨exponent', hexponentText, hexponentValue⟩ := hexponent
  refine ⟨⟨sign, whole.transfer hwhole, fraction', exponent', hdigit.imp id hsome⟩, ?_, ?_⟩
  · simp only [text, hfractionText, hexponentText, DigitRow.transfer]
  · simp only [decimal, hfractionValues, hexponentValue, whole.values_transfer hwhole]

/-- A decimal text of basic Latin is one of all scripts. -/
theorem DecimalText.exists_wide (t : DecimalText latinDigit?) :
    ∃ t' : DecimalText digitValue?, t'.text = t.text ∧ t'.decimal = t.decimal :=
  t.exists_transfer digitValue? fun _ _ hc => digitValue?_of_latinDigit? hc

/-- A decimal text of basic Latin is read as the decimal that it denotes. -/
theorem decimal?_latin (t : DecimalText latinDigit?) : decimal? t.text = some t.decimal := by
  obtain ⟨t', htext, hdecimal⟩ := t.exists_wide
  rw [← htext, ← hdecimal]
  exact decimal?_text t'

/-- The characters of a decimal text are digits, signs and points, and the mark of its exponent. -/
theorem DecimalText.mem_text_cases {digit? : DigitClass} (t : DecimalText digit?) {c : Char}
    (h : c ∈ t.text) : (digit? c).isSome = true ∨ c ∈ ['+', '-', '.'] ∨
      t.exponent.isSome = true ∧ c ∈ ['e', 'E'] := by
  have hsign {s : SignMark} (hc : c ∈ s.text) : c ∈ ['+', '-', '.'] := by
    cases s with
    | none => cases hc
    | plus => rw [List.mem_singleton.1 hc]; decide
    | minus => rw [List.mem_singleton.1 hc]; decide
  rw [text, List.mem_append, List.mem_append, List.mem_append] at h
  rcases h with h | h | h | h
  · exact .inr (.inl (hsign h))
  · exact .inl (t.whole.isDigit c h)
  · cases hfraction : t.fraction with
    | none =>
      rw [hfraction] at h
      cases h
    | some row =>
      rw [hfraction] at h
      rcases List.mem_cons.1 h with rfl | h
      · exact .inr (.inl (by decide))
      · exact .inl (row.isDigit c h)
  · cases hexponent : t.exponent with
    | none =>
      rw [hexponent] at h
      cases h
    | some e =>
      rw [hexponent] at h
      rcases List.mem_cons.1 h with rfl | h
      · refine .inr (.inr ⟨rfl, ?_⟩)
        cases e.capital <;> decide
      · rcases List.mem_append.1 h with h | h
        · exact .inr (.inl (hsign h))
        · exact .inl (e.digits.isDigit c h)

/-- The characters of a decimal text are digits and marks. -/
theorem DecimalText.mem_text {digit? : DigitClass} (t : DecimalText digit?) {c : Char}
    (h : c ∈ t.text) : (digit? c).isSome = true ∨ c ∈ ['+', '-', '.', 'e', 'E'] := by
  rcases t.mem_text_cases h with hdigit | hmark | ⟨-, hmark⟩
  · exact .inl hdigit
  · exact .inr (List.mem_append_left ['e', 'E'] hmark)
  · exact .inr (List.mem_append_right ['+', '-', '.'] hmark)

/-- Binary digits whose marker stands twice. -/
def RepeatsMarker (cs : List Char) : Prop :=
  ∃ marker second ds, cs = '0' :: marker :: '0' :: second :: ds ∧ radixOf? marker = some 2 ∧
    radixOf? second = some 2

/-- All decimal digits are those of basic Latin, and no marker of binary digits stands twice. -/
structure IsPlain (cs : List Char) : Prop where
  latin : ∀ c ∈ cs, (digitValue? c).isSome = true → c.isDigit = true
  once : ¬ RepeatsMarker cs

/-- What is a digit in some base is no decimal digit of another script. -/
theorem isDigit_of_radixDigit? {base d : Nat} {c : Char} (h : radixDigit? base c = some d)
    (hdecimal : (digitValue? c).isSome = true) : c.isDigit = true := by
  have hlt : c.toNat < 1632 := by
    have hvalue := (Option.filter_eq_some_iff.1 h).1
    rw [Hex.value?] at hvalue
    have hle {a b : Char} (h : a ≤ b) : a.toNat ≤ b.toNat := h
    split_ifs at hvalue with h0 ha hA
    · exact (hle h0.2).trans_lt (by decide)
    · exact (hle ha.2).trans_lt (by decide)
    · exact (hle hA.2).trans_lt (by decide)
  rw [digitValue?_of_lt hlt] at hdecimal
  exact isSome_latinDigit?.1 hdecimal

/-- The markers and the zero before them are no digits of other scripts. -/
theorem isDigit_of_marker {marker c : Char} {base : Nat} (hmarker : radixOf? marker = some base)
    (hc : c = '0' ∨ c = marker) (hdecimal : (digitValue? c).isSome = true) : c.isDigit = true := by
  have hmem : c ∈ ['0', 'x', 'X', 'o', 'O', 'b', 'B'] := by
    rcases hc with rfl | rfl
    · decide
    · rcases radixOf?_eq_some hmarker with ⟨h, -⟩ | ⟨h, -⟩ | ⟨h, -⟩ <;>
        simp only [List.mem_cons, List.not_mem_nil, or_false] at h ⊢ <;> tauto
  have hlt : c.toNat < 1632 := by
    fin_cases hmem <;> decide
  rw [digitValue?_of_lt hlt] at hdecimal
  exact isSome_latinDigit?.1 hdecimal

/-- Infinity is plain, with any sign. -/
theorem isPlain_infinity (sign : SignMark) : IsPlain (sign.text ++ "Infinity".toList) := by
  constructor
  · intro c hc hdecimal
    have hmem : c ∈ ['+', '-', 'I', 'n', 'f', 'i', 't', 'y'] := by
      revert hc
      cases sign <;> simp [SignMark.text] <;> tauto
    have hnone : ['+', '-', 'I', 'n', 'f', 'i', 't', 'y'].map digitValue? =
        List.replicate 8 none := by decide
    rw [List.map_eq_replicate_iff.1 hnone c hmem] at hdecimal
    cases hdecimal
  · rintro ⟨marker, second, ds, heq, -⟩
    cases sign <;> cases heq

/-- Digits after one marker are plain. -/
theorem HasValues.isPlain {marker : Char} {base : Nat} {ds : List Char} {values : List Nat}
    (hmarker : radixOf? marker = some base) (h : HasValues base ds values) :
    IsPlain ('0' :: marker :: ds) := by
  constructor
  · intro c hc hdecimal
    rcases List.mem_cons.1 hc with rfl | hc
    · rfl
    rcases List.mem_cons.1 hc with rfl | hc
    · exact isDigit_of_marker hmarker (.inr rfl) hdecimal
    · obtain ⟨d, hd⟩ := h.exists_value hc
      exact isDigit_of_radixDigit? hd hdecimal
  · rintro ⟨marker', second, rest, heq, hmarker', hsecond⟩
    cases heq
    rw [hmarker] at hmarker'
    cases hmarker'
    obtain ⟨d, hd⟩ := h.exists_value (c := second) (by simp)
    rw [(radixDigit?_of_binary_marker hsecond).1] at hd
    cases hd

/-- Decimal texts of basic Latin are plain. -/
theorem DecimalText.isPlain (t : DecimalText latinDigit?) : IsPlain t.text := by
  constructor
  · intro c hc hdecimal
    rcases t.mem_text hc with hdigit | hmark
    · exact isSome_latinDigit?.1 hdigit
    · rw [digitValue?_of_mark c hmark] at hdecimal
      cases hdecimal
  · rintro ⟨marker, second, ds, heq, hmarker, -⟩
    have hread := decimal?_latin t
    rw [heq, decimal?_marker hmarker] at hread
    cases hread

/-- A numeric text of a browser is plain. -/
theorem Denotes.isPlain {cs : List Char} {x : Float} (h : Denotes .browser cs x) : IsPlain cs := by
  cases h with
  | nothing => exact ⟨nofun, fun ⟨_, _, _, h, _⟩ => nomatch h⟩
  | infinity sign => exact isPlain_infinity sign
  | radix hmarker hvalues => exact hvalues.isPlain hmarker
  | again hrepeats => cases hrepeats
  | decimal t => exact DecimalText.isPlain t

/-- A numeric text of a browser is one of the wide convention, with the same double. -/
theorem Denotes.wide {cs : List Char} {x : Float} (h : Denotes .browser cs x) :
    Denotes .wide cs x := by
  cases h with
  | nothing => exact .nothing
  | infinity sign => exact .infinity sign
  | radix hmarker hvalues => exact .radix hmarker hvalues
  | again hrepeats => cases hrepeats
  | decimal t =>
    obtain ⟨t', htext, hdecimal⟩ :
        ∃ t' : DecimalText digitValue?, t'.text = t.text ∧ t'.decimal = t.decimal :=
      DecimalText.exists_wide t
    rw [← htext, ← hdecimal]
    exact @Denotes.decimal .wide t'

/-- **The plain numeric texts are those of a browser**, with the same doubles. -/
theorem denotes_browser_iff {cs : List Char} {x : Float} :
    Denotes .browser cs x ↔ Denotes .wide cs x ∧ IsPlain cs := by
  refine ⟨fun h => ⟨h.wide, h.isPlain⟩, fun ⟨h, hplain⟩ => ?_⟩
  cases h with
  | nothing => exact .nothing
  | infinity sign => exact .infinity sign
  | radix hmarker hvalues => exact .radix hmarker hvalues
  | again _ hmarker hsecond _ => exact absurd ⟨_, _, _, rfl, hmarker, hsecond⟩ hplain.once
  | decimal t =>
    obtain ⟨t', htext, hdecimal⟩ := t.exists_transfer latinDigit? fun c hc hdigit => by
      exact (digitValue?_of_latinDigit? (isSome_latinDigit?.2 (hplain.latin c hc hdigit))).symm
    rw [← htext, ← hdecimal]
    exact @Denotes.decimal .browser t'

/-! ## What is read as a number -/

/-- What is left of a text without the blanks at its ends. -/
structure IsTrimmed (text core : List Char) : Prop where
  exists_blanks : ∃ lead trail, text = lead ++ (core ++ trail) ∧
    ∀ c ∈ lead ++ trail, isBlank c = true
  head : ∀ c ∈ core.head?, isBlank c = false
  last : ∀ c ∈ core.getLast?, isBlank c = false

/-- Blanks are trimmed off both ends, and nothing else is. -/
theorem isTrimmed_trimBlanks (text : List Char) : IsTrimmed text (trimBlanks text) := by
  have hlead := List.takeWhile_append_dropWhile (p := isBlank) (l := text)
  generalize hrest : text.dropWhile isBlank = rest at hlead
  have htrail := List.takeWhile_append_dropWhile (p := isBlank) (l := rest.reverse)
  have hcore : trimBlanks text = (rest.reverse.dropWhile isBlank).reverse := by
    rw [trimBlanks, hrest]
  have hsplit : rest = trimBlanks text ++ (rest.reverse.takeWhile isBlank).reverse := by
    rw [hcore, ← List.reverse_append, htrail, List.reverse_reverse]
  have hfirst (cs : List Char) : ∀ c ∈ (cs.dropWhile isBlank).head?, isBlank c = false := by
    intro c hc
    have := List.head?_dropWhile_not isBlank cs
    rwa [hc] at this
  refine ⟨⟨text.takeWhile isBlank, (rest.reverse.takeWhile isBlank).reverse, ?_, ?_⟩, ?_, ?_⟩
  · rw [← hsplit, hlead]
  · intro c hc
    rcases List.mem_append.1 hc with hc | hc
    · exact List.mem_takeWhile_imp hc
    · exact List.mem_takeWhile_imp (List.mem_reverse.1 hc)
  · intro c hc
    refine hfirst text c ?_
    rw [hrest, hsplit]
    cases hne : trimBlanks text with
    | nil =>
      rw [hne] at hc
      cases hc
    | cons d ds =>
      rw [hne] at hc
      exact hc
  · intro c hc
    rw [hcore, List.getLast?_reverse] at hc
    exact hfirst _ c hc

/-- A number is read from the numeric texts of the wide convention and from no others. -/
theorem isNaN_eq_false_iff_denotes {s : String} {x : Float} (h : textToNumber s = .ok x) :
    x.isNaN = false ↔ ∃ y, Denotes .wide (trimBlanks s.toList) y := by
  constructor
  · intro hx
    rcases denotes_of_textToNumber h with hdenotes | rfl
    · exact ⟨x, hdenotes⟩
    · rw [Double.isNaN_nan] at hx
      cases hx
  · rintro ⟨y, hy⟩
    rw [eq_of_denotes h hy]
    exact hy.isNaN

/-- **Which texts are read as numbers, and as which.** Blanks at the ends do not count. If a text is
read at all, every numeric text of a browser is read as the double that it denotes. The texts that
are read as numbers are those of the wide convention, with the doubles that they denote there, and
the numeric texts of a browser are the plain ones among them. So a text is a number here and none
in a browser exactly if it has digits of other scripts, or a second marker of binary digits. -/
theorem read_numeric_texts {s : String} {x : Float} (h : toNumber (.str s) = .ok x) :
    IsTrimmed s.toList (trimBlanks s.toList) ∧
    (∀ y, Denotes .browser (trimBlanks s.toList) y → x.isNaN = false ∧ x = y) ∧
    (∀ y, Denotes .wide (trimBlanks s.toList) y → x = y) ∧
    (x.isNaN = false ↔ ∃ y, Denotes .wide (trimBlanks s.toList) y) ∧
    ((∃ y, Denotes .browser (trimBlanks s.toList) y) ↔
      x.isNaN = false ∧ IsPlain (trimBlanks s.toList)) := by
  rw [toNumber] at h
  refine ⟨isTrimmed_trimBlanks _, fun y hy => ?_, fun y hy => eq_of_denotes h hy,
    isNaN_eq_false_iff_denotes h, ?_⟩
  · rw [eq_of_denotes h hy.wide]
    exact ⟨hy.isNaN, rfl⟩
  · rw [isNaN_eq_false_iff_denotes h]
    simp only [denotes_browser_iff, exists_and_right]

/-- Hexadecimal digits between blanks are read. -/
theorem hexadecimal_read : toNumber (.str " 0x1F ") = .ok 31 ∧
    ((31 : Float).isNaN = false ↔ ∃ y, Denotes .wide (trimBlanks " 0x1F ".toList) y) := by
  have h : toNumber (.str " 0x1F ") = .ok 31 := by
    rw [toNumber]
    decide +kernel
  exact ⟨h, (read_numeric_texts h).2.2.2.1⟩

/-- Arabic digits and a second marker are read as numbers, although a browser takes neither. -/
theorem browser_reads_less :
    (toNumber (.str "٣") = .ok 3 ∧
      ¬ ∃ y, Denotes .browser (trimBlanks "٣".toList) y) ∧
    (toNumber (.str "0b0b1") = .ok 1 ∧
      ¬ ∃ y, Denotes .browser (trimBlanks "0b0b1".toList) y) := by
  simp only [toNumber]
  refine ⟨⟨by decide +kernel, ?_⟩, by decide +kernel, ?_⟩
  · rintro ⟨y, hy⟩
    have hdigit := hy.isPlain.latin '٣' (by decide) (by decide)
    exact absurd hdigit (by decide)
  · rintro ⟨y, hy⟩
    exact hy.isPlain.once ⟨'b', 'b', ['1'], by decide, by decide, by decide⟩

end DesignGraph.Coercion
