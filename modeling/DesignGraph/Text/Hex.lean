/-!
# Hexadecimal digits

Code points in escapes: numbers with digits up to `f`, filled up with zeros to a fixed width.

## Main definitions

* `DesignGraph.Hex.text` — the digits of a number, with a least width.
* `DesignGraph.Hex.value?` — the value of a digit in either case.
* `DesignGraph.Hex.number?` — the number that a row of digits stands for.
-/

namespace DesignGraph.Hex

/-- The hexadecimal digits of a number, filled up with zeros to a given width. -/
def text (width n : Nat) : List Char :=
  let ds := Nat.toDigits 16 n
  List.replicate (width - ds.length) '0' ++ ds

/-- The value of a hexadecimal digit in either case. -/
def value? (c : Char) : Option Nat :=
  if '0' ≤ c ∧ c ≤ '9' then some (c.toNat - '0'.toNat)
  else if 'a' ≤ c ∧ c ≤ 'f' then some (c.toNat - 'a'.toNat + 10)
  else if 'A' ≤ c ∧ c ≤ 'F' then some (c.toNat - 'A'.toNat + 10)
  else none

/-- The number that a row of hexadecimal digits stands for. -/
def number? (ds : List Char) : Option Nat :=
  ds.foldlM (fun n c => (value? c).map (n * 16 + ·)) 0

end DesignGraph.Hex
