/-!
# Moments in settings documents

Dates, times of day and both together, with an optional offset behind both. A date has to exist.

## Main definitions

* `DesignGraph.Toml.daysInMonth` — the length of a month.
* `DesignGraph.Toml.moment` — the moment at the start of a text.
-/

namespace DesignGraph.Toml

/-- Whether a year has a 29th of February. -/
def isLeapYear (year : Nat) : Bool :=
  year % 4 == 0 && (year % 100 != 0 || year % 400 == 0)

/-- The number of days of a month. -/
def daysInMonth (year month : Nat) : Nat :=
  if month = 2 then if isLeapYear year then 29 else 28
  else if month ∈ [4, 6, 9, 11] then 30
  else 31

/-- The number with the given digits of basic Latin. -/
def digitsValue? (ds : List Char) : Option Nat :=
  if ds.all Char.isDigit then some (ds.foldl (fun n c => n * 10 + (c.toNat - '0'.toNat)) 0)
  else none

/-- Whether two digits are a number below a limit. -/
def isBelow (limit : Nat) (tens units : Char) : Bool :=
  (digitsValue? [tens, units]).any (· < limit)

/-- Whether digits are a date that exists. -/
def isDate (year month day : List Char) : Bool :=
  match digitsValue? year, digitsValue? month, digitsValue? day with
  | some y, some m, some d => 1 ≤ y && 1 ≤ m && m ≤ 12 && 1 ≤ d && d ≤ daysInMonth y m
  | _, _, _ => false

/-- The date at the start of a text. -/
def date? : List Char → Option (List Char × List Char)
  | a :: b :: c :: d :: '-' :: e :: f :: '-' :: g :: h :: rest =>
    if isDate [a, b, c, d] [e, f] [g, h] then
      some ([a, b, c, d, '-', e, f, '-', g, h], rest)
    else none
  | _ => none

/-- The fraction of a second at the start of a text; none without digits. -/
def fraction : List Char → List Char × List Char
  | '.' :: rest =>
    match rest.takeWhile Char.isDigit with
    | [] => ([], '.' :: rest)
    | ds => ('.' :: ds, rest.dropWhile Char.isDigit)
  | cs => ([], cs)

/-- The time of day at the start of a text. -/
def time? : List Char → Option (List Char × List Char)
  | a :: b :: ':' :: c :: d :: ':' :: e :: f :: rest =>
    if isBelow 24 a b && isBelow 60 c d && isBelow 60 e f then
      let (digits, rest) := fraction rest
      some ([a, b, ':', c, d, ':', e, f] ++ digits, rest)
    else none
  | _ => none

/-- The offset at the start of a text; none when it has another form. -/
def offset (cs : List Char) : List Char × List Char :=
  match cs with
  | s :: a :: b :: ':' :: c :: d :: rest =>
    if (s == '+' || s == '-') && isBelow 24 a b && isBelow 60 c d then
      ([s, a, b, ':', c, d], rest)
    else zulu cs
  | _ => zulu cs
where
  /-- The letter for universal time. -/
  zulu : List Char → List Char × List Char
    | c :: rest => if c = 'Z' ∨ c = 'z' then ([c], rest) else ([], c :: rest)
    | [] => ([], [])

/-- The moment at the start of a text: a date, which a time of day may follow after a letter or a
space, or a time of day. -/
def moment (cs : List Char) : Option (List Char × List Char) :=
  match date? cs with
  | none => time? cs
  | some (day, []) => some (day, [])
  | some (day, c :: rest) =>
    match if c = 'T' ∨ c = 't' ∨ c = ' ' then time? rest else none with
    | none => some (day, c :: rest)
    | some (time, rest) =>
      let (shift, rest) := offset rest
      some (day ++ c :: time ++ shift, rest)

end DesignGraph.Toml
