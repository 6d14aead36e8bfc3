/-!
# Blanks

The characters that are taken off both ends of a text before it is read as a number: the white
space and line ends of browsers, which include the no-break spaces and the byte order mark but
not the information separators.

## Main definitions

* `DesignGraph.isBlank` — whether a character is one of them.
* `DesignGraph.trimBlanks` — a text without the blanks at its ends.
* `DesignGraph.isWhite` — whether a character leaves no mark where text is shown.
-/

namespace DesignGraph

/-- The code points of the blanks. -/
def blankCodes : List Nat :=
  [0x20, 0x09, 0x0a, 0x0d, 0x0b, 0x0c, 0xa0, 0x1680, 0x2000, 0x2001, 0x2002, 0x2003, 0x2004,
   0x2005, 0x2006, 0x2007, 0x2008, 0x2009, 0x200a, 0x2028, 0x2029, 0x202f, 0x205f, 0x3000, 0xfeff]

/-- Whether a character is taken off the ends of a numeric text. -/
def isBlank (c : Char) : Bool :=
  blankCodes.contains c.toNat

/-- A text without the blanks at its start and end. -/
def trimBlanks (text : List Char) : List Char :=
  ((text.dropWhile isBlank).reverse.dropWhile isBlank).reverse

/-- The code points of white space: the blanks but for the byte order mark, the information
separators and the next-line control. -/
def whiteCodes : List Nat :=
  blankCodes.dropLast ++ [0x1c, 0x1d, 0x1e, 0x1f, 0x85]

/-- Whether a character is white space. -/
def isWhite (c : Char) : Bool :=
  whiteCodes.contains c.toNat

end DesignGraph
