/-!
White space in the sense of the Unicode property White_Space, as skipped by the readers of dates.
-/

namespace Conveyor.Text

/-- The code points of white space. -/
def blankCodes : List Nat :=
  [0x9, 0xa, 0xb, 0xc, 0xd, 0x20, 0x85, 0xa0, 0x1680, 0x2000, 0x2001, 0x2002, 0x2003, 0x2004, 0x2005,
    0x2006, 0x2007, 0x2008, 0x2009, 0x200a, 0x2028, 0x2029, 0x202f, 0x205f, 0x3000]

/-- Whether a character is white space. -/
def isBlank (c : Char) : Bool :=
  blankCodes.contains c.toNat

/-- A text without its leading white space. -/
def skipBlanks (text : List Char) : List Char :=
  text.dropWhile isBlank

end Conveyor.Text
