import HostHome.Unicode.Property

/-!
# Common character classes

The classes that text rules use most: blanks, digits, letters, word characters
and the characters that print as themselves.
-/

namespace HostHome.Unicode

/-- The property White_Space. -/
def isBlank (c : Char) : Bool :=
  let code := c.toNat
  (0x9 ≤ code && code ≤ 0xD) || code == 0x20 || code == 0x85 || code == 0xA0 || code == 0x1680
    || (0x2000 ≤ code && code ≤ 0x200A) || code == 0x2028 || code == 0x2029 || code == 0x202F
    || code == 0x205F || code == 0x3000

/-- The set of one yes-or-no property, by its loose name. -/
def propertySet (name : String) : CodeSet :=
  (tableSet? binaryProperties (looseName name)).getD CodeSet.empty

/-- Blanks: the property White_Space. -/
def spaceSet : CodeSet := propertySet "White_Space"

/-- Decimal digits of all scripts. -/
def digitSet : CodeSet := categoryUnion ["Nd"]

/-- Letters, including letter-like marks. -/
def alphabeticSet : CodeSet := propertySet "Alphabetic"

/-- Letters and numbers. -/
def alphanumericSet : CodeSet := alphabeticSet.union (categoryUnion ["Nd", "Nl", "No"])

/-- Characters of words: letters, marks, digits, connectors and joiners. -/
def wordSet : CodeSet :=
  CodeSet.ofIntervals (alphabeticSet.ranges
    ++ (categoryUnion ["Mn", "Mc", "Me", "Nd", "Pc"]).ranges
    ++ (propertySet "Join_Control").ranges)

/-- Characters that a font without a form for them may leave out: among them are fillers that count
as letters. -/
def ignorableSet : CodeSet := propertySet "Default_Ignorable_Code_Point"

/-- Characters that have no visible form of their own, the space apart. -/
def unprintableSet : CodeSet :=
  ((assigned.complement.union (categoryUnion ["Cc", "Cf", "Co", "Zl", "Zp", "Zs"])).union
    ignorableSet).diff (CodeSet.singleton ' ')

/-- Marks that attach to the character before them. -/
def attachingSet : CodeSet := propertySet "Grapheme_Extend"

end HostHome.Unicode
