/-!
# Sets of characters

A set of characters is a sorted list of disjoint intervals that do not touch.
The intervals count positions in the order of Unicode scalar values, where the
character after U+D7FF is U+E000, so that no interval is cut by the surrogates
and two equal sets have equal lists.
-/

namespace HostHome.Unicode

/-- Number the scalar values in order, skipping the surrogates. -/
def ordinal (codePoint : Nat) : Nat :=
  if codePoint < 0xD800 then codePoint else codePoint - 0x800

/-- The scalar value at a position of the order. -/
def codePointAt (position : Nat) : Nat :=
  if position < 0xD800 then position else position + 0x800

/-- The position of the last scalar value, U+10FFFF. -/
def lastOrdinal : Nat := ordinal 0x10FFFF

/-- A set of characters, as sorted, disjoint and separated intervals of positions. -/
structure CodeSet where
  ranges : List (Nat × Nat)
  deriving DecidableEq, Inhabited, Repr

namespace CodeSet

/-- Merge intervals sorted by their first position, given the interval that is still open. -/
def mergeSorted (low high : Nat) : List (Nat × Nat) → List (Nat × Nat)
  | [] => [(low, high)]
  | (nextLow, nextHigh) :: rest =>
      if nextLow ≤ high + 1 then mergeSorted low (max high nextHigh) rest
      else (low, high) :: mergeSorted nextLow nextHigh rest

/-- The set that covers any list of intervals, in any order. -/
def ofIntervals (intervals : List (Nat × Nat)) : CodeSet :=
  match intervals.mergeSort (fun first second => decide (first.1 ≤ second.1)) with
  | [] => ⟨[]⟩
  | (low, high) :: rest => ⟨mergeSorted low high rest⟩

/-- The set of the code points of some inclusive ranges, surrogates left out. -/
def ofCodePoints (intervals : List (Nat × Nat)) : CodeSet :=
  ofIntervals (intervals.filterMap fun (low, high) =>
    let first := if 0xD800 ≤ low ∧ low < 0xE000 then 0xE000 else low
    let last := if 0xD800 ≤ high ∧ high < 0xE000 then 0xD7FF else high
    if first ≤ last then some (ordinal first, ordinal last) else none)

def singleton (c : Char) : CodeSet := ⟨[(ordinal c.toNat, ordinal c.toNat)]⟩

def between (low high : Char) : CodeSet := ⟨[(ordinal low.toNat, ordinal high.toNat)]⟩

def empty : CodeSet := ⟨[]⟩

def full : CodeSet := ⟨[(0, lastOrdinal)]⟩

def isEmpty (set : CodeSet) : Bool := set.ranges.isEmpty

def contains (set : CodeSet) (c : Char) : Bool :=
  let position := ordinal c.toNat
  set.ranges.any fun (low, high) => low ≤ position && position ≤ high

def union (first second : CodeSet) : CodeSet := ofIntervals (first.ranges ++ second.ranges)

/-- The gaps between the intervals, from a position on. -/
def gapsFrom (start : Nat) : List (Nat × Nat) → List (Nat × Nat)
  | [] => if start ≤ lastOrdinal then [(start, lastOrdinal)] else []
  | (low, high) :: rest =>
      if start < low then (start, low - 1) :: gapsFrom (high + 1) rest
      else gapsFrom (high + 1) rest

def complement (set : CodeSet) : CodeSet := ⟨gapsFrom 0 set.ranges⟩

def inter (first second : CodeSet) : CodeSet :=
  (first.complement.union second.complement).complement

def diff (first second : CodeSet) : CodeSet := first.inter second.complement

def symmetricDiff (first second : CodeSet) : CodeSet :=
  (first.diff second).union (second.diff first)

/-- The set holds no character above U+007F. -/
def isAscii (set : CodeSet) : Bool := set.ranges.all fun (_, high) => high ≤ 0x7F

def onlyMember? (set : CodeSet) : Option Char :=
  match set.ranges with
  | [(low, high)] => if low = high then some (Char.ofNat (codePointAt low)) else none
  | _ => none

/-- The value of a hexadecimal digit in upper case. -/
def hexDigit (c : Char) : Nat :=
  if c.isDigit then c.toNat - '0'.toNat else c.toNat - 'A'.toNat + 10

/-- Read a list such as 41-5A 61-7A AA, with blanks or line ends between its items. -/
def readRanges (low? : Option Nat) (value? : Option Nat) : List Char → List (Nat × Nat)
  | [] => match value? with
      | none => []
      | some value => [(low?.getD value, value)]
  | c :: rest =>
      if c = ' ' ∨ c = '\n' then
        match value? with
        | none => readRanges none none rest
        | some value => (low?.getD value, value) :: readRanges none none rest
      else if c = '-' then readRanges value? none rest
      else readRanges low? (some (value?.getD 0 * 16 + hexDigit c)) rest

/-- The set written as a list of hexadecimal code points and ranges. -/
def ofText (text : String) : CodeSet := ofCodePoints (readRanges none none text.toList)

end CodeSet

end HostHome.Unicode
