import HostHome.Unicode.CodeSet

/-!
# Byte sequences of character ranges

Cut a set of characters into products of byte ranges: the encodings of the
characters of one cut are exactly the sequences with a byte from each range.
The cuts come out in the order of their characters.
-/

namespace HostHome.Regex

open HostHome.Unicode (CodeSet codePointAt)

abbrev ByteRange := Nat × Nat

/-- The greatest code point whose encoding has a number of bytes. -/
def greatestOfLength : Nat → Nat
  | 1 => 0x7F
  | 2 => 0x7FF
  | 3 => 0xFFFF
  | _ => 0x10FFFF

def encodingOf (codePoint : Nat) : List Nat :=
  if codePoint ≤ 0x7F then [codePoint]
  else if codePoint ≤ 0x7FF then [0xC0 + codePoint / 0x40, 0x80 + codePoint % 0x40]
  else if codePoint ≤ 0xFFFF then
    [0xE0 + codePoint / 0x1000, 0x80 + codePoint / 0x40 % 0x40, 0x80 + codePoint % 0x40]
  else
    [0xF0 + codePoint / 0x40000, 0x80 + codePoint / 0x1000 % 0x40,
      0x80 + codePoint / 0x40 % 0x40, 0x80 + codePoint % 0x40]

/-- Where to cut a range so that its first part is closer to a product of byte ranges: the last
code point of the first part, or nothing if the range is such a product already. -/
def cutPoint? (low high : Nat) : Option Nat :=
  match [1, 2, 3].find? fun bytes => low ≤ greatestOfLength bytes ∧ greatestOfLength bytes < high with
  | some bytes => some (greatestOfLength bytes)
  | none =>
      if high ≤ 0x7F then none
      else [0x40, 0x1000, 0x40000].findSome? fun block =>
        if low / block = high / block then none
        else if low % block ≠ 0 then some (low / block * block + (block - 1))
        else if high % block ≠ block - 1 then some (high / block * block - 1)
        else none

/-- The byte sequences of a range of code points that holds no surrogate. -/
def sequencesOfRange (low high : Nat) : List (List ByteRange) :=
  match cutPoint? low high with
  | none => [(encodingOf low).zip (encodingOf high)]
  | some cut =>
      if low ≤ cut ∧ cut < high then
        sequencesOfRange low cut ++ sequencesOfRange (cut + 1) high
      else []
termination_by high - low

def sequencesOf (members : CodeSet) : List (List ByteRange) :=
  members.ranges.flatMap fun (low, high) =>
    if low < 0xD800 ∧ 0xD800 ≤ high then
      sequencesOfRange low 0xD7FF ++ sequencesOfRange 0xE000 (codePointAt high)
    else sequencesOfRange (codePointAt low) (codePointAt high)

end HostHome.Regex
