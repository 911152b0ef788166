import HostHome.Text.Utf8

/-!
# Patterns of a shell

A pattern stands for many texts: an asterisk for any text, a question mark for
any character, and brackets for one of the characters between them. A quoted
character stands for itself.
-/

namespace HostHome.Shell

inductive PatternPart where
  | char (c : Char)
  | anyChar
  | anyText
  | oneOf (negated : Bool) (ranges : List (Char × Char))
  deriving DecidableEq, Repr

/-- Read the ranges between brackets, up to the closing one. -/
def readRanges : List (Char × Bool) → Option (List (Char × Char) × List (Char × Bool))
  | [] => none
  | (']', false) :: rest => some ([], rest)
  | (first, _) :: ('-', false) :: (last, quoted) :: rest =>
      if last = ']' ∧ !quoted then some ([(first, first), ('-', '-')], rest)
      else (readRanges rest).map fun (ranges, after) => ((first, last) :: ranges, after)
  | (c, _) :: rest => (readRanges rest).map fun (ranges, after) => ((c, c) :: ranges, after)

/-- Read what is behind an opening bracket: a part of a pattern and what follows it. -/
def readBrackets (text : List (Char × Bool)) : Option (PatternPart × List (Char × Bool)) :=
  match text with
  | ('!', false) :: rest => (readRanges rest).map fun (ranges, after) => (.oneOf true ranges, after)
  | rest => (readRanges rest).map fun (ranges, after) => (.oneOf false ranges, after)

/-- Read a pattern from characters, each with the news whether it is quoted. The fuel bounds the
number of parts. -/
def readPatternFrom (fuel : Nat) (text : List (Char × Bool)) : List PatternPart :=
  match fuel, text with
  | 0, _ => []
  | _, [] => []
  | fuel + 1, ('*', false) :: rest => .anyText :: readPatternFrom fuel rest
  | fuel + 1, ('?', false) :: rest => .anyChar :: readPatternFrom fuel rest
  | fuel + 1, ('[', false) :: rest =>
      match readBrackets rest with
      | some (part, after) => part :: readPatternFrom fuel after
      | none => .char '[' :: readPatternFrom fuel rest
  | fuel + 1, (c, _) :: rest => .char c :: readPatternFrom fuel rest

def readPattern (text : List (Char × Bool)) : List PatternPart :=
  readPatternFrom (text.length + 1) text

/-- A text and all its endings, down to the empty one. -/
def endings : List Char → List (List Char)
  | [] => [[]]
  | c :: rest => (c :: rest) :: endings rest

def matchesPattern : List PatternPart → List Char → Bool
  | [], text => text.isEmpty
  | .anyText :: parts, text => (endings text).any (matchesPattern parts)
  | _ :: _, [] => false
  | .char expected :: parts, c :: rest => expected = c && matchesPattern parts rest
  | .anyChar :: parts, _ :: rest => matchesPattern parts rest
  | .oneOf negated ranges :: parts, c :: rest =>
      ((ranges.any fun (first, last) => first ≤ c && c ≤ last) != negated)
        && matchesPattern parts rest

/-- Drop a beginning for which a pattern stands, the longest one or the shortest one. -/
def dropMatchingStart (longest : Bool) (pattern : List PatternPart) (text : List Char) :
    List Char :=
  let lengths := List.range (text.length + 1)
  let ordered := if longest then lengths.reverse else lengths
  match ordered.find? fun length => matchesPattern pattern (text.take length) with
  | some length => text.drop length
  | none => text

/-- Drop an end for which a pattern stands, the longest one or the shortest one. -/
def dropMatchingEnd (longest : Bool) (pattern : List PatternPart) (text : List Char) : List Char :=
  let lengths := List.range (text.length + 1)
  let ordered := if longest then lengths else lengths.reverse
  match ordered.find? fun length => matchesPattern pattern (text.drop length) with
  | some length => text.take length
  | none => text

end HostHome.Shell
