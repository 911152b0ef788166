import HostHome.Regex.Expr
import HostHome.Regex.Utf8Ranges
import Std.Data.HashMap

/-!
# Sizes of automata

The number of bytes that the automaton of an expression takes when it reads
forwards, and when it reads backwards. A state takes a fixed number of bytes, a
state that branches takes more for each branch. Repetitions are written out, so
that the size grows with their counts.
-/

namespace HostHome.Regex

open HostHome.Unicode (CodeSet)

/-- The bytes of one state. -/
def stateBytes : Nat := 32

/-- The bytes of one branch on a byte range. -/
def transitionBytes : Nat := 8

/-- The bytes of one branch that is taken without reading. -/
def branchBytes : Nat := 4

/-- A part of an automaton. When it ends in a branching state, whatever follows it adds a branch
to that state. -/
structure Fragment where
  bytes : Nat
  endsInBranch : Bool := false
  deriving DecidableEq, Repr

namespace Fragment

/-- The bytes that go to the last state when the fragment is continued. -/
def joint (fragment : Fragment) : Nat := if fragment.endsInBranch then branchBytes else 0

def followedBy (first second : Fragment) : Fragment :=
  ⟨first.bytes + first.joint + second.bytes, second.endsInBranch⟩

def empty : Fragment := ⟨stateBytes, false⟩

def sequence : List Fragment → Fragment
  | [] => empty
  | first :: rest => rest.foldl followedBy first

def copies (fragment : Fragment) (count : Nat) : Fragment :=
  if count = 0 then empty
  else ⟨count * fragment.bytes + (count - 1) * fragment.joint, fragment.endsInBranch⟩

def alternatives (fragments : List Fragment) : Fragment :=
  let bodies := fragments.foldr (fun fragment total => fragment.bytes + fragment.joint + total) 0
  ⟨2 * stateBytes + fragments.length * branchBytes + bodies, false⟩

def atLeast (fragment : Fragment) (least : Nat) (neverEmpty : Bool) : Fragment :=
  let loop := stateBytes + branchBytes + fragment.bytes + fragment.joint
  match least with
  | 0 =>
      if neverEmpty then ⟨loop, true⟩
      else ⟨loop + branchBytes + 2 * stateBytes + 2 * branchBytes, false⟩
  | 1 => ⟨loop, true⟩
  | least => ⟨(fragment.copies (least - 1)).bytes + fragment.joint + loop, true⟩

def bounded (fragment : Fragment) (least most : Nat) : Fragment :=
  if most ≤ least then fragment.copies least
  else if least = 0 ∧ most = 1 then
    ⟨2 * stateBytes + 2 * branchBytes + fragment.bytes + fragment.joint, false⟩
  else
    let required := fragment.copies least
    let round := stateBytes + 2 * branchBytes + fragment.bytes + fragment.joint
    ⟨required.bytes + required.joint + stateBytes + (most - least) * round, false⟩

end Fragment

/-- Group neighbouring sequences that begin with the same byte range. -/
def groupByFirst : List (List ByteRange) → List (ByteRange × List (List ByteRange))
  | [] => []
  | [] :: rest => groupByFirst rest
  | (range :: tail) :: rest =>
      match groupByFirst rest with
      | (range', tails) :: groups =>
          if range = range' then (range, tail :: tails) :: groups
          else (range, [tail]) :: (range', tails) :: groups
      | [] => [(range, [tail])]

/-- The states of the automaton of some sequences, numbered by their branches. -/
abbrev StateTable := Std.HashMap (List (ByteRange × Nat)) Nat

/-- Number a state, giving equal states the same number. -/
def internState (branches : List (ByteRange × Nat)) : StateM StateTable Nat := do
  let table ← get
  match table[branches]? with
  | some number => return number
  | none =>
      set (table.insert branches (table.size + 1))
      return table.size + 1

/-- Number the states for sequences of at most the given length. The end has number zero. -/
def internSequences : Nat → List (List ByteRange) → StateM StateTable Nat
  | 0, _ => return 0
  | length + 1, sequences => do
      let groups := groupByFirst sequences
      if groups.isEmpty then return 0
      else
        let branches ← groups.mapM fun (range, tails) => do
          return (range, ← internSequences length tails)
        internState branches

/-- The fragment that reads a character of a set forwards: equal ends are shared. -/
def forwardSet (members : CodeSet) : Fragment :=
  if members.isAscii then
    ⟨2 * stateBytes + members.ranges.length * transitionBytes, false⟩
  else
    let (_, table) := (internSequences 4 (sequencesOf members)).run {}
    ⟨stateBytes + table.fold (fun sum branches _ =>
      sum + stateBytes + branches.length * transitionBytes) 0, false⟩

/-- The number of different beginnings of sequences of at most the given length. -/
def countBeginnings : Nat → List (List ByteRange) → Nat
  | 0, _ => 0
  | length + 1, sequences =>
      ((groupByFirst sequences).map fun (_, tails) => 1 + countBeginnings length tails).sum

/-- The fragment that reads a character of a set backwards: equal beginnings are shared. -/
def backwardSet (members : CodeSet) : Fragment :=
  if members.isAscii then
    ⟨2 * stateBytes + members.ranges.length * transitionBytes, false⟩
  else
    let sequences := sequencesOf members
    ⟨(2 + countBeginnings 4 sequences) * stateBytes + sequences.length * branchBytes, false⟩

def bytesOf (text : List Char) : List Nat :=
  text.flatMap fun c => encodingOf c.toNat

/-- Move the texts with a given first byte to the front of the others, first bytes stripped. -/
def splitByFirst (byte : Nat) (texts : List (List Nat)) : List (List Nat) × List (List Nat) :=
  (texts.filterMap fun text => match text with
      | first :: rest => if first = byte then some rest else none
      | [] => none,
    texts.filter fun text => text.head? ≠ some byte)

/-- The bytes of the states that read some texts from a common tree, of the given height at most.
A state with one branch needs no list of branches; where a text ends inside another one, a
branching state joins the two. -/
def treeBytes : Nat → List (List Nat) → Nat
  | 0, _ => 0
  | height + 1, texts =>
      let firsts := (texts.filterMap List.head?).eraseDups
      if firsts.isEmpty then 0
      else
        let own := stateBytes + if firsts.length = 1 then 0 else firsts.length * transitionBytes
        let ending := if texts.any List.isEmpty then stateBytes + 2 * branchBytes else 0
        own + ending
          + (firsts.map fun first => treeBytes height (splitByFirst first texts).1).sum

/-- The fragment that reads one of some literals. -/
def literalTree (texts : List (List Nat)) : Fragment :=
  let height := texts.foldl (fun longest text => max longest text.length) 0
  ⟨stateBytes + treeBytes height texts, false⟩

/-- The texts of expressions that are all literals. -/
def literalTexts? (branches : List Expr) : Option (List (List Nat)) :=
  branches.mapM fun branch => match branch with
    | .literal text => some (bytesOf text)
    | _ => none

mutual

/-- The automaton part of an expression. -/
def Expr.fragment (backward : Bool) : Expr → Fragment
  | .empty => Fragment.empty
  | .literal text => ⟨(bytesOf text).length * stateBytes, false⟩
  | .set members => if backward then backwardSet members else forwardSet members
  | .look _ => ⟨stateBytes, false⟩
  | .repetition least most? _ operand =>
      let part := operand.fragment backward
      match most? with
      | some most => part.bounded least most
      | none => part.atLeast least ((operand.leastLength?).any (0 < ·))
  | .capture _ _ content =>
      let part := content.fragment backward
      if backward then part else ⟨2 * stateBytes + part.bytes + part.joint, false⟩
  | .sequence parts =>
      let fragments := Expr.fragments backward parts
      Fragment.sequence (if backward then fragments.reverse else fragments)
  | .alternatives branches =>
      match literalTexts? branches with
      | some texts => literalTree (if backward then texts.map List.reverse else texts)
      | none => Fragment.alternatives (Expr.fragments backward branches)

def Expr.fragments (backward : Bool) : List Expr → List Fragment
  | [] => []
  | part :: parts => part.fragment backward :: Expr.fragments backward parts

end

mutual

/-- The expression can only match at the beginning of the text, or at its end. -/
def Expr.isAnchored (atEnd : Bool) : Expr → Bool
  | .look condition => condition = if atEnd then .textEnd else .textStart
  | .repetition least _ _ operand => 0 < least && operand.isAnchored atEnd
  | .capture _ _ content => content.isAnchored atEnd
  | .sequence parts =>
      if atEnd then Expr.lastIsAnchored parts else Expr.firstIsAnchored parts
  | .alternatives branches => Expr.allAreAnchored atEnd branches
  | _ => false

/-- One of the parts up to the first that takes characters is anchored at the beginning. -/
def Expr.firstIsAnchored : List Expr → Bool
  | [] => false
  | part :: parts =>
      part.isAnchored false || (part.greatestLength? == some 0 && Expr.firstIsAnchored parts)

/-- One of the parts from the last that takes characters on is anchored at the end. -/
def Expr.lastIsAnchored : List Expr → Bool
  | [] => false
  | part :: parts =>
      Expr.lastIsAnchored parts
        || (Expr.greatestLengthOfAll? parts == some 0 && part.isAnchored true)

def Expr.allAreAnchored (atEnd : Bool) : List Expr → Bool
  | [] => true
  | branch :: branches => branch.isAnchored atEnd && Expr.allAreAnchored atEnd branches

end

/-- The bytes of the whole automaton: a loop over the characters before a match, where a match
can begin anywhere, the expression between two marks, and the final state. -/
def Expr.automatonBytes (expr : Expr) (backward : Bool) : Nat :=
  let body := expr.fragment backward
  let start :=
    if expr.isAnchored backward then stateBytes
    else (Fragment.atLeast ⟨2 * stateBytes + transitionBytes, false⟩ 0 true).bytes + branchBytes
  let marks := if backward then 0 else 2 * stateBytes
  start + marks + body.bytes + body.joint + stateBytes

end HostHome.Regex
