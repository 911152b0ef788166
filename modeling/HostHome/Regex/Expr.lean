import HostHome.Unicode.CodeSet

/-!
# Expressions

A pattern after its switches have been worked in. The functions that build
expressions keep them small: nested sequences and alternatives are flattened,
neighbouring literals are joined, alternatives of single characters become sets
and a beginning common to all alternatives is taken out.
-/

namespace HostHome.Regex

open HostHome.Unicode (CodeSet)

/-- The sides of a position that a word assertion asks about. -/
inductive WordEdge where
  | boundary | inside
  | start | stop
  | startHalf | stopHalf
  deriving DecidableEq, Repr

/-- A condition on a position of the text. -/
inductive Look where
  | textStart | textEnd
  | lineStart | lineEnd
  | crlfLineStart | crlfLineEnd
  | word (unicode : Bool) (edge : WordEdge)
  deriving DecidableEq, Repr

/-- A pattern without switches. A literal holds at least one character, sequences and
alternatives hold at least two members. -/
inductive Expr where
  | empty
  | literal (text : List Char)
  | set (members : CodeSet)
  | look (condition : Look)
  | repetition (least : Nat) (most? : Option Nat) (greedy : Bool) (operand : Expr)
  | capture (index : Nat) (name? : Option String) (content : Expr)
  | sequence (parts : List Expr)
  | alternatives (branches : List Expr)

namespace Expr

mutual

def same : Expr → Expr → Bool
  | .empty, .empty => true
  | .literal first, .literal second => first == second
  | .set first, .set second => first == second
  | .look first, .look second => first == second
  | .repetition least most? greedy operand, .repetition least' most' greedy' operand' =>
      least == least' && most? == most' && greedy == greedy' && same operand operand'
  | .capture index name? content, .capture index' name' content' =>
      index == index' && name? == name' && same content content'
  | .sequence parts, .sequence parts' => sameAll parts parts'
  | .alternatives branches, .alternatives branches' => sameAll branches branches'
  | _, _ => false

def sameAll : List Expr → List Expr → Bool
  | [], [] => true
  | first :: rest, first' :: rest' => same first first' && sameAll rest rest'
  | _, _ => false

end

/-- The length in bytes of the least and of the greatest character of a set. -/
def setLengths? (members : CodeSet) : Option (Nat × Nat) :=
  let bytes (position : Nat) : Nat := (Char.ofNat (Unicode.codePointAt position)).utf8Size
  match members.ranges with
  | [] => none
  | (low, high) :: rest => some (bytes low, bytes ((rest.getLastD (low, high)).2))

mutual

/-- The least number of bytes that a match takes, if there can be a match. -/
def leastLength? : Expr → Option Nat
  | .empty => some 0
  | .literal text => some (text.foldl (fun sum c => sum + c.utf8Size) 0)
  | .set members => (setLengths? members).map Prod.fst
  | .look _ => some 0
  | .repetition least _ _ operand => (leastLength? operand).map (· * least)
  | .capture _ _ content => leastLength? content
  | .sequence parts => leastLengthOfAll? parts
  | .alternatives branches => leastLengthOfAny? branches

def leastLengthOfAll? : List Expr → Option Nat
  | [] => some 0
  | part :: parts => do return (← leastLength? part) + (← leastLengthOfAll? parts)

/-- The least of the least lengths, if there is one for each branch. -/
def leastLengthOfAny? : List Expr → Option Nat
  | [] => none
  | [branch] => leastLength? branch
  | branch :: branches => do return min (← leastLength? branch) (← leastLengthOfAny? branches)

end

mutual

/-- The greatest number of bytes that a match takes, if there is a bound. -/
def greatestLength? : Expr → Option Nat
  | .empty => some 0
  | .literal text => some (text.foldl (fun sum c => sum + c.utf8Size) 0)
  | .set members => (setLengths? members).map Prod.snd
  | .look _ => some 0
  | .repetition _ most? _ operand => do return (← greatestLength? operand) * (← most?)
  | .capture _ _ content => greatestLength? content
  | .sequence parts => greatestLengthOfAll? parts
  | .alternatives branches => greatestLengthOfAny? branches

def greatestLengthOfAll? : List Expr → Option Nat
  | [] => some 0
  | part :: parts => do return (← greatestLength? part) + (← greatestLengthOfAll? parts)

/-- The greatest of the greatest lengths, if there is one for each branch. -/
def greatestLengthOfAny? : List Expr → Option Nat
  | [] => none
  | [branch] => greatestLength? branch
  | branch :: branches => do
      return max (← greatestLength? branch) (← greatestLengthOfAny? branches)

end

/-- The expression of a set: a set of one character is a literal. -/
def ofSet (members : CodeSet) : Expr :=
  match members.onlyMember? with
  | some c => .literal [c]
  | none => .set members

/-- Repeat an expression. Where it can match nothing but the empty text, once is enough. -/
def repeated (least : Nat) (most? : Option Nat) (greedy : Bool) (operand : Expr) : Expr :=
  let onlyEmpty := greatestLength? operand = some 0
  let least := if onlyEmpty then min least 1 else least
  let most? := if onlyEmpty then some ((most?.map (min · 1)).getD 1) else most?
  if least = 0 ∧ most? = some 0 then .empty
  else if least = 1 ∧ most? = some 1 then operand
  else .repetition least most? greedy operand

/-- Put a part in front of parts that are already flat, joining literals. -/
def consPart (part : Expr) (parts : List Expr) : List Expr :=
  match part, parts with
  | .empty, _ => parts
  | .literal text, .literal text' :: rest => .literal (text ++ text') :: rest
  | _, _ => part :: parts

/-- The parts of a sequence, or the expression itself. -/
def partsOf : Expr → List Expr
  | .sequence inner => inner
  | part => [part]

/-- Flatten the parts of a sequence by one level and join neighbouring literals. -/
def flatParts (parts : List Expr) : List Expr :=
  (parts.flatMap partsOf).foldr consPart []

def sequenceOf (parts : List Expr) : Expr :=
  match flatParts parts with
  | [] => .empty
  | [part] => part
  | flat => .sequence flat

/-- The set of a literal of one character. -/
def charSet? : Expr → Option CodeSet
  | .literal [c] => some (CodeSet.singleton c)
  | _ => none

def members? : Expr → Option CodeSet
  | .set members => some members
  | _ => none

def parts? : Expr → Option (List Expr)
  | .sequence parts => some parts
  | _ => none

/-- The sets of branches that are all single characters, or all sets. -/
def branchSets? (branches : List Expr) : Option (List CodeSet) :=
  (branches.mapM charSet?).or (branches.mapM members?)

/-- The parts of branches that are all sequences. -/
def branchParts? (branches : List Expr) : Option (List (List Expr)) :=
  branches.mapM parts?

/-- The branches of alternatives, or the expression itself. -/
def branchesOf : Expr → List Expr
  | .alternatives inner => inner
  | branch => [branch]

/-- The longest common beginning of two lists of expressions. -/
def commonStart : List Expr → List Expr → List Expr
  | first :: rest, first' :: rest' =>
      if same first first' then first :: commonStart rest rest' else []
  | _, _ => []

/-- Match one of some expressions. Each round takes a common beginning out of the branches, and
the first number bounds the rounds. -/
def alternativesWithin : Nat → List Expr → Expr
  | 0, branches => .alternatives branches
  | rounds + 1, branches =>
      match branches.flatMap branchesOf with
      | [] => .set CodeSet.empty
      | [branch] => branch
      | flat => match branchSets? flat with
        | some sets => ofSet (CodeSet.ofIntervals (sets.flatMap CodeSet.ranges))
        | none => match branchParts? flat with
          | none => .alternatives flat
          | some [] => .alternatives flat
          | some (parts :: others) =>
              let start := others.foldl commonStart parts
              if start.isEmpty then .alternatives flat
              else
                let rests := (parts :: others).map fun parts =>
                  sequenceOf (parts.drop start.length)
                sequenceOf (start ++ [alternativesWithin rounds rests])

mutual

def nodes : Expr → Nat
  | .repetition _ _ _ operand => nodes operand + 1
  | .capture _ _ content => nodes content + 1
  | .sequence parts => nodesOfAll parts + 1
  | .alternatives branches => nodesOfAll branches + 1
  | _ => 1

def nodesOfAll : List Expr → Nat
  | [] => 0
  | part :: parts => nodes part + nodesOfAll parts

end

def alternativesOf (branches : List Expr) : Expr :=
  alternativesWithin (nodesOfAll branches + 1) branches

end Expr

end HostHome.Regex
