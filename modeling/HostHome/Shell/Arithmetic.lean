import HostHome.Text.Utf8

/-!
# Sums of a shell

Evaluate sums, products and comparisons of whole numbers and variables.
-/

namespace HostHome.Shell

/-- What a sum is cut into. -/
inductive Summand where
  | number (value : Int)
  | name (name : List Char)
  | sign (sign : List Char)
  deriving DecidableEq, Repr

def digitsValue (digits : List Char) : Nat :=
  digits.foldl (fun value digit => value * 10 + (digit.toNat - '0'.toNat)) 0

def doubleSigns : List (List Char) :=
  [['=', '='], ['!', '='], ['<', '='], ['>', '='], ['&', '&'], ['|', '|']]

/-- Cut a sum into its parts. The fuel bounds their number. -/
def summandsFrom (fuel : Nat) (text : List Char) : List Summand :=
  match fuel, text with
  | 0, _ => []
  | _, [] => []
  | fuel + 1, c :: rest =>
      if c = ' ' ∨ c = '\t' ∨ c = '\n' ∨ c = '$' then summandsFrom fuel rest
      else if c.isDigit then
        .number (digitsValue (text.takeWhile Char.isDigit))
          :: summandsFrom fuel (text.dropWhile Char.isDigit)
      else if c.isAlpha ∨ c = '_' then
        let isNameChar := fun c : Char => c.isAlphanum || c = '_'
        .name (text.takeWhile isNameChar) :: summandsFrom fuel (text.dropWhile isNameChar)
      else if text.take 2 ∈ doubleSigns then .sign (text.take 2) :: summandsFrom fuel (text.drop 2)
      else .sign [c] :: summandsFrom fuel rest

/-- How tightly a sign binds what stands on its sides. -/
def bindingOf (sign : List Char) : Option Nat :=
  if sign ∈ [['*'], ['/'], ['%']] then some 5
  else if sign ∈ [['+'], ['-']] then some 4
  else if sign ∈ [['<'], ['>'], ['<', '='], ['>', '=']] then some 3
  else if sign ∈ [['=', '='], ['!', '=']] then some 2
  else if sign = ['&', '&'] then some 1
  else if sign = ['|', '|'] then some 0
  else none

def truth (holds : Bool) : Int := if holds then 1 else 0

/-- Apply a sign to two numbers. Division by zero has no value. -/
def applySign (sign : List Char) (left right : Int) : Option Int :=
  match sign with
  | ['*'] => some (left * right)
  | ['/'] => if right = 0 then none else some (left.tdiv right)
  | ['%'] => if right = 0 then none else some (left.tmod right)
  | ['+'] => some (left + right)
  | ['-'] => some (left - right)
  | ['<'] => some (truth (left < right))
  | ['>'] => some (truth (right < left))
  | ['<', '='] => some (truth (left ≤ right))
  | ['>', '='] => some (truth (right ≤ left))
  | ['=', '='] => some (truth (left = right))
  | ['!', '='] => some (truth (left ≠ right))
  | ['&', '&'] => some (truth (left ≠ 0 && right ≠ 0))
  | ['|', '|'] => some (truth (left ≠ 0 || right ≠ 0))
  | _ => none

mutual

def evaluatePart (valueOf : List Char → Int) (fuel : Nat) (summands : List Summand) :
    Option (Int × List Summand) :=
  match fuel with
  | 0 => none
  | fuel + 1 =>
      match summands with
      | .number value :: rest => some (value, rest)
      | .name name :: rest => some (valueOf name, rest)
      | .sign ['-'] :: rest =>
          (evaluatePart valueOf fuel rest).map fun (value, after) => (-value, after)
      | .sign ['+'] :: rest => evaluatePart valueOf fuel rest
      | .sign ['!'] :: rest =>
          (evaluatePart valueOf fuel rest).map fun (value, after) => (truth (value = 0), after)
      | .sign ['('] :: rest =>
          match evaluateFrom valueOf fuel 0 rest with
          | some (value, .sign [')'] :: after) => some (value, after)
          | _ => none
      | _ => none

/-- Evaluate a sum whose signs bind at least as tightly as given. -/
def evaluateFrom (valueOf : List Char → Int) (fuel binding : Nat) (summands : List Summand) :
    Option (Int × List Summand) :=
  match fuel with
  | 0 => none
  | fuel + 1 => do
      let (left, rest) ← evaluatePart valueOf fuel summands
      evaluateRight valueOf fuel binding left rest

/-- Go on with a sum whose left side is known. -/
def evaluateRight (valueOf : List Char → Int) (fuel binding : Nat) (left : Int)
    (summands : List Summand) : Option (Int × List Summand) :=
  match fuel with
  | 0 => none
  | fuel + 1 =>
      match summands with
      | .sign sign :: rest =>
          match bindingOf sign with
          | some own =>
              if own < binding then some (left, summands)
              else do
                let (right, after) ← evaluateFrom valueOf fuel (own + 1) rest
                let value ← applySign sign left right
                evaluateRight valueOf fuel binding value after
          | none => some (left, summands)
      | _ => some (left, summands)

end

def evaluateSum (valueOf : List Char → Int) (text : List Char) : Option Int :=
  let summands := summandsFrom (text.length + 1) text
  match evaluateFrom valueOf (4 * summands.length + 4) 0 summands with
  | some (value, []) => some value
  | _ => none

/-- A whole number, with or without a sign. -/
def numberOf? (text : List Char) : Option Int :=
  let digitsOf (digits : List Char) : Option Int :=
    if digits ≠ [] ∧ digits.all Char.isDigit then some (digitsValue digits) else none
  match text with
  | '-' :: digits => (digitsOf digits).map fun value => -value
  | '+' :: digits => digitsOf digits
  | digits => digitsOf digits

end HostHome.Shell
