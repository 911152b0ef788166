import HostHome.Regex.Error
import HostHome.Regex.Syntax
import HostHome.Regex.Expr
import HostHome.Unicode.Classes
import HostHome.Unicode.CaseFolding

/-!
# Working in the switches

Turn a pattern as it is written into an expression. A switch holds for the rest
of its group, across the branches that follow. Where Unicode is switched off, a
class is a set of bytes, and a class that holds other than ASCII bytes is
refused because texts are always valid.
-/

namespace HostHome.Regex

open HostHome.Unicode (CodeSet)

/-- The positions of the switches. -/
structure Switches where
  ignoreCase : Bool := false
  multiLine : Bool := false
  dotMatchesLineEnd : Bool := false
  swapGreed : Bool := false
  unicode : Bool := true
  carriageReturns : Bool := false
  deriving DecidableEq, Repr

/-- Change one switch. Blanks have been dealt with by the reader. -/
def Switches.change (switches : Switches) : Flag × Bool → Switches
  | (.ignoreCase, on) => { switches with ignoreCase := on }
  | (.multiLine, on) => { switches with multiLine := on }
  | (.dotMatchesLineEnd, on) => { switches with dotMatchesLineEnd := on }
  | (.swapGreed, on) => { switches with swapGreed := on }
  | (.unicode, on) => { switches with unicode := on }
  | (.carriageReturns, on) => { switches with carriageReturns := on }
  | (.ignoreBlanks, _) => switches

def Switches.changeAll (switches : Switches) (changes : FlagChanges) : Switches :=
  changes.foldl Switches.change switches

def NamedClass.set (name : NamedClass) : CodeSet :=
  CodeSet.ofText <| match name with
  | .alnum => "30-39 41-5A 61-7A"
  | .alpha => "41-5A 61-7A"
  | .ascii => "0-7F"
  | .blank => "9 20"
  | .cntrl => "0-1F 7F"
  | .digit => "30-39"
  | .graph => "21-7E"
  | .lower => "61-7A"
  | .print => "20-7E"
  | .punct => "21-2F 3A-40 5B-60 7B-7E"
  | .space => "9-D 20"
  | .upper => "41-5A"
  | .word => "30-39 41-5A 5F 61-7A"
  | .xdigit => "30-39 41-46 61-66"

def allBytes : CodeSet := ⟨[(0, 0xFF)]⟩

namespace Switches

/-- The members of the universe that are not in a set. -/
def negate (switches : Switches) (members : CodeSet) : CodeSet :=
  if switches.unicode then members.complement else members.complement.inter allBytes

def negateIf (switches : Switches) (negated : Bool) (members : CodeSet) : CodeSet :=
  if negated then switches.negate members else members

/-- The ASCII letters that are the other case of a member. -/
def asciiCaseVariants (members : CodeSet) : CodeSet :=
  CodeSet.ofIntervals ((List.range 26).flatMap fun letter =>
    let upper := 0x41 + letter
    let lower := 0x61 + letter
    if members.contains (Char.ofNat upper) || members.contains (Char.ofNat lower) then
      [(upper, upper), (lower, lower)]
    else [])

/-- Close a set under equality without case, where case does not count. -/
def fold (switches : Switches) (members : CodeSet) : CodeSet :=
  if !switches.ignoreCase then members
  else if switches.unicode then members.closeUnderCase
  else members.union (asciiCaseVariants members)

/-- Refuse a set of bytes that are not characters by themselves. -/
def requireText (switches : Switches) (members : CodeSet) : Except Fault CodeSet :=
  if switches.unicode || members.isAscii then .ok members else .error .matchesInvalidText

/-- The set of a class written with one letter. -/
def letterSet (switches : Switches) (negated : Bool) (letter : LetterClass) :
    Except Fault CodeSet :=
  let members :=
    if switches.unicode then
      match letter with
      | .digit => Unicode.digitSet
      | .space => Unicode.spaceSet
      | .word => Unicode.wordSet
    else
      match letter with
      | .digit => NamedClass.digit.set
      | .space => NamedClass.space.set
      | .word => NamedClass.word.set
  switches.requireText (switches.negateIf negated members)

/-- The set of the characters with a property. -/
def propertySet (switches : Switches) (negated : Bool) (query : PropertyQuery) :
    Except Fault CodeSet :=
  if !switches.unicode then .error .unicodeForbidden
  else
    let found := match query with
      | .named name => Unicode.setNamed name
      | .withValue name value => Unicode.setWithValue name value
    match found with
    | .ok members => .ok (switches.negateIf negated (switches.fold members))
    | .error .unknownProperty => .error .unknownProperty
    | .error .unknownValue => .error .unknownPropertyValue

/-- The character that a literal of a class stands for. -/
def classChar (switches : Switches) (literal : Literal) : Except Fault Char :=
  if switches.unicode || literal.char.toNat ≤ 0x7F then .ok literal.char
  else if literal.isByteEscape then .error .matchesInvalidText
  else .error .unicodeForbidden

mutual

def itemSet (switches : Switches) : ClassItem → Except Fault CodeSet
  | .nothing => .ok CodeSet.empty
  | .literal c => do return CodeSet.singleton (← switches.classChar c)
  | .range low high => do
      return CodeSet.between (← switches.classChar low) (← switches.classChar high)
  | .named negated name => .ok (switches.negateIf negated name.set)
  | .property negated query => switches.propertySet negated query
  | .letter negated letter => switches.letterSet negated letter
  | .bracketed negated members => do
      let set ← switches.membersSet members
      switches.requireText (switches.negateIf negated (switches.fold set))
  | .union items => switches.itemsSet items

def itemsSet (switches : Switches) : List ClassItem → Except Fault CodeSet
  | [] => .ok CodeSet.empty
  | item :: items => do
      let set ← switches.itemSet item
      return set.union (← switches.itemsSet items)

def membersSet (switches : Switches) : ClassMembers → Except Fault CodeSet
  | .item item => switches.itemSet item
  | .operation operation left right => do
      let left := switches.fold (← switches.membersSet left)
      let right := switches.fold (← switches.membersSet right)
      return match operation with
        | .intersection => left.inter right
        | .difference => left.diff right
        | .symmetricDifference => left.symmetricDiff right

end

/-- The expression of a character, which matches its other case too where case does not count. -/
def literalExpr (switches : Switches) (literal : Literal) : Except Fault Expr :=
  let c := literal.char
  if !switches.unicode && literal.isByteEscape && 0x7F < c.toNat then .error .matchesInvalidText
  else if !switches.ignoreCase then .ok (.literal [c])
  else if switches.unicode then
    .ok (if Unicode.hasCaseVariants c then
      Expr.ofSet (CodeSet.singleton c).closeUnderCase else .literal [c])
  else .ok (if c.isAlpha then Expr.ofSet (switches.fold (CodeSet.singleton c)) else .literal [c])

/-- The expression of the dot. -/
def anyCharExpr (switches : Switches) : Except Fault Expr :=
  if !switches.unicode then .error .matchesInvalidText
  else if switches.dotMatchesLineEnd then .ok (.set CodeSet.full)
  else if switches.carriageReturns then
    .ok (.set (CodeSet.ofCodePoints [(0xA, 0xA), (0xD, 0xD)]).complement)
  else .ok (.set (CodeSet.singleton '\n').complement)

def lookOf (switches : Switches) : Assertion → Look
  | .lineStart =>
      if !switches.multiLine then .textStart
      else if switches.carriageReturns then .crlfLineStart else .lineStart
  | .lineEnd =>
      if !switches.multiLine then .textEnd
      else if switches.carriageReturns then .crlfLineEnd else .lineEnd
  | .textStart => .textStart
  | .textEnd => .textEnd
  | .wordBoundary => .word switches.unicode .boundary
  | .notWordBoundary => .word switches.unicode .inside
  | .wordStart => .word switches.unicode .start
  | .wordEnd => .word switches.unicode .stop
  | .wordStartHalf => .word switches.unicode .startHalf
  | .wordEndHalf => .word switches.unicode .stopHalf

end Switches

mutual

/-- The expression of a pattern, and the switches after it. -/
def Syntax.toExpr (switches : Switches) : Syntax → Except Fault (Expr × Switches)
  | .nothing => .ok (.empty, switches)
  | .flags changes => .ok (.empty, switches.changeAll changes)
  | .literal c => do return (← switches.literalExpr c, switches)
  | .anyChar => do return (← switches.anyCharExpr, switches)
  | .assertion place => .ok (.look (switches.lookOf place), switches)
  | .letterClass negated letter => do
      return (Expr.ofSet (← switches.letterSet negated letter), switches)
  | .propertyClass negated query => do
      return (Expr.ofSet (← switches.propertySet negated query), switches)
  | .bracketed negated members => do
      return (Expr.ofSet (← switches.itemSet (.bracketed negated members)), switches)
  | .repetition least most? greedy operand => do
      let (expr, after) ← operand.toExpr switches
      return (Expr.repeated least most? (greedy != after.swapGreed) expr, after)
  | .group kind content => do
      match kind with
      | .plain changes =>
          let (expr, _) ← content.toExpr (switches.changeAll changes)
          return (expr, switches)
      | .capturing index name? =>
          let (expr, _) ← content.toExpr switches
          return (.capture index name? expr, switches)
  | .alternatives branches => do
      let (exprs, after) ← Syntax.toExprs switches branches
      return (Expr.alternativesOf exprs, after)
  | .sequence parts => do
      let (exprs, after) ← Syntax.toExprs switches parts
      return (Expr.sequenceOf exprs, after)

def Syntax.toExprs (switches : Switches) : List Syntax → Except Fault (List Expr × Switches)
  | [] => .ok ([], switches)
  | part :: parts => do
      let (expr, after) ← part.toExpr switches
      let (exprs, last) ← Syntax.toExprs after parts
      return (expr :: exprs, last)

end

end HostHome.Regex
