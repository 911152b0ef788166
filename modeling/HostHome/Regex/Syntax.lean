/-!
# The structure of patterns

A pattern as it is written: groups, alternatives, repetitions and character
classes, with every escape sequence resolved to what it stands for but with
flags still in place.
-/

namespace HostHome.Regex

/-- A character of a pattern. An escape of two hexadecimal digits stands for a byte where
Unicode is switched off, which is why it is marked. -/
structure Literal where
  char : Char
  isByteEscape : Bool := false
  deriving DecidableEq, Repr

/-- The classes written with one letter. -/
inductive LetterClass where
  | digit
  | space
  | word
  deriving DecidableEq, Repr

/-- The classes written with a name between colons. -/
inductive NamedClass where
  | alnum | alpha | ascii | blank | cntrl | digit | graph | lower | print | punct | space | upper
  | word | xdigit
  deriving DecidableEq, Repr

/-- A query for the characters with a Unicode property. -/
inductive PropertyQuery where
  | named (name : String)
  | withValue (name value : String)
  deriving DecidableEq, Repr

/-- How two classes are combined. -/
inductive ClassOperation where
  | intersection
  | difference
  | symmetricDifference
  deriving DecidableEq, Repr

mutual

inductive ClassItem where
  | nothing
  | literal (literal : Literal)
  | range (low high : Literal)
  | named (negated : Bool) (name : NamedClass)
  | property (negated : Bool) (query : PropertyQuery)
  | letter (negated : Bool) (letter : LetterClass)
  | bracketed (negated : Bool) (members : ClassMembers)
  | union (items : List ClassItem)

inductive ClassMembers where
  | item (item : ClassItem)
  | operation (operation : ClassOperation) (left right : ClassMembers)

end

/-- Items side by side. -/
def ClassItem.ofList : List ClassItem → ClassItem
  | [] => .nothing
  | [item] => item
  | items => .union items

/-- The switches that a pattern can set for the rest of a group. -/
inductive Flag where
  | ignoreCase
  | multiLine
  | dotMatchesLineEnd
  | swapGreed
  | unicode
  | carriageReturns
  | ignoreBlanks
  deriving DecidableEq, Repr

/-- Switches with their new positions. -/
abbrev FlagChanges := List (Flag × Bool)

/-- The places at which an assertion can hold. -/
inductive Assertion where
  | lineStart | lineEnd
  | textStart | textEnd
  | wordBoundary | notWordBoundary
  | wordStart | wordEnd
  | wordStartHalf | wordEndHalf
  deriving DecidableEq, Repr

/-- What a pair of parentheses is for. -/
inductive GroupKind where
  | capturing (index : Nat) (name? : Option String)
  | plain (flags : FlagChanges)
  deriving DecidableEq, Repr

/-- A pattern as it is written. -/
inductive Syntax where
  | nothing
  | flags (changes : FlagChanges)
  | literal (literal : Literal)
  | anyChar
  | assertion (assertion : Assertion)
  | letterClass (negated : Bool) (letter : LetterClass)
  | propertyClass (negated : Bool) (query : PropertyQuery)
  | bracketed (negated : Bool) (members : ClassMembers)
  | repetition (least : Nat) (most? : Option Nat) (greedy : Bool) (operand : Syntax)
  | group (kind : GroupKind) (content : Syntax)
  | alternatives (branches : List Syntax)
  | sequence (parts : List Syntax)

namespace Syntax

/-- Parts one after another. -/
def ofParts : List Syntax → Syntax
  | [] => .nothing
  | [part] => part
  | parts => .sequence parts

end Syntax

mutual

/-- The number of classes and unions around the innermost item. -/
def ClassItem.depth : ClassItem → Nat
  | .bracketed _ members => members.depth + 1
  | .union items => ClassItem.depthOfList items + 1
  | _ => 0

def ClassItem.depthOfList : List ClassItem → Nat
  | [] => 0
  | item :: items => max item.depth (ClassItem.depthOfList items)

/-- The number of classes, unions and operations around the innermost item. -/
def ClassMembers.depth : ClassMembers → Nat
  | .item item => item.depth
  | .operation _ left right => max left.depth right.depth + 1

end

mutual

/-- The number of compound patterns around the innermost simple one. -/
def Syntax.depth : Syntax → Nat
  | .bracketed _ members => members.depth + 1
  | .repetition _ _ _ operand => operand.depth + 1
  | .group _ content => content.depth + 1
  | .alternatives branches => Syntax.depthOfList branches + 1
  | .sequence parts => Syntax.depthOfList parts + 1
  | _ => 0

def Syntax.depthOfList : List Syntax → Nat
  | [] => 0
  | part :: parts => max part.depth (Syntax.depthOfList parts)

end

end HostHome.Regex
