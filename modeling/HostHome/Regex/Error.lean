/-!
# Faults of patterns

The ways in which a text fails to be a usable pattern. The wording of every
fault is fixed in one place, `Fault.message`.
-/

namespace HostHome.Regex

/-- Why a text is not a usable pattern. -/
inductive Fault where
  | unclosedGroup
  | unopenedGroup
  | unclosedClass
  | classEscape
  | reversedRange
  | rangeBoundary
  | danglingRepetition
  | unclosedCount
  | emptyCount
  | numberTooLarge
  | reversedCounts
  | unfinishedEscape
  | unknownEscape
  | backreference
  | emptyHex
  | hexDigit
  | hexNotScalar
  | propertyEscape
  | unknownProperty
  | unknownPropertyValue
  | unfinishedFlags
  | unknownFlag
  | duplicateFlag
  | repeatedNegation
  | danglingNegation
  | lookAround
  | unclosedName
  | emptyName
  | nameCharacter
  | duplicateName
  | unfinishedBoundary
  | unclosedBoundary
  | unknownBoundary
  | nestedTooDeeply
  | unicodeForbidden
  | matchesInvalidText
  | tooLarge
  deriving DecidableEq, Repr

/-- The depth to which groups, classes, repetitions and sequences may be nested. -/
def nestingLimit : Nat := 250

/-- The number of bytes that the automaton of a pattern may take. -/
def sizeLimit : Nat := 10485760

def Fault.description : Fault → String
  | unclosedGroup => "unclosed group"
  | unopenedGroup => "unopened group"
  | unclosedClass => "unclosed character class"
  | classEscape => "invalid escape sequence found in character class"
  | reversedRange => "invalid character class range, the start must be <= the end"
  | rangeBoundary => "invalid range boundary, must be a literal"
  | danglingRepetition => "repetition operator missing expression"
  | unclosedCount => "unclosed counted repetition"
  | emptyCount => "repetition quantifier expects a valid decimal"
  | numberTooLarge => "decimal literal invalid"
  | reversedCounts => "invalid repetition count range, the start must be <= the end"
  | unfinishedEscape => "incomplete escape sequence, reached end of pattern prematurely"
  | unknownEscape => "unrecognized escape sequence"
  | backreference => "backreferences are not supported"
  | emptyHex => "hexadecimal literal empty"
  | hexDigit => "invalid hexadecimal digit"
  | hexNotScalar => "hexadecimal literal is not a Unicode scalar value"
  | propertyEscape => "invalid Unicode character class"
  | unknownProperty => "Unicode property not found"
  | unknownPropertyValue => "Unicode property value not found"
  | unfinishedFlags => "expected flag but got end of regex"
  | unknownFlag => "unrecognized flag"
  | duplicateFlag => "duplicate flag"
  | repeatedNegation => "flag negation operator repeated"
  | danglingNegation => "dangling flag negation operator"
  | lookAround => "look-around, including look-ahead and look-behind, is not supported"
  | unclosedName => "unclosed capture group name"
  | emptyName => "empty capture group name"
  | nameCharacter => "invalid capture group character"
  | duplicateName => "duplicate capture group name"
  | unfinishedBoundary =>
      "found either the beginning of a special word boundary or a bounded repetition on a "
        ++ "\\b with an opening brace, but no closing brace"
  | unclosedBoundary =>
      "special word boundary assertion is either unclosed or contains an invalid character"
  | unknownBoundary =>
      "unrecognized special word boundary assertion, valid choices are: "
        ++ "start, end, start-half or end-half"
  | nestedTooDeeply =>
      "exceed the maximum number of nested parentheses/brackets (" ++ toString nestingLimit ++ ")"
  | unicodeForbidden => "Unicode not allowed here"
  | matchesInvalidText => "pattern can match invalid UTF-8"
  | tooLarge => "Compiled regex exceeds size limit of " ++ toString sizeLimit ++ " bytes."

/-- The line that reports the fault. Faults of the text are marked as errors, a pattern that is
merely too large is not. -/
def Fault.message (fault : Fault) : String :=
  match fault with
  | tooLarge => fault.description
  | _ => "error: " ++ fault.description

end HostHome.Regex
