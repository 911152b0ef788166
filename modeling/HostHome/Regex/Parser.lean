import HostHome.Regex.Error
import HostHome.Regex.Syntax
import HostHome.Unicode.Classes

/-!
# Reading patterns

Read the structure of a pattern from its text. The reader goes through the text
once, from left to right, and reports the first fault it meets. Open groups and
open classes wait on stacks.
-/

namespace HostHome.Regex

open HostHome.Unicode (isBlank)

/-- Skip a comment, including the line end that closes it. -/
def skipComment : List Char → List Char
  | [] => []
  | c :: rest => if c = '\n' then rest else skipComment rest

theorem length_skipComment_le (text : List Char) :
    (skipComment text).length ≤ text.length := by
  induction text with
  | nil => simp [skipComment]
  | cons c rest ih =>
      unfold skipComment
      split
      · simp
      · simp; omega

/-- Skip blanks and comments, where the pattern says that they do not count. -/
def skipBlanks (ignoreBlanks : Bool) : List Char → List Char
  | [] => []
  | c :: rest =>
      if ignoreBlanks then
        if isBlank c then skipBlanks ignoreBlanks rest
        else if c = '#' then skipBlanks ignoreBlanks (skipComment rest)
        else c :: rest
      else c :: rest
termination_by text => text.length
decreasing_by
  · simp
  · have := length_skipComment_le rest
    simp; omega

theorem length_skipBlanks_le (ignoreBlanks : Bool) (text : List Char) :
    (skipBlanks ignoreBlanks text).length ≤ text.length := by
  fun_induction skipBlanks ignoreBlanks text with
  | case1 => simp
  | case2 c rest _ _ ih => simp; omega
  | case3 rest _ _ ih =>
      have := length_skipComment_le rest
      simp; omega
  | case4 => simp
  | case5 => simp

/-- Look past the current character for the next one that counts. A comment is entered but not
left: its first character counts. -/
def peekPastBlanks (inComment : Bool) : List Char → Option Char
  | [] => none
  | c :: rest =>
      if isBlank c then peekPastBlanks inComment rest
      else if !inComment && c = '#' then peekPastBlanks true rest
      else some c

/-- The character after the current one, past blanks where they do not count. -/
def peekAfter (ignoreBlanks : Bool) (rest : List Char) : Option Char :=
  if ignoreBlanks then (peekPastBlanks false rest).or rest.head? else rest.head?

def stripStart? : List Char → List Char → Option (List Char)
  | [], text => some text
  | _ :: _, [] => none
  | expected :: pattern, c :: text => if expected = c then stripStart? pattern text else none

/-- What a simple piece of a pattern stands for. -/
inductive Piece where
  | literal (literal : Literal)
  | anyChar
  | assertion (assertion : Assertion)
  | letterClass (negated : Bool) (letter : LetterClass)
  | propertyClass (negated : Bool) (query : PropertyQuery)

/-- The characters with a meaning of their own in patterns. -/
def isMeta (c : Char) : Bool :=
  "\\.+*?()|[]\x7b\x7d^$#&-~".toList.contains c

/-- The characters that a backslash makes literal. -/
def isEscapable (c : Char) : Bool :=
  isMeta c || (c.toNat < 0x80 && !c.isAlphanum && c != '<' && c != '>')

def isHexDigit (c : Char) : Bool :=
  c.isDigit || ('a' ≤ c && c ≤ 'f') || ('A' ≤ c && c ≤ 'F')

def hexValue (digits : List Char) : Nat :=
  digits.foldl (fun value c => value * 16 + HostHome.Unicode.CodeSet.hexDigit c.toUpper) 0

/-- The character with a hexadecimal code point. -/
def scalarOfHex? (digits : List Char) : Option Char :=
  let code := hexValue digits
  if code.isValidChar then some (Char.ofNat code) else none

/-- Read a fixed number of hexadecimal digits, the reader standing on the first one. -/
def readHexDigits (ignoreBlanks : Bool) : Nat → List Char → List Char → Except Fault (List Char × List Char)
  | 0, digits, rest => .ok (digits, rest)
  | _ + 1, _, [] => .error .unfinishedEscape
  | count + 1, digits, c :: rest =>
      if isHexDigit c then
        readHexDigits ignoreBlanks count (digits ++ [c]) (skipBlanks ignoreBlanks rest)
      else .error .hexDigit

/-- Read hexadecimal digits up to a closing brace. -/
def readBracedHex (ignoreBlanks : Bool) (digits : List Char) : List Char → Except Fault (List Char × List Char)
  | [] => .error .unfinishedEscape
  | c :: rest =>
      if c = '\x7d' then .ok (digits, skipBlanks ignoreBlanks rest)
      else if isHexDigit c then
        readBracedHex ignoreBlanks (digits ++ [c]) (skipBlanks ignoreBlanks rest)
      else .error .hexDigit
termination_by text => text.length
decreasing_by
  have := length_skipBlanks_le ignoreBlanks rest
  simp; omega

/-- Read a character written by its code point, the reader standing after the letter x, u or U. -/
def readHex (ignoreBlanks : Bool) (width : Nat) (rest : List Char) : Except Fault (Literal × List Char) :=
  match skipBlanks ignoreBlanks rest with
  | [] => .error .unfinishedEscape
  | c :: rest' =>
      if c = '\x7b' then do
        let (digits, after) ← readBracedHex ignoreBlanks [] (skipBlanks ignoreBlanks rest')
        if digits.isEmpty then .error .emptyHex
        else match scalarOfHex? digits with
          | some char => .ok (⟨char, false⟩, after)
          | none => .error .hexNotScalar
      else do
        let (digits, after) ← readHexDigits ignoreBlanks width [] (c :: rest')
        match scalarOfHex? digits with
        | some char => .ok (⟨char, width = 2⟩, after)
        | none => .error .hexNotScalar

/-- Read a property query up to its closing brace. -/
def readBracedQuery (ignoreBlanks : Bool) (name : List Char) : List Char → Except Fault (List Char × List Char)
  | [] => .error .unfinishedEscape
  | c :: rest =>
      if c = '\x7d' then .ok (name, rest)
      else readBracedQuery ignoreBlanks (name ++ [c]) (skipBlanks ignoreBlanks rest)
termination_by text => text.length
decreasing_by
  have := length_skipBlanks_le ignoreBlanks rest
  simp; omega

/-- Split a query at its first separator, if it has one. -/
def splitQuery (separator : List Char) (before : List Char) :
    List Char → Option (List Char × List Char)
  | [] => none
  | c :: rest =>
      match stripStart? separator (c :: rest) with
      | some after => some (before, after)
      | none => splitQuery separator (before ++ [c]) rest

/-- The query with the given text between its braces. -/
def queryOfName (name : List Char) : PropertyQuery :=
  match (splitQuery ['!', '='] [] name).or
      ((splitQuery [':'] [] name).or (splitQuery ['='] [] name)) with
  | some (property, value) => .withValue (String.ofList property) (String.ofList value)
  | none => .named (String.ofList name)

/-- Read a property query, the reader standing after the letter p or P. -/
def readQuery (ignoreBlanks : Bool) (rest : List Char) : Except Fault (PropertyQuery × List Char) :=
  match skipBlanks ignoreBlanks rest with
  | [] => .error .unfinishedEscape
  | c :: rest' =>
      if c = '\x7b' then do
        let (name, after) ← readBracedQuery ignoreBlanks [] (skipBlanks ignoreBlanks rest')
        .ok (queryOfName name, after)
      else if c = '\\' then .error .propertyEscape
      else .ok (.named (String.singleton c), skipBlanks ignoreBlanks rest')

/-- Collect the letters of the name of a word boundary. -/
def readBoundaryName (ignoreBlanks : Bool) (name : List Char) :
    List Char → List Char × List Char
  | [] => (name, [])
  | c :: rest =>
      if c.isAlpha || c = '-' then
        readBoundaryName ignoreBlanks (name ++ [c]) (skipBlanks ignoreBlanks rest)
      else (name, c :: rest)
termination_by text => text.length
decreasing_by
  have := length_skipBlanks_le ignoreBlanks rest
  simp; omega

/-- Read what follows an escaped b: the name of a special boundary in braces, if there is one. -/
def readBoundary (ignoreBlanks : Bool) (rest : List Char) : Except Fault (Assertion × List Char) :=
  match rest with
  | '\x7b' :: inner =>
      match skipBlanks ignoreBlanks inner with
      | [] => .error .unfinishedBoundary
      | c :: _ =>
          if c.isAlpha || c = '-' then
            match readBoundaryName ignoreBlanks [] (skipBlanks ignoreBlanks inner) with
            | (name, '\x7d' :: after) =>
                if name = "start".toList then .ok (.wordStart, after)
                else if name = "end".toList then .ok (.wordEnd, after)
                else if name = "start-half".toList then .ok (.wordStartHalf, after)
                else if name = "end-half".toList then .ok (.wordEndHalf, after)
                else .error .unknownBoundary
            | _ => .error .unclosedBoundary
          else .ok (.wordBoundary, rest)
  | _ => .ok (.wordBoundary, rest)

def pieceOf {α : Type} (wrap : α → Piece) (reading : Except Fault (α × List Char)) :
    Except Fault (Piece × List Char) := do
  let (value, rest) ← reading
  return (wrap value, rest)

/-- Read an escape sequence, the reader standing after the backslash. -/
def readEscape (ignoreBlanks : Bool) : List Char → Except Fault (Piece × List Char)
  | [] => .error .unfinishedEscape
  | c :: rest =>
      if c.isDigit then .error .backreference
      else match c with
        | 'x' => pieceOf .literal (readHex ignoreBlanks 2 rest)
        | 'u' => pieceOf .literal (readHex ignoreBlanks 4 rest)
        | 'U' => pieceOf .literal (readHex ignoreBlanks 8 rest)
        | 'p' => pieceOf (.propertyClass false) (readQuery ignoreBlanks rest)
        | 'P' => pieceOf (.propertyClass true) (readQuery ignoreBlanks rest)
        | 'd' => .ok (.letterClass false .digit, rest)
        | 'D' => .ok (.letterClass true .digit, rest)
        | 's' => .ok (.letterClass false .space, rest)
        | 'S' => .ok (.letterClass true .space, rest)
        | 'w' => .ok (.letterClass false .word, rest)
        | 'W' => .ok (.letterClass true .word, rest)
        | 'a' => .ok (.literal ⟨'\x07', false⟩, rest)
        | 'f' => .ok (.literal ⟨'\x0c', false⟩, rest)
        | 't' => .ok (.literal ⟨'\t', false⟩, rest)
        | 'n' => .ok (.literal ⟨'\n', false⟩, rest)
        | 'r' => .ok (.literal ⟨'\r', false⟩, rest)
        | 'v' => .ok (.literal ⟨'\x0b', false⟩, rest)
        | 'A' => .ok (.assertion .textStart, rest)
        | 'z' => .ok (.assertion .textEnd, rest)
        | 'b' => pieceOf .assertion (readBoundary ignoreBlanks rest)
        | 'B' => .ok (.assertion .notWordBoundary, rest)
        | '<' => .ok (.assertion .wordStart, rest)
        | '>' => .ok (.assertion .wordEnd, rest)
        | _ => if isEscapable c then .ok (.literal ⟨c, false⟩, rest) else .error .unknownEscape

/-- Read a simple piece: an escape sequence, a dot, an anchor or a character. -/
def readPiece (ignoreBlanks : Bool) : List Char → Except Fault (Piece × List Char)
  | [] => .error .unfinishedEscape
  | c :: rest =>
      if c = '\\' then readEscape ignoreBlanks rest
      else if c = '.' then .ok (.anyChar, rest)
      else if c = '^' then .ok (.assertion .lineStart, rest)
      else if c = '$' then .ok (.assertion .lineEnd, rest)
      else .ok (.literal ⟨c, false⟩, rest)

def Piece.toSyntax : Piece → Syntax
  | .literal c => .literal c
  | .anyChar => .anyChar
  | .assertion place => .assertion place
  | .letterClass negated letter => .letterClass negated letter
  | .propertyClass negated query => .propertyClass negated query

def Piece.toItem : Piece → Except Fault ClassItem
  | .literal c => .ok (.literal c)
  | .letterClass negated letter => .ok (.letter negated letter)
  | .propertyClass negated query => .ok (.property negated query)
  | _ => .error .classEscape

/-- The end of a range that a piece stands for. -/
def Piece.toBoundary : Piece → Except Fault Literal
  | .literal c => .ok c
  | _ => .error .rangeBoundary

/-- Read one piece inside a class, where only the backslash is special. -/
def readClassPiece (ignoreBlanks : Bool) : List Char → Except Fault (Piece × List Char)
  | [] => .error .unclosedClass
  | c :: rest =>
      if c = '\\' then readEscape ignoreBlanks rest else .ok (.literal ⟨c, false⟩, rest)

/-- Read a class item or a range of characters. -/
def readClassRange (ignoreBlanks : Bool) (text : List Char) : Except Fault (ClassItem × List Char) := do
  let (first, rest) ← readClassPiece ignoreBlanks text
  match skipBlanks ignoreBlanks rest with
  | [] => .error .unclosedClass
  | c :: rest' =>
      let next := peekAfter ignoreBlanks rest'
      if c ≠ '-' ∨ next = some ']' ∨ next = some '-' then
        return (← first.toItem, c :: rest')
      else match skipBlanks ignoreBlanks rest' with
        | [] => .error .unclosedClass
        | upper => do
            let (second, after) ← readClassPiece ignoreBlanks upper
            let low ← first.toBoundary
            let high ← second.toBoundary
            if low.char ≤ high.char then return (.range low high, after)
            else .error .reversedRange

def NamedClass.ofName? (name : List Char) : Option NamedClass :=
  match String.ofList name with
  | "alnum" => some .alnum
  | "alpha" => some .alpha
  | "ascii" => some .ascii
  | "blank" => some .blank
  | "cntrl" => some .cntrl
  | "digit" => some .digit
  | "graph" => some .graph
  | "lower" => some .lower
  | "print" => some .print
  | "punct" => some .punct
  | "space" => some .space
  | "upper" => some .upper
  | "word" => some .word
  | "xdigit" => some .xdigit
  | _ => none

/-- Read a class such as the one of all digits by its name between colons and brackets. Any other
text is no such class. -/
def readNamedClass? : List Char → Option (ClassItem × List Char)
  | '[' :: ':' :: rest =>
      let (negated, rest) := match rest with
        | '^' :: rest' => (true, rest')
        | _ => (false, rest)
      let name := rest.takeWhile (· ≠ ':')
      match stripStart? [':', ']'] (rest.dropWhile (· ≠ ':')) with
      | some after => (NamedClass.ofName? name).map fun found => (.named negated found, after)
      | none => none
  | _ => none

/-- A class that is still open: what stood before it, or the left side of an operation. -/
inductive OpenClass where
  | nested (outer : List ClassItem) (negated : Bool)
  | operand (operation : ClassOperation) (left : ClassMembers)

/-- Complete a pending operation with its right side. -/
def closeOperation (right : ClassMembers) :
    List OpenClass → ClassMembers × List OpenClass
  | .operand operation left :: stack => (.operation operation left right, stack)
  | stack => (right, stack)

/-- Collect the hyphens at the beginning of a class. -/
def readLeadingHyphens (ignoreBlanks : Bool) (items : List ClassItem) :
    List Char → Except Fault (List ClassItem × List Char)
  | [] => .error .unclosedClass
  | c :: rest =>
      if c = '-' then
        readLeadingHyphens ignoreBlanks (items ++ [.literal ⟨'-', false⟩])
          (skipBlanks ignoreBlanks rest)
      else .ok (items, c :: rest)
termination_by text => text.length
decreasing_by
  have := length_skipBlanks_le ignoreBlanks rest
  simp; omega

/-- Read the opening of a class, the reader standing after the bracket: the negation, and the
hyphens or the closing bracket that stand for themselves there. -/
def readClassOpening (ignoreBlanks : Bool) (rest : List Char) :
    Except Fault ((Bool × List ClassItem) × List Char) := do
  let afterBracket := skipBlanks ignoreBlanks rest
  let (negated, start) := match afterBracket with
    | '^' :: rest' => (true, skipBlanks ignoreBlanks rest')
    | _ => (false, afterBracket)
  let (hyphens, after) ← readLeadingHyphens ignoreBlanks [] start
  match hyphens, after with
  | [], ']' :: rest' =>
      match skipBlanks ignoreBlanks rest' with
      | [] => .error .unclosedClass
      | body => return ((negated, [.literal ⟨']', false⟩]), body)
  | _, _ => return ((negated, hyphens), after)

/-- Read a class to its closing bracket. Each round takes at least one character, and the first
number bounds the rounds. -/
def readClassBody (ignoreBlanks : Bool) :
    Nat → List OpenClass → List ClassItem → List Char → Except Fault (Syntax × List Char)
  | 0, _, _, _ => .error .unclosedClass
  | rounds + 1, stack, items, text =>
      match skipBlanks ignoreBlanks text with
      | [] => .error .unclosedClass
      | '[' :: rest =>
          match (if stack.isEmpty then none else readNamedClass? ('[' :: rest)) with
          | some (item, after) => readClassBody ignoreBlanks rounds stack (items ++ [item]) after
          | none => do
              let ((negated, inner), after) ← readClassOpening ignoreBlanks rest
              readClassBody ignoreBlanks rounds (.nested items negated :: stack) inner after
      | ']' :: rest =>
          match closeOperation (.item (ClassItem.ofList items)) stack with
          | (members, .nested outer negated :: stack') =>
              if stack'.isEmpty then .ok (.bracketed negated members, rest)
              else readClassBody ignoreBlanks rounds stack'
                (outer ++ [.bracketed negated members]) rest
          | _ => .error .unclosedClass
      | '&' :: '&' :: rest =>
          let (left, stack') := closeOperation (.item (ClassItem.ofList items)) stack
          readClassBody ignoreBlanks rounds (.operand .intersection left :: stack') [] rest
      | '-' :: '-' :: rest =>
          let (left, stack') := closeOperation (.item (ClassItem.ofList items)) stack
          readClassBody ignoreBlanks rounds (.operand .difference left :: stack') [] rest
      | '~' :: '~' :: rest =>
          let (left, stack') := closeOperation (.item (ClassItem.ofList items)) stack
          readClassBody ignoreBlanks rounds (.operand .symmetricDifference left :: stack') [] rest
      | other => do
          let (item, after) ← readClassRange ignoreBlanks other
          readClassBody ignoreBlanks rounds stack (items ++ [item]) after

/-- Read a class, the reader standing on its opening bracket. -/
def readClass (ignoreBlanks : Bool) (text : List Char) : Except Fault (Syntax × List Char) :=
  readClassBody ignoreBlanks (text.length + 1) [] [] text

/-- The greatest number that a repetition count can be. -/
def countLimit : Nat := 4294967295

/-- Read digits, between which blanks may stand where they do not count. -/
def readDigits (ignoreBlanks : Bool) (digits : List Char) : List Char → List Char × List Char
  | [] => (digits, [])
  | c :: rest =>
      if c.isDigit then
        readDigits ignoreBlanks (digits ++ [c]) (skipBlanks ignoreBlanks rest)
      else (digits, c :: rest)
termination_by text => text.length
decreasing_by
  have := length_skipBlanks_le ignoreBlanks rest
  simp; omega

/-- Read a repetition count, with blanks around it, and the text after it. The reader goes on
past a count that is missing or too large. -/
def readCount (ignoreBlanks : Bool) (text : List Char) : Except Fault Nat × List Char :=
  let (digits, rest) := readDigits ignoreBlanks [] (text.dropWhile isBlank)
  let after := skipBlanks ignoreBlanks (rest.dropWhile isBlank)
  let value := digits.foldl (fun value c => value * 10 + (c.toNat - '0'.toNat)) 0
  if digits.isEmpty then (.error .emptyCount, after)
  else if value ≤ countLimit then (.ok value, after)
  else (.error .numberTooLarge, after)

/-- Read the bounds between braces, the reader standing after the opening brace. -/
def readBounds (ignoreBlanks : Bool) (rest : List Char) : Except Fault ((Nat × Option Nat) × List Char) := do
  match skipBlanks ignoreBlanks rest with
  | [] => .error .unclosedCount
  | inner =>
      let (least, after) := readCount ignoreBlanks inner
      match after with
      | [] => .error .unclosedCount
      | ',' :: rest' =>
          match skipBlanks ignoreBlanks rest' with
          | [] => .error .unclosedCount
          | '\x7d' :: rest'' => return ((← least, none), '\x7d' :: rest'')
          | upper => do
              let least ← least
              let (most, after) := readCount ignoreBlanks upper
              return ((least, some (← most)), after)
      | _ => do
          let count ← least
          return ((count, some count), after)

/-- Read the question mark that makes a repetition prefer few rounds. -/
def readLaziness (rest : List Char) : Bool × List Char :=
  match rest with
  | '?' :: rest' => (false, rest')
  | _ => (true, rest)

/-- Split off the operand of a repetition: the last part, if it can be repeated. -/
def takeOperand : List Syntax → Except Fault (Syntax × List Syntax)
  | [] => .error .danglingRepetition
  | .nothing :: _ => .error .danglingRepetition
  | .flags _ :: _ => .error .danglingRepetition
  | operand :: earlier => .ok (operand, earlier)

def Flag.ofLetter? : Char → Option Flag
  | 'i' => some .ignoreCase
  | 'm' => some .multiLine
  | 's' => some .dotMatchesLineEnd
  | 'U' => some .swapGreed
  | 'u' => some .unicode
  | 'R' => some .carriageReturns
  | 'x' => some .ignoreBlanks
  | _ => none

/-- Read switches up to a colon or a closing parenthesis. -/
def readFlags (changes : FlagChanges) (negated lastWasNegation : Bool) :
    List Char → Except Fault (FlagChanges × List Char)
  | [] => .error .unfinishedFlags
  | c :: rest =>
      if c = ':' ∨ c = ')' then
        if lastWasNegation then .error .danglingNegation else .ok (changes, c :: rest)
      else if c = '-' then
        if negated then .error .repeatedNegation
        else readFlags changes true true rest
      else match Flag.ofLetter? c with
        | none => .error .unknownFlag
        | some flag =>
            if changes.any fun change => change.1 = flag then .error .duplicateFlag
            else readFlags (changes ++ [(flag, !negated)]) negated false rest

/-- The characters of the name of a group. -/
def isNameChar (first : Bool) (c : Char) : Bool :=
  if first then c == '_' || HostHome.Unicode.alphabeticSet.contains c
  else c == '_' || c == '.' || c == '[' || c == ']'
    || HostHome.Unicode.alphanumericSet.contains c

/-- Read the name of a group up to the closing angle bracket. -/
def readName (name : List Char) : List Char → Except Fault (String × List Char)
  | [] => .error .unclosedName
  | c :: rest =>
      if c = '>' then
        if name.isEmpty then .error .emptyName else .ok (String.ofList name, rest)
      else if isNameChar name.isEmpty c then readName (name ++ [c]) rest
      else .error .nameCharacter

/-- The beginnings of look-around groups, after the parenthesis. -/
def isLookAround (text : List Char) : Bool :=
  [['?', '='], ['?', '!'], ['?', '<', '='], ['?', '<', '!']].any fun opening =>
    (stripStart? opening text).isSome

/-- What an opening parenthesis begins. -/
inductive Opening where
  | flags (changes : FlagChanges)
  | group (kind : GroupKind)

/-- Read the opening of a group, the reader standing after the parenthesis. The number is the
index that a capturing group gets, the names are those of earlier groups. -/
def readOpening (ignoreBlanks : Bool) (index : Nat) (names : List String) (rest : List Char) :
    Except Fault (Opening × List Char) := do
  let text := skipBlanks ignoreBlanks rest
  if isLookAround text then .error .lookAround
  else match (stripStart? ['?', 'P', '<'] text).or (stripStart? ['?', '<'] text) with
    | some named => do
        let (name, after) ← readName [] named
        if names.contains name then .error .duplicateName
        else return (.group (.capturing index (some name)), after)
    | none => match text with
        | '?' :: [] => .error .unclosedGroup
        | '?' :: inner => do
            let (changes, after) ← readFlags [] false false inner
            match after with
            | ')' :: after' =>
                if changes.isEmpty then .error .danglingRepetition
                else return (.flags changes, after')
            | _ => return (.group (.plain changes), after.drop 1)
        | _ => return (.group (.capturing index none), text)

/-- The position of a switch after some changes. -/
def flagAfter (flag : Flag) (before : Bool) (changes : FlagChanges) : Bool :=
  (changes.find? fun change => change.1 = flag).elim before Prod.snd

/-- A group or an alternative that is still open. -/
inductive OpenGroup where
  | group (earlier : List Syntax) (kind : GroupKind) (ignoreBlanks : Bool)
  | branches (finished : List Syntax)

/-- The reader between two pieces. The parts of the current branch are kept last first. -/
structure Progress where
  stack : List OpenGroup := []
  parts : List Syntax := []
  ignoreBlanks : Bool := false
  groups : Nat := 0
  names : List String := []

def Progress.nextBranch (progress : Progress) : Progress :=
  let branch := Syntax.ofParts progress.parts.reverse
  match progress.stack with
  | .branches finished :: stack =>
      { progress with stack := .branches (finished ++ [branch]) :: stack, parts := [] }
  | stack => { progress with stack := .branches [branch] :: stack, parts := [] }

/-- Begin a group, or change switches. -/
def Progress.openGroup (progress : Progress) (opening : Opening) : Progress :=
  match opening with
  | .flags changes =>
      { progress with
        parts := .flags changes :: progress.parts
        ignoreBlanks := flagAfter .ignoreBlanks progress.ignoreBlanks changes }
  | .group kind =>
      let frame := OpenGroup.group progress.parts kind progress.ignoreBlanks
      match kind with
      | .capturing _ name? =>
          { progress with
            stack := frame :: progress.stack
            parts := []
            groups := progress.groups + 1
            names := name?.toList ++ progress.names }
      | .plain changes =>
          { progress with
            stack := frame :: progress.stack
            parts := []
            ignoreBlanks := flagAfter .ignoreBlanks progress.ignoreBlanks changes }

def Progress.closeGroup (progress : Progress) : Except Fault Progress :=
  let branch := Syntax.ofParts progress.parts.reverse
  match progress.stack with
  | .group earlier kind ignoreBlanks :: stack =>
      .ok { progress with stack, ignoreBlanks, parts := .group kind branch :: earlier }
  | .branches finished :: .group earlier kind ignoreBlanks :: stack =>
      .ok { progress with
        stack, ignoreBlanks
        parts := .group kind (.alternatives (finished ++ [branch])) :: earlier }
  | _ => .error .unopenedGroup

def Progress.repeatLast (progress : Progress) (least : Nat) (most? : Option Nat) (greedy : Bool) :
    Except Fault Progress := do
  let (operand, earlier) ← takeOperand progress.parts
  return { progress with parts := .repetition least most? greedy operand :: earlier }

def Progress.finish (progress : Progress) : Except Fault Syntax :=
  let branch := Syntax.ofParts progress.parts.reverse
  match progress.stack with
  | [] => .ok branch
  | [.branches finished] => .ok (.alternatives (finished ++ [branch]))
  | _ => .error .unclosedGroup

/-- Take the next piece of the pattern. -/
def Progress.step (progress : Progress) : List Char → Except Fault (Progress × List Char)
  | [] => .ok (progress, [])
  | c :: rest => do
      match c with
      | '(' =>
          let (opening, after) ←
            readOpening progress.ignoreBlanks (progress.groups + 1) progress.names rest
          return (progress.openGroup opening, after)
      | ')' => return (← progress.closeGroup, rest)
      | '|' => return (progress.nextBranch, rest)
      | '[' =>
          let (part, after) ← readClass progress.ignoreBlanks (c :: rest)
          return ({ progress with parts := part :: progress.parts }, after)
      | '?' =>
          let (greedy, after) := readLaziness rest
          return (← progress.repeatLast 0 (some 1) greedy, after)
      | '*' =>
          let (greedy, after) := readLaziness rest
          return (← progress.repeatLast 0 none greedy, after)
      | '+' =>
          let (greedy, after) := readLaziness rest
          return (← progress.repeatLast 1 none greedy, after)
      | '\x7b' =>
          discard (takeOperand progress.parts)
          let ((least, most?), after) ← readBounds progress.ignoreBlanks rest
          match after with
          | '\x7d' :: after' =>
              let (greedy, after'') := readLaziness (skipBlanks progress.ignoreBlanks after')
              if most?.any (· < least) then .error .reversedCounts
              else return (← progress.repeatLast least most? greedy, after'')
          | _ => .error .unclosedCount
      | _ =>
          let (piece, after) ← readPiece progress.ignoreBlanks (c :: rest)
          return ({ progress with parts := piece.toSyntax :: progress.parts }, after)

/-- Take pieces until the text ends. Each round takes at least one character, and the first
number bounds the rounds. -/
def Progress.run : Nat → Progress → List Char → Except Fault Syntax
  | 0, progress, _ => progress.finish
  | rounds + 1, progress, text =>
      match skipBlanks progress.ignoreBlanks text with
      | [] => progress.finish
      | rest => do
          let (progress', after) ← progress.step rest
          Progress.run rounds progress' after

def Syntax.ofText (pattern : String) : Except Fault Syntax := do
  let text := pattern.toList
  let found ← Progress.run (text.length + 1) {} text
  if nestingLimit < found.depth then .error .nestedTooDeeply else return found

end HostHome.Regex
