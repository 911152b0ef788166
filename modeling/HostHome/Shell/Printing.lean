import HostHome.Shell.Arithmetic

/-!
# What shell commands print

The two commands that print, and the escapes that they read in their arguments.
-/

namespace HostHome.Shell

open HostHome.Text (Bytes)

def backslash : UInt8 := 92

/-- The character of a byte of the ASCII range, or a character that no command looks for. -/
def charOf (byte : UInt8) : Char := Char.ofNat byte.toNat

def isOctal (byte : UInt8) : Bool := 48 ≤ byte && byte ≤ 55

/-- The byte of some octal digits. -/
def octalValue (digits : Bytes) : UInt8 :=
  UInt8.ofNat (digits.foldl (fun value digit => value * 8 + (digit.toNat - 48)) 0)

/-- The byte that a letter behind a backslash stands for. -/
def escapedByte? (letter : Char) : Option UInt8 :=
  match letter with
  | 'a' => some 7
  | 'b' => some 8
  | 'f' => some 12
  | 'n' => some 10
  | 'r' => some 13
  | 't' => some 9
  | 'v' => some 11
  | '\\' => some backslash
  | _ => none

/-- Read the escape behind a backslash. Octal digits follow the backslash at once, or a zero where
that is asked for. -/
def readEscape (zeroFirst : Bool) (text : Bytes) : Bytes × Bytes :=
  match text with
  | [] => ([backslash], [])
  | byte :: rest =>
      match escapedByte? (charOf byte) with
      | some value => ([value], rest)
      | none =>
          if zeroFirst && byte = 48 then
            let digits := (rest.take 3).takeWhile isOctal
            ([octalValue digits], rest.drop digits.length)
          else if !zeroFirst && isOctal byte then
            let digits := (text.take 3).takeWhile isOctal
            ([octalValue digits], text.drop digits.length)
          else ([backslash], text)

/-- Replace the escapes of a text. The fuel bounds their number. -/
def replaceEscapesFrom (fuel : Nat) (zeroFirst : Bool) (text : Bytes) : Bytes :=
  match fuel, text with
  | 0, _ => []
  | _, [] => []
  | fuel + 1, byte :: rest =>
      if byte = backslash then
        let (replaced, rest) := readEscape zeroFirst rest
        replaced ++ replaceEscapesFrom fuel zeroFirst rest
      else byte :: replaceEscapesFrom fuel zeroFirst rest

def replaceEscapes (zeroFirst : Bool) (text : Bytes) : Bytes :=
  replaceEscapesFrom (text.length + 1) zeroFirst text

/-- What the plain command prints: its arguments with blanks between them, and a line end. -/
def echoText (arguments : List Bytes) : Bytes :=
  match arguments with
  | [] => [10]
  | first :: rest =>
      if first = Text.encode "-n" then replaceEscapes true ([32].intercalate rest)
      else replaceEscapes true ([32].intercalate arguments) ++ [10]

/-- How a value is put into a text: the flags, the least width, and the precision if there is one. -/
structure Placeholder where
  flags : List Char := []
  width : Nat := 0
  precision : Option Nat := none

def decimalOf (digits : Bytes) : Nat :=
  digits.foldl (fun value digit => value * 10 + (digit.toNat - 48)) 0

def isDecimal (byte : UInt8) : Bool := 48 ≤ byte && byte ≤ 57

/-- Characters that are flags of a placeholder. -/
def isFlag (byte : UInt8) : Bool := charOf byte ∈ ['-', '+', ' ', '#', '0']

/-- Read a placeholder behind a percent sign, up to the letter that says what to print. -/
def Placeholder.read (text : Bytes) : Placeholder × Bytes :=
  let flags := text.takeWhile isFlag
  let text := text.drop flags.length
  let width := text.takeWhile isDecimal
  let text := text.drop width.length
  match text with
  | 46 :: rest =>
      let precision := rest.takeWhile isDecimal
      (⟨flags.map charOf, decimalOf width, some (decimalOf precision)⟩, rest.drop precision.length)
  | rest => (⟨flags.map charOf, decimalOf width, none⟩, rest)

/-- Fill a text up to the width, on its right where the flags say so, and on its left otherwise. -/
def Placeholder.fill (placeholder : Placeholder) (text : Bytes) : Bytes :=
  let missing := List.replicate (placeholder.width - text.length) (32 : UInt8)
  if '-' ∈ placeholder.flags then text ++ missing else missing ++ text

def Placeholder.text (placeholder : Placeholder) (text : Bytes) : Bytes :=
  placeholder.fill (match placeholder.precision with
    | some precision => text.take precision
    | none => text)

/-- Put digits behind a sign into their place. -/
def Placeholder.number (placeholder : Placeholder) (negative : Bool) (digits : Bytes) : Bytes :=
  let sign : Bytes :=
    if negative then [45]
    else if '+' ∈ placeholder.flags then [43]
    else if ' ' ∈ placeholder.flags then [32]
    else []
  let zeros := match placeholder.precision with
    | some precision => precision - digits.length
    | none =>
        if '0' ∈ placeholder.flags ∧ '-' ∉ placeholder.flags then
          placeholder.width - sign.length - digits.length
        else 0
  placeholder.fill (sign ++ List.replicate zeros 48 ++ digits)

def digitsIn (base number : Nat) : Bytes := Text.encodeChars (Nat.toDigits base number)

/-- Print an argument as a letter says. -/
def Placeholder.print? (placeholder : Placeholder) (letter : Char) (argument : Bytes) : Option Bytes :=
  let number := (numberOf? (Text.decodeCharsLossy argument)).getD 0
  match letter with
  | 's' => some (placeholder.text argument)
  | 'b' => some (placeholder.text (replaceEscapes true argument))
  | 'c' => some (placeholder.text (argument.take 1))
  | 'd' | 'i' => some (placeholder.number (number < 0) (digitsIn 10 number.natAbs))
  | 'u' => some (placeholder.number false (digitsIn 10 number.toNat))
  | 'o' => some (placeholder.number false (digitsIn 8 number.toNat))
  | 'x' => some (placeholder.number false (digitsIn 16 number.toNat))
  | 'X' =>
      some (placeholder.number false
        (Text.encodeChars ((Nat.toDigits 16 number.toNat).map Char.toUpper)))
  | _ => none

/-- What a format prints, with the arguments left over. The fuel bounds its parts. -/
def formatFrom (fuel : Nat) (format : Bytes) (arguments : List Bytes) : Bytes × List Bytes :=
  match fuel, format with
  | 0, _ => ([], arguments)
  | _, [] => ([], arguments)
  | fuel + 1, byte :: rest =>
      if byte = backslash then
        let (replaced, rest) := readEscape false rest
        let (printed, left) := formatFrom fuel rest arguments
        (replaced ++ printed, left)
      else if byte = 37 ∧ rest.head? = some 37 then
        let (printed, left) := formatFrom fuel rest.tail arguments
        (37 :: printed, left)
      else if byte = 37 then
        let (placeholder, after) := Placeholder.read rest
        match (after.head?).bind fun letter =>
            placeholder.print? (charOf letter) (arguments.headD []) with
        | some value =>
            let (printed, left) := formatFrom fuel after.tail arguments.tail
            (value ++ printed, left)
        | none =>
            let (printed, left) := formatFrom fuel rest arguments
            (byte :: printed, left)
      else
        let (printed, left) := formatFrom fuel rest arguments
        (byte :: printed, left)

/-- Print a format until no arguments are left. The fuel bounds the repetitions. -/
def repeatFormat (fuel : Nat) (format : Bytes) (arguments : List Bytes) : Bytes :=
  match fuel with
  | 0 => []
  | fuel + 1 =>
      let (printed, left) := formatFrom (format.length + 1) format arguments
      if left = [] ∨ left.length = arguments.length then printed
      else printed ++ repeatFormat fuel format left

/-- What the formatting command prints. -/
def printfText (arguments : List Bytes) : Bytes :=
  match arguments with
  | [] => []
  | format :: rest => repeatFormat (rest.length + 1) format rest

end HostHome.Shell
