/-!
# Texts as bytes

Encode characters as UTF-8, and read bytes as characters: strictly, where every
byte must belong to a character, or leniently, where each longest piece that
only begins a character is read as U+FFFD.
-/

namespace HostHome.Text

/-- A string of bytes. -/
abbrev Bytes := List UInt8

/-- The UTF-8 encoding of some characters. -/
def encodeChars (chars : List Char) : Bytes := chars.flatMap String.utf8EncodeChar

def encode (text : String) : Bytes := encodeChars text.toList

/-- The character that stands for bytes that encode none. -/
def replacementChar : Char := '\uFFFD'

/-- What bytes begin with: a character and the number of its bytes, or a number of bytes that
together encode no character. -/
inductive Head where
  | char (c : Char) (length : Nat)
  | invalid (length : Nat)
  deriving DecidableEq, Repr

def byteWithin (low high : UInt8) : Option UInt8 → Bool
  | none => false
  | some byte => low ≤ byte && byte ≤ high

/-- The last six bits of a byte of a longer encoding. -/
def payload (byte : UInt8) : Nat := byte.toNat % 64

/-- The range in which the second byte of an encoding must lie, by the first byte, and the number
of bytes in all. First bytes of no longer encoding have none. -/
def secondByteRange? (first : UInt8) : Option (UInt8 × UInt8 × Nat) :=
  if 0xC2 ≤ first ∧ first ≤ 0xDF then some (0x80, 0xBF, 2)
  else if first = 0xE0 then some (0xA0, 0xBF, 3)
  else if first = 0xED then some (0x80, 0x9F, 3)
  else if 0xE1 ≤ first ∧ first ≤ 0xEF then some (0x80, 0xBF, 3)
  else if first = 0xF0 then some (0x90, 0xBF, 4)
  else if 0xF1 ≤ first ∧ first ≤ 0xF3 then some (0x80, 0xBF, 4)
  else if first = 0xF4 then some (0x80, 0x8F, 4)
  else none

/-- Tell what a nonempty string of bytes begins with. -/
def headOf (first : UInt8) (rest : Bytes) : Head :=
  if first < 0x80 then .char (Char.ofNat first.toNat) 1
  else match secondByteRange? first with
    | none => .invalid 1
    | some (low, high, length) =>
        if !byteWithin low high rest[0]? then .invalid 1
        else
          let second := payload (rest.headD 0)
          if length = 2 then .char (Char.ofNat (first.toNat % 32 * 64 + second)) 2
          else if !byteWithin 0x80 0xBF rest[1]? then .invalid 2
          else
            let third := payload (rest.getD 1 0)
            if length = 3 then
              .char (Char.ofNat (first.toNat % 16 * 4096 + second * 64 + third)) 3
            else if !byteWithin 0x80 0xBF rest[2]? then .invalid 3
            else
              let fourth := payload (rest.getD 2 0)
              .char (Char.ofNat (first.toNat % 8 * 262144 + second * 4096 + third * 64 + fourth)) 4

/-- Read bytes as characters, if every byte belongs to one. -/
def decodeChars? : Bytes → Option (List Char)
  | [] => some []
  | first :: rest =>
      match headOf first rest with
      | .char c length => (decodeChars? (rest.drop (length - 1))).map (c :: ·)
      | .invalid _ => none
termination_by bytes => bytes.length
decreasing_by
  simp only [List.length_drop, List.length_cons]; omega

def decode? (bytes : Bytes) : Option String := (decodeChars? bytes).map String.ofList

/-- Read bytes as characters, with a replacement for each piece that encodes none. -/
def decodeCharsLossy : Bytes → List Char
  | [] => []
  | first :: rest =>
      match headOf first rest with
      | .char c length => c :: decodeCharsLossy (rest.drop (length - 1))
      | .invalid length => replacementChar :: decodeCharsLossy (rest.drop (length - 1))
termination_by bytes => bytes.length
decreasing_by
  all_goals simp only [List.length_drop, List.length_cons]; omega

/-- Read bytes as a text, with a replacement for each piece that encodes no character. -/
def decodeLossy (bytes : Bytes) : String := String.ofList (decodeCharsLossy bytes)

end HostHome.Text
