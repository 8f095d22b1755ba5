import BlackRaven.Primitives.Integers

/-!
Contract: byte strings that hold text.

Owns: literals of the source as bytes, bytes as the text of a message, and the
character classes of the C locale.
-/

namespace BlackRaven

def ascii (literal : String) : Bytes := literal.toList.map fun char => UInt8.ofNat char.toNat

def text (bytes : Bytes) : String := String.ofList (bytes.map fun byte => Char.ofNat byte.toNat)

namespace Ascii

def isBetween (low high : Nat) (byte : UInt8) : Bool :=
  decide (low ≤ byte.toNat) && decide (byte.toNat ≤ high)

def isUpper : UInt8 → Bool := isBetween 65 90
def isLower : UInt8 → Bool := isBetween 97 122
def isDigit : UInt8 → Bool := isBetween 48 57

def isAlnum (byte : UInt8) : Bool := isUpper byte || isLower byte || isDigit byte

/-- `isspace`: the blank and the five control characters from tab to carriage return. -/
def isSpace (byte : UInt8) : Bool := byte == 32 || isBetween 9 13 byte

def hexDigit (n : Nat) : UInt8 := if n < 10 then UInt8.ofNat (48 + n) else UInt8.ofNat (87 + n)

def isHexDigit (byte : UInt8) : Bool :=
  isDigit byte || isBetween 97 102 byte || isBetween 65 70 byte

end Ascii

def hexStr (bytes : Bytes) : Bytes :=
  bytes.flatMap fun byte => [Ascii.hexDigit (byte.toNat / 16), Ascii.hexDigit (byte.toNat % 16)]

def isHex (str : Bytes) : Bool :=
  str.all Ascii.isHexDigit && decide (0 < str.length) && decide (str.length % 2 = 0)

/-- `boost::split` at every occurrence of one delimiter: never empty. -/
def splitAt (delimiter : UInt8) : Bytes → List Bytes
  | [] => [[]]
  | byte :: rest =>
    match splitAt delimiter rest with
    | [] => [[byte]]
    | part :: parts =>
      if byte = delimiter then [] :: part :: parts else (byte :: part) :: parts

end BlackRaven
