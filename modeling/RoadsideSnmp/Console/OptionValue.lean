import RoadsideSnmp.Decimal.Literal
import RoadsideSnmp.Octets

/-! Values of options as they are typed: whole numbers, and octets in hexadecimal. Text for octets
is cut behind every two octets of its own UTF-8; where a character lies across a cut the tool breaks
off. -/
namespace RoadsideSnmp.Console

inductive ValueFault where
  | real (fault : Decimal.LiteralFault)
  | emptyNumber
  | badDigit
  | tooLarge
  | tooSmall
  | outOfRange (number : Int) (greatest : Nat)
  | unpairedDigits (digits : String)
  | notOneOctet (input : String)
  /-- A cut falls inside a character. This is no refusal: the tool breaks off. -/
  | insideCharacter
  deriving DecidableEq, Repr

def ValueFault.message : ValueFault → String
  | .real fault => fault.message
  | .emptyNumber => "cannot parse integer from empty string"
  | .badDigit => "invalid digit found in string"
  | .tooLarge => "number too large to fit in target type"
  | .tooSmall => "number too small to fit in target type"
  | .outOfRange number greatest => s!"{number} is not in 0..={greatest}"
  | .unpairedDigits digits => "'" ++ digits ++ "' is not an even number of hex digits"
  | .notOneOctet input => "'" ++ input ++ "' is not a single byte"
  | .insideCharacter => "a cut falls inside a character"

namespace OptionValue

def decimalDigit? (character : Char) : Option Nat :=
  if character.isDigit then some (character.toNat - '0'.toNat) else none

/-- Digits from the left, up to the first that is none or that makes the number too large. -/
def digitsValue (limit : Nat) (tooFar : ValueFault) : (total : Nat) → List Char →
    Except ValueFault Nat
  | total, [] => .ok total
  | total, digit :: digits =>
      match decimalDigit? digit with
      | none => .error .badDigit
      | some value =>
          if limit < total * 10 + value then .error tooFar
          else digitsValue limit tooFar (total * 10 + value) digits

def wholeNumber (text : String) : Except ValueFault Int :=
  match text.toList with
  | [] => .error .emptyNumber
  | ['-'] | ['+'] => .error .badDigit
  | '-' :: digits => (digitsValue (Nat.pow 2 63) .tooSmall 0 digits).map fun value => -(value : Int)
  | '+' :: digits => (digitsValue (Nat.pow 2 63 - 1) .tooLarge 0 digits).map Int.ofNat
  | digits => (digitsValue (Nat.pow 2 63 - 1) .tooLarge 0 digits).map Int.ofNat

def count (text : String) : Except ValueFault Nat := do
  let number ← wholeNumber text
  if 0 ≤ number ∧ number < Nat.pow 2 32 then return number.toNat
  else throw (.outOfRange number (Nat.pow 2 32 - 1))

def hexDigit? (character : Char) : Option Nat :=
  let lower := character.toLower
  if lower.isDigit then some (lower.toNat - '0'.toNat)
  else if 'a' ≤ lower ∧ lower ≤ 'f' then some (lower.toNat - 'a'.toNat + 10)
  else none

def hexPair? (first second : Char) : Option UInt8 :=
  if first = '+' then (hexDigit? second).map UInt8.ofNat
  else do
    let high ← hexDigit? first
    let low ← hexDigit? second
    return UInt8.ofNat (high * 16 + low)

/-- Cuts behind every two octets and reads what is cut off, which can be one character. -/
def hexPairs : List Char → Except ValueFault Octets
  | [] => .ok []
  | [character] => .error (if character.utf8Size = 2 then .badDigit else .insideCharacter)
  | first :: second :: rest =>
      if first.utf8Size = 2 then .error .badDigit
      else if first.utf8Size ≠ 1 ∨ second.utf8Size ≠ 1 then .error .insideCharacter
      else match hexPair? first second with
      | none => .error .badDigit
      | some octet => (hexPairs rest).map (octet :: ·)

def dropMarks (first second : Char) : List Char → List Char
  | a :: b :: rest => if a = first ∧ b = second then dropMarks first second rest else a :: b :: rest
  | other => other

def unmarked (text : String) : List Char := dropMarks '0' 'X' (dropMarks '0' 'x' text.toList)

def hexOctets (text : String) : Except ValueFault Octets :=
  let digits := unmarked text
  if digits.isEmpty || (String.ofList digits).utf8ByteSize % 2 ≠ 0 then
    .error (.unpairedDigits (String.ofList digits))
  else hexPairs digits

def hexOctet (text : String) : Except ValueFault UInt8 := do
  match ← hexOctets text with
  | [octet] => return octet
  | _ => throw (.notOneOctet text)

end OptionValue
end RoadsideSnmp.Console
