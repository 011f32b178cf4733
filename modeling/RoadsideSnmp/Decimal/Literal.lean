import RoadsideSnmp.Decimal.Binary64

/-! Decimal numbers as people write them: a sign, digits with or without a point, an exponent; or
one of the words for what is no finite number. -/
namespace RoadsideSnmp.Decimal

inductive Literal where
  | finite (negative : Bool) (magnitude : Binary64)
  | infinite (negative : Bool)
  | notANumber
  deriving DecidableEq, Repr

inductive LiteralFault where
  | empty
  | malformed
  deriving DecidableEq, Repr

def LiteralFault.message : LiteralFault → String
  | .empty => "cannot parse float from empty string"
  | .malformed => "invalid float literal"

namespace Literal

def digitsValue (digits : List Char) : Nat :=
  digits.foldl (fun total digit => total * 10 + (digit.toNat - '0'.toNat)) 0

def splitSign : List Char → Bool × List Char
  | '-' :: rest => (true, rest)
  | '+' :: rest => (false, rest)
  | rest => (false, rest)

/-- From halfway between the largest finite number and the next, numbers read as infinite. -/
def overflow : Rat := (Nat.pow 2 1024 - Nat.pow 2 970 : Nat)

/-- Digits times a power of ten. A power so large or so small that it decides alone is not
computed. -/
def scaled (negative : Bool) (digits : Nat) (power : Int) : Literal :=
  let scale : Int := (Nat.toDigits 10 digits).length + power
  if digits = 0 ∨ scale < -400 then finite negative ⟨0, Binary64.leastExponent⟩
  else if 400 < scale then infinite negative
  else
    let value := digits * (10 : Rat) ^ power
    if overflow ≤ value then infinite negative else finite negative (Binary64.round value)

def exponent? : List Char → Option Int
  | [] => some 0
  | letter :: rest =>
      let (negative, digits) := splitSign rest
      if letter.toLower = 'e' ∧ digits ≠ [] ∧ digits.all Char.isDigit then
        some (if negative then -(digitsValue digits : Int) else digitsValue digits)
      else none

def number? (negative : Bool) (body : List Char) : Option Literal :=
  let whole := body.takeWhile Char.isDigit
  let afterWhole := body.dropWhile Char.isDigit
  let pointed := afterWhole.head? = some '.'
  let fraction := if pointed then afterWhole.tail.takeWhile Char.isDigit else []
  let rest := if pointed then afterWhole.tail.dropWhile Char.isDigit else afterWhole
  if whole.isEmpty && fraction.isEmpty then none
  else (exponent? rest).map fun exponent =>
    scaled negative (digitsValue (whole ++ fraction)) (exponent - fraction.length)

def word? (negative : Bool) (body : List Char) : Option Literal :=
  match String.ofList (body.map Char.toLower) with
  | "inf" | "infinity" => some (infinite negative)
  | "nan" => some notANumber
  | _ => none

def parse (text : String) : Except LiteralFault Literal :=
  if text.isEmpty then .error .empty
  else
    let (negative, body) := splitSign text.toList
    match (number? negative body).or (word? negative body) with
    | some literal => .ok literal
    | none => .error .malformed

def longest : Nat := Nat.pow 2 64 * Nat.pow 10 9 - 1

/-- Seconds as whole nanoseconds. What is below zero or no number is no time at all. -/
def toNanoseconds : Literal → Nat
  | finite true _ | infinite true | notANumber => 0
  | infinite false => longest
  | finite false magnitude => min longest (nearest (magnitude.value * Nat.pow 10 9)).toNat

end Literal
end RoadsideSnmp.Decimal
