/-! Numbers with 53 binary digits: the nonnegative ones of double precision, without a largest.
A result that does not fit goes to the nearest number that does, and from halfway to the one
whose last digit is even. -/
namespace RoadsideSnmp.Decimal

/-- The nearest whole number; halfway the even one. -/
def nearest (value : Rat) : Int :=
  let below := value.floor
  let rest := value - below
  if rest < 1 / 2 ∨ (rest = 1 / 2 ∧ below % 2 = 0) then below else below + 1

def fixed (places : Nat) (value : Rat) : String :=
  let unit := Nat.pow 10 places
  let units := (nearest (value * unit)).toNat
  let fraction := toString (unit + units % unit)
  toString (units / unit) ++ "." ++ String.ofList fraction.toList.tail

end RoadsideSnmp.Decimal

namespace RoadsideSnmp

structure Binary64 where
  /-- Below 2 ^ 53, and at least 2 ^ 52 unless the exponent is the least. -/
  mantissa : Nat
  exponent : Int
  deriving DecidableEq, Repr

namespace Binary64

def leastExponent : Int := -1074

def value (number : Binary64) : Rat := number.mantissa * (2 : Rat) ^ number.exponent

def log2 (value : Rat) : Int :=
  let power := (value.num.toNat.log2 : Int) - value.den.log2
  if (2 : Rat) ^ power ≤ value then power else power - 1

def round (value : Rat) : Binary64 :=
  let exponent := max (log2 value - 52) leastExponent
  let mantissa := (Decimal.nearest (value / (2 : Rat) ^ exponent)).toNat
  if mantissa = Nat.pow 2 53 then ⟨Nat.pow 2 52, exponent + 1⟩ else ⟨mantissa, exponent⟩

def add (a b : Binary64) : Binary64 := round (a.value + b.value)

def mul (a b : Binary64) : Binary64 := round (a.value * b.value)

def ofNat (number : Nat) : Binary64 := round number

/-- A span of nanoseconds in milliseconds, by way of seconds, each step rounded. -/
def milliseconds (nanoseconds : Nat) : Binary64 :=
  let second := Nat.pow 10 9
  let seconds := (ofNat (nanoseconds / second)).add (round (mkRat (nanoseconds % second) second))
  seconds.mul (ofNat 1000)

end Binary64
end RoadsideSnmp
