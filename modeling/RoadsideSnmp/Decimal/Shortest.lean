import RoadsideSnmp.Decimal.Binary64

/-! The fewest decimal digits that still read back as the same number. A decimal reads back if it
lies in the interval of values that round to the number; of the decimals with one count of digits
only the two neighbours of the number need a look. -/
namespace RoadsideSnmp.Binary64

/-- A value that rounds to the number. The gap below a power of two is half as wide as the one
above it, and halfway values belong to the number with an even mantissa. -/
def readsBack (number : Binary64) (value : Rat) : Bool :=
  let half : Rat := (2 : Rat) ^ (number.exponent - 1)
  let narrow := number.mantissa = Nat.pow 2 52 ∧ leastExponent < number.exponent
  let low := number.value - if narrow then half / 2 else half
  let high := number.value + half
  if number.mantissa % 2 = 0 then low ≤ value ∧ value ≤ high else low < value ∧ value < high

def decimalScale (value : Rat) : Int :=
  let power := ((Nat.toDigits 10 value.num.toNat).length : Int) - (Nat.toDigits 10 value.den).length
  if value < (10 : Rat) ^ power then power else power + 1

/-- The neighbour on a decimal grid that reads back; of two the nearer one, of two equally near
ones the even one. -/
def onGrid? (number : Binary64) (power : Int) : Option Nat :=
  let unit := (10 : Rat) ^ power
  let below := (number.value / unit).floor.toNat
  let closest := (Decimal.nearest (number.value / unit)).toNat
  let other := if closest = below then below + 1 else below
  if number.readsBack (closest * unit) then some closest
  else if number.readsBack (other * unit) then some other
  else none

def stripZeros : (room : Nat) → Nat × Int → Nat × Int
  | 0, decimal => decimal
  | room + 1, (digits, power) =>
      if digits % 10 = 0 then stripZeros room (digits / 10, power + 1) else (digits, power)

/-- Digits and a power of ten. Seventeen digits always suffice. -/
def shortest (number : Binary64) : Nat × Int :=
  let scale := decimalScale number.value
  let found := (List.range 17).findSome? fun count =>
    let power := scale - (count + 1 : Nat)
    (number.onGrid? power).map fun digits => stripZeros 17 (digits, power)
  found.getD (number.mantissa, 0)

def zeros (count : Nat) : List Char := List.replicate count '0'

/-- Positional from 10 ^ -5 up to 10 ^ 16, and always with a point; otherwise one digit before the
point, if more follow, and an exponent. -/
def text (number : Binary64) : String :=
  if number.mantissa = 0 then "0.0"
  else
    let (significand, power) := number.shortest
    let digits := Nat.toDigits 10 significand
    let scale : Int := digits.length + power
    String.ofList <|
      if 0 ≤ power ∧ scale ≤ 16 then digits ++ zeros power.toNat ++ ['.', '0']
      else if 0 < scale ∧ scale ≤ 16 then
        digits.take scale.toNat ++ '.' :: digits.drop scale.toNat
      else if -5 < scale ∧ scale ≤ 0 then ['0', '.'] ++ zeros (-scale).toNat ++ digits
      else
        let fraction := if digits.length = 1 then [] else '.' :: digits.tail
        digits.take 1 ++ fraction ++ 'e' :: (toString (scale - 1)).toList

end RoadsideSnmp.Binary64
