import RoadsideSnmp.Octets

/-! Content octets of numbers. What is written is as short as the number allows, and an unsigned
number keeps one zero octet in front when its top bit would read as a sign. What is read may be
padded, and a 32-bit number keeps the low four octets. -/
namespace RoadsideSnmp.Ber.Number

def repeatsSign (first second : UInt8) : Bool :=
  (first == 0x00 && second < 0x80) || (first == 0xFF && 0x80 ≤ second)

def dropSign : Octets → Octets
  | first :: second :: rest =>
      if repeatsSign first second then dropSign (second :: rest) else first :: second :: rest
  | short => short

def dropZeros : Octets → Octets
  | first :: second :: rest =>
      if first = 0 then dropZeros (second :: rest) else first :: second :: rest
  | short => short

def lastFour (octets : Octets) : Octets := octets.drop (octets.length - 4)

def ofInt32 (number : Int32) : Octets :=
  dropSign (Octets.ofNat 4 (number.toInt % 4294967296).toNat)

def guardSign (octets : Octets) : Octets :=
  if 128 ≤ (octets.headD 0).toNat then 0 :: octets else octets

def ofUInt32 (number : UInt32) : Octets := guardSign (dropZeros (Octets.ofNat 4 number.toNat))

def ofUInt64 (number : UInt64) : Octets := guardSign (dropZeros (Octets.ofNat 8 number.toNat))

def toInt32 (content : Octets) : Int32 :=
  Int32.ofInt (Octets.signed (lastFour (dropSign content)))

def toUInt32 (content : Octets) : UInt32 :=
  UInt32.ofNat (Octets.value (lastFour (dropZeros content)))

/-- Octets beyond the eighth from the right do not count. -/
def toUInt64 (content : Octets) : UInt64 := UInt64.ofNat (Octets.value content)

end RoadsideSnmp.Ber.Number
