import RoadsideSnmp.Ber.Fault

/-! Length fields. A length up to 127 is one octet; a longer one is an octet with the top bit set
that counts the big-endian octets behind it. Reading is bounded by `maxLength`, so that a
damaged field cannot claim more than a link ever carries. -/
namespace RoadsideSnmp.Ber.Length

def maxLength : Nat := 0xFFFFFF

/-- At most four octets of the number are kept. -/
def encode (length : Nat) : Octets :=
  if length ≤ 127 then [UInt8.ofNat length]
  else
    let count := min 4 (Octets.size length)
    UInt8.ofNat (0x80 + count) :: Octets.ofNat count length

theorem encode_short {length : Nat} (short : length ≤ 127) :
    encode length = [UInt8.ofNat length] := if_pos short

/-- The field of a length found by arithmetic, which may have gone below zero. -/
def encodeSigned (length : Int) : Except EncodeFault Octets :=
  if length < 0 then .error (.negativeLength length) else .ok (encode length.toNat)

def width (length : Nat) : Nat := (encode length).length

/-- The length in front of `octets`, and how many octets its field took. -/
def decode (octets : Octets) (base : Nat) : Except DecodeError (Nat × Nat) :=
  match octets with
  | [] => .error ⟨base, .truncated⟩
  | first :: rest =>
      let lead := first.toNat
      if lead = 0x80 then .error ⟨base, .indefiniteLength⟩
      else if lead < 0x80 then .ok (lead, 1)
      else
        let count := lead - 0x80
        if 4 < count then .error ⟨base, .lengthTooLong count⟩
        else if rest.length < count then .error ⟨base, .truncated⟩
        else
          let length := Octets.value (rest.take count)
          if maxLength < length then .error ⟨base, .lengthExceedsMax length maxLength⟩
          else .ok (length, 1 + count)

/-- A length field behind one expected tag; the count includes the tag. -/
def decodeTagged (octets : Octets) (base : Nat) (expected : UInt8) :
    Except DecodeError (Nat × Nat) :=
  match octets with
  | [] => .error ⟨base, .truncated⟩
  | actual :: rest =>
      if actual ≠ expected then .error ⟨base, .unexpectedTag expected actual⟩
      else (decode rest (base + 1)).map fun (length, count) => (length, count + 1)

end RoadsideSnmp.Ber.Length
