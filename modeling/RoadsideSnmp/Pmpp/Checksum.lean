import RoadsideSnmp.Octets

/-! The frame check sequence: a 16-bit cyclic checksum with the reflected polynomial 0x8408. The
register starts with all bits set, takes each octet low bit first, and is sent inverted with its
low octet first. -/
namespace RoadsideSnmp.Pmpp

/-- One bit leaves the register; a set one brings the polynomial in. -/
def shiftRegister (register : UInt16) : UInt16 :=
  if register &&& 1 = 1 then (register >>> 1) ^^^ 0x8408 else register >>> 1

def shiftOctet (register : UInt16) : UInt16 :=
  shiftRegister (shiftRegister (shiftRegister (shiftRegister
    (shiftRegister (shiftRegister (shiftRegister (shiftRegister register)))))))

def feedOctet (register : UInt16) (octet : UInt8) : UInt16 :=
  shiftOctet (register ^^^ octet.toUInt16)

def checksum (octets : Octets) : UInt16 := octets.foldl feedOctet 0xFFFF ^^^ 0xFFFF

def checksumOctets (sum : UInt16) : Octets :=
  [UInt8.ofNat sum.toNat, UInt8.ofNat (sum.toNat / 256)]

def ofChecksumOctets (low high : UInt8) : UInt16 := UInt16.ofNat (low.toNat + 256 * high.toNat)

theorem ofChecksumOctets_checksumOctets (sum : UInt16) :
    ofChecksumOctets (UInt8.ofNat sum.toNat) (UInt8.ofNat (sum.toNat / 256)) = sum := by
  have bound := sum.toNat_lt
  apply UInt16.toNat_inj.mp
  simp only [ofChecksumOctets, UInt16.toNat_ofNat', UInt8.toNat_ofNat']
  omega

theorem checksumOctets_ofChecksumOctets (low high : UInt8) :
    checksumOctets (ofChecksumOctets low high) = [low, high] := by
  have first := low.toNat_lt
  have second := high.toNat_lt
  simp only [checksumOctets, ofChecksumOctets, List.cons.injEq, and_true,
    ← UInt8.toNat_inj, UInt8.toNat_ofNat', UInt16.toNat_ofNat']
  omega

end RoadsideSnmp.Pmpp
