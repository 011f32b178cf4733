import RoadsideSnmp.Octets

/-! Text as octets in UTF-8, read one octet at a time. Reading never fails: octets that begin a
character but cannot complete it make one gap together, any other wrong octet is a gap of its
own, and a gap reads as U+FFFD where text is wanted at any price. -/
namespace RoadsideSnmp.Utf8

def encode (text : List Char) : Octets := text.flatMap String.utf8EncodeChar

def encodeText (text : String) : Octets := encode text.toList

/-- A character that has begun: the octets it still needs, the bounds on the next one, and the
number read so far. -/
structure Pending where
  owed : Nat
  low : UInt8
  high : UInt8
  number : Nat
  deriving DecidableEq, Repr

abbrev Progress := List (Option Char) × Option Pending

/-- An octet that stands where a character begins. The bounds on the second octet exclude
characters written longer than needed, surrogates, and numbers above U+10FFFF. -/
def first (octet : UInt8) : Progress :=
  let lead := octet.toNat
  if lead < 0x80 then ([some (Char.ofNat lead)], none)
  else if lead < 0xC2 then ([none], none)
  else if lead < 0xE0 then ([], some ⟨1, 0x80, 0xBF, lead % 32⟩)
  else if lead = 0xE0 then ([], some ⟨2, 0xA0, 0xBF, lead % 16⟩)
  else if lead = 0xED then ([], some ⟨2, 0x80, 0x9F, lead % 16⟩)
  else if lead < 0xF0 then ([], some ⟨2, 0x80, 0xBF, lead % 16⟩)
  else if lead = 0xF0 then ([], some ⟨3, 0x90, 0xBF, lead % 8⟩)
  else if lead < 0xF4 then ([], some ⟨3, 0x80, 0xBF, lead % 8⟩)
  else if lead = 0xF4 then ([], some ⟨3, 0x80, 0x8F, lead % 8⟩)
  else ([none], none)

def step : Option Pending → UInt8 → Progress
  | none, octet => first octet
  | some pending, octet =>
      if pending.low ≤ octet ∧ octet ≤ pending.high then
        let number := pending.number * 64 + octet.toNat % 64
        if pending.owed = 1 then ([some (Char.ofNat number)], none)
        else ([], some ⟨pending.owed - 1, 0x80, 0xBF, number⟩)
      else
        let (completed, state) := first octet
        (none :: completed, state)

/-- The characters in order; octets that end inside one are a gap. -/
def scan : Option Pending → Octets → List (Option Char)
  | none, [] => []
  | some _, [] => [none]
  | state, octet :: rest => (step state octet).1 ++ scan (step state octet).2 rest

def decodeLossy (octets : Octets) : String :=
  String.ofList ((scan none octets).map (·.getD '\uFFFD'))

def decode? (octets : Octets) : Option (List Char) := (scan none octets).mapM id

end RoadsideSnmp.Utf8
