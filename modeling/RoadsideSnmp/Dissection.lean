import RoadsideSnmp.Message

/-! Taking octets apart by hand, one probe at a time. The cursors that were opened inside one
another form a stack, and each probe works on the innermost one. A probe that fails leaves that
cursor where it stopped. -/
namespace RoadsideSnmp

inductive Probe where
  | octet
  | length
  | octets (count : Nat)
  | expectTag (tag : UInt8)
  | header
  | integer
  | integerContent (count : Nat)
  | counter64 (tag : UInt8)
  | counter64Content (count : Nat)
  | unsigned (tag : UInt8)
  | unsignedContent (count : Nat)
  | octetString
  | null
  | objectId
  | ipAddress
  | tlv
  | skip
  | rest
  | binding
  | bindings
  | message
  | constructed (tag : UInt8)
  | inner (count : Nat)
  /-- Goes on behind the value that was opened last. -/
  | leave
  deriving DecidableEq, Repr

inductive Finding where
  | nothing
  | octet (octet : UInt8)
  | count (count : Nat)
  | header (tag : UInt8) (count : Nat)
  | integer (number : Int32)
  | unsigned (number : UInt32)
  | counter64 (number : UInt64)
  | octets (octets : Octets)
  | address (address : Octets)
  | objectId (oid : Oid)
  | binding (binding : Binding)
  | bindings (bindings : List Binding)
  | message (message : Message)
  deriving DecidableEq, Repr

structure Dissection where
  top : Cursor
  below : List Cursor
  deriving DecidableEq, Repr

namespace Dissection

def ofOctets (octets : Octets) : Dissection := ⟨.ofOctets octets, []⟩

def depth (dissection : Dissection) : Nat := dissection.below.length + 1

def read {α : Type} (reading : Reading α) (finding : α → Finding) (dissection : Dissection) :
    Except DecodeError Finding × Dissection :=
  let (result, top) := reading dissection.top
  (result.map finding, { dissection with top })

def enter (reading : Reading Cursor) (dissection : Dissection) :
    Except DecodeError Finding × Dissection :=
  match reading dissection.top with
  | (.ok inside, top) => (.ok .nothing, ⟨inside, top :: dissection.below⟩)
  | (.error error, top) => (.error error, { dissection with top })

def leave (dissection : Dissection) : Dissection :=
  match dissection.below with
  | [] => dissection
  | outer :: below => ⟨outer, below⟩

def probe (dissection : Dissection) : Probe → Except DecodeError Finding × Dissection
  | .octet => dissection.read Cursor.octet .octet
  | .length => dissection.read Cursor.length .count
  | .octets count => dissection.read (Cursor.octets count) .octets
  | .expectTag tag => dissection.read (Cursor.expectTag tag) .count
  | .header => dissection.read Cursor.header fun (tag, count) => .header tag count
  | .integer => dissection.read Cursor.integer .integer
  | .integerContent count => dissection.read (Cursor.integerContent count) .integer
  | .counter64 tag => dissection.read (Cursor.counter64 tag) .counter64
  | .counter64Content count => dissection.read (Cursor.counter64Content count) .counter64
  | .unsigned tag => dissection.read (Cursor.unsigned tag) .unsigned
  | .unsignedContent count => dissection.read (Cursor.unsignedContent count) .unsigned
  | .octetString => dissection.read Cursor.octetString .octets
  | .null => dissection.read Cursor.null fun _ => .nothing
  | .objectId => dissection.read Cursor.objectId .objectId
  | .ipAddress => dissection.read Cursor.ipAddress .address
  | .tlv => dissection.read Cursor.tlv .octets
  | .skip => dissection.read Cursor.skip fun _ => .nothing
  | .rest => (.ok (.octets dissection.top.rest), dissection)
  | .binding => dissection.read Cursor.binding .binding
  | .bindings => dissection.read Cursor.bindings .bindings
  | .message => dissection.read Cursor.message .message
  | .constructed tag => dissection.enter (Cursor.constructed tag)
  | .inner count => dissection.enter (Cursor.inner count)
  | .leave => (.ok .nothing, dissection.leave)

def run : Dissection → List Probe → List (Finding × Dissection) × Option DecodeError
  | _, [] => ([], none)
  | dissection, probe :: probes =>
      match dissection.probe probe with
      | (.error error, _) => ([], some error)
      | (.ok finding, after) =>
          let (found, failure) := run after probes
          ((finding, after) :: found, failure)

end Dissection
end RoadsideSnmp
