import RoadsideSnmp.Binding.Text
import RoadsideSnmp.ErrorStatus
import RoadsideSnmp.Pmpp.Frame
import RoadsideSnmp.ProtocolVersion
import RoadsideSnmp.Text.Quoted

/-! A whole message: version, community, and a unit with a request number, an error status, an
error index and bindings. A bulk request keeps its two counts where other units keep status and
index. What follows the outer sequence is not read. -/
namespace RoadsideSnmp

structure Message where
  version : ProtocolVersion
  community : String
  kind : PduKind
  requestId : Int32
  status : ErrorStatus
  index : Int32
  bindings : List Binding
  deriving DecidableEq, Repr

structure AgentError where
  status : ErrorStatus
  index : Nat
  name : Option Oid
  deriving DecidableEq, Repr

def AgentError.message (error : AgentError) : String :=
  "SNMP error: " ++ error.status.name ++ s!" at index {error.index}"

namespace Message

def ofBindings (version : ProtocolVersion) (community : String) (kind : PduKind)
    (bindings : List Binding) : Message :=
  ⟨version, community, kind, 0, .noError, 0, bindings⟩

def ofNames (version : ProtocolVersion) (community : String) (kind : PduKind) (names : List Oid) :
    Message :=
  ofBindings version community kind (names.map Binding.null)

/-- Counts below zero are sent as 0. -/
def bulk (version : ProtocolVersion) (community : String) (nonRepeaters maxRepetitions : Int32)
    (names : List Oid) : Message :=
  { ofNames version community .getBulkRequest names with
    status := .ofCode (max nonRepeaters 0)
    index := max maxRepetitions 0 }

def withRequestId (requestId : Int32) (message : Message) : Message :=
  { message with requestId := max requestId 0 }

def nonRepeaters (message : Message) : Int32 := message.status.code

def maxRepetitions (message : Message) : Int32 := message.index

def isError (message : Message) : Bool :=
  message.kind ≠ .getBulkRequest && message.status ≠ .noError

/-- Indices count bindings from 1. -/
def checkError (message : Message) : Except AgentError Unit :=
  if message.isError then
    let index := message.index.toInt.toNat
    let named := if index = 0 then none else message.bindings[index - 1]?
    .error ⟨message.status, index, named.map Binding.name⟩
  else .ok ()

def validate (message : Message) : Except OidFault Unit := message.bindings.forM Binding.validate

def pushPdu (message : Message) (writer : Writer) : Writer :=
  writer.pushConstructed message.kind.tag fun writer =>
    (((Binding.pushAll message.bindings writer).pushInteger message.index).pushInteger
      message.status.code).pushInteger message.requestId

def push (message : Message) (writer : Writer) : Writer :=
  writer.pushSequence fun writer =>
    ((message.pushPdu writer).pushOctetString (Utf8.encodeText message.community)).pushInteger
      message.version.code

def pduOctets (message : Message) : Octets := Writer.written message.pushPdu

def encode (message : Message) : Octets := Writer.written message.push

def packet (message : Message) (station : Option Pmpp.Station) : Octets :=
  match station with
  | some station => Pmpp.frame station message.encode
  | none => message.encode

end Message

namespace Cursor

def version : Reading ProtocolVersion := do
  let start ← position
  let number ← integer
  match ProtocolVersion.ofCode? number with
  | some version => return version
  | none => Reading.lift (.error ⟨start, .unknownVersion number⟩)

/-- The kind of the unit that comes next, which is left unread. -/
def pduKind : Reading PduKind := fun cursor =>
  match cursor.peek? with
  | none => fail .truncated cursor
  | some tag =>
      match PduKind.ofTag? tag with
      | none | some .trap => fail (.unknownPdu tag) cursor
      | some kind => (.ok kind, cursor)

/-- The list of bindings may be missing. -/
def bindingsIfAny : Reading (List Binding) := fun cursor =>
  if cursor.isEmpty then (.ok [], cursor) else bindings cursor

def pduBody (version : ProtocolVersion) (community : String) (kind : PduKind) :
    Reading Message := do
  let requestId ← integer
  let status ← integer
  let index ← integer
  let bindings ← bindingsIfAny
  return ⟨version, community, kind, requestId, .ofCode status, index, bindings⟩

def messageContent : Reading Message := do
  let version ← version
  let community ← octetString
  let kind ← pduKind
  nested (constructed kind.tag) (pduBody version (Utf8.decodeLossy community) kind)

def message : Reading Message := nested sequence messageContent

end Cursor

namespace Message

def decode (octets : Octets) : Except DecodeError Message :=
  Cursor.message.run (Cursor.ofOctets octets)

/-- Offsets of faults in the message count from the beginning of the payload. -/
def decodeFramed (octets : Octets) : Except DecodeError (Message × Pmpp.Unframed) := do
  let unframed ← Pmpp.unframe octets false
  let message ← decode unframed.payload
  return (message, unframed)

def dump (message : Message) : String :=
  let field (name value : String) := "  \"" ++ name ++ "\": " ++ value
  let bindings := message.bindings.map fun binding => "\n    " ++ Quoted.quote binding.text
  let list := "[" ++ ",".intercalate bindings ++ (if bindings.isEmpty then "]" else "\n  ]")
  "\x7b\n" ++ ",\n".intercalate [
    field "Version" (toString message.version.number),
    field "CommunityName" (Quoted.quote message.community),
    field "PduType" ("\"" ++ message.kind.name ++ "\""),
    field "RequestId" (toString message.requestId.toInt),
    field "ErrorStatus" ("\"" ++ message.status.name ++ "\""),
    field "ErrorIndex" (toString message.index.toInt),
    field "Bindings" list] ++ "\n\x7d"

end Message
end RoadsideSnmp
