import RoadsideSnmp.Message

/-! Why an operation has no answer. Trouble on the link may pass, so it is worth another try;
anything else means that the octets themselves are of no use. -/
namespace RoadsideSnmp

inductive LinkFault where
  | closed
  | broken
  | oversizedFrame
  | unterminated
  | sendFailed
  | receiveFailed
  deriving DecidableEq, Repr

def LinkFault.message : LinkFault → String
  | .closed => "link closed"
  | .broken => "broken pipe"
  | .oversizedFrame => "PMPP frame exceeds maximum length"
  | .unterminated => "bytes remaining on stream"
  | .sendFailed => "send failed"
  | .receiveFailed => "recv failed"

def decimalText (unit parts : Nat) (name : String) : String :=
  let digits := (toString (unit + parts % unit)).toList.tail
  let places := (digits.reverse.dropWhile (· = '0')).reverse
  let point := if places.isEmpty then "" else "."
  toString (parts / unit) ++ point ++ String.ofList places ++ name

/-- Nanoseconds in the largest unit that they fill. -/
def durationText (nanoseconds : Nat) : String :=
  if 1000000000 ≤ nanoseconds then decimalText 1000000000 nanoseconds "s"
  else if 1000000 ≤ nanoseconds then decimalText 1000000 nanoseconds "ms"
  else if 1000 ≤ nanoseconds then decimalText 1000 nanoseconds "µs"
  else decimalText 1 nanoseconds "ns"

inductive Failure where
  | link (peer : Option String) (fault : LinkFault)
  | timeout (elapsed : Nat) (requestId : Int32) (retries : Nat)
  | agent (error : AgentError)
  | oid (fault : OidFault) (input : Option String)
  | decode (error : DecodeError)
  | encode (fault : EncodeFault)
  /-- A walk was given a name that does not come after the one before. -/
  | notIncreasing (previous current : Oid)
  deriving DecidableEq, Repr

namespace Failure

def message : Failure → String
  | .link peer fault =>
      let whom := match peer with
        | some peer => " communicating with " ++ peer
        | none => ""
      "I/O error" ++ whom ++ ": " ++ fault.message
  | .timeout elapsed requestId retries =>
      "timeout after " ++ durationText elapsed ++
        s!" (request_id={requestId.toInt}, retries={retries})"
  | .agent error => error.message
  | .oid fault _ => fault.message
  | .decode error => error.message
  | .encode fault => fault.message
  | .notIncreasing previous current =>
      "walk detected non-increasing OID: " ++ previous.text ++ " >= " ++ current.text

def isRetryable : Failure → Bool
  | .link _ _ | .timeout _ _ _ => true
  | _ => false

end Failure
end RoadsideSnmp
