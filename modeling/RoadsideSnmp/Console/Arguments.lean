import RoadsideSnmp.Console.Host
import RoadsideSnmp.Console.OptionValue
import RoadsideSnmp.Console.Report
import RoadsideSnmp.Pmpp.Station

/-! The command lines of the two tools: one reads objects, the other walks a subtree. An option's
value is examined only when the next argument is understood, so an argument that is not
understood is reported before the value in front of it. -/
namespace RoadsideSnmp.Console

inductive Tool where
  | get
  | walk
  deriving DecidableEq, Repr

inductive Carrier where
  | udp
  | pmppTcp
  deriving DecidableEq, Repr

def Carrier.name : Carrier → String
  | .udp => "udp"
  | .pmppTcp => "pmpp-tcp"

def Format.name : Format → String
  | .human => "human"
  | .json => "json"

structure Settings where
  community : String
  version : ProtocolVersion
  timeout : Decimal.Literal
  retries : Nat
  carrier : Carrier
  address : Octets
  control : UInt8
  protocolId : Octets
  format : Format
  verbosity : Nat
  timing : Bool
  hex : Bool
  noHints : Bool
  deriving Repr

def Settings.standard : Settings where
  community := "public"
  version := .v1
  timeout := .finite false (.ofNat 5)
  retries := 3
  carrier := .udp
  address := [0x05]
  control := 0x03
  protocolId := [0xC1]
  format := .human
  verbosity := 0
  timing := false
  hex := false
  noHints := false

/-- Nanoseconds that one attempt waits for its reply. -/
def Settings.timeoutSpan (settings : Settings) : Nat := settings.timeout.toNanoseconds

def Settings.station (settings : Settings) : Except EncodeFault (Option Pmpp.Station) :=
  match settings.carrier with
  | .udp => .ok none
  | .pmppTcp =>
      (Pmpp.Station.make settings.address settings.control settings.protocolId).map some

inductive ArgumentFault where
  | help
  | version
  | missing
  | unknown
  | noValue
  | badChoice
  | badValue (fault : ValueFault)
  | repeated
  | unneededValue
  deriving DecidableEq, Repr

inductive Setting where
  | community
  | version
  | timeout
  | retries
  | carrier
  | address
  | control
  | protocolId
  | format
  deriving DecidableEq, Repr

namespace Setting

def ofLong? : String → Option Setting
  | "community" => some community
  | "snmp-version" => some version
  | "timeout" => some timeout
  | "retries" => some retries
  | "link" => some carrier
  | "address" => some address
  | "control" => some control
  | "pid" => some protocolId
  | "format" => some format
  | _ => none

def ofShort? : Char → Option Setting
  | 'c' => some community
  | 't' => some timeout
  | 'r' => some retries
  | _ => none

def choose {α : Type} (choices : List (String × α)) (text : String) : Except ArgumentFault α :=
  match choices.lookup text with
  | some choice => .ok choice
  | none => .error .badChoice

def assign (setting : Setting) (text : String) (settings : Settings) :
    Except ArgumentFault Settings :=
  match setting with
  | .community => .ok { settings with community := text }
  | .version => (choose [("1", .v1), ("2c", .v2c)] text).map fun version =>
      { settings with version }
  | .timeout => ((Decimal.Literal.parse text).mapError (.badValue <| .real ·)).map fun timeout =>
      { settings with timeout }
  | .retries => ((OptionValue.count text).mapError .badValue).map fun retries =>
      { settings with retries }
  | .carrier => (choose ([.udp, .pmppTcp].map fun carrier : Carrier => (carrier.name, carrier))
      text).map fun carrier => { settings with carrier }
  | .address => ((OptionValue.hexOctets text).mapError .badValue).map fun address =>
      { settings with address }
  | .control => ((OptionValue.hexOctet text).mapError .badValue).map fun control =>
      { settings with control }
  | .protocolId => ((OptionValue.hexOctets text).mapError .badValue).map fun protocolId =>
      { settings with protocolId }
  | .format => (choose ([.human, .json].map fun format : Format => (format.name, format))
      text).map fun format => { settings with format }

end Setting

inductive Flag where
  | verbose
  | timing
  | hex
  | noHints
  | help
  | version
  deriving DecidableEq, Repr

namespace Flag

def ofLong? : String → Option Flag
  | "verbose" => some verbose
  | "timing" => some timing
  | "hex" => some hex
  | "no-hints" => some noHints
  | "help" => some help
  | "version" => some version
  | _ => none

def ofShort? : Char → Option Flag
  | 'v' => some verbose
  | 'h' => some help
  | 'V' => some version
  | _ => none

/-- Only the first of them may be given more than once, and its count stops at 255. -/
def raise (flag : Flag) (settings : Settings) : Except ArgumentFault Settings :=
  let once (given : Bool) (raised : Settings) : Except ArgumentFault Settings :=
    if given then .error .repeated else .ok raised
  match flag with
  | .verbose => .ok { settings with verbosity := min 255 (settings.verbosity + 1) }
  | .timing => once settings.timing { settings with timing := true }
  | .hex => once settings.hex { settings with hex := true }
  | .noHints => once settings.noHints { settings with noHints := true }
  | .help => .error .help
  | .version => .error .version

end Flag

structure Progress where
  settings : Settings
  given : List Setting
  words : List String
  /-- The setting named last and its value, if that has come. -/
  pending : Option (Setting × Option String)
  /-- Behind two dashes every argument is a word. -/
  wordsOnly : Bool

namespace Progress

def start : Progress := ⟨.standard, [], [], none, false⟩

def assign (setting : Setting) (text : String) (progress : Progress) :
    Except ArgumentFault Progress :=
  if setting ∈ progress.given then .error .repeated
  else (setting.assign text progress.settings).map fun settings =>
    { progress with settings, given := setting :: progress.given }

def settle (progress : Progress) : Except ArgumentFault Progress :=
  match progress.pending with
  | none => .ok progress
  | some (_, none) => .error .noValue
  | some (setting, some text) => { progress with pending := none }.assign setting text

def name (setting : Setting) (value : Option String) (progress : Progress) :
    Except ArgumentFault Progress := do
  let progress ← progress.settle
  match value with
  | some text => progress.assign setting text
  | none => return { progress with pending := some (setting, none) }

def raise (flag : Flag) (progress : Progress) : Except ArgumentFault Progress := do
  let progress ← progress.settle
  let settings ← flag.raise progress.settings
  return { progress with settings }

def long (body : List Char) (progress : Progress) : Except ArgumentFault Progress :=
  let key := String.ofList (body.takeWhile (· ≠ '='))
  let value := match body.dropWhile (· ≠ '=') with
    | [] => none
    | _ :: text => some (String.ofList text)
  match Setting.ofLong? key, Flag.ofLong? key, value with
  | some setting, _, value => progress.name setting value
  | none, some flag, none => progress.raise flag
  | none, some _, some _ => .error .unneededValue
  | none, none, _ => .error .unknown

/-- Letters behind one dash. The first setting among them takes the rest as its value. -/
def cluster : List Char → Progress → Except ArgumentFault Progress
  | [], progress => .ok progress
  | letter :: rest, progress =>
      match Flag.ofShort? letter, Setting.ofShort? letter with
      | some flag, _ => do cluster rest (← progress.raise flag)
      | none, some setting =>
          let text := if rest.head? = some '=' then rest.tail else rest
          progress.name setting (if rest.isEmpty then none else some (String.ofList text))
      | none, none => .error .unknown

def word (tool : Tool) (text : String) (progress : Progress) : Except ArgumentFault Progress :=
  if tool = .walk ∧ 2 ≤ progress.words.length then .error .unknown
  else progress.settle.map fun progress => { progress with words := progress.words ++ [text] }

def take (tool : Tool) (progress : Progress) (argument : String) :
    Except ArgumentFault Progress :=
  if progress.wordsOnly then progress.word tool argument
  else match argument.toList with
    | ['-', '-'] => .ok { progress with wordsOnly := true }
    | '-' :: '-' :: body => progress.long body
    | '-' :: letter :: letters => progress.cluster (letter :: letters)
    | _ =>
        match progress.pending with
        | some (setting, none) =>
            .ok { progress with pending := some (setting, some argument) }
        | _ => progress.word tool argument

end Progress

structure Invocation where
  settings : Settings
  target : String
  names : List String
  deriving Repr

def Invocation.ofArguments (tool : Tool) (arguments : List String) :
    Except ArgumentFault Invocation := do
  let progress ← arguments.foldlM (Progress.take tool) .start
  let progress ← progress.settle
  match progress.words with
  | target :: name :: names => return ⟨progress.settings, target, name :: names⟩
  | _ => throw .missing

def usualService : Nat := 161

def unresolved (target : String) (fault : TargetFault) : String :=
  "cannot resolve '" ++ target ++ "': " ++ fault.message

end RoadsideSnmp.Console
