import RoadsideSnmp.Octets

/-! Addresses of agents: a numeric host, of the fourth or the sixth version, and a service number.
The strict form is four decimal numbers or, between brackets, up to eight hexadecimal groups;
failing that the text is cut at its last colon and the host may have one of the older forms. -/
namespace RoadsideSnmp.Console

inductive Host where
  | v4 (address : Nat)
  /-- Eight groups of 16 bits, and the scope that a local address is valid in. -/
  | v6 (groups : List Nat) (scope : Nat)
  deriving DecidableEq, Repr

structure Target where
  host : Host
  service : Nat
  deriving DecidableEq, Repr

inductive TargetFault where
  | badService
  | unknownHost
  deriving DecidableEq, Repr

def TargetFault.message : TargetFault → String
  | .badService => "invalid port value"
  | .unknownHost => "failed to lookup address information: Name or service not known"

namespace Host

def digit? (base : Nat) (character : Char) : Option Nat :=
  let lower := character.toLower
  let value :=
    if lower.isDigit then lower.toNat - '0'.toNat
    else if 'a' ≤ lower ∧ lower ≤ 'f' then lower.toNat - 'a'.toNat + 10
    else 16
  if value < base then some value else none

def number? (base : Nat) (digits : List Char) : Option Nat :=
  if digits.isEmpty then none
  else digits.foldlM (fun total character =>
    (digit? base character).map fun digit => total * base + digit) 0

def octet? (digits : List Char) : Option Nat :=
  if 3 < digits.length ∨ (digits.head? = some '0' ∧ 1 < digits.length) then none
  else (number? 10 digits).filter (· < 256)

def dotted? (text : List Char) : Option Nat :=
  match (text.splitOn '.').mapM octet? with
  | some [a, b, c, d] => some (((a * 256 + b) * 256 + c) * 256 + d)
  | _ => none

/-- A number in the base that its beginning says: sixteen, eight or ten. -/
def anyNumber? : List Char → Option Nat
  | '0' :: 'x' :: digits | '0' :: 'X' :: digits => number? 16 digits
  | '0' :: digit :: digits => number? 8 (digit :: digits)
  | digits => number? 10 digits

/-- One to four numbers, the last of which fills all the octets that are left. -/
def loose? (text : List Char) : Option Nat :=
  match (text.splitOn '.').mapM anyNumber? with
  | none => none
  | some numbers =>
      let front := numbers.dropLast
      let last := numbers.getLastD 0
      if 4 < numbers.length ∨ front.any (256 ≤ ·) ∨ Nat.pow 256 (4 - front.length) ≤ last then none
      else some (front.foldl (fun total number => total * 256 + number) 0 *
        Nat.pow 256 (4 - front.length) + last)

def group? (digits : List Char) : Option Nat :=
  if 4 < digits.length then none else number? 16 digits

/-- Groups with colons between; the last two may be written as an address of the fourth version
where that is allowed. -/
def groups? (dottedAllowed : Bool) : List (List Char) → Option (List Nat)
  | [] => some []
  | [last] =>
      match group? last with
      | some group => some [group]
      | none =>
          if dottedAllowed then
            (dotted? last).map fun address => [address / 65536, address % 65536]
          else none
  | part :: parts => do
      let group ← group? part
      let groups ← groups? dottedAllowed parts
      return group :: groups

def groupList? (dottedAllowed : Bool) (text : List Char) : Option (List Nat) :=
  if text.isEmpty then some [] else groups? dottedAllowed (text.splitOn ':')

def splitGap? : List Char → Option (List Char × List Char)
  | ':' :: ':' :: rest => some ([], rest)
  | [] => none
  | character :: rest => (splitGap? rest).map fun (front, back) => (character :: front, back)

/-- Eight groups, or fewer around one pair of colons that stands for groups of zero. -/
def colons? (text : List Char) : Option (List Nat) :=
  match splitGap? text with
  | none => (groupList? true text).filter (·.length = 8)
  | some (front, back) => do
      let front ← groupList? false front
      let back ← groupList? true back
      if front.length + back.length < 8 then
        return front ++ List.replicate (8 - front.length - back.length) 0 ++ back
      else none

/-- A number below 2 ^ 32 behind a percent sign names the scope. -/
def scoped? (text : List Char) : Option Host :=
  let address := text.takeWhile (· ≠ '%')
  match text.dropWhile (· ≠ '%') with
  | [] => (colons? address).map (v6 · 0)
  | _ :: digits => do
      let groups ← colons? address
      let scope ← (number? 10 digits).filter (· < Nat.pow 2 32)
      return v6 groups scope

def numeric? (text : List Char) : Option Host := ((loose? text).map v4).or (scoped? text)

def dottedText (address : Nat) : String :=
  ".".intercalate ((Octets.ofNat 4 address).map fun octet => toString octet.toNat)

/-- The longest run of zeros from here on, the first of equal ones: its place and its length. -/
def zeroRun : (place : Nat) → List Nat → Nat × Nat
  | _, [] => (0, 0)
  | place, group :: groups =>
      let here := ((group :: groups).takeWhile (· = 0)).length
      let later := zeroRun (place + 1) groups
      if later.2 ≤ here then (place, here) else later

def hexGroups (groups : List Nat) : String :=
  ":".intercalate (groups.map fun group => String.ofList (Nat.toDigits 16 group))

def groupsText (groups : List Nat) : String :=
  if groups.take 6 = [0, 0, 0, 0, 0, 0xFFFF] then
    "::ffff:" ++ dottedText (groups.getD 6 0 * 65536 + groups.getD 7 0)
  else
    let (place, length) := zeroRun 0 groups
    if length < 2 then hexGroups groups
    else hexGroups (groups.take place) ++ "::" ++ hexGroups (groups.drop (place + length))

def text : Host → String
  | v4 address => dottedText address
  | v6 groups scope =>
      "[" ++ groupsText groups ++ (if scope = 0 then "" else "%" ++ toString scope) ++ "]"

end Host

namespace Target

def text (target : Target) : String := target.host.text ++ ":" ++ toString target.service

def splitService? (text : List Char) : Option (List Char × List Char) :=
  let service := (text.reverse.takeWhile (· ≠ ':')).reverse
  if service.length < text.length then
    some (text.take (text.length - service.length - 1), service)
  else none

def service? (digits : List Char) : Option Nat := (Host.number? 10 digits).filter (· < 65536)

def strictHost? (text : List Char) : Option Host :=
  match text with
  | '[' :: inside =>
      if inside.getLast? = some ']' then Host.scoped? inside.dropLast else none
  | other => (Host.dotted? other).map .v4

/-- A sign in front of the service number is ignored where the host alone decides. -/
def unsigned (digits : List Char) : List Char :=
  if digits.head? = some '+' then digits.tail else digits

def ofText (text : List Char) : Except TargetFault Target :=
  match splitService? text with
  | none => .error .badService
  | some (host, service) =>
      match strictHost? host, service? service, service? (unsigned service) with
      | some host, some service, _ => .ok ⟨host, service⟩
      | _, _, none => .error .badService
      | _, _, some service =>
          match Host.numeric? host with
          | some host => .ok ⟨host, service⟩
          | none => .error .unknownHost

/-- Whether the text names a service itself. A colon inside brackets does not. -/
def namesService (text : List Char) : Bool :=
  (text.contains ':' && text.head? ≠ some '[') || (text.zip text.tail).contains (']', ':')

/-- The agent's address; the usual service number is used unless the text names one. -/
def resolve (usual : Nat) (text : String) : Except TargetFault Target :=
  let characters := text.toList
  let service := if namesService characters then [] else ':' :: (toString usual).toList
  ofText (characters ++ service)

end Target
end RoadsideSnmp.Console
