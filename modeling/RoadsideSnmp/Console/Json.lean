import RoadsideSnmp.Decimal.Shortest

/-! The values of a report and their text: two blanks a level, one member or element a line, and
the members of an object in the order given. -/
namespace RoadsideSnmp.Console

inductive Json where
  | null
  | text (text : String)
  | integer (number : Int)
  | number (number : Binary64)
  | list (elements : List Json)
  | object (members : List (String × Json))

namespace Json

def hexDigits (number : Nat) : List Char :=
  [Nat.digitChar (number / 16 % 16), Nat.digitChar (number % 16)]

/-- Quotes, backslashes and the first 32 characters cannot stand for themselves. -/
def escape (character : Char) : List Char :=
  match character with
  | '"' => ['\\', '"']
  | '\\' => ['\\', '\\']
  | '\n' => ['\\', 'n']
  | '\r' => ['\\', 'r']
  | '\t' => ['\\', 't']
  | '\x08' => ['\\', 'b']
  | '\x0c' => ['\\', 'f']
  | other =>
      if other.toNat < 0x20 then ['\\', 'u', '0', '0'] ++ hexDigits other.toNat else [other]

def quote (text : String) : String := String.ofList ('"' :: text.toList.flatMap escape ++ ['"'])

def margin (level : Nat) : String := String.ofList (List.replicate (2 * level) ' ')

def enclosed (level : Nat) (left right : String) (items : List String) : String :=
  if items.isEmpty then left ++ right
  else
    let lines := items.map fun item => "\n" ++ margin (level + 1) ++ item
    left ++ ",".intercalate lines ++ "\n" ++ margin level ++ right

mutual

def render (level : Nat) : Json → String
  | .null => "null"
  | .text content => quote content
  | .integer value => toString value
  | .number value => value.text
  | .list elements => enclosed level "[" "]" (renderElements (level + 1) elements)
  | .object members => enclosed level "\x7b" "\x7d" (renderMembers (level + 1) members)

def renderElements (level : Nat) : List Json → List String
  | [] => []
  | element :: elements => render level element :: renderElements level elements

def renderMembers (level : Nat) : List (String × Json) → List String
  | [] => []
  | (key, value) :: members =>
      (quote key ++ ": " ++ render level value) :: renderMembers level members

end

end Json
end RoadsideSnmp.Console
