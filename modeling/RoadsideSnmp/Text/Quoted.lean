import RoadsideSnmp.Text.Unprintable

/-! Text between double quotes, as the diagnostic dump shows it. Quotes and backslashes are
marked, the usual blanks have letters, and any other character that cannot be seen is shown by
its number. -/
namespace RoadsideSnmp.Quoted

def hexNumber (number : Nat) : List Char := Nat.toDigits 16 number

def escape (character : Char) : List Char :=
  match character with
  | '"' => ['\\', '"']
  | '\\' => ['\\', '\\']
  | '\n' => ['\\', 'n']
  | '\r' => ['\\', 'r']
  | '\t' => ['\\', 't']
  | '\x00' => ['\\', '0']
  | other =>
      if isUnprintable other then ['\\', 'u', '\x7b'] ++ hexNumber other.toNat ++ ['\x7d']
      else [other]

def quote (text : String) : String :=
  String.ofList ('"' :: text.toList.flatMap escape ++ ['"'])

end RoadsideSnmp.Quoted
