/-! Points in time as text. Seconds count from the beginning of 1970 in universal time; the text
gives year, month and day, then the time of day, then the offset from universal time. -/
namespace RoadsideSnmp.Timestamp

def isLeap (year : Nat) : Bool := (year % 4 = 0 && year % 100 ≠ 0) || year % 400 = 0

def yearLength (year : Nat) : Nat := if isLeap year then 366 else 365

def monthLengths (year : Nat) : List Nat :=
  [31, if isLeap year then 29 else 28, 31, 30, 31, 30, 31, 31, 30, 31, 30, 31]

/-- How many whole spans of the given lengths have passed, and the days since. -/
def passed : (lengths : List Nat) → (days : Nat) → Nat × Nat
  | [], days => (0, days)
  | length :: lengths, days =>
      if days < length then (0, days)
      else
        let (spans, rest) := passed lengths (days - length)
        (spans + 1, rest)

def padded (width number : Nat) : String :=
  let digits := toString number
  String.ofList (List.replicate (width - digits.length) '0') ++ digits

def date (days : Nat) : String :=
  let (years, day) := passed ((List.range (days / 365 + 1)).map (yearLength <| 1970 + ·)) days
  let (months, day) := passed (monthLengths (1970 + years)) day
  "-".intercalate [padded 4 (1970 + years), padded 2 (months + 1), padded 2 (day + 1)]

def timeOfDay (seconds : Nat) : String :=
  ":".intercalate [padded 2 (seconds / 3600), padded 2 (seconds / 60 % 60),
    padded 2 (seconds % 60)]

def text (seconds : Nat) : String :=
  date (seconds / 86400) ++ "T" ++ timeOfDay (seconds % 86400) ++ "+00:00"

end RoadsideSnmp.Timestamp
