/-!
Contract: moments in the journal.

Owns: the calendar date and time of day of a moment, counted in seconds from the first of
January 1970, and its two spellings.

Does not own: time zones. All moments are in universal time.
-/

namespace ForwardedClient.Journal

structure Date where
  year : Int
  month : Nat
  day : Nat
deriving DecidableEq

/-- The date of a day counted from the first of January 1970. Years are taken to begin in
March, so that a leap day is the last of its year; 400 of them have 146097 days. -/
def Date.ofDay (day : Int) : Date :=
  let shifted := day + 719468
  let era := shifted.fdiv 146097
  let dayOfEra := (shifted - era * 146097).toNat
  let yearOfEra :=
    (dayOfEra - dayOfEra / 1460 + dayOfEra / 36524 - dayOfEra / 146096) / 365
  let dayOfYear := dayOfEra - (365 * yearOfEra + yearOfEra / 4 - yearOfEra / 100)
  let part := (5 * dayOfYear + 2) / 153
  let month := if part < 10 then part + 3 else part - 9
  { year := yearOfEra + era * 400 + (if month ≤ 2 then 1 else 0)
    month
    day := dayOfYear - (153 * part + 2) / 5 + 1 }

def padNumber (width : Nat) (value : Int) : String :=
  let digits := Nat.toDigits 10 value.natAbs
  let sign := if value < 0 then "-" else ""
  sign ++ String.ofList (List.replicate (width - digits.length - sign.length) '0' ++ digits)

def momentText (seconds : Int) : String :=
  let day := seconds.fdiv 86400
  let second := seconds - day * 86400
  let date := Date.ofDay day
  toString date.year ++ "-" ++ padNumber 2 date.month ++ "-" ++ padNumber 2 date.day ++ " " ++
    padNumber 2 (second / 3600) ++ ":" ++ padNumber 2 (second / 60 % 60) ++ ":" ++
    padNumber 2 (second % 60)

/-- Date and time of a moment with its thousandths of a second after a comma. -/
def preciseMomentText (seconds thousandths : Int) : String :=
  momentText seconds ++ "," ++ padNumber 3 thousandths

end ForwardedClient.Journal
