import ShadowGate.Number.Fixed

/-!
# Clock readings

A clock reading is a number of milliseconds since the start of 1970, and a duration is a
difference of two. `Time.text` writes a reading as a calendar date and time of day.
-/

namespace ShadowGate

/-- Milliseconds since the start of 1970. -/
abbrev Time : Type := Int

/-- A difference of clock readings, in milliseconds. -/
abbrev Duration : Type := Int

namespace Time

/-- Year, month and day of a day number, counted from the first of March of year zero in eras of
four hundred years. -/
def calendarDay (day : Int) : Int × Int × Int :=
  let shifted := day + 719468
  let era := Int.fdiv shifted 146097
  let inEra := shifted - era * 146097
  let year := (inEra - inEra / 1460 + inEra / 36524 - inEra / 146096) / 365
  let inYear := inEra - (365 * year + year / 4 - year / 100)
  let marchMonth := (5 * inYear + 2) / 153
  let dayOfMonth := inYear - (153 * marchMonth + 2) / 5 + 1
  let month := if marchMonth < 10 then marchMonth + 3 else marchMonth - 9
  (year + era * 400 + (if month ≤ 2 then 1 else 0), month, dayOfMonth)

/-- A number in at least `width` digits. -/
def padded (width : Nat) (n : Int) : String :=
  String.ofList (Number.padZeros width (Number.intChars n))

/-- The reading as date and time of day, with milliseconds unless they are zero. -/
def text (t : Time) : String :=
  let day := Int.fdiv t 86400000
  let ms := t - day * 86400000
  let (year, month, dayOfMonth) := calendarDay day
  let fraction := if ms % 1000 = 0 then "" else "." ++ padded 3 (ms % 1000)
  padded 4 year ++ "-" ++ padded 2 month ++ "-" ++ padded 2 dayOfMonth ++ "T"
    ++ padded 2 (ms / 3600000) ++ ":" ++ padded 2 (ms / 60000 % 60) ++ ":"
    ++ padded 2 (ms / 1000 % 60) ++ fraction ++ "Z"

end Time

end ShadowGate
