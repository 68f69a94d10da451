import ApiShell.Text.Basic

/-! Calendar dates and points in time, as they occur in documents. -/

namespace ApiShell

/-- A calendar date, alone or with a time of day. -/
inductive Moment where
  | date (year month day : Nat)
  /-- The offset is that of the zone, in minutes, where one is given. -/
  | time (year month day hour minute second micro : Nat) (offset : Option Int)
  deriving DecidableEq, Repr

namespace Moment

/-- Whether a year has a twenty-ninth of February. -/
def isLeap (year : Nat) : Bool :=
  year % 4 == 0 && (year % 100 != 0 || year % 400 == 0)

/-- The number of days of a month. -/
def daysIn (year month : Nat) : Nat :=
  if month = 2 then (if isLeap year then 29 else 28)
  else if month = 4 ∨ month = 6 ∨ month = 9 ∨ month = 11 then 30
  else 31

/-- Whether there is such a moment in the calendar. -/
def Valid : Moment → Prop
  | .date year month day =>
    1 ≤ year ∧ 1 ≤ month ∧ month ≤ 12 ∧ 1 ≤ day ∧ day ≤ daysIn year month
  | .time year month day hour minute second _ _ =>
    1 ≤ year ∧ 1 ≤ month ∧ month ≤ 12 ∧ 1 ≤ day ∧ day ≤ daysIn year month ∧
      hour ≤ 23 ∧ minute ≤ 59 ∧ second ≤ 59

instance (m : Moment) : Decidable m.Valid := by
  cases m <;> simp only [Valid] <;> infer_instance

/-- The day in the order year, month, day. -/
def dayText (year month day : Nat) : String :=
  Text.padded 4 year ++ "-" ++ Text.padded 2 month ++ "-" ++ Text.padded 2 day

/-- The offset of a zone as hours and minutes. -/
def offsetText (offset : Int) : String :=
  (if offset < 0 then "-" else "+") ++ Text.padded 2 (offset.natAbs / 60) ++ ":" ++
    Text.padded 2 (offset.natAbs % 60)

/-- The moment as text. -/
def text : Moment → String
  | .date year month day => dayText year month day
  | .time year month day hour minute second micro offset =>
    dayText year month day ++ " " ++ Text.padded 2 hour ++ ":" ++ Text.padded 2 minute ++ ":" ++
      Text.padded 2 second ++ (if micro = 0 then "" else "." ++ Text.padded 6 micro) ++
      (match offset with | none => "" | some o => offsetText o)

/-- A span of minutes as a constructor expression, in days and in seconds that are not
negative. -/
def spanText (minutes : Int) : String :=
  let days := minutes / 1440
  let seconds := minutes % 1440 * 60
  let parts :=
    (if days = 0 then [] else ["days=" ++ toString days]) ++
    (if seconds = 0 then [] else ["seconds=" ++ toString seconds])
  "datetime.timedelta(" ++ (if parts.isEmpty then "0" else ", ".intercalate parts) ++ ")"

/-- The name of a zone in a constructor expression. -/
def zoneText (offset : Int) : String :=
  if offset = 0 then "datetime.timezone.utc" else "datetime.timezone(" ++ spanText offset ++ ")"

/-- The moment as a constructor expression; trailing zero seconds and fractions are left out. -/
def expression : Moment → String
  | .date year month day =>
    "datetime.date(" ++ ", ".intercalate ([year, month, day].map toString) ++ ")"
  | .time year month day hour minute second micro offset =>
    let tail := if micro ≠ 0 then [second, micro] else if second ≠ 0 then [second] else []
    let parts := ([year, month, day, hour, minute] ++ tail).map toString
    let zone := match offset with | none => [] | some o => ["tzinfo=" ++ zoneText o]
    "datetime.datetime(" ++ ", ".intercalate (parts ++ zone) ++ ")"

/-! ## Order in time -/

/-- The number of days from the first day of the calendar to a day. -/
def dayNumber (year month day : Nat) : Int :=
  let past := year - 1
  let months := (List.range (month - 1)).foldl (fun days m => days + daysIn year (m + 1)) 0
  past * 365 + past / 4 - past / 100 + past / 400 + months + day

/-- Millionths of a second from the first day of the calendar to a moment, by the clock of its
zone. -/
def clock (year month day hour minute second micro : Nat) : Int :=
  ((dayNumber year month day * 24 + hour) * 60 + minute) * 60000000 + second * 1000000 + micro

/-- Whether two moments are the same. Where both have a zone it is the point in time that counts;
a date is no point in time, nor is a time without a zone. -/
def same : Moment → Moment → Bool
  | .time y m d h n s u (some offset), .time y' m' d' h' n' s' u' (some offset') =>
    clock y m d h n s u - offset * 60000000 == clock y' m' d' h' n' s' u' - offset' * 60000000
  | a, b => a == b

end Moment

end ApiShell
