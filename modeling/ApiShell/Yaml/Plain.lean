import ApiShell.Binary64.Reader
import ApiShell.Value.Basic
import ApiShell.Yaml.Token

/-! What a scalar without quotes means: nothing, a truth value, a number, a moment, or else its
own text. Numbers may be grouped by underscores and written in base two, eight, ten, sixteen and
sixty. -/

namespace ApiShell.Yaml

namespace Plain

/-! ## Words -/

/-- The spellings of true. -/
def trueWords : List String :=
  ["yes", "Yes", "YES", "true", "True", "TRUE", "on", "On", "ON"]

/-- The spellings of false. -/
def falseWords : List String :=
  ["no", "No", "NO", "false", "False", "FALSE", "off", "Off", "OFF"]

/-- The spellings of nothing. -/
def nullWords : List String :=
  ["", "~", "null", "Null", "NULL"]

/-! ## Numerals -/

/-- The sign in front of a numeral, and the rest of it. -/
def signed : List Char → Bool × List Char
  | '-' :: rest => (true, rest)
  | '+' :: rest => (false, rest)
  | chars => (false, chars)

/-- Whether a character is one of the ten digits. -/
abbrev isDigit (c : Char) : Bool := Binary64.isDigit c

/-- Whether a character is a digit or groups digits. -/
def isGrouped (c : Char) : Bool := isDigit c || c = '_'

/-- The digits without the underscores that group them. -/
def ungrouped (chars : List Char) : List Char :=
  chars.filter (· ≠ '_')

/-- The value of a digit in bases up to sixteen. -/
def digitValue (c : Char) : Nat :=
  if c.toNat < 'A'.toNat then c.toNat - '0'.toNat
  else c.toLower.toNat - 'a'.toNat + 10

/-- The number that digits write in a base. -/
def inBase (base : Nat) (digits : List Char) : Nat :=
  digits.foldl (fun total c => total * base + digitValue c) 0

/-- Whether the pieces behind the first of a numeral in base sixty are numbers below sixty. -/
def isSixtieth : List Char → Bool
  | [d] => isDigit d
  | [t, d] => '0' ≤ t && t ≤ '5' && isDigit d
  | _ => false

/-- Whether a piece starts with a digit and goes on with grouped digits. -/
def startsNumeral : List Char → Bool
  | [] => false
  | d :: rest => isDigit d && rest.all isGrouped

/-- The digits in a base behind their mark; there must be one besides underscores. -/
def marked (base : Nat) (negative : Bool) (digits : List Char) : Except Fault Value :=
  match ungrouped digits with
  | [] => .error (.outOfRange ("invalid literal for int() with base " ++ toString base ++ ": ''"))
  | ds => .ok (.int (if negative then -(inBase base ds : Int) else inBase base ds))

/-- The whole number that a scalar writes, if it has the form of one. -/
def integer? (chars : List Char) : Option (Except Fault Value) :=
  let (negative, body) := signed chars
  let number (n : Nat) : Option (Except Fault Value) :=
    some (.ok (.int (if negative then -(n : Int) else n)))
  match body with
  | ['0'] => number 0
  | '0' :: 'b' :: digits =>
    if digits ≠ [] ∧ digits.all (fun c => c = '0' || c = '1' || c = '_') then
      some (marked 2 negative digits)
    else none
  | '0' :: 'x' :: digits =>
    if digits ≠ [] ∧ digits.all (fun c => isGrouped c || ('a' ≤ c && c ≤ 'f') ||
        ('A' ≤ c && c ≤ 'F')) then
      some (marked 16 negative digits)
    else none
  | '0' :: digits =>
    if digits.all (fun c => ('0' ≤ c && c ≤ '7') || c = '_') then
      number (inBase 8 (ungrouped digits))
    else none
  | first :: _ =>
    if !isDigit first then none
    else match Text.splitOn ':' body with
      | [digits] => if digits.all isGrouped then number (inBase 10 (ungrouped digits)) else none
      | digits :: sixtieths =>
        if digits.all isGrouped && sixtieths.all isSixtieth then
          number (sixtieths.foldl (fun total ds => total * 60 + inBase 10 ds)
            (inBase 10 (ungrouped digits)))
        else none
      | [] => none
  | [] => none

/-- The exponent at the end of a fraction, which has to have a sign. -/
def exponent? : List Char → Option Int
  | [] => some 0
  | mark :: sign :: digits =>
    if (mark = 'e' ∨ mark = 'E') ∧ (sign = '-' ∨ sign = '+') ∧ digits ≠ [] ∧ digits.all isDigit then
      let n : Int := inBase 10 digits
      some (if sign = '-' then -n else n)
    else none
  | _ => none

/-- The number of a fraction in base ten, given what stands before its point. -/
def decimal? (negative : Bool) (whole behind : List Char) : Option (Except Fault Value) :=
  let fraction := ungrouped (behind.takeWhile isGrouped)
  (exponent? (behind.dropWhile isGrouped)).map fun exponent =>
    .ok (.float (Binary64.ofParts negative (ungrouped whole) fraction exponent))

/-- A fraction in base sixty: each piece counts sixty times the next one. There are at most as
many pieces as powers of sixty that are no infinity. -/
def sexagesimal (negative : Bool) (pieces : List (List Char)) (fraction : List Char) :
    Except Fault Value :=
  let digits : List Binary64 := match pieces.reverse with
    | [] => []
    | last :: more =>
      Binary64.ofParts false (ungrouped last) (ungrouped fraction) 0 ::
        more.map fun ds => Binary64.ofParts false (ungrouped ds) [] 0
  let total := (digits.foldl (fun (total, base) digit =>
    (Binary64.add total (Binary64.mul digit (Binary64.nearest false base 1)), base * 60))
    (Binary64.zero false, 1)).1
  match Binary64.nearest false (Nat.pow 60 (pieces.length - 1)) 1 with
  | .infinite _ => .error (.tooLarge "int too large to convert to float")
  | _ => .ok (.float (if negative then total.neg else total))

/-- The fraction that a scalar writes, if it has the form of one. -/
def fraction? (chars : List Char) : Option (Except Fault Value) :=
  let (negative, body) := signed chars
  let word := String.ofList body
  if [".inf", ".Inf", ".INF"].contains word then some (.ok (.float (.infinite negative)))
  else if [".nan", ".NaN", ".NAN"].contains (String.ofList chars) then some (.ok (.float .nan))
  else match chars with
    | '.' :: behind =>
      if behind.head?.any isDigit then decimal? false [] behind else none
    | _ =>
      match body.span (· ≠ '.') with
      | (whole, '.' :: behind) =>
        match Text.splitOn ':' whole with
        | [digits] => if startsNumeral digits then decimal? negative digits behind else none
        | digits :: sixtieths =>
          if startsNumeral digits && sixtieths.all isSixtieth && behind.all isGrouped then
            some (sexagesimal negative (digits :: sixtieths) behind)
          else none
        | [] => none
      | _ => none

/-! ## Moments -/

/-- The number of one to `most` digits that come next, and what follows. -/
def number? (least most : Nat) (chars : List Char) : Option (Nat × List Char) :=
  let digits := (chars.take most).takeWhile isDigit
  if digits.length < least then none else some (inBase 10 digits, chars.drop digits.length)

/-- What follows a character, if it comes next. -/
def after? (c : Char) : List Char → Option (List Char)
  | [] => none
  | d :: rest => if c = d then some rest else none

/-- A year, a month and a day, and what follows. -/
def day? (least : Nat) (chars : List Char) : Option ((Nat × Nat × Nat) × List Char) := do
  let (year, rest) ← number? 4 4 chars
  let (month, rest) ← number? least 2 (← after? '-' rest)
  let (day, rest) ← number? least 2 (← after? '-' rest)
  pure ((year, month, day), rest)

/-- The offset of a zone up to the end of the text. -/
def zone? (chars : List Char) : Option (Option Int) :=
  match chars.dropWhile fun c => c = ' ' || c = '\t' with
  | [] => if chars.isEmpty then some none else none
  | ['Z'] => some (some 0)
  | sign :: rest => do
    if sign = '+' ∨ sign = '-' then
      let (hours, rest) ← number? 1 2 rest
      let minutes ← match rest with
        | [] => some 0
        | ':' :: rest => do
          let (minutes, rest) ← number? 2 2 rest
          if rest.isEmpty then some minutes else none
        | _ => none
      let offset : Int := hours * 60 + minutes
      pure (some (if sign = '-' then -offset else offset))
    else none

/-- The millionths that the digits of a fraction of a second write. -/
def micros (digits : List Char) : Nat :=
  let kept := digits.take 6
  inBase 10 kept * Nat.pow 10 (6 - kept.length)

/-- The moment that a scalar writes, if it has the form of one. -/
def moment? (chars : List Char) : Option Moment :=
  match day? 2 chars with
  | some ((year, month, day), []) => some (.date year month day)
  | _ => do
    let ((year, month, day), rest) ← day? 1 chars
    let rest ← match rest with
      | 'T' :: rest | 't' :: rest => some rest
      | c :: _ =>
        if c = ' ' ∨ c = '\t' then some (rest.dropWhile fun c => c = ' ' || c = '\t') else none
      | [] => none
    let (hour, rest) ← number? 1 2 rest
    let (minute, rest) ← number? 2 2 (← after? ':' rest)
    let (second, rest) ← number? 2 2 (← after? ':' rest)
    let (micro, rest) := match rest with
      | '.' :: more => (micros (more.takeWhile isDigit), more.dropWhile isDigit)
      | more => (0, more)
    let offset ← zone? rest
    pure (.time year month day hour minute second micro offset)

/-- What is wrong with a moment that is not in the calendar. -/
def momentFault (year month day hour minute second : Nat) : Option Reason :=
  if year = 0 then some ("year " ++ toString year ++ " is out of range")
  else if month = 0 ∨ 12 < month then some "month must be in 1..12"
  else if day = 0 ∨ Moment.daysIn year month < day then some "day is out of range for month"
  else if 23 < hour then some "hour must be in 0..23"
  else if 59 < minute then some "minute must be in 0..59"
  else if 59 < second then some "second must be in 0..59"
  else none

/-- What is wrong with the offset of a zone of a day or more. -/
def offsetFault (offset : Int) : Option Reason :=
  if offset.natAbs < 1440 then none
  else some ("offset must be a timedelta strictly between -timedelta(hours=24) and " ++
    "timedelta(hours=24), not " ++ Moment.spanText offset ++ ".")

/-- A moment that is in the calendar. The offset of its zone is looked at first. -/
def checked (m : Moment) : Except Fault Value :=
  let fault := match m with
    | .date year month day => momentFault year month day 0 0 0
    | .time year month day hour minute second _ offset =>
      (offset.bind offsetFault).or (momentFault year month day hour minute second)
  match fault with
  | some reason => .error (.outOfRange reason)
  | none => .ok (.moment m)

/-! ## Resolution -/

/-- The value of a scalar without quotes. The marks of merging and of a default value have none
here. -/
def value (text : String) : Except Fault Value :=
  let chars := text.toList
  if nullWords.contains text then .ok .null
  else if trueWords.contains text then .ok (.bool true)
  else if falseWords.contains text then .ok (.bool false)
  else if text = "<<" ∨ text = "=" then .error (.malformed "a mark without a value")
  else match integer? chars with
    | some result => result
    | none =>
      match fraction? chars with
      | some result => result
      | none =>
        match moment? chars with
        | some m => checked m
        | none => .ok (.text text)

end Plain

end ApiShell.Yaml
