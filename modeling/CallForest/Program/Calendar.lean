import CallForest.Program.Numeral

/-!
# The calendar

Days, months and years of a time that is given in seconds, and the texts that a format makes of a
time. The time at the prime meridian is the only one.
-/

namespace CallForest

/-- A time of a day of the calendar. -/
structure Moment where
  year : Int
  month : Nat
  day : Nat
  hour : Nat
  minute : Nat
  second : Nat
  deriving DecidableEq, Repr

namespace Calendar

/-- The days from the first of March of the year zero to a day, in years that begin in March. -/
def daysSinceMarch (year : Int) (month day : Nat) : Int :=
  let y := if month ≤ 2 then year - 1 else year
  let m := (month + 9) % 12
  365 * y + y.fdiv 4 - y.fdiv 100 + y.fdiv 400 + ((153 * m + 2) / 5 : Nat) + (day : Int) - 1

/-- The days from the first of January 1970 to a day. -/
def daysTo (year : Int) (month day : Nat) : Int :=
  daysSinceMarch year month day - daysSinceMarch 1970 1 1

/-- The year, the month and the day that so many days from the first of January 1970 lead to. -/
def date (days : Int) : Int × Nat × Nat :=
  let z := days + daysSinceMarch 1970 1 1
  let era := z.fdiv 146097
  let dayOfEra := (z - era * 146097).toNat
  let yearOfEra := (dayOfEra - dayOfEra / 1460 + dayOfEra / 36524 - dayOfEra / 146096) / 365
  let dayOfYear := dayOfEra - (365 * yearOfEra + yearOfEra / 4 - yearOfEra / 100)
  let m := (5 * dayOfYear + 2) / 153
  let month := if m < 10 then m + 3 else m - 9
  let year := era * 400 + (yearOfEra : Int) + (if month ≤ 2 then 1 else 0)
  (year, month, dayOfYear - (153 * m + 2) / 5 + 1)

/-- The seconds of a day. -/
def daySeconds : Int := 86400

/-- The moment of a time in seconds. -/
def moment (time : Int) : Moment :=
  let (year, month, day) := date (time.fdiv daySeconds)
  let rest := (time.fmod daySeconds).toNat
  ⟨year, month, day, rest / 3600, rest / 60 % 60, rest % 60⟩

/-- The time of a moment, in seconds. -/
def seconds (m : Moment) : Int :=
  daysTo m.year m.month m.day * daySeconds + ((m.hour * 60 + m.minute) * 60 + m.second : Nat)

/-- The day of the week, from Sunday on. -/
def weekday (time : Int) : Nat := ((time.fdiv daySeconds + 4).fmod 7).toNat

/-- The day of the year, from zero on. -/
def dayOfYear (time : Int) : Nat :=
  (time.fdiv daySeconds - daysTo (moment time).year 1 1).toNat

/-- Whether a year has a day more. -/
def isLeap (year : Int) : Bool :=
  year.fmod 4 == 0 && (year.fmod 100 != 0 || year.fmod 400 == 0)

/-- The number of days in a month. -/
def daysIn (year : Int) (month : Nat) : Nat :=
  if month = 2 then (if isLeap year then 29 else 28)
  else if month ∈ [4, 6, 9, 11] then 30
  else 31

/-- The names of the days of the week. -/
def weekdayNames : List String :=
  ["Sunday", "Monday", "Tuesday", "Wednesday", "Thursday", "Friday", "Saturday"]

/-- The names of the months. -/
def monthNames : List String :=
  ["January", "February", "March", "April", "May", "June", "July", "August", "September",
    "October", "November", "December"]

/-- The week of the year by the rule that a week belongs to the year of its Thursday, and that
year. -/
def isoWeek (time : Int) : Nat × Int :=
  let day := time.fdiv daySeconds
  let thursday := day - (((weekday time + 6) % 7 : Nat) : Int) + 3
  let (year, _, _) := date thursday
  (((thursday - daysTo year 1 1).toNat) / 7 + 1, year)

/-! ## Formats -/

/-- A number with a filling in front up to a width. -/
def padded (filling : Option Char) (width : Nat) (n : Int) : Octets :=
  let digits := Text.decimal n.natAbs
  let sign := if n < 0 then ['-'] else []
  match filling with
  | none => sign ++ digits
  | some ' ' => List.replicate (width - sign.length - digits.length) ' ' ++ sign ++ digits
  | some c => sign ++ List.replicate (width - sign.length - digits.length) c ++ digits

/-- What stands behind a percent sign in front of the letter. -/
structure Flags where
  /-- What numbers are filled up with, if something is said of that. -/
  filling : Option (Option Char)
  upper : Bool
  /-- Whether the case of letters is changed. -/
  swaps : Bool
  width : Option Nat

/-- No flags. -/
def Flags.plain : Flags := ⟨none, false, false, none⟩

/-- Reads flags, and gives the rest of the text. -/
def readFlags (f : Flags) : Octets → Flags × Octets
  | '-' :: cs => readFlags { f with filling := some none } cs
  | '_' :: cs => readFlags { f with filling := some (some ' ') } cs
  | '0' :: cs => readFlags { f with filling := some (some '0') } cs
  | '^' :: cs => readFlags { f with upper := true } cs
  | '#' :: cs => readFlags { f with swaps := true } cs
  | '+' :: cs => readFlags f cs
  | cs =>
    let digits := cs.takeWhile Char.isDigit
    if digits.isEmpty then (f, cs)
    else ({ f with width := some (Numeral.digitsFrom 10 0 digits).1 }, cs.drop digits.length)

/-- A short name of three letters. -/
def short (name : String) : Octets := name.toList.take 3

/-- The text of a letter of a format for a time, with billionths of a second; none if the letter
stands for nothing. Letters that stand for formats themselves have none either. -/
def field? (f : Flags) (time : Int) (fraction : Nat) (letter : Char) : Option Octets :=
  let m := moment time
  let number (filling : Char) (width : Nat) (n : Int) : Octets :=
    padded (f.filling.getD (some filling)) (max width (f.width.getD 0)) n
  let text (swapped : Octets → Octets) (s : Octets) : Octets :=
    let s := if f.upper then s.map Char.toUpper else if f.swaps then swapped s else s
    List.replicate (f.width.getD 0 - s.length) (if f.filling = some (some '0') then '0' else ' ')
      ++ s
  let upper (s : Octets) : Octets := s.map Char.toUpper
  let lower (s : Octets) : Octets := s.map Char.toLower
  let week (first : Nat) : Nat := (dayOfYear time + 7 - (weekday time + 7 - first) % 7) / 7
  let halfDay : Octets := if m.hour < 12 then ['A', 'M'] else ['P', 'M']
  let twelve : Nat := if m.hour % 12 = 0 then 12 else m.hour % 12
  match letter with
  | 'Y' => some (number '0' 1 m.year)
  | 'C' => some (number '0' 2 (m.year.fdiv 100))
  | 'y' => some (number '0' 2 (m.year.fmod 100))
  | 'm' => some (number '0' 2 m.month)
  | 'd' => some (number '0' 2 m.day)
  | 'e' => some (number ' ' 2 m.day)
  | 'H' => some (number '0' 2 m.hour)
  | 'k' => some (number ' ' 2 m.hour)
  | 'I' => some (number '0' 2 twelve)
  | 'l' => some (number ' ' 2 twelve)
  | 'M' => some (number '0' 2 m.minute)
  | 'S' => some (number '0' 2 m.second)
  | 's' => some (number '0' 1 time)
  | 'N' => some (((number '0' 9 (fraction : Int))).take (f.width.getD 9))
  | 'j' => some (number '0' 3 (dayOfYear time + 1 : Nat))
  | 'q' => some (number '0' 1 ((m.month + 2) / 3 : Nat))
  | 'u' => some (number '0' 1 (if weekday time = 0 then 7 else weekday time : Nat))
  | 'w' => some (number '0' 1 (weekday time))
  | 'U' => some (number '0' 2 (week 0))
  | 'W' => some (number '0' 2 (week 1))
  | 'V' => some (number '0' 2 (isoWeek time).1)
  | 'G' => some (number '0' 1 (isoWeek time).2)
  | 'g' => some (number '0' 2 ((isoWeek time).2.fmod 100))
  | 'a' => some (text upper (short (weekdayNames.getD (weekday time) "")))
  | 'A' => some (text upper (weekdayNames.getD (weekday time) "").toList)
  | 'b' | 'h' => some (text upper (short (monthNames.getD (m.month - 1) "")))
  | 'B' => some (text upper (monthNames.getD (m.month - 1) "").toList)
  | 'p' => some (text lower halfDay)
  | 'P' => some (text id (lower halfDay))
  | 'z' => some "+0000".toList
  | 'Z' => some (text lower "UTC".toList)
  | 'n' => some ['\n']
  | 't' => some ['\t']
  | '%' => some ['%']
  | _ => none

/-- The formats that letters stand for. -/
def composite? : Char → Option String
  | 'F' => some "%Y-%m-%d"
  | 'T' | 'X' => some "%H:%M:%S"
  | 'D' | 'x' => some "%m/%d/%y"
  | 'R' => some "%H:%M"
  | 'r' => some "%I:%M:%S %p"
  | 'c' => some "%a %b %e %H:%M:%S %Y"
  | _ => none

/-- The text that a format makes of a time. The first argument bounds the number of its letters. -/
def format (time : Int) (fraction : Nat) : Nat → Octets → Octets
  | 0, _ => []
  | _ + 1, [] => []
  | steps + 1, '%' :: cs =>
    let (f, rest) := readFlags .plain cs
    let (letter?, behind) : Option Char × Octets :=
      match rest with
      | ':' :: 'z' :: more => (some ':', more)
      | 'E' :: c :: more | 'O' :: c :: more => (some c, more)
      | c :: more => (some c, more)
      | [] => (none, [])
    match letter? with
    | none => '%' :: cs
    | some ':' => "+00:00".toList ++ format time fraction steps behind
    | some letter =>
      match field? f time fraction letter, composite? letter with
      | some s, _ => s ++ format time fraction steps behind
      | none, some inner =>
        let s := inner.toList.splitOn '%' |>.flatMap fun part =>
          match part with
          | [] => []
          | c :: literal => (field? .plain time fraction c).getD [] ++ literal
        let s := if f.upper then s.map Char.toUpper else s
        List.replicate (f.width.getD 0 - s.length) ' ' ++ s ++ format time fraction steps behind
      | none, none =>
        '%' :: cs.take (cs.length - behind.length) ++ format time fraction steps behind
  | steps + 1, c :: cs => c :: format time fraction steps cs

/-- The text that a format makes of a time. -/
def shown (time : Int) (fraction : Nat) (s : Octets) : Octets :=
  format time fraction (s.length + 1) s

end Calendar

end CallForest
