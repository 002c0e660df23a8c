import CallForest.Program.Calendar
import CallForest.Program.Options

/-!
# Dates

How times are written in arguments, and the program that shows times.

A text for a time is a sequence of parts: a date, a time of day, a number of seconds behind an at
sign, or a distance such as `2 days ago`. What is not said is taken from the present.
-/

namespace CallForest

namespace Date

/-- A part of a text for a time: a number, a word, or a sign. -/
inductive Symbol where
  | number (digits : Octets)
  | word (s : String)
  | sign (c : Char)
  deriving DecidableEq, Repr

/-- The symbols of a text. The first argument bounds their number. -/
def symbols : Nat → Octets → List Symbol
  | 0, _ => []
  | _ + 1, [] => []
  | steps + 1, c :: cs =>
    if Numeral.isBlank c then symbols steps cs
    else if c.isDigit then
      let digits := (c :: cs).takeWhile Char.isDigit
      .number digits :: symbols steps ((c :: cs).drop digits.length)
    else if c.isAlpha then
      let word := (c :: cs).takeWhile Char.isAlpha
      .word (String.ofList (word.map Char.toLower)) :: symbols steps ((c :: cs).drop word.length)
    else .sign c :: symbols steps cs

/-- What has been read of a text for a time. -/
structure Reading where
  date : Option (Int × Nat × Nat)
  clock : Option (Nat × Nat × Nat)
  fraction : Nat
  /-- The seconds by which the time of the place is ahead. -/
  ahead : Int
  weekday : Option Nat
  months : Int
  days : Int
  seconds : Int
  absolute : Option Int

/-- Nothing has been read yet. -/
def Reading.nothing : Reading := ⟨none, none, 0, 0, none, 0, 0, 0, none⟩

/-- The number of a name, or of the first three letters of one. -/
def numberOf? (names : List String) (word : String) : Option Nat :=
  names.findIdx? fun n =>
    let name := n.toList.map Char.toLower
    word.toList = name || (3 ≤ word.length && word.length ≤ 4 && word.toList.isPrefixOf name)

/-- Moves a reading by so many units of time; none if there is no such unit. -/
def Reading.moved? (r : Reading) (count : Int) (unit : String) : Option Reading :=
  match unit with
  | "year" | "years" => some { r with months := r.months + 12 * count }
  | "month" | "months" => some { r with months := r.months + count }
  | "fortnight" | "fortnights" => some { r with days := r.days + 14 * count }
  | "week" | "weeks" => some { r with days := r.days + 7 * count }
  | "day" | "days" => some { r with days := r.days + count }
  | "hour" | "hours" => some { r with seconds := r.seconds + 3600 * count }
  | "minute" | "minutes" | "min" | "mins" => some { r with seconds := r.seconds + 60 * count }
  | "second" | "seconds" | "sec" | "secs" => some { r with seconds := r.seconds + count }
  | _ => none

/-- The number that digits show. -/
def natural (digits : Octets) : Nat := (Numeral.digitsFrom 10 0 digits).1

/-- The year that digits show; two of them stand for one near the end of a century. -/
def yearOf (digits : Octets) : Int :=
  let n := natural digits
  if digits.length = 2 then (if n < 69 then 2000 + n else 1900 + n) else n

/-- Sets the time of day, which must be one. -/
def Reading.atClock? (r : Reading) (hour minute second : Nat) : Option Reading :=
  if r.clock.isSome || 23 < hour || 59 < minute || 60 < second then none
  else some { r with clock := some (hour, minute, second) }

/-- Sets the date, which must be one. -/
def Reading.onDate? (r : Reading) (year : Int) (month day : Nat) : Option Reading :=
  if r.date.isSome || month < 1 || 12 < month || day < 1 || Calendar.daysIn year month < day then
    none
  else some { r with date := some (year, month, day) }

/-- Billionths of a second that digits behind a dot show. -/
def billionths (digits : Octets) : Nat :=
  natural ((digits ++ List.replicate 9 '0').take 9)

/-- The hour of the day that an hour of half a day is. -/
def hourOf? (hour : Nat) (half : String) : Option Nat :=
  if hour < 1 || 12 < hour then none
  else if half = "am" then some (hour % 12)
  else some (hour % 12 + 12)

/-- Reads a text for a time. `year` is the present one. The first argument bounds the number of
parts. -/
def read? (year : Int) : Nat → Reading → List Symbol → Option Reading
  | 0, _, _ => none
  | _ + 1, r, [] => some r
  | steps + 1, r, s =>
    let next (r? : Option Reading) (rest : List Symbol) : Option Reading :=
      r?.bind fun r => read? year steps r rest
    let direction (rest : List Symbol) : Int × List Symbol :=
      match rest with
      | .word "ago" :: rest => (-1, rest)
      | rest => (1, rest)
    match s with
    | .sign '@' :: .sign '-' :: .number n :: rest =>
      next (some { r with absolute := some (-(natural n : Int)) }) rest
    | .sign '@' :: .number n :: .sign '.' :: .number f :: rest =>
      next (some { r with absolute := some (natural n : Int), fraction := billionths f }) rest
    | .sign '@' :: .number n :: rest =>
      next (some { r with absolute := some (natural n : Int) }) rest
    | .number h :: .sign ':' :: .number m :: .sign ':' :: .number s :: .sign '.' :: .number f ::
        rest =>
      next ((r.atClock? (natural h) (natural m) (natural s)).map fun r =>
        { r with fraction := billionths f }) rest
    | .number h :: .sign ':' :: .number m :: .sign ':' :: .number s :: rest =>
      match rest with
      | .word half :: rest' =>
        if half = "am" || half = "pm" then
          next ((hourOf? (natural h) half).bind fun h => r.atClock? h (natural m) (natural s)) rest'
        else next (r.atClock? (natural h) (natural m) (natural s)) rest
      | rest => next (r.atClock? (natural h) (natural m) (natural s)) rest
    | .number h :: .sign ':' :: .number m :: rest =>
      match rest with
      | .word half :: rest' =>
        if half = "am" || half = "pm" then
          next ((hourOf? (natural h) half).bind fun h => r.atClock? h (natural m) 0) rest'
        else next (r.atClock? (natural h) (natural m) 0) rest
      | rest => next (r.atClock? (natural h) (natural m) 0) rest
    | .number y :: .sign '-' :: .number m :: .sign '-' :: .number d :: rest =>
      let rest := match rest with
        | .word "t" :: more => more
        | more => more
      next (r.onDate? (yearOf y) (natural m) (natural d)) rest
    | .number m :: .sign '/' :: .number d :: .sign '/' :: .number y :: rest =>
      if 4 ≤ m.length then next (r.onDate? (yearOf m) (natural d) (natural y)) rest
      else next (r.onDate? (yearOf y) (natural m) (natural d)) rest
    | .number m :: .sign '/' :: .number d :: rest =>
      next (r.onDate? year (natural m) (natural d)) rest
    | .sign '+' :: .number n :: .word unit :: rest =>
      if r.clock.isSome && (r.moved? 0 unit).isNone then
        read? year steps { r with ahead := ahead n } (.word unit :: rest)
      else
        let (sign, rest) := direction rest
        next (r.moved? (sign * natural n) unit) rest
    | .sign '-' :: .number n :: .word unit :: rest =>
      if r.clock.isSome && (r.moved? 0 unit).isNone then
        read? year steps { r with ahead := -ahead n } (.word unit :: rest)
      else
        let (sign, rest) := direction rest
        next (r.moved? (-sign * natural n) unit) rest
    | .sign '+' :: .number h :: .sign ':' :: .number m :: rest =>
      next (some { r with ahead := 3600 * natural h + 60 * natural m }) rest
    | .sign '-' :: .number h :: .sign ':' :: .number m :: rest =>
      next (some { r with ahead := -(3600 * natural h + 60 * natural m : Nat) }) rest
    | .sign '+' :: .number n :: rest => next (some { r with ahead := ahead n }) rest
    | .sign '-' :: .number n :: rest => next (some { r with ahead := -ahead n }) rest
    | .number n :: .word w :: rest =>
      match numberOf? Calendar.monthNames w with
      | some m =>
        match rest with
        | .number y :: more =>
          if 4 ≤ y.length && more.head? ≠ some (.sign ':') then
            next (r.onDate? (yearOf y) (m + 1) (natural n)) more
          else next (r.onDate? year (m + 1) (natural n)) rest
        | rest => next (r.onDate? year (m + 1) (natural n)) rest
      | none =>
        if w = "am" || w = "pm" then
          next ((hourOf? (natural n) w).bind fun h => r.atClock? h 0 0) rest
        else if n.length = 8 && w = "t" then
          next (r.onDate? (natural (n.take 4)) (natural ((n.drop 4).take 2)) (natural (n.drop 6)))
            rest
        else
          let (sign, rest) := direction rest
          next (r.moved? (sign * natural n) w) rest
    | .word w :: rest =>
      match numberOf? Calendar.monthNames w, rest with
      | some m, .number d :: .sign ',' :: .number y :: rest
      | some m, .number d :: .number y :: rest =>
        if 4 ≤ y.length then next (r.onDate? (yearOf y) (m + 1) (natural d)) rest
        else next (r.onDate? year (m + 1) (natural d)) (.number y :: rest)
      | some m, .number d :: rest => next (r.onDate? year (m + 1) (natural d)) rest
      | _, rest =>
        match numberOf? Calendar.weekdayNames w with
        | some n => next (some { r with weekday := some n }) rest
        | none =>
          match w with
          | "now" | "today" | "z" | "utc" | "gmt" => next (some r) rest
          | "yesterday" => next (some { r with days := r.days - 1 }) rest
          | "tomorrow" => next (some { r with days := r.days + 1 }) rest
          | "midnight" => next (r.atClock? 0 0 0) rest
          | "noon" => next (r.atClock? 12 0 0) rest
          | "next" | "last" | "this" =>
            match rest with
            | .word unit :: rest =>
              let count : Int := if w = "next" then 1 else if w = "last" then -1 else 0
              next (r.moved? count unit) rest
            | _ => none
          | w =>
            let (sign, rest) := direction rest
            next (r.moved? sign w) rest
    | .number n :: rest =>
      if n.length = 8 then
        next (r.onDate? (natural (n.take 4)) (natural ((n.drop 4).take 2)) (natural (n.drop 6)))
          rest
      else if n.length ≤ 2 then next (r.atClock? (natural n) 0 0) rest
      else if n.length = 4 then
        next (r.atClock? (natural (n.take 2)) (natural (n.drop 2)) 0) rest
      else none
    | .sign ',' :: rest => next (some r) rest
    | _ => none
where
  /-- The seconds that digits of hours and minutes show. -/
  ahead (digits : Octets) : Int :=
    if digits.length ≤ 2 then 3600 * natural digits
    else 3600 * (natural digits / 100 : Nat) + 60 * (natural digits % 100 : Nat)

/-- The time that has been read, with billionths of a second; `now` is the present. -/
def Reading.time (r : Reading) (now : Int) : Int × Nat :=
  match r.absolute with
  | some t => (t + r.days * Calendar.daySeconds + r.seconds, r.fraction)
  | none =>
    let present := Calendar.moment now
    let (year, month, day) := r.date.getD (present.year, present.month, present.day)
    let months := year * 12 + (month : Int) - 1 + r.months
    let saysDay := r.date.isSome || r.weekday.isSome
    let (hour, minute, second) := match r.clock with
      | some c => c
      | none => if saysDay then (0, 0, 0) else (present.hour, present.minute, present.second)
    let days := Calendar.daysTo (months.fdiv 12) ((months.fmod 12).toNat + 1) 1 + (day : Int) - 1 +
      r.days
    let toWeekday : Int := match r.weekday with
      | some w => (((w + 7 - Calendar.weekday (days * Calendar.daySeconds)) % 7 : Nat) : Int)
      | none => 0
    let clock : Nat := (hour * 60 + minute) * 60 + second
    ((days + toWeekday) * Calendar.daySeconds + clock - r.ahead + r.seconds, r.fraction)

/-- The time that a text tells, with billionths of a second. -/
def time? (now : Int) (s : Octets) : Option (Int × Nat) :=
  let parts := symbols (s.length + 1) s
  if parts.isEmpty then
    let m := Calendar.moment now
    some (Calendar.seconds { m with hour := 0, minute := 0, second := 0 }, 0)
  else
    (read? (Calendar.moment now).year (2 * parts.length + 2) .nothing parts).map
      fun r => r.time now

/-- The time that digits such as `202601311200.30` tell: two digits each for the month, the day, the
hour and the minute, with a year in front and seconds behind if wanted. -/
def stamp? (now : Int) (s : Octets) : Option Int :=
  let front := s.takeWhile (· ≠ '.')
  let behind := s.drop front.length
  let second? : Option Nat := match behind with
    | [] => some 0
    | ['.', a, b] => if a.isDigit && b.isDigit then some (natural [a, b]) else none
    | _ => none
  let present := (Calendar.moment now).year
  let year? : Option (Int × Octets) :=
    if !front.all Char.isDigit then none
    else
      match front.length with
      | 8 => some (present, front)
      | 10 => some (yearOf (front.take 2), front.drop 2)
      | 12 => some (natural (front.take 4), front.drop 4)
      | _ => none
  match year?, second? with
  | some (year, rest), some second =>
    let part (n : Nat) : Nat := natural ((rest.drop (2 * n)).take 2)
    let r := (Reading.nothing.onDate? year (part 0) (part 1)).bind fun r =>
      r.atClock? (part 2) (part 3) second
    r.map fun r => (r.time now).1
  | _, _ => none

end Date

/-- Shows the present or another time. -/
def dateProgram : Program := fun i =>
  let table : OptionTable :=
    ⟨[('d', .always), ('f', .always), ('I', .optional), ('R', .never), ('r', .always),
      ('s', .always), ('u', .never)],
      [("date", 'd', .always), ("file", 'f', .always), ("iso-8601", 'I', .optional),
        ("reference", 'r', .always), ("rfc-email", 'R', .never), ("rfc-2822", 'R', .never),
        ("rfc-3339", '3', .always), ("set", 's', .always), ("utc", 'u', .never),
        ("universal", 'u', .never)], false⟩
  table.run "date" 1 (fun _ => none) i fun given operands =>
    let now := i.files.time
    let time? : Except Octets (Int × Nat) :=
      match givenValue? given 'd', givenValue? given 'r' with
      | some s, _ =>
        match Date.time? now s with
        | some t => .ok t
        | none => .error ("invalid date ".toList ++ QuotedName.ofArgument s)
      | none, some name =>
        match i.files.entry (Octets.toText name) with
        | .ok e => .ok (i.files.modifiedAt e, 0)
        | .error x => .error (QuotedName.ifNeeded name ++ ": ".toList ++ x.reason.toList)
      | none, none => .ok (now, 0)
    let format? : Except Octets Octets :=
      match operands with
      | [] => .ok (standard given)
      | ['+' :: format] => .ok format
      | ['+' :: _, extra] | [_, extra] =>
        .error ("extra operand ".toList ++ QuotedName.ofArgument extra)
      | s :: _ => .error ("invalid date ".toList ++ QuotedName.ofArgument s)
    match format?, time? with
    | .error problem, _ | .ok _, .error problem => i.start.fail i.name 1 problem
    | .ok format, .ok (time, fraction) =>
      i.start.print (Calendar.shown time fraction format ++ ['\n'])
where
  /-- The format that options ask for. -/
  standard (given : List GivenOption) : Octets :=
    let iso : Octets → String
      | [] | 'd' :: _ => "%Y-%m-%d"
      | 'h' :: _ => "%Y-%m-%dT%H%:z"
      | 'm' :: _ => "%Y-%m-%dT%H:%M%:z"
      | 's' :: _ => "%Y-%m-%dT%H:%M:%S%:z"
      | _ => "%Y-%m-%dT%H:%M:%S,%N%:z"
    match lastDateOption given with
    | some ('I', value) => (iso value).toList
    | some ('3', 'd' :: _) => "%Y-%m-%d".toList
    | some ('3', 's' :: _) => "%Y-%m-%d %H:%M:%S%:z".toList
    | some ('3', _) => "%Y-%m-%d %H:%M:%S.%N%:z".toList
    | some _ => "%a, %d %b %Y %H:%M:%S %z".toList
    | none => "%a %b %e %H:%M:%S %Z %Y".toList
  /-- The last option that asks for a format. -/
  lastDateOption (given : List GivenOption) : Option GivenOption :=
    given.reverse.find? fun o => o.1 ∈ ['I', '3', 'R']

end CallForest
