import CallForest.Text.Decimal
import CallForest.Toml.Value

/-!
# TOML scalars

Readers of white space, comments, keys, strings, numbers and date-times. Each takes what it
recognises from the front of a text and leaves the rest; none means that the text is no TOML.
-/

namespace CallForest.Toml

/-! ## White space and comments -/

/-- Skips spaces and tabs. -/
def skipBlanks (cs : List Char) : List Char :=
  cs.dropWhile fun c => c == ' ' || c == '\t'

/-- Whether a character may stand in a comment. -/
def isCommentChar (c : Char) : Bool :=
  c == '\t' || (0x20 ≤ c.toNat && c.toNat ≠ 0x7F)

/-- Skips a comment, up to the end of its line. -/
def skipComment : List Char → List Char
  | '#' :: cs => cs.dropWhile isCommentChar
  | cs => cs

/-- Takes a line ending. -/
def lineEnd? : List Char → Option (List Char)
  | '\n' :: cs => some cs
  | '\r' :: '\n' :: cs => some cs
  | _ => none

/-- Takes blanks, a comment, and the end of the line or of the text. -/
def endLine (cs : List Char) : Option (List Char) :=
  match skipComment (skipBlanks cs) with
  | [] => some []
  | c :: cs => lineEnd? (c :: cs)

/-- Skips white space, line endings and comments. The first argument bounds the steps. -/
def skipSpace : Nat → List Char → List Char
  | 0, cs => cs
  | steps + 1, cs =>
    match skipBlanks cs with
    | '#' :: rest => skipSpace steps (rest.dropWhile isCommentChar)
    | rest =>
      match lineEnd? rest with
      | some rest => skipSpace steps rest
      | none => rest

/-! ## Strings -/

/-- The value of a hexadecimal digit. -/
def hexValue? (c : Char) : Option Nat :=
  if '0' ≤ c ∧ c ≤ '9' then some (c.toNat - 48)
  else if 'a' ≤ c ∧ c ≤ 'f' then some (c.toNat - 87)
  else if 'A' ≤ c ∧ c ≤ 'F' then some (c.toNat - 55)
  else none

/-- Reads exactly so many hexadecimal digits on. -/
def hexNumber : Nat → Nat → List Char → Option (Nat × List Char)
  | 0, acc, cs => some (acc, cs)
  | count + 1, acc, c :: cs =>
    match hexValue? c with
    | some d => hexNumber count (acc * 16 + d) cs
    | none => none
  | _ + 1, _, [] => none

/-- The character with a code point; none for surrogates and numbers that are too large. -/
def scalar? (n : Nat) : Option Char :=
  if n < 0xD800 ∨ (0xE000 ≤ n ∧ n < 0x110000) then some (Char.ofNat n) else none

/-- Reads what follows a backslash in a string. -/
def escape : List Char → Option (Char × List Char)
  | 'b' :: cs => some (Char.ofNat 8, cs)
  | 't' :: cs => some ('\t', cs)
  | 'n' :: cs => some ('\n', cs)
  | 'f' :: cs => some (Char.ofNat 12, cs)
  | 'r' :: cs => some ('\r', cs)
  | '"' :: cs => some ('"', cs)
  | '\\' :: cs => some ('\\', cs)
  | 'u' :: cs => (hexNumber 4 0 cs).bind fun (n, rest) => (scalar? n).map fun c => (c, rest)
  | 'U' :: cs => (hexNumber 8 0 cs).bind fun (n, rest) => (scalar? n).map fun c => (c, rest)
  | _ => none

/-- Whether a character may stand in a string as it is, quotes and backslashes aside. -/
def isStringChar (c : Char) : Bool :=
  isCommentChar c

/-- Puts a character in front of a string that is read. -/
def consChar (c : Char) : Option (List Char × List Char) → Option (List Char × List Char) :=
  Option.map fun (s, rest) => (c :: s, rest)

/-- Reads a string in double quotes on. The first argument bounds the steps. -/
def basicFrom : Nat → List Char → Option (List Char × List Char)
  | 0, _ => none
  | _ + 1, [] => none
  | _ + 1, '"' :: cs => some ([], cs)
  | steps + 1, '\\' :: cs =>
    match escape cs with
    | some (c, rest) => consChar c (basicFrom steps rest)
    | none => none
  | steps + 1, c :: cs => if isStringChar c then consChar c (basicFrom steps cs) else none

/-- Reads a string in single quotes on. -/
def literalFrom : List Char → Option (List Char × List Char)
  | [] => none
  | '\'' :: cs => some ([], cs)
  | c :: cs => if isStringChar c then consChar c (literalFrom cs) else none

/-- What ends a string of several lines: three quotes, before which one or two more belong to the
string. -/
def closingQuotes (quote : Char) (cs : List Char) : Option (List Char × List Char) :=
  let run := cs.takeWhile (· = quote)
  if run.length < 3 then none
  else
    let inside := min (run.length - 3) 2
    some (List.replicate inside quote, cs.drop (inside + 3))

/-- Skips the line ending right behind the opening quotes. -/
def skipFirstLineEnd (cs : List Char) : List Char :=
  (lineEnd? cs).getD cs

/-- Skips white space and line endings. -/
def skipLines : Nat → List Char → List Char
  | 0, cs => cs
  | steps + 1, cs =>
    match lineEnd? (skipBlanks cs) with
    | some rest => skipLines steps rest
    | none => skipBlanks cs

/-- Reads a string of several lines in double quotes on. A backslash at the end of a line takes the
white space behind it away. The first argument bounds the steps. -/
def basicLinesFrom : Nat → List Char → Option (List Char × List Char)
  | 0, _ => none
  | _ + 1, [] => none
  | steps + 1, '"' :: cs =>
    match closingQuotes '"' ('"' :: cs) with
    | some (inside, rest) => some (inside, rest)
    | none => consChar '"' (basicLinesFrom steps cs)
  | steps + 1, '\\' :: cs =>
    match lineEnd? (skipBlanks cs) with
    | some rest => basicLinesFrom steps (skipLines steps rest)
    | none =>
      match escape cs with
      | some (c, rest) => consChar c (basicLinesFrom steps rest)
      | none => none
  | steps + 1, c :: cs =>
    match lineEnd? (c :: cs) with
    | some rest => consChar '\n' (basicLinesFrom steps rest)
    | none => if isStringChar c then consChar c (basicLinesFrom steps cs) else none

/-- Reads a string of several lines in single quotes on. The first argument bounds the steps. -/
def literalLinesFrom : Nat → List Char → Option (List Char × List Char)
  | 0, _ => none
  | _ + 1, [] => none
  | steps + 1, '\'' :: cs =>
    match closingQuotes '\'' ('\'' :: cs) with
    | some (inside, rest) => some (inside, rest)
    | none => consChar '\'' (literalLinesFrom steps cs)
  | steps + 1, c :: cs =>
    match lineEnd? (c :: cs) with
    | some rest => consChar '\n' (literalLinesFrom steps rest)
    | none => if isStringChar c then consChar c (literalLinesFrom steps cs) else none

/-- Reads a string of one line. -/
def shortString : List Char → Option (List Char × List Char)
  | '"' :: cs => basicFrom (cs.length + 1) cs
  | '\'' :: cs => literalFrom cs
  | _ => none

/-- Reads a string. -/
def string : List Char → Option (List Char × List Char)
  | '"' :: '"' :: '"' :: cs => basicLinesFrom (cs.length + 1) (skipFirstLineEnd cs)
  | '\'' :: '\'' :: '\'' :: cs => literalLinesFrom (cs.length + 1) (skipFirstLineEnd cs)
  | cs => shortString cs

/-! ## Keys -/

/-- Whether a character may stand in a bare key. -/
def isBareChar (c : Char) : Bool :=
  c.isAlphanum || c == '_' || c == '-'

/-- Reads a key without dots. -/
def simpleKey (cs : List Char) : Option (String × List Char) :=
  match cs with
  | '"' :: _ | '\'' :: _ => (shortString cs).map fun (s, rest) => (String.ofList s, rest)
  | _ =>
    let name := cs.takeWhile isBareChar
    if name.isEmpty then none else some (String.ofList name, cs.drop name.length)

/-- Reads a key with dots: its names in order. The first argument bounds the number of names. -/
def dottedKey : Nat → List Char → Option (List String × List Char)
  | 0, _ => none
  | names + 1, cs => do
    let (name, rest) ← simpleKey (skipBlanks cs)
    match skipBlanks rest with
    | '.' :: rest =>
      let (more, rest) ← dottedKey names rest
      return (name :: more, rest)
    | rest => return ([name], rest)

/-! ## Numbers -/

/-- Reads digits of a kind, single underscores between them allowed, and yields them without the
underscores. The flag tells whether a digit has to come next. -/
def digitsFrom (isDigit : Char → Bool) : Bool → List Char → Option (List Char × List Char)
  | true, [] => none
  | false, [] => some ([], [])
  | need, c :: cs =>
    if isDigit c then consChar c (digitsFrom isDigit false cs)
    else if need then none
    else if c = '_' then digitsFrom isDigit true cs
    else some ([], c :: cs)

/-- The number that digits form in a base. -/
def ofDigits (base : Nat) (digits : List Char) : Nat :=
  digits.foldl (fun n c => n * base + (hexValue? c).getD 0) 0

/-- An integer of 64 bits with a sign. -/
def integerOf? (n : Int) : Option Value :=
  if Int64.minValue.toInt ≤ n ∧ n ≤ Int64.maxValue.toInt then some (.integer n) else none

/-- Reads a number in a base other than ten, behind its mark. -/
def basedInteger (base : Nat) (isDigit : Char → Bool) (cs : List Char) :
    Option (Value × List Char) := do
  let (digits, rest) ← digitsFrom isDigit true cs
  let v ← integerOf? (ofDigits base digits)
  return (v, rest)

/-- Reads decimal digits in which a zero may only stand alone. -/
def plainDigits : List Char → Option (List Char × List Char)
  | '0' :: cs => some (['0'], cs)
  | cs => digitsFrom Char.isDigit true cs

/-- Reads the part of a float behind its point. -/
def fraction : List Char → Option (List Char × List Char)
  | '.' :: cs => digitsFrom Char.isDigit true cs
  | cs => some ([], cs)

/-- Reads the exponent of a float. -/
def exponent : List Char → Option (Int × List Char)
  | c :: cs =>
    if c = 'e' ∨ c = 'E' then
      let (negative, cs) := match cs with
        | '-' :: cs => (true, cs)
        | '+' :: cs => (false, cs)
        | cs => (false, cs)
      (digitsFrom Char.isDigit true cs).map fun (digits, rest) =>
        let n : Int := ofDigits 10 digits
        (if negative then -n else n, rest)
    else some (0, c :: cs)
  | [] => some (0, [])

/-- Whether the positive decimal number with those digits, the point moved by `power` places, lies
beyond the largest double: it reaches the middle between that and the next power of two. A number
whose first digit is too far from the point for that is not computed. -/
def overflows (digits : List Char) (power : Int) : Bool :=
  let digits := digits.dropWhile (· = '0')
  let places := (digits.length : Int) + power
  if digits.isEmpty || places < 300 then false
  else if 400 < places then true
  else
    let bound := Nat.pow 2 1024 - Nat.pow 2 970
    if 0 ≤ power then bound ≤ ofDigits 10 digits * Nat.pow 10 power.toNat
    else bound * Nat.pow 10 (-power).toNat ≤ ofDigits 10 digits

/-- Reads a number: its sign, then its digits. -/
def number (cs : List Char) : Option (Value × List Char) := do
  let (negative, body) : Bool × List Char := match cs with
    | '-' :: rest => (true, rest)
    | '+' :: rest => (false, rest)
    | rest => (false, rest)
  let (whole, rest) ← plainDigits body
  let isFloat := match rest with
    | c :: _ => c == '.' || c == 'e' || c == 'E'
    | [] => false
  if isFloat then do
    let (part, rest) ← fraction rest
    let (power, rest) ← exponent rest
    if !negative && overflows (whole ++ part) (power - part.length) then none
    else return (.float (String.ofList (cs.take (cs.length - rest.length))), rest)
  else do
    let n : Int := ofDigits 10 whole
    let v ← integerOf? (if negative then -n else n)
    return (v, rest)

/-- Takes a word from the front of a text. -/
def keyword? (word : String) (cs : List Char) : Option (List Char) :=
  word.toList.isPrefixOf? cs

/-- Reads an infinity or a number that is none. -/
def specialFloat (cs : List Char) : Option (Value × List Char) :=
  let body := match cs with
    | '-' :: rest | '+' :: rest => rest
    | rest => rest
  match keyword? "inf" body, keyword? "nan" body with
  | some rest, _ => some (.float "inf", rest)
  | none, some rest => some (.float "nan", rest)
  | none, none => none

/-! ## Dates and times -/

/-- Reads exactly so many digits as a number between two bounds. -/
def fixedNumber (count low high : Nat) (cs : List Char) : Option (Nat × List Char) :=
  let digits := cs.take count
  let n := ofDigits 10 digits
  if digits.length = count ∧ digits.all Char.isDigit ∧ low ≤ n ∧ n ≤ high then
    some (n, cs.drop count)
  else none

/-- Takes a character. -/
def expectChar (c : Char) : List Char → Option (List Char)
  | d :: cs => if d = c then some cs else none
  | [] => none

/-- The number of days in a month. -/
def daysIn (year month : Nat) : Nat :=
  if month = 2 then
    if year % 4 = 0 ∧ (year % 100 ≠ 0 ∨ year % 400 = 0) then 29 else 28
  else if month ∈ [4, 6, 9, 11] then 30
  else 31

/-- Takes a date. -/
def date (cs : List Char) : Option (List Char) := do
  let (year, cs) ← fixedNumber 4 0 9999 cs
  let (month, cs) ← fixedNumber 2 1 12 (← expectChar '-' cs)
  let (_, cs) ← fixedNumber 2 1 (daysIn year month) (← expectChar '-' cs)
  return cs

/-- Takes a time of day. -/
def time (cs : List Char) : Option (List Char) := do
  let (_, cs) ← fixedNumber 2 0 23 cs
  let (_, cs) ← fixedNumber 2 0 59 (← expectChar ':' cs)
  let (_, cs) ← fixedNumber 2 0 60 (← expectChar ':' cs)
  match cs with
  | '.' :: rest =>
    let digits := rest.takeWhile Char.isDigit
    if digits.isEmpty then none else return rest.drop digits.length
  | cs => return cs

/-- Takes the offset of a time from that of Greenwich, if there is one. -/
def offset : List Char → Option (List Char)
  | 'Z' :: cs | 'z' :: cs => some cs
  | '+' :: cs | '-' :: cs => do
    let (_, cs) ← fixedNumber 2 0 23 cs
    let (_, cs) ← fixedNumber 2 0 59 (← expectChar ':' cs)
    return cs
  | cs => some cs

/-- Whether a text begins with digits and then a character. -/
def digitsThen (count : Nat) (c : Char) (cs : List Char) : Bool :=
  let digits := cs.take count
  digits.length == count && digits.all Char.isDigit && (cs.drop count).head? == some c

/-- Takes a date-time, a date or a time of day. -/
def dateTime (cs : List Char) : Option (List Char) :=
  if digitsThen 4 '-' cs then do
    let rest ← date cs
    match rest with
    | c :: timeText =>
      if (c = 'T' ∨ c = 't' ∨ c = ' ') ∧ digitsThen 2 ':' timeText then do
        offset (← time timeText)
      else return rest
    | [] => return []
  else time cs

/-- Whether a text begins as a date or a time of day does. -/
def startsDateTime (cs : List Char) : Bool :=
  digitsThen 4 '-' cs || digitsThen 2 ':' cs

/-- Reads a number, a date-time or a special float. -/
def numeric (cs : List Char) : Option (Value × List Char) :=
  if startsDateTime cs then
    (dateTime cs).map fun rest =>
      (.dateTime (String.ofList (cs.take (cs.length - rest.length))), rest)
  else
    match cs with
    | '0' :: 'x' :: rest => basedInteger 16 (fun c => (hexValue? c).isSome) rest
    | '0' :: 'o' :: rest => basedInteger 8 (fun c => '0' ≤ c && c ≤ '7') rest
    | '0' :: 'b' :: rest => basedInteger 2 (fun c => c == '0' || c == '1') rest
    | _ => (specialFloat cs).orElse fun _ => number cs

end CallForest.Toml
