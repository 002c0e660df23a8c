import CallForest.Program.Effect
import CallForest.Program.Format

/-!
# Printing

`echo` prints its arguments, and `printf` prints them under a format. Each has three forms: that of
the shell itself in each of its two languages, and that of a program. They differ in the escapes
they know and in what they say.
-/

namespace CallForest

/-- What prints. -/
inductive PrintingForm where
  | plainShell
  | extendedShell
  | program
  deriving DecidableEq, Repr

namespace Printing

/-! ## Escapes -/

/-- What a letter behind a backslash stands for. -/
def escapeLetter? : Char → Option Char
  | '\\' => some '\\'
  | 'a' => some (Char.ofNat 7)
  | 'b' => some (Char.ofNat 8)
  | 'e' => some (Char.ofNat 27)
  | 'f' => some (Char.ofNat 12)
  | 'n' => some '\n'
  | 'r' => some '\r'
  | 't' => some '\t'
  | 'v' => some (Char.ofNat 11)
  | _ => none

/-- Reads at most so many digits of a base on. -/
def digitsFrom (base acc : Nat) : Nat → Octets → Nat × Octets
  | 0, cs => (acc, cs)
  | _ + 1, [] => (acc, [])
  | count + 1, c :: cs =>
    match Numeral.digitIn? base c with
    | some d => digitsFrom base (acc * base + d) count cs
    | none => (acc, c :: cs)

/-- Where an escape of the extended language stands. -/
inductive EscapePlace where
  | format
  | argument
  | echo
  deriving DecidableEq, Repr

/-- The bytes of a character that an escape names by its number. -/
def numbered (n : Nat) : Octets :=
  if n < 128 then [Char.ofNat n]
  else
    let digits := Numeral.inBase true 16 n
    let width := if n < 65536 then 4 else 8
    '\\' :: (if n < 65536 then 'u' else 'U') ::
      List.replicate (width - digits.length) '0' ++ digits

/-- What is behind a backslash in the extended language: the text that it stands for, and the
rest. -/
def extendedEscape (place : EscapePlace) (s : Octets) : Octets × Octets :=
  let hex (c : Char) (most : Nat) (cs : Octets) (made : Nat → Octets) : Octets × Octets :=
    if (cs.head?.bind (Numeral.digitIn? 16)).isSome then
      let (n, rest) := digitsFrom 16 0 most cs
      (made n, rest)
    else (['\\', c], cs)
  let octal (most : Nat) (cs : Octets) : Octets × Octets :=
    let (n, rest) := digitsFrom 8 0 most cs
    ([Char.ofNat (n % 256)], rest)
  match s with
  | [] => (['\\'], [])
  | c :: cs =>
    match c with
    | 'x' => hex c 2 cs fun n => [Char.ofNat n]
    | 'u' => hex c 4 cs numbered
    | 'U' => hex c 8 cs numbered
    | 'E' => ([Char.ofNat 27], cs)
    | '0' => if place = .format then octal 3 s else octal 3 cs
    | c =>
      if (Numeral.digitIn? 8 c).isSome && place ≠ .echo then octal 3 s
      else
        match escapeLetter? c with
        | some e => ([e], cs)
        | none =>
          if place = .format && (c = '"' || c = '\'' || c = '?') then ([c], cs) else (['\\'], s)

/-- What is behind a backslash: the text that it stands for, and the rest. -/
def escape (isProgram : Bool) (s : Octets) : Octets × Octets :=
  match s with
  | [] => (['\\'], [])
  | c :: cs =>
    if (Numeral.digitIn? 8 c).isSome then
      let (n, rest) := digitsFrom 8 0 3 s
      ([Char.ofNat (n % 256)], rest)
    else if isProgram && c = 'x' && (cs.head?.bind (Numeral.digitIn? 16)).isSome then
      let (n, rest) := digitsFrom 16 0 2 cs
      ([Char.ofNat n], rest)
    else
      match escapeLetter? c with
      | some e => ([e], cs)
      | none => if isProgram && c = '"' then (['"'], cs) else (['\\'], s)

/-- What is behind a backslash in an argument of a form of printing. In front of an octal number a
zero may stand. -/
def argumentEscape (form : PrintingForm) (place : EscapePlace) (cs : Octets) : Octets × Octets :=
  if form = .extendedShell then extendedEscape place cs
  else
    let cs := match cs with
      | '0' :: d :: rest => if (Numeral.digitIn? 8 d).isSome then d :: rest else cs
      | cs => cs
    escape (form == .program) cs

/-- A text with its escapes taken, and whether `\c` ended it. The first argument bounds the number
of steps. -/
def escapedFrom (form : PrintingForm) (place : EscapePlace) : Nat → Octets → Octets × Bool
  | 0, _ => ([], false)
  | _ + 1, [] => ([], false)
  | _ + 1, '\\' :: 'c' :: _ => ([], true)
  | steps + 1, '\\' :: cs =>
    let (s, rest) := argumentEscape form place cs
    let (t, ended) := escapedFrom form place steps rest
    (s ++ t, ended)
  | steps + 1, c :: cs =>
    let (t, ended) := escapedFrom form place steps cs
    (c :: t, ended)

/-- A text with its escapes taken, and whether `\c` ended it. -/
def escaped (form : PrintingForm) (place : EscapePlace) (s : Octets) : Octets × Bool :=
  escapedFrom form place (s.length + 1) s

/-! ## Echo -/

/-- Texts with their escapes taken and joined by blanks, up to `\c`. -/
def joinEscaped (form : PrintingForm) : List Octets → Octets × Bool
  | [] => ([], false)
  | s :: ss =>
    let (t, ended) := escaped form .echo s
    if ended || ss.isEmpty then (t, ended)
    else
      let (u, ended) := joinEscaped form ss
      (t ++ ' ' :: u, ended)

/-- What the `echo` of the plain shell prints: escapes always count, and `-n` leaves out the
newline. -/
def shellEcho (args : List Octets) : Octets :=
  let (ending, words) : Octets × List Octets :=
    match args with
    | ['-', 'n'] :: rest => ([], rest)
    | args => (['\n'], args)
  if !words.any (·.contains '\\') then [' '].intercalate words ++ ending
  else
    let (s, ended) := joinEscaped .plainShell words
    if ended then s else s ++ ending

/-- The options of `echo` in front of its words: the letters, and the words. -/
def echoOptions : List Octets → Octets × List Octets
  | [] => ([], [])
  | arg :: args =>
    match arg with
    | '-' :: c :: cs =>
      if (c :: cs).all (· ∈ ['n', 'e', 'E']) then
        let (letters, words) := echoOptions args
        (c :: cs ++ letters, words)
      else ([], arg :: args)
    | _ => ([], arg :: args)

/-- What `echo` prints where it has options: escapes count with `-e`, or always if that is
`usual`. -/
def echoWithOptions (form : PrintingForm) (usual : Bool) (args : List Octets) : Octets :=
  let (letters, words) := echoOptions args
  let ending : Octets := if 'n' ∈ letters then [] else ['\n']
  let counts := match (letters.filter (· ≠ 'n')).getLast? with
    | some c => c == 'e'
    | none => usual
  if counts then
    let (s, ended) := joinEscaped form words
    if ended then s else s ++ ending
  else [' '].intercalate words ++ ending

/-- The program `echo`. -/
def echo : Program := fun i => i.start.print (echoWithOptions .program false i.args)

/-! ## Printing under a format -/

/-- What has been printed under a format, and the arguments that are left. -/
structure Progress where
  args : List Octets
  /-- What is written, the last first; the flag tells that it went to the error output. -/
  written : List (Bool × Octets)
  code : Nat
  /-- Whether nothing more is to be printed. -/
  ended : Bool

namespace Progress

/-- Prints a text. -/
def print (p : Progress) (s : Octets) : Progress :=
  { p with written := (false, s) :: p.written }

/-- Complains, and goes on. -/
def warn (p : Progress) (s : Octets) : Progress :=
  { p with written := (true, s) :: p.written, code := 1 }

/-- Complains, and ends. -/
def stop (p : Progress) (code : Nat) (s : Octets) : Progress :=
  { p.warn s with code := code, ended := true }

/-- Takes the next argument; an empty one if there is none. -/
def take (p : Progress) : Octets × Progress :=
  match p.args with
  | [] => ([], p)
  | a :: args => (a, { p with args := args })

end Progress

/-- The way numbers in arguments are spoken of. -/
def shownArgument (form : PrintingForm) (s : Octets) : Octets :=
  if form = .program then QuotedName.ofArgument s else s

/-- Complains of a number that was not read to its end. -/
def checked (form : PrintingForm) (s : Octets) (rest : Option Octets) (p : Progress) : Progress :=
  let shown := shownArgument form s
  let isEnded := rest = some [] || (rest.isNone && s.isEmpty)
  if isEnded then p
  else
    p.warn (shown ++ (match form, rest with
      | .plainShell, some _ => ": not completely converted"
      | .plainShell, none => ": expected numeric value"
      | .extendedShell, _ =>
        match s with
        | '0' :: 'x' :: _ => ": invalid hex number"
        | '0' :: d :: _ => if d.isDigit then ": invalid octal number" else ": invalid number"
        | _ => ": invalid number"
      | .program, some _ => ": value not completely converted"
      | .program, none => ": expected a numeric value").toList)

/-- The character that an argument stands for, if it has a quote in front. -/
def quotedCharacter? (s : Octets) : Option Nat :=
  match s with
  | '\'' :: cs | '"' :: cs => some ((cs.head?.map Char.toNat).getD 0)
  | _ => none

/-- Complains of an argument that is out of range. -/
def tooGreat (form : PrintingForm) (s : Octets) (p : Progress) : Progress :=
  let text := ": Numerical result out of range".toList
  if form = .extendedShell then
    { p with written := (true, "warning: ".toList ++ s ++ text) :: p.written }
  else p.warn (shownArgument form s ++ text)

/-- The integer that an argument stands for, within the bounds of 64 bits. -/
def takeInteger (form : PrintingForm) (signed : Bool) (p : Progress) : Int × Progress :=
  let (s, p) := p.take
  match quotedCharacter? s with
  | some n => (n, p)
  | none =>
    match Numeral.integer? s with
    | none => (0, checked form s none p)
    | some (n, rest) =>
      let word : Int := Nat.pow 2 64
      let (low, high) : Int × Int :=
        if signed then (-(word / 2), word / 2 - 1) else (-word + 1, word - 1)
      if n < low ∨ high < n then
        let bound := if signed then (if n < 0 then low else high) else high
        (bound, if rest.isEmpty then tooGreat form s p else checked form s (some rest) p)
      else (if signed then n else n % word, checked form s (some rest) p)

/-- The kind of numbers with fractions. -/
def floatKind (form : PrintingForm) : FloatValue.Kind :=
  if form = .plainShell then .double else .extended

/-- The number with a fraction that an argument stands for. -/
def takeFloat (form : PrintingForm) (p : Progress) : FloatValue × Progress :=
  let (s, p) := p.take
  match quotedCharacter? s with
  | some n => (.finite false n 0, p)
  | none =>
    match FloatValue.read? (floatKind form) s with
    | none => (.finite false 0 0, checked form s none p)
    | some ((x, isFar), rest) =>
      (x, if isFar && rest.isEmpty then tooGreat form s p else checked form s (some rest) p)

/-- Reads a width or a precision: a number, or a star for an argument. -/
def readCount (form : PrintingForm) (s : Octets) (p : Progress) : Option Int × Octets × Progress :=
  match s with
  | '*' :: rest =>
    let (n, p) := takeInteger form true p
    (some n, rest, p)
  | s =>
    let digits := s.takeWhile Char.isDigit
    let n := (Numeral.digitsFrom 10 0 digits).1
    (if digits.isEmpty then none else some n, s.drop digits.length, p)

/-- Prints one argument under a conversion; `spec` is how that is written. -/
def convert (form : PrintingForm) (backslashed : Octets → Octets) (c : Conversion) (spec : Octets)
    (p : Progress) : Progress :=
  match c.letter with
  | 'b' =>
    let (s, p) := p.take
    let (s, ended) := escaped form .argument s
    { p.print (c.text s) with ended := ended }
  | 'c' =>
    let (s, p) := p.take
    p.print (c.fill [s.headD (Char.ofNat 0)])
  | 's' =>
    let (s, p) := p.take
    p.print (c.text s)
  | 'd' | 'i' =>
    let (n, p) := takeInteger form true p
    p.print (c.integer n)
  | 'o' | 'u' | 'x' | 'X' =>
    let (n, p) := takeInteger form false p
    p.print (c.integer n)
  | 'a' | 'A' | 'e' | 'E' | 'f' | 'F' | 'g' | 'G' =>
    let (x, p) := takeFloat form p
    p.print (c.float (floatKind form) x)
  | letter =>
    match form, letter with
    | .program, 'q' =>
      let (s, p) := p.take
      p.print (QuotedName.ifNeeded s)
    | .program, _ => p.stop 1 (spec ++ ": invalid conversion specification".toList)
    | .extendedShell, 'q' | .extendedShell, 'Q' =>
      let (s, p) := p.take
      p.print (c.fill (backslashed s))
    | .extendedShell, 'n' => p.take.2
    | .extendedShell, letter =>
      p.stop 1 (Char.ofNat 96 :: letter :: "': invalid format character".toList)
    | .plainShell, _ => p.stop 2 (spec ++ ": invalid directive".toList)

/-- Whether the program refuses the flags and the precision of a conversion. -/
def isRefused (c : Conversion) : Bool :=
  (c.has '0' && c.letter ∈ ['c', 's', 'b']) ||
    (c.has '#' && c.letter ∈ ['c', 's', 'b', 'd', 'i', 'u']) ||
    (c.letter = 'c' && c.precision.isSome) ||
    (c.letter = 'b' && (c.width ≠ 0 || c.precision.isSome))

/-- Prints a conversion; the text begins behind the percent sign. -/
def directive (form : PrintingForm) (backslashed : Octets → Octets) (s : Octets) (p : Progress) :
    Octets × Progress :=
  let isProgram := form == .program
  let flags := s.takeWhile fun c =>
    c ∈ ['#', '-', '+', ' ', '0'] || (form == .extendedShell && c == '\'')
  let (width, rest, p) := readCount form (s.drop flags.length) p
  let (precision, rest, p) : Option Int × Octets × Progress :=
    match rest with
    | '.' :: cs =>
      let (n, cs, p) := readCount form cs p
      (some (n.getD 0), cs, p)
    | cs => (none, cs, p)
  let rest := if form = .plainShell then rest else rest.dropWhile (· ∈ "hlLjtz".toList)
  match rest with
  | [] =>
    ([], match form with
      | .program => p.stop 1 ('%' :: s ++ ": invalid conversion specification".toList)
      | .extendedShell =>
        p.stop 1 (Char.ofNat 96 :: '%' :: s ++ "': missing format character".toList)
      | .plainShell => p.stop 2 "missing format character".toList)
  | letter :: rest =>
    let spec := '%' :: s.take (s.length - rest.length)
    let flags := if width.any (· < 0) then '-' :: flags else flags
    let c : Conversion :=
      ⟨flags, (width.getD 0).natAbs, (precision.filter (0 ≤ ·)).map Int.toNat, letter⟩
    if isProgram && isRefused c then
      (rest, p.stop 1 (spec ++ ": invalid conversion specification".toList))
    else (rest, convert form backslashed c spec p)

/-- Prints a format once. The first argument bounds the number of steps. -/
def formatOnce (form : PrintingForm) (backslashed : Octets → Octets) :
    Nat → Octets → Progress → Progress
  | 0, _, p => p
  | _ + 1, [], p => p
  | steps + 1, '\\' :: cs, p =>
    if form = .program && cs.head? = some 'c' then { p with ended := true }
    else
      let (s, rest) := if form = .extendedShell then extendedEscape .format cs
        else escape (form == .program) cs
      formatOnce form backslashed steps rest (p.print s)
  | steps + 1, '%' :: '%' :: cs, p => formatOnce form backslashed steps cs (p.print ['%'])
  | steps + 1, '%' :: cs, p =>
    let (rest, p) := directive form backslashed cs p
    if p.ended then p else formatOnce form backslashed steps rest p
  | steps + 1, c :: cs, p => formatOnce form backslashed steps cs (p.print [c])

/-- Prints a format as often as it takes to use all arguments. The first argument bounds the number
of rounds. -/
def formatAll (form : PrintingForm) (backslashed : Octets → Octets) (format : Octets) :
    Nat → Progress → Progress
  | 0, p => p
  | rounds + 1, p =>
    let q := formatOnce form backslashed (format.length + 1) format p
    if q.ended || q.args.isEmpty || q.args.length == p.args.length then q
    else formatAll form backslashed format rounds q

/-- What the `printf` of a shell comes to for a format and arguments: its status, what it complains
of, and what it prints. -/
def shellFormatted (form : PrintingForm) (backslashed : Octets → Octets) (format : Octets)
    (args : List Octets) : Nat × List Octets × Octets :=
  let p := formatAll form backslashed format (args.length + 1) ⟨args, [], 0, false⟩
  let (complaints, printed) := p.written.reverse.partition Prod.fst
  (p.code, complaints.map Prod.snd, printed.flatMap Prod.snd)

/-- What the `printf` of the plain shell comes to. -/
def shellPrintf (args : List Octets) : Nat × List Octets × Octets :=
  let print (args : List Octets) : Nat × List Octets × Octets :=
    match args with
    | [] => (2, ["usage: printf format [arg ...]".toList], [])
    | format :: args => shellFormatted .plainShell id format args
  match args with
  | ['-', '-'] :: args => print args
  | ('-' :: c :: _) :: _ => (2, ["Illegal option -".toList ++ [c]], [])
  | args => print args

/-- What came of printing, with a name in front of what is complained of. -/
def Progress.effect (p : Progress) (i : Invocation) : Effect :=
  { i.start with
    code := p.code
    written := (p.written.splitBy fun a b => a.1 == b.1).map fun run =>
      let isError := run.any Prod.fst
      (isError, run.reverse.flatMap fun (_, s) =>
        if isError then i.name ++ ": ".toList ++ s ++ ['\n'] else s) }

/-- The program `printf`. -/
def printf : Program := fun i =>
  let args := match i.args with
    | ['-', '-'] :: args => args
    | args => args
  match args with
  | [] =>
    (i.start.fail i.name 1 "missing operand".toList).complain
      ("Try '".toList ++ i.name ++ " --help' for more information.\n".toList)
  | format :: args =>
    let p := formatAll .program id format (args.length + 1) ⟨args, [], 0, false⟩
    let e := p.effect i
    match p.ended, p.args with
    | false, arg :: _ =>
      e.complain (i.name ++ ": warning: ignoring excess arguments, starting with ".toList ++
        QuotedName.ofArgument arg ++ ['\n'])
    | _, _ => e

end Printing

end CallForest
