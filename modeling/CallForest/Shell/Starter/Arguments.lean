import CallForest.Shell.Start

/-!
# Arguments from an input

`xargs` starts a program with arguments that it reads: as many at once as fit into a call, so many
at once or so many lines at once, or each line where a mark stands. Blanks and newlines separate
arguments unless they are quoted, or a single character does.
-/

namespace CallForest.Shell

/-- What `xargs` is asked for. -/
structure ArgumentRequest where
  /-- What ends arguments, if it is a single character. -/
  separator : Option Char
  /-- The argument at which the input ends. -/
  ending : Option Octets
  /-- The mark that stands for each line. -/
  mark : Option Octets
  perLine : Option Nat
  perCall : Option Nat
  /-- How many bytes a call may have. -/
  size : Nat
  /-- Whether it is a fault if so many arguments do not fit into a call. -/
  isExact : Bool
  runsEmpty : Bool
  shows : Bool
  asks : Bool
  source : Option Octets

/-! ## Reading arguments -/

/-- What is read next: an argument, or the end of a line. -/
inductive ArgumentPiece where
  | argument (text : Octets)
  | lineEnd

/-- Where in its input the reading is: between arguments, in one, within quotes, or behind a
backslash. -/
inductive ArgumentPlace where
  | between
  | within
  | quoted (mark : Char)
  | escaped
  deriving DecidableEq, Repr

/-- Reads arguments. `cuts` tells that blanks separate them, `word` is the argument in progress,
reversed, and `before` the last character. If quotes are left open, their mark comes with what was
read. -/
def readArguments (cuts : Bool) :
    ArgumentPlace → (word : Octets) → (before : Char) → Octets →
      List ArgumentPiece × Option Char
  | place, word, _, [] =>
    match place with
    | .quoted mark => ([], if word.isEmpty then none else some mark)
    | _ => (if word.isEmpty then [] else [.argument word.reverse], none)
  | place, word, before, c :: cs =>
    let ended (pieces : List ArgumentPiece) : List ArgumentPiece × Option Char :=
      let (others, problem) := readArguments cuts .between [] c cs
      (pieces ++ others, problem)
    let start : List ArgumentPiece × Option Char :=
      if c = '\n' then
        ended (.argument word.reverse ::
          if before = ' ' ∨ before = '\t' then [] else [.lineEnd])
      else if cuts && (c = ' ' || c = '\t') then ended [.argument word.reverse]
      else if c = '\\' then readArguments cuts .escaped word c cs
      else if c = '\'' ∨ c = '"' then readArguments cuts (.quoted c) word c cs
      else readArguments cuts .within (c :: word) c cs
    match place with
    | .between => if Numeral.isBlank c then readArguments cuts .between [] c cs else start
    | .within => start
    | .escaped => readArguments cuts .within (c :: word) c cs
    | .quoted mark =>
      if c = '\n' then ([], some mark)
      else if c = mark then readArguments cuts .within word c cs
      else readArguments cuts (.quoted mark) (c :: word) c cs

/-- The pieces up to an argument at which the input ends. -/
def untilEnding (ending : Option Octets) : List ArgumentPiece → List ArgumentPiece
  | [] => []
  | .argument s :: rest =>
    if some s = ending then [] else .argument s :: untilEnding ending rest
  | .lineEnd :: rest => .lineEnd :: untilEnding ending rest

namespace ArgumentRequest

/-- The pieces of an input, and the mark of quotes that are left open in it. -/
def pieces (q : ArgumentRequest) (input : Octets) : List ArgumentPiece × Option Char :=
  match q.separator with
  | some c =>
    ((endedBy c input).flatMap fun s => [.argument s, .lineEnd], none)
  | none =>
    let (read, problem) := readArguments q.mark.isNone .between [] '\n' input
    let kept := untilEnding q.ending read
    (kept, if kept.length = read.length then problem else none)

/-! ## Calls -/

/-- What has been collected for a call: the arguments, reversed, their size, and how many lines they
are from. -/
structure Collected where
  arguments : List Octets
  size : Nat
  lines : Nat

/-- The size of words in a call. -/
def sizeOf (words : List Octets) : Nat := words.foldl (fun n w => n + w.length + 1) 0

/-- The arguments of the calls, with what is wrong in the end. `used` is the size of the words in
front of the arguments. -/
def callsFrom (q : ArgumentRequest) (used : Nat) (problem : Option Octets) :
    Collected → List ArgumentPiece → List (List Octets) × Option Octets
  | c, [] =>
    if problem.isSome && (q.isExact || c.arguments.isEmpty) then ([], problem)
    else (if c.arguments.isEmpty then [] else [c.arguments.reverse], problem)
  | c, .lineEnd :: rest =>
    if q.perLine.any (· ≤ c.lines + 1) then
      let (calls, problem) := callsFrom q used problem ⟨[], 0, 0⟩ rest
      (c.arguments.reverse :: calls, problem)
    else callsFrom q used problem { c with lines := c.lines + 1 } rest
  | c, .argument s :: rest =>
    let size := s.length + 1
    let pending := if c.arguments.isEmpty || q.isExact then [] else [c.arguments.reverse]
    if q.size < used + size then (pending, some "argument line too long".toList)
    else
      let isFull := q.size < used + c.size + size
      if isFull && q.isExact && (q.perLine.isSome || q.perCall.isSome) then
        ([], some "argument list too long".toList)
      else
        let done := if isFull then [c.arguments.reverse] else []
        let c : Collected :=
          if isFull then ⟨[s], size, c.lines⟩ else ⟨s :: c.arguments, c.size + size, c.lines⟩
        if q.perCall.any (· ≤ c.arguments.length) then
          let (calls, problem) := callsFrom q used problem ⟨[], 0, c.lines⟩ rest
          (done ++ c.arguments.reverse :: calls, problem)
        else
          let (calls, problem) := callsFrom q used problem c rest
          (done ++ calls, problem)

/-- A text with another put in for each occurrence of a third. The first argument bounds the number
of steps. -/
def replaceAll (old new : Octets) : Nat → Octets → Octets
  | 0, s => s
  | _ + 1, [] => []
  | steps + 1, c :: cs =>
    if old.isPrefixOf (c :: cs) && !old.isEmpty then
      new ++ replaceAll old new steps ((c :: cs).drop old.length)
    else c :: replaceAll old new steps cs

/-- The words of the calls, with what is wrong in the end. A mark in the name of the program stays
as it is. -/
def calls (q : ArgumentRequest) (words : List Octets) (input : Octets) :
    List (List Octets) × Option Octets :=
  let (pieces, unclosed) := q.pieces input
  let problem := unclosed.map fun mark =>
    "unmatched ".toList ++ (if mark = '"' then "double" else "single").toList ++
      " quote; by default quotes are special to xargs unless you use the -0 option".toList
  let used := sizeOf words
  match q.mark with
  | some mark =>
    (pieces.filterMap fun piece =>
      match piece with
      | .argument s =>
        some (words.take 1 ++ (words.drop 1).map fun w => replaceAll mark s (w.length + 1) w)
      | .lineEnd => none, problem)
  | none =>
    if q.size < used then
      ([], some "cannot fit single argument within argument list size limit".toList)
    else
      let (calls, problem) := q.callsFrom used problem ⟨[], 0, 0⟩ pieces
      let calls := if calls.isEmpty && problem.isNone && q.runsEmpty then [[]] else calls
      (calls.map (words ++ ·), problem)

/-! ## Options -/

/-- The options by letters and words. -/
def table : OptionTable :=
  ⟨[('0', .never), ('a', .always), ('E', .always), ('e', .optional), ('i', .optional),
      ('I', .always), ('l', .optional), ('L', .always), ('n', .always), ('p', .never),
      ('r', .never), ('s', .always), ('t', .never), ('x', .never), ('P', .always), ('d', .always),
      ('o', .never)],
    [("null", '0', .never), ("arg-file", 'a', .always), ("delimiter", 'd', .always),
      ("eof", 'e', .optional), ("replace", 'I', .optional), ("max-lines", 'l', .optional),
      ("max-args", 'n', .always), ("open-tty", 'o', .never), ("interactive", 'p', .never),
      ("no-run-if-empty", 'r', .never), ("max-chars", 's', .always), ("verbose", 't', .never),
      ("show-limits", 'S', .never), ("exit", 'x', .never), ("max-procs", 'P', .always),
      ("process-slot-var", 'v', .always)], true⟩

/-- The character that separates arguments, as an option tells it. -/
def separator? (s : Octets) : Except Octets Char :=
  let wrong : Except Octets Char :=
    .error ("Invalid input delimiter specification ".toList ++ s ++
      ": the delimiter must be either a single character or ".toList ++
      "an escape sequence starting with \\.".toList)
  match s with
  | [c] => .ok c
  | '\\' :: c :: cs =>
    match c, cs with
    | 'a', [] => .ok (Char.ofNat 7)
    | 'b', [] => .ok (Char.ofNat 8)
    | 'f', [] => .ok (Char.ofNat 12)
    | 'n', [] => .ok '\n'
    | 'r', [] => .ok '\r'
    | 't', [] => .ok '\t'
    | 'v', [] => .ok (Char.ofNat 11)
    | '\\', [] => .ok '\\'
    | 'x', digits => .ok (Char.ofNat ((Numeral.digitsFrom 16 0 digits).1 % 256))
    | '0', digits => .ok (Char.ofNat ((Numeral.digitsFrom 8 0 digits).1 % 256))
    | _, _ =>
      .error ("Invalid escape sequence ".toList ++ s ++ " in input delimiter specification.".toList)
  | _ => wrong

/-- The number that an option tells, which has to be at least `least`. A problem comes with a flag
that tells whether it is one with the number alone. -/
def number? (letter : Char) (least : Int) (s : Octets) : Except Octets Nat :=
  match Numeral.decimal? s with
  | none =>
    .error ("invalid number \"".toList ++ s ++ "\" for -".toList ++ letter :: " option".toList)
  | some n =>
    if n < least then
      .error ("value ".toList ++ s ++ " for -".toList ++ letter ::
        " option should be >= ".toList ++ Text.decimal least.natAbs)
    else .ok n.natAbs

/-- What an option does that excludes others: the request, with what is said of one that came
before. -/
def excluding (q : ArgumentRequest) (option : String) (keep : Char) :
    ArgumentRequest × List Octets :=
  let warning (other : String) : Octets :=
    ("warning: options --" ++ other ++ " and " ++ option ++
      " are mutually exclusive, ignoring previous --" ++ other ++ " value").toList
  let (q, first) :=
    if keep ≠ 'I' && q.mark.isSome then ({ q with mark := none }, [warning "replace"]) else (q, [])
  let (q, second) :=
    if keep ≠ 'L' && q.perLine.isSome then ({ q with perLine := none }, [warning "max-lines"])
    else (q, [])
  let (q, third) :=
    if keep ≠ 'n' && q.perCall.isSome then ({ q with perCall := none }, [warning "max-args"])
    else (q, [])
  (q, first ++ second ++ third)

/-- Takes an option into account; it comes with what is to be said of it. The flag of a problem
tells whether the use of options is explained with it. -/
def taking (state : ArgumentRequest × List Octets) (o : GivenOption) :
    Except (Bool × Octets) (ArgumentRequest × List Octets) :=
  let (q, told) := state
  let counted (n? : Except Octets Nat) (use : Nat → ArgumentRequest × List Octets) :
      Except (Bool × Octets) (ArgumentRequest × List Octets) :=
    match n? with
    | .ok n => .ok (use n)
    | .error problem => .error (true, problem)
  match o.1 with
  | '0' => .ok ({ q with separator := some (Char.ofNat 0) }, told)
  | 'd' =>
    match separator? o.2 with
    | .ok c => .ok ({ q with separator := some c }, told)
    | .error problem => .error (false, problem)
  | 'a' => .ok ({ q with source := some o.2 }, told)
  | 'E' | 'e' => .ok ({ q with ending := if o.2.isEmpty then none else some o.2 }, told)
  | 'I' | 'i' =>
    let (q, warnings) := q.excluding "--replace/-I/-i" 'I'
    .ok ({ q with mark := some (if o.2.isEmpty then "\x7b\x7d".toList else o.2) },
      told ++ warnings)
  | 'L' | 'l' =>
    counted (if o.2.isEmpty then .ok 1 else number? o.1 1 o.2) fun n =>
      let (q, warnings) := q.excluding (if o.1 = 'L' then "-L" else "--max-lines/-l") 'L'
      ({ q with perLine := some n, isExact := q.isExact || o.1 == 'l' }, told ++ warnings)
  | 'n' =>
    counted (number? 'n' 1 o.2) fun n =>
      if n = 1 && q.mark.isSome then (q, told)
      else
        let (q, warnings) := q.excluding "--max-args/-n" 'n'
        ({ q with perCall := some n }, told ++ warnings)
  | 'P' => counted (number? 'P' 0 o.2) fun _ => (q, told)
  | 's' =>
    match number? 's' 1 o.2 with
    | .ok n => .ok ({ q with size := n }, told)
    | .error problem =>
      if (Numeral.decimal? o.2).isSome then .ok ({ q with size := 1 }, told ++ [problem])
      else .error (true, problem)
  | 'r' => .ok ({ q with runsEmpty := false }, told)
  | 't' => .ok ({ q with shows := true }, told)
  | 'p' => .ok ({ q with shows := true, asks := true }, told)
  | 'x' => .ok ({ q with isExact := true }, told)
  | _ => .ok (q, told)

end ArgumentRequest

/-! ## The program -/

namespace Runner

variable (r : Runner)

/-- Makes calls one after another, until one asks for an end. The status is that of the first
failure. -/
def callAll (become : Image → Run Unit) (name : Octets) (q : ArgumentRequest) (status : Nat) :
    List (List Octets) → Run (Nat × Bool)
  | [] => return (status, true)
  | call :: calls => do
    let call := call.map fun w => w.takeWhile fun c => c.toNat ≠ 0
    if q.shows then
      let text := [' '].intercalate (call.map QuotedName.ifNeeded)
      modify (·.put 2 (if q.asks then text else text ++ ['\n']))
    if q.asks then
      Run.failing name 1
        "failed to open /dev/tty for reading: No such device or address".toList
      return (1, false)
    let program := call.headD []
    match (← get).imageNamed program (call.drop 1) with
    | .error e =>
      let code := if e = .notFound then 127 else 126
      Run.failing name code (program ++ ": ".toList ++ e.reason.toList)
      return (code, false)
    | .ok image =>
      match ← r.inOwnProcess (become image) with
      | some signal =>
        Run.failing name 125
          (program ++ ": terminated by signal ".toList ++ Text.decimal signal)
        return (125, false)
      | none =>
        let s := (← get).status
        if s = 255 then
          Run.failing name 124 (program ++ ": exited with status 255; aborting".toList)
          return (124, false)
        else callAll become name q (if s = 0 then status else 123) calls

/-- Starts a program with arguments that are read. -/
def xargsProgram (become : Image → Run Unit) (name : Octets) (args : List Octets) : Run Unit :=
  Run.withOptions ArgumentRequest.table "xargs 4.9.0" 1 name args fun given operands => do
    let start : ArgumentRequest :=
      ⟨none, none, none, none, none, 131072, false, true, false, false, none⟩
    match List.foldlM ArgumentRequest.taking (start, []) given with
    | .error (explains, problem) =>
      if explains then Run.misuse name 1 (some problem) else Run.failing name 1 problem
    | .ok (q, told) =>
      for text in told do
        Run.failing name 0 text
      let words := if operands.isEmpty then ["echo".toList] else operands
      let st ← get
      let input : Except OsError Octets :=
        match q.source with
        | some path => (st.files.read (Octets.toText path)).map Octets.ofBytes
        | none => .ok (st.unread 0)
      if q.source.isNone then modify fun st => (st.readUpTo 0 []).drained 0
      match input with
      | .error e =>
        Run.failing name 1 ("Cannot open input file ".toList ++
          QuotedName.ofArgument (q.source.getD []) ++ ": ".toList ++ e.reason.toList)
      | .ok input =>
        if q.separator.isNone && input.any fun c => c.toNat = 0 then
          Run.failing name 0 ("WARNING: a NUL character occurred in the input.  ".toList ++
            "It cannot be passed through in the argument list.  ".toList ++
            "Did you mean to use the --null option?".toList)
        let (calls, problem) := q.calls words input
        let (status, isDone) ← r.callAll become name q 0 calls
        match problem with
        | some text => if isDone then Run.failing name 1 text else Run.finish status
        | none => Run.finish status

end Runner

end CallForest.Shell
