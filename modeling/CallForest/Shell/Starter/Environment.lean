import CallForest.Shell.Start

/-!
# Changed environments

`env` starts a program in an environment that its arguments change, or prints that environment. An
argument may stand for several, which are cut at blanks, as the first line of a script needs them.
-/

namespace CallForest.Shell

/-! ## Splitting an argument -/

/-- A word in progress, reversed, if one has begun. -/
abbrev SplitWord := Option Octets

/-- What letters behind a backslash stand for in an argument that is split. -/
def splitEscape? (c : Char) : Option Char :=
  match c with
  | 'f' => some (Char.ofNat 12)
  | 'n' => some '\n'
  | 'r' => some '\r'
  | 't' => some '\t'
  | 'v' => some (Char.ofNat 11)
  | '#' | '$' | '"' | '\'' | '\\' => some c
  | _ => none

/-- Splits an argument into words. Quotes keep blanks, and the values of variables are put in for
names in braces. `quote` is the quote that is open. The first argument bounds the number of
characters. -/
def splitString (value? : Octets → Option Octets) :
    Nat → SplitWord → Option Char → Octets → Except Octets (List Octets)
  | 0, word, _, _ => .ok (word.toList.map List.reverse)
  | _ + 1, word, none, [] => .ok (word.toList.map List.reverse)
  | _ + 1, _, some _, [] => .error "no terminating quote in -S string".toList
  | steps + 1, word, quote, c :: cs =>
    let more (word : SplitWord) (quote : Option Char) (cs : Octets) :=
      splitString value? steps word quote cs
    let ended (cs : Octets) : Except Octets (List Octets) :=
      (more none none cs).map fun others => word.toList.map List.reverse ++ others
    let add (d : Char) (cs : Octets) := more (some (d :: word.getD [])) quote cs
    if (c = '\'' ∨ c = '"') ∧ quote = none then more (some (word.getD [])) (some c) cs
    else if quote = some c then more word none cs
    else if quote = none && Numeral.isBlank c then ended cs
    else if c = '#' ∧ quote = none ∧ word = none then .ok []
    else if c = '\\' && quote ≠ some '\'' then
      match cs with
      | [] => .error "invalid backslash at end of string in -S".toList
      | '_' :: cs => if quote = none then ended cs else add ' ' cs
      | 'c' :: _ =>
        if quote = none then .ok (word.toList.map List.reverse)
        else .error "'\\c' must not appear in double-quoted -S string".toList
      | d :: cs =>
        match splitEscape? d with
        | some e => add e cs
        | none => .error ("invalid sequence '\\".toList ++ d :: "' in -S".toList)
    else if c = '\\' && (cs.head? == some '\\' || cs.head? == some '\'') then
      add (cs.headD '\\') cs.tail
    else if c = '$' && quote ≠ some '\'' then
      let wrong : Except Octets (List Octets) :=
        .error ("only $\x7bVARNAME\x7d expansion is supported, error at: ".toList ++ c :: cs)
      match cs with
      | '\x7b' :: rest =>
        let name := rest.takeWhile fun c => c.isAlphanum || c == '_'
        match rest.drop name.length with
        | '\x7d' :: behind =>
          if name.isEmpty || name.head?.any Char.isDigit then wrong
          else
            match value? name with
            | some v => more (some (v.reverse ++ word.getD [])) quote behind
            | none => more word quote behind
        | _ => wrong
      | _ => wrong
    else add c cs

/-! ## Options -/

/-- What `env` is asked for. -/
structure EnvironmentRequest where
  clears : Bool
  /-- Whether null bytes end what is printed. -/
  nulls : Bool
  removed : List Octets
  directory : Option Octets
  /-- The signals that the program takes no notice of. -/
  ignored : List String
  tells : Bool
  /-- What is to be told about arguments that were split. -/
  notes : List Octets

namespace EnvironmentRequest

/-- The options by letters and words. -/
def table : OptionTable :=
  ⟨[('i', .never), ('0', .never), ('u', .always), ('C', .always), ('S', .always), ('v', .never)],
    [("ignore-environment", 'i', .never), ("null", '0', .never), ("unset", 'u', .always),
      ("chdir", 'C', .always), ("split-string", 'S', .always), ("debug", 'v', .never),
      ("block-signal", 'b', .optional), ("default-signal", 'd', .optional),
      ("ignore-signal", 'g', .optional), ("list-signal-handling", 'l', .never),
      ("version", OptionTable.versionLetter, .never)], true⟩

/-- Takes an option into account. -/
def taking (q : EnvironmentRequest) (o : GivenOption) : Except Octets EnvironmentRequest :=
  match o.1 with
  | 'i' => .ok { q with clears := true }
  | '0' => .ok { q with nulls := true }
  | 'u' => .ok { q with removed := q.removed ++ [o.2] }
  | 'C' => .ok { q with directory := some o.2 }
  | 'v' => .ok { q with tells := true }
  | 'g' | 'b' | 'd' =>
    let all := Signal.names.map String.toList
    let names := if o.2.isEmpty then all else o.2.splitOn ','
    match names.find? fun s => (Signal.number? s).isNone with
    | some s => .error (QuotedName.ofArgument s ++ ": invalid signal".toList)
    | none =>
      let names := names.filterMap fun s => (Signal.number? s).bind Signal.name?
      if o.1 = 'g' then .ok { q with ignored := q.ignored ++ names } else .ok q
  | _ => .ok q

/-- Reads the options in front of the arguments. The first argument bounds the number of
arguments, those of split ones counted too. -/
def read (value? : Octets → Option Octets) :
    Nat → EnvironmentRequest → List Octets → Except Octets (EnvironmentRequest × List Octets)
  | 0, q, args => .ok (q, args)
  | _ + 1, q, [] => .ok (q, [])
  | steps + 1, q, arg :: args =>
    if arg = ['-', '-'] then .ok (q, args)
    else if arg.head? ≠ some '-' || arg.length = 1 then .ok (q, arg :: args)
    else
      let awaits : Bool :=
        match arg with
        | '-' :: '-' :: word =>
          match table.readWord word with
          | .ok (_, none) => true
          | _ => false
        | letters =>
          match table.readLetters letters.tail with
          | (_, .ok (some _)) => true
          | _ => false
      let used := if awaits then 2 else 1
      match table.readFrom none ((arg :: args).take used) with
      | (_, .error problem) => .error problem
      | (given, .ok _) => do
        let q ← List.foldlM taking q given
        let rest := (arg :: args).drop used
        match givenValue? given 'S' with
        | none => read value? steps q rest
        | some text =>
          let words ← splitString value? (text.length + 1) none none text
          let line (front : String) (s : Octets) : Octets :=
            front.toList ++ QuotedName.ofArgument s ++ ['\n']
          let notes := line "split -S:  " text :: (words.zipIdx.map fun (w, k) =>
            line (if k = 0 then " into:    " else "     &    ") w)
          read value? steps { q with notes := q.notes ++ notes } (words ++ rest)

end EnvironmentRequest

/-! ## The program -/

/-- Puts the variable of a word into the environment. -/
def State.withAssignment (st : State) (w : Octets) : State :=
  let name := w.takeWhile (· ≠ '=')
  st.bind (.forPrograms (String.ofList name) (w.drop (name.length + 1)))

/-- The state in another directory. -/
def State.inDirectory (st : State) (path : String) : Except OsError State := do
  let target ← st.files.resolve path
  match target.entry with
  | some (.directory _ _) =>
    .ok { st with
      files := { st.files with workingDirectory := target.location }
      place := target.location }
  | some _ => .error .notDirectory
  | none => .error .notFound

/-- Goes on as a program in the environment that is asked for, or prints that environment. -/
def runInEnvironment (become : Image → Run Unit) (name : Octets) (q : EnvironmentRequest)
    (words : List Octets) : Run Unit := do
  let (q, words) :=
    if words.head? = some ['-'] then ({ q with clears := true }, words.tail) else (q, words)
  let isAssignment (w : Octets) : Bool := w.contains '='
  let assigned := words.takeWhile isAssignment
  let command := words.dropWhile isAssignment
  let tell (front : String) (s : Octets) : Run Unit := do
    if q.tells then modify (·.put 2 (front.toList ++ s ++ ['\n']))
  if q.tells then modify (·.put 2 q.notes.flatten)
  match q.removed.find? fun s => s.isEmpty || s.contains '=' with
  | some s =>
    Run.failing name 125 ("cannot unset ".toList ++ QuotedName.ofArgument s ++
      ": Invalid argument".toList)
  | none =>
    if q.clears then
      tell "cleaning environ" []
      modify fun st => { st with bindings := st.bindings.filter fun v => !v.exported }
    else
      for s in q.removed do
        tell "unset:    " s
        modify (·.unbind (String.ofList s))
    for w in assigned do
      tell "setenv:   " w
      modify (·.withAssignment w)
    modify fun st =>
      { st with traps := q.ignored.map (fun s => (s, [])) ++
          st.traps.filter fun t => !q.ignored.contains t.1 }
    match q.directory, command with
    | some _, [] =>
      Run.misuse name 125 (some "must specify command with --chdir (-C)".toList)
    | _, [] =>
      let newline := if q.nulls then Char.ofNat 0 else '\n'
      modify fun st => (st.put 1 (st.environment.flatMap fun v =>
        v.1.toList ++ '=' :: v.2 ++ [newline])).withStatus 0
    | directory, program :: rest =>
      if q.nulls then
        Run.misuse name 125 (some "cannot specify --null (-0) with command".toList)
      else
        let moved : Except OsError Unit ← match directory with
          | none => pure (.ok ())
          | some path => do
            tell "chdir:    " (QuotedName.ofArgument path)
            match (← get).inDirectory (Octets.toText path) with
            | .ok st =>
              set st
              pure (.ok ())
            | .error e => pure (.error e)
        match moved with
        | .error e =>
          Run.failing name 125 ("cannot change directory to ".toList ++
            QuotedName.ofArgument (directory.getD []) ++ ": ".toList ++ e.reason.toList)
        | .ok () =>
          tell "executing: " program
          for (w, k) in (program :: rest).zipIdx do
            tell ("   arg[" ++ toString k ++ "]= ") (QuotedName.ofArgument w)
          let missing := ((← get).imageNamed program rest).toOption.isNone
          startWords become name QuotedName.ofArgument (program :: rest)
          if missing && program.any Numeral.isBlank && (← get).status = 127 then
            Run.failing name 127 "use -[v]S to pass options in shebang lines".toList

/-- Goes on as a program in a changed environment, or prints the environment. -/
def envProgram (become : Image → Run Unit) (name : Octets) (args : List Octets) : Run Unit := do
  let st ← get
  let value? (name : Octets) : Option Octets :=
    st.environment.lookup (String.ofList name)
  let bound := args.foldl (fun n a => n + a.length + 2) 2
  match EnvironmentRequest.read value? bound ⟨false, false, [], none, [], false, []⟩ args with
  | .ok (q, words) => runInEnvironment become name q words
  | .error problem =>
    let isUsage := ["option ", "invalid option", "unrecognized"].any fun front =>
      front.toList.isPrefixOf problem
    let isSignal := ": invalid signal".toList.isSuffixOf problem
    if isUsage || isSignal then
      let blank := "invalid option -- ' '".toList == problem ||
        "invalid option -- '\t'".toList == problem
      if blank then
        Run.failing name 125 problem
        Run.misuse name 125 (some "use -[v]S to pass options in shebang lines".toList)
      else Run.misuse name 125 (some problem)
    else Run.failing name 125 problem

end CallForest.Shell
