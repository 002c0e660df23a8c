import CallForest.Shell.Starter.Awk.Streams

/-!
# Evaluation in scripts of rules

What expressions come to and statements do. Each takes a number of steps that it may go on in
itself, so that everything comes to an end.
-/

namespace CallForest.Shell

open CallForest.Awk

namespace Act

/-! ## Places -/

/-- What can be given a value, with its keys and numbers known. -/
inductive Place where
  | name (n : String)
  | item (table : Nat) (key : Octets)
  | field (n : Nat)

/-- The value at a place. -/
def valueAt : Place → Act Value
  | .name n => return (← get).value n
  | .item t key => do
    let m ← get
    let (v, table) := (m.table t).take key
    set (m.setTable t table)
    return v
  | .field n => remembering (·.field n)

/-- Gives a place a value. -/
def putAt (v : Value) : Place → Act Unit
  | .name n => modify (·.setValue n v)
  | .item t key => modify fun m => m.setTable t ((m.table t).put key v)
  | .field n => modify (·.setField n v)

/-- A value as a text. -/
def text (v : Value) : Act Octets := return (← get).text v

/-- The pattern that a text is. -/
def patternOf (s : Octets) : Act Regex :=
  match readPattern s with
  | .ok r => return r
  | .error e =>
    throw (.fails ("regular expression compile failed (".toList ++ e ++ ")\n".toList ++ s))

/-- Values under a format, for a function of a name; `early` gets what can be shown if there are too
few of them. -/
def formatted (function : String) (early : Octets → Act Unit) (values : List Value) :
    Act Octets := do
  match values with
  | [] => return []
  | format :: values =>
    let m ← get
    let format := m.text format
    match formattedFrom m.text (format.length + 1) format values with
    | (s, true) => return s
    | (s, false) =>
      early s
      throw (.fails ("not enough arguments passed to ".toList ++ function.toList ++ "(\"".toList ++
        format ++ "\")".toList))

/-- Does something that may be a pass of a loop, and tells whether the loop goes on. -/
def pass (body : Act Unit) : Act Bool :=
  tryCatch (do body; return true) fun jump =>
    match jump with
    | .leave => return false
    | .goOn => return true
    | jump => throw jump

/-! ## Functions of the language -/

/-- A part of a text, from a position on and so many characters. -/
def partOf (s : Octets) (start : Float) (count : Option Float) : Octets :=
  let first := clamped start.round
  match count with
  | none => s.drop (first - 1).toNat
  | some count =>
    let last := clamped (start + count).round
    (s.take (last - 1).toNat).drop (first - 1).toNat

/-- A number between zero and one, and what the next one is found from. -/
def chance (seed : Nat) : Float × Nat :=
  let next := (seed * 1103515245 + 12345) % 2147483648
  (Float.ofNat next / 2147483648.0, next)

/-- What a function of numbers comes to. -/
def calculation? (function : String) (args : List Float) : Option Float :=
  match function, args with
  | "sin", [x] => some x.sin
  | "cos", [x] => some x.cos
  | "atan2", [x, y] => some (Float.atan2 x y)
  | "exp", [x] => some x.exp
  | "log", [x] => some x.log
  | "sqrt", [x] => some x.sqrt
  | "int", [x] => some (if x < 0.0 then x.ceil else x.floor)
  | _, _ => none

/-- What a function of values comes to that changes nothing but what is remembered of matches. -/
def known (run : CommandRunner) (function : String) (args : List Value) : Act Value := do
  let texts := args.map (← get).text
  let first := texts.headD []
  let second := (texts[1]?).getD []
  match function with
  | "length" =>
    match texts with
    | [] => do
      let (s, m) := (← get).currentRecord
      set m
      return .ofNat s.length
    | s :: _ => return .ofNat s.length
  | "substr" =>
    let number (n : Nat) : Option Float := (args[n]?).map Value.toNumber
    return .text (partOf first ((number 1).getD 0.0) (number 2))
  | "index" =>
    let found := (List.range (first.length + 1)).find? fun n => second.isPrefixOf (first.drop n)
    return .ofNat ((found.map (· + 1)).getD 0)
  | "tolower" => return .text (first.map Char.toLower)
  | "toupper" => return .text (first.map Char.toUpper)
  | "sprintf" => return .text (← formatted "sprintf" (fun _ => return) args)
  | "system" =>
    let (status, _) ← command run first none false
    return .ofNat status
  | "close" => return .number (Float.ofInt (← close run first))
  | "fflush" =>
    flush
    return .number 0.0
  | "rand" =>
    let m ← get
    let (x, seed) := chance m.seed
    set { m with seed := seed }
    return .number x
  | "srand" =>
    let m ← get
    let seed := args.head?.getD (.number 0.0)
    set { m with seed := (clamped seed.toNumber).natAbs, lastSeed := seed }
    return m.lastSeed
  | function =>
    match calculation? function (args.map Value.toNumber) with
    | some x => return .number x
    | none => throw (.fails ("wrong number of arguments in call to ".toList ++ function.toList))

/-- Splits a text into the items of a table, and gives their number. -/
def splitInto (table : Nat) (s : Octets) (separator : FieldSeparator) : Act Value := do
  let parts := separator.parts s
  let items : Table := parts.zipIdx.map fun (p, n) => (Text.decimal (n + 1), .read p)
  modify (·.setTable table items)
  return .ofNat parts.length

/-- Looks for a pattern in a text, and remembers where it was found. -/
def findIn (s : Octets) (r : Regex) : Act Value := do
  let (start, size) : Float × Float := match r.find? false s with
    | some (a, q) => (Float.ofNat (a + 1), Float.ofNat (q.offset - a))
    | none => (0.0, -1.0)
  modify fun m => (m.setGlobal "RSTART" (.number start)).setGlobal "RLENGTH" (.number size)
  return .number start

/-! ## Expressions and statements -/

section

variable (run : CommandRunner) (functions : List Function)

/-- How many steps a script may take in each other. -/
def maxSteps : Nat := 2000000

mutual

/-- The value of an expression. -/
def eval (n : Nat) (e : Expression) : Act Value :=
  match n with
  | 0 => ofRun (throw .timeUp)
  | n + 1 =>
    match e with
    | .number x => return .number x
    | .text s => return .text s
    | .pattern r => do
      let s ← remembering Memory.currentRecord
      return .ofBool (r.find? false s).isSome
    | .name x => return (← get).value x
    | .item _ _ | .field _ => do valueAt (← place n e)
    | .assign target join value => do
      let p ← place n target
      let v ← eval n value
      let v ← match join with
        | none => pure v
        | some join => do
          let old ← valueAt p
          pure (.number (join.result old.toNumber v.toNumber))
      putAt v p
      return v
    | .step target isAfter amount => do
      let p ← place n target
      let old := (← valueAt p).toNumber
      putAt (.number (old + amount)) p
      return .number (if isAfter then old + amount else old)
    | .negative e => return .number (-(← eval n e).toNumber)
    | .positive e => return .number (← eval n e).toNumber
    | .negation e => return .ofBool !(← eval n e).isTrue
    | .arithmetic join a b => do
      let x ← eval n a
      let y ← eval n b
      return .number (join.result x.toNumber y.toNumber)
    | .compare how a b => do
      let x ← eval n a
      let y ← eval n b
      return .ofBool (how.holds (← get).format x y)
    | .fits negated a p => do
      let s ← text (← eval n a)
      let r ← pattern n p
      return .ofBool ((r.find? false s).isSome != negated)
    | .both a b => do
      if (← eval n a).isTrue then return .ofBool (← eval n b).isTrue else return .ofBool false
    | .either a b => do
      if (← eval n a).isTrue then return .ofBool true else return .ofBool (← eval n b).isTrue
    | .choose c a b => do
      if (← eval n c).isTrue then eval n a else eval n b
    | .concatenation a b => do
      let x ← eval n a
      let s ← text x
      let y ← eval n b
      return .text (s ++ (← text y))
    | .member keys table => do
      let key ← keyOf n keys
      let t ← remembering (·.tableOf table)
      return .ofBool (((← get).table t).lookup key).isSome
    | .known f args => knownCall n f args
    | .call f args =>
      match functions.find? fun g => g.name = f with
      | none => throw (.fails ("function ".toList ++ f.toList ++ " never defined".toList))
      | some g => do
        let cells ← passedAll n args
        let m ← get
        let missing := g.parameters.drop cells.length
        set { m with locals := g.parameters.zip cells ++ missing.map fun p => (p, Cell.fresh none) }
        let back (v : Value) : Act Value := do
          modify ({ · with locals := m.locals })
          return v
        tryCatch (do execAll n g.body; back .nothing) fun jump =>
          match jump with
          | .giveBack v => back v
          | jump => throw jump
    | .getline kind target source => do
      let record ← match kind, source with
        | .main, _ | _, none => return ← received n target true true (some (← nextRecord 10000))
        | .file, some s => do
          let name ← text (← eval n s)
          recordOf run false name
        | .command, some s => do
          let name ← text (← eval n s)
          recordOf run true name
      received n target false false record
    | .group es =>
      match es with
      | [e] => eval n e
      | es => do return .text (← keyOf n es)
  termination_by structural n

/-- The values of expressions. -/
def evalAll (n : Nat) (es : List Expression) : Act (List Value) :=
  match n with
  | 0 => ofRun (throw .timeUp)
  | n + 1 =>
    match es with
    | [] => return []
    | e :: es => do
      let v ← eval n e
      return v :: (← evalAll n es)
  termination_by structural n

/-- What is passed to a function for expressions. -/
def passedAll (n : Nat) (es : List Expression) : Act (List Cell) :=
  match n with
  | 0 => ofRun (throw .timeUp)
  | n + 1 =>
    match es with
    | [] => return []
    | .name x :: es => do
      let c ← if x = "NF" then pure (Cell.value ((← get).value x)) else remembering (·.passed x)
      return c :: (← passedAll n es)
    | e :: es => do
      let v ← eval n e
      return .value v :: (← passedAll n es)
  termination_by structural n

/-- The key of an item: one text, or several with a mark between. -/
def keyOf (n : Nat) (keys : List Expression) : Act Octets :=
  match n with
  | 0 => ofRun (throw .timeUp)
  | n + 1 => do
    let values ← evalAll n keys
    let m ← get
    return (m.globalText "SUBSEP").intercalate (values.map m.text)
  termination_by structural n

/-- The place that an expression means. -/
def place (n : Nat) (e : Expression) : Act Place :=
  match n with
  | 0 => ofRun (throw .timeUp)
  | n + 1 =>
    match e with
    | .name x => return .name x
    | .item table keys => do
      let key ← keyOf n keys
      let t ← remembering (·.tableOf table)
      return .item t key
    | .field e => do
      let index := clamped (← eval n e).toNumber
      if index < 0 then
        throw (.fails ("negative field index $".toList ++ integerText index))
      else return .field index.toNat
    | _ => throw (.fails "not a place".toList)
  termination_by structural n

/-- The pattern that an expression means. -/
def pattern (n : Nat) (e : Expression) : Act Regex :=
  match n with
  | 0 => ofRun (throw .timeUp)
  | n + 1 =>
    match e with
    | .pattern r => return r
    | e => do
      let v ← eval n e
      patternOf (← text v)
  termination_by structural n

/-- Puts a record that was taken where it belongs, and tells how that went. It may be counted, among
those of the input at hand too. -/
def received (n : Nat) (target : Option Expression) (isCounted ofFile : Bool)
    (record : Option (Option Octets)) : Act Value :=
  match n with
  | 0 => ofRun (throw .timeUp)
  | n + 1 =>
    match record with
    | none => return .number (-1.0)
    | some none => return .number 0.0
    | some (some s) => do
      if isCounted then modify (·.counted ofFile)
      match target with
      | none => modify (·.setRecord s)
      | some e =>
        let p ← place n e
        putAt (.read s) p
      return .number 1.0
  termination_by structural n

/-- The value of a function of the language. -/
def knownCall (n : Nat) (f : String) (args : List Expression) : Act Value :=
  match n with
  | 0 => ofRun (throw .timeUp)
  | n + 1 =>
    match f, args with
    | "length", [.name x] => do
      match (← get).cell x with
      | .table t => return .ofNat ((← get).table t).length
      | _ => known run f (← evalAll n args)
    | "split", s :: .name x :: rest => do
      let s ← text (← eval n s)
      let separator ← match rest with
        | [] => pure (FieldSeparator.ofText ((← get).globalText "FS"))
        | .pattern r :: _ => pure (FieldSeparator.pattern r)
        | e :: _ => do pure (FieldSeparator.ofText (← text (← eval n e)))
      let t ← remembering (·.tableOf x)
      splitInto t s separator
    | "match", [s, p] => do
      let s ← text (← eval n s)
      findIn s (← pattern n p)
    | "sub", p :: r :: rest | "gsub", p :: r :: rest => do
      let regex ← pattern n p
      let replacement ← text (← eval n r)
      let target := rest.headD (.field (.number 0.0))
      let target? ← if target.isPlace then some <$> place n target else pure none
      let s ← match target? with
        | some p => text (← valueAt p)
        | none => text (← eval n target)
      let places := matchesIn regex s
      let places := if f = "sub" then places.take 1 else places
      if let some p := target? then
        unless places.isEmpty do putAt (.text (substituted s replacement places)) p
      return .ofNat places.length
    | f, args => do known run f (← evalAll n args)
  termination_by structural n

/-- Does a statement. -/
def exec (n : Nat) (s : Statement) : Act Unit :=
  match n with
  | 0 => ofRun (throw .timeUp)
  | n + 1 =>
    match s with
    | .expression e => do let _ ← eval n e
    | .print isFormatted args destination => do
      let values ← evalAll n args
      let put : Octets → Act Unit ← match destination with
        | none => pure fun shown => modify fun m => { m with printed := shown :: m.printed }
        | some (kind, e) => do
          let name ← text (← eval n e)
          pure (printTo kind name)
      if isFormatted then put (← formatted "printf" put values)
      else
        let (record, m) := (← get).currentRecord
        set m
        let format := m.globalText "OFMT"
        let texts := if args.isEmpty then [record] else values.map fun v => v.toText format
        put ((m.globalText "OFS").intercalate texts ++ m.globalText "ORS")
    | .block body => execAll n body
    | .choose c yes no => do
      if (← eval n c).isTrue then exec n yes else exec n no
    | .loop c body => do
      if (← eval n c).isTrue then
        if ← pass (exec n body) then exec n (.loop c body)
    | .loopAfter body c => do
      if ← pass (exec n body) then
        if (← eval n c).isTrue then exec n (.loopAfter body c)
    | .counting c after body => do
      let holds ← match c with
        | some c => do pure (← eval n c).isTrue
        | none => pure true
      if holds then
        if ← pass (exec n body) then
          exec n after
          exec n (.counting c after body)
    | .forEach x table body => do
      let t ← remembering (·.tableOf table)
      let keys := ((← get).table t).orderedKeys
      let _ ← keys.foldlM (fun goesOn key => do
        if goesOn then
          modify (·.setValue x (.text key))
          pass (exec n body)
        else return false) true
    | .leave => throw .leave
    | .goOn => throw .goOn
    | .next => throw .next
    | .nextFile => throw .nextFile
    | .exit code => do
      if let some e := code then
        let v ← eval n e
        modify ({ · with code := ((clamped v.toNumber) % 256).toNat })
      throw .exit
    | .giveBack e =>
      match e with
      | some e => do throw (.giveBack (← eval n e))
      | none => throw (.giveBack .nothing)
    | .delete table keys => do
      let t ← remembering (·.tableOf table)
      match keys with
      | none => modify (·.setTable t [])
      | some keys =>
        let key ← keyOf n keys
        modify fun m => m.setTable t ((m.table t).filter fun e => e.1 ≠ key)
  termination_by structural n

/-- Does statements in order. -/
def execAll (n : Nat) (body : List Statement) : Act Unit :=
  match n with
  | 0 => ofRun (throw .timeUp)
  | n + 1 =>
    match body with
    | [] => return
    | s :: rest => do
      exec n s
      execAll n rest
  termination_by structural n

end

end

end Act

end CallForest.Shell
