import CallForest.Shell.Builtin.Setting

/-!
# Commands on variables

The commands of the shell that mark variables, remove them, or give them values. Among these is
`getopts`, which gives the options among the arguments of a script to variables, one at a time. The
plain shell keeps in mind itself how far it has come and only tells the script; the extended one
goes by what the script has in `OPTIND`.
-/

namespace CallForest.Shell

namespace Builtin

/-- The name and the value of an argument that may be an assignment. -/
def nameAndValue (arg : Octets) : Octets × Option Octets :=
  let name := arg.takeWhile (· ≠ '=')
  (name, if name.length < arg.length then some (arg.drop (name.length + 1)) else none)

/-- A name that has to be that of a variable. -/
def variableName (name : Octets) : Run String := do
  if isName name then return String.ofList name
  else if (← get).isExtended then
    Run.refuse 1 (Char.ofNat 96 :: name ++ "': not a valid identifier".toList)
    throw .fault
  else Run.abort (name ++ ": bad variable name".toList)

/-- Marks variables, which may get values too. -/
def mark (command : String) (isMarked : Variable → Bool) (marked : Variable → Variable) :
    Builtin := fun args => do
  let (given, names) ← options "p" "" args
  if !given.isEmpty ∨ names.isEmpty then
    let st ← get
    Run.print (variableLines (command ++ " ") (st.bindings.filter isMarked))
  else
    for arg in names do
      let (name, value) := nameAndValue arg
      let name ← variableName name
      if let some value := value then Run.assign name value
      modify fun st =>
        st.bind (marked ((st.binding? name).getD (.unset name)))
  Run.finish 0

/-- Marks variables as seen by programs. -/
def export' : Builtin :=
  mark "export" Variable.exported fun v => { v with exported := true }

/-- Marks variables as never to be changed again. -/
def readonly : Builtin :=
  mark "readonly" Variable.readOnly fun v => { v with readOnly := true }

/-- Removes variables or functions. -/
def unset : Builtin := fun args => do
  let (given, names) ← options "vf" "" args
  let functions := (given.getLast?.map Prod.fst) = some 'f'
  for arg in names do
    let name := String.ofList arg
    let st ← get
    if functions then
      modify fun st => { st with functions := st.functions.filter fun f => f.1 ≠ name }
    else if (st.binding? name).any Variable.readOnly then
      Run.abort (arg ++ ": is read only".toList)
    else if !isName arg then Run.abort (arg ++ ": bad variable name".toList)
    else
      if name = "OPTIND" then Run.noteOptionPlace []
      modify (·.unbind name)
  Run.finish 0

/-- Notes what a variable is, to be put back when the function ends. -/
def noteLocal (name : String) : Run Unit :=
  modify fun st =>
    match st.locals with
    | [] => st
    | frame :: frames =>
      if frame.any fun l => l.1 = name then st
      else { st with locals := ((name, st.binding? name) :: frame) :: frames }

/-- Makes variables local to the function that is running. -/
def local' : Builtin := fun args => do
  if (← get).locals.isEmpty then Run.abort "not in a function".toList
  for arg in args do
    if arg = ['-'] then noteLocal "-"
    else
      let (name, value) := nameAndValue arg
      let name ← variableName name
      noteLocal name
      if let some value := value then Run.assign name value
  Run.finish 0

/-- Drops positional parameters in front, so many of them. -/
def dropParameters (n : Nat) : Run Unit :=
  modify fun st =>
    { st.withStatus 0 with parameters := st.parameters.drop n, optionPlace := .start }

/-- Drops positional parameters in front. -/
def shift : Builtin := fun args => do
  let n ← match args with
    | [] => pure 1
    | arg :: _ => number arg
  if (← get).parameters.length < n then Run.abort "can't shift that many".toList
  else dropParameters n

/-- The number that is the only argument of a command, if there is one; one if there is none. -/
def onlyNumber? (args : List Octets) : Run (Option Int) := do
  let args := if args.head? = some ['-', '-'] then args.drop 1 else args
  match args with
  | [] => return some 1
  | arg :: more =>
    match Numeral.decimal? arg with
    | none =>
      Run.refuse 1 (arg ++ ": numeric argument required".toList)
      return none
    | some n => if more.isEmpty then return some n else Run.giveUp "too many arguments".toList

/-- Drops positional parameters in front; the status tells whether there are so many. -/
def shiftSome : Builtin := fun args => do
  if let some n ← onlyNumber? args then
    let count := (← get).parameters.length
    if n < 0 then Run.refuse 1 (Calculation.shown n ++ ": shift count out of range".toList)
    else if (count : Int) < n then Run.finish 1
    else dropParameters n.toNat

/-! ## Options of scripts -/

/-- What the next option among arguments is. -/
inductive NextOption where
  /-- There is none. -/
  | none (next : OptionPlace)
  /-- A letter that may be given, with its value. -/
  | letter (c : Char) (value : Octets) (next : OptionPlace)
  | unknown (c : Char) (next : OptionPlace)
  | missing (c : Char) (next : OptionPlace)

/-- What stands behind a letter among those of the options; a colon behind a letter belongs to
it. -/
def shapeBehind? (c : Char) : Octets → Option Octets
  | [] => none
  | d :: ':' :: shape => if d = c then some (':' :: shape) else shapeBehind? c shape
  | d :: shape => if d = c then some shape else shapeBehind? c shape

/-- The next option from a place on. An argument counts as read as soon as its first letter is. -/
def nextOption (shape : Octets) (args : List Octets) (p : OptionPlace) : NextOption :=
  let held : Octets :=
    if p.next ≤ 1 then []
    else (p.offset.map fun n => (args.getD (p.next - 2) []).drop n).getD []
  let read (letters : Octets) (next : Nat) : NextOption :=
    match letters with
    | [] => .none ⟨next, none⟩
    | c :: rest =>
      let word := args.getD (next - 2) []
      let behind : OptionPlace := ⟨next, some (word.length - rest.length)⟩
      match shapeBehind? c shape with
      | none => .unknown c behind
      | some (':' :: _) =>
        if !rest.isEmpty then .letter c rest ⟨next, none⟩
        else
          match args[next - 1]? with
          | some value => .letter c value ⟨next + 1, none⟩
          | none => .missing c ⟨next, none⟩
      | some _ => .letter c [] behind
  if !held.isEmpty then read held p.next
  else
    match args[p.next - 1]? with
    | some ['-', '-'] => .none ⟨p.next + 1, none⟩
    | some ('-' :: c :: cs) => read (c :: cs) (p.next + 1)
    | _ => .none ⟨p.next, none⟩

/-- The next option from a place on in the extended shell, where an argument counts as read when its
last letter is. -/
def nextExtendedOption (shape : Octets) (args : List Octets) (p : OptionPlace) : NextOption :=
  let arg := args.getD (p.next - 1) []
  let isNew := p.offset.isNone
  if args.length < p.next then .none ⟨p.next, none⟩
  else if isNew && (arg.head? ≠ some '-' || arg.length = 1) then .none ⟨p.next, none⟩
  else if isNew && arg = ['-', '-'] then .none ⟨p.next + 1, none⟩
  else
    let front := p.offset.getD 1
    match arg.drop front with
    | [] => .none ⟨p.next, none⟩
    | c :: rest =>
      let behind : OptionPlace :=
        if rest.isEmpty then ⟨p.next + 1, none⟩ else ⟨p.next, some (front + 1)⟩
      match shapeBehind? c (shape.dropWhile (· == ':')) with
      | none => .unknown c behind
      | some (':' :: _) =>
        if !rest.isEmpty then .letter c rest ⟨p.next + 1, none⟩
        else
          match args[p.next]? with
          | some value => .letter c value ⟨p.next + 2, none⟩
          | none => .missing c ⟨p.next + 1, none⟩
      | some _ => .letter c [] behind

/-- Says what is wrong with an option, if that is to be said. -/
def tellOption (plain extended : String) (c : Char) : Run Unit :=
  modify fun st =>
    if !st.isExtended then st.put 2 (plain.toList.flatMap fun d => if d = '%' then [c] else [d])
    else if st.value? "OPTERR" = some ['0'] then st
    else st.put 2 (st.name ++ ": ".toList ++ extended.toList ++ " -- ".toList ++ [c, '\n'])

/-- Gives the next option of a script to variables. -/
def getopts : Builtin := fun args => do
  match args with
  | shape :: name :: more =>
    let st ← get
    if st.isExtended then let _ ← variableName name
    let list := if more.isEmpty then st.parameters else more
    let silent := shape.head? = some ':'
    let finish (value : Octets) (argument : Option Octets) (next : OptionPlace) (status : Nat) :
        Run Unit := do
      match argument with
      | some a => Run.assign "OPTARG" a
      | none => modify (·.unbind "OPTARG")
      Run.assign "OPTIND" (Text.decimal next.next)
      modify fun st => { st with optionPlace := next }
      let name ← variableName name
      Run.assign name value
      Run.finish status
    let found :=
      if st.isExtended then
        let position := max 1 (keyNumber ((st.value? "OPTIND").getD ['1']))
        nextExtendedOption shape list ⟨position, st.optionPlace.offset⟩
      else nextOption shape list st.optionPlace
    match found with
    | .none next => finish ['?'] (if st.isExtended then none else st.value? "OPTARG") next 1
    | .letter c value next => finish [c] (some value) next 0
    | .unknown c next =>
      if silent then finish ['?'] (some [c]) next 0
      else
        tellOption "Illegal option -%\n" "illegal option" c
        finish ['?'] none next 0
    | .missing c next =>
      if silent then finish [':'] (some [c]) next 0
      else
        tellOption "No arg for -% option\n" "option requires an argument" c
        finish ['?'] none next 0
  | _ =>
    if (← get).isExtended then showUsage
    else Run.abort "Usage: getopts optstring var [arg...]".toList

end Builtin

end CallForest.Shell
