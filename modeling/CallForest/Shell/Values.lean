import CallForest.Shell.Calculation
import CallForest.Shell.Switches

/-!
# Values of variables

How a script finds what its variables stand for and gives them values. In the extended language a
variable may stand for another one, the shell keeps some itself, and what is given may be
calculated.
-/

namespace CallForest.Shell

namespace State

/-! ## Finding -/

/-- A variable that the shell keeps itself. -/
def kept? (st : State) (name : String) : Option Variable :=
  let text (s : Octets) : Option Variable := some { Variable.unset name with value := some s }
  let list (values : List Octets) : Option Variable :=
    some { Variable.unset name with elements := some (.ofValues values) }
  let number (n : Nat) : Option Variable := text (Text.decimal n)
  match name with
  | "LINENO" => number st.line
  | "SECONDS" => number (st.clock / 1000000)
  | "RANDOM" => number ((st.budget * 7919 + 12345) % 32768)
  | "BASHPID" => number st.identity
  | "BASH_SUBSHELL" => number (if st.isSubshell then 1 else 0)
  | "PIPESTATUS" => list (st.pipeStatuses.map Text.decimal)
  | "FUNCNAME" =>
    if st.calls.isEmpty then none
    else list ((st.calls.map fun c => c.1.toList) ++ ["main".toList])
  | "BASH_LINENO" => list ((st.calls.map fun c => Text.decimal c.2) ++ [['0']])
  | "BASH_SOURCE" => list (st.sources ++ [st.name])
  | "_" => text st.lastWord
  | "DIRSTACK" =>
    list ((st.place :: st.visited).map fun place => Octets.ofText (pathOfPlace place))
  | "GROUPS" => list [['0']]
  | "SHELLOPTS" => text st.settingsOn
  | "BASHOPTS" => text st.switchesOn
  | _ => none

/-- The name of the variable that a name stands for. The first argument bounds the number of
steps. -/
def resolved (st : State) : Nat → String → String
  | 0, name => name
  | steps + 1, name =>
    match st.binding? name with
    | some v =>
      match v.value with
      | some s =>
        if v.marks.contains 'n' && !s.isEmpty then st.resolved steps (String.ofList s) else name
      | none => name
    | none => name

/-- How many names may stand for each other. -/
def maxResolved : Nat := 8

/-- The variable that a name stands for. -/
def variableNamed? (st : State) (name : String) : Option Variable :=
  match st.binding? name with
  | some v => if v.marks.contains 'n' then st.binding? (st.resolved maxResolved name) else some v
  | none => if st.isExtended then st.kept? name else none

/-- Whether the keys of a variable are texts. -/
def isTable (st : State) (name : String) : Bool :=
  ((st.variableNamed? name).bind Variable.elements).any Elements.isTable

/-- A key of a variable as it is kept; one that is less than zero counts from the end. None if that
is in front of the beginning. -/
def key? (v : Variable) (key : Octets) : Option Octets :=
  match v.elementsOrNew, key with
  | .list items, '-' :: digits =>
    let next := (Elements.list items).nextKey
    if keyNumber digits ≤ next then some (Text.decimal (next - keyNumber digits)) else none
  | _, key => some key

/-- The value of a key of a variable. -/
def elementOf? (v : Variable) (key : Octets) : Option Octets := do
  let key ← key? v key
  match v.elements with
  | none => if key = ['0'] then v.value else none
  | some e => e.get? key

/-- What calculations know of variables. -/
def calculationSetting (st : State) : Calculation.Setting :=
  { value := fun r =>
      match st.variableNamed? r.name with
      | none => []
      | some v => ((match r.key with
        | none => v.text?
        | some key => elementOf? v key) : Option Octets).getD []
    isTable := st.isTable
    isUnset := fun name => st.has 'u' &&
      (st.variableNamed? name).all fun v => v.value.isNone && v.elements.isNone ||
        v.marks.contains '?' }

/-- What is said of a calculation, in front of which the command of the grammar is named that it
belongs to. -/
def calculationMessage (st : State) (e : Calculation.Error) : Octets :=
  match st.builtin with
  | some b => if isGrammatical b then b.toList ++ ": ".toList ++ e.message else e.message
  | none => e.message

end State

namespace Run

/-! ## Missing values -/

/-- Ends the script because of a parameter. -/
def missing {α : Type} (name : Octets) (what : Octets) : Run α := do
  let text := name ++ ": ".toList ++ what
  if (← get).isExtended then
    modify fun st =>
      { { st with builtin := none }.warn text with builtin := st.builtin, status := 1 }
    throw .exit
  else Run.abort text

/-- Says that a parameter has no value where one is wanted. -/
def unbound {α : Type} (name : Octets) : Run α := do
  if (← get).isExtended then
    let isSign := name.all fun c => c.isDigit || c = '!'
    missing (if isSign then '$' :: name else name) "unbound variable".toList
  else missing name "parameter not set".toList

/-! ## Giving -/

/-- Says that a variable is not to be changed. -/
def refuseChange {α : Type} (name : String) : Run α := do
  if (← get).isExtended then giveUp (name.toList ++ ": readonly variable".toList)
  else abort (name.toList ++ ": is read only".toList)

/-- Gives a variable a value, or one of its keys. -/
def put (r : Calculation.Reference) (value : Octets) : Run Unit := do
  let st ← get
  let name := st.resolved State.maxResolved r.name
  let v := (st.binding? name).getD (.unset name)
  if v.readOnly || name = "SHELLOPTS" || name = "BASHOPTS" then refuseChange name
  else
    match r.key with
    | none => modify (·.assign name (v.lettered value))
    | some key =>
      match State.key? v key with
      | some key => modify (·.bind (v.withElement key (v.lettered value)))
      | none => giveUp (name.toList ++ '[' :: key ++ "]: bad array subscript".toList)

/-- The value of a calculation, or what is wrong with it. What it gives to variables they have
then. -/
def calculation? (text : Octets) : Run (Except Calculation.Error Int) := do
  match Calculation.evaluate (← get).calculationSetting text with
  | .error e => if e.problem = .unset then unbound e.token else return .error e
  | .ok (n, given) =>
    for (r, value) in given do
      put r (Calculation.shown value)
    return .ok n

/-- The value of a calculation. -/
def calculation (text : Octets) : Run Int := do
  match ← calculation? text with
  | .ok n => return n
  | .error e => giveUp ((← get).calculationMessage e)

/-- What a variable makes of a value that it is given, which may be put behind an old one. -/
def shaped (v : Variable) (appends : Bool) (old value : Octets) : Run Octets := do
  if v.marks.contains 'i' then
    let n ← calculation value
    let before ← if appends then calculation old else pure 0
    return Calculation.shown (Arithmetic.cut (before + n))
  else return v.lettered (if appends then old ++ value else value)

/-- Gives a variable, or one of its keys, a value, which may be put behind the old one. -/
def give (r : Calculation.Reference) (appends : Bool) (value : Octets) : Run Unit := do
  let v := ((← get).variableNamed? r.name).getD (.unset r.name)
  let old := (match r.key with
    | none => v.text?
    | some key => State.elementOf? v key).getD []
  put r (← shaped v appends old value)

/-- Goes on with the options of the script at an argument whose number is shown by a value. -/
def noteOptionPlace (value : Octets) : Run Unit := do
  if value.isEmpty || !value.all Char.isDigit then abort ("Illegal number: ".toList ++ value)
  else modify fun st => { st with optionPlace := ⟨max 1 (keyNumber value), none⟩ }

/-- Gives a variable a value, which may not be allowed. -/
def assign (name : String) (value : Octets) : Run Unit := do
  if (← get).isExtended then give ⟨name, none⟩ false value
  else if ((← get).binding? name).any Variable.readOnly then refuseChange name
  else
    if name = "OPTIND" then noteOptionPlace value
    modify (·.assign name value)

/-- Gives a variable values in the place of those that it has. -/
def assignElements (name : String) (e : Elements) : Run Unit := do
  let st ← get
  let name := st.resolved State.maxResolved name
  let v := (st.binding? name).getD (.unset name)
  if v.readOnly then refuseChange name
  else modify (·.bind { v.withMark '?' false with value := none, elements := some e })

/-- Gives a variable, or one of its keys, a value as a command of the shell does it; the result
tells whether that is allowed. -/
def tryGive (r : Calculation.Reference) (value : Octets) : Run Bool := do
  let st ← get
  let name := st.resolved State.maxResolved r.name
  if (st.binding? name).any Variable.readOnly then
    let text := name.toList ++ ": readonly variable".toList
    set { ({ st with builtin := none }.warn text).withStatus 1 with builtin := st.builtin }
    return false
  else
    give r false value
    return true

/-- The variable that a text names, which may be a key of another one. -/
def referenceOf (text : Octets) : Run Calculation.Reference := do
  let name := text.takeWhile isNameChar
  match text.drop name.length with
  | '[' :: inner =>
    let key := inner.dropLast
    if (← get).isTable (String.ofList name) then return ⟨String.ofList name, some key⟩
    else
      let n ← calculation key
      return ⟨String.ofList name, some (Calculation.shown n)⟩
  | _ => return ⟨String.ofList name, none⟩

end Run

end CallForest.Shell
