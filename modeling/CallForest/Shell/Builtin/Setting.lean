import CallForest.Shell.Builtin.Option

/-!
# Setting options

The command `set`, which sets the options of the shell and the positional parameters, and how the
shell reads its own arguments; and the command `shopt` of the extended shell, which shows and
changes what can be switched on and off.
-/

namespace CallForest.Shell

/-- What the arguments of the shell or of `set` ask for besides options. -/
structure SettingArguments where
  /-- Whether a text is to be run that follows the options. -/
  commandText : Bool
  /-- Whether two hyphens ended the options. -/
  dashes : Bool
  operands : List Octets

/-- Sets an option that may not exist. -/
def setOption (c : Char) (value : Bool) : Run Unit := do
  let known := if (← get).isExtended then extendedSettings.any fun s => s.2 == some c
    else settingNames.any fun s => s.1 = c && 32 ≤ c.toNat
  if known then modify (·.withOption c value) else Builtin.unknownOption c

/-- Sets the option of a name; without a name the options are listed. -/
def setNamed (name : Option Octets) (value : Bool) : Run Unit := do
  match name with
  | none => Run.print ((← get).settingLines !value)
  | some name =>
    if (← get).isExtended then
      match extendedSettings.find? fun s => s.1.toList = name with
      | some (_, some c) => modify (·.withOption c value)
      | some (name, none) =>
        modify fun st =>
          let other := if name = "vi" then "emacs" else if name = "emacs" then "vi" else ""
          (st.withSwitch other false).withSwitch name value
      | none => Run.abort (name ++ ": invalid option name".toList)
    else
      match settingNames.find? fun s => s.2.toList = name with
      | some (c, _) => modify (·.withOption c value)
      | none => Run.abort ("Illegal option -o ".toList ++ name)

/-- Sets the options whose letters are given; the result tells whether there was one whose name is
the next argument, and whether there was `c`. -/
def setLetters (isInvocation value : Bool) : Octets → Run (Bool × Bool)
  | [] => return (false, false)
  | c :: cs => do
    if c = 'o' then
      let (_, text) ← setLetters isInvocation value cs
      return (true, text)
    else if c = 'c' && isInvocation then
      let (named, _) ← setLetters isInvocation value cs
      return (named, true)
    else
      unless c = 'l' && isInvocation do setOption c value
      setLetters isInvocation value cs

/-- Sets the options in front of arguments. `awaiting` tells that the next argument is the name of
an option to be set or taken back. -/
def setOptions (isInvocation : Bool) : Option Bool → List Octets → Run SettingArguments
  | none, [] => return ⟨false, false, []⟩
  | some value, [] => do
    let st ← get
    if isInvocation && !st.isExtended then
      let all := settingNames.map Prod.fst
      Run.print ({ st with options := all }.settingLines !value)
    else setNamed none value
    return ⟨false, false, []⟩
  | some value, name :: args => do
    setNamed (some name) value
    setOptions isInvocation none args
  | none, arg :: args => do
    match arg with
    | ['-'] =>
      unless isInvocation do modify fun st => (st.withOption 'x' false).withOption 'v' false
      return ⟨false, false, args⟩
    | ['-', '-'] => return ⟨false, true, args⟩
    | sign :: cs =>
      if sign = '-' ∨ sign = '+' then
        let (named, text) ← setLetters isInvocation (sign == '-') cs
        let others ← setOptions isInvocation (if named then some (sign == '-') else none) args
        return { others with commandText := others.commandText || text }
      else return ⟨false, false, arg :: args⟩
    | [] => return ⟨false, false, arg :: args⟩

namespace Builtin

/-- The lines that list variables, with a command in front of each. -/
def variableLines (front : String) (vs : List Variable) : Octets :=
  let sorted := vs.mergeSort fun a b => a.name ≤ b.name
  Octets.ofLines (sorted.map fun v =>
    front.toList ++ v.name.toList ++
      (match v.value with
        | some s => '=' :: quoted s
        | none => []))

/-- The letters of the options in front of arguments, with those that stand for names left out. -/
def settingLetters : List Octets → Octets
  | [] => []
  | arg :: args =>
    match arg with
    | ['-', '-'] | ['-'] => []
    | sign :: cs =>
      if sign = '-' ∨ sign = '+' then
        cs.filter (· ≠ 'o') ++ settingLetters (if 'o' ∈ cs then args.drop 1 else args)
      else []
    | [] => []
termination_by args => args.length
decreasing_by
  split
  · simp only [List.length_cons, List.length_drop]; omega
  · simp

/-- Sets options and positional parameters. -/
def change : Builtin := fun args => do
  if args.isEmpty then
    let st ← get
    Run.print (variableLines "" (st.bindings.filter fun v => v.value.isSome))
  else
    if (← get).isExtended then
      let unknown := (settingLetters args).find? fun c => !extendedSettings.any (·.2 == some c)
      if let some c := unknown then unknownOption c
    let a ← setOptions false none args
    if a.dashes || !a.operands.isEmpty then
      modify fun st => { st with parameters := a.operands, optionPlace := .start }
  Run.finish 0

/-! ## Switches of the extended shell -/

/-- A line that shows whether something is on, or that sets it so. -/
def switchLine (asCommand : Bool) (command : String × String) (name : String) (value : Bool) :
    Octets :=
  if asCommand then
    (if value then command.1 else command.2).toList ++ ' ' :: name.toList ++ ['\n']
  else
    name.toList ++ List.replicate (15 - name.length) ' ' ++
      (if value then "\ton\n" else "\toff\n").toList

/-- Shows switches or changes them; with `-o` those are meant that `set` knows by name. -/
def shopt : Builtin := fun args => do
  let (given, names) ← options "opqsu" "" args
  let has (c : Char) : Bool := given.any fun o => o.1 = c
  let st ← get
  if has 's' && has 'u' then
    return ← Run.refuse 1 "cannot set and unset shell options simultaneously".toList
  let all : List (String × Bool) :=
    if has 'o' then extendedSettings.map fun s => (s.1, st.hasExtended s)
    else switchNames.map fun s => (s.1, st.isOn s.1)
  let line (s : String × Bool) : Octets :=
    let commands := if has 'o' then ("set -o", "set +o") else ("shopt -s", "shopt -u")
    switchLine (has 'p') commands s.1 s.2
  if names.isEmpty then
    let shown := all.filter fun s => (!has 's' || s.2) && (!has 'u' || !s.2)
    Run.say 0 (if has 'q' then [] else shown.flatMap line)
  else
    let mut status := 0
    for name in names do
      match all.find? fun s => s.1.toList = name with
      | none =>
        let what := if has 'o' then ": invalid option name" else ": invalid shell option name"
        modify fun st => st.warn (name ++ what.toList)
        status := 1
      | some s =>
        if has 's' || has 'u' then
          if has 'o' then setNamed (some name) (has 's')
          else modify (·.withSwitch s.1 (has 's'))
        else
          unless has 'q' do Run.print (line s)
          unless s.2 do status := 1
    Run.finish status

end Builtin

end CallForest.Shell
