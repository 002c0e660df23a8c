import CallForest.Shell.Builtin.Variable
import CallForest.Shell.Quoting

/-!
# Declarations of the extended shell

The commands of the extended shell that declare variables: `declare` and `local` give them marks, a
kind and values; `export`, `readonly` and `unset` do what they do in the plain shell, but an error
with one variable leaves the others alone.
-/

namespace CallForest.Shell

/-- What arguments do that give a variable the values of a list, by their texts. -/
abbrev ListArguments := List (Octets × Run Unit)

namespace Variable

/-- The values of a variable with their keys, as they are declared. -/
def shownElements (e : Elements) : Octets :=
  let shown (item : Octets × Octets) : Octets :=
    let key := if e.isTable && item.1.any Quoting.isSpecial then Quoting.double item.1 else item.1
    '[' :: key ++ ']' :: '=' :: Quoting.double item.2
  let items := e.items.map shown
  if e.isTable then '(' :: items.flatMap (· ++ [' ']) ++ [')']
  else '(' :: [' '].intercalate items ++ [')']

/-- The letters of what a variable is. -/
def letters (v : Variable) : Octets :=
  (match v.elements with
    | some e => if e.isTable then ['A'] else ['a']
    | none => []) ++
  "in".toList.filter v.marks.contains ++ (if v.readOnly then ['r'] else []) ++
  (if v.marks.contains 't' then ['t'] else []) ++ (if v.exported then ['x'] else []) ++
  "clu".toList.filter v.marks.contains

/-- The line that declares a variable. -/
def declaration (v : Variable) : Octets :=
  let letters := if v.letters.isEmpty then ['-'] else v.letters
  let value : Octets :=
    match v.elements, v.value with
    | some e, _ => if v.marks.contains '?' then [] else '=' :: shownElements e
    | none, some s => '=' :: Quoting.double s
    | none, none => []
  "declare -".toList ++ letters ++ ' ' :: v.name.toList ++ value ++ ['\n']

/-- The line that gives a variable its value; nothing if it has none. -/
def setting (v : Variable) : Octets :=
  match v.elements, v.value with
  | some e, _ =>
    if v.marks.contains '?' then [] else v.name.toList ++ '=' :: shownElements e ++ ['\n']
  | none, some s =>
    v.name.toList ++ '=' :: (if s.isEmpty then [] else Quoting.ifNeeded s) ++ ['\n']
  | none, none => []

end Variable

namespace Builtin

/-- Variables in the order of their names. -/
def sorted (vs : List Variable) : List Variable :=
  vs.mergeSort fun a b => octetsLe (Octets.ofText a.name) (Octets.ofText b.name)

/-- Shows the declarations of variables. -/
def showDeclarations (vs : List Variable) : Run Unit :=
  Run.say 0 ((sorted vs).flatMap Variable.declaration)

/-- Complains of something that is no name. -/
def notName (s : Octets) : Run Unit :=
  modify fun st => st.warn (Char.ofNat 96 :: s ++ "': not a valid identifier".toList)

/-- What an argument declares: a name with the index of a key, and a value that may be put behind
the old one. -/
structure Declared where
  name : String
  index : Option Octets
  value : Option (Bool × Octets)

/-- What an argument declares, if it is about a variable. -/
def declared? (arg : Octets) : Option Declared :=
  let name := arg.takeWhile isNameChar
  let rest := arg.drop name.length
  let valueOf (s : Octets) : Option (Option (Bool × Octets)) :=
    match s with
    | [] => some none
    | '=' :: s => some (some (false, s))
    | '+' :: '=' :: s => some (some (true, s))
    | _ => none
  if !isName name then none
  else
    match rest with
    | '[' :: cs =>
      match Calculation.atBracket? 0 [] cs with
      | some (index, behind) =>
        (valueOf behind).map fun value => ⟨String.ofList name, some index, value⟩
      | none => none
    | rest => (valueOf rest).map fun value => ⟨String.ofList name, none, value⟩

/-- The variable or the key that an argument is about. -/
def Declared.reference (d : Declared) : Run Calculation.Reference := do
  match d.index with
  | none => return ⟨d.name, none⟩
  | some index =>
    if (← get).isTable d.name then return ⟨d.name, some index⟩
    else return ⟨d.name, some (Calculation.shown (← Run.calculation index))⟩

/-! ## Declaring -/

/-- The marks that `declare` is to set and to take away. -/
structure Marking where
  on : Octets
  off : Octets

/-- Whether a mark is to be set. -/
def Marking.sets (m : Marking) (c : Char) : Bool := m.on.contains c

/-- The variable without a value of a function that is running, unless it is there. What it was
before comes back with the end of the function. -/
def makeLocal (name : String) : Run Unit := do
  let st ← get
  let isThere := (st.locals.headD []).any fun l => l.1 = name
  unless isThere do
    noteLocal name
    modify fun st =>
      let exported := (st.binding? name).any Variable.exported
      (st.unbind name).bind { Variable.unset name with exported := exported }

/-- Makes a variable a list or a table if that is asked for, or says why it cannot be one. -/
def ofKind (m : Marking) (v : Variable) : Except String Variable :=
  let isNew := v.elements.isNone && v.value.isNone
  let fresh (v : Variable) : Variable := if isNew then v.withMark '?' true else v
  match v.elements with
  | some e =>
    if m.sets 'A' && !e.isTable then .error "cannot convert indexed to associative array"
    else if m.sets 'a' && e.isTable then .error "cannot convert associative to indexed array"
    else .ok v
  | none =>
    if m.sets 'A' then
      .ok (fresh { v with
        value := none, elements := some (.table ((v.value.map fun s => (['0'], s)).toList)) })
    else if m.sets 'a' then .ok (fresh { v with value := none, elements := some v.elementsOrNew })
    else .ok v

/-- A variable with the marks that tell what is done to its values. -/
def marked (m : Marking) (v : Variable) : Variable :=
  let cleared := m.off.foldl (fun (v : Variable) c => v.withMark c false) v
  let set := (m.on.filter ("ilucnt".toList.contains ·)).foldl (fun (v : Variable) c =>
    let v :=
      if "luc".toList.contains c then
        ((v.withMark 'l' false).withMark 'u' false).withMark 'c' false
      else v
    v.withMark c true) cleared
  { set with exported := set.exported && !m.off.contains 'x' }

/-- Declares what an argument names; the result tells whether that was possible. -/
def declareOne (m : Marking) (isLocal : Bool) (lists : ListArguments) (arg : Octets) :
    Run Bool := do
  let list := lists.lookup arg
  let plain := if list.isSome then arg.takeWhile isNameChar else arg
  let refuse (text : String) : Run Bool := do
    modify fun st => st.warn (plain.takeWhile isNameChar ++ ": ".toList ++ text.toList)
    return false
  match declared? plain with
  | none =>
    notName arg
    return false
  | some d =>
    let st ← get
    let isNew := isLocal && !(st.locals.headD []).any fun l => l.1 = d.name
    let old := (st.binding? d.name).getD (.unset d.name)
    if old.readOnly && (isNew || d.value.isSome || list.isSome || m.off.contains 'r') then
      refuse "readonly variable"
    else if m.sets 'n' && (d.value.any fun v => v.2 = d.name.toList) then
      refuse "nameref variable self references not allowed"
    else
      if isLocal then makeLocal d.name
      let st ← get
      let v := (st.binding? d.name).getD (.unset d.name)
      match ofKind m v with
      | .error text => refuse text
      | .ok v =>
        modify fun st => st.bind (marked m v)
        if let some assign := list then assign
        else if let some (appends, s) := d.value then
          if m.sets 'n' then modify fun st => st.bind { marked m v with value := some s }
          else Run.give (← d.reference) appends s
        let st ← get
        let v := (st.binding? d.name).getD (.unset d.name)
        set (st.bind { v with
          exported := v.exported || m.sets 'x', readOnly := v.readOnly || m.sets 'r' })
        return true

/-- Does something for each argument; the status tells whether it was possible for all. -/
def each (body : Octets → Run Bool) (args : List Octets) : Run Unit := do
  let mut status := 0
  for arg in args do
    unless ← body arg do status := 1
  Run.finish status

/-- Shows the declarations of the variables of some names. -/
def showNamed (names : List Octets) : Run Unit :=
  each (fun name => do
    let st ← get
    match (if isName name then st.variableNamed? (String.ofList name) else none) with
    | some v =>
      let v := (st.binding? (String.ofList name)).getD v
      Run.print v.declaration
      return true
    | none =>
      modify fun st => st.warn (name ++ ": not found".toList)
      return false) names

/-- Shows the functions of some names, or of all; the text of a function is not kept. -/
def showFunctions (onlyNames : Bool) (names : List Octets) : Run Unit := do
  let st ← get
  if names.isEmpty then
    let all := (st.functions.map Prod.fst).mergeSort fun a b => a ≤ b
    Run.say 0 (all.flatMap fun n => "declare -f ".toList ++ n.toList ++ ['\n'])
  else
    each (fun name => do
      let known := st.functions.any fun f => f.1.toList = name
      if known && onlyNames then Run.print (name ++ ['\n'])
      return known) names

/-- Reads the letters in front of the arguments of a declaration. -/
def markings (known : Octets) : List Octets → Run (Marking × List Octets)
  | [] => return (⟨[], []⟩, [])
  | arg :: args => do
    match arg with
    | ['-', '-'] => return (⟨[], []⟩, args)
    | sign :: c :: cs =>
      if sign = '-' ∨ sign = '+' then
        if let some c := (c :: cs).find? fun c => !known.contains c then
          misuse (sign :: c :: ": invalid option".toList)
        let (m, rest) ← markings known args
        return (if sign = '-' then ⟨c :: cs ++ m.on, m.off⟩ else ⟨m.on, c :: cs ++ m.off⟩, rest)
      else return (⟨[], []⟩, arg :: args)
    | _ => return (⟨[], []⟩, arg :: args)

/-- Declares variables; in a function they are its own unless `-g` says otherwise. -/
def declare (lists : ListArguments) : Builtin := fun args => do
  let (m, names) ← markings "aAcfFgiIlnprtux".toList args
  let st ← get
  let isLocal := !st.locals.isEmpty && !m.sets 'g'
  if m.sets 'f' || m.sets 'F' then showFunctions (m.sets 'F') names
  else if m.sets 'p' && !names.isEmpty then showNamed names
  else if names.isEmpty then
    let wanted := m.on.filter ("aAilnrtux".toList.contains ·)
    let fitting := st.bindings.filter fun v => wanted.all v.letters.contains
    if wanted.isEmpty && !m.sets 'p' then Run.say 0 ((sorted st.bindings).flatMap Variable.setting)
    else showDeclarations fitting
  else each (declareOne m isLocal lists) names

/-- Declares variables of the function that is running. -/
def declareLocal (lists : ListArguments) : Builtin := fun args => do
  let (m, names) ← markings "aAcfFgiIlnprtux".toList args
  let st ← get
  if st.locals.isEmpty then Run.refuse 1 "can only be used in a function".toList
  else if names.isEmpty then
    let own := (st.locals.headD []).map Prod.fst
    showDeclarations (st.bindings.filter fun v => own.contains v.name)
  else each (fun arg =>
    if arg = ['-'] then do
      noteLocal "-"
      return true
    else declareOne m true lists arg) names

/-- Marks variables, which may get values too; each of those is traced first. -/
def markEach (trace : Octets → Run Unit) (marked : Variable → Variable) (kind : Marking)
    (lists : ListArguments) : List Octets → Run Unit :=
  each fun arg => do
    let list := lists.lookup arg
    let plain := if list.isSome then arg.takeWhile isNameChar else arg
    match declared? plain with
    | some ⟨name, none, value⟩ =>
      let v := ((← get).binding? name).getD (.unset name)
      if v.readOnly && (value.isSome || list.isSome) then
        modify fun st =>
          let text := name.toList ++ ": readonly variable".toList
          let shown := { st with builtin := none }.warn text
          { shown with builtin := st.builtin }
        return false
      else
        if let .ok v := ofKind kind v then
          unless kind.on.isEmpty do modify fun st => st.bind v
        match list, value with
        | some assign, _ => assign
        | none, some (appends, s) =>
          trace (name.toList ++ (if appends then ['+', '='] else ['=']) ++
            (if s.isEmpty then [] else Quoting.shown s))
          Run.give ⟨name, none⟩ appends s
        | none, none => pure ()
        let st ← get
        let name := if st.isExtended then st.resolved State.maxResolved name else name
        set (st.bind (marked ((st.binding? name).getD (.unset name))))
        return true
    | _ =>
      notName arg
      return false

/-- Complains of names that are not those of functions. -/
def functionsOnly (names : List Octets) : Run Unit :=
  each (fun name => do
    let known := (← get).functions.any fun f => f.1.toList = name
    unless known do modify fun st => st.warn (name ++ ": not a function".toList)
    return known) names

/-- Marks variables as seen by programs, or with `-n` as not seen. -/
def exportEach (trace : Octets → Run Unit) (lists : ListArguments) : Builtin := fun args => do
  let (given, names) ← options "fnp" "" args
  let has (c : Char) : Bool := given.any fun o => o.1 = c
  if names.isEmpty then showDeclarations ((← get).bindings.filter Variable.exported)
  else if has 'f' then functionsOnly names
  else
    let isSeen := !has 'n'
    markEach trace (fun v => { v with exported := isSeen }) ⟨[], []⟩ lists names

/-- Marks variables as never to be changed again. -/
def readonlyEach (trace : Octets → Run Unit) (lists : ListArguments) : Builtin := fun args => do
  let (given, names) ← options "aAfp" "" args
  let has (c : Char) : Bool := given.any fun o => o.1 = c
  if names.isEmpty then showDeclarations ((← get).bindings.filter Variable.readOnly)
  else if has 'f' then functionsOnly names
  else
    markEach trace (fun v => { v with readOnly := true }) ⟨"aA".toList.filter has, []⟩ lists names

/-- Removes variables, their keys, or functions. -/
def unsetEach : Builtin := fun args => do
  let (given, names) ← options "fvn" "" args
  let has (c : Char) : Bool := given.any fun o => o.1 = c
  let removeFunction (name : String) : Run Bool := do
    modify fun st => { st with functions := st.functions.filter fun f => f.1 ≠ name }
    return true
  each (fun arg => do
    let name := String.ofList (arg.takeWhile isNameChar)
    let st ← get
    let name := if has 'n' then name else st.resolved State.maxResolved name
    if has 'f' then removeFunction (String.ofList arg)
    else
      match declared? arg, st.binding? name with
      | some ⟨_, index, none⟩, some v =>
        if v.readOnly then
          modify fun st => st.warn (arg ++ ": cannot unset: readonly variable".toList)
          return false
        else
          match index with
          | none => modify (·.unbind name)
          | some index =>
            match v.elements with
            | none =>
              if index = ['0'] then modify (·.unbind name)
              else
                modify fun st => st.warn (name.toList ++ ": not an array variable".toList)
            | some e =>
              if index = ['@'] ∨ index = ['*'] then modify (·.unbind name)
              else
                let reference ← Declared.reference ⟨name, some index, none⟩
                match State.key? v (reference.key.getD []) with
                | some key => modify fun st => st.bind { v with elements := some (e.erase key) }
                | none =>
                  modify fun st => st.warn ('[' :: index ++ "]: bad array subscript".toList)
                  return false
          return v.elements.isSome || index.all (· = ['0'])
      | some _, none => if has 'v' then return true else removeFunction (String.ofList arg)
      | none, _ =>
        if has 'v' then
          notName arg
          return false
        else removeFunction (String.ofList arg)
      | some _, some _ => return true) names

end Builtin

end CallForest.Shell
