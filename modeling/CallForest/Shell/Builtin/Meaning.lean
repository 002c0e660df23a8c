import CallForest.Shell.Builtin.Inquiry
import CallForest.Shell.Quoting

/-!
# Names of commands in the extended shell

What names stand for in the extended shell, where a function may have the name of any command, and
the commands that tell so.
-/

namespace CallForest.Shell

/-- The commands of the extended shell. -/
def extendedNames : List String :=
  [".", ":", "[", "alias", "bg", "bind", "break", "builtin", "caller", "cd", "command", "continue",
    "declare", "dirs", "disown", "echo", "enable", "eval", "exec", "exit", "export", "false", "fc",
    "fg", "getopts", "hash", "help", "history", "jobs", "kill", "let", "local", "logout",
    "mapfile", "popd", "printf", "pushd", "pwd", "read", "readarray", "readonly", "return", "set",
    "shift", "shopt", "source", "suspend", "test", "times", "trap", "true", "type", "typeset",
    "ulimit", "umask", "unalias", "unset", "wait"]

/-- The reserved words of the extended shell. -/
def extendedReserved : List String :=
  reservedNames ++ ["coproc", "function", "select", "time", "[[", "]]"]

/-- What a name stands for in the extended shell. -/
inductive Meaning where
  | alias (value : Octets)
  | keyword
  | function
  | builtin
  /-- A program whose path may be known already. -/
  | program (path : Octets) (isKnown : Bool)

namespace State

/-- The paths of the programs of a name. -/
def programPaths (st : State) (path name : Octets) : List Octets :=
  if '/' ∈ name then
    match st.files.entry (Octets.toText name) with
    | .ok e => if st.files.isExecutable e then [name] else []
    | .error _ => []
  else
    (path.splitOn ':').filterMap fun d => (Loader.search st.files [d] name).toOption

/-- All that a name stands for, what counts first. -/
def meanings (st : State) (path name : Octets) : List Meaning :=
  let text := String.ofList name
  let aliases := if st.isOn "expand_aliases" then (st.aliases.lookup text).toList else []
  let isKnown := st.tracked.contains text
  aliases.map Meaning.alias ++
    (if extendedReserved.contains text then [.keyword] else []) ++
    (if st.functions.any fun f => f.1 = text then [.function] else []) ++
    (if extendedNames.contains text then [.builtin] else []) ++
    (st.programPaths path name).zipIdx.map fun p => .program p.1 (isKnown && p.2 = 0)

end State

namespace Meaning

/-- The sentence that tells what a name stands for. -/
def sentence (name : Octets) (m : Meaning) : Octets :=
  name ++ ((match m with
    | .alias value => " is aliased to ".toList ++ Char.ofNat 96 :: value ++ ['\'']
    | .keyword => " is a shell keyword".toList
    | .function => " is a function".toList
    | .builtin => " is a shell builtin".toList
    | .program path true => " is hashed (".toList ++ path ++ [')']
    | .program path false => " is ".toList ++ path) : Octets) ++ ['\n']

/-- The word for what a name stands for. -/
def kind : Meaning → String
  | .alias _ => "alias"
  | .keyword => "keyword"
  | .function => "function"
  | .builtin => "builtin"
  | .program _ _ => "file"

/-- The line that defines an alias so that it can be read again. -/
def aliasDefinition (name : String) (value : Octets) : Octets :=
  "alias ".toList ++ name.toList ++ '=' :: Quoting.always value ++ ['\n']

/-- What stands for a name in a call. -/
def inCall (name : Octets) : Meaning → Octets
  | .alias value => aliasDefinition (String.ofList name) value
  | .program path _ => path ++ ['\n']
  | .keyword | .function | .builtin => name ++ ['\n']

end Meaning

namespace Builtin

/-- Shows something of what each name stands for, and tells how many stand for nothing; of those
that is said if it is to be. -/
def showMeanings (path : Octets) (all : Bool) (wanted : Meaning → Bool)
    (shown : Octets → Meaning → Octets) (saysMissing : Bool) (names : List Octets) : Run Nat := do
  let mut missing := 0
  for name in names do
    let st ← get
    let found := (st.meanings path name).filter wanted
    let found := if all then found else found.take 1
    if found.isEmpty then
      if saysMissing then modify fun st => st.warn (name ++ ": not found".toList)
      missing := missing + 1
    Run.print (found.flatMap (shown name))
  return missing

/-- Tells what names stand for. -/
def typeEach : Builtin := fun args => do
  let (given, names) ← options "afptP" "" args
  let has (c : Char) : Bool := given.any fun o => o.1 = c
  let path := (← get).path
  let wanted (m : Meaning) : Bool :=
    match m with
    | .function => !has 'f' && !has 'P'
    | .program _ _ => true
    | _ => !has 'P'
  let pathLine (_ : Octets) (m : Meaning) : Octets :=
    match m with
    | .program path _ => path ++ ['\n']
    | _ => []
  let kindLine (_ : Octets) (m : Meaning) : Octets := (Meaning.kind m).toList ++ ['\n']
  let missing ←
    if has 't' then showMeanings path (has 'a') wanted kindLine false names
    else if has 'p' || has 'P' then showMeanings path (has 'a') wanted pathLine false names
    else showMeanings path (has 'a') wanted Meaning.sentence true names
  Run.finish (if missing = 0 then 0 else 1)

/-- Tells what names stand for in a call, in a sentence if it is to be `verbose`; the status tells
whether one of them stands for something. -/
def commandMeanings (verbose : Bool) (path : Octets) (names : List Octets) : Run Unit := do
  let shown := if verbose then Meaning.sentence else Meaning.inCall
  let missing ← showMeanings path false (fun _ => true) shown verbose names
  Run.finish (if missing < names.length then 0 else 1)

/-- Defines aliases or shows them. -/
def aliasEach : Builtin := fun args => do
  let (_, names) ← options "p" "" args
  if names.isEmpty then
    let all := (← get).aliases.mergeSort fun a b => a.1 ≤ b.1
    Run.print (all.flatMap fun a => Meaning.aliasDefinition a.1 a.2)
  let mut status := 0
  for arg in names do
    let name := arg.take 1 ++ (arg.drop 1).takeWhile (· ≠ '=')
    let text := String.ofList name
    if name.length < arg.length then
      modify fun st => { st with
        aliases := (text, arg.drop (name.length + 1)) :: st.aliases.filter (·.1 ≠ text) }
    else
      match (← get).aliases.lookup text with
      | some value => Run.print (Meaning.aliasDefinition text value)
      | none =>
        modify fun st => st.warn (name ++ ": not found".toList)
        status := 1
  Run.finish status

/-- Takes aliases back; all of them with `-a`. -/
def unaliasEach : Builtin := fun args => do
  let (given, names) ← options "a" "" args
  if !given.isEmpty then modify fun st => { st.withStatus 0 with aliases := [] }
  else if names.isEmpty then showUsage
  else
    let mut status := 0
    for name in names do
      let text := String.ofList name
      if (← get).aliases.any (·.1 = text) then
        modify fun st => { st with aliases := st.aliases.filter (·.1 ≠ text) }
      else
        modify fun st => st.warn (name ++ ": not found".toList)
        status := 1
    Run.finish status

/-- Shows the programs whose paths are known, looks programs up, or forgets them. -/
def hashEach : Builtin := fun args => do
  let (given, names) ← options "lrdt" "p" args
  let has (c : Char) : Bool := given.any fun o => o.1 = c
  let st ← get
  if has 'r' then set { st.withStatus 0 with tracked := [] }
  else if names.isEmpty then
    let lines := st.tracked.filterMap fun program =>
      (st.programPath st.path program.toList).toOption.map fun path =>
        if has 'l' then "builtin hash -p ".toList ++ path ++ ' ' :: program.toList
        else "   1\t".toList ++ path
    if lines.isEmpty then Run.say 0 (if has 'l' then [] else "hash: hash table empty\n".toList)
    else Run.say 0 ((if has 'l' then [] else "hits\tcommand\n".toList) ++ Octets.ofLines lines)
  else
    let mut status := 0
    for name in names do
      let text := String.ofList name
      let isTracked := (← get).tracked.contains text
      match st.programPath st.path name with
      | .ok path =>
        if has 't' then
          if isTracked then Run.print (path ++ ['\n'])
        else if has 'd' then modify fun st => { st with tracked := st.tracked.erase text }
        else unless '/' ∈ name do modify (·.track text)
        if (has 't' || has 'd') && !isTracked then
          modify fun st => st.warn (name ++ ": not found".toList)
          status := 1
      | .error _ =>
        unless extendedNames.contains text && !has 't' && !has 'd' do
          modify fun st => st.warn (name ++ ": not found".toList)
          status := 1
    Run.finish status

end Builtin

end CallForest.Shell
