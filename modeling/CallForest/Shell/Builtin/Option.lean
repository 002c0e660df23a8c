import CallForest.Program.Numeral
import CallForest.Shell.Expansion
import CallForest.Shell.Signal

/-!
# Arguments of the commands of the shell

How the commands of the shell read their arguments: single letters behind a hyphen, and numbers. The
extended shell shows how one of its commands is used when it has been given an option that it does
not have.
-/

namespace CallForest.Shell

/-- What a command takes, by its name. -/
def usages : List (String × String) :=
  [("alias", "[-p] [name[=value] ... ]"),
    ("bg", "[job_spec ...]"),
    ("bind", "[-lpsvPSVX] [-m keymap] [-f filename] [-q name] [-u name] [-r keyseq] " ++
      "[-x keyseq:shell-command] [keyseq:readline-function or readline-command]"),
    ("break", "[n]"),
    ("builtin", "[shell-builtin [arg ...]]"),
    ("caller", "[expr]"),
    ("cd", "[-L|[-P [-e]] [-@]] [dir]"),
    ("command", "[-pVv] command [arg ...]"),
    ("continue", "[n]"),
    ("declare", "[-aAfFgiIlnrtux] [name[=value] ...] or declare -p [-aAfFilnrtux] [name ...]"),
    ("dirs", "[-clpv] [+N] [-N]"),
    ("disown", "[-h] [-ar] [jobspec ... | pid ...]"),
    ("enable", "[-a] [-dnps] [-f filename] [name ...]"),
    ("eval", "[arg ...]"),
    ("exec", "[-cl] [-a name] [command [argument ...]] [redirection ...]"),
    ("exit", "[n]"),
    ("export", "[-fn] [name[=value] ...] or export -p"),
    ("fc", "[-e ename] [-lnr] [first] [last] or fc -s [pat=rep] [command]"),
    ("fg", "[job_spec]"),
    ("getopts", "optstring name [arg ...]"),
    ("hash", "[-lr] [-p pathname] [-dt] [name ...]"),
    ("help", "[-dms] [pattern ...]"),
    ("history", "[-c] [-d offset] [n] or history -anrw [filename] or history -ps arg [arg...]"),
    ("jobs", "[-lnprs] [jobspec ...] or jobs -x command [args]"),
    ("kill", "[-s sigspec | -n signum | -sigspec] pid | jobspec ... or kill -l [sigspec]"),
    ("let", "arg [arg ...]"),
    ("local", "[option] name[=value] ..."),
    ("logout", "[n]"),
    ("mapfile", "[-d delim] [-n count] [-O origin] [-s count] [-t] [-u fd] [-C callback] " ++
      "[-c quantum] [array]"),
    ("popd", "[-n] [+N | -N]"),
    ("printf", "[-v var] format [arguments]"),
    ("pushd", "[-n] [+N | -N | dir]"),
    ("pwd", "[-LP]"),
    ("read", "[-ers] [-a array] [-d delim] [-i text] [-n nchars] [-N nchars] [-p prompt] " ++
      "[-t timeout] [-u fd] [name ...]"),
    ("readarray", "[-d delim] [-n count] [-O origin] [-s count] [-t] [-u fd] [-C callback] " ++
      "[-c quantum] [array]"),
    ("readonly", "[-aAf] [name[=value] ...] or readonly -p"),
    ("return", "[n]"),
    ("set", "[-abefhkmnptuvxBCEHPT] [-o option-name] [--] [-] [arg ...]"),
    ("shift", "[n]"),
    ("shopt", "[-pqsu] [-o] [optname ...]"),
    ("source", "filename [arguments]"),
    (".", "filename [arguments]"),
    ("suspend", "[-f]"),
    ("trap", "[-lp] [[arg] signal_spec ...]"),
    ("type", "[-afptP] name [name ...]"),
    ("typeset", "[-aAfFgiIlnrtux] name[=value] ... or typeset -p [-aAfFilnrtux] [name ...]"),
    ("ulimit", "[-SHabcdefiklmnpqrstuvxPRT] [limit]"),
    ("umask", "[-p] [-S] [mode]"),
    ("unalias", "[-a] name [name ...]"),
    ("unset", "[-f] [-v] [-n] [name ...]"),
    ("wait", "[-fn] [-p var] [id ...]")]

/-- The line that tells how a command is used. -/
def usageLine (command : String) : String :=
  let taken := match usages.lookup command with
    | some s => " " ++ s
    | none => ""
  command ++ ": usage: " ++ command ++ taken ++ "\n"

/-! ## Letters and numbers -/

/-- A command of the shell, as a function of its arguments. -/
abbrev Builtin := List Octets → Run Unit

namespace Builtin

/-- Shows how the command is used that is running, with a status of 2. -/
def showUsage : Run Unit :=
  modify fun st => (st.put 2 (usageLine (st.builtin.getD "")).toList).withStatus 2

/-- Complains of the arguments of the command that is running, and ends it. -/
def misuse {α : Type} (text : Octets) : Run α := do
  modify fun st => st.warn text
  showUsage
  throw .fault

/-- Complains of an option that the command that is running does not have. -/
def unknownOption {α : Type} (c : Char) : Run α := do
  if (← get).isExtended then misuse ('-' :: c :: ": invalid option".toList)
  else Run.abort ("Illegal option -".toList ++ [c])

/-- Complains of an option whose value is missing. -/
def missingValue {α : Type} (c : Char) : Run α := do
  if (← get).isExtended then misuse ('-' :: c :: ": option requires an argument".toList)
  else Run.abort ("No arg for -".toList ++ c :: " option".toList)

/-- Reads the letters behind a hyphen: what is given, and the letter whose value is missing. `flags`
have no value, `valued` have one. -/
def letters (flags valued : Octets) : Octets → Run (List (Char × Octets) × Option Char)
  | [] => return ([], none)
  | c :: cs =>
    if c ∈ flags then do
      let (given, awaiting) ← letters flags valued cs
      return ((c, []) :: given, awaiting)
    else if c ∈ valued then
      return if cs.isEmpty then ([], some c) else ([(c, cs)], none)
    else unknownOption c

/-- Reads the options in front of arguments on: the letters, each with its value, and the operands.
`awaiting` is the letter whose value is the next argument. -/
def optionsFrom (flags valued : Octets) :
    Option Char → List Octets → Run (List (Char × Octets) × List Octets)
  | none, [] => return ([], [])
  | some c, [] => missingValue c
  | some c, value :: args => do
    let (given, operands) ← optionsFrom flags valued none args
    return ((c, value) :: given, operands)
  | none, arg :: args =>
    match arg with
    | ['-', '-'] => return ([], args)
    | '-' :: c :: cs => do
      let (given, awaiting) ← letters flags valued (c :: cs)
      let (more, operands) ← optionsFrom flags valued awaiting args
      return (given ++ more, operands)
    | _ => return ([], arg :: args)

/-- Reads the options in front of arguments, and gives them with the operands. -/
def options (flags valued : String) (args : List Octets) :
    Run (List (Char × Octets) × List Octets) :=
  optionsFrom flags.toList valued.toList none args

/-- The number that an argument shows. -/
def number (s : Octets) : Run Nat := do
  match Numeral.decimal? s with
  | some n =>
    if 0 ≤ n ∧ n ≤ 2147483647 then return n.toNat
    else Run.abort ("Illegal number: ".toList ++ s)
  | none => Run.abort ("Illegal number: ".toList ++ s)

/-- A text in quotes that the shell takes away again: single ones, and double ones around those in
the text. -/
def quoted (s : Octets) : Octets :=
  let runs := s.splitBy fun a b => (a == '\'') == (b == '\'')
  let shown := runs.flatMap fun run =>
    if run.head? = some '\'' then '"' :: run ++ ['"'] else '\'' :: run ++ ['\'']
  if s.head? = some '\'' || s.isEmpty then '\'' :: '\'' :: shown else shown

end Builtin

end CallForest.Shell
