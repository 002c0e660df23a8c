import CallForest.Program.Numeral
import CallForest.Program.Removing

/-!
# Permissions in texts

Permissions are shown as letters or as octal numbers, and changes of permissions are written as an
octal number or as clauses such as `u+x,go=r`. `chmod` makes such changes.
-/

namespace CallForest

namespace Mode

/-! ## As text -/

/-- The letters of the permissions of an owner, a group or the others. `special` is shown in the
place of running, in capitals if running is not allowed. -/
def letters (bits : Nat) (isSpecial : Bool) (special : Char) : Octets :=
  let letter (c : Char) (bit : Nat) : Char := if bits / bit % 2 = 1 then c else '-'
  let last := match isSpecial, bits % 2 == 1 with
    | true, true => special
    | true, false => special.toUpper
    | false, true => 'x'
    | false, false => '-'
  [letter 'r' 4, letter 'w' 2, last]

/-- Permissions as nine letters. -/
def shown (mode : Mode) : Octets :=
  letters (mode / 64 % 8) (Mode.hasAny mode 0o4000) 's' ++
    letters (mode / 8 % 8) (Mode.hasAny mode 0o2000) 's' ++
    letters (mode % 8) (Mode.hasAny mode 0o1000) 't'

/-- Permissions as an octal number with that many digits at least. -/
def octal (width : Nat) (mode : Mode) : Octets :=
  let digits := Numeral.inBase false 8 mode
  List.replicate (width - digits.length) '0' ++ digits

/-! ## Changes -/

/-- What is changed in a step, before it is known which permissions there were. -/
inductive Source where
  | bits (value : Mode)
  /-- The permissions of the owner, the group or the others, given to all that are affected. -/
  | copied (of : Mode)
  /-- Those bits, and running if somebody may run the file or it is a directory. -/
  | runningIfAny (value : Mode)
  deriving DecidableEq, Repr

/-- A step of a change. Nobody is `affected` if nobody is named: then everybody is, as far as the
mask allows. -/
structure Step where
  affected : Mode
  operator : Char
  source : Source
  /-- The bits that a directory does not keep although they are not named. -/
  mentioned : Mode
  deriving DecidableEq, Repr

/-- The bits that letters for owners, groups and others stand for, and the rest of the text. -/
def affectedFrom (bits : Mode) : Octets → Mode × Octets
  | 'u' :: cs => affectedFrom (bits ||| 0o4700) cs
  | 'g' :: cs => affectedFrom (bits ||| 0o2070) cs
  | 'o' :: cs => affectedFrom (bits ||| 0o1007) cs
  | 'a' :: cs => affectedFrom all cs
  | cs => (bits, cs)

/-- The bits that letters for permissions stand for, whether running is asked for if anybody may,
and the rest of the text. -/
def valueFrom (bits : Mode) (ifAny : Bool) : Octets → Mode × Bool × Octets
  | 'r' :: cs => valueFrom (bits ||| 0o444) ifAny cs
  | 'w' :: cs => valueFrom (bits ||| 0o222) ifAny cs
  | 'x' :: cs => valueFrom (bits ||| 0o111) ifAny cs
  | 's' :: cs => valueFrom (bits ||| 0o6000) ifAny cs
  | 't' :: cs => valueFrom (bits ||| 0o1000) ifAny cs
  | 'X' :: cs => valueFrom bits true cs
  | cs => (bits, ifAny, cs)

/-- Whether a character is an octal digit. -/
def isOctal (c : Char) : Bool := '0' ≤ c && c ≤ '7'

/-- Reads what stands behind an operator, and the rest of the text. -/
def stepFrom? (affected : Mode) (operator : Char) (s : Octets) : Option (Step × Octets) :=
  let plain (value : Mode) : Mode := if affected = 0 then value else affected &&& value
  match s with
  | 'u' :: cs => some (⟨affected, operator, .copied 0o700, plain 0o700⟩, cs)
  | 'g' :: cs => some (⟨affected, operator, .copied 0o070, plain 0o070⟩, cs)
  | 'o' :: cs => some (⟨affected, operator, .copied 0o007, plain 0o007⟩, cs)
  | s =>
    if s.head?.any isOctal then
      let (n, rest) := Numeral.digitsFrom 8 0 s
      if all < n || affected != 0 || (!rest.isEmpty && rest.head? != some ',') then none
      else some (⟨all, operator, .bits n, all⟩, rest)
    else
      let (value, ifAny, rest) := valueFrom 0 false s
      some (⟨affected, operator, if ifAny then .runningIfAny value else .bits value,
        plain value⟩, rest)

/-- Reads clauses. `affected` tells who the clause in progress is about, if its beginning has been
read. The first argument bounds the number of steps. -/
def clausesFrom? : Nat → Option Mode → Octets → Option (List Step)
  | 0, _, _ => none
  | steps + 1, affected?, s =>
    let (affected, s) := match affected? with
      | some a => (a, s)
      | none => affectedFrom 0 s
    match s with
    | operator :: rest =>
      if operator ∉ ['=', '+', '-'] then none
      else
        match stepFrom? affected operator rest with
        | none => none
        | some (step, []) => some [step]
        | some (step, ',' :: rest) => (clausesFrom? steps none rest).map (step :: ·)
        | some (step, rest) => (clausesFrom? steps (some affected) rest).map (step :: ·)
    | [] => none

/-- The change that a text describes. A number of few digits leaves a directory its bits in
front. -/
def change? (s : Octets) : Option (List Step) :=
  if !s.isEmpty && s.all isOctal then
    let n := (Numeral.digitsFrom 8 0 s).1
    let mentioned := if s.length < 5 then (n &&& 0o7000) ||| 0o777 else all
    if all < n then none else some [⟨all, '=', .bits n, mentioned⟩]
  else clausesFrom? (s.length + 1) none s

/-- The permissions that every class gets that one class has, if the others get them too. -/
def spread (bits : Mode) : Mode :=
  let everywhere (some : Mode) : Mode := if Mode.hasAny bits some then some else 0
  everywhere 0o444 ||| everywhere 0o222 ||| everywhere 0o111

/-- What a step makes of permissions. Those that the mask takes away are not changed for everybody
at once. -/
def Step.apply (isDirectory : Bool) (mask : Mode) (step : Step) (mode : Mode) : Mode :=
  let kept := if isDirectory then Mode.without 0o6000 step.mentioned else 0
  let value := match step.source with
    | .bits value => value
    | .copied of => (mode &&& of) ||| spread (mode &&& of)
    | .runningIfAny value =>
      if isDirectory || Mode.isExecutable mode then value ||| running else value
  let reach := if step.affected = 0 then Mode.without all mask else step.affected
  let value := Mode.without (value &&& reach) kept
  match step.operator with
  | '+' => mode ||| value
  | '-' => Mode.without mode value
  | _ =>
    let preserved := (if step.affected = 0 then 0 else Mode.without all step.affected) ||| kept
    (mode &&& preserved) ||| value

/-- What a change makes of permissions. -/
def changed (isDirectory : Bool) (mask : Mode) (steps : List Step) (mode : Mode) : Mode :=
  steps.foldl (fun mode step => step.apply isDirectory mask mode) mode

end Mode

/-! ## Changing permissions -/

/-- Whether an argument that begins like an option is a change that takes permissions away. -/
def isModeOption (arg : Octets) : Bool :=
  match arg with
  | '-' :: c :: _ => c ∈ "rwxXstugoa,+=01234567".toList
  | _ => false

namespace PermissionChange

/-- What is changed, and what is told of it. -/
structure Manner where
  program : Octets
  steps : List Mode.Step
  recursive : Bool
  tellsAll : Bool
  tellsChanges : Bool
  isQuiet : Bool
  /-- Whether it is told when the mask keeps permissions that are to be taken away. -/
  noticesMask : Bool

/-- What is told of a change. -/
def report (path : Octets) (before after : Mode) : Octets :=
  let shown (mode : Mode) : Octets :=
    Mode.octal 4 mode ++ " (".toList ++ Mode.shown mode ++ [')']
  "mode of ".toList ++ QuotedName.always path ++
    (if before = after then " retained as ".toList ++ shown after
      else " changed from ".toList ++ shown before ++ " to ".toList ++ shown after) ++ ['\n']

/-- Changes the permissions of what is at a location. -/
def Manner.changeAt (m : Manner) (path : Octets) (location : List String) (entry : Entry)
    (e : Effect) : Effect :=
  let before := e.files.modeOf entry
  let after := Mode.changed entry.isDirectory e.files.mask m.steps before
  let naive := Mode.changed entry.isDirectory 0 m.steps before
  let e := { e with files := e.files.setMode location after }
  let e := if m.tellsAll || (m.tellsChanges && before ≠ after) then
    e.print (report path before after) else e
  if m.noticesMask && Mode.hasAny (Mode.without after naive) Mode.all then
    e.fail m.program 1 (QuotedName.ifNeeded path ++ ": new permissions are ".toList ++
      Mode.shown after ++ ", not ".toList ++ Mode.shown naive)
  else e

/-- Changes the permissions of what an operand names, and of all below it if that is wanted. -/
def changeOperand (m : Manner) (e : Effect) (operand : Octets) : Effect :=
  let refuse (x : OsError) : Effect :=
    if m.isQuiet then e.withCode 1
    else
      e.fail m.program 1
        ("cannot access ".toList ++ QuotedName.always operand ++ ": ".toList ++ x.reason.toList)
  let untold (e : Effect) : Effect :=
    if m.tellsAll then e.print (QuotedName.always operand ++ " could not be accessed\n".toList)
    else e
  match e.files.resolve (Octets.toText operand) with
  | .error x => untold (refuse x)
  | .ok target =>
    match target.entry with
    | none =>
      if (e.files.locate (Octets.toText operand)).toOption.any fun t => t.entry.isSome then
        if m.isQuiet then e.withCode 1
        else e.fail m.program 1
          ("cannot operate on dangling symlink ".toList ++ QuotedName.always operand)
      else untold (refuse .notFound)
    | some entry =>
      let e := m.changeAt operand target.location entry e
      if !m.recursive then e
      else
        (entry.entries []).foldl (fun e (below, entry) =>
          if entry.isLink then e
          else
            let path := operand ++ '/' :: Octets.ofText (String.intercalate "/" below)
            m.changeAt path (target.location ++ below) entry e) e

end PermissionChange

/-- Changes what may be done to files. -/
def chmodProgram : Program := fun i =>
  let table : OptionTable :=
    ⟨"cfvR".toList.map fun c => (c, .never),
      [("changes", 'c', .never), ("silent", 'f', .never), ("quiet", 'f', .never),
        ("verbose", 'v', .never), ("recursive", 'R', .never), ("reference", 'r', .always),
        ("preserve-root", 'p', .never), ("no-preserve-root", 'p', .never)], false⟩
  let options := i.args.filter fun a => !isModeOption a
  let modes := i.args.filter isModeOption
  table.run "chmod" 1 (fun _ => none) { i with args := options } fun given operands =>
    let manner (steps : List Mode.Step) : PermissionChange.Manner :=
      { program := i.name
        steps := steps
        recursive := isGiven given 'R'
        tellsAll := isGiven given 'v'
        tellsChanges := isGiven given 'c'
        isQuiet := isGiven given 'f'
        noticesMask := !modes.isEmpty }
    let change (text : Octets) (names : List Octets) : Effect :=
      match Mode.change? text with
      | none =>
        (i.start.fail i.name 1 ("invalid mode: ".toList ++ QuotedName.ofArgument text)).complain
          (OptionTable.hint i.name)
      | some steps => names.foldl (PermissionChange.changeOperand (manner steps)) i.start
    match givenValue? given 'r', modes, operands with
    | some name, _, names =>
      match i.files.entry (Octets.toText name) with
      | .error x =>
        i.start.fail i.name 1 ("failed to get attributes of ".toList ++ QuotedName.always name ++
          ": ".toList ++ x.reason.toList)
      | .ok entry =>
        if names.isEmpty then missingOperand i "missing operand"
        else
          let mode := i.files.modeOf entry
          names.foldl (PermissionChange.changeOperand
            (manner [⟨Mode.all, '=', .bits mode, Mode.all⟩])) i.start
    | none, [], [] => missingOperand i "missing operand"
    | none, [], [mode] =>
      let told := "missing operand after ".toList ++ QuotedName.ofArgument mode
      (i.start.fail i.name 1 told).complain (OptionTable.hint i.name)
    | none, [], mode :: names => change mode names
    | none, mode :: more, [] =>
      (i.start.fail i.name 1 ("missing operand after ".toList ++
        QuotedName.ofArgument (([','].intercalate (mode :: more))))).complain
        (OptionTable.hint i.name)
    | none, modes, names => change ([','].intercalate modes) names

/-- Changes whose files are: all belong to who runs the programs. -/
def ownerProgram (title : String) : Program := fun i =>
  let table := OptionTable.ofLetters "cfhvRHLP"
    [("changes", 'c'), ("silent", 'f'), ("quiet", 'f'), ("verbose", 'v'), ("recursive", 'R'),
      ("no-dereference", 'h')]
  table.run title 1 (fun _ => none) i fun given operands =>
    match operands with
    | [] => missingOperand i "missing operand"
    | [owner] =>
      (i.start.fail i.name 1
        ("missing operand after ".toList ++ QuotedName.ofArgument owner)).complain
        (OptionTable.hint i.name)
    | _ :: names =>
      names.foldl (fun e name =>
        match e.files.entry (Octets.toText name) with
        | .ok _ => e
        | .error x =>
          if isGiven given 'f' then e.withCode 1
          else
            e.fail i.name 1 ("cannot access ".toList ++ QuotedName.always name ++ ": ".toList ++
              x.reason.toList)) i.start

end CallForest
