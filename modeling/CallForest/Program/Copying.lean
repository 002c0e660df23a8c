import CallForest.Program.Input

/-!
# Copying inputs

`cat` copies its inputs to the output, one behind another; it can number their lines and make their
characters visible. `tee` copies its input to the output and to files.
-/

namespace CallForest

/-- How `cat` shows what it copies. -/
structure CopyStyle where
  numbersLines : Bool
  numbersBlank : Bool
  squeezes : Bool
  showsEnds : Bool
  showsTabs : Bool
  showsOthers : Bool

namespace CopyStyle

/-- The style that options ask for. -/
def ofOptions (given : List GivenOption) : CopyStyle :=
  let has (letters : String) : Bool := given.any fun o => o.1 ∈ letters.toList
  ⟨has "bn", !has "b", has "s", has "EAe", has "TAt", has "vAet"⟩

/-- Whether everything is copied as it is. -/
def isPlain (style : CopyStyle) : Bool :=
  !(style.numbersLines || style.squeezes || style.showsEnds || style.showsTabs || style.showsOthers)

/-- A byte below 128 made visible. -/
def visible (n : Nat) : Octets :=
  if n < 32 then ['^', Char.ofNat (n + 64)]
  else if n = 127 then ['^', '?']
  else [Char.ofNat n]

/-- How a byte that is no newline is shown. -/
def shown (style : CopyStyle) (c : Char) : Octets :=
  if c = '\t' then if style.showsTabs then ['^', 'I'] else [c]
  else if !style.showsOthers then [c]
  else if c.toNat < 128 then visible c.toNat
  else 'M' :: '-' :: visible (c.toNat - 128)

end CopyStyle

/-- How far `cat` has come: the number of the last line, and how many newlines came last, the
beginning counted as one; none within a line. -/
structure CopyPlace where
  line : Nat
  newlines : Option Nat

/-- The number in front of a line. -/
def lineNumber (n : Nat) : Octets :=
  let digits := Text.decimal n
  List.replicate (6 - digits.length) ' ' ++ digits ++ ['\t']

/-- Copies one input on in a style; `done` is what is copied already, reversed. -/
def copyStyled (style : CopyStyle) (done : Octets) : CopyPlace → Octets → Octets × CopyPlace
  | place, [] => (done.reverse, place)
  | place, '\n' :: cs =>
    let count := min 2 ((place.newlines.map (· + 1)).getD 0)
    let place := { place with newlines := some count }
    if count = 2 && style.squeezes then copyStyled style done place cs
    else
      let numbered := count ≠ 0 && style.numbersLines && style.numbersBlank
      let place := if numbered then { place with line := place.line + 1 } else place
      let front := if numbered then lineNumber place.line else []
      let shown := front ++ if style.showsEnds then ['$', '\n'] else ['\n']
      copyStyled style (shown.reverse ++ done) place cs
  | place, c :: cs =>
    let numbered := place.newlines.isSome && style.numbersLines
    let place := ⟨if numbered then place.line + 1 else place.line, none⟩
    let endsLine := c = '\r' && cs.head? == some '\n' && style.showsEnds
    let front := if numbered then lineNumber place.line else []
    let shown := front ++ if endsLine then ['^', 'M'] else style.shown c
    copyStyled style (shown.reverse ++ done) place cs

/-- Whether an input is the file that the output goes to, and there is something in it, so that
copying would not come to an end. -/
def Invocation.feedsItself (i : Invocation) (name content : Octets) (e : Effect) : Bool :=
  let number :=
    if isOwnInput name then i.inputFile
    else (e.files.entry (Octets.toText name)).toOption.bind Entry.number?
  i.outputFile.isSome && number == i.outputFile &&
    (!content.isEmpty || e.written.any (!·.1))

/-- Copies inputs in a style. -/
def copyAll (style : CopyStyle) (i : Invocation) : CopyPlace → List Octets → Effect → Effect
  | _, [], e => e
  | place, name :: names, e =>
    match e.readAll name with
    | .ok (content, after) =>
      if i.feedsItself name content e then
        copyAll style i place names
          (e.fail i.name 1 (QuotedName.ifNeeded name ++ ": input file is output file".toList))
      else if style.isPlain then copyAll style i place names (after.print content)
      else
        let (text, place) := copyStyled style [] place content
        copyAll style i place names (after.print text)
    | .error x =>
      copyAll style i place names
        (e.fail i.name 1 (QuotedName.ifNeeded name ++ ": ".toList ++ x.reason.toList))

/-- Copies its inputs to the output. -/
def catProgram : Program := fun i =>
  let table := OptionTable.ofLetters "benstuvAET"
    [("number-nonblank", 'b'), ("number", 'n'), ("squeeze-blank", 's'), ("show-nonprinting", 'v'),
      ("show-ends", 'E'), ("show-tabs", 'T'), ("show-all", 'A')]
  table.run "cat" 1 (fun _ => none) i fun given operands =>
    copyAll (.ofOptions given) i ⟨0, some 0⟩ (inputNames operands) i.start

/-- Copies its input to the output and to files. -/
def teeProgram : Program := fun i =>
  let table := OptionTable.ofLetters "aip" [("append", 'a'), ("ignore-interrupts", 'i')]
  table.run "tee" 1 (fun _ => none) i fun given operands =>
    let e := { i.start.print i.input with unread := [] }
    let e := match i.inputProblem with
      | some x => e.fail i.name 1 ("read error: ".toList ++ x.reason.toList)
      | none => e
    operands.foldl (fun e name =>
      if name = "/dev/stderr".toList then e.complain i.input
      else if name = "/dev/stdout".toList then e.print i.input
      else
        e.change i.name (QuotedName.ifNeeded name) fun files =>
          let path := Octets.toText name
          let content := Octets.toBytes i.input
          if isGiven given 'a' then files.append path content else files.write path content) e

end CallForest
