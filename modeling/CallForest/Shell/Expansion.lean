import CallForest.Shell.Arithmetic
import CallForest.Shell.Braces
import CallForest.Shell.Globbing
import CallForest.Shell.Quoting
import CallForest.Shell.Values

/-!
# Expansion of words

What words come to when a command is run: parameters, arithmetic and the output of commands are put
in, text that is not quoted is split into fields, and fields that are patterns give way to the paths
that fit them.

Commands run words and words run commands, so the functions here take a `Runner`, which runs what
stands inside of a word.

Commands can be shown before they are run: behind a text that a variable holds, which in the
extended language is expanded first and shows by its first character how deep the command is.
-/

namespace CallForest.Shell

/-! ## What is asked of values -/

namespace Request

/-- The text that is put in for another: a mark that is not quoted stands for that. -/
def putIn (replacement : Marked) (matched : Octets) : Octets :=
  replacement.flatMap fun c => if c.1 = '&' ∧ !c.2 then matched else [c.1]

/-- The longest beginning of a value that fits a pattern. -/
def longestFront? (p : Pattern) (least : Nat) (s : Octets) : Option Nat :=
  (List.range (s.length + 1)).reverse.find? fun n => least ≤ n && p.fits (s.take n)

/-- A value with something put in for what fits a pattern, the first time or each time. The first
argument bounds the number of steps. -/
def replaceAnywhere (p : Pattern) (replacement : Marked) (all : Bool) : Nat → Octets → Octets
  | 0, s => s
  | _ + 1, [] => []
  | steps + 1, c :: cs =>
    match longestFront? p 1 (c :: cs) with
    | none => c :: replaceAnywhere p replacement all steps cs
    | some n =>
      let rest := (c :: cs).drop n
      putIn replacement ((c :: cs).take n) ++
        (if all then replaceAnywhere p replacement all steps rest else rest)

/-- A value with something put in for what fits a pattern. -/
def replaced (p : Pattern) (replacement : Marked) (anchor : Anchor) (all : Bool) (s : Octets) :
    Octets :=
  match anchor with
  | .front =>
    match longestFront? p 0 s with
    | some n => putIn replacement (s.take n) ++ s.drop n
    | none => s
  | .back =>
    match (List.range (s.length + 1)).find? fun n => p.fits (s.drop n) with
    | some n => s.take n ++ putIn replacement (s.drop n)
    | none => s
  | .anywhere =>
    if p.isEmpty then s
    else if s.isEmpty then if p.fits [] then putIn replacement [] else []
    else replaceAnywhere p replacement all (s.length + 1) s

/-- A part of a list, from an offset on, of a length; less than zero counts from the end. None if
its end is in front of its beginning. -/
def part? {α : Type} (xs : List α) (offset : Int) (length : Option Int) : Option (List α) :=
  let size : Int := xs.length
  let start := if offset < 0 then size + offset else offset
  if start < 0 ∨ size < start then some []
  else
    match length with
    | none => some (xs.drop start.toNat)
    | some n =>
      let stop := if n < 0 then size + n else start + n
      if stop < start then none else some ((xs.drop start.toNat).take (stop - start).toNat)

/-- A letter that is changed. -/
def changedLetter (change : LetterChange) (c : Char) : Char :=
  match change with
  | .upper => c.toUpper
  | .lower => c.toLower
  | .other => if c.isUpper then c.toLower else c.toUpper

/-- A value whose first letter, or all of them, are changed where they fit a pattern. -/
def lettered (kind : LetterChange) (all : Bool) (p : Option Pattern) (s : Octets) : Octets :=
  let change (c : Char) : Char :=
    if p.all fun p => p.fits [c] then changedLetter kind c else c
  match s with
  | [] => []
  | c :: cs => change c :: if all then cs.map change else cs

/-- A value in the form that a letter names. -/
def formed? (letter : Char) (s : Octets) : Option Octets :=
  match letter with
  | 'Q' => some (Quoting.always s)
  | 'U' => some (s.map Char.toUpper)
  | 'L' => some (s.map Char.toLower)
  | 'u' => some (lettered .upper false none s)
  | 'E' | 'P' => some s
  | _ => none

end Request

/-! ## Parameters -/

/-- The characters that separate fields. -/
def State.separators (st : State) : Octets :=
  (st.value? "IFS").getD [' ', '\t', '\n']

/-- The value of a parameter other than the list of all. -/
def State.parameter? (st : State) (name : String) : Option Octets :=
  match name with
  | "#" => some (Text.decimal st.parameters.length)
  | "?" => some (Text.decimal st.status)
  | "$" => some (Text.decimal st.number)
  | "-" => some (if st.isExtended then st.letters else st.plainLetters)
  | "!" => st.lastJob.map Text.decimal
  | _ =>
    match name.toNat? with
    | some 0 => some st.name
    | some n => st.parameters[n - 1]?
    | none =>
      if st.isExtended then (st.variableNamed? name).bind Variable.text? else st.value? name

/-- Texts joined by the first separator. -/
def State.joinAll (st : State) (texts : List Octets) : Octets :=
  match st.separators with
  | [] => texts.flatten
  | c :: _ => [c].intercalate texts

/-- Drops newlines at the end, and zero bytes. -/
def outputText (s : Octets) : Octets :=
  ((s.filter fun c => c.toNat ≠ 0).reverse.dropWhile (· = '\n')).reverse

/-- The home directory of a user; that of the user who runs the script if there is no name. -/
def State.home? (st : State) (user : Octets) : Option Octets :=
  if user.isEmpty then st.value? "HOME"
  else if user = "root".toList then some "/root".toList
  else none

/-- A text that is not quoted with the home directory of a user put in for a tilde at its beginning.
`ends` tells that the word ends with it. -/
def State.withHome (st : State) (ends : Bool) (s : Octets) : Word :=
  let plain : Word := if s.isEmpty then [] else [.text s false]
  match s with
  | '~' :: cs =>
    let user := cs.takeWhile (· ≠ '/')
    let rest := cs.drop user.length
    match if rest.isEmpty && !ends then none else st.home? user with
    | some home =>
      (if home.isEmpty then [] else [.text home true]) ++
        (if rest.isEmpty then [] else [.text rest false])
    | none => plain
  | _ => plain

/-- A word with the home directory put in for a tilde at its beginning. -/
def State.withoutTilde (st : State) (w : Word) : Word :=
  match w with
  | .text s false :: rest => st.withHome rest.isEmpty s ++ rest
  | _ => w

/-- A value of a variable with the home directory put in for tildes at its beginning and behind
colons. `first` tells that the word is at its beginning. -/
def State.withoutTildes (st : State) (first : Bool) : Word → Word
  | [] => []
  | .text s false :: rest =>
    let last (parts : List Octets) : Bool := parts.isEmpty && rest.isEmpty
    let rec behindColons : List Octets → Word
      | [] => []
      | part :: parts =>
        .text [':'] false :: st.withHome (!parts.isEmpty || last parts) part ++ behindColons parts
    match s.splitOn ':' with
    | [] => st.withoutTildes false rest
    | part :: parts =>
      (if first then st.withHome (!parts.isEmpty || last parts) part
        else if part.isEmpty then [] else [.text part false]) ++
        behindColons parts ++ st.withoutTildes false rest
  | piece :: rest => piece :: st.withoutTildes false rest

/-! ## Words -/

/-- The text of a piece that is literal or the value of a parameter. -/
def State.textOf? (st : State) : Piece → Option Octets
  | .text s _ => some s
  | .parameter name .value _ _ => st.parameter? name
  | _ => none

/-- The only field of a word that is a piece which nothing is to be done to. -/
def State.onlyField? (st : State) (w : Word) : Option Octets :=
  match w with
  | [.text s quoted] =>
    if quoted || !(s.head? == some '~' || st.mayBeWild s) then some s else none
  | [.parameter name .value _ quoted] =>
    match st.parameter? name with
    | none => none
    | some s =>
      if quoted then some s
      else if s.isEmpty || st.mayBeWild s || s.any st.separators.contains then none
      else some s
  | _ => none

/-- The value of a variable that a word gives whose pieces are known. -/
def State.onlyText? (st : State) : Word → Option Octets
  | [] => some []
  | p :: w =>
    match p, st.textOf? p with
    | .text s false, some _ =>
      if s.contains '~' then none else (st.onlyText? w).map (s ++ ·)
    | _, some s => if w.isEmpty then some s else (st.onlyText? w).map (s ++ ·)
    | _, none => none

namespace Runner

variable (r : Runner)

/-- The text of a word that is not split. -/
def markedText (w : Word) : Run Marked := do
  let f ← r.pieces false ((← get).withoutTilde w) (.empty none)
  return f.joined

/-- The text of a word that is not split, without marks. -/
def text (w : Word) : Run Octets := do
  return Marked.text (← r.markedText w)

/-- The text that is to be the value of a variable. -/
def variableText (w : Word) : Run Octets := do
  match (← get).onlyText? w with
  | some s => return s
  | none =>
    let f ← r.pieces false ((← get).withoutTildes true w) (.empty none)
    return Marked.text f.joined

/-- The fields of a word without braces that stand for several. -/
def plainFields (w : Word) : Run (List Octets) := do
  let f ← r.pieces false ((← get).withoutTilde w) (.empty (some (← get).separators))
  let st ← get
  match f.toList.mapM st.pathsOf with
  | .ok fields => return fields.flatten
  | .error field => Run.giveUp ("no match: ".toList ++ field)

/-- The fields of several words. -/
def fieldsOfEach : List Word → Run (List Octets)
  | [] => return []
  | w :: ws => do
    let fs ← r.plainFields w
    let gs ← fieldsOfEach ws
    return fs ++ gs

/-- The fields of a word. -/
def fields (w : Word) : Run (List Octets) := do
  let st ← get
  match st.onlyField? w with
  | some s => return [s]
  | none => if st.isExtended then r.fieldsOfEach (Braces.words w) else r.plainFields w

/-- The fields of words. -/
def allFields : List Word → Run (List Octets)
  | [] => return []
  | w :: ws => do
    let fs ← r.fields w
    let gs ← allFields ws
    return fs ++ gs

/-- The text of an expression for a calculation. -/
def expressionText (expression : Word) : Run Octets := do
  return Marked.text (← r.pieces false expression (.empty none)).joined

/-- The value of an arithmetic expression. -/
def number (expression : Word) : Run Octets := do
  let text ← r.expressionText expression
  let st ← get
  if st.isExtended then return Calculation.shown (← Run.calculation text)
  else
    match Arithmetic.evaluate (fun name => (st.parameter? name).getD []) text with
    | .error e => Run.abort (e.message text)
    | .ok (n, given) =>
      for (name, value) in given.reverse do
        Run.assign name (Arithmetic.shown value)
      return Arithmetic.shown n

/-! ## What is asked of parameters -/

/-- The default text of what is said of a parameter that has no value. -/
def missingText (dialect : Dialect) (emptyToo : Bool) : Octets :=
  (match dialect, emptyToo with
    | .plain, true => "parameter not set or null"
    | .extended, true => "parameter null or not set"
    | _, false => "parameter not set").toList

/-- Values as fields: one for each of them or, where words are not split or all are asked for as one
text, a single one. -/
def asFields (st : State) (joins quoted splits : Bool) (values : List Octets) : List Octets :=
  if splits && !(quoted && joins) then values
  else if joins || !st.isExtended then [st.joinAll values]
  else [[' '].intercalate values]

/-- What a parameter has come to. -/
structure Found where
  /-- What it is called in messages. -/
  name : Octets
  /-- Its values, each of which is a field of its own. -/
  values : Option (List Octets)
  /-- All of them where they are asked for, and whether they are asked for as one text. -/
  all : Option (List Octets × Bool)
  /-- All of them as one text. -/
  joined : Option Octets
  /-- The number of values, if their number is asked for and not the length of one. -/
  count : Option Nat
  /-- What may be given a value. -/
  reference : Option Calculation.Reference

/-- Adds values, each as a field of its own. -/
def addValues (values : List Octets) (isValue quoted : Bool) (f : Fields) : Fields :=
  match values with
  | [] => if quoted then { f with hasEmptyQuotes := !isValue } else f
  | values => f.addEach quoted values

/-- Adds what a parameter has come to, or what an operation makes of that. -/
def addFound (p : Found) (operation : Operation) (word : Word) (quoted : Bool) (f : Fields) :
    Run Fields := do
  let st ← get
  let lacks (emptyToo : Bool) : Bool :=
    match p.values with
    | none => true
    | some values => (emptyToo && (values = [] ∨ values = [[]])) || (st.isExtended && values = [])
  let addAll : Run Fields :=
    match p.values with
    | some values => return addValues values (operation = .value) quoted f
    | none => if st.has 'u' then Run.unbound p.name else return f.addText quoted []
  let addTrimmed (plain : Pattern → List Octets → List Octets)
      (each : Pattern → Octets → Octets) : Run Fields := do
    match p.values with
    | none => addAll
    | some values =>
      let pattern := Pattern.ofMarked st.patternStyle (← r.markedText word)
      if !st.isExtended then return f.addEach quoted (plain pattern values)
      else
        match p.all with
        | none => return f.addEach quoted (values.map (each pattern))
        | some (all, joins) =>
          let values := asFields st joins quoted f.separators.isSome (all.map (each pattern))
          return addValues values true quoted f
  match operation with
  | .unknown =>
    if st.isExtended then Run.giveUp ((← r.text word) ++ ": bad substitution".toList)
    else Run.abort "Bad substitution".toList
  | .value => addAll
  | .length =>
    if p.values.isNone && st.has 'u' then Run.unbound p.name
    else return f.addText quoted (Text.decimal (p.count.getD (p.joined.getD []).length))
  | .orElse emptyToo => if lacks emptyToo then r.pieces true (st.withoutTilde word) f else addAll
  | .alternative emptyToo =>
    if (if st.isExtended then lacks emptyToo
      else p.joined.isNone || (emptyToo && p.joined = some [])) then return f
    else r.pieces true (st.withoutTilde word) f
  | .assign emptyToo =>
    if lacks emptyToo then
      let s ← r.text word
      match p.reference with
      | some reference =>
        if st.isExtended then Run.give reference false s else Run.assign reference.name s
        return f.addText quoted s
      | none =>
        if st.isExtended then Run.giveUp ('$' :: p.name ++ ": cannot assign in this way".toList)
        else Run.missing p.name "bad variable name".toList
    else addAll
  | .demand emptyToo =>
    if lacks emptyToo then
      let s ← r.text word
      Run.missing p.name (if word.isEmpty then missingText st.dialect emptyToo else s)
    else addAll
  | .withoutFront longest =>
    addTrimmed (Pattern.withoutFrontOfAll longest) (Pattern.withoutFront longest)
  | .withoutEnd longest =>
    addTrimmed (Pattern.withoutEndOfAll longest) (Pattern.withoutEnd longest)

/-- What a parameter has come to, which is a single one or the list of all. -/
def foundOf (st : State) (name : String) (quoted splits : Bool) : Found :=
  let label := name.toList
  let reference := if isName label then some ⟨name, none⟩ else none
  if name = "@" ∨ name = "*" then
    { name := label
      values := some (asFields st (name = "*") quoted splits st.parameters)
      all := some (st.parameters, name = "*")
      joined := some (st.joinAll st.parameters)
      count := if st.isExtended then some st.parameters.length else none
      reference := none }
  else
    let value := st.parameter? name
    ⟨label, value.map ([·]), none, value, none, reference⟩

/-- Adds what a parameter comes to. -/
def addParameter (name : String) (operation : Operation) (word : Word) (quoted : Bool)
    (f : Fields) : Run Fields := do
  let st ← get
  r.addFound (foundOf st name quoted f.separators.isSome) operation word quoted f

/-! ## Elements of lists -/

/-- The key that an index comes to. -/
def key (name : String) (index : Word) : Run Octets := do
  if (← get).isTable name then r.text index
  else return Calculation.shown (← Run.calculation (← r.expressionText index))

/-- Whether an index stands for all values. -/
def isAllIndex (index : Option Word) : Bool :=
  match index with
  | some [.text s false] => s = ['@'] || s = ['*']
  | _ => false

/-- A parameter that is named by the value of another one, with its index. -/
def parameterIn (text : Octets) : String × Option Word :=
  let name := text.takeWhile isNameChar
  match text.drop name.length with
  | '[' :: inner =>
    if name.isEmpty then (String.ofList text, none)
    else (String.ofList name, some [.text inner.dropLast false])
  | _ => (String.ofList text, none)

/-- The values of a parameter that is a list of all of something, each with its key. -/
def allItems (st : State) (name : String) : List (Octets × Octets) :=
  if name = "@" ∨ name = "*" then
    (st.name :: st.parameters).zipIdx.map fun v => (Text.decimal v.2, v.1)
  else ((st.variableNamed? name).map Variable.items).getD []

/-- A part of the values of a list, by their keys. -/
def partOfItems (isTable : Bool) (items : List (Octets × Octets)) (offset : Int)
    (length : Option Int) : Option (List Octets) :=
  let next : Int := (items.getLast?.map fun i => (keyNumber i.1 : Int) + 1).getD 0
  let start := if offset < 0 then next + offset else offset
  if start < 0 then some []
  else
    let rest := if isTable then items.drop (start.toNat - 1)
      else items.dropWhile fun i => (keyNumber i.1 : Int) < start
    match length with
    | none => some (rest.map Prod.snd)
    | some n => if n < 0 then none else some ((rest.take n.toNat).map Prod.snd)

/-- What a variable, one of its keys or all of them have come to. -/
def foundElement (name : String) (index : Option Word) (quoted splits : Bool) : Run Found := do
  let st ← get
  match index with
  | none => return foundOf st name quoted splits
  | some w =>
    if isAllIndex index then
      let values := (allItems st name).map Prod.snd
      let joins := Word.literalText w = ['*']
      return {
        name := name.toList ++ "[".toList ++ Word.literalText w ++ "]".toList
        values := some (asFields st joins quoted splits values)
        all := some (values, joins)
        joined := some (st.joinAll values)
        count := some values.length
        reference := none }
    else
      let key ← r.key name w
      if ((← get).variableNamed? name).any fun v => (State.key? v key).isNone then
        modify fun st => st.warn (name.toList ++ ": bad array subscript".toList)
      let st ← get
      let value := (st.variableNamed? name).bind fun v => State.elementOf? v key
      let label := name.toList ++ '[' :: key ++ [']']
      return ⟨label, value.map ([·]), none, value, none, some ⟨name, some key⟩⟩

/-- Does what is asked of each value. -/
def requested (request : Request) (words : List Word) (values : List Octets) :
    Run (List Octets) := do
  let style := (← get).patternStyle
  let pattern (w : Word) : Run Pattern := do
    return Pattern.ofMarked style (← r.markedText w)
  match request with
  | .replace anchor all =>
    let p ← pattern (words.headD [])
    let replacement ← r.markedText ((words.drop 1).headD [])
    return values.map (Request.replaced p replacement anchor all)
  | .letters change all =>
    let p ← match words with
      | [] | [[]] => pure none
      | w :: _ => some <$> pattern w
    return values.map (Request.lettered change all p)
  | .form c => return values.filterMap (Request.formed? c)
  | .basic _ | .part | .keys | .names => return values

/-- Adds what is asked of a variable, of one of its keys, of all of them, or of the parameter that
it names. -/
def addElement (name : String) (index : Option Word) (indirect : Bool) (request : Request)
    (words : List Word) (quoted : Bool) (f : Fields) : Run Fields := do
  let st ← get
  let splits := f.separators.isSome
  let isReference := (st.binding? name).any fun v => v.marks.contains 'n'
  match request with
  | .names =>
    let names := (st.bindings.map Variable.name).filter fun n => name.isPrefixOf n
    return f.addEach quoted ((names.mergeSort fun a b => a ≤ b).map Octets.ofText)
  | .keys => return addValues ((allItems st name).map Prod.fst) true quoted f
  | _ =>
    if indirect && isReference then
      return f.addText quoted (st.resolved State.maxResolved name).toList
    let (name, index) ←
      if !indirect then pure (name, index)
      else do
        let p ← r.foundElement name index true false
        match p.joined with
        | some text => pure (parameterIn text)
        | none => Run.missing p.name "invalid indirect expansion".toList
    let isAll := isAllIndex index || (index.isNone && (name = "@" || name = "*"))
    match request with
    | .basic o =>
      let hasKeys := (st.variableNamed? name).any fun v =>
        v.elements.isSome && !v.marks.contains '?'
      if o = .length && index.isSome && st.has 'u' && !hasKeys then Run.unbound name.toList
      let p ← r.foundElement name index quoted splits
      r.addFound p o (words.headD []) quoted f
    | .part =>
      let offset ← Run.calculation (← r.expressionText (words.headD []))
      let length ← match words with
        | [_, w] => some <$> (do Run.calculation (← r.expressionText w))
        | _ => pure none
      let shownLength := Calculation.shown (length.getD 0)
      let problem : Run Fields :=
        Run.giveUp (shownLength ++ ": substring expression < 0".toList)
      if isAll then
        let joins := name = "*" || (index.map Word.literalText) = some ['*']
        match partOfItems (st.isTable name) (allItems st name) offset length with
        | some values => return addValues (asFields st joins quoted splits values) true quoted f
        | none => problem
      else
        let p ← r.foundElement name index quoted splits
        match p.joined with
        | none => r.addFound p .value [] quoted f
        | some s =>
          match Request.part? s offset length with
          | some s => return f.addText quoted s
          | none => problem
    | request =>
      let p ← r.foundElement name index quoted splits
      match p.values with
      | none => r.addFound p .value [] quoted f
      | some _ =>
        let values := if isAll then (allItems st name).map Prod.snd else p.joined.toList
        let values := if isAll && index.isNone then values.drop 1 else values
        let joins := name = "*" || (index.map Word.literalText) = some ['*']
        let values ← r.requested request words values
        if isAll then return addValues (asFields st joins quoted splits values) true quoted f
        else return values.foldl (fun f s => f.addText quoted s) f

/-! ## Processes that are files -/

/-- The path of a file that stands for a process. -/
def substitutePath (n : Nat) : Octets := "/dev/fd/".toList ++ Text.decimal n

/-- The path of a file that a command writes, or whose content it reads when the command is done
that the path is for. -/
def substitute (script : Command) (writes : Bool) : Run Octets := do
  let content ← if writes then r.outputOf script else pure []
  let st ← get
  let isFree (n : Nat) : Bool := !st.files.exists? (Octets.toText (substitutePath n))
  let number := ((List.range 54).map (63 - ·)).find? isFree |>.getD 63
  let path := substitutePath number
  let (files, _) := st.files.write (Octets.toText path) (Octets.toBytes content)
  set { st with
    files := files
    substitutes := st.substitutes ++ [(number, if writes then none else some script)] }
  return path

/-- Adds what pieces come to. `splitsText` tells that literal text is split like values are. -/
def addPieces (splitsText : Bool) : List Piece → Fields → Run Fields
  | [], f => return f
  | .text s quoted :: w, f =>
    addPieces splitsText w
      (if quoted then f.addQuoted s
        else if splitsText then f.spread s
        else f.add (Marked.ofText s false))
  | .parameter name operation word quoted :: w, f => do
    let f ← r.addParameter name operation word quoted f
    addPieces splitsText w f
  | .output script quoted :: w, f => do
    let s ← r.outputOf script
    let s := outputText s
    addPieces splitsText w (f.addText quoted s)
  | .arithmetic expression quoted :: w, f => do
    let s ← r.number expression
    addPieces splitsText w (f.addText quoted s)
  | .element name index indirect request words quoted :: w, f => do
    let f ← r.addElement name index indirect request words quoted f
    addPieces splitsText w f
  | .items _ :: w, f => addPieces splitsText w f
  | .process script writes :: w, f => do
    let s ← r.substitute script writes
    addPieces splitsText w (f.addText true s)

/-! ## Traces -/

/-- What stands in front of a command that is shown. -/
def traceFront : Run Octets := do
  let st ← get
  let text := (st.value? "PS4").getD []
  let text ←
    if text.contains '$' || text.contains Quoting.backquote then
      modify fun st => st.withOption 'x' false
      let f ← r.pieces false (Word.ofDocument st.dialect text) (.empty none)
      modify fun st => (st.withOption 'x' true).withStatus st.status
      pure (Marked.text f.joined)
    else pure text
  return if st.isExtended then (text.take 1).flatMap (List.replicate st.depth) ++ text else text

/-- Shows a text in place of a command before it is run, under descriptors. -/
def traceText (descriptors : List (Nat × Nat)) (text : Octets) : Run Unit := do
  let front ← r.traceFront
  modify fun st =>
    let after := { st with descriptors := descriptors }.put 2 (front ++ text ++ ['\n'])
    { after with descriptors := st.descriptors }

/-- Shows a part of a command of the extended language before it is run, if that is wanted. -/
def traceIfWanted (text : Octets) : Run Unit := do
  let st ← get
  if st.isExtended && st.has 'x' then r.traceText st.descriptors text

end Runner

end CallForest.Shell
