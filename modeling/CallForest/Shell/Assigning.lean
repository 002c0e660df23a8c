import CallForest.Shell.Expansion

/-!
# Assignments

What assignments give to variables: a text, or the values of a list or of a table, each of which may
stand behind its key.
-/

namespace CallForest.Shell

/-- The key of a word among those of a list that has one in front, whether the value is put behind
the old one, and the value. -/
def Word.keyed? : Word → Option (Word × Bool × Word)
  | .text ('[' :: cs) false :: rest => do
    let (index, behind) ← atBracket? 0 [] (behindText cs rest)
    let (appends, value) ← assigned? .extended behind
    return (index, appends, value)
  | _ => none

namespace Runner

variable (r : Runner)

/-- The values that words give to the keys of a variable: those of a list count on from the one
before. `next` is the key that follows. -/
def listFrom (v : Variable) : Elements → Nat → List Word → Run Elements
  | e, _, [] => return e
  | e, next, w :: ws => do
    match Word.keyed? w with
    | some (index, appends, value) =>
      let n ← Run.calculation (← r.expressionText index)
      let key := (State.key? { v with elements := some e } (Calculation.shown n)).getD ['0']
      let s ← Run.shaped v appends ((e.get? key).getD []) (← r.variableText value)
      listFrom v (e.set key s) (keyNumber key + 1) ws
    | none =>
      let values ← (← r.fields w).mapM (Run.shaped v false [])
      let e := values.zipIdx.foldl (fun (e : Elements) x => e.set (Text.decimal (next + x.2)) x.1) e
      listFrom v e (next + values.length) ws

/-- The values that words give to the keys of a table, each behind its key. -/
def tableFrom (v : Variable) : Elements → List Word → Run Elements
  | e, [] => return e
  | e, w :: ws => do
    match Word.keyed? w with
    | some (index, appends, value) =>
      let key ← r.text index
      let s ← Run.shaped v appends ((e.get? key).getD []) (← r.variableText value)
      tableFrom v (e.set key s) ws
    | none =>
      let shown := v.name.toList ++ ": ".toList ++ (← r.text w)
      modify fun st =>
        st.warn (shown ++ ": must use subscript when assigning associative array".toList)
      tableFrom v e ws

/-- The values that words give to the keys of a table, where keys and values take turns. -/
def pairsFrom (v : Variable) : Elements → List Word → Run Elements
  | e, [] => return e
  | e, [key] => return e.set (← r.text key) []
  | e, key :: value :: ws => do
    let key ← r.text key
    let s ← Run.shaped v false [] (← r.variableText value)
    pairsFrom v (e.set key s) ws

/-- Gives a variable the values that words come to. -/
def assignItems (name : String) (appends : Bool) (words : List Word) : Run Unit := do
  let st ← get
  let name := st.resolved State.maxResolved name
  let v := (st.binding? name).getD (.unset name)
  let old := v.elementsOrNew
  let e ←
    if old.isTable then
      let start : Elements := if appends then old else .table []
      if (words.head?.bind Word.keyed?).isSome then r.tableFrom v start words
      else r.pairsFrom v start words
    else
      let start : Elements := if appends then old else .list []
      r.listFrom v start start.nextKey words
  Run.assignElements name e

/-- A word among values as a command that is shown has it: in single quotes if it is text with
characters that mean something between double ones. -/
def shownWord (w : Word) : Octets :=
  let text := Word.source w
  let isText := w.all fun p => p matches .text ..
  if !w.any Word.isQuoted then text
  else if isText && text.any fun c => c ∈ ['"', '\\', '$', Quoting.backquote, '\n'] then
    Quoting.single text
  else '"' :: text ++ ['"']

/-- An assignment of values as a command that is shown has it. -/
def shownItems (words : List Word) : Octets :=
  '(' :: [' '].intercalate (words.map shownWord) ++ [')']

/-- Makes an assignment, and gives what is shown of it. -/
def assignOne (a : Assignment) : Run Octets := do
  match a with
  | .mk name index appends value =>
    let sign : Octets := if appends then ['+', '='] else ['=']
    match value with
    | [.items words] =>
      r.assignItems name appends words
      return name.toList ++ sign ++ shownItems words
    | value =>
      if (← get).isExtended then
        match index with
        | none =>
          let s ← r.variableText value
          Run.give ⟨name, none⟩ appends s
          return name.toList ++ sign ++ (if s.isEmpty then [] else Quoting.shown s)
        | some w =>
          let key ← r.key name w
          let s ← r.variableText value
          Run.give ⟨name, some key⟩ appends s
          return name.toList ++ '[' :: Word.source w ++ ']' :: sign ++ Quoting.shown s
      else
        let s ← r.variableText value
        Run.assign name s
        return name.toList ++ '=' :: s

end Runner

end CallForest.Shell
