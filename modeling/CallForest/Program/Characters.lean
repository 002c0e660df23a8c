import CallForest.Program.Input
import CallForest.Program.Printing

/-!
# Characters for characters

`tr` puts characters in the place of others, drops some, or makes one of several like ones in a row.
-/

namespace CallForest

namespace CharacterSet

/-- The characters of a class. -/
def classMembers (name : Octets) : Option Octets :=
  let all := (List.range 256).map Char.ofNat
  match String.ofList name with
  | "alpha" => some (all.filter Char.isAlpha)
  | "digit" => some (all.filter Char.isDigit)
  | "alnum" => some (all.filter Char.isAlphanum)
  | "lower" => some (all.filter Char.isLower)
  | "upper" => some (all.filter Char.isUpper)
  | "space" => some (all.filter Numeral.isBlank)
  | "blank" => some ['\t', ' ']
  | "punct" => some (all.filter fun c => 33 ≤ c.toNat ∧ c.toNat ≤ 126 ∧ !c.isAlphanum)
  | "print" => some (all.filter fun c => 32 ≤ c.toNat ∧ c.toNat ≤ 126)
  | "graph" => some (all.filter fun c => 33 ≤ c.toNat ∧ c.toNat ≤ 126)
  | "cntrl" => some (all.filter fun c => c.toNat < 32 ∨ c.toNat = 127)
  | "xdigit" => some (all.filter fun c => (Numeral.digitIn? 16 c).isSome)
  | _ => none

/-- A part of a set as it is written. -/
inductive Element where
  | characters (s : Octets)
  /-- A class of characters by its name. -/
  | named (name s : Octets)
  /-- The characters that are as good as one, which are only that. -/
  | equivalent (c : Char)
  /-- One character as often as it takes to make the set as large as the other. -/
  | filler (c : Char)

namespace Element

/-- Whether an element is a class of letters in one case. -/
def isLetterCase : Element → Bool
  | .named name _ => ["upper", "lower"].contains (String.ofList name)
  | _ => false

/-- Whether an element is a class. -/
def isNamed : Element → Bool
  | .named _ _ => true
  | _ => false

/-- Whether an element stands for the characters that are as good as one. -/
def isEquivalent : Element → Bool
  | .equivalent _ => true
  | _ => false

/-- Whether an element is repeated as often as it takes. -/
def isFiller : Element → Bool
  | .filler _ => true
  | _ => false

/-- The characters of an element; a filler is repeated so often. -/
def members (missing : Nat) : Element → Octets
  | .characters s | .named _ s => s
  | .equivalent c => [c]
  | .filler c => List.replicate missing c

end Element

/-- The element that one character, repeated as often as the text says, stands for. -/
def repetition (c : Char) (count : Octets) : Except Octets Element :=
  let base := if count.head? = some '0' then 8 else 10
  match count, Numeral.digitsFrom base 0 count with
  | [], _ => .ok (.filler c)
  | _, (n, []) => .ok (if n = 0 then .filler c else .characters (List.replicate n c))
  | _, _ =>
    .error ("invalid repeat count ".toList ++ QuotedName.ofArgument count ++
      " in [c*n] construct".toList)

/-- What is written up to a delimiter and a bracket, with what follows. -/
def upToBracket? (d : Char) : List (Char × Bool) → Option (Octets × List (Char × Bool))
  | [] => none
  | (c, isEscaped) :: rest =>
    match rest with
    | (']', false) :: more =>
      if c = d && !isEscaped then some ([], more)
      else (upToBracket? d rest).map fun (s, more) => (c :: s, more)
    | _ => (upToBracket? d rest).map fun (s, more) => (c :: s, more)

/-- The element that stands in brackets, if one does, with what follows. -/
def bracketed? (s : List (Char × Bool)) : Except Octets (Option (Element × List (Char × Bool))) :=
  match s with
  | ('[', false) :: (d, false) :: rest =>
    if d = ':' || d = '=' then
      match upToBracket? d rest with
      | none => repeated? s
      | some ([], _) =>
        .error (if d = ':' then "missing character class name '[::]'".toList
          else "missing equivalence class character '[==]'".toList)
      | some (name, more) =>
        let made := if d = ':' then (classMembers name).map (.named name)
          else if name.length = 1 then name.head?.map .equivalent else none
        match made with
        | some e => .ok (some (e, more))
        | none =>
          if isCount rest then repeated? s
          else
            .error (if d = ':' then
              "invalid character class ".toList ++ QuotedName.ofArgument name
              else name ++ ": equivalence class operand must be a single character".toList)
    else repeated? s
  | _ => repeated? s
where
  /-- Whether a star, digits and a bracket stand here. -/
  isCount : List (Char × Bool) → Bool
    | ('*', false) :: rest => (rest.dropWhile fun c => c.1.isDigit).head? = some (']', false)
    | _ => false
  /-- A repetition. -/
  repeated? : List (Char × Bool) → Except Octets (Option (Element × List (Char × Bool)))
    | ('[', false) :: (c, _) :: ('*', false) :: rest =>
      let count := rest.takeWhile fun c => c ≠ (']', false) && !c.2
      match rest.drop count.length with
      | (']', false) :: more =>
        (repetition c (count.map Prod.fst)).map fun e => some (e, more)
      | _ => .ok none
    | _ => .ok none

/-- The elements of a set as it is written: escapes are taken already, with a flag at each character
that was escaped. The first argument bounds the number of steps. -/
def elementsFrom : Nat → List (Char × Bool) → Except Octets (List Element)
  | 0, _ | _ + 1, [] => .ok []
  | steps + 1, (c, isEscaped) :: rest => do
    match ← bracketed? ((c, isEscaped) :: rest), rest with
    | some (element, rest), _ => return element :: (← elementsFrom steps rest)
    | none, ('-', false) :: (b, _) :: rest =>
      if b < c then
        throw ("range-endpoints of '".toList ++ c :: '-' :: b ::
          "' are in reverse collating sequence order".toList)
      let range := (List.range' c.toNat (b.toNat + 1 - c.toNat)).map Char.ofNat
      return .characters range :: (← elementsFrom steps rest)
    | none, rest => return .characters [c] :: (← elementsFrom steps rest)

/-- The characters of a text with its escapes taken. The first argument bounds the number of
steps. -/
def unescape : Nat → Octets → List (Char × Bool)
  | 0, _ => []
  | _ + 1, [] => []
  | steps + 1, '\\' :: c :: cs =>
    if (Printing.escapeLetter? c).isSome || (Numeral.digitIn? 8 c).isSome then
      let (s, rest) := Printing.escape false (c :: cs)
      s.map (fun c => (c, true)) ++ unescape steps rest
    else (c, true) :: unescape steps cs
  | steps + 1, c :: cs => (c, false) :: unescape steps cs

/-- The elements of a set. -/
def elements (s : Octets) : Except Octets (List Element) :=
  let cs := unescape (s.length + 1) s
  elementsFrom (cs.length + 1) cs

/-- The characters of elements, of which there are to be so many if that can be. -/
def members (size : Nat) (elements : List Element) : Octets :=
  let sizes := elements.map fun e => (e.members 0).length
  elements.flatMap (Element.members (size - sizes.foldl (· + ·) 0))

/-- For each character of elements, whether a class of letters in one case begins there. -/
def caseStarts (size : Nat) (elements : List Element) : List Bool :=
  let missing := size - (members 0 elements).length
  elements.flatMap fun e =>
    (e.members missing).zipIdx.map fun (_, n) => e.isLetterCase && n = 0

/-- Whether each class of letters in one case has one at its place in the other list. The first
argument bounds the number of steps. -/
def areAligned : Nat → List Bool → List Bool → Bool
  | _, [], b :: _ => !b
  | steps + 1, a :: as, b :: bs =>
    if b then a && areAligned steps (as.drop 25) (bs.drop 25) else areAligned steps as bs
  | _, _, _ => true

/-- One of several characters of a set that are alike and in a row. -/
def squeezed (set : Char → Bool) (s : Octets) : Octets :=
  (s.splitBy fun a b => a == b && set a).map (fun run => run.headD ' ')

/-- What characters become: each of the first set that of the second at its place, or the last. -/
def substitute (first second : Octets) (c : Char) : Char :=
  match ((first.zipIdx).reverse).find? fun p => p.1 = c, second.getLast? with
  | some (_, n), some last => second.getD n last
  | _, _ => c

/-- The characters that are meant by a set, or all others in their order. -/
def domain (complement : Bool) (first : List Element) : Octets :=
  let members := members 0 first
  if complement then ((List.range 256).map Char.ofNat).filter (!members.contains ·) else members

/-- What keeps two sets from being used to put characters of one in the place of the other's. -/
def untranslatable? (complement truncates : Bool) (first second : List Element) :
    Option String :=
  let size := (domain complement first).length
  let target := members size second
  if second.any (·.isEquivalent) then
    some "[=c=] expressions may not appear in string2 when translating"
  else if second.any fun e => e.isNamed && !e.isLetterCase then
    some ("when translating, the only character classes that may appear in\n" ++
      "string2 are 'upper' and 'lower'")
  else if !complement && !areAligned 300 (caseStarts 0 first)
      (caseStarts size second) then
    some "misaligned [:upper:] and/or [:lower:] construct"
  else if target.length < size && !truncates && target.isEmpty then
    some "when not truncating set1, string2 must be non-empty"
  else if target.length < size && !truncates && second.getLast?.any (·.isNamed) then
    some ("when translating with string1 longer than string2,\n" ++
      "the latter string must not end with a character class")
  else if complement && first.any (·.isNamed) &&
      (size < target.length || target.any (· ≠ target.headD ' ')) then
    some ("when translating with complemented character classes,\n" ++
      "string2 must map all characters in the domain to one")
  else none

/-- What keeps two sets from being used, if anything does. -/
def unfit? (translates complement truncates : Bool) (first second : List Element) :
    Option String :=
  if first.any (·.isFiller) then
    some "the [c*] repeat construct may not appear in string1"
  else if 1 < second.countP (·.isFiller) then
    some "only one [c*] repeat construct may appear in string2"
  else if translates then untranslatable? complement truncates first second
  else if second.any (·.isFiller) then
    some "the [c*] construct may appear in string2 only when translating"
  else none

end CharacterSet

/-- Puts characters in the place of others. -/
def trProgram : Program := fun i =>
  let table : OptionTable :=
    { OptionTable.ofLetters "cCdst"
        [("complement", 'c'), ("delete", 'd'), ("squeeze-repeats", 's'),
          ("truncate-set1", 't')] with
      operandsEnd := true }
  table.run "tr" 1 (fun _ => none) i fun given operands =>
    let refuse (what : String) (operand : Octets) (more : List String) : Effect :=
      let e := i.start.fail i.name 1 (what.toList ++ QuotedName.ofArgument operand)
      (more.foldl (fun e l => e.complain (l.toList ++ ['\n'])) e).complain
        (OptionTable.hint i.name)
    let complement := isGiven given 'c' || isGiven given 'C'
    let deletes := isGiven given 'd'
    let squeezes := isGiven given 's'
    let truncates := isGiven given 't'
    let endsOpen (operand : Octets) : Bool :=
      (operand.reverse.takeWhile (· = '\\')).length % 2 = 1
    let start := (operands.filter endsOpen).foldl (fun e _ => e.complain (i.name ++
      ": warning: an unescaped backslash at end of string is not portable\n".toList)) i.start
    let finish (text : Octets) : Effect :=
      match i.inputProblem with
      | none => { start.print text with unread := [] }
      | some x => start.fail i.name 1 ("read error: ".toList ++ x.reason.toList)
    match operands with
    | [] => (i.start.fail i.name 1 "missing operand".toList).complain (OptionTable.hint i.name)
    | [a] =>
      if deletes = squeezes then
        refuse "missing operand after " a
          [if deletes then "Two strings must be given when both deleting and squeezing repeats."
          else "Two strings must be given when translating."]
      else
        match CharacterSet.elements a with
        | .error e => start.fail i.name 1 e
        | .ok elements =>
          match CharacterSet.unfit? false false false elements [] with
          | some problem => start.fail i.name 1 problem.toList
          | none =>
            let first := CharacterSet.domain complement elements
            finish (if deletes then i.input.filter (!first.contains ·)
              else CharacterSet.squeezed first.contains i.input)
    | a :: b :: others =>
      if deletes && !squeezes then
        refuse "extra operand " b (if others.isEmpty then
          ["Only one string may be given when deleting without squeezing repeats."] else [])
      else
        match others, CharacterSet.elements a, CharacterSet.elements b with
        | c :: _, _, _ => refuse "extra operand " c []
        | [], .error e, _ | [], .ok _, .error e => start.fail i.name 1 e
        | [], .ok firstElements, .ok secondElements =>
          let problem? :=
            CharacterSet.unfit? (!deletes) complement truncates firstElements secondElements
          match problem? with
          | some problem => start.fail i.name 1 problem.toList
          | none =>
            let first := CharacterSet.domain complement firstElements
            let second := CharacterSet.members first.length secondElements
            let inSecond (c : Char) : Bool := c ∈ second
            let text :=
              if deletes then i.input.filter (!first.contains ·)
              else
                let first := if truncates then first.take second.length else first
                i.input.map (CharacterSet.substitute first second)
            finish (if squeezes then CharacterSet.squeezed inSecond text else text)

end CallForest
