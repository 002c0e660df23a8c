import CallForest.Program.Format
import CallForest.Program.Input
import CallForest.Program.Words

/-!
# Dumps

`od` shows the bytes of its inputs in blocks, a line each with the address in front. A format tells
how many bytes make up one field and what they are shown as; several formats show a block on several
lines, their fields in columns of one width. Blocks that repeat the one before are left out.
-/

namespace CallForest

/-- What the bytes of a field are shown as. -/
inductive FieldShape where
  | number (base : Nat) (signed : Bool)
  | fraction
  | character
  | name
  deriving DecidableEq, Repr

/-- How the bytes of a block are shown: the shape of a field, of how many bytes each is made, and
whether the block is shown as text at the end of the line. -/
structure DumpFormat where
  shape : FieldShape
  size : Nat
  trailer : Bool

/-- The number that bytes make up, the least significant first. -/
def numberOfBytes : Octets → Nat
  | [] => 0
  | c :: cs => c.toNat + 256 * numberOfBytes cs

/-- The names of the characters that are no graphic ones. -/
def controlNames : List String :=
  ["nul", "soh", "stx", "etx", "eot", "enq", "ack", "bel", "bs", "ht", "nl", "vt", "ff", "cr", "so",
    "si", "dle", "dc1", "dc2", "dc3", "dc4", "nak", "syn", "etb", "can", "em", "sub", "esc", "fs",
    "gs", "rs", "us", "sp"]

/-- A number in a base with at least so many digits. -/
def digitsWith (width base n : Nat) : Octets :=
  let digits := Numeral.inBase false base n
  List.replicate (width - digits.length) '0' ++ digits

namespace DumpFormat

/-- The width of a field. -/
def fieldWidth (f : DumpFormat) : Nat :=
  match f.shape with
  | .number base signed =>
    let bits := 8 * f.size
    if base = 8 then (bits + 2) / 3
    else if base = 16 then 2 * f.size
    else if signed then 1 + (Text.decimal (Nat.pow 2 (bits - 1))).length
    else (Text.decimal (Nat.pow 2 bits - 1)).length
  | .fraction => if f.size = 4 then 15 else if f.size = 8 then 24 else 29
  | .character | .name => 3

/-- A byte as a character. -/
def characterText (c : Char) : Octets :=
  match c.toNat with
  | 0 => ['\\', '0']
  | 7 => ['\\', 'a']
  | 8 => ['\\', 'b']
  | 9 => ['\\', 't']
  | 10 => ['\\', 'n']
  | 11 => ['\\', 'v']
  | 12 => ['\\', 'f']
  | 13 => ['\\', 'r']
  | n => if QuotedName.isShown c then [c] else digitsWith 3 8 n

/-- A byte as the name of a character; its eighth bit does not count. -/
def nameText (c : Char) : Octets :=
  let n := c.toNat % 128
  match controlNames[n]? with
  | some name => name.toList
  | none => if n = 127 then "del".toList else [Char.ofNat n]

/-- The number that the bits of a fraction stand for: `digits` of them are those of the number, and
`powers` tell the power of two. -/
def fractionOf (digits powers bits : Nat) : FloatValue :=
  let below := bits % Nat.pow 2 digits
  let power := bits / Nat.pow 2 digits % Nat.pow 2 powers
  let negative := bits / Nat.pow 2 (digits + powers) % 2 = 1
  let bias : Int := Nat.pow 2 (powers - 1) - 1 + digits
  if power = Nat.pow 2 powers - 1 then if below = 0 then .infinite negative else .nan
  else if power = 0 then .finite negative below (1 - bias)
  else .finite negative (below + Nat.pow 2 digits) (power - bias)

/-- The shortest text of a fraction, of at least `least` digits, that reads back as the same
number. -/
def shortest (kind : FloatValue.Kind) (x : FloatValue) (least : Nat) : Nat → Octets
  | 0 => Conversion.float kind ⟨[], 0, some least, 'g'⟩ x
  | more + 1 =>
    let text := Conversion.float kind ⟨[], 0, some least, 'g'⟩ x
    let isSame : Bool :=
      match x, FloatValue.read? kind text with
      | .finite _ m e, some ((.finite _ n d, _), _) =>
        let low := min e d
        m * Nat.pow 2 (e - low).toNat == n * Nat.pow 2 (d - low).toNat
      | .finite _ _ _, _ => false
      | _, _ => true
    if isSame then text else shortest kind x (least + 1) more

/-- The number that the bits of a fraction of sixteen bytes stand for, of which ten count. The first
binary digit of its number is one of the bits. -/
def extendedOf (bits : Nat) : FloatValue :=
  let below := bits % Nat.pow 2 63
  let power := bits / Nat.pow 2 64 % Nat.pow 2 15
  let isOne := bits / Nat.pow 2 63 % 2 = 1
  let negative := bits / Nat.pow 2 79 % 2 = 1
  if power = Nat.pow 2 15 - 1 then if isOne && below = 0 then .infinite negative else .nan
  else if power ≠ 0 && !isOne then .nan
  else .finite negative (bits % Nat.pow 2 64) ((if power = 0 then 1 else (power : Int)) - 16446)

/-- The text of a fraction of four, eight or sixteen bytes. Numbers so small that digits are missing
may have fewer digits than others. -/
def fractionText (size bits : Nat) : Octets :=
  let (kind, least, x) : FloatValue.Kind × Nat × FloatValue :=
    if size = 4 then (⟨24, -149, 104⟩, 6, fractionOf 23 8 bits)
    else if size = 8 then (.double, 15, fractionOf 52 11 bits)
    else (.extended, 18, extendedOf bits)
  match x with
  | .nan =>
    let top := if size = 16 then 79 else 8 * size - 1
    (if bits / Nat.pow 2 top % 2 = 1 then ['-'] else []) ++ "nan".toList
  | .infinite _ => shortest kind x least 0
  | .finite _ m _ =>
    shortest kind x (if m < Nat.pow 2 (kind.digits - 1) then 1 else least) 21

/-- The text of a field. -/
def fieldText (f : DumpFormat) (bigFirst : Bool) (bytes : Octets) : Octets :=
  let bits := numberOfBytes (if bigFirst then bytes.reverse else bytes)
  match f.shape with
  | .number base signed =>
    if base ≠ 10 then digitsWith f.fieldWidth base bits
    else if signed && Nat.pow 2 (8 * f.size - 1) ≤ bits then
      '-' :: Text.decimal (Nat.pow 2 (8 * f.size) - bits)
    else Text.decimal bits
  | .fraction => fractionText f.size bits
  | .character => bytes.flatMap characterText
  | .name => bytes.flatMap nameText

/-- The size that letters behind the letter of a shape stand for, and what is behind. -/
def sizeIn? (names : List (Char × Nat)) (default : Nat) (s : Octets) : Nat × Octets :=
  match s with
  | c :: cs =>
    match names.lookup c with
    | some n => (n, cs)
    | none =>
      let digits := s.takeWhile Char.isDigit
      if digits.isEmpty then (default, s)
      else ((Numeral.digitsFrom 10 0 digits).1, s.drop digits.length)
  | [] => (default, [])

/-- Reads the formats that a text names, or tells what is wrong with it. -/
def readAll (whole : Octets) : Nat → Octets → Except Octets (List DumpFormat)
  | 0, _ | _, [] => .ok []
  | steps + 1, c :: cs =>
    let shape? : Option FieldShape :=
      match c with
      | 'a' => some .name
      | 'c' => some .character
      | 'd' => some (.number 10 true)
      | 'u' => some (.number 10 false)
      | 'o' => some (.number 8 false)
      | 'x' => some (.number 16 false)
      | 'f' => some .fraction
      | _ => none
    let refused (size : Nat) (what : String) : Except Octets (List DumpFormat) :=
      .error ("invalid type string ".toList ++ QuotedName.ofArgument whole ++
        ";\nthis system doesn't provide a ".toList ++ Text.decimal size ++ "-byte ".toList ++
        what.toList ++ " type".toList)
    match shape? with
    | none =>
      .error ("invalid character '".toList ++ c :: "' in type string ".toList ++
        QuotedName.ofArgument whole)
    | some shape =>
      let (size, rest) := match shape with
        | .number _ _ => sizeIn? [('C', 1), ('S', 2), ('I', 4), ('L', 8)] 4 cs
        | .fraction => sizeIn? [('F', 4), ('D', 8), ('L', 16)] 8 cs
        | _ => (1, cs)
      if shape = .fraction && ! [4, 8, 16].contains size then refused size "floating point"
      else if ! [1, 2, 4, 8, 16].contains size || (shape ≠ .fraction && size = 16) then
        refused size "integral"
      else
        let trailer := rest.head? = some 'z'
        (readAll whole steps (if trailer then rest.tail else rest)).map fun others =>
          ⟨shape, size, trailer⟩ :: others

/-- The formats that a text names, or what is wrong with it. -/
def ofText (s : Octets) : Except Octets (List DumpFormat) := readAll s s.length s

/-- The formats that an option stands for. -/
def ofOption (o : GivenOption) : List DumpFormat :=
  let named (s : String) : List DumpFormat := (ofText s.toList).toOption.getD []
  match o.1 with
  | 't' => (ofText o.2).toOption.getD []
  | 'a' => named "a"
  | 'b' => named "o1"
  | 'c' => named "c"
  | 'd' => named "u2"
  | 'D' => named "u4"
  | 'e' | 'F' => named "fD"
  | 'f' => named "fF"
  | 'h' | 'x' => named "x2"
  | 'H' | 'X' => named "x4"
  | 'i' => named "dI"
  | 'I' | 'l' | 'L' => named "dL"
  | 'o' | 'B' => named "o2"
  | 'O' => named "o4"
  | 's' => named "d2"
  | _ => []

end DumpFormat

/-- How a dump is written: its formats, the base of the addresses if there are any, how many bytes a
line shows, whether repeated lines are shown too, and whether numbers begin with their most
significant byte. -/
structure DumpStyle where
  formats : List DumpFormat
  radix : Option Nat
  width : Nat
  showsRepeats : Bool
  bigFirst : Bool

namespace DumpStyle

/-- An address. -/
def address (style : DumpStyle) (n : Nat) : Octets :=
  match style.radix with
  | none => []
  | some base => digitsWith (if base = 16 then 6 else 7) base n

/-- The number of bytes that every line of every format shows whole. -/
def step (formats : List DumpFormat) : Nat :=
  formats.foldl (fun n f => Nat.lcm n f.size) 1

/-- The width of the columns of all formats together. -/
def columnWidth (style : DumpStyle) : Nat :=
  style.formats.foldl (fun n f => max n ((f.fieldWidth + 1) * (style.width / f.size))) 0

/-- The fields of a block: what there is to fill is shared out among them. -/
def fieldsText (style : DumpStyle) (f : DumpFormat) (block : Octets) : Octets :=
  let count := style.width / f.size
  let fill := style.columnWidth - f.fieldWidth * count
  let absent := (style.width - block.length) / f.size
  let shown := (List.range (count - absent)).flatMap fun k =>
    let bytes := (block.drop (k * f.size)).take f.size
    let bytes := bytes ++ List.replicate (f.size - bytes.length) (Char.ofNat 0)
    let text := f.fieldText style.bigFirst bytes
    let extra := fill * (count - k) / count - fill * (count - k - 1) / count
    List.replicate (f.fieldWidth + extra - text.length) ' ' ++ text
  let trailer :=
    if f.trailer then
      List.replicate (absent * f.fieldWidth + fill * absent / count) ' ' ++ "  >".toList ++
        (block.map fun c => if QuotedName.isShown c then c else '.') ++ ['<']
    else []
  shown ++ trailer ++ ['\n']

/-- The lines of a block. -/
def blockText (style : DumpStyle) (offset : Nat) (block : Octets) : Octets :=
  let address := style.address offset
  match style.formats with
  | [] => []
  | first :: others =>
    address ++ style.fieldsText first block ++
      others.flatMap fun f =>
        List.replicate address.length ' ' ++ style.fieldsText f block

/-- The blocks of a text from an address on, with the address of the end; `last?` is the block in
front, and `repeating` tells that it was left out. The first argument bounds the number of
blocks. -/
def blocks (style : DumpStyle) : Nat → Nat → Option Octets → Bool → Octets → List Octets
  | 0, _, _, _, _ => []
  | steps + 1, offset, last?, repeating, s =>
    if s.isEmpty then [if style.radix.isSome then style.address offset ++ ['\n'] else []]
    else
      let block := s.take style.width
      let isRepeated := !style.showsRepeats && block.length = style.width && last? == some block
      let text :=
        if !isRepeated then style.blockText offset block else if repeating then [] else ['*', '\n']
      text :: blocks style steps (offset + block.length) (some block) isRepeated
        (s.drop style.width)

/-- The texts in an input that a null byte ends, at least so long, with their addresses. -/
def strings (style : DumpStyle) (least : Nat) (offset : Nat) (found : Octets) :
    Octets → List Octets
  | [] => []
  | c :: cs =>
    if QuotedName.isShown c then strings style least (offset + 1) (c :: found) cs
    else
      let rest := strings style least (offset + 1) [] cs
      if c.toNat = 0 && least ≤ found.length then
        let address := style.address (offset - found.length)
        (address ++ (if address.isEmpty then [] else [' ']) ++ found.reverse ++ ['\n']) :: rest
      else rest

end DumpStyle

/-- The number of bytes that the value of an option tells, which may be octal or hexadecimal. -/
def byteCount? (letter : Char) (s : Octets) : Except Octets Nat :=
  let argument : Octets := '-' :: letter :: " argument ".toList
  let t := s.dropWhile Numeral.isBlank
  let t := if t.head? = some '+' then t.tail else t
  let (n?, factor) :=
    match Numeral.magnitude? t with
    | some (n, rest) => (some n, rest)
    | none => (none, t)
  match n?, sizeFactor? factor with
  | none, none => .error ("invalid ".toList ++ argument ++ QuotedName.ofArgument s)
  | some _, none => .error ("invalid suffix in ".toList ++ argument ++ QuotedName.ofArgument s)
  | n?, some f =>
    let n := n?.getD 1 * f
    if factor.isEmpty && n?.isNone then
      .error ("invalid ".toList ++ argument ++ QuotedName.ofArgument s)
    else if n < Nat.pow 2 64 then .ok n
    else .error (argument ++ QuotedName.ofArgument s ++ " too large".toList)

/-- The offset that an operand tells behind a plus sign or, behind a name, without one. -/
def offsetIn? (s : Octets) : Option Nat :=
  let digits := if s.head? = some '+' then s.tail else s
  let (base, digits) :=
    if ['0', 'x'].isPrefixOf digits then (16, digits.drop 2) else (8, digits)
  if (digits.head?.bind (Numeral.digitIn? base)).isNone then none
  else
    match Numeral.digitsFrom base 0 digits with
    | (n, []) => some n
    | (n, ['b']) => some (n * 512)
    | (n, ['B']) => some (n * 1024)
    | _ => none

/-- Reads inputs one behind another until they make up so many bytes, if that is limited: what they
make up, and whether any could be opened. -/
def gather (program : Octets) :
    List Octets → Option Nat → Octets → Bool → Effect → (Octets × Bool) × Effect
  | [], _, content, isOpen, e => ((content, isOpen), e)
  | name :: names, limit, content, isOpen, e =>
    if isOpen && limit = some 0 then ((content, isOpen), e)
    else
      let cut (s : Octets) : Octets := match limit with
        | some n => s.take n
        | none => s
      let fail (name : Octets) (isOpen : Bool) (x : OsError) :=
        gather program names limit content isOpen
          (e.fail program 1 (name ++ ": ".toList ++ x.reason.toList))
      if isOwnInput name then
        match e.inputProblem with
        | some x => fail "'standard input'".toList true x
        | none =>
          let s := cut e.unread
          let rest := e.unread.drop s.length
          gather program names (limit.map (· - s.length)) (content ++ s) true
            { e with unread := rest, early := limit.isSome }
      else
        let size := match limit with
          | some n => min n (8 * FileSystem.deviceSize)
          | none => FileSystem.deviceSize
        match e.files.readFront size (Octets.toText name) with
        | .ok bs =>
          let s := cut (Octets.ofBytes bs)
          gather program names (limit.map (· - s.length)) (content ++ s) true e
        | .error x => fail (QuotedName.ifNeeded name) (isOpen || x = .isDirectory) x

/-- Shows the bytes of its inputs. -/
def odProgram : Program := fun i =>
  let letters : List (Char × ValueKind) :=
    "aBbcDdeFfHhIiLlOosvXx".toList.map (·, .never) ++
      "AjNSt".toList.map (·, .always) ++ [('w', .optional)]
  let table : OptionTable :=
    ⟨letters,
      [("skip-bytes", 'j', .always), ("address-radix", 'A', .always), ("read-bytes", 'N', .always),
        ("format", 't', .always), ("output-duplicates", 'v', .never), ("strings", 'S', .optional),
        ("width", 'w', .optional), ("endian", 'E', .always)], false⟩
  let problem? (o : GivenOption) : Option Octets :=
    let countProblem? : Option Octets :=
      if o.2.isEmpty && (o.1 == 'w' || o.1 == 'S') then none
      else match byteCount? o.1 o.2 with
        | .error problem => some problem
        | .ok _ => none
    match o.1 with
    | 'A' =>
      if o.2.head?.any ("doxn".toList.contains ·) then none
      else some ("invalid output address radix '".toList ++ o.2.take 1 ++
        "'; it must be one character from [doxn]".toList)
    | 't' => match DumpFormat.ofText o.2 with
      | .error problem => some problem
      | .ok _ => none
    | 'j' | 'N' | 'S' | 'w' => countProblem?
    | _ => none
  table.run "od" 1 problem? i fun given operands =>
    let count? (letter : Char) (default : Nat) : Option Nat :=
      (givenValue? given letter).map fun v => (byteCount? letter v).toOption.getD default
    let isPlain := !given.any fun o => "AjNtvw".toList.contains o.1
    let (operands, offset?) : List Octets × Option Nat :=
      match operands with
      | [s] =>
        if isPlain && s.head? = some '+' && (offsetIn? s).isSome then ([], offsetIn? s)
        else (operands, none)
      | [name, s] =>
        if isPlain && s.head?.any (fun c => c = '+' || c.isDigit) && (offsetIn? s).isSome then
          ([name], offsetIn? s)
        else (operands, none)
      | _ => (operands, none)
    let formats := given.flatMap DumpFormat.ofOption
    let formats := if formats.isEmpty then [⟨.number 8 false, 2, false⟩] else formats
    let step := DumpStyle.step formats
    let (width, isRefused) : Nat × Bool :=
      match count? 'w' 32 with
      | some n => if n ≠ 0 && n % step = 0 then (n, false) else (step, true)
      | none => (if step < 16 then step * (16 / step) else step, false)
    let radix := match (givenValue? given 'A').bind List.head? with
      | some 'd' => some 10
      | some 'x' => some 16
      | some 'n' => none
      | _ => some 8
    let style : DumpStyle :=
      ⟨formats, radix, width, isGiven given 'v', givenValue? given 'E' == some "big".toList⟩
    let skip := offset?.getD ((count? 'j' 0).getD 0)
    let limit := count? 'N' 0
    let ((content, isOpen), e) :=
      gather i.name (inputNames operands) (limit.map (· + skip)) [] false i.start
    if !isOpen then e
    else if content.length < skip then
      e.fail i.name 1 "cannot skip past end of combined input".toList
    else
      let shown := content.drop skip
      match count? 'S' 3 with
      | some least => e.print (style.strings least skip [] shown).flatten
      | none =>
        let e :=
          if isRefused then
            e.complain (i.name ++ ": warning: invalid width ".toList ++
              Text.decimal ((count? 'w' 32).getD 0) ++ "; using ".toList ++ Text.decimal step ++
              " instead\n".toList)
          else e
        e.print (style.blocks (shown.length + 1) skip none false shown).flatten

end CallForest
