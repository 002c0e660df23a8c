import CallForest.Program.Numeral

/-!
# Texts in quotes

How the shell shows texts so that it can read them again: with backslashes, between single quotes,
between double quotes, or with names for characters that cannot be shown.
-/

namespace CallForest.Shell.Quoting

/-- Whether a character can be shown as it is. -/
def isShown (c : Char) : Bool := 32 ≤ c.toNat && c.toNat ≤ 126

/-- The backquote. -/
def backquote : Char := Char.ofNat 96

/-- A text in which names stand for characters that cannot be shown. -/
def named (s : Octets) : Octets :=
  let shown (c : Char) : Octets :=
    match c with
    | '\n' => ['\\', 'n']
    | '\t' => ['\\', 't']
    | '\r' => ['\\', 'r']
    | '\\' => ['\\', '\\']
    | '\'' => ['\\', '\'']
    | c =>
      if isShown c then [c]
      else
        match c.toNat with
        | 7 => ['\\', 'a']
        | 8 => ['\\', 'b']
        | 11 => ['\\', 'v']
        | 12 => ['\\', 'f']
        | 27 => ['\\', 'E']
        | n =>
          let digits := Numeral.inBase false 8 n
          '\\' :: List.replicate (3 - digits.length) '0' ++ digits
  '$' :: '\'' :: s.flatMap shown ++ ['\'']

/-- A text between single quotes; those in it stand behind backslashes. -/
def single (s : Octets) : Octets :=
  '\'' :: s.flatMap (fun c => if c = '\'' then ['\'', '\\', '\'', '\''] else [c]) ++ ['\'']

/-- A text between quotes of the kind that it needs. -/
def always (s : Octets) : Octets := if s.all isShown then single s else named s

/-- Whether a character means something to the shell wherever it stands. -/
def isSpecial (c : Char) : Bool :=
  c ∈ " \t\n'\"\\|&;()<>!\x7b\x7d*[?]^$".toList || c == backquote

/-- Whether a text has to stand in quotes to be one word that stands for itself. -/
def needsQuotes (s : Octets) : Bool :=
  s.any isSpecial || s.head? == some '#' || s.head? == some '~' ||
    (s.zip (s.drop 1)).any fun p => p.2 == '~' && (p.1 == '=' || p.1 == ':')

/-- A text, in quotes if it needs them. -/
def ifNeeded (s : Octets) : Octets :=
  if s.isEmpty then ['\'', '\'']
  else if !s.all isShown then named s
  else if needsQuotes s then single s
  else s

/-- A text as a command that is shown has it, in quotes if it needs them; the names for characters
are left out where single quotes are needed anyway. -/
def shown (s : Octets) : Octets :=
  if !s.isEmpty && needsQuotes s then single s else ifNeeded s

/-- A text whose special characters stand behind backslashes. -/
def backslashed (s : Octets) : Octets :=
  if s.isEmpty then ['\'', '\'']
  else if !s.all isShown then named s
  else
    let rec go : Option Char → Octets → Octets
      | _, [] => []
      | before, c :: cs =>
        let quotes := isSpecial c || c == ',' || (c == '#' && before.isNone) ||
          (c == '~' && (before.isNone || before == some '=' || before == some ':'))
        (if quotes then ['\\', c] else [c]) ++ go (some c) cs
    go none s

/-- A text between double quotes. -/
def double (s : Octets) : Octets :=
  if s.all isShown then
    '"' :: s.flatMap (fun c =>
      if c = '"' ∨ c = '\\' ∨ c = '$' ∨ c = backquote then ['\\', c] else [c]) ++ ['"']
  else named s

end CallForest.Shell.Quoting
