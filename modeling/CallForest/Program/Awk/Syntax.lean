import CallForest.Program.Regex

/-!
# Scripts of rules

A script has rules: a pattern tells for which records an action is done. Actions are statements, and
these calculate with expressions.
-/

namespace CallForest.Awk

/-- How two numbers are joined. -/
inductive Arithmetic where
  | add
  | subtract
  | multiply
  | divide
  | remainder
  | power
  deriving DecidableEq, Repr

/-- How two values are compared. -/
inductive Comparison where
  | less
  | atMost
  | equal
  | different
  | more
  | atLeast
  deriving DecidableEq, Repr

/-- Where a record is read from. -/
inductive InputKind where
  | main
  | file
  | command
  deriving DecidableEq, Repr

/-- An expression. -/
inductive Expression where
  | number (x : Float)
  | text (s : Octets)
  | pattern (r : Regex)
  | name (n : String)
  /-- An item of a table. -/
  | item (table : String) (keys : List Expression)
  | field (e : Expression)
  /-- Gives something a value, which may be joined with the old one. -/
  | assign (target : Expression) (join : Option Arithmetic) (value : Expression)
  /-- Makes something larger or smaller by one; the value is the one before or after. -/
  | step (target : Expression) (isAfter : Bool) (amount : Float)
  | negative (e : Expression)
  | positive (e : Expression)
  | negation (e : Expression)
  | arithmetic (join : Arithmetic) (a b : Expression)
  | compare (how : Comparison) (a b : Expression)
  | fits (negated : Bool) (a pattern : Expression)
  | both (a b : Expression)
  | either (a b : Expression)
  | choose (condition a b : Expression)
  | concatenation (a b : Expression)
  | member (keys : List Expression) (table : String)
  /-- A function of the language. -/
  | known (function : String) (args : List Expression)
  /-- A function of the script. -/
  | call (function : String) (args : List Expression)
  | getline (kind : InputKind) (target source : Option Expression)
  /-- Expressions in parentheses. -/
  | group (es : List Expression)

/-- Where something is printed to. -/
inductive OutputKind where
  | newFile
  | fileEnd
  | command
  deriving DecidableEq, Repr

/-- A statement. -/
inductive Statement where
  | expression (e : Expression)
  | print (isFormatted : Bool) (args : List Expression)
      (destination : Option (OutputKind × Expression))
  | block (body : List Statement)
  | choose (condition : Expression) (yes no : Statement)
  | loop (condition : Expression) (body : Statement)
  | loopAfter (body : Statement) (condition : Expression)
  /-- A loop with something that is done behind each pass. -/
  | counting (condition : Option Expression) (after body : Statement)
  | forEach (name table : String) (body : Statement)
  | leave
  | goOn
  | next
  | nextFile
  | exit (code : Option Expression)
  | giveBack (value : Option Expression)
  | delete (table : String) (keys : Option (List Expression))

/-- When an action is done. -/
inductive Trigger where
  | start
  | finish
  | always
  | whenever (e : Expression)
  | between (first last : Expression)

/-- A rule. Without an action the record is printed. -/
structure Rule where
  trigger : Trigger
  action : Option (List Statement)

/-- A function of a script. -/
structure Function where
  name : String
  parameters : List String
  body : List Statement

/-- A script. -/
structure Script where
  rules : List Rule
  functions : List Function

end CallForest.Awk
