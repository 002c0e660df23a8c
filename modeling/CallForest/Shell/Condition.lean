import CallForest.Program.Regex
import CallForest.Shell.Call

/-!
# Conditions between double brackets

When conditions hold that are commands of the extended language: texts are compared with patterns,
with expressions or by their order, and numbers may be calculated.
-/

namespace CallForest.Shell

/-- The expression that a marked text is: what is quoted in it stands for itself. -/
def Marked.expression (m : Marked) : Octets :=
  m.flatMap fun (c, quoted) =>
    if quoted && !c.isAlphanum && c.toNat < 128 then ['\\', c] else [c]

/-- A pattern as it is shown: what is quoted in it stands behind backslashes. -/
def Marked.shownPattern (m : Marked) : Octets :=
  m.flatMap fun (c, quoted) => if quoted then ['\\', c] else [c]

namespace Runner

variable (r : Runner)

/-- Shows a condition, which may be negated, before it is judged, if that is wanted. -/
def traceCondition (negated : Bool) (shown : List Octets) : Run Unit :=
  r.traceIfWanted ((if negated then "[[ ! " else "[[ ").toList ++ [' '].intercalate shown ++
    " ]]".toList)

/-- An operand as a condition that is shown has it. -/
def shownOperand (s : Octets) : Octets := if s.isEmpty then ['\'', '\''] else s

/-- How patterns are written in conditions, where groups are always known. -/
def conditionStyle (st : State) : PatternStyle := { st.patternStyle with hasGroups := true }

/-- Whether a text fits a pattern; the size of letters may make no difference. -/
def fitsMarked (st : State) (style : PatternStyle) (subject : Octets) (m : Marked) : Bool :=
  if st.isOn "nocasematch" then
    (Pattern.ofMarked style (m.map fun c => (c.1.toLower, c.2))).fits (subject.map Char.toLower)
  else (Pattern.ofMarked style m).fits subject

/-- Whether an expression is found in a text; what its groups hold becomes the value of a list. -/
def findsExpression (subject : Octets) (m : Marked) : Run Bool := do
  let st ← get
  match Regex.ofText ⟨false, true, false⟩ (Marked.expression m) with
  | .error _ =>
    Run.finish 2
    throw .fault
  | .ok expression =>
    let groups : List Octets :=
      match expression.find? (st.isOn "nocasematch") subject with
      | none => []
      | some (start, place) =>
        ((subject.drop start).take (place.offset - start)) ::
          (List.range expression.groupCount).map fun n => place.groupText subject (n + 1)
    modify fun st => st.bind
      { Variable.unset "BASH_REMATCH" with elements := some (.ofValues groups) }
    return !groups.isEmpty

/-- The number that a text is as a calculation. -/
def operandNumber (text : Octets) : Run Int := do
  match ← Run.calculation? text with
  | .ok n => return n
  | .error e =>
    modify fun st => (st.warn (st.calculationMessage e)).withStatus 1
    throw .fault

/-- Whether a condition holds that compares two words. It is shown as one that must not hold if it
is `negated`. -/
def compares (negated : Bool) (operator : String) (left right : Word) : Run Bool := do
  let a ← r.text left
  let st ← get
  let trace (right : Octets) : Run Unit :=
    r.traceCondition negated [shownOperand a, operator.toList, shownOperand right]
  match operator with
  | "=" | "==" | "!=" =>
    let m ← r.markedText right
    trace (Marked.shownPattern m)
    return fitsMarked st (conditionStyle st) a m == (operator ≠ "!=")
  | "=~" =>
    let m ← r.markedText right
    trace (Marked.text m)
    findsExpression a m
  | operator =>
    let b ← r.text right
    trace b
    match operator with
    | "<" => return octetsLe a b && a ≠ b
    | ">" => return octetsLe b a && a ≠ b
    | "-eq" => return (← operandNumber a) == (← operandNumber b)
    | "-ne" => return (← operandNumber a) != (← operandNumber b)
    | "-lt" => return (← operandNumber a) < (← operandNumber b)
    | "-le" => return (← operandNumber a) ≤ (← operandNumber b)
    | "-gt" => return (← operandNumber a) > (← operandNumber b)
    | "-ge" => return (← operandNumber a) ≥ (← operandNumber b)
    | operator =>
      return (Judgement.binaryHolds (knowledge st) a operator.toList b).toOption.getD false

/-- Whether a condition holds. It is shown as one that must not hold if it is `negated`. -/
def holds (negated : Bool) : Proposition → Run Bool
  | .word w => do
    let s ← r.text w
    r.traceCondition negated ["-n".toList, shownOperand s]
    return !s.isEmpty
  | .unary operator w => do
    let s ← r.text w
    r.traceCondition negated [operator.toList, shownOperand s]
    let st ← get
    return (Judgement.unaryHolds (knowledge st) operator.toList s).toOption.getD false
  | .binary operator a b => r.compares negated operator a b
  | .negation p => do
    let result ← holds (!negated) p
    return !result
  | .both p q => do
    if ← holds false p then holds false q else return false
  | .either p q => do
    if ← holds false p then return true else holds false q

/-- Tells by the status whether a condition holds. -/
def condition (p : Proposition) : Run Unit := do
  match ← asBuiltin "[[" (r.holds false p) with
  | some result => Run.finish (if result then 0 else 1)
  | none => return

/-- The value of a calculation that is a command, or a part of one; nothing if it has none. -/
def calculated (expression : Word) : Run (Option Int) := do
  let text ← r.expressionText expression
  let st ← get
  r.traceIfWanted ("(( ".toList ++ text ++ " ))".toList)
  match ← asBuiltin "((" (Run.calculation? text) with
  | some (.ok n) => return some n
  | some (.error e) =>
    let builtin := st.builtin
    modify fun st =>
      let st := { st with builtin := some "((" }
      { st.warn (st.calculationMessage e) with builtin := builtin }
    Run.finish 1
    return none
  | none => return none

/-- Tells by the status whether a calculation comes to something other than zero. -/
def calculation (expression : Word) : Run Unit := do
  if let some n ← r.calculated expression then Run.finish (if n = 0 then 1 else 0)

end Runner

end CallForest.Shell
