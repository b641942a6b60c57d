import CharacterSheet.Arithmetic.Lexeme

/-!
# Programs for a stack of values

An expression is turned into a program: instructions that take their operands from a stack and
put their result back. Operators wait on a stack of their own until one of lower priority
comes; brackets raise the priority of what they enclose. What may come next is watched only
in part; in the end the operands must be as many as the operators need.
-/

namespace CharacterSheet.Arithmetic

/-- One step of a program. -/
inductive Instruction where
  | constant (v : Value)
  /-- A list without items. -/
  | emptyList
  | variable (name : String)
  | unary (op : Unary)
  | binary (op : Binary)
  | call
  deriving Repr, Inhabited

/-- The steps of an expression in the order in which they are taken. -/
abbrev Program := List Instruction

/-- What may come next. -/
inductive Expectation where
  /-- An operand, a sign or a function. -/
  | start
  /-- As at the start, or a closing bracket right behind its opening. -/
  | opened
  /-- An operator, a comma or a closing bracket. -/
  | operand
  /-- An opening bracket. -/
  | function
  /-- As behind an operand, or an opening bracket with arguments. -/
  | callable
  deriving Repr, DecidableEq

namespace Expectation

/-- Whether an operand, a sign or a function may come. -/
def allowsOperand (e : Expectation) : Bool := e = .start || e = .opened

/-- Whether an opening bracket may come. -/
def allowsOpening (e : Expectation) : Bool := e != .operand

/-- Whether a comma or a closing bracket may come. -/
def allowsClosing (e : Expectation) : Bool := e = .operand || e = .callable

end Expectation

/-- How tightly an operator binds. -/
def Binary.priority : Binary → Int
  | .power => 8
  | .modulo | .divide => 6
  | .multiply => 5
  | .add | .subtract => 4
  | .concatenate | .compare _ | .member => 3
  | .negation => 2
  | .conjunction => 1
  | .exclusive | .disjunction => 0
  | .argument => -1
  | .dice => 9

/-- How tightly a sign binds. -/
def signPriority : Int := 5

/-- How tightly a word for negation binds. -/
def negationPriority : Int := 2

/-- How tightly a function binds, and an operator word that no blank follows. -/
def functionPriority : Int := 9

/-- How tightly a call binds. -/
def callPriority : Int := -2

/-- How much a bracket raises priorities. -/
def bracketPriority : Int := 10

/-- An operator that waits for its operands. -/
structure Waiting where
  instruction : Instruction
  priority : Int
  deriving Repr

/-- A program in the making. -/
structure Assembly where
  /-- How many brackets are open. -/
  depth : Int := 0
  expected : Expectation := .start
  /-- The operators that wait, the last one first. -/
  waiting : List Waiting := []
  /-- The steps so far, the last one first. -/
  output : List Instruction := []
  /-- One less than the number of steps that the operators ask for. -/
  demand : Nat := 0
  deriving Repr

namespace Assembly

/-- An operator comes to wait; those that bind at least as tightly need not wait any more. -/
def push (a : Assembly) (i : Instruction) (priority : Int) (demand : Nat)
    (expected : Expectation) : Assembly :=
  let own := priority + bracketPriority * a.depth
  let ready := a.waiting.takeWhile fun w ↦ own ≤ w.priority
  { a with
    expected
    waiting := ⟨i, own⟩ :: a.waiting.drop ready.length
    output := (ready.map (·.instruction)).reverse ++ a.output
    demand := a.demand + demand }

/-- A step is taken at once. -/
def emit (a : Assembly) (i : Instruction) (expected : Expectation) : Assembly :=
  { a with expected, output := i :: a.output }

/-- An operator between two operands. -/
def operator (a : Assembly) (op : Binary) : Assembly :=
  a.push (.binary op) op.priority 2 .start

/-- The next lexeme is taken in. -/
def feed (a : Assembly) : Lexeme → Except FormFault Assembly
  | .operator op =>
    if a.expected.allowsOperand then
      match op with
      | .add => .ok { a with expected := .start }
      | .subtract => .ok (a.push (.unary .negate) signPriority 1 .start)
      | .negation => .ok (a.push (.unary .negation) negationPriority 1 .start)
      | op => .ok (a.operator op)
    else .ok (a.operator op)
  | .comment | .blank => .ok a
  | .number n => .ok (a.emit (.constant (.number n)) .operand)
  | .text s =>
    if a.expected.allowsOperand then .ok (a.emit (.constant (.text s)) .operand)
    else .error .unexpectedText
  | .constant x =>
    if a.expected.allowsOperand then .ok (a.emit (.constant (.float x)) .operand)
    else .error .unexpectedConstant
  | .variable name =>
    if a.expected.allowsOperand then .ok (a.emit (.variable name) .callable)
    else .error .unexpectedVariable
  | .function op =>
    if a.expected.allowsOperand then .ok (a.push (.unary op) functionPriority 1 .function)
    else .error .unexpectedFunction
  | .wordOperator op =>
    if a.expected.allowsOperand then .ok (a.push (.binary op) functionPriority 2 .function)
    else .error .unexpectedFunction
  | .opening =>
    let inner := { a with depth := a.depth + 1 }
    if !a.expected.allowsOpening then .error .unexpectedOpening
    else if a.expected = .callable then .ok (inner.push .call callPriority 2 .opened)
    else .ok { inner with expected := .opened }
  | .closing =>
    let outer := { a with depth := a.depth - 1 }
    if a.expected = .opened then .ok (outer.emit .emptyList .callable)
    else if a.expected.allowsClosing then .ok { outer with expected := .callable }
    else .error .unexpectedClosing
  | .comma =>
    if a.expected.allowsClosing then .ok (a.push (.binary .argument) (-1) 2 .start)
    else .error .unexpectedComma

/-- The lexemes of a text are taken in, up to its end. -/
def run (a : Assembly) (cs : List Char) : Except Refusal Assembly :=
  match cs with
  | [] => .ok a
  | c :: rest =>
    match h : Lexeme.read (c :: rest) with
    | .error e => .error e
    | .ok (l, behind) =>
      have := Lexeme.length_lt_of_read h
      match a.feed l with
      | .ok next => run next behind
      | .error fault => .error (.form fault behind.length)
termination_by cs.length
decreasing_by
  all_goals
    simp only [List.length_cons] at *
    omega

/-- The finished program, when brackets match and the steps are as many as asked for. -/
def finish (a : Assembly) : Except FormFault Program :=
  let program := a.output.reverse ++ a.waiting.map (·.instruction)
  if a.depth != 0 then .error .unmatchedParentheses
  else if a.demand + 1 != program.length then .error .parity
  else .ok program

end Assembly

namespace Program

/-- The program of an expression. -/
def compile (text : String) : Except Error Program :=
  let cs := text.toList
  let report (refusal : Refusal) : Error :=
    match refusal with
    | .form fault left => .malformed fault (cs.length - left) text
    | .other e => e
  match Assembly.run {} cs with
  | .error refusal => .error (report refusal)
  | .ok a => a.finish.mapError fun fault ↦ report (.form fault 0)

/-- The value of a variable. The functions are always there. -/
def valueOf (known : List (String × Value)) (name : String) : Except Error Value :=
  match known.lookup name with
  | some v => .ok v
  | none =>
    match Function.named.lookup name with
    | some f => .ok (.function f)
    | none => .error (.undefinedVariable name)

/-- The value of a call. A list is a list of arguments, any other value the only argument. -/
def call (f argument : Value) : Evaluating Value := do
  match f with
  | .function f =>
    match argument with
    | .list place => f.apply (← itemsOf place)
    | v => f.apply [v]
  | .text s => throw (.notAFunction s)
  | _ => throw .wrongType

/-- One step on the stack of values. -/
def step (known : List (String × Value)) (stack : List Value) (i : Instruction) :
    Evaluating (List Value) := do
  match i, stack with
  | .constant v, stack => return v :: stack
  | .emptyList, stack => return (← newList []) :: stack
  | .variable name, stack => return (← valueOf known name) :: stack
  | .unary op, v :: below => return (← op.apply (← get) v) :: below
  | .binary op, w :: v :: below => return (← op.apply v w) :: below
  | .call, argument :: f :: below => return (← call f argument) :: below
  | _, _ => throw .missingOperand

/-- The stack after all steps of a program. -/
def run (known : List (String × Value)) (stack : List Value) (p : Program) :
    Evaluating (List Value) := p.foldlM (step known) stack

/-- The value of a program: what is alone on the stack in the end. -/
def value (known : List (String × Value)) (p : Program) : Evaluating Value := do
  match ← run known [] p with
  | [v] => return v
  | [] => throw .missingOperand
  | _ => throw .leftoverOperands

/-- A program of two parts runs one after the other. -/
theorem run_append (known : List (String × Value)) (stack : List Value) (p q : Program) :
    run known stack (p ++ q) = run known stack p >>= fun next ↦ run known next q := by
  simp [run]

end Program

/-- What is wrong with the form of an expression, blanks around it aside. -/
def checkForm (text : String) : Option Error :=
  match Program.compile (Text.trimmed text) with
  | .ok _ => none
  | .error e => some e

/-- What the variables of an expression stand for. -/
structure Variables where
  known : List (String × Value) := []
  /-- The lists among their values. -/
  lists : Lists := {}
  deriving Repr, Inhabited

/-- The number that an expression denotes. -/
def evaluate (text : String) (vars : Variables := {}) : Except Error Number := do
  let source := Text.trimmed text
  if source.isEmpty then throw .empty
  let program ← Program.compile source
  let (v, _) ← (program.value vars.known).run vars.lists
  v.toNumber

end CharacterSheet.Arithmetic
