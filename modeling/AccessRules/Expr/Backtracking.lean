import AccessRules.Expr.Parser

/-!
# Reading rule expressions by trial

The same grammar without looking ahead. A phrase is tried where it may stand. If it fails, the
reader goes back to where it was and tries something else, or does without. Only the place is taken
back then: the operations that were counted on the way stay counted. Behind a token that leaves no
other choice a phrase fails for good.
-/

namespace AccessRules.Expr.Backtracking

open Expr.Parser (Cursor Stop)

/-- How a trial fails: so that something else can be tried, or for good. -/
inductive Failure where
  | back
  | cut (fault : SyntaxFault)
deriving DecidableEq, Repr

/-- A trial moves a cursor over what it reads, or fails and leaves the cursor where it stopped. -/
abbrev Trial (α : Type) := EStateM Failure Cursor α

variable {α : Type}

/-! ## Going back -/

/-- Tries something else from the same place. -/
def orElse (trial other : Trial α) : Trial α := fun cursor =>
  match trial cursor with
  | .error .back stopped => other { stopped with rest := cursor.rest }
  | result => result

/-- Tries what may be missing. -/
def opt (trial : Trial α) : Trial (Option α) :=
  orElse (do return some (← trial)) (pure none)

/-- Tries what may not be missing. -/
def must (trial : Trial α) : Trial α := fun cursor =>
  match trial cursor with
  | .error .back stopped => .error (.cut .unexpected) stopped
  | result => result

/-- Fails where something can be read, and passes over nothing where it cannot. -/
def absent (trial : Trial α) : Trial Unit := fun cursor =>
  match trial cursor with
  | .ok _ stopped => .error .back { stopped with rest := cursor.rest }
  | .error .back stopped => .ok () { stopped with rest := cursor.rest }
  | .error (.cut fault) stopped => .error (.cut fault) stopped

/-- Tries a step again and again, each time from where the last one ended, until it fails. A step
that passes over nothing is the last. -/
def repeatTrial (step : α → Trial α) (state : α) (cursor : Cursor) :
    EStateM.Result Failure Cursor α :=
  match step state cursor with
  | .ok state' cursor' =>
      if cursor'.rest.length < cursor.rest.length then repeatTrial step state' cursor'
      else .ok state' cursor'
  | .error .back stopped => .ok state { stopped with rest := cursor.rest }
  | .error (.cut fault) stopped => .error (.cut fault) stopped
termination_by cursor.rest.length

/-! ## Tokens -/

/-- Passes over the blanks. -/
def blanks : Trial Unit :=
  modify Cursor.skipBlanks

/-- Passes over what a scan finds at the front. -/
def token (scan : List Char → Option (α × List Char)) : Trial α := fun cursor =>
  match scan cursor.rest with
  | some (value, rest) => .ok value { cursor with rest := rest }
  | none => .error .back cursor

/-- Passes over this character. -/
def character (expected : Char) : Trial Unit :=
  token fun
    | [] => none
    | first :: rest => if first = expected then some ((), rest) else none

/-- Passes over the blanks and this character. -/
def mark (expected : Char) : Trial Unit := do
  blanks
  character expected

/-- A number. -/
def number : Trial Expr := do
  let numeral ← token Decimal.scanLiteral?
  pure (.literal (.number numeral.toFloat))

/-- A quote. -/
def quote : Trial Char :=
  token fun
    | [] => none
    | first :: rest => if Token.isQuote first then some (first, rest) else none

/-- The characters of a string and its closing quote, which may not be missing. -/
def stringTail (opening : Char) : Trial Expr := fun cursor =>
  match Token.stringTail opening [] cursor.rest with
  | .ok (text, rest) => .ok (.literal (.string text)) { cursor with rest := rest }
  | .error left => .error (.cut .unexpected) { cursor with rest := left }

/-- A string. -/
def string : Trial Expr := do
  let opening ← quote
  stringTail opening

/-- A word. -/
def word : Trial Expr := do
  let name ← token Token.identifier?
  pure (Token.word name)

/-- An operator with one operand. -/
def unaryOperator : Trial UnaryOp :=
  token fun
    | [] => none
    | first :: rest => (Token.unaryOp? first).map fun op => (op, rest)

/-- What an assignment begins with: a name that is no literal, and an equals sign that is not
doubled. -/
def target : Trial String := do
  let name ← token Token.identifier?
  if (Token.literalWord? name).isSome then throw .back
  else
    mark '='
    absent (character '=')
    pure name

/-! ## Limits -/

/-- Counts further operations. They stay counted if they are too many. -/
def count (limits : Limits) (more : Nat) : Trial Unit := fun cursor =>
  let counted := { cursor with operations := cursor.operations + more }
  if counted.operations ≤ limits.operations then .ok () counted
  else .error (.cut .operations) counted

/-- What can be tried one level further in. -/
structure Level where
  assignment : Trial Expr
  unary : Trial Expr

/-- Opens a further level, if one is left. -/
def enter (inner : Option Level) : Trial Level :=
  match inner with
  | some level => pure level
  | none => throw (.cut .nesting)

/-! ## Operands -/

/-- A comma and a further expression. -/
def commaStep (item : Trial Expr) (read : List Expr) : Trial (List Expr) := do
  mark ','
  let next ← item
  pure (next :: read)

/-- Expressions with commas between them, or none. -/
def separated (item : Trial Expr) : Trial (List Expr) := do
  match ← opt item with
  | none => pure []
  | some first =>
      let read ← repeatTrial (commaStep item) [first]
      pure read.reverse

section

variable (limits : Limits) (inner : Option Level)

/-- An array: expressions with commas between them, one comma more or not. -/
def array : Trial Expr := do
  character '['
  let level ← enter inner
  let items ← separated level.assignment
  let _ ← opt (mark ',')
  must (mark ']')
  count limits 1
  pure (.array items)

/-- An expression in parentheses. -/
def group : Trial Expr := do
  character '('
  let tree ← must do
    let level ← enter inner
    level.assignment
  must (mark ')')
  pure tree

/-- A number, a string, an array, an expression in parentheses or a word, tried in this order. -/
def primary : Trial Expr := do
  blanks
  orElse number (orElse string (orElse (array limits inner) (orElse (group inner) word)))

/-- One property or call behind an expression. -/
def postfixStep (tree : Expr) : Trial Expr := do
  blanks
  if (← opt (character '.')).isSome then
    blanks
    let name ← must (token Token.identifier?)
    count limits 1
    pure (.member tree name)
  else if (← opt (character '[')).isSome then
    let level ← enter inner
    let key ← must level.assignment
    must (mark ']')
    count limits 1
    pure (.index tree key)
  else if (← opt (character '(')).isSome then
    let level ← enter inner
    let arguments ← separated level.assignment
    must (mark ')')
    count limits 1
    pure (.call tree arguments)
  else throw .back

/-- An operator with one operand and its operand, or something with its properties and calls. -/
def unary : Trial Expr := do
  blanks
  match ← opt unaryOperator with
  | some op =>
      let level ← enter inner
      let operand ← must level.unary
      count limits 1
      pure (.unary op operand)
  | none =>
      let tree ← primary limits inner
      repeatTrial (postfixStep limits inner) tree

/-! ## Operators -/

/-- One operator of a tier and the operand behind it, with the operators of the tier so far. -/
def operatorStep (tier : Token.Tier) (operand : Trial Expr) (state : Expr × Nat) :
    Trial (Expr × Nat) := do
  blanks
  let op ← token (Token.operator? tier)
  let right ← must operand
  pure (.binary op state.1 right, state.2 + 1)

/-- Operands of the tighter tiers with operators of the first tier between them. -/
def binary : List Token.Tier → Trial Expr
  | [] => unary limits inner
  | tier :: tighter => do
      let first ← binary tighter
      let (tree, operators) ← repeatTrial (operatorStep tier (binary tighter)) (first, 0)
      count limits operators
      pure tree

/-- An operation, or a test with its two outcomes. -/
def conditional : Trial Expr := do
  let test ← binary limits inner Token.tiers
  if (← opt (mark '?')).isSome then
    let level ← enter inner
    let (consequent, alternate) ← must do
      let consequent ← level.assignment
      mark ':'
      let alternate ← level.assignment
      pure (consequent, alternate)
    count limits 1
    pure (.conditional test consequent alternate)
  else pure test

/-- An assignment or a conditional. -/
def assignment : Trial Expr := do
  blanks
  match ← opt target with
  | some name =>
      let level ← enter inner
      let value ← must level.assignment
      count limits 1
      pure (.assign name value)
  | none => conditional limits inner

end

/-- What can be tried with so many levels left, the level itself among them. -/
def level (limits : Limits) : Nat → Option Level
  | 0 => none
  | left + 1 =>
      some ⟨assignment limits (level limits left), unary limits (level limits left)⟩

/-- What stands behind the expression of a rule: a semicolon or not, and nothing else. -/
def ending (tree : Expr) : Trial Expr := do
  blanks
  let _ ← opt (character ';')
  blanks
  if (← get).rest.isEmpty then pure tree else throw .back

/-- Where a trial ended. In the end either failure says that something else should stand there,
unless it says what is wrong. -/
def outcome : EStateM.Result Failure Cursor α → Except Stop (α × Cursor)
  | .ok value cursor => .ok (value, cursor)
  | .error .back stopped => .error ⟨.unexpected, stopped.rest⟩
  | .error (.cut fault) stopped => .error ⟨fault, stopped.rest⟩

/-- A whole rule: one expression and its ending. -/
def rule (limits : Limits) (source : List Char) : Except Stop (Expr × Cursor) :=
  outcome ((assignment limits (level limits limits.nesting) >>= ending) ⟨source, 0⟩)

end AccessRules.Expr.Backtracking
