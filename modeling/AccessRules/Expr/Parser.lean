import AccessRules.Expr.Token

/-!
# Reading rule expressions

From the loosest to the tightest: assignment, conditional, the six tiers of binary operators, the
operators with one operand, properties and calls, and what they apply to. Reading never goes back
over a token: the next characters decide what comes. A rule ends with one semicolon or none.

Two limits keep every tree small. Brackets, operands and the like may be open only so many levels
deep, and a tree may hold only so many operations.
-/

namespace AccessRules.Expr

/-- How much a source may ask for. -/
structure Limits where
  /-- The levels that may be open at once. -/
  nesting : Nat
  /-- The operations a tree may hold. -/
  operations : Nat
deriving DecidableEq, Repr

/-- The limits of every rule. -/
def standardLimits : Limits := ⟨64, 512⟩

/-- Why a source is no expression. -/
inductive SyntaxFault where
  | unexpected
  | nesting
  | operations
deriving DecidableEq, Repr

namespace Parser

/-- A place in the source: what is left of it, and the operations counted so far. -/
structure Cursor where
  rest : List Char
  operations : Nat
deriving DecidableEq, Repr

/-- The place behind the blanks. -/
def Cursor.skipBlanks (cursor : Cursor) : Cursor :=
  { cursor with rest := Text.skipBlanks cursor.rest }

/-- Where reading stopped, and why. -/
structure Stop where
  fault : SyntaxFault
  rest : List Char
deriving DecidableEq, Repr

/-- A reader moves a cursor over what it reads, or stops. -/
abbrev Reader (α : Type) := Cursor → Except Stop (α × Cursor)

/-- Stops at a place where something else should stand. -/
def unexpected {α : Type} (rest : List Char) : Except Stop α :=
  .error ⟨.unexpected, rest⟩

/-- Counts further operations. -/
def count (limits : Limits) (more : Nat) (cursor : Cursor) : Except Stop Cursor :=
  let counted := { cursor with operations := cursor.operations + more }
  if counted.operations ≤ limits.operations then .ok counted
  else .error ⟨.operations, cursor.rest⟩

/-- Passes over a character that has to come next, blanks aside. -/
def expect (character : Char) (cursor : Cursor) : Except Stop Cursor :=
  match Text.skipBlanks cursor.rest with
  | [] => unexpected []
  | first :: rest =>
      if first = character then .ok { cursor with rest := rest } else unexpected (first :: rest)

/-- What can be read one level further in. -/
structure Level where
  expression : Reader Expr
  operand : Reader Expr

/-- Opens a further level, if one is left. -/
def enter (inner : Option Level) (cursor : Cursor) : Except Stop Level :=
  match inner with
  | some level => .ok level
  | none => .error ⟨.nesting, cursor.rest⟩

/-- Repeats a step for as long as there is one. A step that passes over nothing is the last. -/
def repeatSteps {α : Type} (step : α → Cursor → Except Stop (Option (α × Cursor))) (state : α)
    (cursor : Cursor) : Except Stop (α × Cursor) :=
  match step state cursor with
  | .error stop => .error stop
  | .ok none => .ok (state, cursor)
  | .ok (some (state', cursor')) =>
      if cursor'.rest.length < cursor.rest.length then repeatSteps step state' cursor'
      else .ok (state', cursor')
termination_by cursor.rest.length

/-! ## Lists -/

/-- A comma and a further expression. A comma with no expression behind it is left alone. -/
def commaStep (level : Level) (read : List Expr) (cursor : Cursor) :
    Except Stop (Option (List Expr × Cursor)) :=
  match Text.skipBlanks cursor.rest with
  | ',' :: rest =>
      if Token.opensOperand (Text.skipBlanks rest) then do
        let (item, cursor) ← level.expression { cursor with rest := rest }
        pure (some (item :: read, cursor))
      else pure none
  | _ => pure none

/-- Expressions with commas between them, or none. -/
def expressions (level : Level) (cursor : Cursor) : Except Stop (List Expr × Cursor) :=
  if Token.opensOperand (Text.skipBlanks cursor.rest) then do
    let (first, cursor) ← level.expression cursor
    let (read, cursor) ← repeatSteps (commaStep level) [first] cursor
    pure (read.reverse, cursor)
  else pure ([], cursor)

/-! ## Operands -/

/-- An array, its opening bracket already passed: expressions with commas between them, one comma
more or not, and the closing bracket. -/
def array (limits : Limits) (inner : Option Level) (cursor : Cursor) :
    Except Stop (Expr × Cursor) := do
  let level ← enter inner cursor
  let (items, cursor) ← expressions level cursor
  let cursor := match Text.skipBlanks cursor.rest with
    | ',' :: rest => { cursor with rest := rest }
    | _ => cursor
  let cursor ← expect ']' cursor
  let cursor ← count limits 1 cursor
  pure (.array items, cursor)

/-- An expression in parentheses, the opening one already passed. -/
def group (inner : Option Level) (cursor : Cursor) : Except Stop (Expr × Cursor) := do
  let level ← enter inner cursor
  let (expression, cursor) ← level.expression cursor
  let cursor ← expect ')' cursor
  pure (expression, cursor)

/-- What properties and calls apply to: a number, a string, an array, an expression in parentheses
or a word. -/
def primary (limits : Limits) (inner : Option Level) (cursor : Cursor) :
    Except Stop (Expr × Cursor) :=
  let cursor := cursor.skipBlanks
  match Decimal.scanLiteral? cursor.rest with
  | some (numeral, rest) =>
      .ok (.literal (.number numeral.toFloat), { cursor with rest := rest })
  | none =>
      match cursor.rest with
      | [] => unexpected []
      | '[' :: rest => array limits inner { cursor with rest := rest }
      | '(' :: rest => group inner { cursor with rest := rest }
      | first :: rest =>
          if Token.isQuote first then
            match Token.stringTail first [] rest with
            | .ok (text, rest) => .ok (.literal (.string text), { cursor with rest := rest })
            | .error left => unexpected left
          else
            match Token.identifier? (first :: rest) with
            | some (name, rest) => .ok (Token.word name, { cursor with rest := rest })
            | none => unexpected (first :: rest)

/-- One property or call behind an expression. -/
def postfixStep (limits : Limits) (inner : Option Level) (expression : Expr) (cursor : Cursor) :
    Except Stop (Option (Expr × Cursor)) :=
  match Text.skipBlanks cursor.rest with
  | '.' :: rest =>
      let rest := Text.skipBlanks rest
      match Token.identifier? rest with
      | none => unexpected rest
      | some (name, rest) => do
          let cursor ← count limits 1 { cursor with rest := rest }
          pure (some (.member expression name, cursor))
  | '[' :: rest => do
      let cursor : Cursor := { cursor with rest := rest }
      let level ← enter inner cursor
      let (key, cursor) ← level.expression cursor
      let cursor ← expect ']' cursor
      let cursor ← count limits 1 cursor
      pure (some (.index expression key, cursor))
  | '(' :: rest => do
      let cursor : Cursor := { cursor with rest := rest }
      let level ← enter inner cursor
      let (arguments, cursor) ← expressions level cursor
      let cursor ← expect ')' cursor
      let cursor ← count limits 1 cursor
      pure (some (.call expression arguments, cursor))
  | _ => pure none

/-- An operand: an operator with one operand and its own operand one level further in, or something
with its properties and calls. -/
def operand (limits : Limits) (inner : Option Level) (cursor : Cursor) :
    Except Stop (Expr × Cursor) :=
  let cursor := cursor.skipBlanks
  match cursor.rest.head?.bind Token.unaryOp? with
  | some op => do
      let cursor : Cursor := { cursor with rest := cursor.rest.tail }
      let level ← enter inner cursor
      let (expression, cursor) ← level.operand cursor
      let cursor ← count limits 1 cursor
      pure (.unary op expression, cursor)
  | none => do
      let (expression, cursor) ← primary limits inner cursor
      repeatSteps (postfixStep limits inner) expression cursor

/-! ## Operators -/

/-- One operator of a tier and the operand behind it, with the operators of the tier so far. -/
def operatorStep (tier : Token.Tier) (tighter : Reader Expr) (state : Expr × Nat)
    (cursor : Cursor) : Except Stop (Option ((Expr × Nat) × Cursor)) :=
  match Token.operator? tier (Text.skipBlanks cursor.rest) with
  | none => pure none
  | some (op, rest) => do
      let (right, cursor) ← tighter { cursor with rest := rest }
      pure (some ((.binary op state.1 right, state.2 + 1), cursor))

/-- Operands of the tighter tiers with operators of the first tier between them, grouped from the
left. The operators of one tier are counted together, behind the last operand. -/
def operation (limits : Limits) (inner : Option Level) : List Token.Tier → Reader Expr
  | [] => operand limits inner
  | tier :: tighter => fun cursor => do
      let (first, cursor) ← operation limits inner tighter cursor
      let ((expression, operators), cursor) ←
        repeatSteps (operatorStep tier (operation limits inner tighter)) (first, 0) cursor
      let cursor ← count limits operators cursor
      pure (expression, cursor)

/-- An operation, or a test with its two outcomes. -/
def conditional (limits : Limits) (inner : Option Level) (cursor : Cursor) :
    Except Stop (Expr × Cursor) := do
  let (test, cursor) ← operation limits inner Token.tiers cursor
  match Text.skipBlanks cursor.rest with
  | '?' :: rest =>
      let cursor : Cursor := { cursor with rest := rest }
      let level ← enter inner cursor
      let (consequent, cursor) ← level.expression cursor
      let cursor ← expect ':' cursor
      let (alternate, cursor) ← level.expression cursor
      let cursor ← count limits 1 cursor
      pure (.conditional test consequent alternate, cursor)
  | _ => pure (test, cursor)

/-- An expression: an assignment or a conditional. -/
def expression (limits : Limits) (inner : Option Level) (cursor : Cursor) :
    Except Stop (Expr × Cursor) :=
  let cursor := cursor.skipBlanks
  match Token.assignment? cursor.rest with
  | some (target, rest) => do
      let cursor : Cursor := { cursor with rest := rest }
      let level ← enter inner cursor
      let (value, cursor) ← level.expression cursor
      let cursor ← count limits 1 cursor
      pure (.assign target value, cursor)
  | none => conditional limits inner cursor

/-- What can be read with so many levels left, the level itself among them. -/
def level (limits : Limits) : Nat → Option Level
  | 0 => none
  | left + 1 =>
      some ⟨expression limits (level limits left), operand limits (level limits left)⟩

/-- A whole rule: one expression, a semicolon or not, and nothing else. -/
def rule (limits : Limits) (source : List Char) : Except Stop (Expr × Cursor) := do
  let (tree, cursor) ← expression limits (level limits limits.nesting) ⟨source, 0⟩
  let rest := match Text.skipBlanks cursor.rest with
    | ';' :: rest => Text.skipBlanks rest
    | rest => rest
  if rest.isEmpty then pure (tree, { cursor with rest := rest }) else unexpected rest

end Parser

/-- A source that is no expression: what is wrong, the limits it was read under, what was left of it
where reading stopped, and how many bytes stand before that place. -/
structure SyntaxError where
  fault : SyntaxFault
  limits : Limits
  rest : List Char
  offset : Nat
deriving DecidableEq, Repr

namespace SyntaxError

/-- What is wrong. -/
def detail (error : SyntaxError) : String :=
  match error.fault with
  | .nesting => s!"Expression nested more than {error.limits.nesting} levels deep"
  | .operations => s!"Expression has more than {error.limits.operations} operations"
  | .unexpected =>
      match error.rest with
      | [] => "Unexpected end of input"
      | character :: _ => "Unexpected token '" ++ String.singleton character ++ "'"

/-- The message. -/
def message (error : SyntaxError) : String :=
  "SyntaxError: " ++ error.detail

end SyntaxError

/-- The bytes a text takes up. -/
def byteLength (text : List Char) : Nat :=
  text.foldr (fun character length => character.utf8Size + length) 0

/-- The expression a source is within the given limits. -/
def parseWithin (limits : Limits) (source : String) : Except SyntaxError Expr :=
  match Parser.rule limits source.toList with
  | .ok (tree, _) => .ok tree
  | .error stop =>
      .error ⟨stop.fault, limits, stop.rest, byteLength source.toList - byteLength stop.rest⟩

/-- The expression a source is. -/
def parse (source : String) : Except SyntaxError Expr :=
  parseWithin standardLimits source

end AccessRules.Expr
