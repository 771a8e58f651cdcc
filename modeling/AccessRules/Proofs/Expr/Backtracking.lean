import AccessRules.Proofs.Expr.Completeness
import AccessRules.Proofs.Expr.Trials

/-!
# Looking ahead reads what can be tried

The characters at which the reader that looks ahead decides tell whether a trial gets anywhere.
Where no operand can begin, a trial goes back before it has counted anything. Everywhere else it
ends for good, in the same place and with the same operations counted. So the operations that stay
counted when a trial goes back are none.
-/

namespace AccessRules.Expr.Backtracking

open Expr.Parser (Cursor Stop Reader)

variable {α β : Type}

/-! ### Levels -/

/-- How a reader that looks ahead and a trial end, and whether the reader sees that there is
something. If there is nothing, the trial goes back with nothing counted. -/
inductive Foretold (cursor : Cursor) (isOpen : Bool) :
    Except Stop (α × Cursor) → EStateM.Result Failure Cursor α → Prop where
  | something {result : Except Stop (α × Cursor)} {tried : EStateM.Result Failure Cursor α}
      (opened : isOpen = true) (settles : Settles Same result tried) :
      Foretold cursor isOpen result tried
  | nothing (unopened : isOpen = false) :
      Foretold cursor isOpen (Parser.unexpected (Text.skipBlanks cursor.rest))
        (.error .back cursor.skipBlanks)

namespace Foretold

variable {cursor : Cursor} {isOpen : Bool} {result : Except Stop (α × Cursor)}
  {tried : EStateM.Result Failure Cursor α}

theorem settles (foretold : Foretold cursor isOpen result tried) (opened : isOpen = true) :
    Settles Same result tried := by
  cases foretold with
  | something _ settles => exact settles
  | nothing unopened => cases opened.symm.trans unopened

theorem goesBack (foretold : Foretold cursor isOpen result tried) (unopened : isOpen = false) :
    tried = .error .back cursor.skipBlanks := by
  cases foretold with
  | something opened _ => cases opened.symm.trans unopened
  | nothing _ => rfl

theorem something_of_text {opens : List Char → Bool} {text : List Char}
    (stands : Text.skipBlanks cursor.rest = text) (opened : opens text = true)
    (settles : Settles Same result tried) :
    Foretold cursor (opens (Text.skipBlanks cursor.rest)) result tried :=
  .something ((congrArg opens stands).trans opened) settles

theorem nothing_of_text {opens : List Char → Bool} {text : List Char}
    (stands : Text.skipBlanks cursor.rest = text) (unopened : opens text = false) :
    @Foretold α cursor (opens (Text.skipBlanks cursor.rest)) (Parser.unexpected text)
      (.error .back cursor.skipBlanks) := by
  subst stands
  exact .nothing unopened

theorem outcome_eq (foretold : Foretold cursor isOpen result tried) : outcome tried = result := by
  cases foretold with
  | something _ settles => exact settles.outcome_eq
  | nothing _ => rfl

/-- What goes on behind an operand ends for good. -/
theorem bind {trial : Trial α} {place : Cursor}
    {next' : α × Cursor → Except Stop (β × Cursor)} {next : α → Trial β}
    (foretold : Foretold cursor isOpen result (trial place))
    (goesOn : ∀ value cursor, Settles Same (next' (value, cursor)) (next value cursor)) :
    Foretold cursor isOpen (result >>= next') ((trial >>= next) place) := by
  generalize tried : trial place = ended at foretold
  cases foretold with
  | something opened settles =>
      subst tried
      refine .something opened (.bind settles ?_)
      rintro _ value cursor' rfl
      exact goesOn value cursor'
  | nothing unopened =>
      rw [bind_of_error tried]
      exact .nothing unopened

end Foretold

/-- A reader sees from what stands next whether a trial gets anywhere. -/
def Foresees (opens : List Char → Bool) (reader : Reader α) (trial : Trial α) : Prop :=
  ∀ cursor, Foretold cursor (opens (Text.skipBlanks cursor.rest)) (reader cursor) (trial cursor)

section

variable {opens : List Char → Bool} {reader : Reader α} {trial : Trial α}

theorem Foresees.settles (foresees : Foresees opens reader trial) {cursor : Cursor}
    (opened : opens (Text.skipBlanks cursor.rest) = true) :
    Settles Same (reader cursor) (trial cursor) :=
  (foresees cursor).settles opened

/-- Where nothing begins, a trial goes back before it has counted anything. -/
theorem Foresees.goesBack (foresees : Foresees opens reader trial) {cursor : Cursor}
    (unopened : opens (Text.skipBlanks cursor.rest) = false) :
    trial cursor = .error .back cursor.skipBlanks :=
  (foresees cursor).goesBack unopened

/-- Blanks that are passed over first make no difference. -/
theorem Foresees.skipBlanks (foresees : Foresees opens reader trial) (cursor : Cursor) :
    Foretold cursor (opens (Text.skipBlanks cursor.rest)) (reader cursor.skipBlanks)
      (trial cursor.skipBlanks) := by
  have same := skipBlanks_skipBlanks cursor
  have foretold := foresees cursor.skipBlanks
  generalize reader cursor.skipBlanks = result, trial cursor.skipBlanks = tried at foretold
  cases foretold with
  | something opened settles =>
      exact .something_of_text (congrArg Cursor.rest same).symm opened settles
  | nothing unopened =>
      rw [same]
      exact .nothing_of_text (congrArg Cursor.rest same).symm unopened

/-- What may not be missing is read the same either way. -/
theorem Foresees.must (foresees : Foresees opens reader trial) (cursor : Cursor) :
    Settles Same (reader cursor) (must trial cursor) :=
  settles_must (foresees cursor).outcome_eq

end

/-- What can be read at a level can be tried there. -/
structure Level.Foresees (readers : Parser.Level) (trials : Level) : Prop where
  expression : Backtracking.Foresees Token.opensOperand readers.expression trials.assignment
  operand : Backtracking.Foresees Token.opensOperand readers.operand trials.unary

/-- There is a further level for both or for neither. -/
inductive Opens : Option Parser.Level → Option Level → Prop where
  | none : Opens none none
  | some {readers : Parser.Level} {trials : Level} (foresees : Level.Foresees readers trials) :
      Opens (some readers) (some trials)

/-- A level has been opened, and nothing else has happened. -/
def Entered (start : Cursor) (readers : Parser.Level) (trials : Level) (cursor : Cursor) : Prop :=
  cursor = start ∧ Level.Foresees readers trials

section

variable {limits : Limits} {inner : Option Parser.Level} {inner' : Option Level}

theorem settles_enter (opens : Opens inner inner') (cursor : Cursor) :
    Settles (Entered cursor) (Parser.enter inner cursor) (enter inner' cursor) := by
  cases opens with
  | none => exact .cut .nesting cursor
  | some foresees => exact .ok ⟨rfl, foresees⟩

/-! ### Lists -/

theorem steps_comma {readers : Parser.Level} {trials : Level}
    (foresees : Level.Foresees readers trials) (read : List Expr) (cursor : Cursor) :
    Steps cursor (Parser.commaStep readers read cursor)
      (commaStep trials.assignment read cursor) := by
  unfold Parser.commaStep commaStep
  split
  · rename_i rest stands
    rw [bind_of_ok (mark_of_cons stands)]
    split
    · rename_i opened
      refine .on (.bind (foresees.expression.settles opened) ?_)
      rintro _ item cursor' rfl
      exact .ok rfl
    · rename_i unopened
      rw [bind_of_error (foresees.expression.goesBack ((Bool.not_eq_true _).mp unopened))]
      exact .last _
  · rename_i other
    rw [bind_of_error (mark_of_ne other)]
    exact .last _

theorem settles_separated {readers : Parser.Level} {trials : Level}
    (foresees : Level.Foresees readers trials) (cursor : Cursor) :
    Settles Same (Parser.expressions readers cursor) (separated trials.assignment cursor) := by
  unfold Parser.expressions separated
  split
  · rename_i opened
    refine .bind (settles_opt (foresees.expression.settles opened)) ?_
    rintro ⟨first, _⟩ _ _ ⟨rfl, rfl⟩
    refine .bind (settles_repeatTrial (steps_comma foresees) [first] _) ?_
    rintro _ read cursor' rfl
    exact .ok rfl
  · rename_i unopened
    have goesBack := foresees.expression.goesBack ((Bool.not_eq_true _).mp unopened)
    rw [bind_of_ok (opt_of_back goesBack)]
    exact .ok rfl

/-! ### Operands -/

theorem settles_array (opens : Opens inner inner') {cursor : Cursor} {rest : List Char}
    (stands : cursor.rest = '[' :: rest) :
    Settles Same (Parser.array limits inner { cursor with rest := rest })
      (array limits inner' cursor) := by
  unfold Parser.array array
  rw [bind_of_ok (character_of_cons stands)]
  refine .bind (settles_enter opens _) ?_
  rintro readers trials _ ⟨rfl, foresees⟩
  refine .bind (settles_separated foresees _) ?_
  rintro _ items between rfl
  simp only
  split
  · rename_i rest stands
    rw [bind_of_ok (opt_of_ok (mark_of_cons stands))]
    exact settles_closing (fun _ => rfl) limits ']' _
  · rename_i other
    rw [bind_of_ok (opt_of_back (mark_of_ne other))]
    exact settles_closing (fun _ => rfl) limits ']' _

theorem settles_group (opens : Opens inner inner') {cursor : Cursor} {rest : List Char}
    (stands : cursor.rest = '(' :: rest) :
    Settles Same (Parser.group inner { cursor with rest := rest }) (group inner' cursor) := by
  unfold Parser.group group
  rw [bind_of_ok (character_of_cons stands)]
  cases opens with
  | none => exact .cut .nesting { cursor with rest := rest }
  | @some readers trials foresees =>
      show Settles Same (readers.expression _ >>= _) ((must trials.assignment >>= _) _)
      refine .bind (foresees.expression.must _) ?_
      rintro _ tree between rfl
      refine .bind (settles_expect ')' between) ?_
      rintro cursor' _ _ rfl
      exact .ok rfl

/-! ### Properties and calls -/

theorem steps_postfixStep (opens : Opens inner inner') (tree : Expr) (cursor : Cursor) :
    Steps cursor (Parser.postfixStep limits inner tree cursor)
      (postfixStep limits inner' tree cursor) := by
  unfold Parser.postfixStep postfixStep
  rw [bind_of_ok (blanks_eq cursor)]
  split
  · rename_i rest stands
    refine .on ?_
    rw [branch_of_ok (character_of_cons stands), bind_of_ok (blanks_eq _)]
    simp only
    split
    · rename_i unnamed
      rw [bind_of_error (by rw [must, token_of_none unnamed])]
      exact .cut .unexpected (Cursor.skipBlanks { cursor with rest := rest })
    · rename_i name behind named
      rw [bind_of_ok (by rw [must, token_of_some named])]
      exact settles_counted (fun _ => rfl) limits 1 _
  · rename_i rest stands
    refine .on ?_
    rw [branch_of_back (character_of_cons_ne stands (by decide)),
      branch_of_ok (character_of_cons stands)]
    refine .bind (settles_enter opens _) ?_
    rintro readers trials _ ⟨rfl, foresees⟩
    refine .bind (foresees.expression.must _) ?_
    rintro _ key between rfl
    exact settles_closing (fun _ => rfl) limits ']' between
  · rename_i rest stands
    refine .on ?_
    rw [branch_of_back (character_of_cons_ne stands (by decide)),
      branch_of_back (character_of_cons_ne stands (by decide)),
      branch_of_ok (character_of_cons stands)]
    refine .bind (settles_enter opens _) ?_
    rintro readers trials _ ⟨rfl, foresees⟩
    refine .bind (settles_separated foresees _) ?_
    rintro _ arguments between rfl
    exact settles_closing (fun _ => rfl) limits ')' between
  · rename_i noPoint noBracket noParenthesis
    rw [branch_of_back (character_of_ne noPoint), branch_of_back (character_of_ne noBracket),
      branch_of_back (character_of_ne noParenthesis)]
    exact .last _

/-! ### What an operand begins with -/

theorem number_of_none {cursor : Cursor} (scanned : Decimal.scanLiteral? cursor.rest = none) :
    number cursor = .error .back cursor :=
  bind_of_error (token_of_none scanned)

theorem settles_string {cursor : Cursor} {opening : Char} {rest : List Char}
    (stands : cursor.rest = opening :: rest) (isQuote : Token.isQuote opening = true) :
    Settles Same
      (match Token.stringTail opening [] rest with
        | .ok (text, rest) => .ok (.literal (.string text), { cursor with rest := rest })
        | .error left => Parser.unexpected left)
      (string cursor) := by
  have opened : quote cursor = .ok opening { cursor with rest := rest } := by
    apply token_of_some
    rw [stands]
    exact if_pos isQuote
  rw [string, bind_of_ok opened, stringTail]
  cases Token.stringTail opening [] rest with
  | ok read => exact .ok rfl
  | error left => exact .cut .unexpected { cursor with rest := left }

theorem string_of_other {cursor : Cursor}
    (other : ∀ first ∈ cursor.rest.head?, Token.isQuote first = false) :
    string cursor = .error .back cursor := by
  apply bind_of_error
  apply token_of_none
  split
  · rfl
  · rename_i first rest stands
    rw [stands] at other
    exact if_neg (Bool.eq_false_iff.mp (other first rfl))

theorem string_of_cons_ne {cursor : Cursor} {first : Char} {rest : List Char}
    (stands : cursor.rest = first :: rest) (isNoQuote : Token.isQuote first = false) :
    string cursor = .error .back cursor := by
  apply string_of_other
  rw [stands]
  rintro _ ⟨⟩
  exact isNoQuote

theorem array_of_other {cursor : Cursor}
    (other : character '[' cursor = .error .back cursor) :
    array limits inner' cursor = .error .back cursor :=
  bind_of_error other

theorem group_of_other {cursor : Cursor}
    (other : character '(' cursor = .error .back cursor) :
    group inner' cursor = .error .back cursor :=
  bind_of_error other

theorem word_of_none {cursor : Cursor} (unnamed : Token.identifier? cursor.rest = none) :
    word cursor = .error .back cursor :=
  bind_of_error (token_of_none unnamed)

/-- What is neither a number nor in brackets or quotes is a word, or nothing begins there. -/
theorem foretold_word {cursor : Cursor} {first : Char} {rest : List Char}
    (stands : Text.skipBlanks cursor.rest = first :: rest)
    (noNumber : Decimal.scanLiteral? (first :: rest) = none)
    (noArray : first ≠ '[') (noGroup : first ≠ '(') (noString : Token.isQuote first = false) :
    Foretold cursor (Lexeme.beginsPrimary (Text.skipBlanks cursor.rest))
      (match Token.identifier? (first :: rest) with
        | some (name, rest) => .ok (Token.word name, { cursor.skipBlanks with rest := rest })
        | none => Parser.unexpected (first :: rest))
      (word cursor.skipBlanks) := by
  split
  · rename_i name between identified
    have begins := Lexeme.beginsPrimary_of_longest (Lexeme.identifier?_iff.mp identified) rfl
    refine .something_of_text stands begins ?_
    rw [word, bind_of_ok (token_of_some ((congrArg _ stands).trans identified))]
    exact .ok rfl
  · rename_i unnamed
    rw [word_of_none ((congrArg _ stands).trans unnamed)]
    have nothing := Lexeme.not_beginsPrimary noNumber noArray noGroup noString unnamed
    exact .nothing_of_text stands nothing

theorem foresees_primary (opens : Opens inner inner') :
    Foresees Lexeme.beginsPrimary (Parser.primary limits inner) (primary limits inner') := by
  intro cursor
  unfold Parser.primary primary
  rw [bind_of_ok (blanks_eq cursor)]
  simp only
  split
  · rename_i numeral rest scanned
    have begins := Lexeme.beginsPrimary_of_longest (Lexeme.scanLiteral?_iff.mp scanned) rfl
    refine .something begins (.orElse ?_)
    rw [number, bind_of_ok (token_of_some scanned)]
    exact .ok rfl
  · rename_i noNumber
    rw [orElse_of_back (number_of_none noNumber)]
    split
    · rename_i stands
      have other (expected : Char) : character expected cursor.skipBlanks = .error .back _ :=
        character_of_ne fun rest same => by cases stands.symm.trans same
      rw [orElse_of_back (string_of_other (by rw [stands]; rintro _ ⟨⟩)),
        orElse_of_back (array_of_other (other '[')), orElse_of_back (group_of_other (other '(')),
        word_of_none (by rw [stands]; rfl)]
      exact .nothing_of_text stands rfl
    · rename_i rest stands
      rw [orElse_of_back (string_of_cons_ne stands rfl)]
      exact .something_of_text stands rfl (.orElse (settles_array opens stands))
    · rename_i rest stands
      rw [orElse_of_back (string_of_cons_ne stands rfl),
        orElse_of_back (array_of_other (character_of_cons_ne stands (by decide)))]
      exact .something_of_text stands rfl (.orElse (settles_group opens stands))
    · rename_i first rest noArray noGroup stands
      split
      · rename_i isQuote
        have begins := Lexeme.beginsPrimary_of_quote isQuote rest
        exact .something_of_text stands begins (.orElse (settles_string stands isQuote))
      · rename_i isNoQuote
        have noString := Bool.eq_false_iff.mpr isNoQuote
        rw [stands] at noNumber
        rw [orElse_of_back (string_of_cons_ne stands noString),
          orElse_of_back (array_of_other (character_of_cons_ne stands noArray)),
          orElse_of_back (group_of_other (character_of_cons_ne stands noGroup))]
        exact foretold_word stands noNumber noArray noGroup noString

theorem unaryOperator_eq (cursor : Cursor) :
    unaryOperator cursor =
      match cursor.rest.head?.bind Token.unaryOp? with
      | some op => .ok op { cursor with rest := cursor.rest.tail }
      | none => .error .back cursor := by
  cases stands : cursor.rest with
  | nil => exact token_of_none (stands ▸ rfl)
  | cons first rest =>
      rw [List.head?_cons, Option.bind_some, List.tail_cons]
      cases isOp : Token.unaryOp? first with
      | none =>
          apply token_of_none
          rw [stands]
          simp only [isOp, Option.map_none]
      | some op =>
          apply token_of_some
          rw [stands]
          simp only [isOp, Option.map_some]

theorem foresees_operand (opens : Opens inner inner') :
    Foresees Token.opensOperand (Parser.operand limits inner) (unary limits inner') := by
  intro cursor
  unfold Parser.operand unary
  rw [bind_of_ok (blanks_eq cursor)]
  simp only
  split
  · rename_i op isOp
    have reads := unaryOperator_eq cursor.skipBlanks
    rw [isOp] at reads
    refine .something (Lexeme.opensOperand_of_unaryOp? isOp) ?_
    rw [bind_of_ok (opt_of_ok reads)]
    refine .bind (settles_enter opens _) ?_
    rintro readers trials _ ⟨rfl, foresees⟩
    refine .bind (foresees.operand.must _) ?_
    rintro _ tree between rfl
    exact settles_counted (fun _ => rfl) limits 1 between
  · rename_i isNoOp
    have goesBack := unaryOperator_eq cursor.skipBlanks
    rw [isNoOp] at goesBack
    rw [bind_of_ok (opt_of_back goesBack)]
    have begins : Token.opensOperand (Text.skipBlanks cursor.rest) = _ :=
      Lexeme.opensOperand_eq_beginsPrimary isNoOp
    have foretold := (@foresees_primary limits inner inner' opens).skipBlanks cursor
    rw [← begins] at foretold
    refine foretold.bind fun tree between => ?_
    exact settles_repeatTrial (steps_postfixStep opens) tree between

/-! ### Operators -/

theorem steps_operator (tier : Token.Tier) {reader : Reader Expr} {trial : Trial Expr}
    (foresees : Foresees Token.opensOperand reader trial) (state : Expr × Nat) (cursor : Cursor) :
    Steps cursor (Parser.operatorStep tier reader state cursor)
      (operatorStep tier trial state cursor) := by
  unfold Parser.operatorStep operatorStep
  rw [bind_of_ok (blanks_eq cursor)]
  split
  · rename_i noOperator
    rw [bind_of_error (token_of_none noOperator)]
    exact .last _
  · rename_i op rest stands
    refine .on ?_
    rw [bind_of_ok (token_of_some stands)]
    refine .bind (foresees.must _) ?_
    rintro _ right cursor' rfl
    exact .ok rfl

theorem foresees_operation (opens : Opens inner inner') : ∀ tiers : List Token.Tier,
    Foresees Token.opensOperand (Parser.operation limits inner tiers) (binary limits inner' tiers)
  | [] => foresees_operand opens
  | tier :: tighter => by
      have below := foresees_operation opens tighter
      refine fun cursor => (below cursor).bind fun first cursor => ?_
      refine .bind (settles_repeatTrial (steps_operator tier below) (first, 0) cursor) ?_
      rintro _ ⟨tree, operators⟩ between rfl
      exact settles_counted (fun _ => rfl) limits operators between

theorem foresees_conditional (opens : Opens inner inner') :
    Foresees Token.opensOperand (Parser.conditional limits inner)
      (conditional limits inner') := by
  refine fun cursor => (foresees_operation opens Token.tiers cursor).bind fun test cursor => ?_
  simp only
  split
  · rename_i rest stands
    rw [branch_of_ok (mark_of_cons stands)]
    refine .bind (settles_enter opens _) ?_
    rintro readers trials _ ⟨rfl, foresees⟩
    rw [must_bind]
    refine .bind (foresees.expression.must _) ?_
    rintro _ consequent between rfl
    rw [must_bind]
    refine .bind (settles_expect ':' between) ?_
    rintro behind _ _ rfl
    rw [must_bind]
    refine .bind (foresees.expression.must _) ?_
    rintro _ alternate cursor' rfl
    exact settles_counted (fun _ => rfl) limits 1 cursor'
  · rename_i other
    rw [branch_of_back (mark_of_ne other)]
    exact .ok rfl

/-! ### Assignments -/

/-- Where no assignment begins, the trial of its target leaves what is counted as it is. -/
theorem target_of_none {cursor : Cursor} (noTarget : Token.assignment? cursor.rest = none) :
    ∃ rest, target cursor = .error .back { cursor with rest := rest } := by
  unfold Token.assignment? at noTarget
  unfold target
  split at noTarget
  · rename_i unnamed
    exact ⟨cursor.rest, bind_of_error (token_of_none unnamed)⟩
  · rename_i name rest named
    rw [bind_of_ok (token_of_some named)]
    split at noTarget
    · rename_i isLiteral
      rw [if_pos isLiteral]
      exact ⟨rest, rfl⟩
    · rename_i noLiteral
      rw [if_neg noLiteral]
      split at noTarget
      · rename_i further doubled
        rw [bind_of_ok (mark_of_cons doubled), bind_of_error (absent_of_cons rfl)]
        exact ⟨'=' :: further, rfl⟩
      · cases noTarget
      · rename_i notDoubled noEquals
        rw [bind_of_error (mark_of_ne noEquals)]
        exact ⟨Text.skipBlanks rest, rfl⟩

theorem target_of_some {cursor : Cursor} {name : String} {rest : List Char}
    (assigns : Token.assignment? cursor.rest = some (name, rest)) :
    target cursor = .ok name { cursor with rest := rest } := by
  unfold Token.assignment? at assigns
  unfold target
  split at assigns
  · cases assigns
  · rename_i named
    split at assigns
    · cases assigns
    · rename_i noLiteral
      rw [bind_of_ok (token_of_some named), if_neg noLiteral]
      split at assigns
      · cases assigns
      · rename_i notDoubled stands
        cases assigns
        rw [bind_of_ok (mark_of_cons stands), bind_of_ok (absent_of_ne notDoubled)]
        rfl
      · cases assigns

theorem foresees_expression (opens : Opens inner inner') :
    Foresees Token.opensOperand (Parser.expression limits inner) (assignment limits inner') := by
  intro cursor
  unfold Parser.expression assignment
  rw [bind_of_ok (blanks_eq cursor)]
  simp only
  split
  · rename_i name rest assigns
    rw [bind_of_ok (opt_of_ok (target_of_some assigns))]
    have begins : Token.opensOperand (Text.skipBlanks cursor.rest) = true := by
      obtain ⟨_, _, stands, _⟩ := Lexeme.assignment?_iff.mp assigns
      exact Lexeme.opensOperand_of_longest stands rfl
    refine .something begins ?_
    refine .bind (settles_enter opens _) ?_
    rintro readers trials _ ⟨rfl, foresees⟩
    refine .bind (foresees.expression.must _) ?_
    rintro _ value between rfl
    exact settles_counted (fun _ => rfl) limits 1 between
  · rename_i assignsNothing
    obtain ⟨rest, goesBack⟩ := target_of_none assignsNothing
    rw [bind_of_ok (opt_of_back goesBack)]
    exact (foresees_conditional opens).skipBlanks cursor

end

theorem opens_level (limits : Limits) :
    ∀ left, Opens (Parser.level limits left) (level limits left)
  | 0 => .none
  | left + 1 =>
      have below := opens_level limits left
      .some ⟨foresees_expression below, foresees_operand below⟩

/-- An expression that fails so that something else can be tried has passed over blanks and counted
nothing. -/
theorem eq_skipBlanks_of_back {limits : Limits} {left : Nat} {cursor stopped : Cursor}
    (goesBack : assignment limits (level limits left) cursor = .error .back stopped) :
    stopped = cursor.skipBlanks := by
  have foretold := @foresees_expression limits _ _ (opens_level limits left) cursor
  rw [goesBack] at foretold
  generalize Parser.expression limits (Parser.level limits left) cursor = result at foretold
  cases foretold with
  | something _ settles => cases settles
  | nothing _ => rfl

theorem operations_of_back {limits : Limits} {left : Nat} {cursor stopped : Cursor}
    (goesBack : assignment limits (level limits left) cursor = .error .back stopped) :
    stopped.operations = cursor.operations := by
  rw [eq_skipBlanks_of_back goesBack]
  rfl

/-- Nothing may follow. -/
theorem outcome_isEmpty (tree : Expr) (cursor : Cursor) :
    outcome ((get >>= fun place => if place.rest.isEmpty = true then pure tree
        else throw Failure.back : Trial Expr) cursor) =
      if cursor.rest.isEmpty then pure (tree, cursor) else Parser.unexpected cursor.rest := by
  rw [bind_of_ok (show (get : Trial Cursor) cursor = .ok cursor cursor from rfl)]
  split <;> rfl

theorem outcome_ending (tree : Expr) (cursor : Cursor) :
    outcome (ending tree cursor) = Parser.ending (tree, cursor) := by
  unfold ending Parser.ending
  rw [bind_of_ok (blanks_eq cursor)]
  simp only
  split
  · rename_i rest stands
    rw [bind_of_ok (opt_of_ok (character_of_cons stands)), bind_of_ok (blanks_eq _)]
    exact outcome_isEmpty tree _
  · rename_i noSemicolon
    have passes : blanks cursor.skipBlanks = .ok () cursor.skipBlanks :=
      congrArg (EStateM.Result.ok ()) (skipBlanks_skipBlanks cursor)
    rw [bind_of_ok (opt_of_back (character_of_ne noSemicolon)), bind_of_ok passes]
    exact outcome_isEmpty tree cursor.skipBlanks

/-- Under all limits, every source is read by looking ahead as it is read by trial: as the same tree
with the same operations counted, or up to the same place for the same reason. -/
theorem rule_eq (limits : Limits) (source : List Char) :
    rule limits source = Parser.rule limits source := by
  have foretold :=
    @foresees_expression limits _ _ (opens_level limits limits.nesting) ⟨source, 0⟩
  rw [rule, outcome_bind, foretold.outcome_eq, Parser.rule_eq]
  exact bind_congr fun read => outcome_ending read.1 read.2

end AccessRules.Expr.Backtracking
