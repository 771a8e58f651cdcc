import AccessRules.Expr.Backtracking
import AccessRules.Proofs.Expr.Lookahead

/-!
# What trials come to

How chains, choices and repetitions of trials end, told from how their parts end, and beside each of
them what a reader that looks ahead comes to at the same place.
-/

namespace AccessRules.Expr.Backtracking

open Expr.Parser (Cursor Stop)

variable {α β γ δ : Type}

/-! ### Chains of trials -/

theorem bind_of_ok {trial : Trial α} {next : α → Trial β} {cursor cursor' : Cursor} {value : α}
    (reads : trial cursor = .ok value cursor') :
    (trial >>= next) cursor = next value cursor' := by
  show EStateM.bind trial next cursor = _
  rw [EStateM.bind, reads]

theorem bind_of_error {trial : Trial α} {next : α → Trial β} {cursor stopped : Cursor}
    {failure : Failure} (fails : trial cursor = .error failure stopped) :
    (trial >>= next) cursor = .error failure stopped := by
  show EStateM.bind trial next cursor = _
  rw [EStateM.bind, fails]

theorem outcome_bind (trial : Trial α) (next : α → Trial β) (cursor : Cursor) :
    outcome ((trial >>= next) cursor) =
      outcome (trial cursor) >>= fun read => outcome (next read.1 read.2) := by
  cases tried : trial cursor with
  | ok value cursor' =>
      rw [bind_of_ok tried]
      rfl
  | error failure stopped =>
      rw [bind_of_error tried]
      cases failure <;> rfl

/-- A reader and a trial end for good: both where the second says, or both for the same reason. -/
inductive Settles (ends : γ → α → Cursor → Prop) :
    Except Stop γ → EStateM.Result Failure Cursor α → Prop where
  | ok {read : γ} {value : α} {cursor : Cursor} (isEnd : ends read value cursor) :
      Settles ends (.ok read) (.ok value cursor)
  | cut (fault : SyntaxFault) (stopped : Cursor) :
      Settles ends (.error ⟨fault, stopped.rest⟩) (.error (.cut fault) stopped)

/-- A reader and a trial read the same and end in the same place. -/
def Same (read : α × Cursor) (value : α) (cursor : Cursor) : Prop :=
  read = (value, cursor)

/-- A reader ends where a trial does. -/
def Passed (read : Cursor) (_ : α) (cursor : Cursor) : Prop :=
  read = cursor

theorem Settles.bind {ends : γ → α → Cursor → Prop} {ends' : δ → β → Cursor → Prop}
    {result : Except Stop γ} {trial : Trial α} {cursor : Cursor} {next' : γ → Except Stop δ}
    {next : α → Trial β} (settles : Settles ends result (trial cursor))
    (goesOn : ∀ read value cursor', ends read value cursor' →
      Settles ends' (next' read) (next value cursor')) :
    Settles ends' (result >>= next') ((trial >>= next) cursor) := by
  generalize tried : trial cursor = ended at settles
  cases settles with
  | ok isEnd =>
      rw [bind_of_ok tried]
      exact goesOn _ _ _ isEnd
  | cut fault stopped =>
      rw [bind_of_error tried]
      exact .cut fault stopped

theorem Settles.outcome_eq {result : Except Stop (α × Cursor)}
    {tried : EStateM.Result Failure Cursor α} (settles : Settles Same result tried) :
    outcome tried = result := by
  cases settles with
  | ok isEnd =>
      cases isEnd
      rfl
  | cut fault stopped => rfl

/-- What may not be missing ends for good. -/
theorem settles_must {result : Except Stop (α × Cursor)} {trial : Trial α} {cursor : Cursor}
    (comes : outcome (trial cursor) = result) : Settles Same result (must trial cursor) := by
  subst comes
  rw [must]
  cases trial cursor with
  | ok value cursor' => exact .ok rfl
  | error failure stopped =>
      cases failure with
      | back => exact .cut .unexpected stopped
      | cut fault => exact .cut fault stopped

/-- If a chain may not be missing, none of its parts may. -/
theorem must_bind (first : Trial α) (next : α → Trial β) (last : β → Trial δ) (cursor : Cursor) :
    (must (first >>= next) >>= last) cursor =
      (must first >>= fun value => must (next value) >>= last) cursor := by
  cases tried : first cursor with
  | ok value cursor' =>
      have here : must first cursor = .ok value cursor' := by rw [must, tried]
      have there : must (first >>= next) cursor = must (next value) cursor' := by
        rw [must, bind_of_ok tried, must]
      rw [bind_of_ok here]
      cases ended : must (next value) cursor' with
      | ok value' cursor'' => rw [bind_of_ok (there.trans ended), bind_of_ok ended]
      | error failure stopped => rw [bind_of_error (there.trans ended), bind_of_error ended]
  | error failure stopped =>
      cases failure <;>
        rw [bind_of_error (by rw [must, bind_of_error tried]), bind_of_error (by rw [must, tried])]

/-! ### What may be missing -/

theorem opt_of_back {trial : Trial α} {cursor stopped : Cursor}
    (goesBack : trial cursor = .error .back stopped) :
    opt trial cursor = .ok none { stopped with rest := cursor.rest } := by
  rw [opt, orElse, bind_of_error goesBack]
  rfl

theorem opt_of_ok {trial : Trial α} {cursor cursor' : Cursor} {value : α}
    (reads : trial cursor = .ok value cursor') : opt trial cursor = .ok (some value) cursor' := by
  rw [opt, orElse, bind_of_ok reads]
  rfl

theorem opt_of_cut {trial : Trial α} {cursor stopped : Cursor} {fault : SyntaxFault}
    (fails : trial cursor = .error (.cut fault) stopped) :
    opt trial cursor = .error (.cut fault) stopped := by
  rw [opt, orElse, bind_of_error fails]

theorem branch_of_ok {trial : Trial α} {yes no : Trial β} {cursor cursor' : Cursor} {value : α}
    (reads : trial cursor = .ok value cursor') :
    (opt trial >>= fun found => if found.isSome = true then yes else no) cursor = yes cursor' := by
  rw [bind_of_ok (opt_of_ok reads), Option.isSome_some, if_pos rfl]

theorem branch_of_back {trial : Trial α} {yes no : Trial β} {cursor stopped : Cursor}
    (goesBack : trial cursor = .error .back stopped) :
    (opt trial >>= fun found => if found.isSome = true then yes else no) cursor =
      no { stopped with rest := cursor.rest } := by
  rw [bind_of_ok (opt_of_back goesBack), Option.isSome_none, if_neg Bool.false_ne_true]

theorem orElse_of_back {trial other : Trial α} {cursor : Cursor}
    (goesBack : trial cursor = .error .back cursor) : orElse trial other cursor = other cursor := by
  rw [orElse, goesBack]

/-- What ends for good is not tried otherwise. -/
theorem Settles.orElse {ends : γ → α → Cursor → Prop} {result : Except Stop γ}
    {trial other : Trial α} {cursor : Cursor} (settles : Settles ends result (trial cursor)) :
    Settles ends result (orElse trial other cursor) := by
  rw [Backtracking.orElse]
  generalize trial cursor = tried at settles
  cases settles with
  | ok isEnd => exact .ok isEnd
  | cut fault stopped => exact .cut fault stopped

/-- What is there. -/
def Found (read : α × Cursor) (value : Option α) (cursor : Cursor) : Prop :=
  value = some read.1 ∧ cursor = read.2

theorem settles_opt {result : Except Stop (α × Cursor)} {trial : Trial α} {cursor : Cursor}
    (settles : Settles Same result (trial cursor)) : Settles Found result (opt trial cursor) := by
  generalize tried : trial cursor = ended at settles
  cases settles with
  | ok isEnd =>
      cases isEnd
      rw [opt_of_ok tried]
      exact .ok ⟨rfl, rfl⟩
  | cut fault stopped =>
      rw [opt_of_cut tried]
      exact .cut fault stopped

/-! ### Repetitions -/

/-- A step of a reader and a trial of it. Where there is no step, the trial goes back with nothing
counted. -/
inductive Steps (cursor : Cursor) :
    Except Stop (Option (α × Cursor)) → EStateM.Result Failure Cursor α → Prop where
  | on {result : Except Stop (Option (α × Cursor))} {tried : EStateM.Result Failure Cursor α}
      (settles : Settles (fun read value cursor' => read = some (value, cursor')) result tried) :
      Steps cursor result tried
  | last (rest : List Char) : Steps cursor (.ok none) (.error .back { cursor with rest := rest })

/-- If the steps agree, so do the repetitions. -/
theorem settles_repeatTrial {step' : α → Cursor → Except Stop (Option (α × Cursor))}
    {step : α → Trial α}
    (steps : ∀ state cursor, Steps cursor (step' state cursor) (step state cursor)) (state : α)
    (cursor : Cursor) :
    Settles Same (Parser.repeatSteps step' state cursor) (repeatTrial step state cursor) := by
  rw [Parser.repeatSteps, repeatTrial]
  have here := steps state cursor
  generalize step' state cursor = result, step state cursor = tried at here
  cases here with
  | last rest => exact .ok rfl
  | on settles =>
      cases settles with
      | cut fault stopped => exact .cut fault stopped
      | @ok _ state' cursor' isEnd =>
          subst isEnd
          simp only
          split
          · exact settles_repeatTrial steps state' cursor'
          · exact .ok rfl
termination_by cursor.rest.length

/-! ### Tokens -/

theorem token_of_some {scan : List Char → Option (α × List Char)} {cursor : Cursor} {value : α}
    {rest : List Char} (scanned : scan cursor.rest = some (value, rest)) :
    token scan cursor = .ok value { cursor with rest := rest } := by
  rw [token, scanned]

theorem token_of_none {scan : List Char → Option (α × List Char)} {cursor : Cursor}
    (scanned : scan cursor.rest = none) : token scan cursor = .error .back cursor := by
  rw [token, scanned]

theorem character_of_cons {expected : Char} {cursor : Cursor} {rest : List Char}
    (stands : cursor.rest = expected :: rest) :
    character expected cursor = .ok () { cursor with rest := rest } := by
  apply token_of_some
  rw [stands]
  exact if_pos rfl

theorem character_of_ne {expected : Char} {cursor : Cursor}
    (other : ∀ rest, cursor.rest ≠ expected :: rest) :
    character expected cursor = .error .back cursor := by
  apply token_of_none
  split
  · rfl
  · rename_i first rest stands
    refine if_neg ?_
    rintro rfl
    exact other rest stands

theorem character_of_cons_ne {expected first : Char} {cursor : Cursor} {rest : List Char}
    (stands : cursor.rest = first :: rest) (differs : first ≠ expected) :
    character expected cursor = .error .back cursor := by
  apply character_of_ne
  intro rest' same
  cases stands.symm.trans same
  exact differs rfl

theorem absent_of_cons {expected : Char} {cursor : Cursor} {rest : List Char}
    (stands : cursor.rest = expected :: rest) :
    absent (character expected) cursor = .error .back cursor := by
  rw [absent, character_of_cons stands]

theorem absent_of_ne {expected : Char} {cursor : Cursor}
    (other : ∀ rest, cursor.rest ≠ expected :: rest) :
    absent (character expected) cursor = .ok () cursor := by
  rw [absent, character_of_ne other]

theorem blanks_eq (cursor : Cursor) : blanks cursor = .ok () cursor.skipBlanks :=
  rfl

theorem skipBlanks_skipBlanks (cursor : Cursor) :
    cursor.skipBlanks.skipBlanks = cursor.skipBlanks :=
  congrArg (Cursor.mk · cursor.operations) (Lexeme.skipBlanks_skipBlanks cursor.rest)

theorem mark_of_cons {expected : Char} {cursor : Cursor} {rest : List Char}
    (stands : Text.skipBlanks cursor.rest = expected :: rest) :
    mark expected cursor = .ok () { cursor with rest := rest } :=
  @character_of_cons expected cursor.skipBlanks rest stands

theorem mark_of_ne {expected : Char} {cursor : Cursor}
    (other : ∀ rest, Text.skipBlanks cursor.rest ≠ expected :: rest) :
    mark expected cursor = .error .back cursor.skipBlanks :=
  @character_of_ne expected cursor.skipBlanks other

/-- A mark that has to come next. -/
theorem settles_expect (expected : Char) (cursor : Cursor) :
    Settles Passed (Parser.expect expected cursor) (must (mark expected) cursor) := by
  rw [must, Parser.expect]
  split
  · rename_i stands
    have other : ∀ rest, Text.skipBlanks cursor.rest ≠ expected :: rest := by
      rw [stands]
      exact fun rest => (List.cons_ne_nil _ _).symm
    rw [mark_of_ne other, ← stands]
    exact .cut .unexpected cursor.skipBlanks
  · rename_i first rest stands
    split
    · rename_i same
      rw [mark_of_cons (same ▸ stands)]
      exact .ok rfl
    · rename_i differs
      have other : ∀ rest, Text.skipBlanks cursor.rest ≠ expected :: rest := by
        intro rest' same
        cases stands.symm.trans same
        exact differs rfl
      rw [mark_of_ne other, ← stands]
      exact .cut .unexpected cursor.skipBlanks

theorem settles_count (limits : Limits) (more : Nat) (cursor : Cursor) :
    Settles Passed (Parser.count limits more cursor) (count limits more cursor) := by
  rw [Parser.count, count]
  simp only
  split
  · exact .ok rfl
  · exact .cut .operations { cursor with operations := cursor.operations + more }

/-- Operations are counted, and that is all. -/
theorem settles_counted {ends : γ → α → Cursor → Prop} {read : Cursor → γ} {value : α}
    (isEnd : ∀ cursor, ends (read cursor) value cursor) (limits : Limits) (more : Nat)
    (cursor : Cursor) :
    Settles ends (Parser.count limits more cursor >>= fun cursor => pure (read cursor))
      ((count limits more >>= fun _ => pure value) cursor) := by
  refine .bind (settles_count limits more cursor) ?_
  rintro cursor' _ _ rfl
  exact .ok (isEnd cursor')

/-- A bracket is closed and one operation counted, and that is all. -/
theorem settles_closing {ends : γ → α → Cursor → Prop} {read : Cursor → γ} {value : α}
    (isEnd : ∀ cursor, ends (read cursor) value cursor) (limits : Limits) (closing : Char)
    (cursor : Cursor) :
    Settles ends
      (Parser.expect closing cursor >>= fun cursor =>
        Parser.count limits 1 cursor >>= fun cursor => pure (read cursor))
      ((must (mark closing) >>= fun _ => count limits 1 >>= fun _ => pure value) cursor) := by
  refine .bind (settles_expect closing cursor) ?_
  rintro cursor' _ _ rfl
  exact settles_counted isEnd limits 1 cursor'

end AccessRules.Expr.Backtracking
