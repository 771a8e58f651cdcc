import AccessRules.Code.Evaluate
import AccessRules.Proofs.Success

/-!
# Runs and loaded records

A run that ends with nothing needed has read loaded records only. In a context with further records
it goes the same way, step by step, so what it comes to is final.
-/

namespace AccessRules

namespace Context

/-- `larger` is `context` with further records: what is loaded stays loaded as it is. -/
structure Extends (larger context : Context) : Prop where
  same : larger = { context with records := larger.records }
  records : ∀ {name : String} {data : Value},
    context.records name = some data → larger.records name = some data

theorem Extends.builtin {larger context : Context} (further : larger.Extends context)
    (read : Builtin) : larger.builtin read = context.builtin read := by
  rw [further.same]
  cases read <;> rfl

theorem Extends.pathVariable {larger context : Context} (further : larger.Extends context)
    (position : Nat) : larger.pathVariable position = context.pathVariable position := by
  rw [further.same]
  rfl

/-- Loading a record with the value it has in the larger context leads no further than that one. -/
theorem Extends.insertRecord {larger context : Context} (further : larger.Extends context)
    {name : String} {data : Value} (loaded : larger.records name = some data) :
    larger.Extends (context.insertRecord name data) := by
  refine ⟨further.same, ?_⟩
  intro other found known
  by_cases same : other = name
  · simp only [Context.insertRecord, same, if_true] at known
    rw [same, loaded, known]
  · simp only [Context.insertRecord, same, if_false] at known
    exact further.records known

end Context

namespace Step

variable {α β : Type}

/-- Where `first` ends with nothing needed it began so, and `second` does the same as `first`. -/
def Settles (first second : Step α) : Prop :=
  ∀ run, (first.run.run run).2.needed = [] →
    run.needed = [] ∧ second.run.run run = first.run.run run

namespace Settles

/-- A step that notes nothing settles itself. -/
theorem of_keeps {step : Step α}
    (keeps : ∀ run, (step.run.run run).2.needed = run.needed) : Settles step step := by
  intro run nothing
  exact ⟨(keeps run).symm.trans nothing, rfl⟩

theorem pure (value : α) : Settles (pure value) (pure value) :=
  of_keeps fun _ => rfl

theorem throw (error : EvalError) : Settles (throw error : Step α) (throw error) :=
  of_keeps fun _ => rfl

theorem ofExcept (result : Except EvalError α) :
    Settles (Step.ofExcept result) (Step.ofExcept result) :=
  of_keeps fun _ => rfl

theorem readSlot (index : Nat) : Settles (Step.readSlot index) (Step.readSlot index) :=
  of_keeps fun _ => rfl

theorem writeSlot (index : Nat) (value : Value) :
    Settles (Step.writeSlot index value) (Step.writeSlot index value) :=
  of_keeps fun _ => rfl

/-- What is noted stays noted, so a sequence that ends with nothing needed has parts that do. -/
theorem bind {first second : Step α} {next next' : α → Step β} (steps : Settles first second)
    (nexts : ∀ value, Settles (next value) (next' value)) :
    Settles (first >>= next) (second >>= next') := by
  intro run nothing
  obtain ⟨result, after, ran⟩ : ∃ result after, first.run.run run = (result, after) := ⟨_, _, rfl⟩
  have start := steps run
  rw [run_bind] at nothing
  rw [run_bind, run_bind]
  simp only [ran] at nothing start ⊢
  cases result with
  | error error =>
      obtain ⟨began, same⟩ := start nothing
      simp only [same]
      exact ⟨began, trivial⟩
  | ok value =>
      obtain ⟨between, ends⟩ := nexts value after nothing
      obtain ⟨began, same⟩ := start between
      simp only [same]
      exact ⟨began, ends⟩

theorem ite {condition : Bool} {first second first' second' : Step α}
    (holds : Settles first first') (fails : Settles second second') :
    Settles (if condition then first else second) (if condition then first' else second') := by
  cases condition with
  | true => exact holds
  | false => exact fails

end Settles

/-- Noting a name leaves something needed. -/
theorem needed_need (name : String) (run : Run) : ((need name).run.run run).2.needed ≠ [] := by
  change (if run.needed.contains name then run
    else { run with needed := run.needed ++ [name] }).needed ≠ []
  split
  · rename_i noted
    intro nothing
    rw [nothing] at noted
    simp at noted
  · simp

/-- A cross reference that needs nothing has found its record. -/
theorem crossReference_settles {larger context : Context} (further : larger.Extends context)
    (argument : Value) :
    Settles (crossReference context argument) (crossReference larger argument) := by
  cases argument with
  | string name =>
      simp only [crossReference]
      cases held : Text.includes placeholder.toList name.toList with
      | true => exact Settles.pure _
      | false =>
          simp only [Bool.false_eq_true, if_false]
          cases known : context.records name with
          | some data =>
              rw [further.records known]
              exact Settles.pure data
          | none =>
              intro run nothing
              exact absurd nothing (needed_need name run)
  | undefined => exact Settles.pure _
  | null | bool | number | array | object => exact Settles.throw _

end Step

namespace Code

/-- The operators that evaluate both operands. -/
theorem evaluate_binary (context : Context) {op : BinaryOp} (noAnd : op ≠ .and) (noOr : op ≠ .or)
    (left right : Code) :
    evaluate context (.binary op left right) = do
      let left ← evaluate context left
      let right ← evaluate context right
      return Value.applyBinary op left right := by
  cases op <;> simp_all [evaluate]

mutual

/-- A run that ends with nothing needed goes the same way with further records loaded. -/
theorem evaluate_settles {larger context : Context} (further : larger.Extends context) :
    ∀ code : Code, Step.Settles (evaluate context code) (evaluate larger code)
  | .literal value => by
      simp only [evaluate]
      exact .pure value
  | .array items => by
      simp only [evaluate]
      exact .bind (evaluateAll_settles further items) fun _ => .pure _
  | .builtin read => by
      simp only [evaluate, further.builtin]
      exact .pure _
  | .pathVariable position => by
      simp only [evaluate, further.pathVariable]
      exact .pure _
  | .slot place => by
      simp only [evaluate]
      exact .readSlot place
  | .member object name => by
      simp only [evaluate]
      exact .bind (evaluate_settles further object) fun _ => .ofExcept _
  | .index object key => by
      simp only [evaluate]
      exact .bind (evaluate_settles further object) fun _ =>
        .bind (evaluate_settles further key) fun _ => .ofExcept _
  | .crossReference argument => by
      simp only [evaluate]
      exact .bind (evaluate_settles further argument) fun _ =>
        Step.crossReference_settles further _
  | .method receiver called arguments => by
      simp only [evaluate]
      exact .bind (evaluate_settles further receiver) fun _ =>
        .bind (evaluateAll_settles further arguments) fun _ => .ofExcept _
  | .unary op operand => by
      simp only [evaluate]
      exact .bind (evaluate_settles further operand) fun _ => .pure _
  | .binary op left right => by
      have leftSettles := evaluate_settles further left
      have rightSettles := evaluate_settles further right
      by_cases isAnd : op = .and
      · subst isAnd
        simp only [evaluate]
        exact .bind leftSettles fun _ => .ite rightSettles (.pure _)
      by_cases isOr : op = .or
      · subst isOr
        simp only [evaluate]
        exact .bind leftSettles fun _ => .ite (.pure _) rightSettles
      rw [evaluate_binary _ isAnd isOr, evaluate_binary _ isAnd isOr]
      exact .bind leftSettles fun _ => .bind rightSettles fun _ => .pure _
  | .conditional test consequent alternate => by
      simp only [evaluate]
      exact .bind (evaluate_settles further test) fun _ =>
        .ite (evaluate_settles further consequent) (evaluate_settles further alternate)
  | .assign place value => by
      simp only [evaluate]
      exact .bind (evaluate_settles further value) fun _ =>
        .bind (.writeSlot place _) fun _ => .pure _

/-- The same for several codes, run one after the other. -/
theorem evaluateAll_settles {larger context : Context} (further : larger.Extends context) :
    ∀ codes : List Code, Step.Settles (evaluateAll context codes) (evaluateAll larger codes)
  | [] => by
      simp only [evaluateAll]
      exact .pure _
  | first :: rest => by
      simp only [evaluateAll]
      exact .bind (evaluate_settles further first) fun _ =>
        .bind (evaluateAll_settles further rest) fun _ => .pure _

end

end Code

namespace CompiledRule

/-- Once a run of a rule needs no records, loading further ones does not change what it comes to. -/
theorem run_eq_of_extends {larger context : Context} (further : larger.Extends context)
    (rule : CompiledRule) (final : ∀ names, rule.run context ≠ .needs names) :
    rule.run larger = rule.run context := by
  cases predicate : rule.predicate with
  | constant allowed => simp only [run, predicate]
  | code code =>
      obtain ⟨result, after, ran⟩ : ∃ result after, (code.evaluate context).run.run
          ⟨List.replicate rule.slots .undefined, []⟩ = (result, after) := ⟨_, _, rfl⟩
      have settled := Code.evaluate_settles further code ⟨List.replicate rule.slots .undefined, []⟩
      simp only [run, predicate, ran] at final settled ⊢
      cases needed : after.needed with
      | nil => simp only [(settled needed).2, needed]
      | cons name names => simp [needed] at final

end CompiledRule

end AccessRules
