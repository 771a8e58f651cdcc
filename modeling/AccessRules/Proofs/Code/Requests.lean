import AccessRules.Proofs.Code.ByName
import AccessRules.Proofs.Code.Rounds

/-!
# What a run asks for

A run that is watched keeps every name that was passed to a cross reference, loaded or not, as often
as it was passed. It goes as the run that is not watched does. So what a rule needs are the names
without a record among them, each where it was first asked for, and a run that lacks none of them
comes to something final.
-/

namespace AccessRules

/-! ### Names without a record -/

/-- Characters are included where they stand in one piece. -/
theorem Text.includes_iff_infix {sought text : List Char} :
    Text.includes sought text = true ↔ sought <:+: text := by
  induction text with
  | nil => rw [includes, List.isEmpty_iff, List.infix_nil]
  | cons first rest inductionHypothesis =>
      rw [includes, Bool.or_eq_true, inductionHypothesis, List.infix_cons_iff, startsWith,
        List.isPrefixOf_iff_prefix]

/-- Of every element only the first one is kept. -/
theorem nodup_eraseDups : ∀ names : List String, names.eraseDups.Nodup
  | [] => List.nodup_nil
  | first :: rest => by
      rw [List.eraseDups_cons, List.nodup_cons, List.mem_eraseDups]
      exact ⟨by simp, nodup_eraseDups (rest.filter fun name => !name == first)⟩
termination_by names => names.length
decreasing_by exact Nat.lt_succ_of_le (List.length_filter_le _ _)

/-- One more element is kept if it is new. -/
theorem eraseDups_concat (names : List String) (name : String) :
    (names ++ [name]).eraseDups =
      if name ∈ names then names.eraseDups else names.eraseDups ++ [name] := by
  have alone : [name].eraseDups = [name] := rfl
  rw [List.eraseDups_append]
  split <;> rename_i among <;> simp [List.removeAll, among, alone]

namespace Context

/-- Whether a name lacks its record: it is not put together from a missing value, and nothing is
loaded under it. -/
def lacks (context : Context) (name : String) : Bool :=
  !Text.includes Step.placeholder.toList name.toList && (context.records name).isNone

theorem lacks_eq_true_iff {context : Context} {name : String} :
    context.lacks name = true ↔
      ¬ Step.placeholder.toList <:+: name.toList ∧ context.records name = none := by
  rw [lacks, Bool.and_eq_true, Option.isNone_iff_eq_none, Bool.not_eq_true', ← Bool.not_eq_true,
    Text.includes_iff_infix]

/-- The context with further records loaded, one after the other. -/
def insertRecords (context : Context) (records : List (String × Value)) : Context :=
  records.foldl (fun context record => context.insertRecord record.1 record.2) context

theorem loads_insertRecords : ∀ (records : List (String × Value)) (context : Context),
    Loads (records.map Prod.fst) context (context.insertRecords records)
  | [], context => .nil context
  | record :: records, _ => .cons record.2 (loads_insertRecords records _)

/-- Records under names that had none lead to a larger context. -/
theorem extends_insertRecords {context : Context} {records : List (String × Value)}
    (missing : ∀ record ∈ records, context.records record.1 = none) :
    (context.insertRecords records).Extends context :=
  (loads_insertRecords records context).extends_of_missing (List.forall_mem_map.mpr missing)

end Context

/-! ### Runs that are watched -/

/-- The state of a run that is watched: its slots, and every name that was passed to a cross
reference so far, in order and as often as it was passed. -/
structure WatchedRun where
  slots : List Value
  asked : List String

/-- A step of a run that is watched. -/
abbrev WatchedStep (α : Type) := ExceptT EvalError (StateM WatchedRun) α

namespace WatchedStep

/-- The step that is this result. -/
def ofExcept {α : Type} (result : Except EvalError α) : WatchedStep α :=
  ExceptT.mk (pure result)

/-- What a slot reads as. -/
def readSlot (index : Nat) : WatchedStep Value := do
  return ((← get).slots[index]?).getD .undefined

/-- Puts a value into a slot. -/
def writeSlot (index : Nat) (value : Value) : WatchedStep Unit :=
  modify fun run => { run with slots := run.slots.set index value }

/-- Keeps a name that is asked for. -/
def ask (name : String) : WatchedStep Unit :=
  modify fun run => { run with asked := run.asked ++ [name] }

/-- What is found under a name: nothing under one that is put together from a missing value. -/
def found (context : Context) (name : String) : Value :=
  if Text.includes Step.placeholder.toList name.toList then .undefined
  else (context.records name).getD .undefined

/-- The record an argument names, which is asked for by every string. -/
def record (context : Context) : Value → WatchedStep Value
  | .string name => do
      ask name
      return found context name
  | .undefined => pure .undefined
  | .null => throw (.crossReferenceType "object")
  | other => throw (.crossReferenceType other.typeName)

end WatchedStep

namespace Code

mutual

/-- Runs code and watches what it asks for. -/
def watch (context : Context) : Code → WatchedStep Value
  | .literal value => pure value
  | .array items => do return .array (← watchAll context items)
  | .builtin read => pure (context.builtin read)
  | .pathVariable position => pure (context.pathVariable position)
  | .slot place => WatchedStep.readSlot place
  | .member object name => do
      let target ← watch context object
      WatchedStep.ofExcept (target.property name)
  | .index object key => do
      let target ← watch context object
      let key ← watch context key
      WatchedStep.ofExcept (target.property key.toText)
  | .crossReference argument => do
      let argument ← watch context argument
      WatchedStep.record context argument
  | .method receiver called arguments => do
      let receiver ← watch context receiver
      let arguments ← watchAll context arguments
      WatchedStep.ofExcept (receiver.callMethod called (arguments.head?.getD .undefined))
  | .unary op operand => do return Value.applyUnary op (← watch context operand)
  | .binary op left right => do
      let left ← watch context left
      if left.decidesAlone op then return left
      else do
        let right ← watch context right
        return Value.applyBinary op left right
  | .conditional test consequent alternate => do
      let test ← watch context test
      if test.truthy then watch context consequent else watch context alternate
  | .assign place value => do
      let value ← watch context value
      WatchedStep.writeSlot place value
      return value

/-- Runs several codes, one after the other. -/
def watchAll (context : Context) : List Code → WatchedStep (List Value)
  | [] => pure []
  | first :: rest => do
      let first ← watch context first
      return first :: (← watchAll context rest)

end

end Code

/-- The run without a watcher: it needs the names that lack their record, each where it was first
asked for. -/
def WatchedRun.unwatched (context : Context) (run : WatchedRun) : Run :=
  ⟨run.slots, (run.asked.filter context.lacks).eraseDups⟩

/-- A step goes as the one that is watched does. -/
def Step.WatchedBy {α : Type} (context : Context) (step : Step α) (watched : WatchedStep α) :
    Prop :=
  ∀ run : WatchedRun, step.run.run (run.unwatched context) =
    ((watched.run.run run).1, (watched.run.run run).2.unwatched context)

namespace Step.WatchedBy

variable {α β : Type} {context : Context}

theorem pure (value : α) : WatchedBy context (Pure.pure value) (Pure.pure value) :=
  fun _ => rfl

theorem throw (error : EvalError) :
    WatchedBy context (MonadExcept.throw error : Step α) (MonadExcept.throw error) :=
  fun _ => rfl

theorem ofExcept (result : Except EvalError α) :
    WatchedBy context (Step.ofExcept result) (WatchedStep.ofExcept result) :=
  fun _ => rfl

theorem readSlot (index : Nat) :
    WatchedBy context (Step.readSlot index) (WatchedStep.readSlot index) :=
  fun _ => rfl

theorem writeSlot (index : Nat) (value : Value) :
    WatchedBy context (Step.writeSlot index value) (WatchedStep.writeSlot index value) :=
  fun _ => rfl

theorem bind {step : Step α} {watched : WatchedStep α} {next : α → Step β}
    {next' : α → WatchedStep β} (first : WatchedBy context step watched)
    (second : ∀ value, WatchedBy context (next value) (next' value)) :
    WatchedBy context (step >>= next) (watched >>= next') := by
  intro run
  obtain ⟨result, after, ran⟩ : ∃ result after, watched.run.run run = (result, after) :=
    ⟨_, _, rfl⟩
  rw [run_bind, run_bind, first run, ran]
  cases result with
  | ok value => exact second value after
  | error error => rfl

theorem ite {condition : Bool} {first second : Step α} {first' second' : WatchedStep α}
    (holds : WatchedBy context first first') (fails : WatchedBy context second second') :
    WatchedBy context (if condition then first else second)
      (if condition then first' else second') := by
  cases condition with
  | true => exact holds
  | false => exact fails

/-- A name that does not lack its record leaves nothing behind. -/
theorem unwatched_ask_of_not_lacks {name : String} (known : context.lacks name = false)
    (run : WatchedRun) :
    WatchedRun.unwatched context { run with asked := run.asked ++ [name] }
      = run.unwatched context := by
  simp [WatchedRun.unwatched, List.filter_append, known]

/-- A name that lacks its record is needed from where it was first asked for. -/
theorem unwatched_ask_of_lacks {name : String} (lacks : context.lacks name = true)
    (run : WatchedRun) :
    WatchedRun.unwatched context { run with asked := run.asked ++ [name] }
      = ((need name).run.run (run.unwatched context)).2 := by
  have noted : ((need name).run.run (run.unwatched context)).2
      = if (run.unwatched context).needed.contains name then run.unwatched context
        else { run.unwatched context with
          needed := (run.unwatched context).needed ++ [name] } := rfl
  rw [noted]
  simp only [WatchedRun.unwatched, List.filter_append, List.filter_cons_of_pos lacks,
    List.filter_nil, eraseDups_concat, List.contains_iff_mem, List.mem_eraseDups]
  split <;> rfl

/-- A cross reference asks by every string, and notes the name if its record is not there. -/
theorem crossReference (argument : Value) :
    WatchedBy context (Step.crossReference context argument)
      (WatchedStep.record context argument) := by
  cases argument with
  | string name =>
      intro run
      have watched : (WatchedStep.record context (.string name)).run.run run
          = (.ok (WatchedStep.found context name), { run with asked := run.asked ++ [name] }) := rfl
      rw [watched]
      simp only [Step.crossReference, WatchedStep.found]
      cases held : Text.includes placeholder.toList name.toList with
      | true =>
          rw [unwatched_ask_of_not_lacks (by rw [Context.lacks, held]; rfl)]
          rfl
      | false =>
          simp only [Bool.false_eq_true, if_false]
          cases known : context.records name with
          | some data =>
              rw [unwatched_ask_of_not_lacks (by rw [Context.lacks, known, Bool.and_comm]; rfl)]
              rfl
          | none =>
              rw [unwatched_ask_of_lacks (by rw [Context.lacks, held, known]; rfl)]
              rfl
  | undefined => exact .pure _
  | null | bool | number | array | object => exact .throw _

end Step.WatchedBy

namespace Code

mutual

/-- Watching a run does not change how it goes. -/
theorem evaluate_watchedBy (context : Context) :
    ∀ code : Code, Step.WatchedBy context (evaluate context code) (watch context code)
  | .literal value => by
      simp only [evaluate, watch]
      exact .pure value
  | .array items => by
      simp only [evaluate, watch]
      exact .bind (evaluateAll_watchedBy context items) fun _ => .pure _
  | .builtin read => by
      simp only [evaluate, watch]
      exact .pure _
  | .pathVariable position => by
      simp only [evaluate, watch]
      exact .pure _
  | .slot place => by
      simp only [evaluate, watch]
      exact .readSlot place
  | .member object name => by
      simp only [evaluate, watch]
      exact .bind (evaluate_watchedBy context object) fun _ => .ofExcept _
  | .index object key => by
      simp only [evaluate, watch]
      exact .bind (evaluate_watchedBy context object) fun _ =>
        .bind (evaluate_watchedBy context key) fun _ => .ofExcept _
  | .crossReference argument => by
      simp only [evaluate, watch]
      exact .bind (evaluate_watchedBy context argument) fun _ => .crossReference _
  | .method receiver called arguments => by
      simp only [evaluate, watch]
      exact .bind (evaluate_watchedBy context receiver) fun _ =>
        .bind (evaluateAll_watchedBy context arguments) fun _ => .ofExcept _
  | .unary op operand => by
      simp only [evaluate, watch]
      exact .bind (evaluate_watchedBy context operand) fun _ => .pure _
  | .binary op left right => by
      rw [evaluate_binary_eq]
      simp only [watch]
      exact .bind (evaluate_watchedBy context left) fun _ => .ite (.pure _) <|
        .bind (evaluate_watchedBy context right) fun _ => .pure _
  | .conditional test consequent alternate => by
      simp only [evaluate, watch]
      exact .bind (evaluate_watchedBy context test) fun _ =>
        .ite (evaluate_watchedBy context consequent) (evaluate_watchedBy context alternate)
  | .assign place value => by
      simp only [evaluate, watch]
      exact .bind (evaluate_watchedBy context value) fun _ =>
        .bind (.writeSlot place _) fun _ => .pure _

/-- The same for several codes, run one after the other. -/
theorem evaluateAll_watchedBy (context : Context) :
    ∀ codes : List Code, Step.WatchedBy context (evaluateAll context codes) (watchAll context codes)
  | [] => by
      simp only [evaluateAll, watchAll]
      exact .pure _
  | first :: rest => by
      simp only [evaluateAll, watchAll]
      exact .bind (evaluate_watchedBy context first) fun _ =>
        .bind (evaluateAll_watchedBy context rest) fun _ => .pure _

end

end Code

/-! ### What a rule asks for -/

namespace CompiledRule

/-- Every name that one run of a rule passes to a cross reference, in order and as often as it is
passed. A constant rule is not run. -/
def asked (rule : CompiledRule) (context : Context) : List String :=
  match rule.predicate with
  | .constant _ => []
  | .code code =>
      ((code.watch context).run.run ⟨List.replicate rule.slots .undefined, []⟩).2.asked

/-- What a rule needs is what it asks for and lacks, each name where it was first asked for. -/
theorem neededNames_run (rule : CompiledRule) (context : Context) :
    (rule.run context).neededNames = ((rule.asked context).filter context.lacks).eraseDups := by
  cases isCode : rule.predicate with
  | constant allowed =>
      rw [run, asked, isCode]
      rfl
  | code code =>
      obtain ⟨result, after, ran⟩ : ∃ result after, (code.watch context).run.run
          ⟨List.replicate rule.slots .undefined, []⟩ = (result, after) := ⟨_, _, rfl⟩
      have unwatched := code.evaluate_watchedBy context ⟨List.replicate rule.slots .undefined, []⟩
      have start : WatchedRun.unwatched context ⟨List.replicate rule.slots .undefined, []⟩
          = ⟨List.replicate rule.slots .undefined, []⟩ := rfl
      rw [start, ran] at unwatched
      rw [run_eq_ofEnd isCode, unwatched, asked, isCode]
      simp only [ran, WatchedRun.unwatched]
      cases lacking : ((after.asked.filter context.lacks).eraseDups) with
      | nil => cases result <;> rfl
      | cons name names => rfl

section

variable {rule : CompiledRule} {context : Context} {names : List String}

theorem eq_of_run_needs (needs : rule.run context = .needs names) :
    names = ((rule.asked context).filter context.lacks).eraseDups := by
  have needed := rule.neededNames_run context
  rw [needs] at needed
  exact needed

theorem nodup_of_run_needs (needs : rule.run context = .needs names) : names.Nodup := by
  rw [eq_of_run_needs needs]
  exact nodup_eraseDups _

/-- What is needed has been asked for and lacks its record. -/
theorem lacks_of_run_needs (needs : rule.run context = .needs names) {name : String}
    (among : name ∈ names) : name ∈ rule.asked context ∧ context.lacks name = true := by
  rw [eq_of_run_needs needs, List.mem_eraseDups, List.mem_filter] at among
  exact among

end

/-- A run of a rule comes to something final, or tells what to load. -/
structure FinalOrNeeds (rule : CompiledRule) (context : Context) : Prop where
  /-- A value stays the same whatever further records are loaded. -/
  done : ∀ value, rule.run context = .done value →
    ∀ records : List (String × Value), (∀ record ∈ records, context.records record.1 = none) →
      rule.run (context.insertRecords records) = .done value
  /-- An error stays the same, too. -/
  failed : ∀ error, rule.run context = .failed error →
    ∀ records : List (String × Value), (∀ record ∈ records, context.records record.1 = none) →
      rule.run (context.insertRecords records) = .failed error
  /-- Otherwise something is needed, nothing twice. -/
  needed : ∀ names, rule.run context = .needs names → names ≠ [] ∧ names.Nodup
  /-- What is needed is not loaded, and is not put together from a missing value. -/
  missing : ∀ names, rule.run context = .needs names → ∀ name ∈ names,
    context.records name = none ∧ ¬ "undefined".toList <:+: name.toList
  /-- The names stand in the order in which the run first asked for them. -/
  order : ∀ names, rule.run context = .needs names →
    names = ((rule.asked context).filter context.lacks).eraseDups

/-- For every rule and every context, what a run comes to is final or tells what to load. -/
theorem run_finalOrNeeds (rule : CompiledRule) (context : Context) :
    rule.FinalOrNeeds context := by
  refine ⟨?done, ?failed, ?needed, ?missing, fun _ => eq_of_run_needs⟩
  case done =>
    intro value final records missing
    rw [← final]
    exact rule.run_eq_of_extends (Context.extends_insertRecords missing) (by simp [final])
  case failed =>
    intro error final records missing
    rw [← final]
    exact rule.run_eq_of_extends (Context.extends_insertRecords missing) (by simp [final])
  case needed =>
    intro names needs
    obtain ⟨_, _, nonempty, _⟩ := exists_of_run_needs needs
    exact ⟨nonempty, nodup_of_run_needs needs⟩
  case missing =>
    intro names needs name among
    exact (Context.lacks_eq_true_iff.mp (lacks_of_run_needs needs among).2).symm

end CompiledRule

end AccessRules
