import AccessRules.Proofs.Code.Lowering
import AccessRules.Proofs.Code.Records

/-!
# How often a rule is run

While a rule needs records they are loaded and it is run again. What a run did before it lacked its
first record is final, and with every round that front of the run passes at least one more cross
reference. So a rule comes to an end after as many rounds as it has cross references at most,
whatever the records are, and also if the store would answer a name differently later.
-/

namespace AccessRules

namespace Code

mutual

/-- The number of cross references in code. -/
def crossReferences : Code → Nat
  | .literal _ => 0
  | .array items => allCrossReferences items
  | .builtin _ => 0
  | .pathVariable _ => 0
  | .slot _ => 0
  | .member object _ => object.crossReferences
  | .index object key => object.crossReferences + key.crossReferences
  | .crossReference argument => argument.crossReferences + 1
  | .method receiver _ arguments => receiver.crossReferences + allCrossReferences arguments
  | .unary _ operand => operand.crossReferences
  | .binary _ left right => left.crossReferences + right.crossReferences
  | .conditional test consequent alternate =>
      test.crossReferences + (consequent.crossReferences + alternate.crossReferences)
  | .assign _ value => value.crossReferences

/-- The cross references of several codes together. -/
def allCrossReferences : List Code → Nat
  | [] => 0
  | first :: rest => first.crossReferences + allCrossReferences rest

end

end Code

namespace CompiledRule

/-- The number of cross references in a rule. -/
def crossReferences (rule : CompiledRule) : Nat :=
  match rule.predicate with
  | .constant _ => 0
  | .code code => code.crossReferences

end CompiledRule

/-- The names of the records that are needed. -/
def Outcome.neededNames : Outcome → List String
  | .done _ => []
  | .needs names => names
  | .failed _ => []

/-! ### Loading what is needed -/

namespace Context

theorem Extends.refl (context : Context) : context.Extends context :=
  ⟨rfl, fun known => known⟩

theorem Extends.trans {largest larger context : Context} (further : largest.Extends larger)
    (first : larger.Extends context) : largest.Extends context := by
  refine ⟨?_, fun known => further.records (first.records known)⟩
  rw [further.same, first.same]

/-- A record has been loaded under each of these names, whatever it holds. -/
inductive Loads : List String → Context → Context → Prop where
  | nil (context : Context) : Loads [] context context
  | cons {name : String} {names : List String} {context after : Context} (data : Value)
      (rest : Loads names (context.insertRecord name data) after) :
      Loads (name :: names) context after

namespace Loads

variable {names : List String} {context after : Context}

theorem foldl (values : String → Value) : ∀ (names : List String) (context : Context),
    Loads names context
      (names.foldl (fun context name => context.insertRecord name (values name)) context)
  | [], context => .nil context
  | name :: names, _ => .cons (values name) (foldl values names _)

theorem same (loads : Loads names context after) :
    after = { context with records := after.records } := by
  induction loads with
  | nil context => rfl
  | cons data rest inductionHypothesis => exact inductionHypothesis

theorem elsewhere (loads : Loads names context after) {other : String} (notAmong : other ∉ names) :
    after.records other = context.records other := by
  induction loads with
  | nil context => rfl
  | cons data rest inductionHypothesis =>
      rw [List.mem_cons, not_or] at notAmong
      rw [inductionHypothesis notAmong.2, insertRecord]
      exact if_neg notAmong.1

theorem loaded (loads : Loads names context after) {name : String} (among : name ∈ names) :
    ∃ data, after.records name = some data := by
  induction loads with
  | nil context => cases among
  | @cons first names context after data rest inductionHypothesis =>
      by_cases later : name ∈ names
      · exact inductionHypothesis later
      · have isFirst : name = first := (List.mem_cons.mp among).resolve_right later
        refine ⟨data, ?_⟩
        rw [rest.elsewhere later, insertRecord]
        exact if_pos isFirst

/-- If none of them was loaded before, nothing is loaded in another's place. -/
theorem extends_of_missing (loads : Loads names context after)
    (missing : ∀ name ∈ names, context.records name = none) : after.Extends context := by
  refine ⟨loads.same, ?_⟩
  intro name data known
  by_cases among : name ∈ names
  · rw [missing name among] at known
    cases known
  · rw [loads.elsewhere among, known]

end Loads

end Context

/-! ### Steps in more and more records -/

namespace Step

variable {α β : Type}

/-- A step adds to what is needed only names that are not loaded. -/
def NotesMissing (context : Context) (step : Step α) : Prop :=
  ∀ run, ∃ names, (step.run.run run).2.needed = run.needed ++ names
    ∧ ∀ name ∈ names, context.records name = none

namespace NotesMissing

/-- What is noted adds up. -/
theorem bind {context : Context} {first : Step α} {next : α → Step β}
    (starts : NotesMissing context first) (goesOn : ∀ value, NotesMissing context (next value)) :
    NotesMissing context (first >>= next) := by
  intro run
  obtain ⟨result, after, ran⟩ : ∃ result after, first.run.run run = (result, after) := ⟨_, _, rfl⟩
  obtain ⟨names, noted, missing⟩ := starts run
  rw [run_bind]
  rw [ran] at noted ⊢
  cases result with
  | error error => exact ⟨names, noted, missing⟩
  | ok value =>
      obtain ⟨names', noted', missing'⟩ := goesOn value after
      refine ⟨names ++ names', ?_, List.forall_mem_append.mpr ⟨missing, missing'⟩⟩
      rw [noted', noted, List.append_assoc]

end NotesMissing

/-- A cross reference notes nothing, or the name of a record that is not loaded. -/
theorem crossReference_notes (context : Context) (argument : Value) :
    (∀ run, ((crossReference context argument).run.run run).2 = run)
      ∨ ∃ name, argument = .string name ∧ context.records name = none
        ∧ ∀ run, ((crossReference context argument).run.run run).2
            = ((need name).run.run run).2 := by
  cases argument with
  | string name =>
      simp only [crossReference]
      cases Text.includes placeholder.toList name.toList with
      | true => exact .inl fun _ => rfl
      | false =>
          simp only [Bool.false_eq_true, if_false]
          cases missing : context.records name with
          | some data => exact .inl fun _ => rfl
          | none => exact .inr ⟨name, rfl, missing, fun _ => rfl⟩
  | undefined | null | bool | number | array | object => exact .inl fun _ => rfl

/-- A name is noted once. -/
theorem exists_needed_need (name : String) (run : Run) :
    name ∈ ((need name).run.run run).2.needed
      ∧ ∃ names, ((need name).run.run run).2.needed = run.needed ++ names
        ∧ ∀ other ∈ names, other = name := by
  have noted : ((need name).run.run run).2 = if run.needed.contains name then run
    else { run with needed := run.needed ++ [name] } := rfl
  rw [noted]
  split
  · next already => exact ⟨List.contains_iff_mem.mp already, [], by simp, by simp⟩
  · exact ⟨by simp, [name], rfl, by simp⟩

theorem NotesMissing.crossReference (context : Context) (argument : Value) :
    NotesMissing context (crossReference context argument) := by
  intro run
  rcases crossReference_notes context argument with keeps | ⟨name, _, missing, notes⟩
  · exact ⟨[], by rw [keeps, List.append_nil], by simp⟩
  · obtain ⟨_, names, noted, only⟩ := exists_needed_need name run
    refine ⟨names, by rw [notes, noted], ?_⟩
    intro other among
    rw [only other among, missing]

/-- What the first part needs stays needed. -/
theorem mem_needed_bind {context : Context} {first : Step α} {next : α → Step β}
    (goesOn : ∀ value, NotesMissing context (next value)) {run : Run} {name : String}
    (needed : name ∈ (first.run.run run).2.needed) :
    name ∈ ((first >>= next).run.run run).2.needed := by
  obtain ⟨result, after, ran⟩ : ∃ result after, first.run.run run = (result, after) := ⟨_, _, rfl⟩
  rw [run_bind]
  rw [ran] at needed ⊢
  cases result with
  | error error => exact needed
  | ok value =>
      obtain ⟨names, noted, _⟩ := goesOn value after
      simp only [noted]
      exact List.mem_append_left _ needed

/-- In each of so many rounds, what the step needs when it starts here is loaded for the next. -/
structure Supplied (step : Context → Step α) (start : Run) (contexts : Nat → Context)
    (count : Nat) : Prop where
  grows : ∀ round < count, (contexts (round + 1)).Extends (contexts round)
  loaded : ∀ round < count, ∀ name ∈ ((step (contexts round)).run.run start).2.needed,
    ∃ data, (contexts (round + 1)).records name = some data

theorem Supplied.extends_start {step : Context → Step α} {start : Run} {contexts : Nat → Context}
    {count : Nat} (supplied : Supplied step start contexts count) {round : Nat} :
    ∀ {more : Nat}, round + more ≤ count → (contexts (round + more)).Extends (contexts round)
  | 0, _ => .refl _
  | _ + 1, within =>
      (supplied.grows _ within).trans (supplied.extends_start (Nat.le_of_succ_le within))

/-- A step that may read records. If it ends with nothing needed it does the same with further
records, it notes missing ones only, and if all that it needs is loaded round by round it ends with
nothing needed after so many rounds at most. -/
structure Progresses (count : Nat) (step : Context → Step α) : Prop where
  settles : ∀ {larger context : Context}, larger.Extends context →
    Settles (step context) (step larger)
  notes : ∀ context, NotesMissing context (step context)
  ends : ∀ start contexts, start.needed = [] → Supplied step start contexts count →
    ∃ round ≤ count, ((step (contexts round)).run.run start).2.needed = []

namespace Progresses

/-- A step that notes nothing and reads no records is at its end at once. -/
theorem of_keeps {step : Context → Step α}
    (same : ∀ {larger context : Context}, larger.Extends context → step larger = step context)
    (keeps : ∀ context run, ((step context).run.run run).2.needed = run.needed) :
    Progresses 0 step where
  settles further := by
    rw [same further]
    exact .of_keeps (keeps _)
  notes context run := ⟨[], by rw [keeps, List.append_nil], by simp⟩
  ends start contexts nothing _ := ⟨0, Nat.le_refl 0, by rw [keeps, nothing]⟩

theorem pure (value : α) : Progresses 0 fun _ => (Pure.pure value : Step α) :=
  of_keeps (fun _ => rfl) fun _ _ => rfl

theorem ofExcept (result : Except EvalError α) : Progresses 0 fun _ => Step.ofExcept result :=
  of_keeps (fun _ => rfl) fun _ _ => rfl

theorem readSlot (index : Nat) : Progresses 0 fun _ => Step.readSlot index :=
  of_keeps (fun _ => rfl) fun _ _ => rfl

theorem writeSlot (index : Nat) (value : Value) :
    Progresses 0 fun _ => Step.writeSlot index value :=
  of_keeps (fun _ => rfl) fun _ _ => rfl

/-- More rounds do no harm. -/
theorem mono {step : Context → Step α} {count more : Nat} (progresses : Progresses count step)
    (atMost : count ≤ more) : Progresses more step where
  settles := progresses.settles
  notes := progresses.notes
  ends start contexts nothing supplied := by
    obtain ⟨round, within, ended⟩ := progresses.ends start contexts nothing
      ⟨fun round early => supplied.grows round (Nat.lt_of_lt_of_le early atMost),
        fun round early => supplied.loaded round (Nat.lt_of_lt_of_le early atMost)⟩
    exact ⟨round, Nat.le_trans within atMost, ended⟩

theorem ite {first second : Context → Step α} {count count' : Nat} {condition : Bool}
    (holds : Progresses count first) (fails : Progresses count' second) :
    Progresses (count + count') fun context =>
      if condition then first context else second context := by
  cases condition with
  | true => exact holds.mono (Nat.le_add_right _ _)
  | false => exact fails.mono (Nat.le_add_left _ _)

/-- Once the first part has ended with nothing needed it stays so, and from then on the second part
progresses. -/
theorem bind {first : Context → Step α} {next : Context → α → Step β} {count count' : Nat}
    (starts : Progresses count first)
    (goesOn : ∀ value, Progresses count' fun context => next context value) :
    Progresses (count + count') fun context => first context >>= next context where
  settles further := .bind (starts.settles further) fun value => (goesOn value).settles further
  notes context := (starts.notes context).bind fun value => (goesOn value).notes context
  ends start contexts nothing supplied := by
    have suppliedFirst : Supplied first start contexts count := by
      refine ⟨fun round early => supplied.grows round (by omega), ?_⟩
      intro round early name needed
      exact supplied.loaded round (by omega) name (mem_needed_bind
        (fun value => (goesOn value).notes _) needed)
    obtain ⟨round, within, ended⟩ := starts.ends start contexts nothing suppliedFirst
    obtain ⟨result, after, ran⟩ : ∃ result after,
        (first (contexts round)).run.run start = (result, after) := ⟨_, _, rfl⟩
    rw [ran] at ended
    -- From this round on the first part is done with.
    have stays {more : Nat} (early : round + more ≤ count + count') :
        (first (contexts (round + more))).run.run start = (result, after) := by
      rw [← ran]
      exact (starts.settles (supplied.extends_start early) start (by rw [ran, ended])).2
    cases result with
    | error error =>
        refine ⟨round, by omega, ?_⟩
        rw [run_bind, ran]
        exact ended
    | ok value =>
        have onward {more : Nat} (early : round + more ≤ count + count') :
            (first (contexts (round + more)) >>= next (contexts (round + more))).run.run start
              = (next (contexts (round + more)) value).run.run after := by
          rw [run_bind, stays early]
        have suppliedNext : Supplied (fun context => next context value) after
            (fun more => contexts (round + more)) count' := by
          refine ⟨fun more early => supplied.grows (round + more) (by omega), ?_⟩
          intro more early name needed
          refine supplied.loaded (round + more) (by omega) name ?_
          rw [onward (by omega)]
          exact needed
        obtain ⟨more, within', ended'⟩ := (goesOn value).ends after _ ended suppliedNext
        refine ⟨round + more, by omega, ?_⟩
        rw [onward (by omega)]
        exact ended'

/-- A cross reference to a record is at its end once that is loaded. -/
theorem crossReference (argument : Value) :
    Progresses 1 fun context => Step.crossReference context argument where
  settles further := crossReference_settles further argument
  notes context := .crossReference context argument
  ends start contexts nothing supplied := by
    rcases crossReference_notes (contexts 0) argument with keeps | ⟨name, isName, _, notes⟩
    · exact ⟨0, Nat.zero_le 1, by rw [keeps, nothing]⟩
    · have needed := (exists_needed_need name start).1
      rw [← notes] at needed
      obtain ⟨data, loaded⟩ := supplied.loaded 0 Nat.one_pos name needed
      refine ⟨1, Nat.le_refl 1, ?_⟩
      rcases crossReference_notes (contexts 1) argument with keeps | ⟨name', isName', missing, _⟩
      · rw [keeps, nothing]
      · rw [isName] at isName'
        cases isName'
        rw [loaded] at missing
        cases missing

end Progresses

end Step

namespace Code

mutual

/-- Code ends after as many rounds as it has cross references at most. -/
theorem evaluate_progresses :
    ∀ code : Code, Step.Progresses code.crossReferences fun context => evaluate context code
  | .literal value => by
      simp only [evaluate, crossReferences]
      exact .pure value
  | .array items => by
      simp only [evaluate, crossReferences]
      exact .bind (evaluateAll_progresses items) fun _ => .pure _
  | .builtin read => by
      simp only [evaluate, crossReferences]
      exact .of_keeps (fun further => by rw [further.builtin]) fun _ _ => rfl
  | .pathVariable position => by
      simp only [evaluate, crossReferences]
      exact .of_keeps (fun further => by rw [further.pathVariable]) fun _ _ => rfl
  | .slot place => by
      simp only [evaluate, crossReferences]
      exact .readSlot place
  | .member object name => by
      simp only [evaluate, crossReferences]
      exact .bind (evaluate_progresses object) fun _ => .ofExcept _
  | .index object key => by
      simp only [evaluate, crossReferences]
      exact .bind (evaluate_progresses object) fun _ =>
        .bind (evaluate_progresses key) fun _ => .ofExcept _
  | .crossReference argument => by
      simp only [evaluate, crossReferences]
      exact .bind (evaluate_progresses argument) fun _ => .crossReference _
  | .method receiver called arguments => by
      simp only [evaluate, crossReferences]
      exact .bind (evaluate_progresses receiver) fun _ =>
        .bind (evaluateAll_progresses arguments) fun _ => .ofExcept _
  | .unary op operand => by
      simp only [evaluate, crossReferences]
      exact .bind (evaluate_progresses operand) fun _ => .pure _
  | .binary op left right => by
      have leftProgresses := evaluate_progresses left
      have rightProgresses := evaluate_progresses right
      rw [crossReferences]
      by_cases isAnd : op = .and
      · subst isAnd
        simp only [evaluate]
        exact .bind leftProgresses fun _ => .ite rightProgresses (.pure _)
      by_cases isOr : op = .or
      · subst isOr
        simp only [evaluate]
        exact .bind leftProgresses fun _ =>
          .mono (.ite (.pure _) rightProgresses) (Nat.le_of_eq (Nat.zero_add _))
      simp only [evaluate_binary _ isAnd isOr]
      exact .bind leftProgresses fun _ => .bind rightProgresses fun _ => .pure _
  | .conditional test consequent alternate => by
      simp only [evaluate, crossReferences]
      exact .bind (evaluate_progresses test) fun _ =>
        .ite (evaluate_progresses consequent) (evaluate_progresses alternate)
  | .assign place value => by
      simp only [evaluate, crossReferences]
      exact .bind (evaluate_progresses value) fun _ =>
        .bind (.writeSlot place _) fun _ => .pure _

/-- The same for several codes, run one after the other. -/
theorem evaluateAll_progresses :
    ∀ codes : List Code,
      Step.Progresses (allCrossReferences codes) fun context => evaluateAll context codes
  | [] => by
      simp only [evaluateAll, allCrossReferences]
      exact .pure _
  | first :: rest => by
      simp only [evaluateAll, allCrossReferences]
      exact .bind (evaluate_progresses first) fun _ =>
        .bind (evaluateAll_progresses rest) fun _ => .pure _

end

/-! ### Counting cross references -/

/-- Names are no cross references. -/
theorem crossReferences_resolve {scope : Scope} {name : String} {code : Code}
    (resolves : resolve scope name = .ok code) : code.crossReferences = 0 := by
  rw [resolve] at resolves
  split at resolves
  · cases resolves
    rfl
  · split at resolves
    · cases resolves
      rfl
    · split at resolves
      · cases resolves
        rfl
      · split at resolves
        · cases resolves
        · cases resolves

mutual

/-- Every cross reference is an operation of the tree. -/
theorem crossReferences_le_operations {scope : Scope} :
    ∀ {tree : Expr} {code : Code}, Lowers scope tree code →
      code.crossReferences ≤ tree.operations
  | _, _, .literal _ => by
      rw [crossReferences]
      exact Nat.zero_le _
  | _, _, .array lowersItems => by
      have items := allCrossReferences_le_operations lowersItems
      rw [crossReferences, Expr.operations]
      omega
  | _, _, .ident resolves => by
      rw [crossReferences_resolve resolves]
      exact Nat.zero_le _
  | _, _, .member _ lowersObject => by
      have object := crossReferences_le_operations lowersObject
      rw [crossReferences, Expr.operations]
      omega
  | _, _, .index lowersObject lowersKey => by
      have object := crossReferences_le_operations lowersObject
      have key := crossReferences_le_operations lowersKey
      rw [crossReferences, Expr.operations]
      omega
  | _, _, .crossReference lowersArgument => by
      have argument := crossReferences_le_operations lowersArgument
      simp only [crossReferences, Expr.operations, Expr.allOperations]
      omega
  | _, _, .method _ _ lowersObject lowersArguments => by
      have object := crossReferences_le_operations lowersObject
      have arguments := allCrossReferences_le_operations lowersArguments
      simp only [crossReferences, Expr.operations]
      omega
  | _, _, .unary _ lowersOperand => by
      have operand := crossReferences_le_operations lowersOperand
      rw [crossReferences, Expr.operations]
      omega
  | _, _, .binary _ lowersLeft lowersRight => by
      have left := crossReferences_le_operations lowersLeft
      have right := crossReferences_le_operations lowersRight
      rw [crossReferences, Expr.operations]
      omega
  | _, _, .conditional lowersTest lowersConsequent lowersAlternate => by
      have test := crossReferences_le_operations lowersTest
      have consequent := crossReferences_le_operations lowersConsequent
      have alternate := crossReferences_le_operations lowersAlternate
      rw [crossReferences, Expr.operations]
      omega
  | _, _, .assign _ lowersValue => by
      have value := crossReferences_le_operations lowersValue
      rw [crossReferences, Expr.operations]
      omega

/-- The same for several trees. -/
theorem allCrossReferences_le_operations {scope : Scope} :
    ∀ {trees : List Expr} {codes : List Code}, LowersAll scope trees codes →
      allCrossReferences codes ≤ Expr.allOperations trees
  | _, _, .nil => by
      rw [allCrossReferences]
      exact Nat.zero_le _
  | _, _, .cons lowersFirst lowersRest => by
      have first := crossReferences_le_operations lowersFirst
      have rest := allCrossReferences_le_operations lowersRest
      rw [allCrossReferences, Expr.allOperations]
      omega

end

end Code

/-! ### Rounds of a rule -/

namespace CompiledRule

variable {rule : CompiledRule}

/-- What a run that needs records has noted: nothing that is loaded. -/
theorem exists_of_run_needs {context : Context} {names : List String}
    (needs : rule.run context = .needs names) :
    ∃ code, rule.predicate = .code code ∧ names ≠ []
      ∧ ((code.evaluate context).run.run ⟨List.replicate rule.slots .undefined, []⟩).2.needed
        = names := by
  cases isCode : rule.predicate with
  | constant allowed =>
      rw [run, isCode] at needs
      cases needs
  | code code =>
      obtain ⟨result, after, ran⟩ : ∃ result after, (code.evaluate context).run.run
          ⟨List.replicate rule.slots .undefined, []⟩ = (result, after) := ⟨_, _, rfl⟩
      simp only [run, isCode, ran] at needs
      refine ⟨code, rfl, ?_⟩
      rw [ran]
      cases noted : after.needed with
      | nil => cases result <;> simp [noted] at needs
      | cons name rest =>
          simp only [noted, List.isEmpty_cons, Bool.false_eq_true, if_false] at needs
          cases needs
          exact ⟨List.cons_ne_nil _ _, rfl⟩

/-- In each of so many rounds the rule needs records, which are all loaded for the next one. -/
def Rounds (rule : CompiledRule) (contexts : Nat → Context) (count : Nat) : Prop :=
  ∀ round < count, ∃ names, rule.run (contexts round) = .needs names
    ∧ Context.Loads names (contexts round) (contexts (round + 1))

/-- A context followed by others. -/
def prepend (context : Context) (contexts : Nat → Context) : Nat → Context
  | 0 => context
  | round + 1 => contexts round

/-- A run that needs records comes before the rounds that follow once they are loaded. -/
theorem Rounds.prepend {contexts : Nat → Context} {count : Nat} {context : Context}
    {names : List String} (rounds : rule.Rounds contexts count)
    (needs : rule.run context = .needs names)
    (loads : Context.Loads names context (contexts 0)) :
    rule.Rounds (CompiledRule.prepend context contexts) (count + 1) := by
  intro round early
  cases round with
  | zero => exact ⟨names, needs, loads⟩
  | succ round => exact rounds round (Nat.lt_of_succ_lt_succ early)

/-- There are no more rounds than the rule has cross references. -/
theorem Rounds.le_crossReferences {contexts : Nat → Context} {count : Nat}
    (rounds : rule.Rounds contexts count) : count ≤ rule.crossReferences := by
  refine Nat.le_of_not_lt fun tooMany => ?_
  obtain ⟨names, needs, _⟩ := rounds 0 (by omega)
  obtain ⟨code, isCode, _, _⟩ := exists_of_run_needs needs
  rw [crossReferences, isCode] at tooMany
  simp only at tooMany
  have progresses := code.evaluate_progresses
  have supplied : Step.Supplied (fun context => code.evaluate context)
      ⟨List.replicate rule.slots .undefined, []⟩ contexts code.crossReferences := by
    refine ⟨fun round early => ?_, fun round early => ?_⟩
    · obtain ⟨names, needs, loads⟩ := rounds round (by omega)
      obtain ⟨_, isCode', _, noted⟩ := exists_of_run_needs needs
      cases isCode.symm.trans isCode'
      obtain ⟨names', noted', missing⟩ := progresses.notes (contexts round)
        ⟨List.replicate rule.slots .undefined, []⟩
      rw [noted, List.nil_append] at noted'
      subst noted'
      exact loads.extends_of_missing missing
    · obtain ⟨names, needs, loads⟩ := rounds round (by omega)
      obtain ⟨_, isCode', _, noted⟩ := exists_of_run_needs needs
      cases isCode.symm.trans isCode'
      rw [noted]
      exact fun name among => loads.loaded among
  obtain ⟨round, within, ended⟩ := progresses.ends _ _ rfl supplied
  obtain ⟨names, needs, _⟩ := rounds round (by omega)
  obtain ⟨_, isCode', lacking, noted⟩ := exists_of_run_needs needs
  cases isCode.symm.trans isCode'
  exact lacking (noted.symm.trans ended)

/-- From a context on there are no more than so many rounds. -/
def RoundsWithin (rule : CompiledRule) (context : Context) (bound : Nat) : Prop :=
  ∀ contexts count, contexts 0 = context → rule.Rounds contexts count → count ≤ bound

theorem roundsWithin_crossReferences (rule : CompiledRule) (context : Context) :
    rule.RoundsWithin context rule.crossReferences :=
  fun _ _ _ rounds => rounds.le_crossReferences

/-- A round that is gone through is one less to come. -/
theorem RoundsWithin.next {context after : Context} {bound : Nat} {names : List String}
    (within : rule.RoundsWithin context bound) (needs : rule.run context = .needs names)
    (loads : Context.Loads names context after) :
    ∃ rest, bound = rest + 1 ∧ rule.RoundsWithin after rest := by
  have atMost (contexts : Nat → Context) (count : Nat) (isFirst : contexts 0 = after)
      (rounds : rule.Rounds contexts count) : count + 1 ≤ bound :=
    within _ _ rfl (rounds.prepend needs (isFirst ▸ loads))
  have some : 0 + 1 ≤ bound :=
    atMost (fun _ => after) 0 rfl fun _ early => absurd early (Nat.not_lt_zero _)
  refine ⟨bound - 1, by omega, fun contexts count isFirst rounds => ?_⟩
  have := atMost contexts count isFirst rounds
  omega

/-- The context of a round, if every name that is needed in a round is answered so. -/
def contextAfter (rule : CompiledRule) (answers : Nat → String → Value) (start : Context) :
    Nat → Context
  | 0 => start
  | round + 1 =>
      let context := rule.contextAfter answers start round
      (rule.run context).neededNames.foldl
        (fun context name => context.insertRecord name (answers round name)) context

/-- Whatever the answers are, after as many rounds as a rule has cross references at most a run
needs nothing more. -/
theorem exists_final_round (rule : CompiledRule) (answers : Nat → String → Value)
    (start : Context) : ∃ round ≤ rule.crossReferences,
      ∀ names, rule.run (rule.contextAfter answers start round) ≠ .needs names := by
  refine Classical.byContradiction fun noneFinal => ?_
  have rounds : rule.Rounds (rule.contextAfter answers start) (rule.crossReferences + 1) := by
    intro round early
    cases outcome : rule.run (rule.contextAfter answers start round) with
    | done value =>
        exact absurd ⟨round, Nat.le_of_lt_succ early, by simp [outcome]⟩ noneFinal
    | failed error =>
        exact absurd ⟨round, Nat.le_of_lt_succ early, by simp [outcome]⟩ noneFinal
    | needs names =>
        refine ⟨names, rfl, ?_⟩
        rw [contextAfter, outcome]
        exact .foldl _ names _
  exact absurd rounds.le_crossReferences (Nat.not_succ_le_self _)

end CompiledRule

end AccessRules
