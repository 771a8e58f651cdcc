import AccessRules.Proofs.Code.Records
import AccessRules.Proofs.Gatekeeper.Lookup
import AccessRules.Proofs.Gatekeeper.Resolution

/-!
# Decisions as single runs

A decision runs its rule again and again, each time with more records loaded. What it comes to is
what one run comes to that has every record of the store from the start: the runs in between, which
read records that are not loaded yet as `undefined`, leave no trace in the answer.
-/

namespace AccessRules

namespace Decision

/-- The data under a name, as far as the store answers it. -/
def answeredData (answer : Answer) (name : String) : Option Json :=
  match answer name with
  | .ok record => record.map StoredRecord.data
  | .error _ => none

/-- The record under a name as rules read it, with something unknown in place of a failure. -/
def answeredRecord (answer : Answer) (unknown : String → Value) (name : String) : Value :=
  match answer name with
  | .ok record => recordValue (record.map StoredRecord.data)
  | .error _ => unknown name

/-- The context of a request in which every record of the store is loaded. -/
def loadedContext (answer : Answer) (unknown : String → Value) (request : Request)
    (cached : CachedRule) : Except DataError Context :=
  bindData cached.rule request.message (answeredData answer request.message.name)
    { initialContext request cached.template with
      records := fun name => some (answeredRecord answer unknown name) }

end Decision

/-- What an outcome decides for a rule on a name. A rule that needs records has not decided. -/
def Outcome.decision? (name source : String) : Outcome → Option (Except DecisionError Bool)
  | .done value => some (.ok value.truthy)
  | .failed error => some (.error (.evaluation name source error))
  | .needs _ => none

namespace Decision

/-- One run in the context in which every record is loaded decides the request so. -/
inductive Decides (answer : Answer) (unknown : String → Value) (request : Request)
    (cached : CachedRule) : Except DecisionError Bool → Prop where
  | unbound {cause : DataError}
      (unbound : loadedContext answer unknown request cached = .error cause) :
      Decides answer unknown request cached (.error (.messageData cause))
  | ran {context : Context} {result : Except DecisionError Bool}
      (bound : loadedContext answer unknown request cached = .ok context)
      (decided : (cached.rule.run context).decision? request.message.name cached.rule.source
        = some result) :
      Decides answer unknown request cached result

/-- There is at most one such decision. -/
theorem Decides.unique {answer : Answer} {unknown : String → Value} {request : Request}
    {cached : CachedRule} {result result' : Except DecisionError Bool}
    (one : Decides answer unknown request cached result)
    (two : Decides answer unknown request cached result') : result = result' := by
  cases one with
  | unbound unbound =>
      cases two with
      | unbound unbound' =>
          rw [unbound] at unbound'
          cases unbound'
          rfl
      | ran bound _ =>
          rw [unbound] at bound
          cases bound
  | ran bound decided =>
      cases two with
      | unbound unbound =>
          rw [bound] at unbound
          cases unbound
      | ran bound' decided' =>
          rw [bound] at bound'
          cases bound'
          rw [decided] at decided'
          exact Option.some.inj decided'

/-! ### Binding `data` and `oldData` -/

theorem bindData_eq (rule : CompiledRule) (message : Message) (own : Option Json)
    (context : Context) :
    bindData rule message own context =
      (if rule.readsData then message.ruleData own else .ok context.data).map fun data =>
        { context with
          data := data
          oldData := if rule.readsOldData then recordValue own else context.oldData } := by
  rw [bindData]
  cases rule.readsData with
  | false => rfl
  | true => cases message.ruleData own <;> simp only [if_true] <;> rfl

/-- What is bound does not depend on the records that are loaded. -/
theorem bindData_extends {larger context : Context} (further : larger.Extends context)
    (rule : CompiledRule) (message : Message) (own : Option Json) :
    match bindData rule message own context with
    | .error cause => bindData rule message own larger = .error cause
    | .ok bound =>
        ∃ bound', bindData rule message own larger = .ok bound' ∧ bound'.Extends bound := by
  have data : larger.data = context.data := further.builtin .data
  have oldData : larger.oldData = context.oldData := further.builtin .oldData
  rw [bindData_eq, bindData_eq, data, oldData]
  cases (if rule.readsData then message.ruleData own else .ok context.data) with
  | error cause => rfl
  | ok value =>
      refine ⟨_, rfl, ?_, further.records⟩
      rw [further.same]

/-- A rule that does not read the message's own record is bound the same way with any. -/
theorem bindData_own {rule : CompiledRule} {message : Message}
    (unread : readsOwnRecord rule message = false) (own own' : Option Json) (context : Context) :
    bindData rule message own context = bindData rule message own' context := by
  simp only [readsOwnRecord, Bool.or_eq_false_iff, Bool.and_eq_false_iff] at unread
  obtain ⟨noOldData, noPatch | noData⟩ := unread
  · simp only [bindData_eq, Message.ruleData, noOldData, noPatch]
    rfl
  · simp only [bindData_eq, noOldData, noData]
    rfl

/-! ### The parts of a decision over a steady store -/

section

variable {σ : Type} [RecordStore σ] {answer : Answer} {timing : Timing}

/-- Records as the store answers them lead from a context below the loaded one to another such. -/
theorem loadAll_meets (untimed : timing.limit = none) {larger : Context}
    (loaded : ∀ name record, answer name = .ok record →
      larger.records name = some (recordValue (record.map StoredRecord.data)))
    {throws : DecisionError → Prop} :
    ∀ (names : List String) (context : Context), larger.Extends context →
      Deciding.Meets answer (loadAll timing names context : Deciding σ Context) larger.Extends
        throws
  | [], _, further => .pure further
  | name :: names, context, further => by
      rw [loadAll]
      refine .bind (.fetch untimed name) ?_
      rintro own ⟨record, answered, rfl⟩
      exact loadAll_meets untimed loaded names _
        (further.insertRecord (loaded name record answered))

/-- However many records the runs before the last one lacked, the last one ends as the run with all
records does. -/
theorem settle_meets (untimed : timing.limit = none) {larger : Context}
    (loaded : ∀ name record, answer name = .ok record →
      larger.records name = some (recordValue (record.map StoredRecord.data)))
    (name : String) (rule : CompiledRule) :
    ∀ (runs : Nat) (context : Context), larger.Extends context →
      Deciding.Meets answer (settle timing name rule runs context : Deciding σ Bool)
        (fun allowed => (rule.run larger).decision? name rule.source = some (.ok allowed))
        (fun error => error = .iterationLimit
          ∨ (rule.run larger).decision? name rule.source = some (.error error))
  | 0, _, _ => .throw (Or.inl rfl)
  | runs + 1, context, further => by
      have final := rule.run_eq_of_extends further
      rw [settle]
      cases outcome : rule.run context with
      | done value =>
          rw [outcome] at final
          refine .pure ?_
          rw [final (by simp)]
          rfl
      | failed error =>
          rw [outcome] at final
          refine .throw (Or.inr ?_)
          rw [final (by simp)]
          rfl
      | needs names =>
          -- Whatever this run came to is dropped. Of the next one it only matters that its context
          -- still lies below the loaded one.
          exact .bind (loadAll_meets untimed loaded names context further)
            (settle_meets untimed loaded name rule runs)

/-- Binding data comes to the same in a context below the loaded one. -/
theorem bindDataOrFail_meets {larger context : Context} (further : larger.Extends context)
    (rule : CompiledRule) (message : Message) (own : Option Json) :
    Deciding.Meets answer (bindDataOrFail rule message own context : Deciding σ Context)
      (fun bound => ∃ bound', bindData rule message own larger = .ok bound' ∧ bound'.Extends bound)
      (fun error => ∃ cause, error = .messageData cause
        ∧ bindData rule message own larger = .error cause) := by
  have same := bindData_extends further rule message own
  rw [bindDataOrFail]
  cases bound : bindData rule message own context with
  | error cause =>
      rw [bound] at same
      exact .throw ⟨cause, rfl, same⟩
  | ok context' =>
      rw [bound] at same
      exact .pure same

/-- Without records nothing is loaded that the store would not answer. -/
theorem extends_initialContext (request : Request) (template : Path.Template)
    (records : String → Option Value) :
    Context.Extends { initialContext request template with records := records }
      (initialContext request template) := by
  refine ⟨rfl, ?_⟩
  intro name data known
  cases known

/-- The first context lies below the loaded one, in which `data` and `oldData` are bound alike. -/
theorem prepare_meets (untimed : timing.limit = none) (unknown : String → Value)
    (request : Request) (cached : CachedRule) :
    Deciding.Meets answer (prepare timing request cached : Deciding σ Context)
      (fun context => ∃ larger,
        loadedContext answer unknown request cached = .ok larger ∧ larger.Extends context)
      (fun error => Decides answer unknown request cached (.error error)) := by
  have further := extends_initialContext request cached.template
    fun name => some (answeredRecord answer unknown name)
  have unbound (error : DecisionError) : (∃ cause, error = .messageData cause
      ∧ loadedContext answer unknown request cached = .error cause) →
      Decides answer unknown request cached (.error error) := by
    rintro ⟨cause, rfl, unbound⟩
    exact .unbound unbound
  rw [prepare]
  cases reads : readsOwnRecord cached.rule request.message with
  | true =>
      refine .bind (.fetch untimed request.message.name) ?_
      rintro own ⟨record, answered, rfl⟩
      have data : answeredData answer request.message.name = record.map StoredRecord.data := by
        simp only [answeredData, answered]
      have value : answeredRecord answer unknown request.message.name
          = recordValue (record.map StoredRecord.data) := by
        simp only [answeredRecord, answered]
      rw [loadedContext, data] at unbound ⊢
      exact (bindDataOrFail_meets (further.insertRecord (congrArg some value)) cached.rule
        request.message _).mono (fun _ holds => holds) unbound
  | false =>
      rw [loadedContext, bindData_own reads _ none] at unbound ⊢
      exact (bindDataOrFail_meets further cached.rule request.message none).mono
        (fun _ holds => holds) unbound

/-- Binding data loads no record. -/
theorem records_of_bindData {rule : CompiledRule} {message : Message} {own : Option Json}
    {context bound : Context} (binds : bindData rule message own context = .ok bound) :
    bound.records = context.records := by
  rw [bindData_eq] at binds
  cases data : (if rule.readsData then message.ruleData own else .ok context.data) with
  | error cause =>
      rw [data] at binds
      cases binds
  | ok value =>
      rw [data] at binds
      cases binds
      rfl

/-- A decision by a rule without a time limit decides as the run with all records does, unless it
takes too many runs or a lookup fails. -/
theorem byRule_meets (untimed : timing.limit = none) (unknown : String → Value) (maxRuns : Nat)
    (request : Request) {cached : CachedRule} (varying : cached.rule.constant? = none) :
    Deciding.Meets answer (byRule timing maxRuns request cached : Deciding σ Bool)
      (fun allowed => Decides answer unknown request cached (.ok allowed))
      (fun error => error = .iterationLimit
        ∨ Decides answer unknown request cached (.error error)) := by
  rw [byRule, varying]
  refine .bind ((prepare_meets untimed unknown request cached).mono (fun _ holds => holds)
    fun _ => Or.inr) ?_
  rintro context ⟨larger, bound, further⟩
  have loaded (name : String) (record : Option StoredRecord) (answered : answer name = .ok record) :
      larger.records name = some (recordValue (record.map StoredRecord.data)) := by
    rw [records_of_bindData bound]
    simp only [answeredRecord, answered]
  refine (settle_meets untimed loaded _ _ maxRuns context further).mono
    (fun _ decided => .ran bound decided) ?_
  rintro error (limit | decided)
  · exact Or.inl limit
  · exact Or.inr (.ran bound decided)

end

end Decision

/-! ### Rulings -/

/-- If no lookup fails the run with all records decides, unless there were too many runs. -/
theorem Decision.decides_of_ends {answer : Answer} {unknown : String → Value} {request : Request}
    {cached : CachedRule} {names : List String} {result : Except DecisionError Bool}
    (ends : Deciding.Ends answer
      (fun allowed => Decides answer unknown request cached (.ok allowed))
      (fun error => error = .iterationLimit ∨ Decides answer unknown request cached (.error error))
      names result)
    (answered : Deciding.Answered answer names) :
    result = .error .iterationLimit ∨ Decides answer unknown request cached result := by
  cases ends with
  | returned _ decides => exact Or.inr decides
  | thrown _ decides => exact decides.imp_left (congrArg Except.error)
  | @failed _ name _ _ fails =>
      obtain ⟨record, answers⟩ := answered name (by simp)
      rw [fails] at answers
      cases answers

theorem Outcome.eq_done_of_decision? {outcome : Outcome} {name source : String} {allowed : Bool}
    (decided : outcome.decision? name source = some (.ok allowed)) :
    ∃ value, outcome = .done value ∧ value.truthy = allowed := by
  cases outcome with
  | done value =>
      simp only [Outcome.decision?, Option.some.injEq, Except.ok.injEq] at decided
      exact ⟨value, rfl, decided⟩
  | needs names => cases decided
  | failed error => cases decided

theorem Outcome.eq_failed_of_decision? {outcome : Outcome} {name source name' source' : String}
    {error : EvalError}
    (decided : outcome.decision? name source = some (.error (.evaluation name' source' error))) :
    name' = name ∧ source' = source ∧ outcome = .failed error := by
  cases outcome with
  | done value => cases decided
  | needs names => cases decided
  | failed error =>
      cases decided
      exact ⟨rfl, rfl, rfl⟩

/-- A ruling is what one run comes to in the context in which every record is loaded. -/
structure Ruling.DecidedBySingleRun {σ : Type} (ruling : Ruling σ) (answer : Answer)
    (unknown : String → Value) (request : Request) (cached : CachedRule) : Prop where
  /-- What is allowed is the truth of the value of that run. -/
  value : ∀ allowed, ruling.result = .ok allowed →
    ∃ context value, Decision.loadedContext answer unknown request cached = .ok context
      ∧ cached.rule.run context = .done value ∧ value.truthy = allowed
  /-- An error of the rule is the error of that run. -/
  evaluation : ∀ name source error, ruling.result = .error (.evaluation name source error) →
    name = request.message.name ∧ source = cached.rule.source
      ∧ ∃ context, Decision.loadedContext answer unknown request cached = .ok context
        ∧ cached.rule.run context = .failed error
  /-- A lookup that fails is the error of the ruling. -/
  lookup : ∀ name error, name ∈ ruling.session.fetched → answer name = .error error →
    ruling.result = .error (.dependencyFetch name error)
  /-- If nothing else went wrong the ruling is the outcome of that run. -/
  outcome : (∀ name ∈ ruling.session.fetched, ∃ record, answer name = .ok record) →
    (∀ cause, ruling.result ≠ .error (.messageData cause)) →
    ruling.result ≠ .error .iterationLimit →
    ∃ context, Decision.loadedContext answer unknown request cached = .ok context
      ∧ (cached.rule.run context).decision? request.message.name cached.rule.source
        = some ruling.result

/-- Whatever ends as the run with all records decides is decided by that run. -/
theorem Ruling.decidedBySingleRun_of_ends {σ : Type} {ruling : Ruling σ} {answer : Answer}
    {unknown : String → Value} {request : Request} {cached : CachedRule}
    (ends : Deciding.Ends answer
      (fun allowed => Decision.Decides answer unknown request cached (.ok allowed))
      (fun error => error = .iterationLimit
        ∨ Decision.Decides answer unknown request cached (.error error))
      ruling.session.fetched ruling.result) :
    ruling.DecidedBySingleRun answer unknown request cached := by
  obtain ⟨result, gatekeeper, store, fetched, elapsed⟩ := ruling
  refine ⟨?value, ?evaluation, fun name error member fails => ends.eq_of_failed member fails,
    ?outcome⟩
  case value =>
    rintro allowed rfl
    obtain ⟨_, _ | ⟨bound, decided⟩⟩ := ends
    obtain ⟨value, ran, truth⟩ := Outcome.eq_done_of_decision? decided
    exact ⟨_, value, bound, ran, truth⟩
  case evaluation =>
    rintro name source error rfl
    obtain _ | ⟨_, limit | _ | ⟨bound, decided⟩⟩ := ends
    · cases limit
    · obtain ⟨sameName, sameSource, ran⟩ := Outcome.eq_failed_of_decision? decided
      exact ⟨sameName, sameSource, _, bound, ran⟩
  case outcome =>
    intro answered noDataError noLimit
    have decides : Decision.Decides answer unknown request cached result :=
      (Decision.decides_of_ends ends answered).resolve_left noLimit
    cases decides with
    | unbound => exact absurd rfl (noDataError _)
    | ran bound decided => exact ⟨_, bound, decided⟩

namespace Gatekeeper

variable {σ : Type} [RecordStore σ] {store : σ} {answer : Answer}

/-- How a ruling by a rule that is not constant ends, without a time limit. -/
theorem authorize_ends (steady : RecordStore.Steady store answer) (unknown : String → Value)
    {gatekeeper : Gatekeeper} (untimed : gatekeeper.options.evaluationTimeout = none)
    (delay : String → Nat) {request : Request} {kind : Section} {ruleType : RuleType}
    (gated : gate request.message.topic request.message.action = .rule kind ruleType)
    {cached : CachedRule}
    (resolved : (gatekeeper.resolve ⟨kind, request.message.name, ruleType⟩).1
      = .ok (.compiled cached))
    (varying : cached.rule.constant? = none) :
    Deciding.Ends answer
      (fun allowed => Decision.Decides answer unknown request cached (.ok allowed))
      (fun error => error = .iterationLimit
        ∨ Decision.Decides answer unknown request cached (.error error))
      (gatekeeper.authorize delay store request).session.fetched
      (gatekeeper.authorize delay store request).result := by
  have noLimit : (⟨delay, gatekeeper.options.evaluationTimeout⟩ : Timing).limit = none := untimed
  obtain ⟨names, result, session, ran, fetched, _, ends⟩ :=
    Decision.byRule_meets noLimit unknown gatekeeper.options.maxRuleIterations request varying
      (Session.start store) steady
  have ruling := gatekeeper.authorize_rule delay store gated
  rw [resolved, Resolution.decide, ran] at ruling
  obtain ⟨sameResult, sameSession⟩ := Prod.ext_iff.mp ruling
  simp only at sameResult sameSession
  rw [sameResult, sameSession, fetched]
  exact ends

/-- Running a rule again and again while records are looked up decides as a single run does that has
every record from the start. -/
theorem authorize_decidedBySingleRun (steady : RecordStore.Steady store answer)
    (unknown : String → Value) (gatekeeper : Gatekeeper)
    (untimed : gatekeeper.options.evaluationTimeout = none) (delay : String → Nat)
    (request : Request) {kind : Section} {ruleType : RuleType}
    (gated : gate request.message.topic request.message.action = .rule kind ruleType)
    {cached : CachedRule}
    (resolved : (gatekeeper.resolve ⟨kind, request.message.name, ruleType⟩).1
      = .ok (.compiled cached))
    (varying : cached.rule.constant? = none) :
    (gatekeeper.authorize delay store request).DecidedBySingleRun answer unknown request
      cached :=
  Ruling.decidedBySingleRun_of_ends
    (authorize_ends steady unknown untimed delay gated resolved varying)

/-- A gatekeeper for doors. -/
def doorkeeper : Gatekeeper := ⟨⟨[doorPath], [], []⟩, Options.default, TimedCache.empty⟩

/-- The owner may change the key after three runs, and one run with all records says so. -/
theorem doorRuling_decidedBySingleRun :
    ∃ cached, (doorkeeper.resolve ⟨.record, "door/1", .write⟩).1 = .ok (.compiled cached)
      ∧ cached.rule.constant? = none
      ∧ (doorkeeper.authorize (fun _ => 0) doorStore doorRequest).result.toOption = some true
      ∧ (doorkeeper.authorize (fun _ => 0) doorStore doorRequest).DecidedBySingleRun
          doorStore.answer (fun _ => .undefined) doorRequest cached := by
  have runs : (doorkeeper.resolve ⟨.record, "door/1", .write⟩).1.toOption.any Resolution.needsRun
      = true := by decide +kernel
  have allows : (doorkeeper.authorize (fun _ => 0) doorStore doorRequest).result.toOption
      = some true := by decide +kernel
  rcases resolved : (doorkeeper.resolve ⟨.record, "door/1", .write⟩).1 with
    error | (allowed | cached)
  · rw [resolved] at runs
    cases runs
  · rw [resolved] at runs
    cases runs
  · rw [resolved] at runs
    have varying : cached.rule.constant? = none := Option.isNone_iff_eq_none.mp runs
    exact ⟨cached, rfl, varying, allows, authorize_decidedBySingleRun (Store.steady doorStore)
      _ doorkeeper rfl _ doorRequest rfl resolved varying⟩

end Gatekeeper

end AccessRules
