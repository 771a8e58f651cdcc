import AccessRules.Proofs.Code.Requests
import AccessRules.Proofs.Gatekeeper.PatchAsUpdate
import AccessRules.Proofs.Gatekeeper.Rounds

/-!
# What a decision looks up

Before the first run a decision looks up the message's own record, if the rule reads it, and after
each run what the run has asked for and lacked. All of that is loaded for the next run, and no run
lacks what is loaded. So no name is looked up twice, whatever the store answers and wherever the
decision ends.
-/

namespace AccessRules

/-- Lookups come one after the other. -/
theorem RecordStore.afterLookups_append {σ : Type} [RecordStore σ] (store : σ)
    (names names' : List String) :
    afterLookups store (names ++ names') = afterLookups (afterLookups store names) names' :=
  List.foldl_append

/-! ### Lookups in parts of a decision -/

namespace Deciding

variable {σ α β : Type}

/-- When time passes it may run out. -/
theorem run_spend (timing : Timing) (duration : Nat) (session : Session σ) :
    (∃ limit, (spend timing duration).run.run session =
        (.error (.timeout limit), { session with elapsed := limit }))
      ∨ (spend timing duration).run.run session =
        (.ok (), { session with elapsed := session.elapsed + duration }) := by
  have started : (get : Deciding σ (Session σ)).run.run session = (.ok session, session) := rfl
  rw [spend, run_bind, started]
  simp only
  split
  · next limit _ => exact .inl ⟨limit, rfl⟩
  · exact .inr rfl

variable [RecordStore σ]

/-- How a part of a decision ends that has looked these names up: the store was asked for each of
them in their order, but for the last one if time ran out over it. -/
inductive Looked (session : Session σ) : List String → Except DecisionError α × Session σ → Prop
    where
  | answered {names : List String} {result : Except DecisionError α} {after : Session σ}
      (fetched : after.fetched = session.fetched ++ names)
      (store : after.store = RecordStore.afterLookups session.store names) :
      Looked session names (result, after)
  | timedOut {names : List String} {name : String} {limit : Nat} {after : Session σ}
      (fetched : after.fetched = session.fetched ++ (names ++ [name]))
      (store : after.store = RecordStore.afterLookups session.store names) :
      Looked session (names ++ [name]) (.error (.timeout limit), after)

namespace Looked

variable {session after : Session σ} {names names' : List String}

theorem fetched_eq {ended : Except DecisionError α × Session σ}
    (looked : Looked session names ended) : ended.2.fetched = session.fetched ++ names := by
  cases looked with
  | answered fetched _ => exact fetched
  | timedOut fetched _ => exact fetched

/-- A part that is no lookup looks nothing up. -/
theorem nothing (result : Except DecisionError α) : Looked session [] (result, session) :=
  .answered (List.append_nil _).symm rfl

/-- A part that comes to something has waited for all of its lookups, and the next one looks further
names up. -/
theorem append {value : α} {ended : Except DecisionError β × Session σ}
    (first : Looked session names ((.ok value : Except DecisionError α), after))
    (second : Looked after names' ended) : Looked session (names ++ names') ended := by
  cases first with
  | answered fetched store =>
      cases second with
      | answered fetched' store' =>
          refine .answered ?_ ?_
          · rw [fetched', fetched, List.append_assoc]
          · rw [store', store, RecordStore.afterLookups_append]
      | timedOut fetched' store' =>
          rw [← List.append_assoc]
          refine .timedOut ?_ ?_
          · rw [fetched', fetched, List.append_assoc, List.append_assoc]
          · rw [store', store, RecordStore.afterLookups_append]

/-- An error ends whatever it is a part of. -/
theorem of_error {error : DecisionError}
    (looked : Looked session names ((.error error : Except DecisionError α), after)) :
    Looked session names ((.error error : Except DecisionError β), after) := by
  cases looked with
  | answered fetched store => exact .answered fetched store
  | timedOut fetched store => exact .timedOut fetched store

end Looked

/-- A lookup looks its name up. -/
theorem looked_fetch (timing : Timing) (name : String) (session : Session σ) :
    Looked session [name] ((fetch timing name).run.run session) := by
  have noted : (note name).run.run session
      = (.ok (), { session with fetched := session.fetched ++ [name] }) := rfl
  rw [fetch, run_bind, noted]
  simp only
  rw [run_bind]
  rcases run_spend timing (timing.delay name)
    { session with fetched := session.fetched ++ [name] } with ⟨limit, spent⟩ | spent
  · rw [spent]
    exact List.nil_append [name] ▸ .timedOut rfl rfl
  · rw [spent]
    simp only [run_ask]
    exact .answered rfl rfl

end Deciding

namespace Decision

variable {σ : Type} [RecordStore σ]

/-- Of the names to be loaded those in front are looked up, and all of them if nothing fails. -/
theorem looked_loadAll (timing : Timing) (names : List String) (context : Context)
    (session : Session σ) :
    ∃ looked, looked <+: names
      ∧ Deciding.Looked session looked ((loadAll timing names context).run.run session)
      ∧ ∀ after, ((loadAll timing names context).run.run session).1 = .ok after →
        looked = names := by
  induction names generalizing context session with
  | nil => exact ⟨[], List.prefix_refl _, .nothing _, fun _ _ => rfl⟩
  | cons name names inductionHypothesis =>
      have first := Deciding.looked_fetch timing name session
      obtain ⟨result, middle, ran⟩ : ∃ result middle,
          (Deciding.fetch timing name).run.run session = (result, middle) := ⟨_, _, rfl⟩
      rw [ran] at first
      rw [loadAll, run_bind, ran]
      cases result with
      | error error =>
          refine ⟨[name], List.prefix_append [name] names, first.of_error, ?_⟩
          intro after succeeds
          cases succeeds
      | ok data =>
          obtain ⟨looked, front, second, complete⟩ :=
            inductionHypothesis (context.insertRecord name (recordValue data)) middle
          refine ⟨name :: looked, (List.prefix_cons_inj name).mpr front, first.append second, ?_⟩
          intro after succeeds
          rw [complete after succeeds]

/-- A loop that begins so runs its rule in this context. -/
inductive RunsIn (timing : Timing) (rule : CompiledRule) (found : Context) :
    Nat → Context → Session σ → Prop where
  | here {runs : Nat} {session : Session σ} : RunsIn timing rule found (runs + 1) found session
  | later {runs : Nat} {context next : Context} {session after : Session σ} {names : List String}
      (needs : rule.run context = .needs names)
      (loaded : (loadAll timing names context).run.run session = (.ok next, after))
      (rest : RunsIn timing rule found runs next after) :
      RunsIn timing rule found (runs + 1) context session

/-- Names that a loop may look up once each: in the context in which it begins they lack a record,
and it asks for each of them in one of its runs. -/
structure Wanted (timing : Timing) (rule : CompiledRule) (runs : Nat) (context : Context)
    (session : Session σ) (names : List String) : Prop where
  nodup : names.Nodup
  lacking : ∀ name ∈ names, context.lacks name = true
  asked : ∀ name ∈ names, ∃ found, RunsIn timing rule found runs context session
    ∧ name ∈ rule.asked found

namespace Wanted

variable {timing : Timing} {rule : CompiledRule} {runs : Nat} {context : Context}
  {session : Session σ} {names : List String}

theorem nil : Wanted timing rule runs context session [] :=
  ⟨List.nodup_nil, List.forall_mem_nil _, List.forall_mem_nil _⟩

/-- What a run needs may be looked up, and so may a front of it. -/
theorem of_needs (needs : rule.run context = .needs names) {looked : List String}
    (front : looked <+: names) : Wanted timing rule (runs + 1) context session looked where
  nodup := front.sublist.nodup (CompiledRule.nodup_of_run_needs needs)
  lacking _ among := (CompiledRule.lacks_of_run_needs needs (front.subset among)).2
  asked _ among :=
    ⟨context, .here, (CompiledRule.lacks_of_run_needs needs (front.subset among)).1⟩

/-- What is loaded is not looked up again: after it, only names may be that lack a record still. -/
theorem append (needs : rule.run context = .needs names) {next : Context} {after : Session σ}
    (loaded : (loadAll timing names context).run.run session = (.ok next, after))
    {names' : List String} (rest : Wanted timing rule runs next after names') :
    Wanted timing rule (runs + 1) context session (names ++ names') := by
  have loads := loads_of_loadAll loaded
  have first : Wanted timing rule (runs + 1) context session names :=
    of_needs needs (List.prefix_refl names)
  have apart (name : String) (later : name ∈ names') : name ∉ names := by
    intro among
    obtain ⟨data, known⟩ := loads.loaded among
    have missing := (Context.lacks_eq_true_iff.mp (rest.lacking name later)).2
    rw [known] at missing
    cases missing
  refine ⟨?nodup, ?lacking, ?asked⟩
  case nodup =>
    exact List.nodup_append.mpr ⟨first.nodup, rest.nodup,
      fun name among other later same => apart other later (same ▸ among)⟩
  case lacking =>
    refine List.forall_mem_append.mpr ⟨first.lacking, fun name later => ?_⟩
    have lacks := rest.lacking name later
    rw [Context.lacks, loads.elsewhere (apart name later)] at lacks
    exact lacks
  case asked =>
    refine List.forall_mem_append.mpr ⟨first.asked, fun name later => ?_⟩
    obtain ⟨found, runsIn, asked⟩ := rest.asked name later
    exact ⟨found, .later needs loaded runsIn, asked⟩

end Wanted

/-- However a loop ends, what it has looked up was wanted. -/
theorem looked_settle (timing : Timing) (name : String) (rule : CompiledRule) (runs : Nat)
    (context : Context) (session : Session σ) :
    ∃ looked, Wanted timing rule runs context session looked
      ∧ Deciding.Looked session looked
        ((settle timing name rule runs context).run.run session) := by
  induction runs generalizing context session with
  | zero => exact ⟨[], .nil, .nothing _⟩
  | succ runs inductionHypothesis =>
      rw [settle]
      cases outcome : rule.run context with
      | done value => exact ⟨[], .nil, .nothing _⟩
      | failed error => exact ⟨[], .nil, .nothing _⟩
      | needs names =>
          obtain ⟨looked, front, first, complete⟩ := looked_loadAll timing names context session
          obtain ⟨result, after, ran⟩ : ∃ result after,
              (loadAll timing names context).run.run session = (result, after) := ⟨_, _, rfl⟩
          simp only
          rw [ran] at first complete
          rw [run_bind, ran]
          cases result with
          | error error => exact ⟨looked, .of_needs outcome front, first.of_error⟩
          | ok next =>
              -- All of the names are loaded now, so that the runs to come want others.
              obtain ⟨looked', wanted, second⟩ := inductionHypothesis next after
              rw [complete next rfl] at first
              exact ⟨names ++ looked', .append outcome ran wanted, first.append second⟩

/-- What is looked up before the first run. -/
def ownLookup (rule : CompiledRule) (message : Message) : List String :=
  if readsOwnRecord rule message then [message.name] else []

/-- What is looked up before the first run is loaded in it. -/
theorem looked_prepare (timing : Timing) (request : Request) (cached : CachedRule)
    (session : Session σ) :
    Deciding.Looked session (ownLookup cached.rule request.message)
        ((prepare timing request cached).run.run session)
      ∧ ∀ context, ((prepare timing request cached).run.run session).1 = .ok context →
        ∀ name ∈ ownLookup cached.rule request.message, ∃ data, context.records name = some data := by
  have binding (own : Option Json) (context : Context) (session : Session σ) :
      (bindDataOrFail cached.rule request.message own context).run.run session
        = ((bindData cached.rule request.message own context).mapError .messageData, session) := rfl
  rw [prepare, ownLookup]
  cases reads : readsOwnRecord cached.rule request.message with
  | false =>
      refine ⟨.nothing _, ?_⟩
      intro context _ name among
      cases among
  | true =>
      simp only [if_true]
      have first := Deciding.looked_fetch timing request.message.name session
      obtain ⟨result, middle, ran⟩ : ∃ result middle,
          (Deciding.fetch timing request.message.name).run.run session = (result, middle) :=
        ⟨_, _, rfl⟩
      rw [ran] at first
      rw [run_bind, ran]
      cases result with
      | error error =>
          refine ⟨first.of_error, ?_⟩
          intro context succeeds
          cases succeeds
      | ok own =>
          simp only [binding]
          refine ⟨first.append (.nothing _), ?_⟩
          intro context succeeds name among
          cases List.mem_singleton.mp among
          cases bound : bindData cached.rule request.message own
            ((initialContext request cached.template).insertRecord request.message.name
              (recordValue own)) with
          | error cause =>
              rw [bound] at succeeds
              cases succeeds
          | ok context' =>
              rw [bound] at succeeds
              cases succeeds
              rw [records_of_bindData bound]
              exact ⟨recordValue own, if_pos rfl⟩

/-- One of the runs of a decision by a rule is a run in this context. -/
def RunsRuleIn (timing : Timing) (maxRuns : Nat) (request : Request) (cached : CachedRule)
    (store : σ) (found : Context) : Prop :=
  ∃ context session,
    (prepare timing request cached).run.run (.start store) = (.ok context, session)
      ∧ RunsIn timing cached.rule found maxRuns context session

/-- A decision by a rule looks up what it reads before the first run, and then what it asks for in
one of its runs, and nothing twice. -/
theorem looked_byRule (timing : Timing) (maxRuns : Nat) (request : Request) {cached : CachedRule}
    (varying : cached.rule.constant? = none) (store : σ) :
    ∃ batches, (ownLookup cached.rule request.message ++ batches).Nodup
      ∧ Deciding.Looked (.start store) (ownLookup cached.rule request.message ++ batches)
        ((byRule timing maxRuns request cached).run.run (.start store))
      ∧ ∀ name ∈ batches, ¬ Step.placeholder.toList <:+: name.toList
        ∧ ∃ found, RunsRuleIn timing maxRuns request cached store found
          ∧ name ∈ cached.rule.asked found := by
  have ownNodup : (ownLookup cached.rule request.message).Nodup := by
    rw [ownLookup]
    split
    · exact List.pairwise_singleton _ _
    · exact List.nodup_nil
  obtain ⟨first, loaded⟩ := looked_prepare timing request cached (.start store)
  obtain ⟨result, after, ran⟩ : ∃ result after,
      (prepare timing request cached).run.run (.start store) = (result, after) := ⟨_, _, rfl⟩
  rw [byRule, varying]
  simp only
  rw [ran] at first loaded
  rw [run_bind, ran]
  cases result with
  | error error =>
      refine ⟨[], ?_, ?_, List.forall_mem_nil _⟩
      · rwa [List.append_nil]
      · rw [List.append_nil]
        exact first.of_error
  | ok context =>
      obtain ⟨batches, wanted, second⟩ := looked_settle timing request.message.name cached.rule
        maxRuns context after
      have lacking {name : String} (among : name ∈ batches) :=
        Context.lacks_eq_true_iff.mp (wanted.lacking name among)
      refine ⟨batches, ?_, first.append second, ?_⟩
      · refine List.nodup_append.mpr ⟨ownNodup, wanted.nodup, ?_⟩
        rintro name among _ later rfl
        obtain ⟨data, known⟩ := loaded context rfl name among
        rw [(lacking later).2] at known
        cases known
      · intro name among
        obtain ⟨found, runsIn, asked⟩ := wanted.asked name among
        exact ⟨(lacking among).1, found, ⟨context, after, ran, runsIn⟩, asked⟩

end Decision

/-! ### Lookups of a gatekeeper -/

namespace Config

/-- A message that is decided without a run: no rule is in charge of it, or one that need not be run
or cannot be. -/
inductive DecidesAtOnce (config : Config) (message : Message) : Prop where
  | ungated (gated : gate message.topic message.action = .ungated)
  | unmapped (gated : gate message.topic message.action = .unmapped)
  | defaulted {kind : Section} {ruleType : RuleType}
      (gated : gate message.topic message.action = .rule kind ruleType)
      (notFound : config.findRule? kind message.name ruleType = none)
  | fixed {kind : Section} {ruleType : RuleType} {path : PathRules} {allowed : Bool}
      (gated : gate message.topic message.action = .rule kind ruleType)
      (found : config.findRule? kind message.name ruleType = some (path, .fixed allowed))
  | rejected {kind : Section} {ruleType : RuleType} {path : PathRules} {source : String}
      (gated : gate message.topic message.action = .rule kind ruleType)
      (found : config.findRule? kind message.name ruleType = some (path, .expression source))
      (rejected : ∀ cached, ¬ config.Yields ⟨kind, message.name, ruleType⟩ cached)
  | constant {kind : Section} {ruleType : RuleType} {cached : CachedRule} {allowed : Bool}
      (gated : gate message.topic message.action = .rule kind ruleType)
      (yields : config.Yields ⟨kind, message.name, ruleType⟩ cached)
      (constant : cached.rule.constant? = some allowed)

/-- A rule that has to be run is in charge of a message. -/
structure RunsRule (config : Config) (message : Message) (kind : Section) (ruleType : RuleType)
    (cached : CachedRule) : Prop where
  gated : gate message.topic message.action = .rule kind ruleType
  yields : config.Yields ⟨kind, message.name, ruleType⟩ cached
  varying : cached.rule.constant? = none

/-- Whether the rule under a key reads the message's own record: it refers to `oldData`, or to
`data` where that is the outcome of a patch. -/
def ReadsOwnRecord (config : Config) (key : CacheKey) (message : Message) : Prop :=
  config.RefersTo key "oldData" ∨ (message.isPatch = true ∧ config.RefersTo key "data")

theorem decidesAtOnce_or_runsRule (config : Config) (message : Message) :
    config.DecidesAtOnce message
      ∨ ∃ kind ruleType cached, config.RunsRule message kind ruleType cached := by
  cases gated : gate message.topic message.action with
  | ungated => exact .inl (.ungated gated)
  | unmapped => exact .inl (.unmapped gated)
  | rule kind ruleType =>
      rcases found : config.findRule? kind message.name ruleType with
        _ | ⟨path, allowed | source⟩
      · exact .inl (.defaulted gated found)
      · exact .inl (.fixed gated found)
      · by_cases yields : ∃ cached, config.Yields ⟨kind, message.name, ruleType⟩ cached
        · obtain ⟨cached, yields⟩ := yields
          cases constant : cached.rule.constant? with
          | some allowed => exact .inl (.constant gated yields constant)
          | none => exact .inr ⟨kind, ruleType, cached, gated, yields, constant⟩
        · exact .inl (.rejected gated found (not_exists.mp yields))

/-- A rule that is yielded says of itself what its source refers to. -/
theorem Yields.exists_references {config : Config} {key : CacheKey} {cached : CachedRule}
    (yields : config.Yields key cached) :
    ∃ tree : Expr, cached.rule.readsData = tree.references "data"
      ∧ cached.rule.readsOldData = tree.references "oldData"
      ∧ ∀ identifier, config.RefersTo key identifier ↔ tree.references identifier = true := by
  obtain ⟨path, source, tree, found, _, checked, compiled⟩ := yields
  obtain ⟨names, code, _, _, same⟩ := CompiledRule.exists_of_ofExpr compiled
  refine ⟨tree, by rw [same], by rw [same], fun identifier => ?_⟩
  have parsed := Rule.parse_of_check checked
  constructor
  · rintro ⟨path', source', tree', found', parsed', refers⟩
    rw [found] at found'
    cases found'
    rw [parsed] at parsed'
    cases parsed'
    exact refers
  · exact fun refers => ⟨path, source, tree, found, parsed, refers⟩

theorem Yields.readsOwnRecord_iff {config : Config} {key : CacheKey} {cached : CachedRule}
    (yields : config.Yields key cached) (message : Message) :
    Decision.readsOwnRecord cached.rule message = true ↔ config.ReadsOwnRecord key message := by
  obtain ⟨tree, data, oldData, refersTo⟩ := yields.exists_references
  rw [Decision.readsOwnRecord, ReadsOwnRecord, refersTo, refersTo, data, oldData, Bool.or_eq_true,
    Bool.and_eq_true]

end Config

namespace Gatekeeper

variable {σ : Type} [RecordStore σ]

/-- One decision looks up no name twice, and no record that cannot matter. -/
structure LooksUpOnce (gatekeeper : Gatekeeper) (delay : String → Nat) (store : σ)
    (request : Request) : Prop where
  /-- No name is looked up twice, before the first run or after any. -/
  once : (gatekeeper.authorize delay store request).session.fetched.Nodup
  /-- The store is asked for just these names, but for the last one if time runs out over it. -/
  asked : Deciding.Looked (.start store) (gatekeeper.authorize delay store request).session.fetched
    ((gatekeeper.authorize delay store request).result,
      (gatekeeper.authorize delay store request).session)
  /-- A message is decided at once, or by a rule that has to be run. -/
  decided : gatekeeper.config.DecidesAtOnce request.message
    ∨ ∃ kind ruleType cached, gatekeeper.config.RunsRule request.message kind ruleType cached
  /-- What is decided at once needs no record. -/
  atOnce : gatekeeper.config.DecidesAtOnce request.message →
    (gatekeeper.authorize delay store request).session.fetched = []
  /-- A rule that has to be run needs the message's own record first just if it reads that. Anything
  else was passed to a cross reference in a run of this decision, and was not put together from a
  missing value. -/
  wanted : ∀ kind ruleType cached,
    gatekeeper.config.RunsRule request.message kind ruleType cached →
    ∃ own batches, (gatekeeper.authorize delay store request).session.fetched = own ++ batches
      ∧ (gatekeeper.config.ReadsOwnRecord ⟨kind, request.message.name, ruleType⟩ request.message →
        own = [request.message.name])
      ∧ (¬ gatekeeper.config.ReadsOwnRecord ⟨kind, request.message.name, ruleType⟩
          request.message → own = [])
      ∧ ∀ name ∈ batches, ¬ "undefined".toList <:+: name.toList
        ∧ ∃ found, Decision.RunsRuleIn ⟨delay, gatekeeper.options.evaluationTimeout⟩
            gatekeeper.options.maxRuleIterations request cached store found
          ∧ name ∈ cached.rule.asked found

/-- What is decided at once is decided in the session as it began. -/
theorem Faithful.session_of_decidesAtOnce {options : Options} {gatekeeper : Gatekeeper}
    (faithful : Faithful options gatekeeper) (delay : String → Nat) (store : σ) {request : Request}
    (atOnce : gatekeeper.config.DecidesAtOnce request.message) :
    (gatekeeper.authorize delay store request).session = .start store := by
  cases atOnce with
  | ungated gated => simp only [Gatekeeper.authorize, gated]
  | unmapped gated => simp only [Gatekeeper.authorize, gated]
  | defaulted gated notFound =>
      have ruling := faithful.ruling_eq delay store gated
      rw [Config.resolve, notFound] at ruling
      exact congrArg Prod.snd ruling
  | fixed gated found =>
      have ruling := faithful.ruling_eq delay store gated
      rw [Config.resolve, found] at ruling
      exact congrArg Prod.snd ruling
  | rejected gated found rejected =>
      have ruling := faithful.ruling_eq delay store gated
      rcases resolved : gatekeeper.config.resolve options.defaultAllow
        ⟨_, request.message.name, _⟩ with error | (allowed | cached)
      · rw [resolved] at ruling
        exact congrArg Prod.snd ruling
      · rw [resolved] at ruling
        exact congrArg Prod.snd ruling
      · exact absurd ((Config.resolve_eq_compiled_iff _ _ _ _).mp resolved) (rejected cached)
  | constant gated yields constant =>
      have ruling := faithful.ruling_eq delay store gated
      rw [(Config.resolve_eq_compiled_iff _ _ _ _).mpr yields, Resolution.decide,
        Decision.byRule, constant] at ruling
      exact congrArg Prod.snd ruling

/-- A rule that has to be run looks up what it wants, and nothing twice. -/
theorem Faithful.exists_batches {options : Options} {gatekeeper : Gatekeeper}
    (faithful : Faithful options gatekeeper) (delay : String → Nat) (store : σ) {request : Request}
    {kind : Section} {ruleType : RuleType} {cached : CachedRule}
    (runs : gatekeeper.config.RunsRule request.message kind ruleType cached) :
    ∃ batches, (Decision.ownLookup cached.rule request.message ++ batches).Nodup
      ∧ Deciding.Looked (.start store) (Decision.ownLookup cached.rule request.message ++ batches)
        ((gatekeeper.authorize delay store request).result,
          (gatekeeper.authorize delay store request).session)
      ∧ ∀ name ∈ batches, ¬ Step.placeholder.toList <:+: name.toList
        ∧ ∃ found, Decision.RunsRuleIn ⟨delay, options.evaluationTimeout⟩ options.maxRuleIterations
            request cached store found
          ∧ name ∈ cached.rule.asked found := by
  rw [faithful.ruling_eq delay store runs.gated,
    (Config.resolve_eq_compiled_iff _ _ _ _).mpr runs.yields, Resolution.decide]
  exact Decision.looked_byRule _ _ request runs.varying store

/-- Whatever has happened to a gatekeeper, over any store and with any time limit, a decision looks
up each name once at most. -/
theorem authorize_looksUpOnce {options : Options} {gatekeeper : Gatekeeper}
    (reached : Reached σ options gatekeeper) (delay : String → Nat) (store : σ)
    (request : Request) : gatekeeper.LooksUpOnce delay store request := by
  have faithful := reached.faithful
  have decided := gatekeeper.config.decidesAtOnce_or_runsRule request.message
  have atOnce (message : gatekeeper.config.DecidesAtOnce request.message) :=
    faithful.session_of_decidesAtOnce delay store message
  refine ⟨?once, ?asked, decided, ?atOnce, ?wanted⟩
  case once =>
    rcases decided with message | ⟨kind, ruleType, cached, runs⟩
    · rw [atOnce message]
      exact List.nodup_nil
    · obtain ⟨batches, nodup, looked, _⟩ := faithful.exists_batches delay store runs
      rw [looked.fetched_eq]
      exact nodup
  case asked =>
    rcases decided with message | ⟨kind, ruleType, cached, runs⟩
    · rw [atOnce message]
      exact .nothing _
    · obtain ⟨batches, _, looked, _⟩ := faithful.exists_batches delay store runs
      have fetched := looked.fetched_eq
      simp only at fetched
      rw [fetched]
      exact looked
  case atOnce =>
    intro message
    rw [atOnce message]
    rfl
  case wanted =>
    intro kind ruleType cached runs
    obtain ⟨batches, _, looked, wanted⟩ := faithful.exists_batches delay store runs
    have reads := runs.yields.readsOwnRecord_iff request.message
    refine ⟨Decision.ownLookup cached.rule request.message, batches, looked.fetched_eq, ?_, ?_, ?_⟩
    · intro own
      exact if_pos (reads.mpr own)
    · intro notOwn
      exact if_neg (mt reads.mp notOwn)
    · rw [faithful.options_eq]
      exact wanted

/-- The door that is patched is read before the first run, which shares it and asks for its key. -/
theorem looksUpOnce_doorPatch :
    (doorkeeper.authorize (fun _ => 0) doorStore doorPatch).session.fetched = ["door/1", "key/7"]
      ∧ doorkeeper.LooksUpOnce (fun _ => 0) doorStore doorPatch := by
  have fetched : (doorkeeper.authorize (fun _ => 0) doorStore doorPatch).session.fetched
      = ["door/1", "key/7"] := by decide +kernel
  have reached : Reached Store Options.default doorkeeper :=
    ⟨_, doorkeeper, [], create_eq_ok_iff.mpr ⟨rfl, rfl, rfl⟩, rfl⟩
  exact ⟨fetched, authorize_looksUpOnce reached _ doorStore doorPatch⟩

end Gatekeeper

end AccessRules
