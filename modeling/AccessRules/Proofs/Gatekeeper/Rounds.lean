import AccessRules.Proofs.Code.Rounds
import AccessRules.Proofs.Expr.Acceptance
import AccessRules.Proofs.Gatekeeper.History
import AccessRules.Proofs.Gatekeeper.Throws

/-!
# How often a decision runs its rule

A decision runs its rule no more often than once and once again for each cross reference, over any
store. So a limit above that is never reached, and a counter of 32 bits never overflows: a rule that
can be compiled has far fewer cross references.
-/

namespace AccessRules

namespace Decision

variable {σ : Type} [RecordStore σ]

/-! ### Rounds of a decision -/

/-- Whatever the store answers, what is looked up is loaded. -/
theorem loads_of_loadAll {timing : Timing} :
    ∀ {names : List String} {context after : Context} {session session' : Session σ},
      (loadAll timing names context).run.run session = (.ok after, session') →
      Context.Loads names context after
  | [], _, _, _, _, ran => by
      cases ran
      exact .nil _
  | name :: names, context, after, session, session', ran => by
      rw [loadAll, run_bind] at ran
      split at ran
      · exact .cons _ (loads_of_loadAll ran)
      · cases ran

theorem loadAll_ne_iterationLimit {timing : Timing} {names : List String} {context : Context}
    {session : Session σ} :
    ((loadAll timing names context).run.run session).1 ≠ .error .iterationLimit := by
  have throws : Deciding.Throws (loadAll timing names context : Deciding σ Context)
      (· ≠ .iterationLimit) :=
    loadAll_throws timing (fun _ => nofun) (fun _ _ => nofun) names context
  exact fun limited => throws session _ limited rfl

theorem prepare_ne_iterationLimit {timing : Timing} {request : Request} {cached : CachedRule}
    {session : Session σ} :
    ((prepare timing request cached).run.run session).1 ≠ .error .iterationLimit := by
  have throws : Deciding.Throws (prepare timing request cached : Deciding σ Context)
      (· ≠ .iterationLimit) :=
    prepare_throws timing request cached (fun _ => nofun) (fun _ _ => nofun) fun _ => nofun
  exact fun limited => throws session _ limited rfl

/-- A decision that reaches its limit has gone through as many rounds. -/
theorem exists_rounds_of_settle {timing : Timing} {name : String} {rule : CompiledRule} :
    ∀ {runs : Nat} {context : Context} {session : Session σ},
      ((settle timing name rule runs context).run.run session).1 = .error .iterationLimit →
      ∃ contexts, contexts 0 = context ∧ rule.Rounds contexts runs
  | 0, context, _, _ => ⟨fun _ => context, rfl, fun _ early => absurd early (Nat.not_lt_zero _)⟩
  | runs + 1, context, session, limited => by
      rw [settle] at limited
      cases outcome : rule.run context with
      | done value =>
          rw [outcome] at limited
          cases limited
      | failed error =>
          rw [outcome] at limited
          cases limited
      | needs names =>
          simp only [outcome] at limited
          rw [run_bind] at limited
          split at limited
          · next after session' ran =>
            obtain ⟨contexts, isFirst, rounds⟩ := exists_rounds_of_settle limited
            refine ⟨CompiledRule.prepend context contexts, rfl, rounds.prepend outcome ?_⟩
            rw [isFirst]
            exact loads_of_loadAll ran
          · next error session' ran =>
            cases limited
            exact absurd (congrArg Prod.fst ran) loadAll_ne_iterationLimit

/-- A decision by a rule reaches its limit only if the rule has as many cross references. -/
theorem maxRuns_le_of_byRule {timing : Timing} {maxRuns : Nat} {request : Request}
    {cached : CachedRule} {session : Session σ}
    (limited : ((byRule timing maxRuns request cached).run.run session).1
      = .error .iterationLimit) : maxRuns ≤ cached.rule.crossReferences := by
  rw [byRule] at limited
  cases constant : cached.rule.constant? with
  | some allowed =>
      rw [constant] at limited
      cases limited
  | none =>
      simp only [constant] at limited
      rw [run_bind] at limited
      split at limited
      · next context session' ran =>
        obtain ⟨contexts, _, rounds⟩ := exists_rounds_of_settle limited
        exact rounds.le_crossReferences
      · next error session' ran =>
        cases limited
        exact absurd (congrArg Prod.fst ran) prepare_ne_iterationLimit

/-! ### Counting runs -/

/-- How a loop ends that counts in 32 bits, as far as it is followed. -/
inductive Counted where
  | decided (allowed : Bool)
  /-- The counter cannot be increased. -/
  | overflowed
  /-- The loop goes on. -/
  | unfinished
deriving DecidableEq, Repr

/-- The loop that runs a rule until it comes to an end, followed through so many passes. Each pass
counts first, and the count is compared with the limit. -/
def settleCounting (timing : Timing) (name : String) (rule : CompiledRule) (limit : UInt32) :
    Nat → UInt32 → Context → Deciding σ Counted
  | 0, _, _ => pure .unfinished
  | passes + 1, counter, context =>
      if counter.toNat + 1 = UInt32.size then pure .overflowed
      else if limit < counter + 1 then throw .iterationLimit
      else
        match rule.run context with
        | .done value => pure (.decided value.truthy)
        | .failed error => throw (.evaluation name rule.source error)
        | .needs names => do
            let context ← loadAll timing names context
            settleCounting timing name rule limit passes (counter + 1) context

/-- While the rounds that can still come fit into the passes and into the counter, the loop comes to
the same as if it were run at most as often as the limit still allows. -/
theorem settleCounting_eq {timing : Timing} {name : String} {rule : CompiledRule} {limit : UInt32} :
    ∀ {passes bound : Nat} {counter : UInt32} {context : Context} {session : Session σ},
      rule.RoundsWithin context bound → bound < passes →
      counter.toNat + bound + 1 < UInt32.size →
      (settleCounting timing name rule limit passes counter context).run.run session
        = (((settle timing name rule (limit.toNat - counter.toNat) context).run.run session).1.map
            .decided,
          ((settle timing name rule (limit.toNat - counter.toNat) context).run.run session).2)
  | 0, _, _, _, _, _, enough, _ => absurd enough (Nat.not_lt_zero _)
  | passes + 1, bound, counter, context, session, within, enough, room => by
      have fits : counter.toNat + 1 < UInt32.size := by omega
      have counted : (counter + 1).toNat = counter.toNat + 1 := by
        rw [UInt32.toNat_add]
        exact Nat.mod_eq_of_lt fits
      rw [settleCounting, if_neg (by omega)]
      by_cases exceeds : limit < counter + 1
      · have none : limit.toNat - counter.toNat = 0 := by
          have less := UInt32.lt_iff_toNat_lt.mp exceeds
          omega
        rw [if_pos exceeds, none]
        rfl
      · have further : limit.toNat - counter.toNat = limit.toNat - (counter + 1).toNat + 1 := by
          have atMost := Nat.le_of_not_lt fun less => exceeds (UInt32.lt_iff_toNat_lt.mpr less)
          omega
        rw [if_neg exceeds, further, settle]
        cases outcome : rule.run context with
        | done value => rfl
        | failed error => rfl
        | needs names =>
            simp only
            rw [run_bind, run_bind]
            rcases ran : (loadAll timing names context).run.run session
              with ⟨error | after, session'⟩
            · rfl
            · obtain ⟨rest, rfl, withinRest⟩ := within.next outcome (loads_of_loadAll ran)
              exact settleCounting_eq withinRest (by omega) (by omega)

end Decision

namespace CompiledRule

/-- The limits of the parser bound the cross references of a rule. -/
theorem crossReferences_le_of_compile {source : String} {pathNames : List String}
    {rule : CompiledRule} (compiles : compile source pathNames = .ok rule) :
    rule.crossReferences ≤ 512 := by
  rw [compile] at compiles
  split at compiles
  · cases compiles
  · next tree parsed =>
    obtain ⟨names, code, _, lowers, rfl⟩ := exists_of_ofExpr compiles
    have operations : tree.operations ≤ 512 := (Expr.parseWithin_eq_ok_iff.mp parsed).2
    have atMost := Code.crossReferences_le_operations lowers
    rw [crossReferences]
    split
    · exact Nat.zero_le _
    · next code' isCode =>
      rw [eq_of_predicateOf isCode]
      exact Nat.le_trans atMost operations

/-- A rule that comes to an end in time. -/
structure SettlesInTime (rule : CompiledRule) : Prop where
  /-- However the names that a run needs are answered, and also if they are answered differently
  each time, one of the first runs, as many as there are cross references and one more, needs
  nothing. -/
  settles : ∀ (start : Context) (answers : Nat → String → Value),
    ∃ round ≤ rule.crossReferences,
      ∀ names, rule.run (rule.contextAfter answers start round) ≠ .needs names
  /-- A decision by the rule exceeds the limit only if that is no higher than the number of cross
  references. -/
  limited : ∀ {σ : Type} [RecordStore σ] (gatekeeper : Gatekeeper) (delay : String → Nat) (store : σ)
    (request : Request) (kind : Section) (ruleType : RuleType) (template : Path.Template),
    gate request.message.topic request.message.action = .rule kind ruleType →
    (gatekeeper.resolve ⟨kind, request.message.name, ruleType⟩).1
      = .ok (.compiled ⟨template, rule⟩) →
    (gatekeeper.authorize delay store request).result = .error .iterationLimit →
    gatekeeper.options.maxRuleIterations ≤ rule.crossReferences
  /-- A loop that counts in 32 bits ends in that many passes, whatever its limit is, and its
  counter does not overflow. -/
  counted : ∀ {σ : Type} [RecordStore σ] (timing : Timing) (name : String) (limit : UInt32)
    (start : Context) (session : Session σ),
    (Decision.settleCounting timing name rule limit (rule.crossReferences + 1) 0 start).run.run
        session
      = (((Decision.settle timing name rule limit.toNat start).run.run session).1.map .decided,
        ((Decision.settle timing name rule limit.toNat start).run.run session).2)

/-- Every rule that can be compiled comes to an end in time. -/
theorem settlesInTime_of_compile {source : String} {pathNames : List String} {rule : CompiledRule}
    (compiles : compile source pathNames = .ok rule) : rule.SettlesInTime where
  settles start answers := rule.exists_final_round answers start
  limited := by
    intro σ _ gatekeeper delay store request kind ruleType template gated resolved exceeded
    have ruling := congrArg Prod.fst (gatekeeper.authorize_rule delay store gated)
    rw [resolved] at ruling
    exact Decision.maxRuns_le_of_byRule (ruling.symm.trans exceeded)
  counted timing name limit start session := by
    have few := crossReferences_le_of_compile compiles
    exact Decision.settleCounting_eq (rule.roundsWithin_crossReferences start)
      (Nat.lt_succ_self _) (by
        show 0 + rule.crossReferences + 1 < 4294967296
        omega)

/-- Who may fit a door with another key is known after three runs at most: one finds the door, one
the key. -/
theorem settlesInTime_door : ∃ rule,
    compile "_(_(name).key).owner === user.id && data.key" ["$id"] = .ok rule
      ∧ rule.crossReferences = 2 ∧ rule.SettlesInTime := by
  have counts : (compile "_(_(name).key).owner === user.id && data.key" ["$id"]).toOption.map
      crossReferences = some 2 := by decide +kernel
  cases compiled : compile "_(_(name).key).owner === user.id && data.key" ["$id"] with
  | error error =>
      rw [compiled] at counts
      cases counts
  | ok rule =>
      rw [compiled] at counts
      exact ⟨rule, rfl, Option.some.inj counts, settlesInTime_of_compile compiled⟩

end CompiledRule

end AccessRules
