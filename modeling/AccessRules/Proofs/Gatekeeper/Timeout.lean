import AccessRules.Proofs.Gatekeeper.AlikeStores

/-!
# Decisions with a time limit

A time limit either leaves a decision as it is without one, or cuts it off in the middle of a
lookup. A decision that is cut off comes to an error, and what it has looked up until then it would
have looked up anyway. What it leaves behind, a rule in the cache and a clock that stands elsewhere,
cannot be seen in any later decision.
-/

namespace AccessRules

namespace Deciding

variable {σ α β : Type} {delay : String → Nat} {limit : Nat}

/-! ### Parts of a decision with and without a limit -/

/-- The time that lookups of these names take together. -/
def totalDelay (delay : String → Nat) (names : List String) : Nat :=
  names.foldr (fun name total => delay name + total) 0

theorem totalDelay_append (names names' : List String) :
    totalDelay delay (names ++ names') = totalDelay delay names + totalDelay delay names' := by
  induction names with
  | nil => exact (Nat.zero_add _).symm
  | cons name names inductionHypothesis =>
      change delay name + totalDelay delay (names ++ names') = _
      rw [inductionHypothesis, ← Nat.add_assoc]
      rfl

theorem totalDelay_eq_zero {names : List String} (noDelay : ∀ name ∈ names, delay name = 0) :
    totalDelay delay names = 0 := by
  induction names with
  | nil => rfl
  | cons name names inductionHypothesis =>
      have rest := inductionHypothesis fun other among =>
        noDelay other (List.mem_cons_of_mem _ among)
      change delay name + totalDelay delay names = 0
      rw [noDelay name List.mem_cons_self, rest]

/-- Time passes up to the limit, and no further. -/
theorem run_spend_limited (duration : Nat) (session : Session σ) :
    (spend ⟨delay, some limit⟩ duration).run.run session =
      if limit < session.elapsed + duration then
        (.error (.timeout limit), { session with elapsed := limit })
      else (.ok (), { session with elapsed := session.elapsed + duration }) := by
  have started : (get : Deciding σ (Session σ)).run.run session = (.ok session, session) := rfl
  rw [spend, run_bind, started]
  by_cases late : limit < session.elapsed + duration
  · simp only [Option.filter, late, decide_true, if_true]
    rfl
  · simp only [Option.filter, late, decide_false, Bool.false_eq_true, if_false]
    rfl

section

variable [RecordStore σ]

/-- The session after lookups of these names all of which were waited for. -/
structure Waited (delay : String → Nat) (session : Session σ) (names : List String)
    (after : Session σ) : Prop where
  fetched : after.fetched = session.fetched ++ names
  elapsed : after.elapsed = session.elapsed + totalDelay delay names
  store : after.store = RecordStore.afterLookups session.store names

namespace Waited

variable {session middle after : Session σ} {names names' : List String}

theorem nothing : Waited delay session [] session :=
  ⟨(List.append_nil _).symm, rfl, rfl⟩

theorem append (first : Waited delay session names middle)
    (second : Waited delay middle names' after) : Waited delay session (names ++ names') after where
  fetched := by rw [second.fetched, first.fetched, List.append_assoc]
  elapsed := by rw [second.elapsed, first.elapsed, totalDelay_append, Nat.add_assoc]
  store := by rw [second.store, first.store, RecordStore.afterLookups_append]

end Waited

/-- The session when time runs out over the lookup of a name, after those of the names in front. -/
def cutOff (limit : Nat) (session : Session σ) (front : List String) (name : String) :
    Session σ :=
  ⟨RecordStore.afterLookups session.store front, session.fetched ++ (front ++ [name]), limit⟩

/-- How a part ends with a limit if it ends so without one, after lookups of these names: in the
same way if it is in time, and else in the middle of one of the lookups. -/
inductive Limited (limit : Nat) (session : Session σ) (names : List String) :
    Except DecisionError α × Session σ → Except DecisionError α × Session σ → Prop where
  | inTime {ended : Except DecisionError α × Session σ} (inTime : ended.2.elapsed ≤ limit) :
      Limited limit session names ended ended
  | tooLate {ended : Except DecisionError α × Session σ} {front : List String} {name : String}
      (late : limit < ended.2.elapsed) (isFront : front ++ [name] <+: names) :
      Limited limit session names ended
        (.error (.timeout limit), cutOff limit session front name)

namespace Limited

variable {session : Session σ} {names : List String}
  {free ended : Except DecisionError α × Session σ}

theorem eq_of_inTime (limited : Limited limit session names free ended)
    (inTime : free.2.elapsed ≤ limit) : ended = free := by
  cases limited with
  | inTime => rfl
  | tooLate late => exact absurd inTime (Nat.not_le_of_lt late)

theorem exists_of_late (limited : Limited limit session names free ended)
    (late : limit < free.2.elapsed) :
    ∃ front name, front ++ [name] <+: names
      ∧ ended = (.error (.timeout limit), cutOff limit session front name) := by
  cases limited with
  | inTime inTime => exact absurd inTime (Nat.not_le_of_lt late)
  | tooLate _ isFront => exact ⟨_, _, isFront, rfl⟩

end Limited

/-- A lookup that is in time is one without a limit, and else the store is not asked. -/
theorem run_fetch_limited (name : String) (session : Session σ) :
    (fetch ⟨delay, some limit⟩ name).run.run session =
      if limit < session.elapsed + delay name then
        (.error (.timeout limit), cutOff limit session [] name)
      else (fetch ⟨delay, none⟩ name).run.run session := by
  have noted : (note name).run.run session
      = (.ok (), { session with fetched := session.fetched ++ [name] }) := rfl
  have untimed : (⟨delay, none⟩ : Timing).limit = none := rfl
  rw [run_fetch untimed, fetch, run_bind, noted]
  simp only
  rw [run_bind, run_spend_limited]
  by_cases late : limit < session.elapsed + delay name
  · rw [if_pos late, if_pos late]
    rfl
  · rw [if_neg late, if_neg late]

/-- The second of two parts is the first one with a limit. -/
def LimitedTo (delay : String → Nat) (limit : Nat) (free limited : Deciding σ α) : Prop :=
  ∀ session : Session σ, ∃ names, Waited delay session names (free.run.run session).2
    ∧ (session.elapsed ≤ limit →
      Limited limit session names (free.run.run session) (limited.run.run session))

namespace LimitedTo

/-- What takes no time is the same with a limit. -/
theorem ofExcept (result : Except DecisionError α) :
    LimitedTo delay limit (ofExcept result : Deciding σ α) (ofExcept result) :=
  fun _ => ⟨[], .nothing, fun early => .inTime early⟩

/-- A part and the next one. If the first one is cut off, so are both, whatever comes next. -/
theorem bind {free limited : Deciding σ α} {next next' : α → Deciding σ β}
    (first : LimitedTo delay limit free limited)
    (second : ∀ value, LimitedTo delay limit (next value) (next' value)) :
    LimitedTo delay limit (free >>= next) (limited >>= next') := by
  intro session
  obtain ⟨names, waited, limits⟩ := first session
  obtain ⟨result, middle, ran⟩ : ∃ result middle, free.run.run session = (result, middle) :=
    ⟨_, _, rfl⟩
  rw [run_bind, run_bind]
  rw [ran] at waited limits ⊢
  cases result with
  | error error =>
      refine ⟨names, waited, fun early => ?_⟩
      generalize limited.run.run session = ended at limits ⊢
      cases limits early with
      | inTime inTime => exact .inTime inTime
      | tooLate late isFront => exact .tooLate late isFront
  | ok value =>
      obtain ⟨names', waited', limits'⟩ := second value middle
      refine ⟨names ++ names', waited.append waited', fun early => ?_⟩
      generalize limited.run.run session = ended at limits ⊢
      cases limits early with
      | tooLate late isFront =>
          refine .tooLate ?_ (isFront.trans (List.prefix_append _ _))
          have later := waited'.elapsed
          have late : limit < middle.elapsed := late
          simp only
          omega
      | inTime inTime =>
          simp only
          generalize (next' value).run.run middle = ended' at limits' ⊢
          cases limits' inTime with
          | inTime inTime' => exact .inTime inTime'
          | @tooLate front name late isFront =>
              have whole : cutOff limit middle front name
                  = cutOff limit session (names ++ front) name := by
                rw [cutOff, cutOff, waited.store, waited.fetched,
                  RecordStore.afterLookups_append]
                simp only [List.append_assoc]
              rw [whole]
              refine .tooLate late ?_
              rw [List.append_assoc]
              exact (List.prefix_append_right_inj names).mpr isFront

/-- A lookup takes its time, if there is as much left. -/
theorem fetch (name : String) :
    LimitedTo delay limit (fetch ⟨delay, none⟩ name : Deciding σ (Option Json))
      (fetch ⟨delay, some limit⟩ name) := by
  intro session
  have untimed : (⟨delay, none⟩ : Timing).limit = none := rfl
  have waited : Waited delay session [name]
      ((Deciding.fetch ⟨delay, none⟩ name).run.run session).2 := by
    rw [run_fetch untimed, run_ask]
    exact ⟨rfl, rfl, rfl⟩
  refine ⟨[name], waited, fun _ => ?_⟩
  rw [run_fetch_limited]
  split
  · next late =>
    refine .tooLate ?_ (List.prefix_refl [name])
    rw [waited.elapsed]
    exact late
  · next inTime =>
    refine .inTime ?_
    rw [waited.elapsed]
    exact Nat.le_of_not_lt inTime

end LimitedTo

end

end Deciding

namespace Decision

open Deciding

variable {σ : Type} [RecordStore σ] {delay : String → Nat} {limit : Nat}

theorem loadAll_limitedTo :
    ∀ (names : List String) (context : Context),
      LimitedTo delay limit (loadAll ⟨delay, none⟩ names context : Deciding σ Context)
        (loadAll ⟨delay, some limit⟩ names context)
  | [], context => .ofExcept (.ok context)
  | name :: names, context => by
      rw [loadAll, loadAll]
      exact .bind (.fetch name) fun data => loadAll_limitedTo names _

theorem settle_limitedTo (name : String) (rule : CompiledRule) :
    ∀ (runs : Nat) (context : Context),
      LimitedTo delay limit (settle ⟨delay, none⟩ name rule runs context : Deciding σ Bool)
        (settle ⟨delay, some limit⟩ name rule runs context)
  | 0, _ => .ofExcept (.error .iterationLimit)
  | runs + 1, context => by
      rw [settle, settle]
      cases rule.run context with
      | done value => exact .ofExcept (.ok value.truthy)
      | failed error => exact .ofExcept (.error (.evaluation name rule.source error))
      | needs names =>
          exact .bind (loadAll_limitedTo names context) fun next =>
            settle_limitedTo name rule runs next

theorem prepare_limitedTo (request : Request) (cached : CachedRule) :
    LimitedTo delay limit (prepare ⟨delay, none⟩ request cached : Deciding σ Context)
      (prepare ⟨delay, some limit⟩ request cached) := by
  rw [prepare, prepare]
  cases readsOwnRecord cached.rule request.message with
  | true => exact .bind (.fetch _) fun own => .ofExcept _
  | false => exact .ofExcept _

/-- A limit cuts a decision by a rule off, or changes nothing. -/
theorem byRule_limitedTo (maxRuns : Nat) (request : Request) (cached : CachedRule) :
    LimitedTo delay limit (byRule ⟨delay, none⟩ maxRuns request cached : Deciding σ Bool)
      (byRule ⟨delay, some limit⟩ maxRuns request cached) := by
  rw [byRule, byRule]
  cases cached.rule.constant? with
  | some allowed => exact .ofExcept (.ok allowed)
  | none =>
      exact .bind (prepare_limitedTo request cached) fun context =>
        settle_limitedTo _ _ maxRuns context

end Decision

namespace Gatekeeper

variable {σ : Type} [RecordStore σ] {options : Options} {gatekeeper : Gatekeeper}

/-! ### Gatekeepers with a time limit -/

/-- The gatekeeper with another limit to the time that a decision may take, or none. -/
def withTimeout (gatekeeper : Gatekeeper) (timeout : Option Nat) : Gatekeeper :=
  { gatekeeper with options := { gatekeeper.options with evaluationTimeout := timeout } }

/-- The limit has no part in what a gatekeeper can be created with. -/
theorem Faithful.withTimeout (faithful : Faithful options gatekeeper) (timeout : Option Nat) :
    Faithful { options with evaluationTimeout := timeout } (gatekeeper.withTimeout timeout) where
  options_eq := by rw [Gatekeeper.withTimeout, faithful.options_eq]
  entries := faithful.entries
  valid := faithful.valid
  admitted := faithful.admitted

/-- What a decision comes to without a limit. -/
def authorizeFreely (gatekeeper : Gatekeeper) (delay : String → Nat) (store : σ)
    (request : Request) : Ruling σ :=
  (gatekeeper.withTimeout none).authorize delay store request

/-- A decision with a limit is the decision without one, or is cut off in one of its lookups. -/
theorem Faithful.exists_limited (faithful : Faithful options gatekeeper) {limit : Nat}
    (limited : options.evaluationTimeout = some limit) (delay : String → Nat) (store : σ)
    (request : Request) :
    ∃ names, Deciding.Waited delay (.start store) names
        (gatekeeper.authorizeFreely delay store request).session
      ∧ Deciding.Limited limit (.start store) names
        ((gatekeeper.authorizeFreely delay store request).result,
          (gatekeeper.authorizeFreely delay store request).session)
        ((gatekeeper.authorize delay store request).result,
          (gatekeeper.authorize delay store request).session) := by
  cases gated : gate request.message.topic request.message.action with
  | ungated =>
      simp only [authorizeFreely, Gatekeeper.authorize, gated]
      exact ⟨[], .nothing, .inTime (Nat.zero_le _)⟩
  | unmapped =>
      simp only [authorizeFreely, Gatekeeper.authorize, gated]
      exact ⟨[], .nothing, .inTime (Nat.zero_le _)⟩
  | rule kind ruleType =>
      have ruling := faithful.ruling_eq delay store gated
      have freely : ((gatekeeper.authorizeFreely delay store request).result,
            (gatekeeper.authorizeFreely delay store request).session)
          = Resolution.decide { options with evaluationTimeout := none } delay store request
            (gatekeeper.config.resolve options.defaultAllow
              ⟨kind, request.message.name, ruleType⟩) :=
        (faithful.withTimeout none).ruling_eq delay store gated
      have session := congrArg Prod.snd freely
      simp only at session
      rw [ruling, freely, session]
      rcases gatekeeper.config.resolve options.defaultAllow
        ⟨kind, request.message.name, ruleType⟩ with error | (allowed | cached)
      · exact ⟨[], .nothing, .inTime (Nat.zero_le _)⟩
      · exact ⟨[], .nothing, .inTime (Nat.zero_le _)⟩
      · obtain ⟨names, waited, limits⟩ :=
          Decision.byRule_limitedTo options.maxRuleIterations request cached (Session.start store)
        simp only [Resolution.decide, limited]
        exact ⟨names, waited, limits (Nat.zero_le _)⟩

end Gatekeeper

/-- What a time limit makes of a ruling: it discards it or does nothing to it, and leaves no trace.
-/
structure Ruling.DiscardedOnly {σ : Type} [RecordStore σ] (ruling : Ruling σ) (limit : Nat)
    (delay : String → Nat) (store : σ) (freely : Ruling σ) : Prop where
  /-- Less time than the limit, or no time at all, makes no difference. -/
  inTime : Deciding.totalDelay delay freely.session.fetched < limit
      ∨ (∀ name ∈ freely.session.fetched, delay name = 0) →
    ruling.result = freely.result ∧ ruling.session = freely.session
  /-- More time than the limit is an error after some of the lookups, in their order. For the last
  of them the store has not been asked. -/
  tooLate : limit < Deciding.totalDelay delay freely.session.fetched →
    ruling.result = .error (.timeout limit)
      ∧ ∃ front name, front ++ [name] <+: freely.session.fetched
        ∧ ruling.session = ⟨RecordStore.afterLookups store front, front ++ [name], limit⟩
  /-- Whatever happens next, every later decision is the one that there would have been without this
  limit, over any stores that answer alike. -/
  later : ∀ (events events' : List (Gatekeeper.Event σ)),
    List.Forall₂ Gatekeeper.Event.Alike events events' →
    ∀ (delay' : String → Nat) (next next' : σ), RecordStore.AnswerAlike next next' →
    ∀ request : Request,
      ((ruling.gatekeeper.afterAll events).authorize delay' next request).result
        = (((freely.gatekeeper.withTimeout (some limit)).afterAll events').authorize delay' next'
          request).result
      ∧ Deciding.Alike ((ruling.gatekeeper.afterAll events).authorize delay' next request).session
        (((freely.gatekeeper.withTimeout (some limit)).afterAll events').authorize delay' next'
          request).session
  /-- The stores that are left behind answer alike, if lookups change no answers. -/
  left : ∀ answer, RecordStore.Steady store answer →
    RecordStore.AnswerAlike ruling.session.store freely.session.store

namespace Gatekeeper

variable {σ : Type} [RecordStore σ] {options : Options} {gatekeeper : Gatekeeper}

/-- Whatever has happened to a gatekeeper, a time limit does nothing but discard decisions. -/
theorem authorize_discardedOnly (reached : Reached σ options gatekeeper) {limit : Nat}
    (limited : options.evaluationTimeout = some limit) (delay : String → Nat) (store : σ)
    (request : Request) :
    (gatekeeper.authorize delay store request).DiscardedOnly limit delay store
      (gatekeeper.authorizeFreely delay store request) := by
  have faithful := reached.faithful
  obtain ⟨names, waited, limits⟩ := faithful.exists_limited limited delay store request
  have fetched : (gatekeeper.authorizeFreely delay store request).session.fetched = names :=
    waited.fetched
  have elapsed : (gatekeeper.authorizeFreely delay store request).session.elapsed
      = Deciding.totalDelay delay names := waited.elapsed.trans (Nat.zero_add _)
  have twins : Twins options (gatekeeper.authorize delay store request).gatekeeper
      ((gatekeeper.authorizeFreely delay store request).gatekeeper.withTimeout (some limit)) := by
    have freely := ((faithful.withTimeout none).authorize delay store request).withTimeout
      (some limit)
    rw [← limited] at freely ⊢
    refine ⟨faithful.authorize delay store request, freely, ?_⟩
    have keeps := (gatekeeper.withTimeout none).config_authorize delay store request
    exact (gatekeeper.config_authorize delay store request).trans keeps.symm
  refine ⟨?inTime, ?tooLate, ?later, ?left⟩
  case inTime =>
    intro early
    have inTime : (gatekeeper.authorizeFreely delay store request).session.elapsed ≤ limit := by
      rw [elapsed, ← fetched]
      rcases early with shorter | noDelay
      · exact Nat.le_of_lt shorter
      · rw [Deciding.totalDelay_eq_zero noDelay]
        exact Nat.zero_le limit
    exact Prod.ext_iff.mp (limits.eq_of_inTime inTime)
  case tooLate =>
    intro late
    rw [fetched, ← elapsed] at late
    obtain ⟨front, name, isFront, ended⟩ := limits.exists_of_late late
    obtain ⟨result, session⟩ := Prod.ext_iff.mp ended
    refine ⟨result, front, name, ?_, session⟩
    rw [fetched]
    exact isFront
  case later =>
    intro events events' alike delay' next next' alikeStores request'
    exact (twins.afterAll alike).authorize delay' alikeStores request'
  case left =>
    intro answer steady
    have freely : RecordStore.Steady
        (gatekeeper.authorizeFreely delay store request).session.store answer := by
      rw [waited.store]
      exact steady.afterLookups names
    refine RecordStore.Steady.answerAlike ?_ freely
    by_cases late : limit < (gatekeeper.authorizeFreely delay store request).session.elapsed
    · obtain ⟨front, name, _, ended⟩ := limits.exists_of_late late
      have session := congrArg Prod.snd ended
      simp only at session
      rw [session]
      exact steady.afterLookups front
    · have ended := limits.eq_of_inTime (Nat.le_of_not_lt late)
      have session := congrArg Prod.snd ended
      simp only at session
      rw [session]
      exact freely

/-- A gatekeeper for doors that takes no longer than seven milliseconds. -/
def hastyDoorkeeper : Gatekeeper := doorkeeper.withTimeout (some 7)

/-- The lookups of the door and of its key take ten milliseconds, so that the owner gets no answer.
-/
theorem discardedOnly_hastyDoorkeeper :
    (hastyDoorkeeper.authorizeFreely (fun _ => 5) doorStore doorRequest).session.fetched
        = ["door/1", "key/7"]
      ∧ (hastyDoorkeeper.authorize (fun _ => 5) doorStore doorRequest).result.toOption = none
      ∧ (hastyDoorkeeper.authorize (fun _ => 5) doorStore doorRequest).DiscardedOnly 7 (fun _ => 5)
        doorStore (hastyDoorkeeper.authorizeFreely (fun _ => 5) doorStore doorRequest) := by
  have fetched :
      (hastyDoorkeeper.authorizeFreely (fun _ => 5) doorStore doorRequest).session.fetched
        = ["door/1", "key/7"] := by decide +kernel
  have reached : Reached Store { Options.default with evaluationTimeout := some 7 }
      hastyDoorkeeper := ⟨_, hastyDoorkeeper, [], create_eq_ok_iff.mpr ⟨rfl, rfl, rfl⟩, rfl⟩
  have discards := authorize_discardedOnly reached rfl (fun _ => 5) doorStore doorRequest
  have late : 7 < Deciding.totalDelay (fun _ => 5)
      (hastyDoorkeeper.authorizeFreely (fun _ => 5) doorStore doorRequest).session.fetched := by
    rw [fetched]
    decide
  refine ⟨fetched, ?_, discards⟩
  rw [(discards.tooLate late).1]
  rfl

end Gatekeeper

end AccessRules
