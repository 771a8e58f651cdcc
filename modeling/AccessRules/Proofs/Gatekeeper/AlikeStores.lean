import AccessRules.Proofs.Gatekeeper.LookedUpOnce
import Mathlib.Data.List.Forall2

/-!
# Stores that answer alike

A decision takes from its store nothing but answers. Over two stores that answer alike, whatever has
been looked up in each of them before, it comes to the same after the same lookups.
-/

namespace AccessRules

namespace RecordStore

variable {σ : Type} [RecordStore σ]

/-- Two stores answer alike, and go on to, whatever is looked up. -/
def AnswerAlike (store store' : σ) : Prop :=
  ∀ (asked : List String) (name : String),
    (get (afterLookups store asked) name).1 = (get (afterLookups store' asked) name).1

theorem AnswerAlike.next {store store' : σ} (alike : AnswerAlike store store') (name : String) :
    AnswerAlike (get store name).2 (get store' name).2 :=
  fun asked other => alike (name :: asked) other

theorem Steady.afterLookups {store : σ} {answer : Answer} (steady : Steady store answer)
    (names : List String) : Steady (afterLookups store names) answer := by
  intro asked name
  rw [← afterLookups_append]
  exact steady (names ++ asked) name

/-- Steady stores with the same answers answer alike. -/
theorem Steady.answerAlike {store store' : σ} {answer : Answer} (steady : Steady store answer)
    (steady' : Steady store' answer) : AnswerAlike store store' := by
  intro asked name
  rw [steady asked name, steady' asked name]

end RecordStore

namespace Deciding

variable {σ α β : Type} [RecordStore σ]

/-- Two sessions with the same lookups in the same time, and stores that answer alike. -/
structure Alike (session session' : Session σ) : Prop where
  store : RecordStore.AnswerAlike session.store session'.store
  fetched : session.fetched = session'.fetched
  elapsed : session.elapsed = session'.elapsed

/-- A part of a decision makes no difference between sessions that are alike. -/
def Indifferent (part : Deciding σ α) : Prop :=
  ∀ session session' : Session σ, Alike session session' →
    (part.run.run session).1 = (part.run.run session').1
      ∧ Alike (part.run.run session).2 (part.run.run session').2

namespace Indifferent

theorem ofExcept (result : Except DecisionError α) :
    Indifferent (ofExcept result : Deciding σ α) :=
  fun _ _ alike => ⟨rfl, alike⟩

theorem bind {part : Deciding σ α} {next : α → Deciding σ β} (first : Indifferent part)
    (second : ∀ value, Indifferent (next value)) : Indifferent (part >>= next) := by
  intro session session' alike
  have same := first session session' alike
  rw [run_bind, run_bind]
  obtain ⟨result, after, ran⟩ : ∃ result after, part.run.run session = (result, after) :=
    ⟨_, _, rfl⟩
  obtain ⟨result', after', ran'⟩ : ∃ result after, part.run.run session' = (result, after) :=
    ⟨_, _, rfl⟩
  rw [ran, ran'] at same ⊢
  obtain ⟨rfl, alike'⟩ := same
  cases result with
  | error error => exact ⟨rfl, alike'⟩
  | ok value => exact second value after after' alike'

theorem note (name : String) : Indifferent (note name : Deciding σ Unit) := by
  intro session session' alike
  exact ⟨rfl, alike.store, congrArg (· ++ [name]) alike.fetched, alike.elapsed⟩

theorem spend (timing : Timing) (duration : Nat) :
    Indifferent (spend timing duration : Deciding σ Unit) := by
  intro session session' alike
  have started (session : Session σ) :
      (get : Deciding σ (Session σ)).run.run session = (.ok session, session) := rfl
  rw [Deciding.spend, run_bind, run_bind, started, started]
  simp only [alike.elapsed]
  cases timing.limit.filter (· < session'.elapsed + duration) with
  | some limit => exact ⟨rfl, alike.store, alike.fetched, rfl⟩
  | none => exact ⟨rfl, alike.store, alike.fetched, rfl⟩

theorem ask (name : String) : Indifferent (ask name : Deciding σ (Option Json)) := by
  intro session session' alike
  rw [run_ask, run_ask]
  have same : (RecordStore.get session.store name).1 = (RecordStore.get session'.store name).1 :=
    alike.store [] name
  exact ⟨by rw [same], alike.store.next name, alike.fetched, alike.elapsed⟩

theorem fetch (timing : Timing) (name : String) :
    Indifferent (fetch timing name : Deciding σ (Option Json)) :=
  .bind (.note name) fun _ => .bind (.spend timing _) fun _ => .ask name

end Indifferent

end Deciding

namespace Decision

open Deciding

variable {σ : Type} [RecordStore σ]

theorem loadAll_indifferent (timing : Timing) :
    ∀ (names : List String) (context : Context),
      Indifferent (loadAll timing names context : Deciding σ Context)
  | [], context => .ofExcept (.ok context)
  | name :: names, context => by
      rw [loadAll]
      exact .bind (.fetch timing name) fun data => loadAll_indifferent timing names _

theorem settle_indifferent (timing : Timing) (name : String) (rule : CompiledRule) :
    ∀ (runs : Nat) (context : Context),
      Indifferent (settle timing name rule runs context : Deciding σ Bool)
  | 0, _ => .ofExcept (.error .iterationLimit)
  | runs + 1, context => by
      rw [settle]
      cases rule.run context with
      | done value => exact .ofExcept (.ok value.truthy)
      | failed error => exact .ofExcept (.error (.evaluation name rule.source error))
      | needs names =>
          exact .bind (loadAll_indifferent timing names context) fun next =>
            settle_indifferent timing name rule runs next

theorem prepare_indifferent (timing : Timing) (request : Request) (cached : CachedRule) :
    Indifferent (prepare timing request cached : Deciding σ Context) := by
  rw [prepare]
  cases readsOwnRecord cached.rule request.message with
  | true => exact .bind (.fetch timing _) fun own => .ofExcept _
  | false => exact .ofExcept _

theorem byRule_indifferent (timing : Timing) (maxRuns : Nat) (request : Request)
    (cached : CachedRule) :
    Indifferent (byRule timing maxRuns request cached : Deciding σ Bool) := by
  rw [byRule]
  cases cached.rule.constant? with
  | some allowed => exact .ofExcept (.ok allowed)
  | none =>
      exact .bind (prepare_indifferent timing request cached) fun context =>
        settle_indifferent timing _ _ maxRuns context

end Decision

namespace Gatekeeper

variable {σ : Type} [RecordStore σ] {options : Options} {gatekeeper other : Gatekeeper}

/-! ### Gatekeepers with one configuration -/

theorem config_resolve (gatekeeper : Gatekeeper) (key : CacheKey) :
    (gatekeeper.resolve key).2.config = gatekeeper.config := by
  have kept : (gatekeeper.cached key).2.config = gatekeeper.config := rfl
  rw [resolve]
  cases found : gatekeeper.cached key with
  | mk found? after =>
      rw [found] at kept
      cases found? with
      | some cached => exact kept
      | none =>
          simp only
          split <;> exact kept

/-- No decision changes the configuration. -/
theorem config_authorize (gatekeeper : Gatekeeper) (delay : String → Nat) (store : σ)
    (request : Request) :
    (gatekeeper.authorize delay store request).gatekeeper.config = gatekeeper.config := by
  rw [authorize]
  split
  · rfl
  · rfl
  · rename_i kind ruleType gated
    have kept := gatekeeper.config_resolve ⟨kind, request.message.name, ruleType⟩
    split <;> rename_i resolved <;> rw [resolved] at kept <;> exact kept

/-- What happens in two histories alike: the same, but for stores that answer alike. -/
inductive Event.Alike : Event σ → Event σ → Prop where
  | authorize (delay : String → Nat) {store store' : σ} (request : Request)
      (alike : RecordStore.AnswerAlike store store') :
      Alike (.authorize delay store request) (.authorize delay store' request)
  | useConfig (config : Config) : Alike (.useConfig config) (.useConfig config)
  | sweep : Alike .sweep .sweep
  | startSweeper : Alike .startSweeper .startSweeper
  | pass (duration : Nat) : Alike (.pass duration) (.pass duration)

/-- Two gatekeepers with the same options and the same configuration. Their caches may differ. -/
structure Twins (options : Options) (gatekeeper other : Gatekeeper) : Prop where
  faithful : Faithful options gatekeeper
  faithful' : Faithful options other
  config : gatekeeper.config = other.config

namespace Twins

/-- Twins decide alike, after the same lookups in the same time. -/
theorem authorize (twins : Twins options gatekeeper other) (delay : String → Nat)
    {store store' : σ} (alike : RecordStore.AnswerAlike store store') (request : Request) :
    (gatekeeper.authorize delay store request).result
        = (other.authorize delay store' request).result
      ∧ Deciding.Alike (gatekeeper.authorize delay store request).session
        (other.authorize delay store' request).session := by
  have start : Deciding.Alike (Session.start store) (Session.start store') := ⟨alike, rfl, rfl⟩
  cases gated : gate request.message.topic request.message.action with
  | ungated =>
      simp only [Gatekeeper.authorize, gated]
      exact ⟨trivial, start⟩
  | unmapped =>
      simp only [Gatekeeper.authorize, gated]
      exact ⟨trivial, start⟩
  | rule kind ruleType =>
      have one := twins.faithful.ruling_eq delay store gated
      have two := twins.faithful'.ruling_eq delay store' gated
      rw [twins.config] at one
      obtain ⟨result, session⟩ := Prod.ext_iff.mp one
      obtain ⟨result', session'⟩ := Prod.ext_iff.mp two
      simp only at result session result' session'
      rw [result, session, result', session']
      rcases other.config.resolve options.defaultAllow ⟨kind, request.message.name, ruleType⟩ with
        error | (allowed | cached)
      · exact ⟨rfl, start⟩
      · exact ⟨rfl, start⟩
      · exact Decision.byRule_indifferent _ _ request cached _ _ start

theorem after (twins : Twins options gatekeeper other) {event event' : Event σ}
    (alike : Event.Alike event event') :
    Twins options (gatekeeper.after event) (other.after event') := by
  refine ⟨twins.faithful.after event, twins.faithful'.after event', ?_⟩
  cases alike with
  | authorize delay request alike =>
      rw [Gatekeeper.after, Gatekeeper.after, config_authorize, config_authorize, twins.config]
  | useConfig config =>
      have sameOptions : gatekeeper.options = other.options :=
        twins.faithful.options_eq.trans twins.faithful'.options_eq.symm
      rw [Gatekeeper.after, Gatekeeper.after, run_replaceConfig, run_replaceConfig, sameOptions]
      cases admits other.options config with
      | error error => exact twins.config
      | ok _ => rfl
  | sweep => exact twins.config
  | startSweeper => exact twins.config
  | pass duration => exact twins.config

/-- Twins stay twins, whatever happens to both. -/
theorem afterAll (twins : Twins options gatekeeper other) {events events' : List (Event σ)}
    (alike : List.Forall₂ Event.Alike events events') :
    Twins options (gatekeeper.afterAll events) (other.afterAll events') := by
  induction alike generalizing gatekeeper other with
  | nil => exact twins
  | cons first _ inductionHypothesis => exact inductionHypothesis (twins.after first)

end Twins

end Gatekeeper

end AccessRules
