import AccessRules.Proofs.Cache.Tasks
import AccessRules.Proofs.Gatekeeper.History
import AccessRules.Proofs.Gatekeeper.SingleRun

/-!
# Gatekeepers and their sweepers

What a gatekeeper does to its cache is a course of events of a cache on a clock: a request fetches
the rule for its name, puts it in if it was not there, and lets the time of its lookups pass. So the
rules of a gatekeeper get from its sweeper what the entries of every cache get.
-/

namespace AccessRules

/-- What the rule for a request is cached under, if a rule decides on it. -/
def Request.key? (request : Request) : Option CacheKey :=
  match gate request.message.topic request.message.action with
  | .rule kind ruleType => some ⟨kind, request.message.name, ruleType⟩
  | _ => none

/-- The rule that a name is resolved to. -/
def Resolution.rule? : Except DecisionError Resolution → Option CachedRule
  | .ok (.compiled cached) => some cached
  | _ => none

namespace Gatekeeper

variable {σ : Type}

/-- The rule that has to be put into the cache for a key, as it is not there. -/
def missing? (gatekeeper : Gatekeeper) (key : CacheKey) : Option CachedRule :=
  match (gatekeeper.cached key).1 with
  | some _ => none
  | none => Resolution.rule? (gatekeeper.config.resolve gatekeeper.options.defaultAllow key)

/-- What happens to the cache when the rule for a key is resolved: it is fetched, and put in if it
was not there. -/
def resolving (gatekeeper : Gatekeeper) (key : CacheKey) : List TimedCache.Event :=
  .operate (.get key) ::
    ((gatekeeper.missing? key).map fun cached =>
      TimedCache.Event.operate (.set key cached)).toList

/-- What happens to the cache when a request for a key has been resolved: if it was to a rule, the
time of the lookups passes. -/
def waiting (gatekeeper : Gatekeeper) (key : CacheKey) (elapsed : Nat) : List TimedCache.Event :=
  ((Resolution.rule? (gatekeeper.resolve key).1).map fun _ =>
    TimedCache.Event.pass elapsed).toList

variable [RecordStore σ]

/-- What happens to the cache of a gatekeeper with an event. -/
def cacheEvents (gatekeeper : Gatekeeper) : Event σ → List TimedCache.Event
  | .authorize delay store request =>
      match request.key? with
      | some key => gatekeeper.resolving key
          ++ gatekeeper.waiting key (gatekeeper.authorize delay store request).session.elapsed
      | none => []
  | .useConfig config =>
      match gatekeeper.useConfig config with
      | .ok _ => [.operate .reset]
      | .error _ => []
  | .sweep => [.operate .sweep]
  | .startSweeper => [.start gatekeeper.options.cacheEvacuationInterval]
  | .pass duration => [.pass duration]

/-- What happens to the cache of a gatekeeper with events, one after the other. -/
def cacheHistory : Gatekeeper → List (Event σ) → List TimedCache.Event
  | _, [] => []
  | gatekeeper, event :: events =>
      gatekeeper.cacheEvents event ++ (gatekeeper.after event).cacheHistory events

/-- Whether an event uses the rule under a key: it is a request that is resolved to the rule. -/
def UsesRule (key : CacheKey) (gatekeeper : Gatekeeper) : Event σ → Prop
  | .authorize _ _ request =>
      request.key? = some key ∧ (Resolution.rule? (gatekeeper.resolve key).1).isSome = true
  | _ => False

/-- None of the events, one after the other, uses the rule under the key. -/
def Idle (key : CacheKey) : Gatekeeper → List (Event σ) → Prop
  | _, [] => True
  | gatekeeper, event :: events =>
      ¬ UsesRule key gatekeeper event ∧ Idle key (gatekeeper.after event) events

/-- Whether an event drops no rule out of turn. -/
def Event.dropsNone : Event σ → Bool
  | .useConfig _ => false
  | .sweep => false
  | _ => true

section

variable {gatekeeper : Gatekeeper} {key : CacheKey}

/-! ### What happens to the cache -/

omit [RecordStore σ] in
theorem cache_resolve (gatekeeper : Gatekeeper) (key : CacheKey) :
    (gatekeeper.resolve key).2.cache
      = gatekeeper.cache.afterAll (gatekeeper.resolving key) := by
  have fetched : (gatekeeper.cached key).2.cache
      = gatekeeper.cache.after (.operate (.get key)) := rfl
  rw [resolve, resolving, missing?]
  generalize gatekeeper.cached key = fetching at fetched ⊢
  obtain ⟨found?, after⟩ := fetching
  cases found? with
  | some found => exact fetched
  | none =>
      rcases gatekeeper.config.resolve gatekeeper.options.defaultAllow key with
        error | (allowed | cached)
      · exact fetched
      · exact fetched
      · exact congrArg (TimedCache.set · key cached) fetched

omit [RecordStore σ] in
/-- A name is resolved to a rule if the rule is fetched, or missing and put in. -/
theorem rule?_resolve (gatekeeper : Gatekeeper) (key : CacheKey) :
    Resolution.rule? (gatekeeper.resolve key).1
      = (gatekeeper.cached key).1.or (gatekeeper.missing? key) := by
  rw [resolve, missing?]
  obtain ⟨found?, after⟩ := gatekeeper.cached key
  cases found? with
  | some found => rfl
  | none =>
      rcases gatekeeper.config.resolve gatekeeper.options.defaultAllow key with
        error | (allowed | cached) <;> rfl

theorem cache_authorize (gatekeeper : Gatekeeper) (delay : String → Nat) (store : σ)
    (request : Request) :
    (gatekeeper.authorize delay store request).gatekeeper.cache
      = gatekeeper.cache.afterAll
        (gatekeeper.cacheEvents (.authorize delay store request)) := by
  rw [cacheEvents, Request.key?]
  cases gated : gate request.message.topic request.message.action with
  | ungated =>
      simp only [authorize, gated]
      rfl
  | unmapped =>
      simp only [authorize, gated]
      rfl
  | rule kind ruleType =>
      have resolved := gatekeeper.cache_resolve ⟨kind, request.message.name, ruleType⟩
      simp only [authorize, gated, waiting, TimedCache.afterAll_append, ← resolved]
      rcases gatekeeper.resolve ⟨kind, request.message.name, ruleType⟩ with
        ⟨error | (allowed | cached), after⟩ <;> rfl

/-- What an event does to the cache. -/
theorem cache_after (gatekeeper : Gatekeeper) (event : Event σ) :
    (gatekeeper.after event).cache
      = gatekeeper.cache.afterAll (gatekeeper.cacheEvents event) := by
  cases event with
  | authorize delay store request => exact gatekeeper.cache_authorize delay store request
  | useConfig config =>
      rw [cacheEvents]
      cases used : gatekeeper.useConfig config with
      | error error =>
          rw [after_useConfig_of_error used]
          rfl
      | ok next =>
          rw [after_useConfig_of_ok used, (useConfig_eq_ok used).2]
          rfl
  | sweep => rfl
  | startSweeper => rfl
  | pass duration => rfl

/-- What events of any number do to the cache. -/
theorem cache_afterAll (gatekeeper : Gatekeeper) (events : List (Event σ)) :
    (gatekeeper.afterAll events).cache
      = gatekeeper.cache.afterAll (gatekeeper.cacheHistory events) := by
  induction events generalizing gatekeeper with
  | nil => rfl
  | cons event events inductionHypothesis =>
      rw [cacheHistory, TimedCache.afterAll_append, ← cache_after]
      exact inductionHypothesis _

/-- What happens to the cache with a request: operations that drop nothing, and time. -/
theorem of_mem_cacheEvents {delay : String → Nat} {store : σ} {request : Request}
    {event : TimedCache.Event}
    (member : event ∈ gatekeeper.cacheEvents (.authorize delay store request)) :
    event.isStart = false ∧ ∀ period, event.Mild period := by
  rw [cacheEvents] at member
  split at member
  · next key _ =>
    rw [resolving, waiting, List.cons_append, List.mem_cons, List.mem_append] at member
    simp only [Option.mem_toList, Option.map_eq_some_iff] at member
    rcases member with rfl | ⟨cached, _, rfl⟩ | ⟨_, _, rfl⟩ <;>
      simp [TimedCache.Event.isStart, TimedCache.Event.Mild]
  · cases member

/-- The sweepers that are started all have the period of the options. -/
theorem Faithful.period_eq_of_mem {options : Options} (faithful : Faithful options gatekeeper)
    {events : List (Event σ)} {period : Nat}
    (member : .start period ∈ gatekeeper.cacheHistory events) :
    period = options.cacheEvacuationInterval := by
  induction events generalizing gatekeeper with
  | nil => cases member
  | cons event events inductionHypothesis =>
      rcases List.mem_append.mp member with now | later
      · cases event with
        | authorize delay store request => cases (of_mem_cacheEvents now).1
        | useConfig config =>
            rw [cacheEvents] at now
            split at now <;> simp at now
        | sweep => simp [cacheEvents] at now
        | startSweeper =>
            simpa [cacheEvents, faithful.options_eq] using now
        | pass duration => simp [cacheEvents] at now
      · exact inductionHypothesis (faithful.after event) later

/-- Where no rule is dropped out of turn, nothing happens to the cache that could do so. -/
theorem Faithful.mild_of_mem {options : Options} (faithful : Faithful options gatekeeper)
    {events : List (Event σ)} (keeps : ∀ event ∈ events, event.dropsNone = true)
    {event : TimedCache.Event} (member : event ∈ gatekeeper.cacheHistory events) :
    event.Mild options.cacheEvacuationInterval := by
  induction events generalizing gatekeeper with
  | nil => cases member
  | cons first events inductionHypothesis =>
      rcases List.mem_append.mp member with now | later
      · have kept := keeps first List.mem_cons_self
        cases first with
        | authorize delay store request => exact (of_mem_cacheEvents now).2 _
        | useConfig config => cases kept
        | sweep => cases kept
        | startSweeper =>
            cases List.mem_singleton.mp now
            exact Nat.le_of_eq (congrArg _ faithful.options_eq.symm)
        | pass duration =>
            cases List.mem_singleton.mp now
            exact trivial
      · exact inductionHypothesis (faithful.after first)
          (fun other among => keeps other (List.mem_cons_of_mem first among)) later

/-- Where no sweeper is started, none is started for the cache. -/
theorem isStart_of_mem {events : List (Event σ)} (noStart : .startSweeper ∉ events)
    {event : TimedCache.Event} (member : event ∈ gatekeeper.cacheHistory events) :
    event.isStart = false := by
  induction events generalizing gatekeeper with
  | nil => cases member
  | cons first events inductionHypothesis =>
      rcases List.mem_append.mp member with now | later
      · cases first with
        | authorize delay store request => exact (of_mem_cacheEvents now).1
        | useConfig config =>
            rw [cacheEvents] at now
            split at now
            · cases List.mem_singleton.mp now
              rfl
            · cases now
        | sweep =>
            cases List.mem_singleton.mp now
            rfl
        | startSweeper => exact absurd List.mem_cons_self noStart
        | pass duration =>
            cases List.mem_singleton.mp now
            rfl
      · exact inductionHypothesis (fun among => noStart (List.mem_cons_of_mem first among)) later

/-! ### Uses of rules -/

/-- A request that is resolved to a rule uses its entry at once, and then lets time pass. -/
theorem exists_use {event : Event σ} (uses : UsesRule key gatekeeper event) :
    ∃ before use wait, gatekeeper.cacheEvents event = before ++ use :: [.pass wait]
      ∧ TimedCache.Uses key (gatekeeper.cache.afterAll before) use
      ∧ ((gatekeeper.cache.afterAll before).after use).now = gatekeeper.cache.now
      ∧ ((gatekeeper.cache.afterAll before).after use).sweeper = gatekeeper.cache.sweeper := by
  cases event with
  | authorize delay store request =>
      obtain ⟨asked, resolved⟩ := uses
      obtain ⟨cached, ruled⟩ := Option.isSome_iff_exists.mp resolved
      rw [cacheEvents, asked]
      simp only [waiting, ruled, resolving]
      rw [rule?_resolve] at ruled
      cases missing : gatekeeper.missing? key with
      | none =>
          rw [missing, Option.or_none] at ruled
          refine ⟨[], .operate (.get key), _, rfl, ⟨rfl, ?_⟩, rfl, rfl⟩
          exact Option.isSome_of_eq_some ruled
      | some rule => exact ⟨[.operate (.get key)], .operate (.set key rule), _, rfl, rfl, rfl, rfl⟩
  | useConfig config => cases uses
  | sweep => cases uses
  | startSweeper => cases uses
  | pass duration => cases uses

/-- An event that does not use a rule does not use its entry. -/
theorem idle_cacheEvents {event : Event σ} (noUse : ¬ UsesRule key gatekeeper event) :
    TimedCache.Idle key gatekeeper.cache (gatekeeper.cacheEvents event) := by
  cases event with
  | authorize delay store request =>
      rw [cacheEvents]
      split
      · next other asked =>
        have unresolved : other = key → (gatekeeper.cached other).1 = none
            ∧ gatekeeper.missing? other = none := by
          rintro rfl
          have noRule : Resolution.rule? (gatekeeper.resolve other).1 = none := by
            by_contra rule
            exact noUse ⟨asked, Option.isSome_iff_ne_none.mpr rule⟩
          rwa [rule?_resolve, Option.or_eq_none_iff] at noRule
        rw [TimedCache.idle_append]
        constructor
        · refine ⟨?_, ?_⟩
          · rintro ⟨same, found⟩
            rw [← same] at found
            change (gatekeeper.cached other).1.isSome = true at found
            rw [(unresolved same).1] at found
            cases found
          · cases missing : gatekeeper.missing? other with
            | none => exact trivial
            | some rule =>
                refine ⟨fun same => ?_, trivial⟩
                rw [(unresolved same).2] at missing
                cases missing
        · rw [waiting]
          cases Resolution.rule? (gatekeeper.resolve other).1 with
          | none => exact trivial
          | some rule => exact ⟨id, trivial⟩
      · exact trivial
  | useConfig config =>
      rw [cacheEvents]
      split
      · exact ⟨id, trivial⟩
      · exact trivial
  | sweep => exact ⟨id, trivial⟩
  | startSweeper => exact ⟨id, trivial⟩
  | pass duration => exact ⟨id, trivial⟩

/-- Events of any number. -/
theorem idle_cacheHistory {events : List (Event σ)} (idle : gatekeeper.Idle key events) :
    TimedCache.Idle key gatekeeper.cache (gatekeeper.cacheHistory events) := by
  induction events generalizing gatekeeper with
  | nil => exact trivial
  | cons event events inductionHypothesis =>
      rw [cacheHistory, TimedCache.idle_append, ← cache_after]
      exact ⟨idle_cacheEvents idle.1, inductionHypothesis idle.2⟩

end

/-- What a gatekeeper with sweeps at this interval grants a rule that an event uses. -/
structure GrantsRule (period : Nat) (key : CacheKey) (gatekeeper : Gatekeeper) (event : Event σ)
    (further : List (Event σ)) : Prop where
  /-- It stays in the cache as long as less than an interval has gone by, whether or not the sweeper
  is started again. -/
  present : (∀ other ∈ further, other.dropsNone = true) →
    (gatekeeper.afterAll (event :: further)).cache.now < gatekeeper.cache.now + period →
    (gatekeeper.afterAll (event :: further)).cache.cache.has key = true
  /-- Without another use it is gone when more than two intervals of a sweeper have gone by. -/
  gone : gatekeeper.cache.sweeper.isSome = true → .startSweeper ∉ further →
    (gatekeeper.after event).Idle key further →
    gatekeeper.cache.now + 2 * period < (gatekeeper.afterAll (event :: further)).cache.now →
    (gatekeeper.afterAll (event :: further)).cache.cache.has key = false

theorem cacheEvacuationInterval_pos {options : Options} (valid : options.validate = .ok ()) :
    0 < options.cacheEvacuationInterval := by
  rw [Options.validate] at valid
  split at valid
  · cases valid
  · split at valid
    · cases valid
    · next someTime => exact Nat.pos_of_ne_zero someTime

/-- The cache of a gatekeeper is what its history has made of an empty one. -/
theorem cache_lived {config : Config} {options : Options} {start : Gatekeeper}
    (created : create config options = .ok start) (events : List (Event σ)) :
    (start.afterAll events).cache = TimedCache.lived (start.cacheHistory events) := by
  rw [cache_afterAll, (create_eq_ok_iff.mp created).2.2]
  rfl

/-- Whatever has happened to a gatekeeper, its rules are granted one interval at least and two at
most. -/
theorem grantsRule_of_usesRule {config : Config} {options : Options} {start : Gatekeeper}
    (created : create config options = .ok start) (before : List (Event σ)) {key : CacheKey}
    {event : Event σ} (uses : UsesRule key (start.afterAll before) event)
    (further : List (Event σ)) :
    GrantsRule options.cacheEvacuationInterval key (start.afterAll before) event further := by
  have faithful := (Faithful.create created).afterAll before
  have positive := cacheEvacuationInterval_pos faithful.valid
  have built := cache_lived created before
  have periods : ∀ sweeper ∈ (start.afterAll before).cache.sweeper,
      sweeper.period = options.cacheEvacuationInterval := by
    rw [built]
    exact @TimedCache.period_lived (· = options.cacheEvacuationInterval) _ fun period member =>
      (Faithful.create created).period_eq_of_mem member
  obtain ⟨first, use, wait, steps, usesKey, sameTime, sameSweeper⟩ := exists_use uses
  have used : ((start.afterAll before).cache.afterAll first).after use
      = TimedCache.lived (start.cacheHistory before ++ first ++ [use]) := by
    rw [TimedCache.lived_snoc, TimedCache.lived_append, built]
  have spent : ((start.afterAll before).after event).cache
      = (TimedCache.lived (start.cacheHistory before ++ first ++ [use])).after (.pass wait) := by
    rw [cache_after, steps, ← used, TimedCache.afterAll_append]
    rfl
  have ended : ((start.afterAll before).afterAll (event :: further)).cache
      = (TimedCache.lived (start.cacheHistory before ++ first ++ [use])).afterAll
        (.pass wait :: ((start.afterAll before).after event).cacheHistory further) := by
    change (((start.afterAll before).after event).afterAll further).cache = _
    rw [cache_afterAll, spent]
    rfl
  rw [built, ← TimedCache.lived_append] at usesKey
  obtain ⟨present, gone⟩ := TimedCache.grants_of_uses positive usesKey
    (.pass wait :: ((start.afterAll before).after event).cacheHistory further)
  rw [← ended, ← used, sameTime, sameSweeper] at present gone
  constructor
  case present =>
    intro keeps early
    apply present _ _ early
    · intro sweeper running
      exact Nat.le_of_eq (periods sweeper running).symm
    · intro other member
      rcases List.mem_cons.mp member with rfl | later
      · exact trivial
      · exact (faithful.after event).mild_of_mem keeps later
  case gone =>
    intro runs noStart idle late
    apply gone _ _ _ late
    · obtain ⟨sweeper, running⟩ := Option.isSome_iff_exists.mp runs
      rw [← periods sweeper running]
      exact ⟨_, running⟩
    · intro other member
      rcases List.mem_cons.mp member with rfl | later
      · rfl
      · exact isStart_of_mem noStart later
    · refine ⟨id, ?_⟩
      rw [used, ← spent]
      exact idle_cacheHistory idle

end Gatekeeper

/-- What sweeps at this interval do for the entries of caches and the rules of gatekeepers. -/
structure Sweeping (period : Nat) : Prop where
  /-- The sweeps of a cache fall on the multiples of the interval from the start of its sweeper on,
  whichever other sweepers have run before. -/
  onTime : ∀ (history further : List TimedCache.Event),
    (∀ event ∈ further, event.isStart = false) →
    (TimedCache.lived (history ++ .start period :: further)).SweepsOnTime period
      (TimedCache.lived history).now
  /-- In particular the start itself sweeps nothing, nor does any time short of an interval. -/
  quietStart : ∀ (history : List TimedCache.Event) (duration : Nat), duration < period →
    (TimedCache.lived (history ++ [.start period, .pass duration])).cache
      = (TimedCache.lived history).cache
  /-- An entry of a cache is granted one interval at least and two at most. -/
  entries : ∀ (history : List TimedCache.Event) (key : CacheKey) (event : TimedCache.Event),
    TimedCache.Uses key (TimedCache.lived history) event →
    ∀ further, TimedCache.Grants period key (TimedCache.lived (history ++ [event])) further
  /-- So is a rule of a gatekeeper with this interval. -/
  rules : ∀ {σ : Type} [RecordStore σ] (config : Config) (options : Options) (start : Gatekeeper),
    options.cacheEvacuationInterval = period → Gatekeeper.create config options = .ok start →
    ∀ (before : List (Gatekeeper.Event σ)) (key : CacheKey) (event : Gatekeeper.Event σ),
      Gatekeeper.UsesRule key (start.afterAll before) event →
      ∀ further, Gatekeeper.GrantsRule period key (start.afterAll before) event further
  /-- All this is done by tasks of which each start spawns a further one: the one that was spawned
  last is the only one that goes on. -/
  tasks : ∀ history : List TimedCache.Event, (∀ other, .start other ∈ history → 0 < other) →
    (TaskedCache.lived history).SweptByOne (TimedCache.lived history)
  /-- So it is for gatekeepers with this interval. -/
  ruleTasks : ∀ {σ : Type} [RecordStore σ] (config : Config) (options : Options)
    (start : Gatekeeper), options.cacheEvacuationInterval = period →
    Gatekeeper.create config options = .ok start → ∀ events : List (Gatekeeper.Event σ),
      (TaskedCache.lived (start.cacheHistory events)).SweptByOne (start.afterAll events).cache

/-- A sweeper with any interval grants one interval at least and two at most. -/
theorem sweeping_of_pos {period : Nat} (positive : 0 < period) : Sweeping period where
  onTime history _ noStart := TimedCache.sweepsOnTime_of_start positive history noStart
  quietStart history duration short := by
    rw [TimedCache.lived_append]
    change (((TimedCache.lived history).startSweeper period).pass duration).cache = _
    have early : (TimedCache.lived history).now + duration
        < (Sweeper.start (TimedCache.lived history).now period).next :=
      Nat.add_lt_add_left short _
    rw [TimedCache.startSweeper, TimedCache.pass]
    simp only
    rw [Sweeper.due_of_lt early]
    rfl
  entries _ _ _ uses further := TimedCache.grants_of_uses positive uses further
  rules := by
    rintro σ _ config options start rfl created before key event uses further
    exact Gatekeeper.grantsRule_of_usesRule created before uses further
  tasks _ periods := (TaskedCache.mirrors_lived periods).sweptByOne
  ruleTasks := by
    rintro σ _ config options start rfl created events
    rw [Gatekeeper.cache_lived created]
    apply TaskedCache.Mirrors.sweptByOne
    apply TaskedCache.mirrors_lived
    intro other started
    rw [(Gatekeeper.Faithful.create created).period_eq_of_mem started]
    exact positive

namespace Gatekeeper

/-- What has happened to a gatekeeper for doors forty seconds after the start of its sweeper. -/
def doorHistory : List (Event Store) := [.startSweeper, .pass 40000]

/-- The owner's request, whose lookups take a second each. -/
def doorEvent : Event Store := .authorize (fun _ => 1000) doorStore doorRequest

/-- What the rule on the door is cached under. -/
def doorKey : CacheKey := ⟨.record, "door/1", .write⟩

end Gatekeeper

open Gatekeeper in
/-- The sweeper comes once a minute. The rule on doors, which is used twenty seconds before it comes
first, is still there almost a minute later, and gone after two minutes. -/
theorem sweeping_everyMinute :
    (((doorkeeper.afterAll doorHistory).afterAll [doorEvent, .pass 57999]).cache.cache.has doorKey
        = true)
      ∧ ((doorkeeper.afterAll doorHistory).afterAll [doorEvent, .pass 118001]).cache.cache.has
        doorKey = false := by
  have created : create doorkeeper.config Options.default = .ok doorkeeper :=
    create_eq_ok_iff.mpr ⟨rfl, rfl, rfl⟩
  have runs : ((Resolution.rule? ((doorkeeper.afterAll doorHistory).resolve doorKey).1).isSome
      && ((doorkeeper.afterAll doorHistory).after doorEvent).cache.now == 42000) = true := by
    decide +kernel
  obtain ⟨resolved, spent⟩ := Bool.and_eq_true_iff.mp runs
  have now : ((doorkeeper.afterAll doorHistory).after doorEvent).cache.now = 42000 :=
    eq_of_beq spent
  have grants := (sweeping_of_pos (show 0 < 60000 by decide)).rules doorkeeper.config
    Options.default doorkeeper rfl created doorHistory doorKey doorEvent ⟨rfl, resolved⟩
  constructor
  · apply (grants [.pass 57999]).present
    · simp [Event.dropsNone]
    · change (((doorkeeper.afterAll doorHistory).after doorEvent).cache.pass 57999).now < _
      rw [TimedCache.now_pass, now]
      decide
  · apply (grants [.pass 118001]).gone
    · rfl
    · simp
    · exact ⟨id, trivial⟩
    · change _ < (((doorkeeper.afterAll doorHistory).after doorEvent).cache.pass 118001).now
      rw [TimedCache.now_pass, now]
      decide

end AccessRules
