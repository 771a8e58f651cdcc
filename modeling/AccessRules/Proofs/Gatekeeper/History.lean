import AccessRules.Proofs.Cache.Entries
import AccessRules.Proofs.Gatekeeper.Resolution

/-!
# Gatekeepers and their history

Whatever has happened to a gatekeeper, every entry of its cache is what its configuration says now.
So it decides as a new gatekeeper with the same configuration and options does, after the same
lookups: the cache cannot be seen in the decisions.
-/

namespace AccessRules

namespace Gatekeeper

/-- What can happen to a gatekeeper with stores of some kind. -/
inductive Event (σ : Type) where
  | authorize (delay : String → Nat) (store : σ) (request : Request)
  | useConfig (config : Config)
  | sweep
  | startSweeper
  | pass (duration : Nat)

section

variable {σ : Type} [RecordStore σ]

/-- The gatekeeper after an event. -/
def after (gatekeeper : Gatekeeper) : Event σ → Gatekeeper
  | .authorize delay store request => (gatekeeper.authorize delay store request).gatekeeper
  | .useConfig config => ((replaceConfig config).run.run gatekeeper).2
  | .sweep => gatekeeper.sweep.2
  | .startSweeper => gatekeeper.startSweeper
  | .pass duration => gatekeeper.pass duration

/-- The gatekeeper after events, one after the other. -/
def afterAll (gatekeeper : Gatekeeper) (events : List (Event σ)) : Gatekeeper :=
  events.foldl after gatekeeper

/-- The gatekeepers that there can be with these options: what a new one has become. -/
def Reached (σ : Type) [RecordStore σ] (options : Options) (gatekeeper : Gatekeeper) : Prop :=
  ∃ (config : Config) (start : Gatekeeper) (events : List (Event σ)),
    create config options = .ok start ∧ start.afterAll events = gatekeeper

end

/-- The invariant of gatekeepers: the cache agrees with the configuration, and configuration and
options are such that a gatekeeper can be created with them. -/
structure Faithful (options : Options) (gatekeeper : Gatekeeper) : Prop where
  options_eq : gatekeeper.options = options
  entries : gatekeeper.cache.cache.Holds gatekeeper.config.Yields
  valid : options.validate = .ok ()
  admitted : admits options gatekeeper.config = .ok ()

/-- What is created has passed both checks, and has nothing in its cache. -/
theorem create_eq_ok_iff {config : Config} {options : Options} {gatekeeper : Gatekeeper} :
    create config options = .ok gatekeeper ↔
      options.validate = .ok () ∧ admits options config = .ok ()
        ∧ gatekeeper = ⟨config, options, TimedCache.empty⟩ := by
  rw [create]
  cases valid : options.validate with
  | error error =>
      constructor
      · intro created
        cases created
      · rintro ⟨accepted, _⟩
        cases accepted
  | ok _ =>
      cases admitted : admits options config with
      | error error =>
          constructor
          · intro created
            cases created
          · rintro ⟨_, accepted, _⟩
            cases accepted
      | ok _ =>
          constructor
          · intro created
            cases created
            exact ⟨rfl, rfl, rfl⟩
          · rintro ⟨_, _, rfl⟩
            rfl

/-- A configuration that cannot be used is refused before anything has changed. -/
theorem run_replaceConfig (gatekeeper : Gatekeeper) (config : Config) :
    (replaceConfig config).run.run gatekeeper =
      match admits gatekeeper.options config with
      | .ok _ => (.ok (), { gatekeeper with config := config, cache := gatekeeper.cache.reset })
      | .error error => (.error error, gatekeeper) := by
  -- The options that are asked for are those of the gatekeeper.
  change ((do
    ofExcept (admits gatekeeper.options config)
    modify fun gatekeeper => { gatekeeper with config := config }
    modify fun gatekeeper => { gatekeeper with cache := gatekeeper.cache.reset } :
      ExceptT ConfigError (StateM Gatekeeper) Unit).run.run gatekeeper) = _
  cases admits gatekeeper.options config with
  | ok _ => rfl
  | error error => rfl

/-- A configuration that is accepted is put in place, and the cache is emptied. -/
theorem useConfig_eq_ok {gatekeeper next : Gatekeeper} {config : Config}
    (accepted : gatekeeper.useConfig config = .ok next) :
    admits gatekeeper.options config = .ok ()
      ∧ next = { gatekeeper with config := config, cache := gatekeeper.cache.reset } := by
  rw [useConfig, run_replaceConfig] at accepted
  cases admitted : admits gatekeeper.options config with
  | error error =>
      rw [admitted] at accepted
      cases accepted
  | ok _ =>
      rw [admitted] at accepted
      cases accepted
      exact ⟨rfl, rfl⟩

section

variable {σ : Type} [RecordStore σ] {gatekeeper : Gatekeeper} {config : Config}

/-- What is accepted is what the gatekeeper goes on with. -/
theorem after_useConfig_of_ok {next : Gatekeeper}
    (accepted : gatekeeper.useConfig config = .ok next) :
    gatekeeper.after (.useConfig config : Event σ) = next := by
  rw [useConfig] at accepted
  rw [after]
  cases ran : (replaceConfig config).run.run gatekeeper with
  | mk result after =>
      rw [ran] at accepted
      cases result with
      | error error => cases accepted
      | ok _ =>
          cases accepted
          rfl

/-- What is refused has changed nothing. -/
theorem after_useConfig_of_error {error : ConfigError}
    (refused : gatekeeper.useConfig config = .error error) :
    gatekeeper.after (.useConfig config : Event σ) = gatekeeper := by
  rw [useConfig] at refused
  rw [after]
  rw [run_replaceConfig] at refused ⊢
  cases admitted : admits gatekeeper.options config with
  | error error => rfl
  | ok _ =>
      rw [admitted] at refused
      cases refused

end

namespace Faithful

variable {options : Options} {gatekeeper : Gatekeeper}

theorem create {config : Config} (created : create config options = .ok gatekeeper) :
    Faithful options gatekeeper := by
  obtain ⟨valid, admitted, rfl⟩ := create_eq_ok_iff.mp created
  exact ⟨rfl, .empty, valid, admitted⟩

/-- A cache whose entries agree with the configuration can take the place of the old one. -/
theorem withCache (faithful : Faithful options gatekeeper) {cache : TimedCache}
    (entries : cache.cache.Holds gatekeeper.config.Yields) :
    Faithful options { gatekeeper with cache := cache } :=
  ⟨faithful.options_eq, entries, faithful.valid, faithful.admitted⟩

theorem useConfig (faithful : Faithful options gatekeeper) {config : Config} {next : Gatekeeper}
    (accepted : gatekeeper.useConfig config = .ok next) : Faithful options next := by
  obtain ⟨admitted, rfl⟩ := useConfig_eq_ok accepted
  rw [faithful.options_eq] at admitted
  exact ⟨faithful.options_eq, .empty, faithful.valid, admitted⟩

theorem sweep (faithful : Faithful options gatekeeper) :
    Faithful options gatekeeper.sweep.2 :=
  faithful.withCache faithful.entries.swept

theorem startSweeper (faithful : Faithful options gatekeeper) :
    Faithful options gatekeeper.startSweeper :=
  faithful.withCache faithful.entries

theorem pass (faithful : Faithful options gatekeeper) (duration : Nat) :
    Faithful options (gatekeeper.pass duration) :=
  faithful.withCache (faithful.entries.pass duration)

/-- Fetching from the cache changes no more than marks. -/
theorem cached (faithful : Faithful options gatekeeper) (key : CacheKey) :
    Faithful options (gatekeeper.cached key).2 :=
  faithful.withCache (faithful.entries.get key)

/-- A rule that is fetched is the one that the configuration yields now. -/
theorem yields_of_cached (faithful : Faithful options gatekeeper) {key : CacheKey}
    {found : CachedRule} (fetched : (gatekeeper.cached key).1 = some found) :
    gatekeeper.config.Yields key found := by
  change (gatekeeper.cache.cache.get key).1 = some found at fetched
  rw [RuleCache.get] at fetched
  split at fetched
  · rename_i entry here
    cases fetched
    exact faithful.entries.of_entry? here
  · cases fetched

/-- Resolving gives what the configuration alone says, whether or not the rule is in the cache, and
leaves a cache that agrees with the configuration. -/
theorem resolve (faithful : Faithful options gatekeeper) (key : CacheKey) :
    (gatekeeper.resolve key).1 = gatekeeper.config.resolve options.defaultAllow key
      ∧ Faithful options (gatekeeper.resolve key).2 := by
  have fetching := faithful.cached key
  have config : (gatekeeper.cached key).2.config = gatekeeper.config := rfl
  rw [Gatekeeper.resolve, faithful.options_eq]
  cases found : gatekeeper.cached key with
  | mk found? after =>
      rw [found] at fetching config
      cases found? with
      | some cached =>
          have yields := faithful.yields_of_cached (congrArg Prod.fst found)
          refine ⟨?_, fetching⟩
          exact ((Config.resolve_eq_compiled_iff _ _ _ _).mpr yields).symm
      | none =>
          cases resolved : gatekeeper.config.resolve options.defaultAllow key with
          | error error => exact ⟨rfl, fetching⟩
          | ok resolution =>
              cases resolution with
              | fixed allowed => exact ⟨rfl, fetching⟩
              | compiled cached =>
                  -- This is the one place where something is put into the cache.
                  have yields := (Config.resolve_eq_compiled_iff _ _ _ _).mp resolved
                  rw [← config] at yields
                  exact ⟨rfl, fetching.withCache (fetching.entries.set yields)⟩

/-- Deciding leaves the gatekeeper as resolving does, but for the time that lookups take. -/
theorem authorize {σ : Type} [RecordStore σ] (faithful : Faithful options gatekeeper)
    (delay : String → Nat) (store : σ) (request : Request) :
    Faithful options (gatekeeper.authorize delay store request).gatekeeper := by
  rw [Gatekeeper.authorize]
  split
  · exact faithful
  · exact faithful
  · rename_i kind ruleType gated
    have resolving := (faithful.resolve ⟨kind, request.message.name, ruleType⟩).2
    split
    · rename_i error after resolved
      rw [resolved] at resolving
      exact resolving
    · rename_i allowed after resolved
      rw [resolved] at resolving
      exact resolving
    · rename_i cached after resolved
      rw [resolved] at resolving
      exact resolving.pass _

/-- One event keeps the invariant. -/
theorem after {σ : Type} [RecordStore σ] (faithful : Faithful options gatekeeper)
    (event : Event σ) : Faithful options (gatekeeper.after event) := by
  cases event with
  | authorize delay store request => exact faithful.authorize delay store request
  | useConfig config =>
      cases used : gatekeeper.useConfig config with
      | ok next =>
          rw [after_useConfig_of_ok used]
          exact faithful.useConfig used
      | error error =>
          rw [after_useConfig_of_error used]
          exact faithful
  | sweep => exact faithful.sweep
  | startSweeper => exact faithful.startSweeper
  | pass duration => exact faithful.pass duration

/-- A history of events of any length keeps the invariant. -/
theorem afterAll {σ : Type} [RecordStore σ] (faithful : Faithful options gatekeeper)
    (events : List (Event σ)) : Faithful options (gatekeeper.afterAll events) := by
  induction events generalizing gatekeeper with
  | nil => exact faithful
  | cons event events inductionHypothesis => exact inductionHypothesis (faithful.after event)

end Faithful

theorem Reached.faithful {σ : Type} [RecordStore σ] {options : Options} {gatekeeper : Gatekeeper}
    (reached : Reached σ options gatekeeper) : Faithful options gatekeeper := by
  obtain ⟨config, start, events, created, rfl⟩ := reached
  exact (Faithful.create created).afterAll events

/-- A decision depends on the gatekeeper through its options and what it resolves names to. -/
theorem authorize_congr {σ : Type} [RecordStore σ] {gatekeeper other : Gatekeeper}
    (options : gatekeeper.options = other.options)
    (resolves : ∀ key, (gatekeeper.resolve key).1 = (other.resolve key).1)
    (delay : String → Nat) (store : σ) (request : Request) :
    (gatekeeper.authorize delay store request).result = (other.authorize delay store request).result
      ∧ (gatekeeper.authorize delay store request).session
        = (other.authorize delay store request).session := by
  cases gated : gate request.message.topic request.message.action with
  | ungated => simp only [authorize, gated, and_self]
  | unmapped => simp only [authorize, gated, and_self]
  | rule kind ruleType =>
      have one := gatekeeper.authorize_rule delay store gated
      have two := other.authorize_rule delay store gated
      rw [options, resolves, ← two] at one
      exact ⟨congrArg Prod.fst one, congrArg Prod.snd one⟩

/-- A gatekeeper decides by what its configuration says, after the lookups that this takes, whatever
is in its cache. -/
theorem Faithful.ruling_eq {σ : Type} [RecordStore σ] {options : Options}
    {gatekeeper : Gatekeeper} (faithful : Faithful options gatekeeper) (delay : String → Nat)
    (store : σ) {request : Request} {kind : Section} {ruleType : RuleType}
    (gated : gate request.message.topic request.message.action = .rule kind ruleType) :
    ((gatekeeper.authorize delay store request).result,
        (gatekeeper.authorize delay store request).session)
      = Resolution.decide options delay store request
          (gatekeeper.config.resolve options.defaultAllow
            ⟨kind, request.message.name, ruleType⟩) := by
  have ruling := gatekeeper.authorize_rule delay store gated
  rwa [faithful.options_eq, (faithful.resolve _).1] at ruling

theorem Faithful.authorize_eq {σ : Type} [RecordStore σ] {options : Options}
    {gatekeeper : Gatekeeper} (faithful : Faithful options gatekeeper) (delay : String → Nat)
    (store : σ) {request : Request} {kind : Section} {ruleType : RuleType}
    (gated : gate request.message.topic request.message.action = .rule kind ruleType) :
    (gatekeeper.authorize delay store request).result
      = (Resolution.decide options delay store request
          (gatekeeper.config.resolve options.defaultAllow
            ⟨kind, request.message.name, ruleType⟩)).1 :=
  congrArg Prod.fst (faithful.ruling_eq delay store gated)

/-- The cache cannot be seen in the decisions of a gatekeeper with these options. -/
structure CacheInvisible (σ : Type) [RecordStore σ] (options : Options) (gatekeeper : Gatekeeper) :
    Prop where
  /-- An entry holds what the configuration yields now, with a template that matches the name. -/
  current : ∀ entry ∈ gatekeeper.cache.cache.entries,
    entry.2.cached.template.isMatch entry.1.name = true
      ∧ gatekeeper.config.Yields entry.1 entry.2.cached
  /-- A new gatekeeper decides the same, after the same lookups in the same time. -/
  fresh : ∃ fresh, create gatekeeper.config options = .ok fresh
    ∧ ∀ (delay : String → Nat) (store : σ) (request : Request),
      (gatekeeper.authorize delay store request).result
          = (fresh.authorize delay store request).result
        ∧ (gatekeeper.authorize delay store request).session
          = (fresh.authorize delay store request).session
  /-- A configuration that is accepted is the current one from then on, with an empty cache. -/
  accepted : ∀ config next, gatekeeper.useConfig config = .ok next →
    gatekeeper.after (.useConfig config : Event σ) = next
      ∧ next.config = config ∧ next.cache.cache.entries = []
  /-- A configuration that is refused changes neither configuration nor cache. -/
  refused : ∀ config error, gatekeeper.useConfig config = .error error →
    gatekeeper.after (.useConfig config : Event σ) = gatekeeper

theorem Faithful.cacheInvisible {σ : Type} [RecordStore σ] {options : Options}
    {gatekeeper : Gatekeeper} (faithful : Faithful options gatekeeper) :
    CacheInvisible σ options gatekeeper := by
  refine ⟨?current, ?fresh, ?accepted, ?refused⟩
  case current =>
    intro entry member
    have yields := faithful.entries entry member
    exact ⟨yields.isMatch, yields⟩
  case fresh =>
    have created := create_eq_ok_iff.mpr ⟨faithful.valid, faithful.admitted, rfl⟩
    refine ⟨_, created, fun delay store request => ?_⟩
    refine authorize_congr faithful.options_eq (fun key => ?_) delay store request
    rw [(faithful.resolve key).1, ((Faithful.create created).resolve key).1]
  case accepted =>
    intro config next accepted
    refine ⟨after_useConfig_of_ok accepted, ?_⟩
    obtain ⟨_, rfl⟩ := useConfig_eq_ok accepted
    exact ⟨rfl, rfl⟩
  case refused =>
    intro config error refused
    exact after_useConfig_of_error refused

/-- After any history of decisions, new configurations, sweeps and passing time, a gatekeeper
decides as a new one with its current configuration. -/
theorem cacheInvisible_afterAll {σ : Type} [RecordStore σ] {config : Config} {options : Options}
    {start : Gatekeeper} (created : create config options = .ok start) (events : List (Event σ)) :
    CacheInvisible σ options (start.afterAll events) :=
  (Reached.faithful ⟨config, start, events, created, rfl⟩).cacheInvisible

/-- A path that allows everything of some type. -/
def openPath (ruleType : RuleType) : PathRules where
  template := ⟨"*", [.star]⟩
  rules := [(ruleType, .fixed true)]

/-- A configuration of doors with root entries. -/
def doorConfig : Config :=
  ⟨[doorPath, openPath .write], [openPath .publish], [openPath .request]⟩

/-- A day at the door: a decision, a configuration without root entries, and two sweeps, one of them
in the course of time. -/
def doorDay : List (Event Store) :=
  [.startSweeper, .authorize (fun _ => 5) doorStore doorRequest, .useConfig Config.empty,
    .pass 60000, .authorize (fun _ => 5) doorStore doorRequest, .sweep]

/-- The rule on the door is still in the cache in the evening. -/
theorem cacheInvisible_doorDay :
    ∃ start, create doorConfig { Options.default with requireRootEntries := true } = .ok start
      ∧ (start.afterAll doorDay).cache.cache.entries.length = 1
      ∧ CacheInvisible Store { Options.default with requireRootEntries := true }
          (start.afterAll doorDay) := by
  have created : create doorConfig { Options.default with requireRootEntries := true }
      = .ok ⟨doorConfig, { Options.default with requireRootEntries := true }, TimedCache.empty⟩ :=
    create_eq_ok_iff.mpr ⟨rfl, by rfl, rfl⟩
  have cached : (afterAll ⟨doorConfig, { Options.default with requireRootEntries := true },
      TimedCache.empty⟩ doorDay).cache.cache.entries.length = 1 := by decide +kernel
  exact ⟨_, created, cached, cacheInvisible_afterAll created doorDay⟩

end Gatekeeper

end AccessRules
