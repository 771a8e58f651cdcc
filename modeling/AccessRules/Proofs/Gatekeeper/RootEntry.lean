import AccessRules.Proofs.Config.Loading
import AccessRules.Proofs.Gatekeeper.History

/-!
# How far a root entry reaches

The root path is a single star, and a star stands for any run of characters without a line break. So
a rule under the root path decides on every name without a line break, and on no other: there the
default decides, unless another path matches.
-/

namespace AccessRules

namespace Path

/-- With nothing behind it, a run has to take the whole text. -/
theorem longestRun_matchPieces_nil (accepts : Char → Bool) (text : List Char) :
    longestRun accepts (matchPieces []) text
      = if text.all accepts then some (text, []) else none := by
  induction text with
  | nil => rfl
  | cons character rest inductionHypothesis =>
      rw [longestRun, inductionHypothesis, List.all_cons]
      cases accepted : accepts character with
      | false => rfl
      | true => cases rest.all accepts <;> rfl

/-- A single star matches the texts without a line break. -/
theorem matchPieces_star_isSome (text : List Char) :
    (matchPieces [.star] text).isSome = true ↔ '\n' ∉ text := by
  rw [matchPieces, longestRun_matchPieces_nil]
  cases all : text.all starAccepts with
  | false =>
      simp only [List.all_eq_false, starAccepts, bne_iff_ne, ne_eq, Decidable.not_not] at all
      obtain ⟨character, member, rfl⟩ := all
      simp [member]
  | true =>
      simp only [List.all_eq_true, starAccepts, bne_iff_ne, ne_eq] at all
      simp only [if_true, Option.map_some, Option.isSome_some, true_iff]
      intro member
      exact all _ member rfl

/-- The template of the root path matches the names without a line break. -/
theorem Template.isMatch_of_root {template : Template} (parsed : parse template.raw = .ok template)
    (isRoot : template.raw = rootPath) (name : String) :
    template.isMatch name = true ↔ '\n' ∉ name.toList := by
  have star : Path.pieces rootPath.toList = [.star] := by simp [rootPath, Path.pieces]
  have pieces : template.pieces = [.star] := by
    rw [congrArg Template.pieces (eq_of_parse parsed), isRoot]
    exact star
  rw [isMatch, captures?, Option.isSome_map, matchText_eq, pieces, matchPieces_star_isSome]

end Path

namespace Config

/-- A rule is found where a path of the section declares one and matches. -/
theorem findRule?_isSome_iff {config : Config} {kind : Section} {name : String}
    {ruleType : RuleType} :
    (config.findRule? kind name ruleType).isSome = true ↔
      ∃ path ∈ config.paths kind, (path.rule? ruleType).isSome = true
        ∧ path.template.isMatch name = true := by
  rw [findRule?, List.findSome?_isSome_iff]
  refine exists_congr fun path => and_congr_right fun _ => ?_
  cases path.rule? ruleType with
  | none => simp
  | some rule => cases path.template.isMatch name <;> simp

/-- What a configuration with a root entry covers: names without a line break, and what another path
matches. -/
def CoveredUnderRoot (config : Config) (kind : Section) (ruleType : RuleType) (name : String) :
    Prop :=
  '\n' ∉ name.toList ∨ ∃ path ∈ config.paths kind, path.template.raw ≠ rootPath
    ∧ (path.rule? ruleType).isSome = true ∧ path.template.isMatch name = true

/-- With a root entry, rules are found for the names that it covers and for no others. -/
theorem findRule?_isSome_iff_coveredUnderRoot {value : Json} {config : Config}
    (loads : ofJson value = .ok config) {kind : Section} {root : PathRules}
    (member : root ∈ config.paths kind) (isRoot : root.template.raw = rootPath)
    {ruleType : RuleType} (declares : (root.rule? ruleType).isSome = true) (name : String) :
    (config.findRule? kind name ruleType).isSome = true
      ↔ config.CoveredUnderRoot kind ruleType name := by
  have matchesRoot (path : PathRules) (among : path ∈ config.paths kind)
      (isRoot : path.template.raw = rootPath) :
      path.template.isMatch name = true ↔ '\n' ∉ name.toList :=
    Path.Template.isMatch_of_root (loaded_of_ofJson loads kind path among).template isRoot name
  rw [findRule?_isSome_iff]
  constructor
  · rintro ⟨path, among, declaresToo, isMatch⟩
    by_cases isRootToo : path.template.raw = rootPath
    · exact Or.inl ((matchesRoot path among isRootToo).mp isMatch)
    · exact Or.inr ⟨path, among, isRootToo, declaresToo, isMatch⟩
  · rintro (noBreak | ⟨path, among, _, declaresToo, isMatch⟩)
    · exact ⟨root, member, declares, (matchesRoot root member isRoot).mpr noBreak⟩
    · exact ⟨path, among, declaresToo, isMatch⟩

/-- The default plays no part in what a name is resolved to if a rule is found for it. -/
theorem resolve_of_isSome {config : Config} {key : CacheKey}
    (found : (config.findRule? key.kind key.name key.ruleType).isSome = true) (one other : Bool) :
    config.resolve one key = config.resolve other key := by
  obtain ⟨⟨path, rule⟩, found⟩ := Option.isSome_iff_exists.mp found
  simp only [resolve, found]
  cases rule with
  | fixed allowed => rfl
  | expression source => rfl

/-- The default is what a name is resolved to if no rule is found for it. -/
theorem resolve_of_not_isSome {config : Config} {key : CacheKey}
    (missing : ¬ (config.findRule? key.kind key.name key.ruleType).isSome = true)
    (defaultAllow : Bool) : config.resolve defaultAllow key = .ok (.fixed defaultAllow) := by
  have missing := Option.not_isSome_iff_eq_none.mp missing
  simp only [resolve, missing]

end Config

namespace Gatekeeper

/-- How far the rules under the root path of a configuration reach. -/
structure RootReach (σ : Type) [RecordStore σ] (config : Config) (kind : Section)
    (ruleType : RuleType) (name : String) : Prop where
  /-- A rule is found for what is covered, and for nothing else. -/
  found : (config.findRule? kind name ruleType).isSome = true
    ↔ config.CoveredUnderRoot kind ruleType name
  /-- Gatekeepers that differ in the default decide alike on what is covered, and on nothing else,
  whatever has happened to them. -/
  decided : ∀ {options : Options} {allowing denying : Gatekeeper},
    Reached σ { options with defaultAllow := true } allowing →
    Reached σ { options with defaultAllow := false } denying →
    allowing.config = config → denying.config = config →
    ∀ (delay : String → Nat) (store : σ) (request : Request),
      gate request.message.topic request.message.action = .rule kind ruleType →
      request.message.name = name →
      ((allowing.authorize delay store request).result
          = (denying.authorize delay store request).result
        ↔ config.CoveredUnderRoot kind ruleType name)

/-- The root path covers the names without a line break: only beyond them, where no other path
matches either, does a decision fall back to the default. -/
theorem rootReach_of_ofJson (σ : Type) [RecordStore σ] {value : Json} {config : Config}
    (loads : Config.ofJson value = .ok config) {kind : Section} {root : PathRules}
    (member : root ∈ config.paths kind) (isRoot : root.template.raw = rootPath)
    {ruleType : RuleType} (declares : (root.rule? ruleType).isSome = true) (name : String) :
    RootReach σ config kind ruleType name := by
  have found := Config.findRule?_isSome_iff_coveredUnderRoot loads member isRoot declares name
  refine ⟨found, ?decided⟩
  case decided =>
    intro options allowing denying reached reached' here here' delay store request gated named
    rw [reached.faithful.authorize_eq delay store gated,
      reached'.faithful.authorize_eq delay store gated, here, here', named, ← found]
    constructor
    · intro same
      cases finds : (config.findRule? kind name ruleType).isSome with
      | true => rfl
      | false =>
          have missing : ¬ (config.findRule? kind name ruleType).isSome = true := by simp [finds]
          rw [Config.resolve_of_not_isSome missing, Config.resolve_of_not_isSome missing] at same
          cases same
    · intro finds
      rw [Config.resolve_of_isSome finds true false]
      rfl

/-! ### Denying everything

An example. The rule under the root path is meant to deny every read. -/

/-- A configuration that denies reads under the root path. -/
def denyReads : Json :=
  .object [("record", .object [("*", .object [("read", .bool false)])]),
    ("event", .object [("*", .object [])]), ("rpc", .object [("*", .object [])])]

/-- The root entry of the section of records. -/
def denyRoot : PathRules := ⟨⟨"*", [.star]⟩, [(.read, .fixed false)]⟩

/-- The configuration that is loaded. -/
def denyConfig : Config := ⟨[denyRoot], [⟨⟨"*", [.star]⟩, []⟩], [⟨⟨"*", [.star]⟩, []⟩]⟩

theorem ofJson_denyReads : Config.ofJson denyReads = .ok denyConfig := by
  have loads : (Config.ofJson denyReads).toOption = some denyConfig := by decide +kernel
  cases loaded : Config.ofJson denyReads with
  | error error =>
      rw [loaded] at loads
      cases loads
  | ok config =>
      rw [loaded] at loads
      cases loads
      rfl

/-- Names in one line are within reach. -/
theorem rootReach_denyReads :
    denyRoot ∈ denyConfig.paths .record ∧ denyConfig.CoveredUnderRoot .record .read "a/b"
      ∧ RootReach Store denyConfig .record .read "a/b" :=
  ⟨List.mem_singleton_self _, Or.inl (by decide),
    rootReach_of_ofJson Store ofJson_denyReads (List.mem_singleton_self _) rfl rfl "a/b"⟩

/-- A user reads a record whose name goes over two lines. -/
def readRequest : Request where
  user := "ann"
  authData := .null
  message := ⟨.record, .read, "a\nb", none, none⟩
  now := 0

/-- The line break takes the name out of reach of the root entry, so the read is allowed. -/
theorem denyReads_misses_lineBreak :
    Config.ofJson denyReads = .ok denyConfig ∧ denyRoot ∈ denyConfig.paths .record
      ∧ denyRoot.template.raw = rootPath ∧ denyRoot.rule? .read = some (.fixed false)
      ∧ denyConfig.findRule? .record "a\nb" .read = none
      ∧ ∃ gatekeeper,
        create denyConfig { Options.default with requireRootEntries := true } = .ok gatekeeper
          ∧ (gatekeeper.authorize (fun _ => 0) Store.empty readRequest).result = .ok true := by
  have missing : denyConfig.findRule? .record "a\nb" .read = none := by decide +kernel
  have created : create denyConfig { Options.default with requireRootEntries := true }
      = .ok ⟨denyConfig, { Options.default with requireRootEntries := true }, TimedCache.empty⟩ :=
    create_eq_ok_iff.mpr ⟨rfl, by rfl, rfl⟩
  refine ⟨ofJson_denyReads, List.mem_singleton_self _, rfl, rfl, missing, _, created, ?_⟩
  rw [(Faithful.create created).authorize_eq (fun _ => 0) Store.empty rfl]
  rw [Config.resolve_of_not_isSome (by simp [readRequest, missing])]
  rfl

end Gatekeeper

end AccessRules
