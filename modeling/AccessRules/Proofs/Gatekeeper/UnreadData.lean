import AccessRules.Proofs.Code.Reads
import AccessRules.Proofs.Gatekeeper.History

/-!
# Data that is not read

A compiled rule says whether it reads `data` and `oldData`, and depends on no more than it says. So
neither the payload of a message nor the path of a patch can be seen in a decision by a rule that
does not read `data`, even if the payload is no JSON at all.
-/

namespace AccessRules

theorem Context.agreesBut_data (context : Context) (data : Value) :
    context.AgreesBut .data { context with data := data } := by
  refine ⟨?_, rfl, rfl⟩
  intro builtin different
  cases builtin with
  | data => exact absurd rfl different
  | user | authData | oldData | now | action | name => rfl

namespace CompiledRule

/-- What a rule does not say it reads makes no difference to what it comes to. -/
structure FlagsSound (rule : CompiledRule) : Prop where
  data : rule.readsData = false → ∀ one other : Context, one.AgreesBut .data other →
    rule.run one = rule.run other
  oldData : rule.readsOldData = false → ∀ one other : Context, one.AgreesBut .oldData other →
    rule.run one = rule.run other

theorem flagsSound_of_ofExpr {source : String} {pathNames : List String} {tree : Expr}
    {rule : CompiledRule} (compiles : ofExpr source pathNames tree = .ok rule) :
    rule.FlagsSound := by
  obtain ⟨names, code, _, _, same⟩ := exists_of_ofExpr compiles
  have isData : Builtin.ofName? "data" = some .data := rfl
  have isOldData : Builtin.ofName? "oldData" = some .oldData := rfl
  refine ⟨?data, ?oldData⟩
  case data =>
    intro unread one other agrees
    rw [same] at unread
    exact run_eq_of_unreferenced compiles isData unread agrees
  case oldData =>
    intro unread one other agrees
    rw [same] at unread
    exact run_eq_of_unreferenced compiles isOldData unread agrees

end CompiledRule

/-- A tree that passes the check refers to `data` only if rules of its type may. -/
theorem Rule.supportsData_of_check {source : String} {kind : Section} {ruleType : RuleType}
    {tree : Expr} (checked : check source kind ruleType = .ok tree)
    (refers : tree.references "data" = true) : ruleType.supportsData = true := by
  simp only [check] at checked
  repeat' split at checked
  all_goals cases checked
  rename_i supported
  simpa [refers] using supported

/-- The request with another payload and another path of a patch. -/
def Request.withPayload (request : Request) (data path : Option String) : Request :=
  { request with message := { request.message with data := data, path := path } }

/-- Whether what decides on a name reads `data`. -/
def Resolution.readsData : Resolution → Bool
  | .fixed _ => false
  | .compiled cached => cached.rule.readsData

/-- A rule that does not read `data` decides the same way with any payload. -/
theorem Decision.byRule_withPayload {σ : Type} [RecordStore σ] {cached : CachedRule}
    (unread : cached.rule.readsData = false) (timing : Timing) (maxRuns : Nat) (request : Request)
    (data path : Option String) :
    (byRule timing maxRuns (request.withPayload data path) cached : Deciding σ Bool)
      = byRule timing maxRuns request cached := by
  have prepares : (prepare timing (request.withPayload data path) cached : Deciding σ Context)
      = prepare timing request cached := by
    simp only [prepare, bindDataOrFail, bindData, unread]
    rfl
  simp only [byRule, prepares]
  rfl

namespace Gatekeeper

/-- Whether the rule that decides on a message reads `data`. What is decided without a rule does
not. -/
def readsData (gatekeeper : Gatekeeper) (message : Message) : Bool :=
  match gate message.topic message.action with
  | .rule kind ruleType =>
      (gatekeeper.resolve ⟨kind, message.name, ruleType⟩).1.toOption.any Resolution.readsData
  | .ungated => false
  | .unmapped => false

section

variable {σ : Type} [RecordStore σ] {options : Options} {gatekeeper : Gatekeeper}

/-- Without a rule that reads `data` the whole ruling is the same with any payload. -/
theorem authorize_withPayload {request : Request}
    (unread : gatekeeper.readsData request.message = false) (delay : String → Nat) (store : σ)
    (data path : Option String) :
    gatekeeper.authorize delay store (request.withPayload data path)
      = gatekeeper.authorize delay store request := by
  have sameTopic : (request.withPayload data path).message.topic = request.message.topic := rfl
  have sameAction : (request.withPayload data path).message.action = request.message.action := rfl
  have sameName : (request.withPayload data path).message.name = request.message.name := rfl
  simp only [authorize, sameTopic, sameAction, sameName]
  rw [readsData] at unread
  cases gated : gate request.message.topic request.message.action with
  | ungated => rfl
  | unmapped => rfl
  | rule kind ruleType =>
      simp only [gated] at unread
      rcases resolved : gatekeeper.resolve ⟨kind, request.message.name, ruleType⟩ with
        ⟨error | (allowed | cached), after⟩
      · simp only [resolved]
      · simp only [resolved]
      · rw [resolved] at unread
        have unread : cached.rule.readsData = false := unread
        simp only [resolved, Decision.byRule_withPayload unread]

/-- A rule of a type that may not read `data` does not. -/
theorem Faithful.readsData_eq_false (faithful : Faithful options gatekeeper) {message : Message}
    {kind : Section} {ruleType : RuleType}
    (gated : gate message.topic message.action = .rule kind ruleType)
    (unsupported : ruleType.supportsData = false) : gatekeeper.readsData message = false := by
  simp only [readsData, gated, (faithful.resolve _).1]
  rcases resolved : gatekeeper.config.resolve options.defaultAllow
    ⟨kind, message.name, ruleType⟩ with error | (allowed | cached)
  · rfl
  · rfl
  · obtain ⟨path, source, tree, _, _, checked, compiled⟩ :=
      (Config.resolve_eq_compiled_iff _ _ _ _).mp resolved
    obtain ⟨names, code, _, _, same⟩ := CompiledRule.exists_of_ofExpr compiled
    change cached.rule.readsData = false
    rw [same]
    cases refers : tree.references "data" with
    | false => rfl
    | true => exact absurd (Rule.supportsData_of_check checked refers) (by simp [unsupported])

/-- A gatekeeper that decides the same way with any payload where the rule does not read `data`, as
no rule does whose type may not. -/
structure IgnoresUnreadData (σ : Type) [RecordStore σ] (gatekeeper : Gatekeeper) : Prop where
  /-- Result, lookups and what the gatekeeper becomes are the same. -/
  unread : ∀ request : Request, gatekeeper.readsData request.message = false →
    ∀ (delay : String → Nat) (store : σ) (data path : Option String),
      gatekeeper.authorize delay store (request.withPayload data path)
        = gatekeeper.authorize delay store request
  unsupported : ∀ (message : Message) (kind : Section) (ruleType : RuleType),
    gate message.topic message.action = .rule kind ruleType → ruleType.supportsData = false →
      gatekeeper.readsData message = false

/-- What compiled rules say of `data` and `oldData` is sound, and gatekeepers may rely on it. -/
theorem dataFlags_sound :
    (∀ (source : String) (pathNames : List String) (rule : CompiledRule),
      CompiledRule.compile source pathNames = .ok rule → rule.FlagsSound)
    ∧ ∀ (options : Options) (gatekeeper : Gatekeeper), Reached σ options gatekeeper →
      IgnoresUnreadData σ gatekeeper := by
  refine ⟨?rules, ?gatekeepers⟩
  case rules =>
    intro source pathNames rule compiles
    obtain ⟨tree, _, compiled⟩ := CompiledRule.exists_of_compile compiles
    exact CompiledRule.flagsSound_of_ofExpr compiled
  case gatekeepers =>
    intro options gatekeeper reached
    refine ⟨?_, ?_⟩
    · intro request unread delay store data path
      exact authorize_withPayload unread delay store data path
    · intro message kind ruleType gated unsupported
      exact reached.faithful.readsData_eq_false gated unsupported

end

/-- A gatekeeper for notes, which only their owners may write and nobody may read. -/
def notekeeper : Gatekeeper where
  config :=
    ⟨[{ template := ⟨"note/$id", Path.pieces "note/$id".toList⟩
        rules := [(.write, .expression "oldData.owner === user.id && user.data.data !== $id"),
          (.read, .expression "oldData.missing.data")] }], [], []⟩
  options := Options.default
  cache := TimedCache.empty

/-- A note of Ann. -/
def noteStore : Store :=
  Store.empty.set "note/1" (.object [("owner", .string "ann")])

/-- Ann writes a note, with a payload that is no JSON. -/
def noteRequest : Request where
  user := "ann"
  authData := .object []
  message := ⟨.record, .update, "note/1", some "\x7b", none⟩
  now := 0

/-- Ann may write the note whatever she writes: the rule reads `data` as the name of a property
only, and so its flag is not set. Reading is of no type that supports `data` to begin with. -/
theorem dataFlags_sound_notekeeper :
    (notekeeper.authorize (fun _ => 0) noteStore noteRequest).result.toOption = some true
      ∧ notekeeper.authorize (fun _ => 0) noteStore (noteRequest.withPayload none (some "a"))
        = notekeeper.authorize (fun _ => 0) noteStore noteRequest
      ∧ notekeeper.readsData ⟨.record, .read, "note/1", none, none⟩ = false
      ∧ ∃ rule, CompiledRule.compile "oldData.data" [] = .ok rule
        ∧ rule.run Context.empty = rule.run { Context.empty with data := .null } := by
  have allows : (notekeeper.authorize (fun _ => 0) noteStore noteRequest).result.toOption
      = some true := by decide +kernel
  have unread : notekeeper.readsData noteRequest.message = false := by decide +kernel
  have reached : Reached Store Options.default notekeeper :=
    ⟨_, notekeeper, [], create_eq_ok_iff.mpr ⟨rfl, rfl, rfl⟩, rfl⟩
  have ignores := dataFlags_sound.2 Options.default notekeeper reached
  refine ⟨allows, ignores.unread noteRequest unread _ _ _ _,
    ignores.unsupported _ _ _ rfl rfl, ?_⟩
  have flag : (CompiledRule.compile "oldData.data" []).toOption.any
      (fun rule => !rule.readsData) = true := by decide +kernel
  cases compiles : CompiledRule.compile "oldData.data" [] with
  | error error =>
      rw [compiles] at flag
      cases flag
  | ok rule =>
      rw [compiles] at flag
      refine ⟨rule, rfl, ?_⟩
      have sound := (dataFlags_sound (σ := Store)).1 _ _ _ compiles
      have unread : (!rule.readsData) = true := flag
      exact sound.data (by simpa using unread) _ _ (Context.empty.agreesBut_data .null)

end Gatekeeper

end AccessRules
