import AccessRules.Proofs.Code.Reads
import AccessRules.Proofs.Gatekeeper.History
import AccessRules.Proofs.Gatekeeper.SingleRun

/-!
# Patches as updates

A patch is decided as the update is that writes what the patch makes of the record. The decisions
look up different records at different times, but both come to what the single run with all records
comes to, and the contexts of those two runs differ in the action only.
-/

namespace AccessRules

/-- The update of the same record with another payload. -/
def Request.asUpdate (request : Request) (payload : String) (path : Option String) : Request :=
  { request with
    message := { request.message with action := .update, data := some payload, path := path } }

/-- A request patches a stored record, and this is what the patch makes of it. -/
structure Request.Patches (request : Request) (answer : Answer) (patched : Json) : Prop where
  isPatch : request.message.topic = .record ∧ request.message.action = .patch
  /-- A patch without a payload sets `null`. -/
  sets : ∃ path payload record,
    request.message.path = some path ∧ request.message.document = .ok payload
      ∧ answer request.message.name = .ok (some record)
      ∧ Patch.setPath record.data path (payload.getD .null) = .ok patched

namespace Decision

variable {answer : Answer} {request : Request} {patched : Json}

/-- What rules read of a patch is what it makes of the record. -/
theorem ruleData_patch (patches : request.Patches answer patched) :
    request.message.ruleData (answeredData answer request.message.name)
      = .ok (.ofJson patched) := by
  obtain ⟨⟨topic, action⟩, path, payload, record, hasPath, document, stored, sets⟩ := patches
  have own : answeredData answer request.message.name = some record.data := by
    simp only [answeredData, stored, Option.map_some]
  have isPatch : request.message.isPatch = true := by
    simp only [Message.isPatch, topic, action]
    rfl
  simp only [Message.ruleData, isPatch, if_true, own, Message.patched, hasPath, document, sets]
  rfl

/-- What rules read of an update is its payload. -/
theorem ruleData_asUpdate (onRecord : request.message.topic = .record) {payload : String}
    (parses : Json.parse? payload = some patched) (path : Option String) (own : Option Json) :
    (request.asUpdate payload path).message.ruleData own = .ok (.ofJson patched) := by
  simp only [Request.asUpdate, Message.ruleData, Message.isPatch, Message.carriesData,
    Message.document, Message.payload?, onRecord, Option.map_some, parses]
  rfl

/-- With all records loaded, the context of a patch and that of the update are bound, and differ in
the action only. -/
theorem exists_loadedContext (patches : request.Patches answer patched) {payload : String}
    (parses : Json.parse? payload = some patched) (path : Option String)
    (unknown : String → Value) (cached : CachedRule) :
    ∃ context, loadedContext answer unknown request cached = .ok context
      ∧ loadedContext answer unknown (request.asUpdate payload path) cached
        = .ok { context with action := .string Action.update.name } := by
  have onPatch := ruleData_patch patches
  have onUpdate := ruleData_asUpdate patches.isPatch.1 parses path
    (answeredData answer (request.asUpdate payload path).message.name)
  simp only [loadedContext, bindData_eq, onPatch, onUpdate]
  cases cached.rule.readsData with
  | false => exact ⟨_, rfl, rfl⟩
  | true => exact ⟨_, rfl, rfl⟩

/-- If the rule does not refer to the action, the patch and the update are decided alike. -/
theorem Decides.eq_asUpdate (patches : request.Patches answer patched) {payload : String}
    (parses : Json.parse? payload = some patched) (path : Option String)
    {unknown : String → Value} {cached : CachedRule} {source : String} {pathNames : List String}
    {tree : Expr} (compiled : CompiledRule.ofExpr source pathNames tree = .ok cached.rule)
    (unread : tree.references "action" = false) {result result' : Except DecisionError Bool}
    (patch : Decides answer unknown request cached result)
    (update : Decides answer unknown (request.asUpdate payload path) cached result') :
    result = result' := by
  obtain ⟨context, bound, boundUpdate⟩ :=
    exists_loadedContext patches parses path unknown cached
  have isAction : Builtin.ofName? "action" = some .action := rfl
  have same := CompiledRule.run_eq_of_unreferenced compiled isAction unread
    (context.agreesBut_action (.string Action.update.name))
  cases patch with
  | unbound unbound =>
      rw [bound] at unbound
      cases unbound
  | ran bound' decided =>
      rw [bound] at bound'
      cases bound'
      rw [same] at decided
      exact (Decides.ran boundUpdate decided).unique update

end Decision

namespace Gatekeeper

section

variable {σ : Type} [RecordStore σ] {store : σ} {answer : Answer} {options : Options}

/-- Without a time limit and failing lookups, what a rule that is not constant decides is what the
single run with all records decides. -/
theorem limit_or_decides (steady : RecordStore.Steady store answer)
    (answers : ∀ name, ∃ record, answer name = .ok record) (unknown : String → Value)
    {gatekeeper : Gatekeeper} (faithful : Faithful options gatekeeper)
    (untimed : options.evaluationTimeout = none) (delay : String → Nat) {request : Request}
    {kind : Section} {ruleType : RuleType}
    (gated : gate request.message.topic request.message.action = .rule kind ruleType)
    {cached : CachedRule}
    (yields : gatekeeper.config.Yields ⟨kind, request.message.name, ruleType⟩ cached)
    (varying : cached.rule.constant? = none) :
    (gatekeeper.authorize delay store request).result = .error .iterationLimit
      ∨ Decision.Decides answer unknown request cached
        (gatekeeper.authorize delay store request).result := by
  rw [← faithful.options_eq] at untimed
  have resolved := (faithful.resolve ⟨kind, request.message.name, ruleType⟩).1
  rw [(Config.resolve_eq_compiled_iff _ _ _ _).mpr yields] at resolved
  exact Decision.decides_of_ends
    (authorize_ends steady unknown untimed delay gated resolved varying)
    fun name _ => answers name

/-- A patch is decided as the update that writes its outcome, unless one of the two takes too many
runs, if the rule does not ask which of them it decides. -/
theorem authorize_patch_eq_update (steady : RecordStore.Steady store answer)
    (answers : ∀ name, ∃ record, answer name = .ok record) {one other : Gatekeeper}
    (reached : Reached σ options one) (reachedOther : Reached σ options other)
    (sameConfig : other.config = one.config) (untimed : options.evaluationTimeout = none)
    (delay delay' : String → Nat) {request : Request} {patched : Json}
    (patches : request.Patches answer patched) {payload : String}
    (parses : Json.parse? payload = some patched) (path : Option String)
    (unread : ¬ one.config.RefersTo ⟨.record, request.message.name, .write⟩ "action") :
    (one.authorize delay store request).result
        = (other.authorize delay' store (request.asUpdate payload path)).result
      ∨ (one.authorize delay store request).result = .error .iterationLimit
      ∨ (other.authorize delay' store (request.asUpdate payload path)).result
        = .error .iterationLimit := by
  have gated : gate request.message.topic request.message.action = .rule .record .write := by
    rw [patches.isPatch.1, patches.isPatch.2]
    rfl
  have gatedUpdate : gate (request.asUpdate payload path).message.topic
      (request.asUpdate payload path).message.action = .rule .record .write := by
    simp only [Request.asUpdate, patches.isPatch.1]
    rfl
  have patch := reached.faithful.authorize_eq delay store gated
  have update : (other.authorize delay' store (request.asUpdate payload path)).result
      = (Resolution.decide options delay' store (request.asUpdate payload path)
          (one.config.resolve options.defaultAllow
            ⟨.record, request.message.name, .write⟩)).1 := by
    rw [← sameConfig]
    exact reachedOther.faithful.authorize_eq delay' store gatedUpdate
  cases resolved : one.config.resolve options.defaultAllow
      ⟨.record, request.message.name, .write⟩ with
  | error error =>
      rw [resolved] at patch update
      exact Or.inl (patch.trans update.symm)
  | ok resolution =>
      cases resolution with
      | fixed allowed =>
          rw [resolved] at patch update
          exact Or.inl (patch.trans update.symm)
      | compiled cached =>
          cases constant : cached.rule.constant? with
          | some allowed =>
              rw [resolved, Resolution.decide, Decision.byRule, constant] at patch update
              exact Or.inl (patch.trans update.symm)
          | none =>
              have yields := (Config.resolve_eq_compiled_iff _ _ _ _).mp resolved
              obtain ⟨source, tree, compiled, unread⟩ := yields.exists_tree unread
              rcases limit_or_decides steady answers (fun _ => .undefined) reached.faithful untimed
                delay gated yields constant with limit | decides
              · exact Or.inr (Or.inl limit)
              rw [← sameConfig] at yields
              rcases limit_or_decides steady answers (fun _ => .undefined) reachedOther.faithful
                untimed delay' gatedUpdate yields constant with limit | decides'
              · exact Or.inr (Or.inr limit)
              exact Or.inl (decides.eq_asUpdate patches parses path compiled unread decides')

end

/-- The owner of the key fits the door with another one by a patch. -/
def doorPatch : Request where
  user := "ann"
  authData := .null
  message := ⟨.record, .patch, "door/1", some "\"key/8\"", some "key"⟩
  now := 0

/-- The key that is named in the record of a door. -/
def doorKey? : Json → Option String
  | .object [(field, .string key)] => if field = "key" then some key else none
  | _ => none

theorem eq_of_doorKey? {record : Json} {key : String} (named : doorKey? record = some key) :
    record = .object [("key", .string key)] := by
  unfold doorKey? at named
  split at named
  · split at named
    · rename_i isKey
      cases named
      rw [isKey]
    · cases named
  · cases named

theorem parse?_doorPatch : Json.parse? "\"key/8\"" = some (.string "key/8") := by
  have text : (Json.parse? "\"key/8\"").bind Message.optionalText? = some (some "key/8") := by
    decide +kernel
  obtain ⟨document, parsed, text⟩ := Option.bind_eq_some_iff.mp text
  cases document with
  | string text' =>
      cases text
      exact parsed
  | null | bool | number | array | object => cases text

theorem parse?_doorRequest :
    Json.parse? "\x7b\"key\":\"key/8\"\x7d" = some (.object [("key", .string "key/8")]) := by
  have named : (Json.parse? "\x7b\"key\":\"key/8\"\x7d").bind doorKey? = some "key/8" := by
    decide +kernel
  obtain ⟨record, parsed, named⟩ := Option.bind_eq_some_iff.mp named
  rw [parsed, eq_of_doorKey? named]

/-- The patch makes of the door what the update writes. -/
theorem doorPatch_patches :
    doorPatch.Patches doorStore.answer (.object [("key", .string "key/8")]) := by
  have steps : Patch.segments "key" = [.key "key"] := by
    simp [Patch.segments, Patch.splitDots, Patch.partSegments, Patch.bracketSegments]
  refine ⟨⟨rfl, rfl⟩, "key", some (.string "key/8"), ⟨1, .object [("key", .string "key/7")]⟩, rfl,
    ?document, rfl, ?sets⟩
  case document =>
    simp only [Message.document, Message.payload?, doorPatch, Option.map_some, parse?_doorPatch]
  case sets =>
    rw [Patch.setPath, steps]
    rfl

/-- The rule on doors does not refer to the action. -/
theorem not_refersTo_doorkeeper :
    ¬ doorkeeper.config.RefersTo ⟨.record, "door/1", .write⟩ "action" := by
  rintro ⟨path, source, tree, found, parses, refers⟩
  have finds : doorkeeper.config.findRule? .record "door/1" .write
      = some (doorPath, .expression "_(_(name).key).owner === user.id && data.key") := by
    decide +kernel
  have unread : (Expr.parse "_(_(name).key).owner === user.id && data.key").toOption.any
      (Expr.references "action") = false := by decide +kernel
  rw [finds] at found
  cases found
  rw [parses] at unread
  cases refers.symm.trans unread

/-- The patch takes two runs and the update three, and both are allowed. -/
theorem doorPatch_eq_doorRequest :
    (doorkeeper.authorize (fun _ => 0) doorStore doorPatch).result.toOption = some true
      ∧ (doorkeeper.authorize (fun _ => 0) doorStore doorPatch).result
        = (doorkeeper.authorize (fun _ => 0) doorStore doorRequest).result := by
  have patchAllowed : (doorkeeper.authorize (fun _ => 0) doorStore doorPatch).result.toOption
      = some true := by decide +kernel
  have updateAllowed : (doorkeeper.authorize (fun _ => 0) doorStore doorRequest).result.toOption
      = some true := by decide +kernel
  have answers (name : String) : ∃ record, doorStore.answer name = .ok record := ⟨_, rfl⟩
  have reached : Reached Store Options.default doorkeeper :=
    ⟨_, doorkeeper, [], create_eq_ok_iff.mpr ⟨rfl, rfl, rfl⟩, rfl⟩
  refine ⟨patchAllowed, ?_⟩
  rcases authorize_patch_eq_update (Store.steady doorStore) answers reached reached rfl rfl
    (fun _ => 0) (fun _ => 0) doorPatch_patches parse?_doorRequest none not_refersTo_doorkeeper
    with same | limit | limit
  · exact same
  · rw [limit] at patchAllowed
    cases patchAllowed
  · change (doorkeeper.authorize (fun _ => 0) doorStore doorRequest).result = _ at limit
    rw [limit] at updateAllowed
    cases updateAllowed

end Gatekeeper

end AccessRules
