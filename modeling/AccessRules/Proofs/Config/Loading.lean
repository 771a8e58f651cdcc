import AccessRules.Config.Basic
import AccessRules.Proofs.Path.Meaning
import AccessRules.Proofs.Success

/-!
# What loading establishes

Every path of a configuration that was loaded is the template of its own text, and each of its rules
has passed the checks of its section against the variables of that template.
-/

namespace AccessRules

/-- What loading has checked of a path in a section. -/
structure PathRules.Loaded (kind : Section) (path : PathRules) : Prop where
  template : Path.Template.parse path.template.raw = .ok path.template
  rules : ∀ rule ∈ path.rules, kind.supports rule.1 = true
    ∧ Config.checkRule kind path.template.raw path.template.variableNames rule.1 rule.2 = .ok ()

namespace Path.Template

/-- A template keeps its text. -/
theorem parse_raw {path : String} {template : Template} (parsed : parse path = .ok template) :
    parse template.raw = .ok template := by
  have same := eq_of_parse parsed
  rw [congrArg Template.raw same]
  exact parsed

end Path.Template

namespace Config

/-- A rule that has passed the check on loading passes it again, and is compiled again. -/
theorem exists_of_checkRule {kind : Section} {path : String} {pathNames : List String}
    {ruleType : RuleType} {source : String}
    (checked : checkRule kind path pathNames ruleType (.expression source) = .ok ()) :
    ∃ tree rule, Rule.check source kind ruleType = .ok tree
      ∧ CompiledRule.ofExpr source pathNames tree = .ok rule := by
  rw [checkRule] at checked
  split at checked
  · cases checked
  · rename_i tree passes
    split at checked
    · cases checked
    · rename_i rule compiles
      exact ⟨tree, rule, passes, compiles⟩

/-- A rule that was loaded is supported by its section and has passed the check. -/
theorem checked_of_loadRule {kind : Section} {path : String} {pathNames : List String}
    {key : String} {value : Json} {rule : RuleType × RuleSource}
    (loads : loadRule kind path pathNames key value = .ok rule) :
    kind.supports rule.1 = true ∧ checkRule kind path pathNames rule.1 rule.2 = .ok () := by
  rw [loadRule] at loads
  split at loads
  · cases loads
  · rename_i ruleType known
    split at loads
    · cases loads
    · obtain ⟨_, checked, loads⟩ := exists_of_bind_eq_ok loads
      cases loads
      exact ⟨(Option.filter_eq_some_iff.mp known).2, checked⟩

theorem loaded_of_loadPath {kind : Section} {path : String} {value : Json} {rules : PathRules}
    (loads : loadPath kind path value = .ok rules) : rules.Loaded kind := by
  rw [loadPath] at loads
  split at loads
  · cases loads
  · rename_i template parsed
    split at loads
    · obtain ⟨declared, each, loads⟩ := exists_of_bind_eq_ok loads
      cases loads
      refine ⟨Path.Template.parse_raw parsed, ?_⟩
      intro rule member
      obtain ⟨field, _, loadsRule⟩ := exists_of_mem_mapM each member
      rw [congrArg Path.Template.raw (Path.Template.eq_of_parse parsed)]
      exact checked_of_loadRule loadsRule
    · cases loads

theorem loaded_of_loadSection {kind : Section} {value : Json} {paths : List PathRules}
    (loads : loadSection kind value = .ok paths) : ∀ path ∈ paths, path.Loaded kind := by
  intro path member
  unfold loadSection at loads
  split at loads
  · obtain ⟨field, _, loadsPath⟩ := exists_of_mem_mapM loads member
    exact loaded_of_loadPath loadsPath
  · cases loads

/-- Every path of a configuration that was loaded has passed the checks of its section. -/
theorem loaded_of_ofJson {value : Json} {config : Config} (loads : ofJson value = .ok config)
    (kind : Section) : ∀ path ∈ config.paths kind, path.Loaded kind := by
  unfold ofJson at loads
  split at loads
  · obtain ⟨_, _, loads⟩ := exists_of_bind_eq_ok loads
    obtain ⟨record, loadsRecord, loads⟩ := exists_of_bind_eq_ok loads
    obtain ⟨event, loadsEvent, loads⟩ := exists_of_bind_eq_ok loads
    obtain ⟨rpc, loadsRpc, loads⟩ := exists_of_bind_eq_ok loads
    cases loads
    cases kind with
    | record => exact loaded_of_loadSection loadsRecord
    | event => exact loaded_of_loadSection loadsEvent
    | rpc => exact loaded_of_loadSection loadsRpc
  · cases loads

end Config

end AccessRules
