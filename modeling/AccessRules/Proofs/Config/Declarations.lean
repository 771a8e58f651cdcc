import AccessRules.Proofs.Config.Loading
import AccessRules.Proofs.Traversal

/-!
# What a configuration declares

Loading is exact. A document that declares a configuration is loaded as that one, with all of its
paths and rules in the order of the document; any other document is refused, for the first of its
faults.
-/

namespace AccessRules

/-! ### Names and what they name -/

theorem Section.ofName?_eq_some_iff {name : String} {kind : Section} :
    Section.ofName? name = some kind ↔ name = kind.name := by
  constructor
  · intro found
    have same := List.find?_some found
    exact (beq_iff_eq.mp same).symm
  · rintro rfl
    cases kind <;> rfl

theorem RuleType.ofName?_eq_some_iff {name : String} {ruleType : RuleType} :
    RuleType.ofName? name = some ruleType ↔ name = ruleType.name := by
  constructor
  · intro found
    have same := List.find?_some found
    exact (beq_iff_eq.mp same).symm
  · rintro rfl
    cases ruleType <;> rfl

namespace Config

/-! ### Declarations -/

/-- A JSON value is the source of a rule: a boolean, or a text that passes the check for the section
and the rule type and compiles against the variables of the path. -/
inductive DeclaresSource (kind : Section) (pathNames : List String) (ruleType : RuleType) :
    Json → RuleSource → Prop where
  | fixed (allowed : Bool) :
      DeclaresSource kind pathNames ruleType (.bool allowed) (.fixed allowed)
  | expression {source : String} {tree : Expr} {rule : CompiledRule}
      (passes : Rule.check source kind ruleType = .ok tree)
      (compiles : CompiledRule.ofExpr source pathNames tree = .ok rule) :
      DeclaresSource kind pathNames ruleType (.string source) (.expression source)

/-- A field declares a rule of a type of the section. -/
structure DeclaresRule (kind : Section) (pathNames : List String) (field : String × Json)
    (rule : RuleType × RuleSource) : Prop where
  key : field.1 = rule.1.name
  supported : rule.1 ∈ kind.ruleTypes
  source : DeclaresSource kind pathNames rule.1 field.2 rule.2

/-- A field declares a path with its rules, one for each field of its value and in their order. -/
inductive DeclaresPath (kind : Section) : String × Json → PathRules → Prop where
  | rules {path : String} {template : Path.Template} {fields : List (String × Json)}
      {rules : List (RuleType × RuleSource)} (isTemplate : Path.Template.parse path = .ok template)
      (declared : List.Forall₂ (DeclaresRule kind template.variableNames) fields rules) :
      DeclaresPath kind (path, .object fields) ⟨template, rules⟩

/-- A JSON value declares the paths of a section, one for each of its fields and in their order. -/
inductive DeclaresSection (kind : Section) : Json → List PathRules → Prop where
  | paths {fields : List (String × Json)} {paths : List PathRules}
      (declared : List.Forall₂ (DeclaresPath kind) fields paths) :
      DeclaresSection kind (.object fields) paths

/-- The keys of a document are the names of the sections. -/
structure HasSections (fields : List (String × Json)) : Prop where
  all : ∀ kind : Section, (fields.lookup kind.name).isSome = true
  only : ∀ field ∈ fields, ∃ kind : Section, field.1 = kind.name

/-- What stands under the name of a section declares its paths. -/
def DeclaresUnder (fields : List (String × Json)) (kind : Section) (paths : List PathRules) :
    Prop :=
  ∃ value, fields.lookup kind.name = some value ∧ DeclaresSection kind value paths

/-- A document declares a configuration. -/
inductive Declares : Json → Config → Prop where
  | sections {fields : List (String × Json)} {config : Config} (keys : HasSections fields)
      (declared : ∀ kind, DeclaresUnder fields kind (config.paths kind)) :
      Declares (.object fields) config

/-! ### Faults -/

/-- What is wrong with a field that declares no rule. -/
inductive RuleFault (kind : Section) (path : String) (pathNames : List String) :
    String × Json → ConfigError → Prop where
  | unknown {key : String} {value : Json}
      (unsupported : ∀ ruleType ∈ kind.ruleTypes, key ≠ ruleType.name) :
      RuleFault kind path pathNames (key, value) (.unknownRuleType key kind)
  | noSource {ruleType : RuleType} {value : Json} (supported : ruleType ∈ kind.ruleTypes)
      (noBool : ∀ allowed, value ≠ .bool allowed) (noString : ∀ source, value ≠ .string source) :
      RuleFault kind path pathNames (ruleType.name, value) (.invalidRule .notAString)
  | refused {ruleType : RuleType} {source : String} {error : RuleError}
      (supported : ruleType ∈ kind.ruleTypes)
      (refused : Rule.check source kind ruleType = .error error) :
      RuleFault kind path pathNames (ruleType.name, .string source) (.invalidRule error)
  | uncompiled {ruleType : RuleType} {source : String} {tree : Expr} {error : CompileError}
      (supported : ruleType ∈ kind.ruleTypes)
      (passes : Rule.check source kind ruleType = .ok tree)
      (uncompiled : CompiledRule.ofExpr source pathNames tree = .error error) :
      RuleFault kind path pathNames (ruleType.name, .string source)
        (.compile path kind ruleType error)

/-- What is wrong with a field that declares no path. -/
inductive PathFault (kind : Section) : String × Json → ConfigError → Prop where
  | noTemplate {path : String} {value : Json} {error : PathError}
      (noTemplate : Path.Template.parse path = .error error) :
      PathFault kind (path, value) (.invalidPath path kind error)
  | noRules {path : String} {value : Json} {template : Path.Template}
      (isTemplate : Path.Template.parse path = .ok template)
      (noObject : ∀ fields, value ≠ .object fields) :
      PathFault kind (path, value) (.notARuleMap path kind)
  | rule {path : String} {fields : List (String × Json)} {template : Path.Template}
      {error : ConfigError} (isTemplate : Path.Template.parse path = .ok template)
      (faulty : FirstFault
        (fun field => ∃ rule, DeclaresRule kind template.variableNames field rule)
        (RuleFault kind path template.variableNames) fields error) :
      PathFault kind (path, .object fields) error

/-- What is wrong with a value that does not declare the paths of a section. -/
inductive SectionFault (kind : Section) : Json → ConfigError → Prop where
  | noPaths {value : Json} (noObject : ∀ fields, value ≠ .object fields) :
      SectionFault kind value (.sectionNotAnObject kind value.typeName)
  | path {fields : List (String × Json)} {error : ConfigError}
      (faulty : FirstFault (fun field => ∃ path, DeclaresPath kind field path) (PathFault kind)
        fields error) :
      SectionFault kind (.object fields) error

/-- What is wrong with the keys of a document: the first section that is missing, or the first key
that is no section. -/
inductive KeyFault (fields : List (String × Json)) : ConfigError → Prop where
  | missing {error : ConfigError}
      (missing : FirstFault (fun kind : Section => (fields.lookup kind.name).isSome = true)
        (fun kind error => fields.lookup kind.name = none ∧ error = .missingSection kind)
        Section.all error) :
      KeyFault fields error
  | unexpected {error : ConfigError}
      (all : ∀ kind : Section, (fields.lookup kind.name).isSome = true)
      (unexpected : FirstFault (fun field => ∃ kind : Section, field.1 = kind.name)
        (fun field error => (∀ kind : Section, field.1 ≠ kind.name)
          ∧ error = .unexpectedSection field.1) fields error) :
      KeyFault fields error

/-- What is wrong with a document that declares no configuration. -/
inductive Fault : Json → ConfigError → Prop where
  | noSections {value : Json} (noObject : ∀ fields, value ≠ .object fields) :
      Fault value (.notAnObject value.typeName)
  | keys {fields : List (String × Json)} {error : ConfigError} (faulty : KeyFault fields error) :
      Fault (.object fields) error
  | inSection {fields : List (String × Json)} {error : ConfigError} (keys : HasSections fields)
      (faulty : FirstFault (fun kind => ∃ paths, DeclaresUnder fields kind paths)
        (fun kind error => ∃ value, fields.lookup kind.name = some value
          ∧ SectionFault kind value error) Section.all error) :
      Fault (.object fields) error

/-! ### Loading finds what is declared, or the first fault -/

theorem supported_iff {kind : Section} {key : String} {ruleType : RuleType} :
    (RuleType.ofName? key).filter kind.supports = some ruleType ↔
      ruleType ∈ kind.ruleTypes ∧ key = ruleType.name := by
  rw [Option.filter_eq_some_iff, RuleType.ofName?_eq_some_iff, Section.supports,
    List.contains_iff_mem, and_comm]

theorem unsupported_iff {kind : Section} {key : String} :
    (RuleType.ofName? key).filter kind.supports = none ↔
      ∀ ruleType ∈ kind.ruleTypes, key ≠ ruleType.name := by
  rw [Option.eq_none_iff_forall_ne_some]
  simp only [ne_eq, supported_iff, not_and]

/-- A value is the source of a rule if it passes what loading checks of it. -/
theorem checkRule_eq_ok_iff {kind : Section} {path : String} {pathNames : List String}
    {ruleType : RuleType} {value : Json} {source : RuleSource} :
    RuleSource.ofJson value = .ok source ∧ checkRule kind path pathNames ruleType source = .ok () ↔
      DeclaresSource kind pathNames ruleType value source := by
  constructor
  · rintro ⟨isSource, checked⟩
    cases value with
    | bool allowed =>
        cases isSource
        exact .fixed allowed
    | string text =>
        cases isSource
        obtain ⟨tree, rule, passes, compiles⟩ := exists_of_checkRule checked
        exact .expression passes compiles
    | null | number | array | object => cases isSource
  · rintro (allowed | ⟨passes, compiles⟩)
    · exact ⟨rfl, rfl⟩
    · refine ⟨rfl, ?_⟩
      simp only [checkRule, passes, compiles]

theorem loadRule_eq_ok_iff {kind : Section} {path : String} {pathNames : List String}
    {field : String × Json} {rule : RuleType × RuleSource} :
    loadRule kind path pathNames field.1 field.2 = .ok rule ↔
      DeclaresRule kind pathNames field rule := by
  constructor
  · intro loads
    rw [loadRule] at loads
    split at loads
    · cases loads
    · rename_i ruleType known
      obtain ⟨supported, named⟩ := supported_iff.mp known
      split at loads
      · cases loads
      · rename_i source isSource
        obtain ⟨_, checked, loads⟩ := exists_of_bind_eq_ok loads
        cases loads
        exact ⟨named, supported, checkRule_eq_ok_iff.mp ⟨isSource, checked⟩⟩
  · rintro ⟨named, supported, source⟩
    obtain ⟨isSource, checked⟩ := checkRule_eq_ok_iff.mpr source
    rw [loadRule, supported_iff.mpr ⟨supported, named⟩, isSource]
    exact bind_eq_ok_iff.mpr ⟨(), checked, rfl⟩

theorem loadRule_eq_error_iff {kind : Section} {path : String} {pathNames : List String}
    {field : String × Json} {error : ConfigError} :
    loadRule kind path pathNames field.1 field.2 = .error error ↔
      RuleFault kind path pathNames field error := by
  obtain ⟨key, value⟩ := field
  constructor
  · intro fails
    rw [loadRule] at fails
    split at fails
    · rename_i unknown
      cases fails
      exact .unknown (unsupported_iff.mp unknown)
    · rename_i ruleType known
      obtain ⟨supported, rfl⟩ := supported_iff.mp known
      cases value with
      | bool allowed => cases fails
      | string source =>
          rcases bind_eq_error_iff.mp fails with fails | ⟨_, _, fails⟩
          · rw [checkRule] at fails
            split at fails
            · cases fails
              exact .refused supported ‹_›
            · split at fails
              · cases fails
                exact .uncompiled supported ‹_› ‹_›
              · cases fails
          · cases fails
      | null | number | array | object =>
          cases fails
          exact .noSource supported (by simp) (by simp)
  · intro faulty
    cases faulty with
    | unknown unsupported => rw [loadRule, unsupported_iff.mpr unsupported]
    | noSource supported noBool noString =>
        rw [loadRule, supported_iff.mpr ⟨supported, rfl⟩]
        cases value with
        | bool allowed => exact absurd rfl (noBool allowed)
        | string source => exact absurd rfl (noString source)
        | null | number | array | object => rfl
    | refused supported refused =>
        rw [loadRule, supported_iff.mpr ⟨supported, rfl⟩]
        refine bind_eq_error_iff.mpr (Or.inl ?_)
        simp only [checkRule, refused]
    | uncompiled supported passes uncompiled =>
        rw [loadRule, supported_iff.mpr ⟨supported, rfl⟩]
        refine bind_eq_error_iff.mpr (Or.inl ?_)
        simp only [checkRule, passes, uncompiled]

theorem loadPath_eq_ok_iff {kind : Section} {field : String × Json} {path : PathRules} :
    loadPath kind field.1 field.2 = .ok path ↔ DeclaresPath kind field path := by
  obtain ⟨key, value⟩ := field
  constructor
  · intro loads
    rw [loadPath] at loads
    split at loads
    · cases loads
    · rename_i template isTemplate
      cases value with
      | object fields =>
          obtain ⟨rules, each, loads⟩ := exists_of_bind_eq_ok loads
          cases loads
          exact .rules isTemplate ((mapM_eq_ok_iff fun _ _ => loadRule_eq_ok_iff).mp each)
      | null | bool | number | string | array => cases loads
  · rintro ⟨isTemplate, declared⟩
    rw [loadPath, isTemplate]
    exact bind_eq_ok_iff.mpr ⟨_, (mapM_eq_ok_iff fun _ _ => loadRule_eq_ok_iff).mpr declared, rfl⟩

theorem loadPath_eq_error_iff {kind : Section} {field : String × Json} {error : ConfigError} :
    loadPath kind field.1 field.2 = .error error ↔ PathFault kind field error := by
  obtain ⟨key, value⟩ := field
  constructor
  · intro fails
    rw [loadPath] at fails
    split at fails
    · cases fails
      exact .noTemplate ‹_›
    · rename_i template isTemplate
      cases value with
      | object fields =>
          rcases bind_eq_error_iff.mp fails with fails | ⟨_, _, fails⟩
          · exact .rule isTemplate ((mapM_eq_error_iff (fun _ _ => loadRule_eq_ok_iff)
              fun _ _ => loadRule_eq_error_iff).mp fails)
          · cases fails
      | null | bool | number | string | array =>
          cases fails
          exact .noRules isTemplate (by simp)
  · intro faulty
    cases faulty with
    | noTemplate noTemplate => rw [loadPath, noTemplate]
    | noRules isTemplate noObject =>
        rw [loadPath, isTemplate]
        cases value with
        | object fields => exact absurd rfl (noObject fields)
        | null | bool | number | string | array => rfl
    | rule isTemplate faulty =>
        rw [loadPath, isTemplate]
        exact bind_eq_error_iff.mpr (Or.inl ((mapM_eq_error_iff (fun _ _ => loadRule_eq_ok_iff)
          fun _ _ => loadRule_eq_error_iff).mpr faulty))

theorem loadSection_eq_ok_iff {kind : Section} {value : Json} {paths : List PathRules} :
    loadSection kind value = .ok paths ↔ DeclaresSection kind value paths := by
  constructor
  · intro loads
    unfold loadSection at loads
    split at loads
    · exact .paths ((mapM_eq_ok_iff fun _ _ => loadPath_eq_ok_iff).mp loads)
    · cases loads
  · rintro ⟨declared⟩
    exact (mapM_eq_ok_iff fun _ _ => loadPath_eq_ok_iff).mpr declared

theorem loadSection_eq_error_iff {kind : Section} {value : Json} {error : ConfigError} :
    loadSection kind value = .error error ↔ SectionFault kind value error := by
  constructor
  · intro fails
    unfold loadSection at fails
    split at fails
    · exact .path ((mapM_eq_error_iff (fun _ _ => loadPath_eq_ok_iff)
        fun _ _ => loadPath_eq_error_iff).mp fails)
    · rename_i noObject
      cases fails
      exact .noPaths noObject
  · intro faulty
    cases faulty with
    | noPaths noObject =>
        cases value with
        | object fields => exact absurd rfl (noObject fields)
        | null | bool | number | string | array => rfl
    | path faulty =>
        exact (mapM_eq_error_iff (fun _ _ => loadPath_eq_ok_iff)
          fun _ _ => loadPath_eq_error_iff).mpr faulty

/-- The first section without a key. -/
theorem missing_iff {fields : List (String × Json)} {error : ConfigError} :
    FirstFault (fun kind : Section => (fields.lookup kind.name).isSome = true)
        (fun kind error => fields.lookup kind.name = none ∧ error = .missingSection kind)
        Section.all error ↔
      ∃ kind, Section.all.find? (fun kind => (fields.lookup kind.name).isNone) = some kind
        ∧ error = .missingSection kind :=
  firstFault_iff_find? (by simp) (by simp)

/-- The first key that is no section. -/
theorem unexpected_iff {fields : List (String × Json)} {error : ConfigError} :
    FirstFault (fun field => ∃ kind : Section, field.1 = kind.name)
        (fun field error => (∀ kind : Section, field.1 ≠ kind.name)
          ∧ error = .unexpectedSection field.1) fields error ↔
      ∃ field, fields.find? (fun field => (Section.ofName? field.1).isNone) = some field
        ∧ error = .unexpectedSection field.1 := by
  refine firstFault_iff_find? (fun field => ?_) (fun field error => ?_)
  · rw [Option.isNone_eq_false_iff, Option.isSome_iff_exists]
    simp only [Section.ofName?_eq_some_iff]
  · rw [Option.isNone_iff_eq_none, Option.eq_none_iff_forall_ne_some]
    simp only [ne_eq, Section.ofName?_eq_some_iff]

theorem all_iff {fields : List (String × Json)} :
    (∀ kind : Section, (fields.lookup kind.name).isSome = true) ↔
      Section.all.find? (fun kind => (fields.lookup kind.name).isNone) = none := by
  have every (kind : Section) : kind ∈ Section.all := by cases kind <;> decide
  simp [List.find?_eq_none, every, Option.isSome_iff_ne_none]

theorem only_iff {fields : List (String × Json)} :
    (∀ field ∈ fields, ∃ kind : Section, field.1 = kind.name) ↔
      fields.find? (fun field => (Section.ofName? field.1).isNone) = none := by
  simp only [List.find?_eq_none, Bool.not_eq_true, Option.isNone_eq_false_iff,
    Option.isSome_iff_exists, Section.ofName?_eq_some_iff]

theorem hasSections_iff {fields : List (String × Json)} :
    HasSections fields ↔
      Section.all.find? (fun kind => (fields.lookup kind.name).isNone) = none
        ∧ fields.find? (fun field => (Section.ofName? field.1).isNone) = none := by
  rw [← all_iff, ← only_iff]
  exact ⟨fun keys => ⟨keys.all, keys.only⟩, fun ⟨all, only⟩ => ⟨all, only⟩⟩

theorem keyFault_iff {fields : List (String × Json)} {error : ConfigError} :
    KeyFault fields error ↔
      (∃ kind, Section.all.find? (fun kind => (fields.lookup kind.name).isNone) = some kind
          ∧ error = .missingSection kind)
        ∨ (Section.all.find? (fun kind => (fields.lookup kind.name).isNone) = none
          ∧ ∃ field, fields.find? (fun field => (Section.ofName? field.1).isNone) = some field
            ∧ error = .unexpectedSection field.1) := by
  rw [← missing_iff, ← unexpected_iff, ← all_iff]
  constructor
  · rintro (missing | ⟨all, unexpected⟩)
    · exact Or.inl missing
    · exact Or.inr ⟨all, unexpected⟩
  · rintro (missing | ⟨all, unexpected⟩)
    · exact .missing missing
    · exact .unexpected all unexpected

theorem checkSections_eq_ok_iff {fields : List (String × Json)} :
    checkSections fields = .ok () ↔ HasSections fields := by
  rw [hasSections_iff, checkSections]
  split
  · rename_i missing
    simp [missing]
  · rename_i noneMissing
    split <;> rename_i found <;> simp [noneMissing, found]

theorem checkSections_eq_error_iff {fields : List (String × Json)} {error : ConfigError} :
    checkSections fields = .error error ↔ KeyFault fields error := by
  rw [keyFault_iff, checkSections]
  split
  · rename_i missing
    simp [missing, eq_comm]
  · rename_i noneMissing
    split <;> rename_i found <;> simp [noneMissing, found, eq_comm]

/-- What loading takes from a document whose keys are the sections. -/
theorem lookup_of_hasSections {fields : List (String × Json)} (keys : HasSections fields)
    (kind : Section) :
    fields.lookup kind.name = some ((fields.lookup kind.name).getD .null) := by
  obtain ⟨value, found⟩ := Option.isSome_iff_exists.mp (keys.all kind)
  rw [found, Option.getD_some]

theorem loadUnder_eq_ok_iff {fields : List (String × Json)} (keys : HasSections fields)
    {kind : Section} {paths : List PathRules} :
    loadSection kind ((fields.lookup kind.name).getD .null) = .ok paths ↔
      DeclaresUnder fields kind paths := by
  rw [loadSection_eq_ok_iff]
  constructor
  · exact fun declared => ⟨_, lookup_of_hasSections keys kind, declared⟩
  · rintro ⟨value, found, declared⟩
    rw [found]
    exact declared

theorem loadUnder_eq_error_iff {fields : List (String × Json)} (keys : HasSections fields)
    {kind : Section} {error : ConfigError} :
    loadSection kind ((fields.lookup kind.name).getD .null) = .error error ↔
      ∃ value, fields.lookup kind.name = some value ∧ SectionFault kind value error := by
  rw [loadSection_eq_error_iff]
  constructor
  · exact fun faulty => ⟨_, lookup_of_hasSections keys kind, faulty⟩
  · rintro ⟨value, found, faulty⟩
    rw [found]
    exact faulty

/-- What is loaded is what is declared. -/
theorem ofJson_eq_ok_iff {value : Json} {config : Config} :
    ofJson value = .ok config ↔ Declares value config := by
  constructor
  · intro loads
    unfold ofJson at loads
    split at loads
    · obtain ⟨_, checked, loads⟩ := exists_of_bind_eq_ok loads
      obtain ⟨record, loadsRecord, loads⟩ := exists_of_bind_eq_ok loads
      obtain ⟨event, loadsEvent, loads⟩ := exists_of_bind_eq_ok loads
      obtain ⟨rpc, loadsRpc, loads⟩ := exists_of_bind_eq_ok loads
      cases loads
      have keys := checkSections_eq_ok_iff.mp checked
      refine .sections keys fun kind => ?_
      cases kind with
      | record => exact (loadUnder_eq_ok_iff keys).mp loadsRecord
      | event => exact (loadUnder_eq_ok_iff keys).mp loadsEvent
      | rpc => exact (loadUnder_eq_ok_iff keys).mp loadsRpc
    · cases loads
  · rintro ⟨keys, declared⟩
    have loads (kind : Section) := (loadUnder_eq_ok_iff keys).mpr (declared kind)
    simp only [ofJson, bind_eq_ok_iff]
    exact ⟨(), checkSections_eq_ok_iff.mpr keys, _, loads .record, _, loads .event, _, loads .rpc,
      rfl⟩

/-- A document is refused for its first fault. -/
theorem ofJson_eq_error_iff {value : Json} {error : ConfigError} :
    ofJson value = .error error ↔ Fault value error := by
  cases value with
  | object fields =>
      simp only [ofJson, bind_eq_error_iff]
      constructor
      · rintro (unchecked | ⟨_, checked, fails⟩)
        · exact .keys (checkSections_eq_error_iff.mp unchecked)
        · have keys := checkSections_eq_ok_iff.mp checked
          simp only [loadUnder_eq_ok_iff keys, loadUnder_eq_error_iff keys] at fails
          refine .inSection keys ?_
          simp only [Section.all, firstFault_cons]
          rcases fails with fault
            | ⟨record, declared, fault | ⟨event, declared', fault | ⟨_, _, fails⟩⟩⟩
          · exact Or.inl fault
          · exact Or.inr ⟨⟨record, declared⟩, Or.inl fault⟩
          · exact Or.inr ⟨⟨record, declared⟩, Or.inr ⟨⟨event, declared'⟩, Or.inl fault⟩⟩
          · cases fails
      · intro faulty
        cases faulty with
        | noSections noObject => exact absurd rfl (noObject fields)
        | keys faulty => exact Or.inl (checkSections_eq_error_iff.mpr faulty)
        | inSection keys faulty =>
            refine Or.inr ⟨(), checkSections_eq_ok_iff.mpr keys, ?_⟩
            simp only [loadUnder_eq_ok_iff keys, loadUnder_eq_error_iff keys]
            simp only [Section.all, firstFault_cons, not_firstFault_nil, and_false, or_false]
              at faulty
            rcases faulty with fault | ⟨⟨record, declared⟩, fault | ⟨⟨event, declared'⟩, fault⟩⟩
            · exact Or.inl fault
            · exact Or.inr ⟨record, declared, Or.inl fault⟩
            · exact Or.inr ⟨record, declared, Or.inr ⟨event, declared', Or.inl fault⟩⟩
  | null | bool | number | string | array =>
      constructor
      · intro fails
        cases fails
        exact .noSections (by simp)
      · intro faulty
        cases faulty
        rfl

/-! ### Which documents are accepted, and which rules are found -/

/-- A field is a rule of the section: its key is one of the rule types of the section, and its value
a boolean, or a text that passes the check and compiles. -/
def AcceptableRule (kind : Section) (pathNames : List String) (field : String × Json) : Prop :=
  ∃ ruleType ∈ kind.ruleTypes, field.1 = ruleType.name
    ∧ ((∃ allowed, field.2 = .bool allowed)
      ∨ ∃ source tree rule, field.2 = .string source
        ∧ Rule.check source kind ruleType = .ok tree
        ∧ CompiledRule.ofExpr source pathNames tree = .ok rule)

/-- A field is a path of the section with its rules. -/
def AcceptablePath (kind : Section) (field : String × Json) : Prop :=
  ∃ template rules, Path.Template.parse field.1 = .ok template ∧ field.2 = .object rules
    ∧ ∀ rule ∈ rules, AcceptableRule kind template.variableNames rule

/-- An object whose keys are the sections, each with an object of paths. -/
def Acceptable (value : Json) : Prop :=
  ∃ fields, value = .object fields ∧ HasSections fields
    ∧ ∀ kind : Section, ∃ paths, fields.lookup kind.name = some (.object paths)
      ∧ ∀ path ∈ paths, AcceptablePath kind path

theorem exists_declaresRule_iff {kind : Section} {pathNames : List String}
    {field : String × Json} :
    (∃ rule, DeclaresRule kind pathNames field rule) ↔ AcceptableRule kind pathNames field := by
  obtain ⟨key, value⟩ := field
  constructor
  · rintro ⟨⟨ruleType, source⟩, named, supported, allowed | ⟨passes, compiles⟩⟩
    · exact ⟨ruleType, supported, named, Or.inl ⟨allowed, rfl⟩⟩
    · exact ⟨ruleType, supported, named, Or.inr ⟨_, _, _, rfl, passes, compiles⟩⟩
  · rintro ⟨ruleType, supported, named, ⟨allowed, rfl⟩ | ⟨_, _, _, rfl, passes, compiles⟩⟩
    · exact ⟨(ruleType, _), named, supported, .fixed allowed⟩
    · exact ⟨(ruleType, _), named, supported, .expression passes compiles⟩

theorem exists_declaresPath_iff {kind : Section} {field : String × Json} :
    (∃ path, DeclaresPath kind field path) ↔ AcceptablePath kind field := by
  obtain ⟨key, value⟩ := field
  constructor
  · rintro ⟨_, ⟨isTemplate, declared⟩⟩
    refine ⟨_, _, isTemplate, rfl, fun rule member => ?_⟩
    exact exists_declaresRule_iff.mp (exists_forall₂_iff.mp ⟨_, declared⟩ rule member)
  · rintro ⟨template, fields, isTemplate, rfl, acceptable⟩
    obtain ⟨rules, declared⟩ := exists_forall₂_iff.mpr fun rule member =>
      exists_declaresRule_iff.mpr (acceptable rule member)
    exact ⟨_, .rules isTemplate declared⟩

/-- Acceptable are the documents that declare a configuration. -/
theorem exists_declares_iff {value : Json} :
    (∃ config, Declares value config) ↔ Acceptable value := by
  constructor
  · rintro ⟨config, ⟨keys, declared⟩⟩
    refine ⟨_, rfl, keys, fun kind => ?_⟩
    obtain ⟨_, found, ⟨declared⟩⟩ := declared kind
    refine ⟨_, found, fun path member => ?_⟩
    exact exists_declaresPath_iff.mp (exists_forall₂_iff.mp ⟨_, declared⟩ path member)
  · rintro ⟨fields, rfl, keys, acceptable⟩
    have declared (kind : Section) : ∃ paths, DeclaresUnder fields kind paths := by
      obtain ⟨fields', found, acceptable⟩ := acceptable kind
      obtain ⟨paths, declared⟩ := exists_forall₂_iff.mpr fun path member =>
        exists_declaresPath_iff.mpr (acceptable path member)
      exact ⟨paths, _, found, .paths declared⟩
    choose paths declared using declared
    refine ⟨⟨paths .record, paths .event, paths .rpc⟩, .sections keys fun kind => ?_⟩
    cases kind with
    | record => exact declared .record
    | event => exact declared .event
    | rpc => exact declared .rpc

end Config

namespace PathRules

variable {path : PathRules} {name : String} {ruleType : RuleType}

/-- A rule is the first of its type among the rules of a path. -/
def Declares (path : PathRules) (ruleType : RuleType) (rule : RuleSource) : Prop :=
  ∃ before behind, path.rules = before ++ (ruleType, rule) :: behind
    ∧ ruleType ∉ before.map Prod.fst

/-- A path has a rule of a type and matches a name. -/
def Covers (path : PathRules) (name : String) (ruleType : RuleType) : Prop :=
  ruleType ∈ path.rules.map Prod.fst ∧ path.template.isMatch name = true

/-- The rule that is looked up is the one that is declared. -/
theorem rule?_eq_some_iff {rule : RuleSource} :
    path.rule? ruleType = some rule ↔ path.Declares ruleType rule := by
  rw [rule?, List.lookup_eq_some_iff]
  simp only [Declares, List.mem_map, not_exists, not_and, bne_iff_ne, ne_comm]

theorem rule?_isSome_iff :
    (path.rule? ruleType).isSome = true ↔ ruleType ∈ path.rules.map Prod.fst := by
  rw [rule?, List.lookup_isSome_iff, List.mem_map]
  simp only [beq_iff_eq, @eq_comm _ ruleType]

/-- A path with its rule, if it declares one and matches. -/
def covering? (path : PathRules) (name : String) (ruleType : RuleType) :
    Option (PathRules × RuleSource) :=
  (path.rule? ruleType).bind fun rule =>
    if path.template.isMatch name then some (path, rule) else none

theorem covering?_eq_some_iff {found : PathRules × RuleSource} :
    path.covering? name ruleType = some found ↔
      path = found.1 ∧ path.Declares ruleType found.2 ∧ path.template.isMatch name = true := by
  obtain ⟨path', rule⟩ := found
  rw [covering?, Option.bind_eq_some_iff]
  simp only [← rule?_eq_some_iff]
  cases path.template.isMatch name <;> simp [and_comm]

theorem covering?_eq_none_iff :
    path.covering? name ruleType = none ↔ ¬ path.Covers name ruleType := by
  rw [covering?, Covers, ← rule?_isSome_iff]
  cases path.rule? ruleType <;> simp

end PathRules

namespace Config

theorem findRule?_eq_findSome? (config : Config) (kind : Section) (name : String)
    (ruleType : RuleType) :
    config.findRule? kind name ruleType
      = (config.paths kind).findSome? (·.covering? name ruleType) := by
  refine congrArg ((config.paths kind).findSome? ·) (funext fun path => ?_)
  rw [PathRules.covering?]
  cases path.rule? ruleType <;> rfl

/-- What is found is the rule of the first path that declares one and matches the name; nothing is
found if there is no such path. -/
structure FindsFirst (config : Config) (kind : Section) (name : String) (ruleType : RuleType) :
    Prop where
  found : ∀ path rule, config.findRule? kind name ruleType = some (path, rule) ↔
    ∃ before behind, config.paths kind = before ++ path :: behind
      ∧ path.Declares ruleType rule ∧ path.template.isMatch name = true
      ∧ ∀ earlier ∈ before, ¬ earlier.Covers name ruleType
  missing : config.findRule? kind name ruleType = none ↔
    ∀ path ∈ config.paths kind, ¬ path.Covers name ruleType

theorem findsFirst (config : Config) (kind : Section) (name : String) (ruleType : RuleType) :
    FindsFirst config kind name ruleType := by
  refine ⟨fun path rule => ?_, ?_⟩
  · rw [findRule?_eq_findSome?, List.findSome?_eq_some_iff]
    simp only [PathRules.covering?_eq_some_iff, PathRules.covering?_eq_none_iff]
    constructor
    · rintro ⟨before, _, behind, split, ⟨rfl, declares, isMatch⟩, passed⟩
      exact ⟨before, behind, split, declares, isMatch, passed⟩
    · rintro ⟨before, behind, split, declares, isMatch, passed⟩
      exact ⟨before, path, behind, split, ⟨rfl, declares, isMatch⟩, passed⟩
  · rw [findRule?_eq_findSome?, List.findSome?_eq_none_iff]
    simp only [PathRules.covering?_eq_none_iff]

/-- A JSON value is loaded exactly. -/
structure LoadsExactly (value : Json) : Prop where
  /-- Loaded are the documents that are well formed in all of their parts. -/
  accepted : (∃ config, ofJson value = .ok config) ↔ Acceptable value
  /-- What is loaded are the paths and rules that are declared, in their order. -/
  declared : ∀ config, ofJson value = .ok config ↔ Declares value config
  /-- What is refused is refused for the first fault in the order of the document. -/
  refused : ∀ error, ofJson value = .error error ↔ Fault value error
  /-- Among the paths that have been loaded, the first one that covers a name decides. -/
  first : ∀ config, ofJson value = .ok config → ∀ kind name ruleType,
    FindsFirst config kind name ruleType

/-- Every JSON value is loaded exactly. -/
theorem ofJson_loadsExactly (value : Json) : LoadsExactly value where
  accepted := by
    simp only [ofJson_eq_ok_iff]
    exact exists_declares_iff
  declared _ := ofJson_eq_ok_iff
  refused _ := ofJson_eq_error_iff
  first config _ := config.findsFirst

end Config

end AccessRules
