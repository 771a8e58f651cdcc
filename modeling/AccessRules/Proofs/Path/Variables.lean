import AccessRules.Proofs.Code.ByName
import AccessRules.Proofs.Expr.Display
import AccessRules.Proofs.Path.Filling

/-!
# What rules read for the variables of a path

The values of a name's variables are bound by position, one for every token of the template, while
rules know the variables by name. A name stands for the first position at which it is found, so a
rule reads a variable as what its first token stands for. The name is spelled out by the values of
the tokens, and by what rules read as long as no variable stands for two different texts.
-/

namespace AccessRules

/-- What a rule under a path with these variables reads for one of them. -/
structure ReadsAs (pathNames : List String) (context : Context) (token text : String) : Prop where
  /-- Wherever the variable stands in a rule, and whatever names that rule assigns, its code gives
  the text and changes nothing. -/
  anywhere : ∀ names, ∃ code, Code.lower ⟨pathNames, names⟩ (.ident token) = .ok code
    ∧ ∀ run : Run, (code.evaluate context).run.run run = (.ok (.string text), run)
  /-- A rule that is nothing but the variable comes to the text. -/
  alone : ∃ rule, CompiledRule.compile token pathNames = .ok rule
    ∧ rule.run context = .done (.string text)

/-- A variable is read as one text only. -/
theorem ReadsAs.unique {pathNames : List String} {context : Context} {token text other : String}
    (here : ReadsAs pathNames context token text) (there : ReadsAs pathNames context token other) :
    text = other := by
  obtain ⟨rule, compiled, ran⟩ := here.alone
  obtain ⟨rule', compiled', ran'⟩ := there.alone
  rw [compiled] at compiled'
  cases compiled'
  rw [ran] at ran'
  cases ran'
  rfl

/-! ### Tokens in rules -/

/-- A dollar sign with ASCII letters and digits behind it. -/
def IsToken (token : String) : Prop :=
  ∃ name : List Char, token = String.ofList ('$' :: name)
    ∧ ∀ character ∈ name, Text.isAsciiAlphanumeric character = true

namespace IsToken

variable {token : String}

theorem begins (isToken : IsToken token) : token.toList.head? = some '$' := by
  obtain ⟨name, rfl, _⟩ := isToken
  rw [String.toList_ofList]
  rfl

theorem ofName?_eq_none (isToken : IsToken token) : Builtin.ofName? token = none := by
  have begins := isToken.begins
  unfold Builtin.ofName?
  split <;> first | rfl | exact absurd begins (by decide)

theorem word_eq (isToken : IsToken token) : Token.word token = .ident token := by
  have begins := isToken.begins
  have noLiteral : Token.literalWord? token = none := by
    unfold Token.literalWord?
    split <;> first | rfl | exact absurd begins (by decide)
  rw [Token.word, noLiteral]

/-- Letters and digits go on a name in a rule, too. -/
theorem isNamePart_of_alphanumeric {character : Char}
    (accepted : Text.isAsciiAlphanumeric character = true) : Token.isNamePart character = true := by
  simp only [Text.isAsciiAlphanumeric, Bool.or_eq_true] at accepted
  simp only [Token.isNamePart, Token.isNameStart, Decimal.isDigit, Bool.or_eq_true]
  rcases accepted with isLetter | isDigit
  · exact .inl (.inl (.inl isLetter))
  · exact .inr isDigit

theorem spells (isToken : IsToken token) : Lexeme.Spells token.toList (.word token) := by
  obtain ⟨name, rfl, areParts⟩ := isToken
  rw [String.toList_ofList]
  apply Lexeme.Spells.word rfl
  intro character among
  exact isNamePart_of_alphanumeric (areParts character among)

/-- A token is a rule that is an identifier. -/
theorem parse_eq (isToken : IsToken token) : Expr.parse token = .ok (.ident token) := by
  have shown := Expr.ShownBy.word isToken.spells
  have reads := shown.reads [] (Expr.separates_nil.mayFollow _)
  rw [Expr.display_word, List.append_nil] at reads
  have isRule : Grammar.IsRule 0 token (Token.word token) := by
    refine ⟨[.word token], [], ⟨[], reads, rfl⟩, .inl rfl, ?_⟩
    apply shown.expression
    rw [isToken.word_eq]
    exact Nat.le_refl 0
  rw [isToken.word_eq] at isRule
  exact Expr.parseWithin_eq_ok isRule (Nat.zero_le _) (Nat.zero_le _)

/-- A token among the variables of the path is lowered to its first position there. -/
theorem lower_eq (isToken : IsToken token) {pathNames : List String} {position : Nat}
    (stands : Code.position? token pathNames = some position) (names : List String) :
    Code.lower ⟨pathNames, names⟩ (.ident token) = .ok (.pathVariable position) := by
  rw [Code.lower, Code.resolve, isToken.ofName?_eq_none]
  simp only [stands]

/-- What stands at the first position of a token is what rules read for it. -/
theorem readsAs (isToken : IsToken token) {pathNames values : List String} {position : Nat}
    {value : String} (stands : Code.position? token pathNames = some position)
    (bound : values[position]? = some value) (context : Context) :
    ReadsAs pathNames { context with pathValues := values } token value where
  anywhere names := by
    refine ⟨_, isToken.lower_eq stands names, fun run => ?_⟩
    have reads : Context.pathVariable { context with pathValues := values } position
        = .string value := by
      rw [Context.pathVariable, bound]
    rw [Code.evaluate, reads]
    rfl
  alone := by
    have reads : Context.pathVariable { context with pathValues := values } position
        = .string value := by
      rw [Context.pathVariable, bound]
    have compiled : CompiledRule.compile token pathNames = .ok ⟨token, .code (.pathVariable position),
        (Expr.ident token).references "data", (Expr.ident token).references "oldData", 0⟩ := by
      rw [CompiledRule.compile, isToken.parse_eq]
      simp only [CompiledRule.ofExpr, Code.collectNames, isToken.lower_eq stands]
      rfl
    refine ⟨_, compiled, ?_⟩
    rw [CompiledRule.run]
    simp only [Code.evaluate, reads]
    rfl

end IsToken

namespace Path

/-! ### Tokens in templates -/

/-- The variables of pieces that are spelled somehow are tokens. -/
theorem Spells.areTokens {text : List Char} {pieces : List Piece} (spelled : Spells text pieces) :
    ∀ token ∈ pieces.filterMap Piece.variableName?, IsToken token := by
  induction spelled with
  | nil => exact List.forall_mem_nil _
  | star _ ih => exact ih
  | captured _ areParts _ _ ih => exact List.forall_mem_cons.mpr ⟨⟨_, rfl, areParts⟩, ih⟩
  | literal _ _ _ ih => exact ih

/-- What is found first for a token stands at its first position. -/
theorem exists_position {names values : List String} (sameLength : values.length = names.length)
    {token : String} (among : token ∈ names) :
    ∃ position value, Code.position? token names = some position
      ∧ values[position]? = some value ∧ (names.zip values).lookup token = some value := by
  induction names generalizing values with
  | nil => cases among
  | cons name names ih =>
      cases values with
      | nil => cases sameLength
      | cons value values =>
          by_cases same : name = token
          · subst same
            refine ⟨0, value, ?_, rfl, List.lookup_cons_self⟩
            rw [Code.position?, List.findIdx?_cons, beq_self_eq_true]
            rfl
          · have isBehind := (List.mem_cons.mp among).resolve_left (Ne.symm same)
            obtain ⟨position, value', stands, bound, found⟩ := ih (Nat.succ.inj sameLength) isBehind
            refine ⟨position + 1, value', ?_, bound, ?_⟩
            · rw [Code.position?] at stands
              rw [Code.position?, List.findIdx?_cons, beq_false_of_ne same, stands]
              rfl
            · rw [List.zip_cons_cons, List.lookup_cons, beq_false_of_ne (Ne.symm same)]
              exact found

/-- What is given for each name, one by one. -/
theorem map_eq_of_forall_mem_zip {names values : List String}
    (sameLength : values.length = names.length) {valueOf : String → String}
    (given : ∀ binding ∈ names.zip values, valueOf binding.1 = binding.2) :
    names.map valueOf = values := by
  induction names generalizing values with
  | nil => exact (List.eq_nil_of_length_eq_zero sameLength).symm
  | cons name names ih =>
      cases values with
      | nil => cases sameLength
      | cons value values =>
          obtain ⟨isFirst, others⟩ := List.forall_mem_cons.mp given
          rw [List.map_cons, isFirst, ih (Nat.succ.inj sameLength) others]

namespace Template

/-- No variable stands for two different texts. -/
def OneTextEach (template : Template) (values : List String) : Prop :=
  ∀ binding ∈ template.variableNames.zip values, ∀ other ∈ template.variableNames.zip values,
    binding.1 = other.1 → binding.2 = other.2

instance (template : Template) (values : List String) : Decidable (template.OneTextEach values) :=
  inferInstanceAs (Decidable (∀ binding ∈ template.variableNames.zip values,
    ∀ other ∈ template.variableNames.zip values, binding.1 = other.1 → binding.2 = other.2))

/-- A name that a template without stars matches is spelled out by the values of its variables. -/
structure SpellsOut (template : Template) (name : String) (values : List String) : Prop where
  /-- Every token in the template replaced by what it stands for gives the name. -/
  byTokens : template.fill values = name
  /-- Rules read a variable as what its first token stands for. -/
  reads : ∀ token ∈ template.variableNames, ∃ value,
    (template.variableNames.zip values).lookup token = some value
      ∧ ∀ context : Context,
        ReadsAs template.variableNames { context with pathValues := values } token value
  /-- Every token replaced by what rules read for its variable gives the name, unless tokens of one
  variable stand for different texts. -/
  byVariables : ∀ valueOf : String → String,
    (∀ token ∈ template.variableNames, ∀ context : Context,
      ReadsAs template.variableNames { context with pathValues := values } token (valueOf token)) →
    template.OneTextEach values → template.fill (template.variableNames.map valueOf) = name
  /-- They do not if no variable stands in the template twice. -/
  distinct : template.variableNames.Nodup → template.OneTextEach values

variable {template : Template}

/-- Where no variable stands twice each stands for one text. -/
theorem oneTextEach_of_nodup (nodup : template.variableNames.Nodup) (values : List String) :
    template.OneTextEach values := by
  intro binding among other among' sameToken
  obtain ⟨index, inRange, rfl⟩ := List.mem_iff_getElem.mp among
  obtain ⟨index', inRange', rfl⟩ := List.mem_iff_getElem.mp among'
  simp only [List.getElem_zip] at sameToken
  have same : index = index' := (List.getElem_inj nodup).mp sameToken
  subst same
  rfl

/-- Of every name that a template without stars matches the tokens tell the whole, and rules know
what the first token of each variable tells. -/
theorem spellsOut_of_captures? {path name : String} {values : List String}
    (parsed : parse path = .ok template) (noStar : '*' ∉ path.toList)
    (captured : template.captures? name = some values) : SpellsOut template name values := by
  have spelled := spells_of_parse parsed
  obtain ⟨suits, filled⟩ := fill_of_captures? (spelled.star_not_mem noStar) captured
  have reads : ∀ token ∈ template.variableNames, ∃ value,
      (template.variableNames.zip values).lookup token = some value
        ∧ ∀ context : Context,
          ReadsAs template.variableNames { context with pathValues := values } token value := by
    intro token among
    obtain ⟨position, value, stands, bound, found⟩ := exists_position suits.length_eq among
    exact ⟨value, found, (spelled.areTokens token among).readsAs stands bound⟩
  refine ⟨filled, reads, ?byVariables, fun nodup => oneTextEach_of_nodup nodup values⟩
  case byVariables =>
    intro valueOf areRead oneTextEach
    have same : template.variableNames.map valueOf = values := by
      apply map_eq_of_forall_mem_zip suits.length_eq
      rintro ⟨token, value⟩ bound
      have among : token ∈ template.variableNames := (List.of_mem_zip bound).1
      obtain ⟨value', found, readsAs⟩ := reads token among
      have isRead : valueOf token = value' :=
        (areRead token among Context.empty).unique (readsAs Context.empty)
      obtain ⟨before, behind, split, _⟩ := List.lookup_eq_some_iff.mp found
      have isFirst : (token, value') ∈ template.variableNames.zip values := by
        rw [split]
        exact List.mem_append_cons_self
      rw [isRead]
      exact oneTextEach _ isFirst _ bound rfl
    rw [same, filled]

/-- Both tokens of a variable may stand for one text. -/
theorem spellsOut_sameRoom : ∃ template, parse "$r.$id/$r" = .ok template
    ∧ '*' ∉ "$r.$id/$r".toList
    ∧ template.captures? "a.b.7/a.b" = some ["a.b", "7", "a.b"]
    ∧ SpellsOut template "a.b.7/a.b" ["a.b", "7", "a.b"]
    ∧ template.OneTextEach ["a.b", "7", "a.b"] := by
  have parsed : parse "$r.$id/$r" = .ok ⟨"$r.$id/$r", [.captured "$r", .literal '.',
      .captured "$id", .literal '/', .captured "$r"]⟩ := by cbv
  refine ⟨_, parsed, by decide, rfl, spellsOut_of_captures? parsed (by decide) rfl, by decide⟩

/-- If they stand for two, rules read the first one in place of both. -/
theorem twoRooms_readAlike : ∃ template, parse "$room/$room" = .ok template
    ∧ '*' ∉ "$room/$room".toList ∧ template.captures? "a/b" = some ["a", "b"]
    ∧ (∀ context : Context,
      ReadsAs template.variableNames { context with pathValues := ["a", "b"] } "$room" "a")
    ∧ ∀ valueOf : String → String,
      (∀ token ∈ template.variableNames, ∀ context : Context,
        ReadsAs template.variableNames { context with pathValues := ["a", "b"] } token
          (valueOf token)) →
      template.fill (template.variableNames.map valueOf) = "a/a" := by
  refine ⟨⟨"$room/$room", [.captured "$room", .literal '/', .captured "$room"]⟩, by cbv, by decide,
    rfl, ?_⟩
  have isToken : IsToken "$room" := ⟨"room".toList, rfl, List.all_eq_true.mp rfl⟩
  have readsFirst (context : Context) :
      ReadsAs ["$room", "$room"] { context with pathValues := ["a", "b"] } "$room" "a" :=
    isToken.readsAs rfl rfl context
  refine ⟨readsFirst, ?_⟩
  intro valueOf areRead
  have isFirst := (areRead "$room" List.mem_cons_self Context.empty).unique (readsFirst Context.empty)
  change fill _ [valueOf "$room", valueOf "$room"] = "a/a"
  rw [isFirst]
  rfl

end Template

end Path

end AccessRules
