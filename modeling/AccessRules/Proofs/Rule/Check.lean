import AccessRules.Proofs.Expr.Acceptance
import AccessRules.Proofs.Rule.Scans

/-!
# What the looks at the text let through

The looks at the text of a rule refuse nothing legal that has no strings in it. A source without
quotes that can be compiled passes them all, unless it has `new` or `function` for a name: only what
its tree reads may speak against it.
-/

namespace AccessRules.Rule

open Lexeme

/-- What can be compiled calls nothing but the supported functions. -/
theorem callsOnly_of_wellScoped {pathNames : List String} {tree : Expr}
    (wellScoped : tree.WellScoped pathNames) : tree.CallsOnly supportedFunctions := by
  have supported : ∀ entry ∈ Vocabulary.methods, entry.1 ∈ supportedFunctions := by decide
  intro callee arguments among
  cases wellScoped.calls callee arguments among with
  | crossReference => exact ⟨crossReferenceName, List.mem_cons_self, rfl⟩
  | method _ among => exact ⟨_, supported _ among, rfl⟩

/-- What a check comes to if only what the tree reads is left to decide: whether rules of the type
may read that. -/
inductive DecidedByReads (kind : Section) (ruleType : RuleType) (tree : Expr) :
    Except RuleError Expr → Prop
  | passes : (tree.references "oldData" = true → ruleType.supportsOldData = true) →
      (tree.references "data" = true → ruleType.supportsData = true) →
      DecidedByReads kind ruleType tree (.ok tree)
  | oldData : tree.references "oldData" = true → ruleType.supportsOldData = false →
      DecidedByReads kind ruleType tree (.error (.oldDataNotSupported kind.name ruleType.name))
  | data : tree.references "data" = true → ruleType.supportsData = false →
      DecidedByReads kind ruleType tree (.error (.dataNotSupported kind.name ruleType.name))

/-- A source of this tree in whose text nothing is found that rules must not hold. -/
structure PassesLooks (source : String) (tree : Expr) : Prop where
  parses : Expr.parse source = .ok tree
  notBlank : source.toList.all Text.isBlank = false
  noNew : holdsWord "new".toList none source.toList = false
  noFunction : holdsWord "function".toList none source.toList = false
  noArrow : holdsArrow source.toList = false
  supported : calledNames source.toList ⊆ supportedFunctions

/-- A check that finds nothing in the text is decided by what the tree reads. -/
theorem PassesLooks.check {source : String} {tree : Expr} (passes : PassesLooks source tree)
    (kind : Section) (ruleType : RuleType) :
    DecidedByReads kind ruleType tree (Rule.check source kind ruleType) := by
  have noFault : ((calledNames source.toList).find? fun name => !supportedFunctions.contains name)
      = none := by
    rw [List.find?_eq_none]
    intro name among
    rw [List.contains_iff_mem.mpr (passes.supported among)]
    decide
  simp only [Rule.check, passes.notBlank, passes.noNew, passes.noFunction, passes.noArrow, noFault,
    passes.parses, Bool.or_false, Bool.false_eq_true, if_false]
  split
  · next refuses =>
    obtain ⟨reads, unsupported⟩ := Bool.and_eq_true_iff.mp refuses
    exact .oldData reads (Bool.not_eq_true' _ ▸ unsupported)
  · next oldData =>
    split
    · next refuses =>
      obtain ⟨reads, unsupported⟩ := Bool.and_eq_true_iff.mp refuses
      exact .data reads (Bool.not_eq_true' _ ▸ unsupported)
    · next data =>
      refine .passes ?_ ?_
      · intro reads
        simpa [reads] using oldData
      · intro reads
        simpa [reads] using data

/-- The lexemes of a source without quotes, of which everything fits and the words are known. -/
theorem exists_unquoted {source : String} {pathNames : List String} {rule : CompiledRule}
    {tree : Expr} (noQuotes : ∀ character ∈ source.toList, Token.isQuote character = false)
    (parses : Expr.parse source = .ok tree)
    (compiles : CompiledRule.ofExpr source pathNames tree = .ok rule) :
    ∃ lexemes, Unquoted source.toList lexemes ∧ lexemes ≠ []
      ∧ lexemes.IsChain (Fits supportedFunctions)
      ∧ ∀ name, name ∉ Grammar.literals.map Prod.fst → .word name ∈ lexemes →
        name ∈ tree.names := by
  obtain ⟨⟨lexemes, closing, lexes, isClosing, derives⟩, _⟩ := Expr.parseWithin_eq_ok_iff.mp parses
  have orderly := derives.orderly trivial
    (callsOnly_of_wellScoped (CompiledRule.wellScoped_of_ofExpr compiles))
  refine ⟨_, unquoted_of_lexes lexes noQuotes, List.append_ne_nil_of_left_ne_nil derives.ne_nil _,
    ?fits, ?names⟩
  case fits =>
    rcases isClosing with rfl | rfl
    · rw [List.append_nil]
      exact orderly.fits
    · exact orderly.fits_append (fun _ _ closes => .operator closes (by decide)) (.singleton _)
  case names =>
    intro name noLiteral among
    rcases List.mem_append.mp among with among | among
    · exact (derives.mem_names_iff noLiteral).mp among
    · rcases isClosing with rfl | rfl
      · cases among
      · cases List.mem_singleton.mp among

/-- A source without quotes that can be compiled under some variables, and that has neither `new`
nor `function` for a name, is refused by no look at its text: its check is decided by what it
reads. -/
theorem check_decidedByReads {source : String} {pathNames : List String} {rule : CompiledRule}
    (noQuotes : ∀ character ∈ source.toList, Token.isQuote character = false)
    (compiles : CompiledRule.compile source pathNames = .ok rule)
    (noNames : ∀ tree, Expr.parse source = .ok tree →
      "new" ∉ tree.names ∧ "function" ∉ tree.names) :
    ∃ tree, PassesLooks source tree
      ∧ ∀ kind ruleType, DecidedByReads kind ruleType tree (check source kind ruleType) := by
  obtain ⟨tree, parses, compiles⟩ := CompiledRule.exists_of_compile compiles
  obtain ⟨noNew, noFunction⟩ := noNames tree parses
  obtain ⟨lexemes, unquoted, isSome, fits, areNames⟩ := exists_unquoted noQuotes parses compiles
  have areWord : ∀ name ∈ supportedFunctions, ∀ character ∈ name.toList,
      Text.isWord character = true := by
    have areWord : (supportedFunctions.all fun name => name.toList.all Text.isWord) = true := by
      decide
    intro name among
    exact List.all_eq_true.mp (List.all_eq_true.mp areWord name among)
  have passes : PassesLooks source tree := {
    parses := parses
    notBlank := unquoted.all_isBlank isSome
    noNew := holdsWord_eq_false rfl rfl rfl (List.all_eq_true.mp rfl) unquoted
      (mt (areNames "new" (by decide)) noNew) none
    noFunction := holdsWord_eq_false rfl rfl rfl (List.all_eq_true.mp rfl) unquoted
      (mt (areNames "function" (by decide)) noFunction) none
    noArrow := holdsArrow_eq_false unquoted fits
    supported := calledNames_subset areWord unquoted fits }
  exact ⟨tree, passes, passes.check⟩

/-- A rule with an assignment, a blank before what a call opens, a comparison, and `new` inside a
longer name. -/
def renewalSource : String :=
  "(renewed = $id).indexOf (name)>=1"

/-- The tree of the rule for renewals. -/
def renewalTree : Expr :=
  .binary .greaterOrEqual
    (.call (.member (.assign "renewed" (.ident "$id")) "indexOf") [.ident "name"])
    (.literal (.number (Decimal.Literal.mk ['1'] [] 0).toFloat))

theorem isRule_renewalSource : Grammar.IsRule 2 renewalSource renewalTree := by
  have simple {levels : Nat} {lexemes : List Lexeme} {tree : Expr}
      (derives : Grammar.Derives levels .postfixed lexemes tree) :
      Grammar.Derives levels .expression lexemes tree :=
    .unassigned (.unconditional (.tighter (.tighter (.tighter (.tighter (.tighter (.tighter
      (.operand (.postfixed derives)))))))))
  have assigns : Grammar.Derives 1 .expression [.word "renewed", .symbol "=", .word "$id"]
      (.assign "renewed" (.ident "$id")) :=
    .assign (by decide) (simple (.primary (.word "$id")))
  have method : Grammar.Derives 2 .postfixed [.symbol "(", .word "renewed", .symbol "=",
      .word "$id", .symbol ")", .symbol ".", .word "indexOf"]
      (.member (.assign "renewed" (.ident "$id")) "indexOf") :=
    .member (.primary (.group assigns))
  have calls := method.call (.one (simple (.primary (.word "name"))))
  have atLeast : (">=", BinaryOp.greaterOrEqual) ∈ Grammar.precedence[3] := by decide
  have compares : Grammar.Derives 2 (.operation (Grammar.precedence.drop 3)) _ renewalTree :=
    .operator (.tighter (.tighter (.tighter (.operand (.postfixed calls))))) atLeast
      (.tighter (.tighter (.operand (.postfixed (.primary (.number ⟨['1'], [], 0⟩))))))
  have reads : Reads renewalSource.toList ([.symbol "(", .word "renewed", .symbol "=",
      .word "$id", .symbol ")", .symbol ".", .word "indexOf", .symbol "(", .word "name",
      .symbol ")", .symbol ">=", .number ⟨['1'], [], 0⟩] ++ []) [] := by
    rw [show renewalSource.toList = ['(', 'r', 'e', 'n', 'e', 'w', 'e', 'd', ' ', '=', ' ', '$',
      'i', 'd', ')', '.', 'i', 'n', 'd', 'e', 'x', 'O', 'f', ' ', '(', 'n', 'a', 'm', 'e', ')',
      '>', '=', '1'] from rfl]
    iterate 12 refine .cons (longest_iff.mpr rfl) ?_
    exact .nil _
  exact ⟨_, _, ⟨[], reads, rfl⟩, .inl rfl,
    .unassigned (.unconditional (.tighter (.tighter (.tighter compares))))⟩

/-- The rule for renewals is compiled, and its check is decided by what it reads. -/
theorem decidedByReads_renewalSource :
    (∃ rule, CompiledRule.compile renewalSource ["$id"] = .ok rule)
      ∧ ∃ tree, PassesLooks renewalSource tree
        ∧ ∀ kind ruleType, DecidedByReads kind ruleType tree
            (check renewalSource kind ruleType) := by
  have noQuotes : ∀ character ∈ renewalSource.toList, Token.isQuote character = false := by
    have noQuotes : (renewalSource.toList.all fun character => !Token.isQuote character) = true :=
      rfl
    intro character among
    exact (Bool.not_eq_true' _).mp (List.all_eq_true.mp noQuotes character among)
  have parses : Expr.parse renewalSource = .ok renewalTree :=
    Expr.parseWithin_eq_ok isRule_renewalSource (by decide) (by decide)
  obtain ⟨rule, compiles⟩ :
      ∃ rule, CompiledRule.compile renewalSource ["$id"] = .ok rule := by
    rw [CompiledRule.compile, parses]
    exact ⟨_, rfl⟩
  refine ⟨⟨rule, compiles⟩, check_decidedByReads noQuotes compiles ?_⟩
  intro tree parsesToo
  rw [parses] at parsesToo
  cases parsesToo
  decide

end AccessRules.Rule
