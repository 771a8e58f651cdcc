import AccessRules.Proofs.Code.Scoping
import AccessRules.Proofs.Expr.Grammar
import Mathlib.Data.List.Chain

/-!
# Neighbours in a rule

The words of a rule are the names in its tree and the literals. What stands next to what follows
from the grammar too: behind a symbol that awaits an operand there is never a comparison, and a word
stands before a parenthesis only if it is what the tree calls there.
-/

namespace AccessRules

/-! ### Names and calls in a tree -/

namespace Expr

mutual

/-- The names in a tree in the order of the source: the identifiers, the properties that are read by
name and the names that are assigned to. -/
def names : Expr → List String
  | .literal _ => []
  | .array items => allNames items
  | .ident name => [name]
  | .member object name => object.names ++ [name]
  | .index object key => object.names ++ key.names
  | .call callee arguments => callee.names ++ allNames arguments
  | .unary _ operand => operand.names
  | .binary _ left right => left.names ++ right.names
  | .conditional test consequent alternate => test.names ++ (consequent.names ++ alternate.names)
  | .assign target value => target :: value.names

/-- The names in several trees. -/
def allNames : List Expr → List String
  | [] => []
  | first :: rest => first.names ++ allNames rest

end

/-- The name under which something is called: a function's or a method's. -/
def calleeName? : Expr → Option String
  | .ident name => some name
  | .member _ name => some name
  | _ => none

/-- Nothing is called in a tree but functions and methods of these names. -/
def CallsOnly (functions : List String) (tree : Expr) : Prop :=
  ∀ callee arguments, .call callee arguments ∈ tree.parts →
    ∃ name ∈ functions, callee.calleeName? = some name

variable {functions : List String}

theorem CallsOnly.of_subset {tree part : Expr} (calls : tree.CallsOnly functions)
    (inside : part.parts ⊆ tree.parts) : part.CallsOnly functions :=
  fun callee arguments among => calls callee arguments (inside among)

theorem CallsOnly.callee {callee : Expr} {arguments : List Expr}
    (calls : (Expr.call callee arguments).CallsOnly functions) : callee.CallsOnly functions := by
  by_cases isCrossReference : callee.isCrossReference = true
  · -- The name alone, which is no part of the call, calls nothing.
    intro inner arguments' among
    cases callee with
    | ident name => cases List.mem_singleton.mp among
    | literal | array | member | index | call | unary | binary | conditional | assign =>
        cases isCrossReference
  · apply calls.of_subset
    rw [parts, if_neg isCrossReference]
    exact List.subset_cons_of_subset _ (List.subset_append_left _ _)

theorem parts_subset_allParts {trees : List Expr} {tree : Expr} (among : tree ∈ trees) :
    tree.parts ⊆ allParts trees := by
  induction trees with
  | nil => cases among
  | cons first rest ih =>
      rcases List.mem_cons.mp among with rfl | among
      · exact List.subset_append_left _ _
      · exact List.subset_append_of_subset_right _ (ih among)

theorem CallsOnly.arguments {callee : Expr} {arguments : List Expr}
    (calls : (Expr.call callee arguments).CallsOnly functions) :
    ∀ argument ∈ arguments, argument.CallsOnly functions := by
  intro argument among
  apply calls.of_subset
  rw [parts]
  exact List.subset_cons_of_subset _
    (List.subset_append_of_subset_right _ (parts_subset_allParts among))

end Expr

/-! ### Lexemes next to one another -/

namespace Lexeme

/-- The lexemes that end an operand. -/
def closesOperand : Lexeme → Bool
  | .symbol spelling => spelling == ")" || spelling == "]"
  | _ => true

/-- What may follow what in a rule that calls nothing but functions of these names. -/
inductive Fits (functions : List String) : Lexeme → Lexeme → Prop
  /-- An operand is followed by an operator, a mark or a bracket. -/
  | operator {first : Lexeme} {symbol : String} : first.closesOperand = true → symbol ≠ "(" →
      Fits functions first (.symbol symbol)
  | calledName {name : String} : name ∈ functions → Fits functions (.word name) (.symbol "(")
  | calledGroup : Fits functions (.symbol ")") (.symbol "(")
  | operand {symbol : String} {second : Lexeme} : second.opensOperand = true →
      Fits functions (.symbol symbol) second
  /-- Brackets may have nothing between them, and a comma may have nothing behind it. -/
  | nothing {symbol closing : String} : closing ∈ [")", "]", ","] →
      Fits functions (.symbol symbol) (.symbol closing)

/-- A phrase as its neighbours see it: it begins and ends like an operand, and inside it everything
fits. -/
structure Orderly (functions : List String) (lexemes : List Lexeme) : Prop where
  opens : lexemes.head?.any opensOperand = true
  closes : lexemes.getLast?.any closesOperand = true
  fits : lexemes.IsChain (Fits functions)

namespace Orderly

variable {functions : List String} {left right lexemes : List Lexeme} {symbol : String}

theorem single {lexeme : Lexeme} (opens : lexeme.opensOperand = true)
    (closes : lexeme.closesOperand = true) : Orderly functions [lexeme] :=
  ⟨opens, closes, .singleton _⟩

theorem fits_cons (orderly : Orderly functions lexemes) :
    (.symbol symbol :: lexemes).IsChain (Fits functions) := by
  refine List.isChain_cons.mpr ⟨?_, orderly.fits⟩
  intro first isHead
  have opens := orderly.opens
  rw [Option.mem_def.mp isHead] at opens
  exact .operand opens

theorem closes_cons (orderly : Orderly functions lexemes) (first : Lexeme) :
    (first :: lexemes).getLast?.any closesOperand = true := by
  have closes := orderly.closes
  cases isLast : lexemes.getLast? with
  | none =>
      rw [isLast] at closes
      cases closes
  | some last =>
      rw [isLast] at closes
      rw [List.getLast?_cons, isLast]
      exact closes

theorem fits_append (orderly : Orderly functions left)
    (follows : ∀ last, left.getLast? = some last → last.closesOperand = true →
      Fits functions last (.symbol symbol))
    (fits : (.symbol symbol :: right).IsChain (Fits functions)) :
    (left ++ .symbol symbol :: right).IsChain (Fits functions) := by
  refine List.isChain_append.mpr ⟨orderly.fits, fits, ?_⟩
  intro last isLast first isHead
  cases isHead
  have closes := orderly.closes
  rw [Option.mem_def.mp isLast] at closes
  exact follows last isLast closes

/-- A phrase with a symbol behind it and what follows that. -/
theorem append (orderly : Orderly functions left)
    (follows : ∀ last, left.getLast? = some last → last.closesOperand = true →
      Fits functions last (.symbol symbol))
    (fits : (.symbol symbol :: right).IsChain (Fits functions))
    (closes : (Lexeme.symbol symbol :: right).getLast?.any closesOperand = true) :
    Orderly functions (left ++ .symbol symbol :: right) where
  opens := by
    cases left with
    | nil => cases orderly.opens
    | cons first left => exact orderly.opens
  closes := by
    rw [List.getLast?_append_of_ne_nil _ (List.cons_ne_nil _ _)]
    exact closes
  fits := orderly.fits_append follows fits

/-- Two phrases with an operator or a mark between them. -/
theorem joined (orderly : Orderly functions left) (noCall : symbol ≠ "(")
    (others : Orderly functions right) : Orderly functions (left ++ .symbol symbol :: right) :=
  orderly.append (fun _ _ closes => .operator closes noCall) others.fits_cons
    (others.closes_cons _)

/-- What stands in brackets, if anything does, fits there. -/
theorem fits_enclosed {closing : String} (inside : lexemes = [] ∨ Orderly functions lexemes)
    (isClosing : closing ∈ [")", "]", ","])
    (fits : (.symbol closing :: right).IsChain (Fits functions)) :
    (.symbol symbol :: (lexemes ++ .symbol closing :: right)).IsChain (Fits functions) := by
  have noCall : closing ≠ "(" := by
    rintro rfl
    exact absurd isClosing (by decide)
  rcases inside with rfl | orderly
  · exact List.isChain_cons_cons.mpr ⟨.nothing isClosing, fits⟩
  · rw [← List.cons_append]
    refine List.isChain_append.mpr ⟨orderly.fits_cons, fits, ?_⟩
    intro last isLast first isHead
    cases isHead
    have closes := orderly.closes_cons (.symbol symbol)
    rw [Option.mem_def.mp isLast] at closes
    exact .operator closes noCall

end Orderly

theorem closes_enclosed (opening : String) (inside : List Lexeme) {closing : String}
    (closes : (Lexeme.symbol closing).closesOperand = true) :
    (Lexeme.symbol opening :: (inside ++ [.symbol closing])).getLast?.any closesOperand = true := by
  rw [← List.cons_append, List.getLast?_concat]
  exact closes

end Lexeme

namespace Grammar

open Lexeme

/-! ### The neighbours in a phrase -/

section Neighbours

variable {functions : List String}

theorem ne_parenthesis_of_mem_precedence :
    ∀ tier ∈ precedence, ∀ entry ∈ tier, entry.1 ≠ "(" := by
  decide

/-- What goes by a name ends with it, unless it stands in parentheses. -/
theorem Derives.getLast?_of_calleeName? {levels : Nat} {lexemes : List Lexeme} {tree : Expr}
    {name : String} (derives : Derives levels .postfixed lexemes tree)
    (goesBy : tree.calleeName? = some name) :
    lexemes.getLast? = some (.word name) ∨ lexemes.getLast? = some (.symbol ")") := by
  cases derives with
  | member object =>
      cases goesBy
      exact .inl (List.getLast?_append_of_ne_nil _ (List.cons_ne_nil _ _))
  | index | call => cases goesBy
  | primary derives =>
      cases derives with
      | number | string | literal | array => cases goesBy
      | ident =>
          cases goesBy
          exact .inl rfl
      | group inside =>
          rw [← List.cons_append]
          exact .inr List.getLast?_concat

mutual

/-- In a phrase whose tree calls only these functions, everything fits. -/
theorem Derives.orderly :
    ∀ {levels : Nat} {phrase : Phrase} {lexemes : List Lexeme} {tree : Expr},
      Derives levels phrase lexemes tree → phrase.Tightest → tree.CallsOnly functions →
        Orderly functions lexemes
  | _, _, _, _, .assign _ value, _, calls => by
      have assigned := value.orderly trivial (calls.of_subset (List.subset_cons_self _ _))
      exact (Orderly.single rfl rfl).joined (by decide) assigned
  | _, _, _, _, .unassigned derives, _, calls => derives.orderly trivial calls
  | _, _, _, _, .choose test consequent alternate, _, calls => by
      have first := test.orderly (List.suffix_refl _) (calls.of_subset
        (List.subset_cons_of_subset _ (List.subset_append_left _ _)))
      have second := consequent.orderly trivial (calls.of_subset (List.subset_cons_of_subset _
        (List.subset_append_of_subset_right _ (List.subset_append_left _ _))))
      have third := alternate.orderly trivial (calls.of_subset (List.subset_cons_of_subset _
        (List.subset_append_of_subset_right _ (List.subset_append_right _ _))))
      exact first.joined (by decide) (second.joined (by decide) third)
  | _, _, _, _, .unconditional derives, _, calls => derives.orderly (List.suffix_refl _) calls
  | _, _, _, _, .operator left isEntry right, tightest, calls => by
      have first := left.orderly tightest (calls.of_subset
        (List.subset_cons_of_subset _ (List.subset_append_left _ _)))
      have second := right.orderly ((List.suffix_cons _ _).trans tightest) (calls.of_subset
        (List.subset_cons_of_subset _ (List.subset_append_right _ _)))
      exact first.joined
        (ne_parenthesis_of_mem_precedence _ (mem_of_tightest tightest) _ isEntry) second
  | _, _, _, _, .tighter derives, tightest, calls =>
      derives.orderly ((List.suffix_cons _ _).trans tightest) calls
  | _, _, _, _, .operand derives, _, calls => derives.orderly trivial calls
  | _, _, _, _, .unary isOp derives, _, calls => by
      have operand := derives.orderly trivial (calls.of_subset (List.subset_cons_self _ _))
      exact ⟨opensOperand_of_mem _ isOp, operand.closes_cons _, operand.fits_cons⟩
  | _, _, _, _, .postfixed derives, _, calls => derives.orderly trivial calls
  | _, _, _, _, .member object, _, calls => by
      have owner := object.orderly trivial (calls.of_subset (List.subset_cons_self _ _))
      exact owner.joined (by decide) (.single rfl rfl)
  | _, _, _, _, .index object key, _, calls => by
      have owner := object.orderly trivial (calls.of_subset
        (List.subset_cons_of_subset _ (List.subset_append_left _ _)))
      have inside := key.orderly trivial (calls.of_subset
        (List.subset_cons_of_subset _ (List.subset_append_right _ _)))
      exact owner.append (fun _ _ closes => .operator closes (by decide))
        (Orderly.fits_enclosed (.inr inside) (by decide) (.singleton _)) (closes_enclosed _ _ rfl)
  | _, _, _, _, .call callee arguments, _, calls => by
      have called := callee.orderly trivial calls.callee
      have inside := arguments.orderly calls.arguments
      refine called.append ?_ (Orderly.fits_enclosed inside (by decide) (.singleton _))
        (closes_enclosed _ _ rfl)
      -- Only what is called stands right before its arguments, so that this is where names come in.
      intro last isLast _
      obtain ⟨name, among, goesBy⟩ := calls _ _ List.mem_cons_self
      rcases callee.getLast?_of_calleeName? goesBy with isName | isGroup
      · rw [isName] at isLast
        cases isLast
        exact .calledName among
      · rw [isGroup] at isLast
        cases isLast
        exact .calledGroup
  | _, _, _, _, .primary derives, _, calls => derives.orderly trivial calls
  | _, _, _, _, .number _, _, _ => .single rfl rfl
  | _, _, _, _, .string _, _, _ => .single rfl rfl
  | _, _, _, _, .literal _, _, _ => .single rfl rfl
  | _, _, _, _, .ident _, _, _ => .single rfl rfl
  | _, _, _, _, .array items isComma, _, calls => by
      have inside := items.orderly fun tree among => calls.of_subset
        (List.subset_cons_of_subset _ (Expr.parts_subset_allParts among))
      refine ⟨rfl, ?closes, ?fits⟩
      case closes =>
        rw [← List.append_assoc]
        exact closes_enclosed _ _ rfl
      case fits =>
        rcases isComma with rfl | rfl
        · exact Orderly.fits_enclosed inside (by decide) (.singleton _)
        · exact Orderly.fits_enclosed inside (by decide)
            (List.isChain_cons_cons.mpr ⟨.nothing (by decide), .singleton _⟩)
  | _, _, _, _, .group derives, _, calls => by
      have inside := derives.orderly trivial calls
      exact ⟨rfl, closes_enclosed _ _ rfl,
        Orderly.fits_enclosed (.inr inside) (by decide) (.singleton _)⟩

/-- The same for what stands between commas. -/
theorem DerivesAll.orderly :
    ∀ {levels : Nat} {lexemes : List Lexeme} {trees : List Expr},
      DerivesAll levels lexemes trees → (∀ tree ∈ trees, tree.CallsOnly functions) →
        lexemes = [] ∨ Orderly functions lexemes
  | _, _, _, .none, _ => .inl rfl
  | _, _, _, .one derives, calls =>
      .inr (derives.orderly trivial (calls _ List.mem_cons_self))
  | _, _, _, .more derives others, calls => by
      obtain ⟨callsFirst, callsOthers⟩ := List.forall_mem_cons.mp calls
      have first := derives.orderly trivial callsFirst
      rcases others.orderly callsOthers with isNone | rest
      · exact absurd isNone (others.ne_nil (List.cons_ne_nil _ _))
      · exact .inr (first.joined (by decide) rest)

end

end Neighbours

/-! ### The words in a phrase -/

section Words

variable {name : String}

theorem ne_of_mem_literals (noLiteral : name ∉ literals.map Prod.fst) {other : String}
    {value : Value} (isLiteral : (other, value) ∈ literals) : name ≠ other := by
  rintro rfl
  exact noLiteral (List.mem_map_of_mem isLiteral)

mutual

/-- A word that is no literal stands in a phrase if and only if it is a name in the tree. -/
theorem Derives.mem_names_iff (noLiteral : name ∉ literals.map Prod.fst) :
    ∀ {levels : Nat} {phrase : Phrase} {lexemes : List Lexeme} {tree : Expr},
      Derives levels phrase lexemes tree → (.word name ∈ lexemes ↔ name ∈ tree.names)
  | _, _, _, _, .assign _ value => by
      simp [Expr.names, value.mem_names_iff noLiteral]
  | _, _, _, _, .unassigned derives => derives.mem_names_iff noLiteral
  | _, _, _, _, .choose test consequent alternate => by
      simp [Expr.names, test.mem_names_iff noLiteral, consequent.mem_names_iff noLiteral,
        alternate.mem_names_iff noLiteral]
  | _, _, _, _, .unconditional derives => derives.mem_names_iff noLiteral
  | _, _, _, _, .operator left _ right => by
      simp [Expr.names, left.mem_names_iff noLiteral, right.mem_names_iff noLiteral]
  | _, _, _, _, .tighter derives => derives.mem_names_iff noLiteral
  | _, _, _, _, .operand derives => derives.mem_names_iff noLiteral
  | _, _, _, _, .unary _ derives => by
      simp [Expr.names, derives.mem_names_iff noLiteral]
  | _, _, _, _, .postfixed derives => derives.mem_names_iff noLiteral
  | _, _, _, _, .member object => by
      simp [Expr.names, object.mem_names_iff noLiteral]
  | _, _, _, _, .index object key => by
      simp [Expr.names, object.mem_names_iff noLiteral, key.mem_names_iff noLiteral]
  | _, _, _, _, .call callee arguments => by
      simp [Expr.names, callee.mem_names_iff noLiteral, arguments.mem_names_iff noLiteral]
  | _, _, _, _, .primary derives => derives.mem_names_iff noLiteral
  | _, _, _, _, .number _ => by simp [Expr.names]
  | _, _, _, _, .string _ => by simp [Expr.names]
  | _, _, _, _, .literal isLiteral => by simp [Expr.names, ne_of_mem_literals noLiteral isLiteral]
  | _, _, _, _, .ident _ => by simp [Expr.names]
  | _, _, _, _, .array items isComma => by
      rcases isComma with rfl | rfl <;> simp [Expr.names, items.mem_names_iff noLiteral]
  | _, _, _, _, .group derives => by
      simp [derives.mem_names_iff noLiteral]

/-- The same for what stands between commas. -/
theorem DerivesAll.mem_names_iff (noLiteral : name ∉ literals.map Prod.fst) :
    ∀ {levels : Nat} {lexemes : List Lexeme} {trees : List Expr},
      DerivesAll levels lexemes trees → (.word name ∈ lexemes ↔ name ∈ Expr.allNames trees)
  | _, _, _, .none => by simp [Expr.allNames]
  | _, _, _, .one derives => by
      simp [Expr.allNames, derives.mem_names_iff noLiteral]
  | _, _, _, .more derives others => by
      have rest := others.mem_names_iff noLiteral
      rw [Expr.allNames, List.mem_append] at rest
      simp [Expr.allNames, derives.mem_names_iff noLiteral, rest]

end

end Words

end Grammar

end AccessRules
