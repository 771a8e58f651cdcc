import AccessRules.Code.Basic
import AccessRules.Kind
import AccessRules.Rule.Source
import AccessRules.Text.Category

/-!
# Checking rules

Before a rule is compiled its text is looked through for what rules must not hold, without regard to
strings or comments: the word `new`, functions of its own, and calls of anything but the supported
functions. Then it is parsed, and what it reads is held against what its type may read.
-/

namespace AccessRules.Rule

/-- A character that goes on a word of a rule. -/
def isWordOrDollar (character : Char) : Bool :=
  Text.isWord character || character == '$'

/-- Whether a word stands in a text that follows the given character, with no part of a longer word
on either side. -/
def holdsWord (word : List Char) (before : Option Char) (text : List Char) : Bool :=
  (!before.any isWordOrDollar && word.isPrefixOf text
      && !((text.drop word.length).head?.any isWordOrDollar))
    || match text with
      | [] => false
      | character :: rest => holdsWord word (some character) rest

/-- Whether an arrow stands in a text. -/
def holdsArrow : List Char → Bool
  | [] => false
  | '=' :: '>' :: _ => true
  | _ :: rest => holdsArrow rest

/-- Whether a parenthesis opens behind blanks. -/
def opensCall (text : List Char) : Bool :=
  (Text.skipBlanks text).head? == some '('

/-- The quote that a closing bracket may follow in a call such as `a['b'](`. -/
def isQuote (character : Char) : Bool :=
  character == '\'' || character == '"' || character == '\x60'

/-- What is called by a word with the text behind it: the word, or the word with a quote and a
closing bracket. -/
def calledName? (word rest : List Char) : Option (List Char) :=
  match rest with
  | quote :: ']' :: behind =>
      if isQuote quote && opensCall behind then some (word ++ [quote, ']'])
      else if opensCall rest then some word
      else none
  | rest => if opensCall rest then some word else none

/-- The names that are called, by their looks, in a text. -/
def calledNames (text : List Char) : List String :=
  match text with
  | [] => []
  | character :: rest =>
      if Text.isWord character then
        let word := character :: rest.takeWhile Text.isWord
        (calledName? word (rest.dropWhile Text.isWord)).toList.map String.ofList
          ++ calledNames (rest.dropWhile Text.isWord)
      else calledNames rest
termination_by text.length
decreasing_by
  all_goals
    have := (List.dropWhile_suffix Text.isWord (l := rest)).length_le
    simp only [List.length_cons]
    omega

/-- The functions that rules may call. -/
def supportedFunctions : List String :=
  crossReferenceName :: Method.all.map Method.name

/-- Checks a rule for a section and a rule type, and gives its tree. The first fault counts: an
empty text, the word `new`, functions, unsupported calls, syntax, `oldData`, `data`. -/
def check (source : String) (kind : Section) (ruleType : RuleType) : Except RuleError Expr :=
  let characters := source.toList
  if characters.all Text.isBlank then .error .empty
  else if holdsWord "new".toList none characters then .error .newKeyword
  else if holdsWord "function".toList none characters || holdsArrow characters then
    .error .userFunction
  else
    match (calledNames characters).find? fun name => !supportedFunctions.contains name with
    | some name => .error (.unsupportedFunction name)
    | none =>
        match Expr.parse source with
        | .error error => .error (.invalidSyntax error)
        | .ok tree =>
            if tree.references "oldData" && !ruleType.supportsOldData then
              .error (.oldDataNotSupported kind.name ruleType.name)
            else if tree.references "data" && !ruleType.supportsData then
              .error (.dataNotSupported kind.name ruleType.name)
            else .ok tree

/-- Checks a declared rule; booleans always pass. -/
def validate (rule : RuleSource) (kind : Section) (ruleType : RuleType) : Except RuleError Unit :=
  match rule with
  | .fixed _ => .ok ()
  | .expression source => (check source kind ruleType).map fun _ => ()

end AccessRules.Rule
