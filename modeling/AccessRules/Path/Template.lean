import AccessRules.Decimal.Reading
import AccessRules.Json.Basic
import AccessRules.Text.Category

/-!
# Path templates

A template such as `game/$id/*` stands for the names of resources. A star stands for any run of
characters without a line break, slashes included; a variable, a dollar sign with ASCII letters and
digits behind it, stands for a run of at least one character without a slash, and tells what it was;
every other character stands for itself. A template has to match a whole name.

If a name can be taken apart in several ways, stars and variables are as long as possible, from left
to right.
-/

namespace AccessRules

/-- Why a path is no template. -/
inductive PathError where
  | notAString
  | empty
  | leadingSlash
  /-- A dollar sign without a name, with the character behind it. -/
  | invalidVariable (token : String)
deriving DecidableEq, Repr

/-- The message of a path error. -/
def PathError.message : PathError → String
  | .notAString => "path must be a string"
  | .empty => "path can't be empty"
  | .leadingSlash => "path can't start with /"
  | .invalidVariable token => "invalid variable name " ++ token

namespace Path

/-- A piece of a template. -/
inductive Piece where
  | literal (character : Char)
  /-- Any run of characters without a line break. -/
  | star
  /-- A run of at least one character without a slash; the name holds the dollar sign. -/
  | captured (name : String)
deriving DecidableEq, Repr

/-- Whether a character goes on a variable's name. -/
def isNamePart (character : Char) : Bool :=
  Text.isAsciiAlphanumeric character

/-- The pieces of a template's text. -/
def pieces (text : List Char) : List Piece :=
  match text with
  | [] => []
  | '*' :: rest => .star :: pieces rest
  | '$' :: rest =>
      match rest.takeWhile isNamePart with
      | [] => .literal '$' :: pieces rest
      | name => .captured (String.ofList ('$' :: name)) :: pieces (rest.dropWhile isNamePart)
  | character :: rest => .literal character :: pieces rest
termination_by text.length
decreasing_by
  all_goals
    have := (List.dropWhile_suffix isNamePart (l := rest)).length_le
    simp only [List.length_cons]
    omega

/-- The first dollar sign without a name behind it, with the character behind it. -/
def invalidToken? : List Char → Option (List Char)
  | [] => none
  | '$' :: [] => some ['$']
  | '$' :: next :: rest =>
      if isNamePart next then invalidToken? (next :: rest) else some ['$', next]
  | _ :: rest => invalidToken? rest

/-- Checks that a path can be a template. -/
def check (path : String) : Except PathError Unit :=
  match path.toList with
  | [] => .error .empty
  | '/' :: _ => .error .leadingSlash
  | characters =>
      match invalidToken? characters with
      | some token => .error (.invalidVariable (String.ofList token))
      | none => .ok ()

/-! ## Matching -/

/-- The values of the variables, in their order. -/
abbrev Values := List (List Char)

/-- The longest run of accepted characters behind which the rest can go on, and how it goes on. -/
def longestRun {α : Type} (accepts : Char → Bool) (goOn : List Char → Option α) :
    List Char → Option (List Char × α)
  | [] => (goOn []).map ([], ·)
  | character :: rest =>
      if accepts character then
        match longestRun accepts goOn rest with
        | some (run, result) => some (character :: run, result)
        | none => (goOn (character :: rest)).map ([], ·)
      else (goOn (character :: rest)).map ([], ·)

/-- A character that a star can stand for. -/
def starAccepts (character : Char) : Bool := character != '\n'

/-- A character that can stand in the value of a variable. -/
def variableAccepts (character : Char) : Bool := character != '/'

/-- The values of the variables, if the pieces match the whole text. -/
def matchPieces : List Piece → List Char → Option Values
  | [], [] => some []
  | [], _ :: _ => none
  | .literal _ :: _, [] => none
  | .literal character :: rest, first :: text =>
      if first = character then matchPieces rest text else none
  | .star :: rest, text => (longestRun starAccepts (matchPieces rest) text).map Prod.snd
  | .captured _ :: _, [] => none
  | .captured _ :: rest, first :: text =>
      if variableAccepts first then
        (longestRun variableAccepts (matchPieces rest) text).map fun (run, values) =>
          (first :: run) :: values
      else none

/-! Trying every run anew would take a time exponential in the number of stars. So the results for
all suffixes of a text are found together, one piece after the other from the back: lists of results
go from the whole text to its empty suffix. -/

/-- The suffixes of a text, from itself to the empty one. -/
def suffixes : List Char → List (List Char)
  | [] => [[]]
  | character :: rest => (character :: rest) :: suffixes rest

/-- The longest runs at the front of every suffix, from the results for what is behind them. -/
def longestRuns {α : Type} (accepts : Char → Bool) :
    List Char → List (Option α) → List (Option (List Char × α))
  | character :: rest, here :: behind =>
      let later := longestRuns accepts rest behind
      let longer := if accepts character then later.head?.join else none
      (match longer with
        | some (run, result) => some (character :: run, result)
        | none => here.map ([], ·)) :: later
  | _, results => results.map (·.map ([], ·))

/-- What every suffix comes to by its first character and the result for the rest of it. -/
def behindFirst {α β : Type} (step : Char → α → Option β) :
    List Char → List (Option α) → List (Option β)
  | character :: rest, _ :: behind =>
      (behind.head?.join.bind (step character)) :: behindFirst step rest behind
  | _, _ => [none]

/-- The values of the variables for every suffix of a text that the pieces match. -/
def matchSuffixes : List Piece → List Char → List (Option Values)
  | [], text => (suffixes text).map fun suffix => if suffix.isEmpty then some [] else none
  | .literal character :: rest, text =>
      behindFirst (fun first values => if first = character then some values else none) text
        (matchSuffixes rest text)
  | .star :: rest, text =>
      (longestRuns starAccepts text (matchSuffixes rest text)).map (·.map Prod.snd)
  | .captured _ :: rest, text =>
      behindFirst (fun first (run, values) =>
          if variableAccepts first then some ((first :: run) :: values) else none) text
        (longestRuns variableAccepts text (matchSuffixes rest text))

theorem head?_suffixes (text : List Char) : (suffixes text).head? = some text := by
  cases text <;> rfl

theorem longestRuns_map_suffixes {α : Type} (accepts : Char → Bool) (goOn : List Char → Option α)
    (text : List Char) :
    longestRuns accepts text ((suffixes text).map goOn)
      = (suffixes text).map (longestRun accepts goOn) := by
  induction text with
  | nil => rfl
  | cons character rest ih =>
      simp only [suffixes, List.map_cons, longestRuns, ih, List.cons.injEq, and_true]
      rw [List.head?_map, head?_suffixes, longestRun]
      by_cases accepted : accepts character <;> simp [accepted]

theorem behindFirst_map_suffixes {α β : Type} (step : Char → α → Option β)
    (goOn : List Char → Option α) (text : List Char) :
    behindFirst step text ((suffixes text).map goOn)
      = (suffixes text).map fun suffix =>
          match suffix with
          | [] => none
          | first :: rest => (goOn rest).bind (step first) := by
  induction text with
  | nil => rfl
  | cons character rest ih =>
      simp only [suffixes, List.map_cons, behindFirst, ih, List.cons.injEq, and_true]
      rw [List.head?_map, head?_suffixes]
      simp

theorem matchSuffixes_eq (pieces : List Piece) (text : List Char) :
    matchSuffixes pieces text = (suffixes text).map (matchPieces pieces) := by
  induction pieces with
  | nil =>
      refine List.map_congr_left fun suffix _ => ?_
      cases suffix <;> simp [matchPieces]
  | cons piece rest ih =>
      cases piece with
      | literal character =>
          rw [matchSuffixes, ih, behindFirst_map_suffixes]
          refine List.map_congr_left fun suffix _ => ?_
          cases suffix with
          | nil => simp [matchPieces]
          | cons first text =>
              by_cases same : first = character <;> simp [matchPieces, same]
      | star =>
          rw [matchSuffixes, ih, longestRuns_map_suffixes, List.map_map]
          refine List.map_congr_left fun suffix _ => ?_
          simp [matchPieces]
      | captured name =>
          rw [matchSuffixes, ih, longestRuns_map_suffixes, behindFirst_map_suffixes]
          refine List.map_congr_left fun suffix _ => ?_
          cases suffix with
          | nil => simp [matchPieces]
          | cons first text =>
              by_cases accepted : variableAccepts first <;> simp [matchPieces, accepted]
              cases longestRun variableAccepts (matchPieces rest) text <;> simp

/-- The values of the variables, if the pieces match the whole text. -/
def matchText (pieces : List Piece) (text : List Char) : Option Values :=
  (matchSuffixes pieces text).head?.join

/-- Finding the results for all suffixes together changes none of them. -/
theorem matchText_eq (pieces : List Piece) (text : List Char) :
    matchText pieces text = matchPieces pieces text := by
  rw [matchText, matchSuffixes_eq, List.head?_map, head?_suffixes]
  rfl

/-! ## As a regular expression -/

/-- The characters that are escaped in the regular expression of a template. -/
def specialCharacters : List Char :=
  ['\\', '.', '+', '*', '?', '(', ')', '|', '[', ']', '\x7b', '\x7d', '^', '$', '#', '&', '-', '~']

/-- A piece as part of a regular expression. -/
def Piece.pattern : Piece → String
  | .literal character =>
      if specialCharacters.contains character then String.ofList ['\\', character]
      else String.singleton character
  | .star => ".*"
  | .captured _ => "([^/]+)"

/-- The name of a piece that is a variable. -/
def Piece.variableName? : Piece → Option String
  | .captured name => some name
  | _ => none

/-- A path template: its text, which has passed the check. -/
structure Template where
  raw : String
  pieces : List Piece
deriving DecidableEq, Repr

namespace Template

/-- The template a path is. -/
def parse (path : String) : Except PathError Template :=
  match check path with
  | .ok _ => .ok ⟨path, Path.pieces path.toList⟩
  | .error error => .error error

/-- The template that a JSON value is. -/
def ofJson : Json → Except PathError Template
  | .string path => parse path
  | _ => .error .notAString

/-- The variables of a template with their dollar signs, in their order; a name that stands there
twice is listed twice. -/
def variableNames (template : Template) : List String :=
  template.pieces.filterMap Piece.variableName?

/-- The values of the variables in a name, if the template matches it. -/
def captures? (template : Template) (name : String) : Option (List String) :=
  (matchText template.pieces name.toList).map (·.map String.ofList)

/-- Whether the template matches a name. -/
def isMatch (template : Template) (name : String) : Bool :=
  (template.captures? name).isSome

/-- The anchored regular expression that matches the same names. -/
def pattern (template : Template) : String :=
  "^" ++ String.join (template.pieces.map Piece.pattern) ++ "$"

end Template

end Path

end AccessRules
