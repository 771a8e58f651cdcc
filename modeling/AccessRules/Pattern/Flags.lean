import AccessRules.Pattern.Property
import AccessRules.Text.Case

/-!
# Flags

What the flags of a pattern decide: which characters of it only lay it out, and which ones a
character or a class in it stands for. In the layout of a verbose pattern blanks and comments do not
count.
-/

namespace AccessRules.Pattern

open Text (CharSet)

/-- What the flags say. -/
structure Flags where
  ignoreCase : Bool
  multiLine : Bool
  dotMatchesNewline : Bool
  swapGreed : Bool
  unicode : Bool
  carriageReturns : Bool
  verbose : Bool
deriving DecidableEq, Repr

/-- What follows the blanks and comments at the front; in a comment, all is passed over up to the
end of the line. -/
def skipLayout (inComment : Bool) : List Char → List Char
  | [] => []
  | character :: rest =>
      if inComment then skipLayout (character != '\n') rest
      else if character = '#' then skipLayout true rest
      else if Text.isBlank character then skipLayout false rest
      else character :: rest

/-- Skipping the layout adds nothing. -/
theorem length_skipLayout_le (inComment : Bool) (text : List Char) :
    (skipLayout inComment text).length ≤ text.length := by
  fun_induction skipLayout inComment text with
  | case1 => simp
  | case2 _ _ ih => exact Nat.le_succ_of_le ih
  | case3 _ _ _ ih => exact Nat.le_succ_of_le ih
  | case4 _ _ _ _ _ _ ih => exact Nat.le_succ_of_le ih
  | case5 => exact Nat.le_refl _

namespace Flags

/-- The flags a pattern starts with. -/
def default : Flags := ⟨false, false, false, false, true, false, false⟩

/-- Sets or clears a flag by its letter. -/
def set? (flags : Flags) (letter : Char) (value : Bool) : Option Flags :=
  match letter with
  | 'i' => some { flags with ignoreCase := value }
  | 'm' => some { flags with multiLine := value }
  | 's' => some { flags with dotMatchesNewline := value }
  | 'U' => some { flags with swapGreed := value }
  | 'u' => some { flags with unicode := value }
  | 'R' => some { flags with carriageReturns := value }
  | 'x' => some { flags with verbose := value }
  | _ => none

/-! ## Layout -/

/-- What follows the layout at the front. -/
def skip (flags : Flags) (text : List Char) : List Char :=
  if flags.verbose then skipLayout false text else text

/-- Skipping the layout adds nothing. -/
theorem length_skip_le (flags : Flags) (text : List Char) :
    (flags.skip text).length ≤ text.length := by
  unfold skip
  split
  · exact length_skipLayout_le false text
  · exact Nat.le_refl _

/-- The characters at the front that pass a test, and what follows them; the layout behind each of
them is left out. -/
def span (flags : Flags) (keep : Char → Bool) (text : List Char) : List Char × List Char :=
  match text with
  | [] => ([], [])
  | character :: rest =>
      if keep character then
        let (kept, behind) := span flags keep (flags.skip rest)
        (character :: kept, behind)
      else ([], text)
termination_by text.length
decreasing_by exact Nat.lt_succ_of_le (flags.length_skip_le rest)

/-- A number of characters and what follows them, the layout before each of them left out. -/
def take? (flags : Flags) : Nat → List Char → Option (List Char × List Char)
  | 0, text => some ([], text)
  | count + 1, text =>
      match flags.skip text with
      | [] => none
      | character :: rest =>
          (flags.take? count rest).map fun (taken, behind) => (character :: taken, behind)

/-- What stands before a closing brace, the opening one passed, and what follows it. -/
def braced? (flags : Flags) (text : List Char) : Option (List Char × List Char) :=
  match flags.span (· != '\x7d') (flags.skip text) with
  | (inside, _ :: behind) => some (inside, behind)
  | (_, []) => none

/-- The character behind another one that a range could end at. Blanks count as layout also within a
comment here, so that a comment is looked into; where nothing else follows, the very next character
is told. -/
def peek? (flags : Flags) (text : List Char) : Option Char :=
  let next := match text.dropWhile Text.isBlank with
    | '#' :: rest => rest.dropWhile Text.isBlank
    | rest => rest
  if flags.verbose then next.head?.or text.head? else text.head?

/-! ## Sets -/

/-- A set with the other case of each member, if the flags ignore case. -/
def fold (flags : Flags) (set : CharSet) : CharSet :=
  if !flags.ignoreCase then set
  else if flags.unicode then set.closeCase
  else set.closeAsciiCase

/-- A set or, if that is asked for, all other characters. Without Unicode those would hold bytes
that are no characters, and are refused. -/
def negate? (flags : Flags) (negated : Bool) (set : CharSet) : Option CharSet :=
  if !negated then some set
  else if flags.unicode then some set.complement
  else none

/-- The set of a letter that stands for digits, blanks or parts of words. -/
def setByLetter? (flags : Flags) (letter : Char) : Option CharSet :=
  match letter with
  | 'd' => some (if flags.unicode then Text.decimalDigits else .range '0' '9')
  | 's' => some (if flags.unicode then Text.blanks else asciiBlanks)
  | 'w' => some (if flags.unicode then Text.wordCharacters else asciiWord)
  | _ => none

/-- The set of the dot. -/
def dot (flags : Flags) : CharSet :=
  if flags.dotMatchesNewline then .all
  else if flags.carriageReturns then ((CharSet.single '\n').union (.single '\r')).complement
  else (CharSet.single '\n').complement

end Flags

end AccessRules.Pattern
