import AccessRules.Proofs.Patch.Range
import Mathlib.Logic.Relation

/-!
# How the steps of a path are written

A path is written step by step: a key behind a dot, unless it is the first step, and a position in
brackets. The steps that can be written so, and no others, are read again, each in its place. Dots only
separate: one more beside another, or at an end of the path, makes no step.
-/

namespace AccessRules.Patch

/-! ### Writing -/

namespace Segment

/-- A step can be written if it is a key that is not empty and holds nothing that ends a key, or a
position of a 64-bit machine. -/
def Writable : Segment → Prop
  | .key name => name ≠ "" ∧ '.' ∉ name.toList ∧ '[' ∉ name.toList
  | .position index => index < UInt64.size

instance : DecidablePred Writable
  | .key name => inferInstanceAs (Decidable (name ≠ "" ∧ '.' ∉ name.toList ∧ '[' ∉ name.toList))
  | .position index => inferInstanceAs (Decidable (index < UInt64.size))

/-- The text of a step: a key is its own, and a position stands in brackets. -/
def text : Segment → String
  | .key name => name
  | .position index => "[" ++ toString index ++ "]"

/-- The text of a step behind others, where a key needs a dot. -/
def textBehind : Segment → String
  | .key name => "." ++ text (.key name)
  | .position index => text (.position index)

end Segment

/-- The path of some steps. -/
def written : List Segment → String
  | [] => ""
  | first :: rest => first.text ++ String.join (rest.map Segment.textBehind)

/-! ### Dots -/

theorem segments_empty : segments "" = [] := by
  simp [segments, splitDots, partSegments, bracketSegments_nil]

/-- What stands on either side of a dot is read on its own. -/
theorem segments_append_dot (before after : String) :
    segments (before ++ "." ++ after) = segments before ++ segments after := by
  have dot : ".".toList = ['.'] := rfl
  simp only [segments, String.toList_append, dot, List.append_assoc, List.singleton_append,
    splitDots_eq, List.splitOn_append_cons_self, List.flatMap_append]

/-- A path with one more dot, at an end or beside another dot. -/
inductive AddsDot : String → String → Prop
  | atStart (path : String) : AddsDot path ("." ++ path)
  | atEnd (path : String) : AddsDot path (path ++ ".")
  | beside (before after : String) : AddsDot (before ++ "." ++ after) (before ++ ".." ++ after)

/-- A path with further dots, each at an end or beside another dot. -/
def AddsDots : String → String → Prop :=
  Relation.ReflTransGen AddsDot

section

variable {path path' : String}

theorem segments_eq_of_addsDot (adds : AddsDot path path') : segments path' = segments path := by
  cases adds with
  | atStart =>
      have apart := segments_append_dot "" path
      rw [segments_empty, List.nil_append, String.empty_append] at apart
      exact apart
  | atEnd =>
      have apart := segments_append_dot path ""
      rw [segments_empty, List.append_nil, String.append_empty] at apart
      exact apart
  | beside before after =>
      -- Between the two dots there is an empty part.
      have twoDots : before ++ ".." ++ after = before ++ "." ++ "" ++ "." ++ after := by
        simp [String.append_assoc]
      rw [twoDots, segments_append_dot, segments_append_dot, segments_append_dot, segments_empty,
        List.append_nil]

/-- Further dots make no further steps. -/
theorem segments_eq_of_addsDots (adds : AddsDots path path') : segments path' = segments path := by
  induction adds with
  | refl => rfl
  | tail _ last ih => exact (segments_eq_of_addsDot last).trans ih

end

/-! ### Reading what was written -/

namespace Part

/-- A part that is a key alone. -/
def ofKey (name : String) (plain : '.' ∉ name.toList ∧ '[' ∉ name.toList) : Part where
  key := name.toList
  numbers := []
  plain := plain
  spelled := nofun

/-- A part with one more position. -/
def snoc (part : Part) (index : Nat) : Part where
  key := part.key
  numbers := part.numbers ++ [Decimal.Layout.digits index]
  plain := part.plain
  spelled := by
    intro number among
    rcases List.mem_append.mp among with before | last
    · exact part.spelled number before
    · rw [List.mem_singleton.mp last]
      exact ⟨Decimal.digits_ne_nil index, fun _ => Decimal.isDigit_of_mem_digits⟩

/-- On its own a part is read as its steps. -/
theorem segments_text (part : Part) : segments (String.ofList part.text) = part.steps := by
  have reads := segments_pathText [part]
  rw [pathText, List.map_singleton, List.intercalate_singleton, List.flatMap_singleton] at reads
  exact reads

variable {name : String} {index : Nat}

theorem text_ofKey (plain : '.' ∉ name.toList ∧ '[' ∉ name.toList) :
    String.ofList (ofKey name plain).text = name := by
  simp [ofKey, text]

theorem steps_ofKey (plain : '.' ∉ name.toList ∧ '[' ∉ name.toList) (isSome : name ≠ "") :
    (ofKey name plain).steps = [.key name] := by
  simp [ofKey, steps, keySegments, isSome]

theorem text_snoc (part : Part) (index : Nat) :
    String.ofList (part.snoc index).text
      = String.ofList part.text ++ Segment.text (.position index) := by
  rw [← String.toList_inj]
  simp [text, snoc, Segment.text, inBrackets, Decimal.Layout.digits]

theorem steps_snoc (part : Part) (inRange : index < UInt64.size) :
    (part.snoc index).steps = part.steps ++ [.position index] := by
  have isStep : stepOf (Decimal.Layout.digits index) = .position index := by
    rw [stepOf, Decimal.ofDigits_digits]
    exact if_pos inRange
  rw [steps, snoc, List.map_append, List.map_singleton, isStep, ← List.append_assoc]
  rfl

end Part

/-- Steps behind a part are read behind it: a position still belongs to the part, and a key begins
another one. -/
theorem segments_text_append {steps : List Segment} (writable : ∀ step ∈ steps, step.Writable)
    (part : Part) :
    segments (String.ofList part.text ++ String.join (steps.map Segment.textBehind))
      = part.steps ++ steps := by
  induction steps generalizing part with
  | nil =>
      rw [List.map_nil, String.join_nil, String.append_empty, List.append_nil]
      exact part.segments_text
  | cons step rest ih =>
      have restWritable := fun other among => writable other (List.mem_cons_of_mem step among)
      rw [List.map_cons, String.join_cons]
      cases step with
      | position index =>
          have inRange := writable (.position index) List.mem_cons_self
          rw [Segment.textBehind, ← String.append_assoc, ← Part.text_snoc, ih restWritable,
            part.steps_snoc inRange, List.append_assoc, List.singleton_append]
      | key name =>
          obtain ⟨isSome, plain⟩ := writable (.key name) List.mem_cons_self
          have fromKey := ih restWritable (.ofKey name plain)
          rw [Part.text_ofKey, Part.steps_ofKey plain isSome] at fromKey
          have dotBetween : String.ofList part.text
                ++ (Segment.textBehind (.key name) ++ String.join (rest.map Segment.textBehind))
              = String.ofList part.text ++ "."
                ++ (name ++ String.join (rest.map Segment.textBehind)) := by
            simp only [Segment.textBehind, Segment.text, String.append_assoc]
          rw [dotBetween, segments_append_dot, part.segments_text, fromKey, List.singleton_append]

theorem segments_written {steps : List Segment} (writable : ∀ step ∈ steps, step.Writable) :
    segments (written steps) = steps := by
  have behindNothing : segments (String.join (steps.map Segment.textBehind)) = steps := by
    have reads := segments_text_append writable (.ofKey "" (by decide))
    rw [Part.text_ofKey, String.empty_append] at reads
    exact reads
  cases steps with
  | nil => exact segments_empty
  | cons first rest =>
      rw [List.map_cons, String.join_cons] at behindNothing
      cases first with
      | position index => exact behindNothing
      | key name =>
          -- All that is missing is the dot before the first key, and that stands at the start.
          rw [Segment.textBehind, String.append_assoc] at behindNothing
          exact (segments_eq_of_addsDot (.atStart _)).symm.trans behindNothing

/-! ### Brackets are spent

Reading spends an opening bracket on each position, and on each key in brackets as well. Writing a
position takes one again, but writing a key takes only those that are in the key. So what is read as it
was written holds no key that was read from brackets.
-/

/-- The opening brackets in the texts of some steps. -/
def openings (steps : List Segment) : Nat :=
  (steps.flatMap fun step => step.text.toList).count '['

theorem openings_append (steps steps' : List Segment) :
    openings (steps ++ steps') = openings steps + openings steps' := by
  rw [openings, List.flatMap_append, List.count_append]
  rfl

theorem openings_position (index : Nat) : openings [.position index] = 1 := by
  have noDigit : '[' ∉ Nat.toDigits 10 index := fun among =>
    Decimal.ne_of_isDigit (Decimal.isDigit_of_mem_digits among) rfl rfl
  simp [openings, Segment.text, List.count_eq_zero.mpr noDigit]

theorem openings_key (name : String) : openings [.key name] = name.toList.count '[' := by
  simp [openings, Segment.text]

/-- What joins the texts in a path are dots. -/
theorem count_written (steps : List Segment) :
    (written steps).toList.count '[' = openings steps := by
  have noDot (step : Segment) :
      step.textBehind.toList.count '[' = step.text.toList.count '[' := by
    cases step with
    | key name => simp [Segment.textBehind]
    | position index => rfl
  cases steps with
  | nil => rfl
  | cons first rest =>
      simp [written, openings, List.count_flatMap, Function.comp_def, noDot]

/-- Steps that were read where there are so many opening brackets are written with fewer of them, or
they can all be written. -/
def Spends (steps : List Segment) (count : Nat) : Prop :=
  openings steps < count ∨ openings steps = count ∧ ∀ step ∈ steps, step.Writable

namespace Spends

variable {steps steps' : List Segment} {count count' : Nat}

theorem mono (spends : Spends steps count) (atMost : count ≤ count') : Spends steps count' := by
  rcases spends with fewer | ⟨rfl, writable⟩
  · exact .inl (Nat.lt_of_lt_of_le fewer atMost)
  · exact (Nat.lt_or_eq_of_le atMost).imp_right fun same => ⟨same, writable⟩

theorem nil (count : Nat) : Spends [] count :=
  mono (.inr ⟨rfl, nofun⟩) (Nat.zero_le count)

theorem append (here : Spends steps count) (there : Spends steps' count') :
    Spends (steps ++ steps') (count + count') := by
  have sum := openings_append steps steps'
  rcases here with fewer | ⟨same, writable⟩
  · left
    rcases there with fewer' | ⟨same', _⟩ <;> omega
  · rcases there with fewer' | ⟨same', writable'⟩
    · left
      omega
    · right
      refine ⟨by omega, ?_⟩
      intro step among
      exact (List.mem_append.mp among).elim (writable step) (writable' step)

end Spends

/-- A position takes its bracket. A key in brackets leaves one over. -/
theorem spends_bracketed (inside : List Char) :
    Spends [bracketed inside] (inside.count '[' + 1) := by
  rw [bracketed]
  split
  · rename_i index isNumber
    have inRange := Decimal.lt_of_natural? isNumber
    rw [Spends, openings_position]
    rcases Nat.eq_zero_or_pos (inside.count '[') with none | some
    · right
      rw [none]
      exact ⟨rfl, List.forall_mem_singleton.mpr inRange⟩
    · left
      exact Nat.succ_lt_succ some
  · left
    rw [openings_key, String.toList_ofList]
    exact Nat.lt_succ_self _

theorem count_eq_add (accepts : Char → Bool) (text : List Char) (sign : Char) :
    text.count sign
      = (text.takeWhile accepts).count sign + (text.dropWhile accepts).count sign := by
  rw [← List.count_append, List.takeWhile_append_dropWhile]

theorem spends_bracketSegments (text : List Char) :
    Spends (bracketSegments text) (text.count '[') := by
  fun_induction bracketSegments text with
  | case1 rest closing behind closed shorter ih =>
      apply ((spends_bracketed _).append ih).mono
      have later : behind.count '[' ≤ (closing :: behind).count '[' := List.count_le_count_cons
      rw [List.count_cons_self, count_eq_add (· != ']') rest, closed]
      omega
  | case2 rest notClosed => exact .nil _
  | case3 text noBracket => exact .nil _

/-- A key before all brackets holds nothing that would end it. -/
theorem spends_keySegments {key : List Char} (noDot : '.' ∉ key) (noBracket : '[' ∉ key) :
    Spends (keySegments key) (key.count '[') := by
  rw [keySegments]
  split
  · exact .nil _
  · rename_i isSome
    right
    rw [openings_key, String.toList_ofList, List.forall_mem_singleton, Segment.Writable,
      String.toList_ofList]
    exact ⟨rfl, by simpa using isSome, noDot, noBracket⟩

theorem spends_partSegments {part : List Char} (noDot : '.' ∉ part) :
    Spends (partSegments part) (part.count '[') := by
  have keyNoDot : '.' ∉ part.takeWhile (· != '[') := by
    intro among
    exact noDot ((List.takeWhile_sublist _).subset among)
  have keyNoBracket : '[' ∉ part.takeWhile (· != '[') := by
    intro among
    have goesOn := List.all_eq_true.mp List.all_takeWhile _ among
    exact bne_iff_ne.mp goesOn rfl
  rw [count_eq_add (· != '[') part]
  exact (spends_keySegments keyNoDot keyNoBracket).append (spends_bracketSegments _)

theorem spends_flatMap {parts : List (List Char)} (noDot : ∀ part ∈ parts, '.' ∉ part) :
    Spends (parts.flatMap partSegments) (parts.flatten.count '[') := by
  induction parts with
  | nil => exact .nil _
  | cons part parts ih =>
      rw [List.flatMap_cons, List.flatten_cons, List.count_append]
      exact (spends_partSegments (noDot part List.mem_cons_self)).append
        (ih fun other among => noDot other (List.mem_cons_of_mem _ among))

/-- The parts of a path are all of it but the dots. -/
theorem flatten_splitDots (text : List Char) :
    (splitDots text).flatten = text.filter (· != '.') := by
  fun_induction splitDots text with
  | case1 => rfl
  | case2 rest ih => exact ih
  | case3 first rest noDot isNil ih =>
      have stays : (first != '.') = true := bne_iff_ne.mpr noDot
      rw [List.filter_cons, if_pos stays, ← ih, isNil]
      rfl
  | case4 first rest noDot part parts isCons ih =>
      have stays : (first != '.') = true := bne_iff_ne.mpr noDot
      rw [List.filter_cons, if_pos stays, ← ih, isCons]
      rfl

theorem spends_segments (path : String) : Spends (segments path) (path.toList.count '[') := by
  have allButDots := flatten_splitDots path.toList
  have noDot : ∀ part ∈ splitDots path.toList, '.' ∉ part := by
    intro part among isDot
    have kept := List.mem_flatten.mpr ⟨part, among, isDot⟩
    rw [allButDots] at kept
    exact bne_iff_ne.mp (List.mem_filter.mp kept).2 rfl
  have spends := spends_flatMap noDot
  rw [allButDots, List.count_filter (by decide)] at spends
  exact spends

theorem writable_of_segments_written {steps : List Segment}
    (reads : segments (written steps) = steps) : ∀ step ∈ steps, step.Writable := by
  have spends := spends_segments (written steps)
  rw [reads, count_written] at spends
  rcases spends with fewer | ⟨_, writable⟩
  · exact absurd fewer (Nat.lt_irrefl _)
  · exact writable

/-! ### Paths as they are written -/

/-- A path of these steps is read as it is written. -/
structure ReadAsWritten (steps : List Segment) : Prop where
  /-- Every step is read in its place, and no other step is. -/
  reads : segments (written steps) = steps
  /-- The dots may stand in groups, and at the ends as well. -/
  readsDotted : ∀ path, AddsDots (written steps) path → segments path = steps

/-- Steps are read as they are written if each of them can be written, and only then. -/
theorem readAsWritten_iff {steps : List Segment} :
    ReadAsWritten steps ↔ ∀ step ∈ steps, step.Writable := by
  constructor
  · intro readAsWritten
    exact writable_of_segments_written readAsWritten.reads
  · intro writable
    have reads := segments_written writable
    refine ⟨reads, ?_⟩
    intro path adds
    rw [segments_eq_of_addsDots adds, reads]

/-- A key may look like a number, and a closing bracket does not end it. -/
example : segments ".[7]...a]b[0][18446744073709551615].12."
    = [.position 7, .key "a]b", .position 0, .position 18446744073709551615, .key "12"] := by cbv

/-- Of these steps only the last one can be written. -/
example :
    ([.key "", .key "a.b", .key "a[0]", .position UInt64.size, .key "0]"] : List Segment).filter
      (fun step => step.Writable) = [.key "0]"] := by decide

end AccessRules.Patch
