import AccessRules.Proofs.Success
import Mathlib.Data.List.Forall2

/-!
# Traversals

A traversal stops at the first element that fails. It succeeds if none does, and its results stand
for the elements one by one.
-/

namespace AccessRules

/-- The first of the elements that is not fine has this fault. -/
def FirstFault {α ε : Type} (fine : α → Prop) (fault : α → ε → Prop) (elements : List α)
    (error : ε) : Prop :=
  ∃ before offending behind, elements = before ++ offending :: behind
    ∧ (∀ element ∈ before, fine element) ∧ fault offending error

section

variable {α β ε : Type} {fine : α → Prop} {fault : α → ε → Prop} {error : ε}

theorem not_firstFault_nil : ¬ FirstFault fine fault [] error := by
  rintro ⟨before, offending, behind, split, _⟩
  cases before <;> cases split

theorem firstFault_cons {element : α} {elements : List α} :
    FirstFault fine fault (element :: elements) error ↔
      fault element error ∨ (fine element ∧ FirstFault fine fault elements error) := by
  constructor
  · rintro ⟨before, offending, behind, split, fineBefore, faulty⟩
    cases before with
    | nil =>
        cases split
        exact Or.inl faulty
    | cons first before =>
        cases split
        exact Or.inr ⟨fineBefore _ List.mem_cons_self, before, offending, behind, rfl,
          fun other member => fineBefore other (List.mem_cons_of_mem _ member), faulty⟩
  · rintro (faulty | ⟨isFine, before, offending, behind, rfl, fineBefore, faulty⟩)
    · exact ⟨[], element, elements, rfl, by simp, faulty⟩
    · exact ⟨element :: before, offending, behind, rfl, List.forall_mem_cons.mpr
        ⟨isFine, fineBefore⟩, faulty⟩

/-- What a search finds is the first fault, if what it looks for are the faults. -/
theorem firstFault_iff_find? {bad : α → Bool} {describe : α → ε}
    (fine_iff : ∀ element, fine element ↔ bad element = false)
    (fault_iff : ∀ element error,
      fault element error ↔ bad element = true ∧ error = describe element)
    {elements : List α} :
    FirstFault fine fault elements error ↔
      ∃ element, elements.find? bad = some element ∧ error = describe element := by
  induction elements with
  | nil => simp [not_firstFault_nil]
  | cons element elements inductionHypothesis =>
      rw [firstFault_cons, inductionHypothesis, fine_iff, fault_iff]
      cases isBad : bad element with
      | true => simp [List.find?_cons_of_pos isBad]
      | false => simp [List.find?_cons_of_neg, isBad]

variable {load : α → Except ε β} {declares : α → β → Prop}

/-- A traversal succeeds with one result for each element, in their order. -/
theorem mapM_eq_ok_iff
    (loads : ∀ element result, load element = .ok result ↔ declares element result)
    {elements : List α} {results : List β} :
    elements.mapM load = .ok results ↔ List.Forall₂ declares elements results := by
  induction elements generalizing results with
  | nil =>
      rw [List.mapM_nil, List.forall₂_nil_left_iff]
      constructor
      · intro succeeds
        cases succeeds
        rfl
      · rintro rfl
        rfl
  | cons element elements inductionHypothesis =>
      rw [List.mapM_cons, List.forall₂_cons_left_iff]
      simp only [bind_eq_ok_iff, loads, inductionHypothesis]
      constructor
      · rintro ⟨result, here, rest, there, succeeds⟩
        cases succeeds
        exact ⟨result, rest, here, there, rfl⟩
      · rintro ⟨result, rest, here, there, rfl⟩
        exact ⟨result, here, rest, there, rfl⟩

/-- A traversal fails with the error of the first element that has one. -/
theorem mapM_eq_error_iff
    (loads : ∀ element result, load element = .ok result ↔ declares element result)
    (fails : ∀ element error, load element = .error error ↔ fault element error)
    {elements : List α} :
    elements.mapM load = .error error ↔
      FirstFault (fun element => ∃ result, declares element result) fault elements error := by
  induction elements with
  | nil =>
      refine iff_of_false ?_ not_firstFault_nil
      intro failed
      cases failed
  | cons element elements inductionHypothesis =>
      rw [List.mapM_cons, firstFault_cons]
      simp only [bind_eq_error_iff, loads, fails, inductionHypothesis]
      constructor
      · rintro (here | ⟨result, declared, there | ⟨rest, _, failed⟩⟩)
        · exact Or.inl here
        · exact Or.inr ⟨⟨result, declared⟩, there⟩
        · cases failed
      · rintro (here | ⟨⟨result, declared⟩, there⟩)
        · exact Or.inl here
        · exact Or.inr ⟨result, declared, Or.inl there⟩

/-- Something is related to each element if there is a list of such things. -/
theorem exists_forall₂_iff {elements : List α} :
    (∃ results, List.Forall₂ declares elements results) ↔
      ∀ element ∈ elements, ∃ result, declares element result := by
  induction elements with
  | nil => simp
  | cons element elements inductionHypothesis =>
      simp only [List.forall₂_cons_left_iff, List.forall_mem_cons, ← inductionHypothesis]
      constructor
      · rintro ⟨_, result, rest, here, there, rfl⟩
        exact ⟨⟨result, here⟩, rest, there⟩
      · rintro ⟨⟨result, here⟩, rest, there⟩
        exact ⟨_, result, rest, here, there, rfl⟩

end

end AccessRules
