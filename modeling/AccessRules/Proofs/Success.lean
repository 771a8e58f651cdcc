/-!
# What success says of the parts

A chain of steps succeeds only if each of them does, and so does a traversal. A chain over a state
goes on where its first part ended.
-/

namespace AccessRules

/-- Two parts that succeed one after the other succeed each. -/
theorem exists_of_bind_eq_ok {α β ε : Type} {first : Except ε α} {next : α → Except ε β} {last : β}
    (succeeds : (first >>= next) = .ok last) :
    ∃ value, first = .ok value ∧ next value = .ok last := by
  cases first with
  | error error => cases succeeds
  | ok value => exact ⟨value, rfl, succeeds⟩

/-- A chain fails with the error of its first part, or with that of the next one if the first part
succeeds. -/
theorem bind_eq_error_iff {α β ε : Type} {first : Except ε α} {next : α → Except ε β} {error : ε} :
    (first >>= next) = .error error ↔
      first = .error error ∨ ∃ value, first = .ok value ∧ next value = .error error := by
  cases first with
  | error other =>
      constructor
      · intro fails
        cases fails
        exact Or.inl rfl
      · rintro (fails | ⟨value, succeeds, _⟩)
        · cases fails
          rfl
        · cases succeeds
  | ok value =>
      constructor
      · exact fun fails => Or.inr ⟨value, rfl, fails⟩
      · rintro (fails | ⟨_, same, fails⟩)
        · cases fails
        · cases same
          exact fails

theorem bind_eq_ok_iff {α β ε : Type} {first : Except ε α} {next : α → Except ε β} {last : β} :
    (first >>= next) = .ok last ↔ ∃ value, first = .ok value ∧ next value = .ok last := by
  refine ⟨exists_of_bind_eq_ok, ?_⟩
  rintro ⟨value, rfl, succeeds⟩
  exact succeeds

/-- Each of the results of a traversal stands for one of its elements. -/
theorem exists_of_mem_mapM {α β ε : Type} {load : α → Except ε β} {elements : List α}
    {loaded : List β} (succeeds : elements.mapM load = .ok loaded) {result : β}
    (member : result ∈ loaded) : ∃ element ∈ elements, load element = .ok result := by
  induction elements generalizing loaded with
  | nil =>
      cases succeeds
      cases member
  | cons element elements inductionHypothesis =>
      rw [List.mapM_cons] at succeeds
      obtain ⟨first, here, succeeds⟩ := exists_of_bind_eq_ok succeeds
      obtain ⟨rest, there, succeeds⟩ := exists_of_bind_eq_ok succeeds
      cases succeeds
      rcases List.mem_cons.mp member with rfl | member
      · exact ⟨element, List.mem_cons_self, here⟩
      · obtain ⟨other, among, found⟩ := inductionHypothesis there member
        exact ⟨other, List.mem_cons_of_mem _ among, found⟩

/-- The second part starts in the state in which the first one ends, unless that fails. -/
theorem run_bind {σ ε α β : Type} (first : ExceptT ε (StateM σ) α)
    (next : α → ExceptT ε (StateM σ) β) (state : σ) :
    (first >>= next).run.run state =
      match first.run.run state with
      | (.ok value, after) => (next value).run.run after
      | (.error error, after) => (.error error, after) := by
  obtain ⟨result, after, ran⟩ : ∃ result after, first.run.run state = (result, after) :=
    ⟨_, _, rfl⟩
  rw [ExceptT.run_bind, StateT.run_bind]
  simp only [ran]
  cases result <;> rfl

end AccessRules
