import AccessRules.Code.Context

/-!
# The names that rules can use

What every rule can read and the methods it can call, by name. Names are resolved in agreement with
these two lists.
-/

namespace AccessRules.Vocabulary

/-- The names that every rule can read, and what they stand for in a context. -/
def builtins : List (String × (Context → Value)) :=
  [("user", fun context => context.user), ("authData", fun context => context.authData),
    ("data", fun context => context.data), ("oldData", fun context => context.oldData),
    ("now", fun context => context.now), ("action", fun context => context.action),
    ("name", fun context => context.name)]

/-- The names of the methods, each with the method and the number of arguments that it takes. -/
def methods : List (String × Method × Nat) :=
  [("startsWith", .startsWith, 1), ("endsWith", .endsWith, 1), ("includes", .includes, 1),
    ("indexOf", .indexOf, 1), ("match", .matchPattern, 1), ("toUpperCase", .toUpperCase, 0),
    ("toLowerCase", .toLowerCase, 0), ("trim", .trim, 0)]

/-- The name of a builtin stands for what the builtin reads as. -/
theorem lookup_builtins (name : String) :
    builtins.lookup name
      = (Builtin.ofName? name).map fun builtin context => context.builtin builtin := by
  unfold Builtin.ofName?
  split
  case h_8 =>
    apply List.lookup_eq_none_iff.mpr
    simp_all [builtins]
  all_goals rfl

theorem mem_builtins_iff {name : String} :
    name ∈ builtins.map Prod.fst ↔ ∃ builtin, Builtin.ofName? name = some builtin := by
  rw [← Option.isSome_iff_exists, ← Option.isSome_map, ← lookup_builtins, List.lookup_isSome_iff,
    List.mem_map]
  simp only [beq_iff_eq, @eq_comm _ name]

/-- The name of a method stands for it. -/
theorem ofName?_eq_some_iff {name : String} {called : Method} :
    Method.ofName? name = some called ↔ name = called.name := by
  constructor
  · intro found
    exact (beq_iff_eq.mp (List.find?_some found :)).symm
  · rintro rfl
    cases called <;> rfl

theorem mem_methods_iff {name : String} {called : Method} {count : Nat} :
    (name, called, count) ∈ methods ↔ name = called.name ∧ count = called.arity := by
  constructor
  · intro among
    have agree : ∀ entry ∈ methods, entry.1 = entry.2.1.name ∧ entry.2.2 = entry.2.1.arity := by
      decide
    exact agree _ among
  · rintro ⟨rfl, rfl⟩
    cases called <;> decide

theorem lookup_methods (name : String) :
    methods.lookup name = (Method.ofName? name).map fun called => (called, called.arity) := by
  cases found : Method.ofName? name with
  | some called =>
      obtain rfl := ofName?_eq_some_iff.mp found
      cases called <;> rfl
  | none =>
      apply List.lookup_eq_none_iff.mpr
      rintro ⟨other, called, count⟩ among
      rw [bne_iff_ne]
      rintro rfl
      rw [ofName?_eq_some_iff.mpr (mem_methods_iff.mp among).1] at found
      cases found

end AccessRules.Vocabulary
