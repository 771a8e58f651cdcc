import AccessRules.Gatekeeper.Basic
import AccessRules.Proofs.Gatekeeper.Lookup

/-!
# What the parts of a decision throw

A part of a decision throws what its own parts throw. So whatever goes wrong before a rule is run is
a lookup that takes too long or fails, or a message without the data it should carry.
-/

namespace AccessRules

namespace Deciding

variable {σ α β : Type} {property : DecisionError → Prop}

/-- Whatever a part of a decision throws has the property, over any store. -/
def Throws (part : Deciding σ α) (property : DecisionError → Prop) : Prop :=
  ∀ (session : Session σ) (error : DecisionError),
    (part.run.run session).1 = .error error → property error

namespace Throws

theorem pure (value : α) : Throws (pure value : Deciding σ α) property := by
  intro session error fails
  cases fails

theorem throw {error : DecisionError} (holds : property error) :
    Throws (throw error : Deciding σ α) property := by
  intro session other fails
  cases fails
  exact holds

theorem bind {part : Deciding σ α} {next : α → Deciding σ β} (first : Throws part property)
    (second : ∀ value, Throws (next value) property) : Throws (part >>= next) property := by
  intro session error fails
  rw [run_bind] at fails
  obtain ⟨result, after, ran⟩ : ∃ result after, part.run.run session = (result, after) :=
    ⟨_, _, rfl⟩
  simp only [ran] at fails
  cases result with
  | ok value => exact second value after error fails
  | error other =>
      cases fails
      exact first session error (congrArg Prod.fst ran)

theorem ofExcept {result : Except DecisionError α}
    (holds : ∀ error, result = .error error → property error) :
    Throws (ofExcept result : Deciding σ α) property :=
  fun _ => holds

theorem note (name : String) : Throws (note name : Deciding σ Unit) property := by
  intro session error fails
  cases fails

/-- Time that passes may run out. -/
theorem spend (timing : Timing) (duration : Nat) (timeout : ∀ limit, property (.timeout limit)) :
    Throws (spend timing duration : Deciding σ Unit) property := by
  intro session error fails
  have started : (get : Deciding σ (Session σ)).run.run session = (.ok session, session) := rfl
  rw [Deciding.spend, run_bind, started] at fails
  simp only at fails
  split at fails
  · cases fails
    exact timeout _
  · cases fails

/-- A lookup may take too long or fail. -/
theorem fetch [RecordStore σ] (timing : Timing) (name : String)
    (timeout : ∀ limit, property (.timeout limit))
    (lookup : ∀ error, property (.dependencyFetch name error)) :
    Throws (fetch timing name : Deciding σ (Option Json)) property := by
  refine .bind (.note name) fun _ => .bind (.spend timing _ timeout) fun _ => ?_
  intro session error fails
  rw [run_ask] at fails
  simp only at fails
  split at fails
  · cases fails
  · cases fails
    exact lookup _

end Throws

end Deciding

namespace Decision

variable {σ : Type} [RecordStore σ] {property : DecisionError → Prop}

/-- Before the first run the own record may be looked up, and the message may lack its data. -/
theorem prepare_throws (timing : Timing) (request : Request) (cached : CachedRule)
    (timeout : ∀ limit, property (.timeout limit))
    (lookup : ∀ name error, property (.dependencyFetch name error))
    (data : ∀ cause, property (.messageData cause)) :
    Deciding.Throws (prepare timing request cached : Deciding σ Context) property := by
  have binding (own : Option Json) (context : Context) :
      Deciding.Throws (bindDataOrFail cached.rule request.message own context : Deciding σ Context)
        property := by
    refine .ofExcept ?_
    intro error fails
    cases bound : bindData cached.rule request.message own context with
    | ok context' =>
        rw [bound] at fails
        cases fails
    | error cause =>
        rw [bound] at fails
        cases fails
        exact data cause
  simp only [prepare]
  split
  · exact .bind (.fetch timing _ timeout (lookup _)) fun own => binding own _
  · exact binding none _

theorem loadAll_throws (timing : Timing) (timeout : ∀ limit, property (.timeout limit))
    (lookup : ∀ name error, property (.dependencyFetch name error)) :
    ∀ (names : List String) (context : Context),
      Deciding.Throws (loadAll timing names context : Deciding σ Context) property
  | [], context => .pure context
  | name :: names, context => by
      rw [loadAll]
      exact .bind (.fetch timing name timeout (lookup name)) fun _ =>
        loadAll_throws timing timeout lookup names _

end Decision

end AccessRules
