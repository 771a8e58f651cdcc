import AccessRules.Gatekeeper.Lookup
import AccessRules.Proofs.Success

/-!
# Decisions over a steady store

A store is steady if it answers every name in one way, whatever has been looked up before. Over
such a store a part of a decision is described by what it may return, what it may throw, and the
rule that the first lookup that fails ends it.
-/

namespace AccessRules

/-- What a store answers to every name. -/
abbrev Answer := String → Except StorageError (Option StoredRecord)

namespace RecordStore

variable {σ : Type} [RecordStore σ]

/-- The store after lookups of these names. -/
def afterLookups (store : σ) (names : List String) : σ :=
  names.foldl (fun store name => (get store name).2) store

/-- The store answers every name in this way, whatever has been looked up before. -/
def Steady (store : σ) (answer : Answer) : Prop :=
  ∀ (asked : List String) (name : String), (get (afterLookups store asked) name).1 = answer name

theorem Steady.answers {store : σ} {answer : Answer} (steady : Steady store answer)
    (name : String) : (get store name).1 = answer name :=
  steady [] name

theorem Steady.next {store : σ} {answer : Answer} (steady : Steady store answer)
    (name : String) : Steady (get store name).2 answer :=
  fun asked other => steady (name :: asked) other

end RecordStore

/-- A store in memory is steady while nothing is stored, removed or made to fail. -/
theorem Store.steady (store : Store) : RecordStore.Steady store store.answer := by
  intro asked
  induction asked generalizing store with
  | nil => exact fun _ => rfl
  | cons name names ih => exact ih { store with lookups := name :: store.lookups }

namespace Deciding

variable {σ α β : Type}

/-- Asking gives the store's answer. -/
theorem run_ask [RecordStore σ] (name : String) (session : Session σ) :
    (ask name).run.run session =
      (match (RecordStore.get session.store name).1 with
        | .ok record => .ok (record.map StoredRecord.data)
        | .error error => .error (.dependencyFetch name error),
      { session with store := (RecordStore.get session.store name).2 }) := by
  have asked : (ask name).run.run session =
      (match (RecordStore.get session.store name).1 with
        | .ok record => pure (record.map StoredRecord.data)
        | .error error => throw (.dependencyFetch name error) : Deciding σ (Option Json)).run.run
          { session with store := (RecordStore.get session.store name).2 } := rfl
  rw [asked]
  cases (RecordStore.get session.store name).1 <;> rfl

/-- A lookup without a time limit notes the name, takes its time, and asks the store. -/
theorem run_fetch [RecordStore σ] {timing : Timing} (untimed : timing.limit = none) (name : String)
    (session : Session σ) :
    (fetch timing name).run.run session =
      (ask name).run.run { session with
        fetched := session.fetched ++ [name]
        elapsed := session.elapsed + timing.delay name } := by
  obtain ⟨delay, limit⟩ := timing
  subst untimed
  rfl

/-- None of these names fails to be answered. -/
def Answered (answer : Answer) (names : List String) : Prop :=
  ∀ name ∈ names, ∃ record, answer name = .ok record

theorem Answered.append {answer : Answer} {names names' : List String}
    (first : Answered answer names) (second : Answered answer names') :
    Answered answer (names ++ names') := by
  intro name member
  rcases List.mem_append.mp member with before | behind
  · exact first name before
  · exact second name behind

/-- How a part of a decision ends that has looked these names up: it may return or throw something
if all of them were answered, and the first one that is not ends it with its error. -/
inductive Ends (answer : Answer) (returns : α → Prop) (throws : DecisionError → Prop) :
    List String → Except DecisionError α → Prop where
  | returned {names : List String} {value : α} (answered : Answered answer names)
      (holds : returns value) : Ends answer returns throws names (.ok value)
  | thrown {names : List String} {error : DecisionError} (answered : Answered answer names)
      (holds : throws error) : Ends answer returns throws names (.error error)
  | failed {names : List String} {name : String} {error : StorageError}
      (answered : Answered answer names) (fails : answer name = .error error) :
      Ends answer returns throws (names ++ [name]) (.error (.dependencyFetch name error))

namespace Ends

variable {answer : Answer} {returns : α → Prop} {throws : DecisionError → Prop}
  {names : List String} {result : Except DecisionError α}

/-- Names that were answered before change nothing. -/
theorem prepend {before : List String} (answered : Answered answer before)
    (ends : Ends answer returns throws names result) :
    Ends answer returns throws (before ++ names) result := by
  cases ends with
  | returned rest holds => exact .returned (answered.append rest) holds
  | thrown rest holds => exact .thrown (answered.append rest) holds
  | failed rest fails =>
      rw [← List.append_assoc]
      exact .failed (answered.append rest) fails

/-- A name that failed is the one whose error ended the part. -/
theorem eq_of_failed (ends : Ends answer returns throws names result) {name : String}
    {error : StorageError} (member : name ∈ names) (fails : answer name = .error error) :
    result = .error (.dependencyFetch name error) := by
  have unanswered {others : List String} (answered : Answered answer others) :
      name ∉ others := by
    intro other
    obtain ⟨record, ok⟩ := answered name other
    rw [fails] at ok
    cases ok
  cases ends with
  | returned answered => exact absurd member (unanswered answered)
  | thrown answered => exact absurd member (unanswered answered)
  | failed answered last =>
      rcases List.mem_append.mp member with before | here
      · exact absurd before (unanswered answered)
      · rw [List.mem_singleton] at here
        subst here
        rw [fails] at last
        cases last
        rfl

end Ends

/-- What a part of a decision does over every steady store that answers so. -/
def Meets [RecordStore σ] (answer : Answer) (part : Deciding σ α) (returns : α → Prop)
    (throws : DecisionError → Prop) : Prop :=
  ∀ session : Session σ, RecordStore.Steady session.store answer →
    ∃ names result after, part.run.run session = (result, after)
      ∧ after.fetched = session.fetched ++ names
      ∧ RecordStore.Steady after.store answer
      ∧ Ends answer returns throws names result

namespace Meets

variable [RecordStore σ] {answer : Answer} {returns : α → Prop} {throws : DecisionError → Prop}

theorem pure {value : α} (holds : returns value) :
    Meets answer (pure value : Deciding σ α) returns throws := by
  intro session steady
  exact ⟨[], _, session, rfl, by simp, steady, .returned (by simp [Answered]) holds⟩

theorem throw {error : DecisionError} (holds : throws error) :
    Meets answer (throw error : Deciding σ α) returns throws := by
  intro session steady
  exact ⟨[], _, session, rfl, by simp, steady, .thrown (by simp [Answered]) holds⟩

theorem bind {part : Deciding σ α} {next : α → Deciding σ β} {returns' : β → Prop}
    (first : Meets answer part returns throws)
    (second : ∀ value, returns value → Meets answer (next value) returns' throws) :
    Meets answer (part >>= next) returns' throws := by
  intro session steady
  obtain ⟨names, result, after, ran, fetched, steady', ends⟩ := first session steady
  rw [run_bind]
  simp only [ran]
  cases ends with
  | thrown answered holds => exact ⟨names, _, after, rfl, fetched, steady', .thrown answered holds⟩
  | failed answered fails => exact ⟨_, _, after, rfl, fetched, steady', .failed answered fails⟩
  | returned answered holds =>
      obtain ⟨names', result', after', ran', fetched', steady'', ends'⟩ :=
        second _ holds after steady'
      refine ⟨names ++ names', result', after', ran', ?_, steady'', ends'.prepend answered⟩
      rw [fetched', fetched, List.append_assoc]

/-- What may be returned or thrown may be taken more widely. -/
theorem mono {part : Deciding σ α} {returns' : α → Prop} {throws' : DecisionError → Prop}
    (meets : Meets answer part returns throws) (wider : ∀ value, returns value → returns' value)
    (wider' : ∀ error, throws error → throws' error) : Meets answer part returns' throws' := by
  intro session steady
  obtain ⟨names, result, after, ran, fetched, steady', ends⟩ := meets session steady
  refine ⟨names, result, after, ran, fetched, steady', ?_⟩
  cases ends with
  | returned answered holds => exact .returned answered (wider _ holds)
  | thrown answered holds => exact .thrown answered (wider' _ holds)
  | failed answered fails => exact .failed answered fails

/-- A lookup without a time limit returns the data of the record that the store answers. -/
theorem fetch {timing : Timing} (untimed : timing.limit = none) (name : String) :
    Meets answer (fetch timing name : Deciding σ (Option Json))
      (fun own => ∃ record, answer name = .ok record ∧ own = record.map StoredRecord.data)
      throws := by
  intro session steady
  have ran := run_fetch untimed name session
  rw [run_ask] at ran
  cases answered : answer name with
  | ok record =>
      refine ⟨[name], _, _, ran, rfl, steady.next name, ?_⟩
      rw [steady.answers, answered]
      exact .returned (by simp [Answered, answered]) ⟨record, rfl, rfl⟩
  | error error =>
      refine ⟨[] ++ [name], _, _, ran, rfl, steady.next name, ?_⟩
      rw [steady.answers, answered]
      exact .failed (by simp [Answered]) answered

end Meets

end Deciding

end AccessRules
