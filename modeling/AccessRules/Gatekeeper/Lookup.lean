import AccessRules.Gatekeeper.Error

/-!
# Lookups of a decision

A decision looks records up in the store, which takes time. A lookup is noted first, then its time
passes, and then the store answers; when the time that a decision may take runs out in between, the
decision ends there and the store is not asked.
-/

namespace AccessRules

/-- How long lookups of a name take, and how long all lookups of a decision may take. -/
structure Timing where
  delay : String → Nat
  limit : Option Nat

/-- The state of a decision: the store, the names looked up so far in their order, and the time that
has passed. -/
structure Session (σ : Type) where
  store : σ
  fetched : List String
  elapsed : Nat

/-- The session at the start of a decision. -/
def Session.start {σ : Type} (store : σ) : Session σ := ⟨store, [], 0⟩

/-- A part of a decision. What it has looked up stays looked up when it fails. -/
abbrev Deciding (σ α : Type) := ExceptT DecisionError (StateM (Session σ)) α

namespace Deciding

variable {σ : Type}

/-- The part of a decision that is this result. -/
def ofExcept {α : Type} (result : Except DecisionError α) : Deciding σ α :=
  ExceptT.mk (pure result)

/-- Notes a lookup. -/
def note (name : String) : Deciding σ Unit :=
  modify fun session => { session with fetched := session.fetched ++ [name] }

/-- Lets time pass. If it runs out, the clock stands at the limit. -/
def spend (timing : Timing) (duration : Nat) : Deciding σ Unit := do
  let session ← get
  let elapsed := session.elapsed + duration
  match timing.limit.filter (· < elapsed) with
  | some limit => do
      set { session with elapsed := limit }
      throw (.timeout limit)
  | none => set { session with elapsed := elapsed }

/-- Asks the store. -/
def ask [RecordStore σ] (name : String) : Deciding σ (Option Json) := do
  let session ← get
  let (answer, store) := RecordStore.get session.store name
  set { session with store := store }
  match answer with
  | .ok record => return record.map StoredRecord.data
  | .error error => throw (.dependencyFetch name error)

/-- Looks up a record: its data, if it exists. -/
def fetch [RecordStore σ] (timing : Timing) (name : String) : Deciding σ (Option Json) := do
  note name
  spend timing (timing.delay name)
  ask name

end Deciding

end AccessRules
