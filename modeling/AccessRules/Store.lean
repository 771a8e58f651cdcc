import AccessRules.Json.Basic

/-!
# The record store

A record store answers lookups of names. The one in memory holds records by name, each with a
version that counts how often it was stored; it counts the lookups, and lookups of a name can be
made to fail.
-/

namespace AccessRules

/-- A record with its version. -/
structure StoredRecord where
  version : Nat
  data : Json

/-- Why a lookup fails. -/
inductive StorageError where
  | unavailable (reason : String)
  | backend (reason : String)
deriving DecidableEq, Repr

/-- The message of a storage error. -/
def StorageError.message : StorageError → String
  | .unavailable reason => "storage unavailable: " ++ reason
  | .backend reason => reason

/-- What can be asked for records. A lookup may change the store, so a name need not be answered
twice in one way. -/
class RecordStore (σ : Type) where
  /-- Looks up a name: the answer, `none` if there is no such record, and the store after it. -/
  get : σ → String → Except StorageError (Option StoredRecord) × σ

/-- A store in memory. Of several entries under one name the first counts. -/
structure Store where
  records : List (String × StoredRecord)
  failures : List (String × StorageError)
  /-- The names that were looked up, the last one first. -/
  lookups : List String

namespace Store

/-- The store without a record. -/
def empty : Store := ⟨[], [], []⟩

/-- The record under a name. -/
def record? (store : Store) (name : String) : Option StoredRecord :=
  store.records.lookup name

/-- Stores data under a name. -/
def set (store : Store) (name : String) (data : Json) : Store :=
  let version := match store.record? name with
    | some record => record.version + 1
    | none => 1
  { store with
    records := (name, ⟨version, data⟩) :: store.records.filter fun entry => entry.1 != name }

/-- Removes the record under a name and gives it. -/
def remove (store : Store) (name : String) : Option StoredRecord × Store :=
  (store.record? name, { store with records := store.records.filter fun entry => entry.1 != name })

/-- Makes every lookup of a name fail. -/
def fail (store : Store) (name : String) (error : StorageError) : Store :=
  { store with failures := (name, error) :: store.failures }

/-- What a lookup of a name answers: a failure wins over a record. -/
def answer (store : Store) (name : String) : Except StorageError (Option StoredRecord) :=
  match store.failures.lookup name with
  | some error => .error error
  | none => .ok (store.record? name)

/-- Looks up a name. -/
def get (store : Store) (name : String) : Except StorageError (Option StoredRecord) × Store :=
  (store.answer name, { store with lookups := name :: store.lookups })

instance : RecordStore Store := ⟨Store.get⟩

/-- How often a name was looked up. -/
def requestsFor (store : Store) (name : String) : Nat := store.lookups.count name

/-- How often any name was looked up. -/
def totalRequests (store : Store) : Nat := store.lookups.length

end Store

end AccessRules
