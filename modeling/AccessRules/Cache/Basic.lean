import AccessRules.Code.Basic
import AccessRules.Kind
import AccessRules.Path.Template

/-!
# The rule cache

Compiled rules under the section, the name and the rule type they were resolved for. Every entry has
a mark that is set when the entry is put in or fetched. A sweep drops the entries without the mark
and takes it from the others, so an entry goes with the second sweep after its last use.
-/

namespace AccessRules

/-- What a cached rule was resolved for. -/
structure CacheKey where
  kind : Section
  name : String
  ruleType : RuleType
deriving DecidableEq, Repr

/-- A resolved rule: the template that matched the name, and the rule compiled for its variables. -/
structure CachedRule where
  template : Path.Template
  rule : CompiledRule

/-- An entry of the cache. -/
structure CacheEntry where
  cached : CachedRule
  used : Bool

/-- The rule cache. No key stands in it twice. -/
structure RuleCache where
  entries : List (CacheKey × CacheEntry)

namespace RuleCache

/-- The cache without an entry. -/
def empty : RuleCache := ⟨[]⟩

/-- The entry under a key. -/
def entry? (cache : RuleCache) (key : CacheKey) : Option CacheEntry :=
  cache.entries.lookup key

/-- Whether there is an entry under a key; asking is no use of it. -/
def has (cache : RuleCache) (key : CacheKey) : Bool :=
  (cache.entry? key).isSome

/-- The entries without the one under a key. -/
def without (key : CacheKey) (entries : List (CacheKey × CacheEntry)) :
    List (CacheKey × CacheEntry) :=
  entries.filter fun entry => entry.1 != key

/-- Puts a rule under a key, in place of the one that is there, and marks it. -/
def set (cache : RuleCache) (key : CacheKey) (rule : CachedRule) : RuleCache :=
  ⟨(key, ⟨rule, true⟩) :: without key cache.entries⟩

/-- The cache with the mark set on the entry under a key. -/
def markUsed (cache : RuleCache) (key : CacheKey) : RuleCache :=
  ⟨cache.entries.map fun entry =>
    if entry.1 = key then (entry.1, { entry.2 with used := true }) else entry⟩

/-- Fetches the rule under a key and marks it. -/
def get (cache : RuleCache) (key : CacheKey) : Option CachedRule × RuleCache :=
  match cache.entry? key with
  | some entry => (some entry.cached, cache.markUsed key)
  | none => (none, cache)

/-- The number of entries. -/
def size (cache : RuleCache) : Nat := cache.entries.length

/-- Whether there is no entry. -/
def isEmpty (cache : RuleCache) : Bool := cache.entries.isEmpty

/-- Drops the entries without the mark, takes it from the others, and tells how many were dropped.
-/
def sweep (cache : RuleCache) : Nat × RuleCache :=
  let kept := cache.entries.filter fun entry => entry.2.used
  (cache.entries.length - kept.length,
    ⟨kept.map fun entry => (entry.1, { entry.2 with used := false })⟩)

/-- The cache after a sweep. -/
def swept (cache : RuleCache) : RuleCache := cache.sweep.2

end RuleCache

end AccessRules
