import AccessRules.Cache.Timed

/-!
# What holds of every entry

A property of keys and their rules that holds of every entry of a cache goes on to hold as long as
it holds of what is put in: fetching marks entries, sweeping drops some, and nothing else is
changed.
-/

namespace AccessRules

namespace RuleCache

/-- The property holds of every key with its rule. -/
def Holds (property : CacheKey → CachedRule → Prop) (cache : RuleCache) : Prop :=
  ∀ entry ∈ cache.entries, property entry.1 entry.2.cached

namespace Holds

variable {property : CacheKey → CachedRule → Prop} {cache : RuleCache}

theorem empty : Holds property RuleCache.empty := by
  intro entry member
  cases member

/-- What is found under a key stands in the cache. -/
theorem of_entry? (holds : Holds property cache) {key : CacheKey} {entry : CacheEntry}
    (found : cache.entry? key = some entry) : property key entry.cached := by
  obtain ⟨before, behind, split, _⟩ := List.lookup_eq_some_iff.mp found
  exact holds (key, entry) (by simp [split])

theorem set (holds : Holds property cache) {key : CacheKey} {rule : CachedRule}
    (new : property key rule) : Holds property (cache.set key rule) := by
  intro entry member
  rcases List.mem_cons.mp member with here | old
  · subst here
    exact new
  · exact holds entry (List.mem_filter.mp old).1

theorem markUsed (holds : Holds property cache) (key : CacheKey) :
    Holds property (cache.markUsed key) := by
  intro entry member
  obtain ⟨old, oldMember, rfl⟩ := List.mem_map.mp member
  have known := holds old oldMember
  split <;> exact known

theorem get (holds : Holds property cache) (key : CacheKey) :
    Holds property (cache.get key).2 := by
  rw [RuleCache.get]
  split
  · exact holds.markUsed key
  · exact holds

theorem swept (holds : Holds property cache) : Holds property cache.swept := by
  intro entry member
  obtain ⟨old, oldMember, rfl⟩ := List.mem_map.mp member
  exact holds old (List.mem_filter.mp oldMember).1

theorem sweptTimes (holds : Holds property cache) (count : Nat) :
    Holds property (cache.sweptTimes count) := by
  induction count generalizing cache with
  | zero => exact holds
  | succ count inductionHypothesis => exact inductionHypothesis holds.swept

/-- The sweeps that fall due while time passes put nothing in. -/
theorem pass {timed : TimedCache} (holds : Holds property timed.cache) (duration : Nat) :
    Holds property (timed.pass duration).cache := by
  rw [TimedCache.pass]
  split
  · exact holds
  · exact holds.sweptTimes _

end Holds

end RuleCache

end AccessRules
