import AccessRules.Cache.Basic

/-!
# The rule cache on a clock

A sweeper sweeps the cache at regular times, the first of them one period after it started; starting
it again replaces it. Nothing else happens while time passes, so an entry that is used at some time
stays for a period at least, and without another use it is gone after two.
-/

namespace AccessRules

/-- A sweeper: when it sweeps next, and the time from one sweep to the next. -/
structure Sweeper where
  next : Nat
  period : Nat
deriving DecidableEq, Repr

namespace Sweeper

/-- A sweeper that starts now. -/
def start (now period : Nat) : Sweeper := ⟨now + period, period⟩

/-- How many sweeps have fallen due by a time. -/
def due (sweeper : Sweeper) (time : Nat) : Nat :=
  if time < sweeper.next then 0 else (time - sweeper.next) / sweeper.period + 1

/-- The sweeper after the sweeps that have fallen due by a time. -/
def advance (sweeper : Sweeper) (time : Nat) : Sweeper :=
  { sweeper with next := sweeper.next + sweeper.due time * sweeper.period }

end Sweeper

/-- The cache after a number of sweeps. -/
def RuleCache.sweptTimes (cache : RuleCache) : Nat → RuleCache
  | 0 => cache
  | count + 1 => cache.swept.sweptTimes count

/-- A rule cache with the time, in milliseconds, and its sweeper if one has been started. -/
structure TimedCache where
  cache : RuleCache
  now : Nat
  sweeper : Option Sweeper

namespace TimedCache

/-- An empty cache at the start of time, without a sweeper. -/
def empty : TimedCache := ⟨RuleCache.empty, 0, none⟩

/-- Starts a sweeper in place of the one that may run. -/
def startSweeper (timed : TimedCache) (period : Nat) : TimedCache :=
  { timed with sweeper := some (.start timed.now period) }

/-- Lets time pass, with the sweeps that fall due in it. -/
def pass (timed : TimedCache) (duration : Nat) : TimedCache :=
  let time := timed.now + duration
  match timed.sweeper with
  | none => { timed with now := time }
  | some sweeper =>
      { cache := timed.cache.sweptTimes (sweeper.due time)
        now := time
        sweeper := some (sweeper.advance time) }

/-- Puts a rule under a key. -/
def set (timed : TimedCache) (key : CacheKey) (rule : CachedRule) : TimedCache :=
  { timed with cache := timed.cache.set key rule }

/-- Fetches the rule under a key and marks it. -/
def get (timed : TimedCache) (key : CacheKey) : Option CachedRule × TimedCache :=
  let (found, cache) := timed.cache.get key
  (found, { timed with cache })

/-- Sweeps the cache out of turn. -/
def sweep (timed : TimedCache) : Nat × TimedCache :=
  let (dropped, cache) := timed.cache.sweep
  (dropped, { timed with cache })

/-- Drops every entry; the sweeper goes on. -/
def reset (timed : TimedCache) : TimedCache :=
  { timed with cache := RuleCache.empty }

end TimedCache

end AccessRules
