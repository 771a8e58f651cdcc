import AccessRules.Cache.Timed

/-!
# The tasks that sweep the cache

Every start of a sweeper spawns a task of its own, which sweeps until it is aborted. The task that
was spawned last is held on to, and the one that was held before it is aborted. A task has a timer
whose first tick is due at once and is passed over. It sweeps with each further tick.
-/

namespace AccessRules

/-- A task that sweeps the cache: when its timer ticks next, the time from one tick to the next,
whether the first tick is still to come, and whether the task has been aborted. -/
structure SweepTask where
  next : Nat
  period : Nat
  isFresh : Bool
  aborted : Bool
deriving DecidableEq, Repr

namespace SweepTask

/-- A task that is spawned now. -/
def spawn (now period : Nat) : SweepTask := ⟨now, period, true, false⟩

/-- The task when its timer has ticked. -/
def ticked (task : SweepTask) : SweepTask :=
  { task with next := task.next + task.period, isFresh := false }

def abort (task : SweepTask) : SweepTask :=
  { task with aborted := true }

/-- The task when the first tick of its timer has been passed over, if that is due. -/
def pastFirst (task : SweepTask) (now : Nat) : SweepTask :=
  if task.isFresh && decide (task.next ≤ now) then task.ticked else task

/-- What a task does when it is woken at some time. -/
def wake (task : SweepTask) (now : Nat) (cache : RuleCache) : SweepTask × RuleCache :=
  if task.aborted then (task, cache)
  else
    let task := task.pastFirst now
    if !task.isFresh && decide (task.next ≤ now) then (task.ticked, cache.swept) else (task, cache)

/-- What several tasks do that are woken one after the other. -/
def wakeAll (now : Nat) : List SweepTask → RuleCache → List SweepTask × RuleCache
  | [], cache => ([], cache)
  | task :: tasks, cache =>
      let (task, cache) := task.wake now cache
      let (tasks, cache) := wakeAll now tasks cache
      (task :: tasks, cache)

end SweepTask

/-- A rule cache with the time, in milliseconds, all tasks that have been spawned to sweep it, and
which of them is held on to. -/
structure TaskedCache where
  cache : RuleCache
  now : Nat
  tasks : List SweepTask
  held : Option Nat

namespace TaskedCache

/-- An empty cache at the start of time, without tasks. -/
def empty : TaskedCache := ⟨RuleCache.empty, 0, [], none⟩

/-- The tasks that have not been aborted. -/
def running (tasked : TaskedCache) : List SweepTask :=
  tasked.tasks.filter fun task => !task.aborted

/-- Spawns a task, holds on to it and aborts the one that was held before. -/
def startSweeper (tasked : TaskedCache) (period : Nat) : TaskedCache :=
  let spawned := tasked.tasks ++ [.spawn tasked.now period]
  { tasked with
    tasks := match tasked.held with
      | some previous => spawned.modify previous SweepTask.abort
      | none => spawned
    held := some tasked.tasks.length }

/-- Wakes all tasks. -/
def wake (tasked : TaskedCache) : TaskedCache :=
  let (tasks, cache) := SweepTask.wakeAll tasked.now tasked.tasks tasked.cache
  { tasked with tasks, cache }

/-- A millisecond later, before any task has been woken. -/
def later (tasked : TaskedCache) : TaskedCache :=
  { tasked with now := tasked.now + 1 }

/-- Lets time pass, and wakes the tasks at every millisecond. -/
def pass (tasked : TaskedCache) : Nat → TaskedCache
  | 0 => tasked.wake
  | duration + 1 => (tasked.pass duration).later.wake

end TaskedCache

end AccessRules
