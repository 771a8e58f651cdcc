import AccessRules.Cache.Tasks
import AccessRules.Proofs.Cache.Sweeping

/-!
# One sweeper at a time

Of all the tasks that have been spawned to sweep a cache, the one that was spawned last is the only
one that has not been aborted. So a cache with its tasks becomes what the cache with one sweeper
becomes: the ticks of a sweeper that is replaced stop.
-/

namespace AccessRules

/-! ### Sweeps in several steps -/

theorem RuleCache.sweptTimes_add (cache : RuleCache) (first second : Nat) :
    cache.sweptTimes (first + second) = (cache.sweptTimes first).sweptTimes second := by
  induction first generalizing cache with
  | zero => rw [Nat.zero_add, sweptTimes]
  | succ first inductionHypothesis =>
      rw [Nat.succ_add, sweptTimes, sweptTimes]
      exact inductionHypothesis cache.swept

namespace Sweeper

variable {time time' : Nat}

/-- The sweeps that have fallen due by a later time: those by an earlier one, and those since. -/
theorem due_eq_add (sweeper : Sweeper) (positive : 0 < sweeper.period) (later : time ≤ time') :
    sweeper.due time' = sweeper.due time + (sweeper.advance time).due time' := by
  induction count : sweeper.due time generalizing sweeper with
  | zero =>
      rw [advance_of_lt (lt_of_due_eq_zero count), Nat.zero_add]
  | succ count' inductionHypothesis =>
      have late := le_of_due_eq_succ count
      rw [due_eq_succ positive late] at count
      rw [due_eq_succ positive (Nat.le_trans late later), advance_ticked positive late,
        inductionHypothesis sweeper.ticked positive (Nat.succ.inj count), Nat.add_right_comm]

theorem advance_advance (sweeper : Sweeper) (positive : 0 < sweeper.period)
    (later : time ≤ time') : (sweeper.advance time).advance time' = sweeper.advance time' := by
  have next : (sweeper.advance time).next + (sweeper.advance time).due time' * sweeper.period
      = sweeper.next + sweeper.due time' * sweeper.period := by
    rw [sweeper.due_eq_add positive later, Nat.add_mul, ← Nat.add_assoc]
    rfl
  exact congrArg (Sweeper.mk · sweeper.period) next

/-- No more than one sweep falls due at a time that is less than a period behind it. -/
theorem due_eq_one {sweeper : Sweeper} (late : sweeper.next ≤ time)
    (soon : time < sweeper.next + sweeper.period) : sweeper.due time = 1 := by
  rw [due_of_le late, Nat.div_eq_of_lt (Nat.sub_lt_left_of_lt_add late soon)]

end Sweeper

/-- Time that passes up to a sweep passes just short of it before. -/
theorem TimedCache.pass_succ {timed : TimedCache}
    (positive : ∀ sweeper ∈ timed.sweeper, 0 < sweeper.period) (duration : Nat) :
    timed.pass (duration + 1) = (timed.approach duration).pass 0 := by
  obtain ⟨cache, now, sweeper⟩ := timed
  cases sweeper with
  | none => rfl
  | some sweeper =>
      have later : now + duration ≤ now + duration + 1 := Nat.le_succ _
      have split := sweeper.due_eq_add (positive sweeper rfl) later
      have same := sweeper.advance_advance (positive sweeper rfl) later
      simp only [approach, pass, Nat.add_zero, ← Nat.add_assoc, split, same,
        RuleCache.sweptTimes_add]

namespace SweepTask

variable {task : SweepTask} {now : Nat} {cache : RuleCache}

/-- The sweeper that a task is: the first tick of its timer does not count. -/
def sweeper (task : SweepTask) : Sweeper :=
  ⟨if task.isFresh then task.next + task.period else task.next, task.period⟩

theorem sweeper_pastFirst (task : SweepTask) (now : Nat) :
    (task.pastFirst now).sweeper = task.sweeper := by
  rw [pastFirst]
  split
  · next isFirst =>
    have isFresh : task.isFresh = true := (Bool.and_eq_true_iff.mp isFirst).1
    rw [sweeper, sweeper, isFresh]
    rfl
  · rfl

theorem next_of_not_isFresh (isPast : task.isFresh = false) : task.sweeper.next = task.next := by
  rw [sweeper, isPast]
  rfl

theorem aborted_pastFirst (task : SweepTask) (now : Nat) :
    (task.pastFirst now).aborted = task.aborted := by
  rw [pastFirst]
  split <;> rfl

/-- The first tick is passed over before a sweep is due. -/
theorem isFresh_pastFirst (late : task.sweeper.next ≤ now) :
    (task.pastFirst now).isFresh = false := by
  cases isFresh : task.isFresh with
  | false =>
      rw [pastFirst, isFresh]
      exact isFresh
  | true =>
      rw [sweeper, isFresh] at late
      have isDue : task.next ≤ now := Nat.le_trans (Nat.le_add_right _ _) late
      rw [pastFirst, isFresh, decide_eq_true isDue]
      rfl

theorem sweeper_ticked (isPast : task.isFresh = false) :
    task.ticked.sweeper = task.sweeper.ticked := by
  rw [sweeper, sweeper, isPast]
  rfl

theorem wake_of_aborted (aborted : task.aborted = true) : task.wake now cache = (task, cache) :=
  if_pos aborted

/-- With the first tick passed over, a sweep is due when that of the sweeper is. -/
theorem isDue_pastFirst (task : SweepTask) (now : Nat) :
    (!(task.pastFirst now).isFresh && decide ((task.pastFirst now).next ≤ now))
      = decide (task.sweeper.next ≤ now) := by
  have past := task.sweeper_pastFirst now
  cases isFresh : (task.pastFirst now).isFresh with
  | false => rw [← next_of_not_isFresh isFresh, past, Bool.not_false, Bool.true_and]
  | true =>
      have early : ¬ task.sweeper.next ≤ now := by
        intro late
        rw [isFresh_pastFirst late] at isFresh
        cases isFresh
      rw [decide_eq_false early]
      rfl

/-- A task that runs sweeps when its sweeper does. -/
theorem exists_wake (runs : task.aborted = false)
    (soon : now < task.sweeper.next + task.sweeper.period) (cache : RuleCache) :
    ∃ woken, task.wake now cache = (woken, cache.sweptTimes (task.sweeper.due now))
      ∧ woken.aborted = false ∧ woken.sweeper = task.sweeper.advance now := by
  have past := task.sweeper_pastFirst now
  have runsPast : (task.pastFirst now).aborted = false := (task.aborted_pastFirst now).trans runs
  simp only [wake, runs, isDue_pastFirst]
  rcases Nat.lt_or_ge now task.sweeper.next with early | late
  · rw [decide_eq_false (Nat.not_le.mpr early), Sweeper.due_of_lt early,
      Sweeper.advance_of_lt early]
    exact ⟨task.pastFirst now, rfl, runsPast, past⟩
  · have once := Sweeper.due_eq_one late soon
    rw [decide_eq_true late, once]
    refine ⟨(task.pastFirst now).ticked, rfl, runsPast, ?_⟩
    rw [sweeper_ticked (isFresh_pastFirst late), past, Sweeper.advance, once, Nat.one_mul]
    rfl

/-- Tasks that have been aborted keep out of what others do. -/
theorem wakeAll_append {old : List SweepTask} (aborted : ∀ task ∈ old, task.aborted = true)
    (now : Nat) (tasks : List SweepTask) (cache : RuleCache) :
    wakeAll now (old ++ tasks) cache =
      (old ++ (wakeAll now tasks cache).1, (wakeAll now tasks cache).2) := by
  induction old with
  | nil => rfl
  | cons first old inductionHypothesis =>
      obtain ⟨here, behind⟩ := List.forall_mem_cons.mp aborted
      rw [List.cons_append, wakeAll, wake_of_aborted here]
      simp only [inductionHypothesis behind]
      rfl

end SweepTask

namespace TaskedCache

variable {tasked : TaskedCache} {timed : TimedCache}

/-- A cache with its tasks does as a cache with one sweeper: every task has been aborted but the one
that is held on to, and that is the sweeper. -/
inductive Mirrors : TaskedCache → TimedCache → Prop
  | idle (cache : RuleCache) (now : Nat) : Mirrors ⟨cache, now, [], none⟩ ⟨cache, now, none⟩
  | running (cache : RuleCache) (now : Nat) {old : List SweepTask} {task : SweepTask} :
      (∀ other ∈ old, other.aborted = true) → task.aborted = false →
      Mirrors ⟨cache, now, old ++ [task], some old.length⟩ ⟨cache, now, some task.sweeper⟩

/-- Where a sweeper is started, the task that is held on to is aborted. -/
theorem startSweeper_held (cache : RuleCache) (now : Nat) (old : List SweepTask) (task : SweepTask)
    (period : Nat) : startSweeper ⟨cache, now, old ++ [task], some old.length⟩ period
      = ⟨cache, now, (old ++ [task.abort]) ++ [.spawn now period],
          some (old ++ [task.abort]).length⟩ := by
  have modified : ((old ++ [task]) ++ [SweepTask.spawn now period]).modify old.length
      SweepTask.abort = (old ++ [task.abort]) ++ [SweepTask.spawn now period] := by
    rw [List.append_assoc, List.append_assoc]
    exact List.modifyTailIdx_add (List.modifyHead SweepTask.abort) 0 old
      [task, SweepTask.spawn now period]
  have held : (old ++ [task]).length = (old ++ [task.abort]).length := by
    rw [List.length_append, List.length_append]
    rfl
  rw [startSweeper]
  simp only [modified, held]

theorem forall_abort {old : List SweepTask} {task : SweepTask}
    (aborted : ∀ other ∈ old, other.aborted = true) :
    ∀ other ∈ old ++ [task.abort], other.aborted = true :=
  List.forall_mem_append.mpr ⟨aborted, List.forall_mem_singleton.mpr rfl⟩

namespace Mirrors

theorem start (mirrors : Mirrors tasked timed) (period : Nat) :
    Mirrors (tasked.startSweeper period) (timed.startSweeper period) := by
  cases mirrors with
  | idle cache now => exact .running cache now (List.forall_mem_nil _) rfl
  | running cache now aborted runs =>
      rw [startSweeper_held]
      exact .running cache now (forall_abort aborted) rfl

/-- When the tasks are woken, the sweep happens that has fallen due. -/
theorem wake (mirrors : Mirrors tasked timed)
    (ahead : ∀ sweeper ∈ timed.sweeper, timed.now < sweeper.next + sweeper.period) :
    Mirrors tasked.wake (timed.pass 0) := by
  cases mirrors with
  | idle cache now => exact .idle cache now
  | @running cache now old task aborted runs =>
      obtain ⟨woken, wakes, runsOn, same⟩ := task.exists_wake runs (ahead _ rfl) cache
      have swept : TaskedCache.wake ⟨cache, now, old ++ [task], some old.length⟩
          = ⟨cache.sweptTimes (task.sweeper.due now), now, old ++ [woken], some old.length⟩ := by
        rw [TaskedCache.wake, SweepTask.wakeAll_append aborted]
        simp only [SweepTask.wakeAll, wakes]
      rw [swept]
      have mirrors := Mirrors.running (cache.sweptTimes (task.sweeper.due now)) now aborted runsOn
      rw [same] at mirrors
      exact mirrors

theorem later (mirrors : Mirrors tasked timed) :
    Mirrors tasked.later { timed with now := timed.now + 1 } := by
  cases mirrors with
  | idle cache now => exact .idle cache (now + 1)
  | running cache now aborted runs => exact .running cache (now + 1) aborted runs

/-- Time that passes all at once passes as it does millisecond by millisecond. -/
theorem pass (mirrors : Mirrors tasked timed) (inOrder : timed.InOrder)
    (positive : ∀ sweeper ∈ timed.sweeper, 0 < sweeper.period) (duration : Nat) :
    Mirrors (tasked.pass duration) (timed.pass duration) := by
  induction duration with
  | zero =>
      apply mirrors.wake
      intro sweeper running
      have ahead := inOrder.ahead sweeper running (positive sweeper running)
      exact Nat.lt_of_le_of_lt ahead (Nat.lt_add_of_pos_right (positive sweeper running))
  | succ duration inductionHypothesis =>
      have later := inductionHypothesis.later
      rw [TimedCache.now_pass] at later
      rw [TimedCache.pass_succ positive]
      apply Mirrors.wake later
      intro sweeper running
      have isPositive := TimedCache.period_pass positive duration sweeper running
      have ahead := (inOrder.after (.approach duration)).ahead sweeper running isPositive
      exact Nat.lt_of_le_of_lt ahead (Nat.lt_add_of_pos_right isPositive)

end Mirrors

/-! ### What happens to a cache with its tasks -/

/-- The cache after an event. -/
def after (tasked : TaskedCache) : TimedCache.Event → TaskedCache
  | .operate operation => { tasked with cache := tasked.cache.after operation }
  | .start period => tasked.startSweeper period
  | .pass duration => tasked.pass duration
  | .approach duration => (tasked.pass duration).later

/-- What a new cache has become. -/
def lived (history : List TimedCache.Event) : TaskedCache :=
  history.foldl after empty

theorem lived_snoc (history : List TimedCache.Event) (event : TimedCache.Event) :
    lived (history ++ [event]) = (lived history).after event :=
  List.foldl_append

/-- One event, which may be the start of a sweeper. -/
theorem Mirrors.after (mirrors : Mirrors tasked timed) (inOrder : timed.InOrder)
    (positive : ∀ sweeper ∈ timed.sweeper, 0 < sweeper.period) (event : TimedCache.Event) :
    Mirrors (tasked.after event) (timed.after event) := by
  cases event with
  | operate operation =>
      cases mirrors with
      | idle cache now => exact .idle _ now
      | running cache now aborted runs => exact .running _ now aborted runs
  | start period => exact mirrors.start period
  | pass duration => exact mirrors.pass inOrder positive duration
  | approach duration =>
      have later := (mirrors.pass inOrder positive duration).later
      rw [TimedCache.now_pass] at later
      exact later

/-- A history of events of any length. -/
theorem mirrors_lived {history : List TimedCache.Event}
    (positive : ∀ period, .start period ∈ history → 0 < period) :
    Mirrors (lived history) (TimedCache.lived history) := by
  induction history using List.reverseRecOn with
  | nil => exact .idle RuleCache.empty 0
  | append_singleton history event inductionHypothesis =>
      have earlier : ∀ period, .start period ∈ history → 0 < period :=
        fun period member => positive period (List.mem_append_left _ member)
      rw [lived_snoc, TimedCache.lived_snoc]
      exact (inductionHypothesis earlier).after (TimedCache.InOrder.lived history)
        (TimedCache.period_lived earlier) event

/-- The tasks of a cache do what one sweeper does. -/
structure SweptByOne (tasked : TaskedCache) (timed : TimedCache) : Prop where
  cache : tasked.cache = timed.cache
  now : tasked.now = timed.now
  /-- One task runs at most. -/
  one : tasked.running.length ≤ 1
  /-- Where a sweeper is started, the ticks of all others stop: no task runs any more but the one
  that is spawned. -/
  replaced : ∀ period, (tasked.startSweeper period).running = [.spawn tasked.now period]

theorem running_of_aborted {old : List SweepTask} {task : SweepTask} (cache : RuleCache)
    (now : Nat) (held : Option Nat) (aborted : ∀ other ∈ old, other.aborted = true)
    (runs : task.aborted = false) : running ⟨cache, now, old ++ [task], held⟩ = [task] := by
  have none : old.filter (fun other => !other.aborted) = [] := by
    rw [List.filter_eq_nil_iff]
    intro other among
    rw [aborted other among]
    decide
  rw [running, List.filter_append, none, List.nil_append, List.filter_cons, runs]
  rfl

/-- However often a sweeper has been started, one task at most has not been aborted, and it sweeps
when the sweeper does. -/
theorem Mirrors.sweptByOne (mirrors : Mirrors tasked timed) : SweptByOne tasked timed := by
  cases mirrors with
  | idle cache now => exact ⟨rfl, rfl, Nat.zero_le 1, fun period => rfl⟩
  | running cache now aborted runs =>
      refine ⟨rfl, rfl, ?_, ?_⟩
      · rw [running_of_aborted cache now _ aborted runs]
        exact Nat.le_refl 1
      · intro period
        rw [startSweeper_held]
        exact running_of_aborted cache now _ (forall_abort aborted) rfl

end TaskedCache

end AccessRules
