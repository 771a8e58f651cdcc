import AccessRules.Proofs.Cache.SecondChance

/-!
# What a sweeper grants

An entry that is used stays for one period of the sweeper at least and, without another use, goes
after two at the latest. Behind both bounds stands one number, the time at which the entry goes if
it is not used before: a sweep that leaves the entry leaves this time as it is, and a use moves it
to between one and two periods from now.

Whether something happens before or after a sweep that falls due at the same moment is left open:
time may also stop just before such a sweep.
-/

namespace AccessRules

namespace Sweeper

/-- The sweeper after one of its sweeps. -/
def ticked (sweeper : Sweeper) : Sweeper :=
  { sweeper with next := sweeper.next + sweeper.period }

/-- When an entry goes that is not used before: with the next sweep if its mark is gone, and with
the one after that otherwise. -/
def dropsAt (sweeper : Sweeper) (entry : CacheEntry) : Nat :=
  if entry.used then sweeper.next + sweeper.period else sweeper.next

variable {sweeper : Sweeper} {time : Nat}

theorem due_of_lt (early : time < sweeper.next) : sweeper.due time = 0 :=
  if_pos early

theorem due_of_le (late : sweeper.next ≤ time) :
    sweeper.due time = (time - sweeper.next) / sweeper.period + 1 :=
  if_neg (Nat.not_lt.mpr late)

theorem lt_of_due_eq_zero (none : sweeper.due time = 0) : time < sweeper.next := by
  by_contra late
  rw [due_of_le (Nat.not_lt.mp late)] at none
  cases none

theorem le_of_due_eq_succ {count : Nat} (some : sweeper.due time = count + 1) :
    sweeper.next ≤ time := by
  by_contra early
  rw [due_of_lt (Nat.not_le.mp early)] at some
  cases some

/-- A sweep that is due is the first of those that are due. -/
theorem due_eq_succ (positive : 0 < sweeper.period) (late : sweeper.next ≤ time) :
    sweeper.due time = sweeper.ticked.due time + 1 := by
  rw [due_of_le late]
  rcases Nat.lt_or_ge time (sweeper.next + sweeper.period) with early | later
  · rw [due_of_lt (show time < sweeper.ticked.next from early), Nat.div_eq_of_lt (by omega)]
  · have behind : sweeper.ticked.next ≤ time := later
    have wait : time - sweeper.ticked.next = time - sweeper.next - sweeper.period :=
      Nat.sub_add_eq time sweeper.next sweeper.period
    rw [due_of_le behind, wait]
    exact congrArg (· + 1)
      (Nat.div_eq_sub_div positive (Nat.le_sub_of_add_le' later))

theorem advance_of_lt (early : time < sweeper.next) : sweeper.advance time = sweeper := by
  rw [advance, due_of_lt early, Nat.zero_mul, Nat.add_zero]

theorem advance_ticked (positive : 0 < sweeper.period) (late : sweeper.next ≤ time) :
    sweeper.advance time = sweeper.ticked.advance time := by
  have next : sweeper.next + (sweeper.ticked.due time + 1) * sweeper.period
      = sweeper.ticked.next + sweeper.ticked.due time * sweeper.period := by
    rw [Nat.succ_mul, Nat.add_comm (_ * _), ← Nat.add_assoc]
    rfl
  rw [advance, due_eq_succ positive late, next]
  rfl

/-- What one sweep that is due keeps, all sweeps keep that fall due by a time. -/
theorem sweeps_induction (time : Nat) {motive : RuleCache → Sweeper → Prop}
    (tick : ∀ cache sweeper, sweeper.next ≤ time → motive cache sweeper →
      motive cache.swept sweeper.ticked)
    {cache : RuleCache} {sweeper : Sweeper} (start : motive cache sweeper) :
    motive (cache.sweptTimes (sweeper.due time)) (sweeper.advance time) := by
  induction count : sweeper.due time generalizing cache sweeper with
  | zero =>
      rw [advance_of_lt (lt_of_due_eq_zero count)]
      exact start
  | succ count' inductionHypothesis =>
      have late := le_of_due_eq_succ count
      have swept := tick cache sweeper late start
      rcases Nat.eq_zero_or_pos sweeper.period with none | positive
      · -- Without a period there is no more than one sweep at a time.
        rw [due_of_le late, none, Nat.div_zero, Nat.zero_add] at count
        cases count
        have same : sweeper.advance time = sweeper.ticked := by
          rw [advance, ticked, none, Nat.mul_zero]
        rw [same]
        exact swept
      · rw [due_eq_succ positive late] at count
        rw [advance_ticked positive late]
        exact inductionHypothesis swept (Nat.succ.inj count)

theorem lt_next_advance (positive : 0 < sweeper.period) (time : Nat) :
    time < (sweeper.advance time).next := by
  rcases Nat.lt_or_ge time sweeper.next with early | late
  · rw [advance_of_lt early]
    exact early
  · rw [advance, due_of_le late, Nat.succ_mul, Nat.mul_comm]
    have left := Nat.div_add_mod (time - sweeper.next) sweeper.period
    have rest := Nat.mod_lt (time - sweeper.next) positive
    simp only
    omega

theorem next_advance_le (soon : sweeper.next ≤ time + sweeper.period) :
    (sweeper.advance time).next ≤ time + sweeper.period := by
  rcases Nat.lt_or_ge time sweeper.next with early | late
  · rw [advance_of_lt early]
    exact soon
  · rw [advance, due_of_le late, Nat.succ_mul]
    have whole := Nat.div_mul_le_self (time - sweeper.next) sweeper.period
    simp only
    omega

/-- The sweeps of a sweeper fall on the multiples of its period. -/
theorem due_multiple {started period made : Nat} (positive : 0 < period)
    (time : Nat) :
    due ⟨started + (made + 1) * period, period⟩ time = (time - started) / period - made := by
  rcases Nat.lt_or_ge time (started + (made + 1) * period) with early | late
  · have few : (time - started) / period < made + 1 := by
      rw [Nat.div_lt_iff_lt_mul positive]
      have some := Nat.mul_pos made.succ_pos positive
      rw [Nat.succ_eq_add_one] at some
      omega
    rw [due_of_lt early]
    omega
  · have many : made + 1 ≤ (time - started) / period := by
      rw [Nat.le_div_iff_mul_le positive]
      omega
    rw [due_of_le late]
    simp only
    rw [Nat.sub_add_eq, Nat.mul_comm (made + 1), Nat.sub_mul_div]
    omega

/-- Between a use and the time at which the entry goes lie one or two periods. -/
theorem dropsAt_of_used {entry : CacheEntry} (used : entry.used = true) :
    sweeper.dropsAt entry = sweeper.next + sweeper.period :=
  if_pos used

/-- A sweep drops an entry or leaves the time as it is at which the entry goes. -/
theorem dropsAt_swept {entry left : CacheEntry} (kept : entry.swept = some left) :
    sweeper.ticked.dropsAt left = sweeper.dropsAt entry := by
  rw [CacheEntry.swept] at kept
  split at kept
  · next used =>
    cases kept
    exact (if_pos used).symm
  · cases kept

/-- An entry that does not go with the next sweep is left by it. -/
theorem exists_swept {entry : CacheEntry} (later : sweeper.next < sweeper.dropsAt entry) :
    ∃ left, entry.swept = some left := by
  rw [dropsAt] at later
  split at later
  · next used => exact ⟨_, if_pos used⟩
  · exact absurd later (Nat.lt_irrefl _)

end Sweeper

namespace TimedCache

/-- What can happen to a cache on a clock: an operation, the start of a sweeper, and that time
passes, up to and with a sweep or just short of it. -/
inductive Event where
  | operate (operation : RuleCache.Operation)
  | start (period : Nat)
  | pass (duration : Nat)
  | approach (duration : Nat)

/-- Lets time pass and a last millisecond, at whose end no sweep has happened yet. -/
def approach (timed : TimedCache) (duration : Nat) : TimedCache :=
  { timed.pass duration with now := timed.now + duration + 1 }

/-- The cache after an event. -/
def after (timed : TimedCache) : Event → TimedCache
  | .operate operation => { timed with cache := timed.cache.after operation }
  | .start period => timed.startSweeper period
  | .pass duration => timed.pass duration
  | .approach duration => timed.approach duration

/-- The cache after events, one after the other. -/
def afterAll (timed : TimedCache) (events : List Event) : TimedCache :=
  events.foldl after timed

/-- What a new cache has become. -/
def lived (history : List Event) : TimedCache :=
  empty.afterAll history

/-- Whether an event uses a key: it puts a rule under it, or gets the one that is there. -/
def Uses (key : CacheKey) (timed : TimedCache) : Event → Prop
  | .operate (.set other _) => other = key
  | .operate (.get other) => other = key ∧ (timed.get key).1.isSome = true
  | _ => False

/-- None of the events, one after the other, uses the key. -/
def Idle (key : CacheKey) : TimedCache → List Event → Prop
  | _, [] => True
  | timed, event :: events => ¬ Uses key timed event ∧ Idle key (timed.after event) events

/-- Whether an event is the start of a sweeper. -/
def Event.isStart : Event → Bool
  | .start _ => true
  | _ => false

/-- Whether an event drops nothing out of turn: no entry is dropped by hand, and no sweeper is
started that is faster than the period. -/
def Event.Mild (period : Nat) : Event → Prop
  | .operate operation => operation ≠ .sweep ∧ operation ≠ .reset
  | .start other => period ≤ other
  | _ => True

section

variable {timed : TimedCache} {key : CacheKey}

theorem afterAll_append (timed : TimedCache) (events events' : List Event) :
    timed.afterAll (events ++ events') = (timed.afterAll events).afterAll events' :=
  List.foldl_append

theorem lived_append (history events : List Event) :
    lived (history ++ events) = (lived history).afterAll events :=
  afterAll_append empty history events

theorem lived_snoc (history : List Event) (event : Event) :
    lived (history ++ [event]) = (lived history).after event :=
  lived_append history [event]

theorem idle_append {events events' : List Event} : Idle key timed (events ++ events') ↔
    Idle key timed events ∧ Idle key (timed.afterAll events) events' := by
  induction events generalizing timed with
  | nil => simp [Idle, afterAll]
  | cons event events inductionHypothesis =>
      rw [List.cons_append, Idle, Idle, inductionHypothesis, and_assoc]
      rfl

@[simp] theorem now_pass (timed : TimedCache) (duration : Nat) :
    (timed.pass duration).now = timed.now + duration := by
  rw [pass]
  split <;> rfl

theorem now_le_after (timed : TimedCache) (event : Event) :
    timed.now ≤ (timed.after event).now := by
  cases event with
  | operate operation => exact Nat.le_refl _
  | start period => exact Nat.le_refl _
  | pass duration =>
      rw [after, now_pass]
      exact Nat.le_add_right _ _
  | approach duration => exact Nat.le_add_right_of_le (Nat.le_add_right _ _)

theorem now_le_afterAll (timed : TimedCache) (events : List Event) :
    timed.now ≤ (timed.afterAll events).now := by
  induction events generalizing timed with
  | nil => exact Nat.le_refl _
  | cons event events inductionHypothesis =>
      exact Nat.le_trans (timed.now_le_after event) (inductionHypothesis _)

/-! ### The next sweep lies ahead -/

/-- The invariant of caches on a clock: no key stands in them twice, and the next sweep is at most
one period ahead and not behind. -/
structure InOrder (timed : TimedCache) : Prop where
  distinct : timed.cache.Distinct
  ahead : ∀ sweeper ∈ timed.sweeper, 0 < sweeper.period → timed.now ≤ sweeper.next
  soon : ∀ sweeper ∈ timed.sweeper, sweeper.next ≤ timed.now + sweeper.period

namespace InOrder

theorem empty : InOrder empty where
  distinct := .empty
  ahead := by simp [TimedCache.empty]
  soon := by simp [TimedCache.empty]

theorem start (inOrder : timed.InOrder) (period : Nat) : (timed.startSweeper period).InOrder where
  distinct := inOrder.distinct
  ahead := by
    intro sweeper running _
    cases running
    exact Nat.le_add_right _ _
  soon := by
    intro sweeper running
    cases running
    exact Nat.le_refl _

/-- When time has passed, the next sweep lies strictly ahead. -/
theorem pass (inOrder : timed.InOrder) (duration : Nat) :
    (timed.pass duration).InOrder
      ∧ ∀ sweeper ∈ (timed.pass duration).sweeper, 0 < sweeper.period →
        timed.now + duration < sweeper.next := by
  obtain ⟨cache, now, running⟩ := timed
  cases running with
  | none =>
      refine ⟨⟨inOrder.distinct, ?_, ?_⟩, ?_⟩ <;> intro sweeper running <;> cases running
  | some sweeper =>
      have strictly : 0 < sweeper.period →
          now + duration < (sweeper.advance (now + duration)).next :=
        fun positive => Sweeper.lt_next_advance positive _
      have soon : sweeper.next ≤ now + duration + sweeper.period := by
        have before : sweeper.next ≤ now + sweeper.period := inOrder.soon sweeper rfl
        omega
      refine ⟨⟨?_, ?_, ?_⟩, ?_⟩
      · exact Sweeper.sweeps_induction _ (motive := fun cache _ => cache.Distinct)
          (fun _ _ _ distinct => distinct.swept) inOrder.distinct
      · intro _ running positive
        cases running
        exact Nat.le_of_lt (strictly positive)
      · intro _ running
        cases running
        exact Sweeper.next_advance_le soon
      · intro _ running positive
        cases running
        exact strictly positive

/-- One event keeps caches on a clock in order. -/
theorem after (inOrder : timed.InOrder) (event : Event) : (timed.after event).InOrder := by
  cases event with
  | operate operation =>
      exact ⟨inOrder.distinct.after operation, inOrder.ahead, inOrder.soon⟩
  | start period => exact inOrder.start period
  | pass duration => exact (inOrder.pass duration).1
  | approach duration =>
      obtain ⟨passed, strictly⟩ := inOrder.pass duration
      refine ⟨passed.distinct, strictly, ?_⟩
      intro sweeper running
      have soon := passed.soon sweeper running
      rw [now_pass] at soon
      change sweeper.next ≤ timed.now + duration + 1 + sweeper.period
      omega

theorem afterAll (inOrder : timed.InOrder) (events : List Event) :
    (timed.afterAll events).InOrder := by
  induction events generalizing timed with
  | nil => exact inOrder
  | cons event events inductionHypothesis => exact inductionHypothesis (inOrder.after event)

theorem lived (history : List Event) : (lived history).InOrder :=
  empty.afterAll history

end InOrder

/-! ### The time that an entry has left -/

/-- The entry under a key is there, and goes at a time or later. -/
def StaysUntil (time : Nat) (key : CacheKey) (timed : TimedCache) : Prop :=
  ∃ entry, timed.cache.entry? key = some entry
    ∧ ∀ sweeper ∈ timed.sweeper, time ≤ sweeper.dropsAt entry

/-- The entry under a key, if there is one, goes at a time or before. -/
def GoesBy (time : Nat) (key : CacheKey) (timed : TimedCache) : Prop :=
  ∃ sweeper, timed.sweeper = some sweeper ∧ 0 < sweeper.period
    ∧ ∀ entry ∈ timed.cache.entry? key, sweeper.dropsAt entry ≤ time

namespace StaysUntil

variable {time period : Nat}

/-- A mark that is set puts the end off. -/
theorem marked {entry : CacheEntry} {sweeper : Sweeper}
    (later : time ≤ sweeper.dropsAt entry) : time ≤ sweeper.dropsAt entry.marked := by
  refine Nat.le_trans later ?_
  rw [Sweeper.dropsAt, Sweeper.dropsAt]
  split
  · exact Nat.le_refl _
  · exact Nat.le_add_right _ _

/-- An operation that drops nothing leaves the entry its time, or gives it more. -/
theorem operate (stays : timed.StaysUntil time key) (distinct : timed.cache.Distinct)
    {operation : RuleCache.Operation} (noSweep : operation ≠ .sweep)
    (noReset : operation ≠ .reset) :
    StaysUntil time key { timed with cache := timed.cache.after operation } := by
  obtain ⟨entry, found, later⟩ := stays
  have changed := RuleCache.entry?_after distinct key operation
  rw [found] at changed
  cases operation with
  | set other rule =>
      rw [RuleCache.entryAfter] at changed
      split at changed
      · refine ⟨_, changed, fun sweeper running => ?_⟩
        exact Nat.le_trans (marked (later sweeper running)) (Nat.le_refl _)
      · exact ⟨_, changed, later⟩
  | get other =>
      rw [RuleCache.entryAfter] at changed
      split at changed
      · exact ⟨_, changed, fun sweeper running => marked (later sweeper running)⟩
      · exact ⟨_, changed, later⟩
  | has other => exact ⟨_, changed, later⟩
  | sweep => exact absurd rfl noSweep
  | reset => exact absurd rfl noReset

/-- Sweeps before the time at which the entry goes leave it. -/
theorem pass (stays : timed.StaysUntil time key) (distinct : timed.cache.Distinct) {duration : Nat}
    (early : timed.now + duration < time) : (timed.pass duration).StaysUntil time key := by
  obtain ⟨cache, now, running⟩ := timed
  cases running with
  | none => exact stays
  | some sweeper =>
      obtain ⟨entry, found, later⟩ := stays
      have swept := Sweeper.sweeps_induction (now + duration)
        (motive := fun cache sweeper => cache.Distinct
          ∧ ∃ entry, cache.entry? key = some entry ∧ time ≤ sweeper.dropsAt entry)
        (by
          rintro cache sweeper isDue ⟨distinct, entry, found, later⟩
          obtain ⟨left, kept⟩ := Sweeper.exists_swept
            (Nat.lt_of_le_of_lt isDue (Nat.lt_of_lt_of_le early later))
          refine ⟨distinct.swept, left, ?_, ?_⟩
          · rw [RuleCache.entry?_swept distinct, found, Option.bind_some, kept]
          · rw [Sweeper.dropsAt_swept kept]
            exact later)
        ⟨distinct, entry, found, later sweeper rfl⟩
      obtain ⟨_, left, found, later⟩ := swept
      refine ⟨left, found, fun _ running => ?_⟩
      cases running
      exact later

/-- One event, before the time at which the entry goes. -/
theorem after (stays : timed.StaysUntil time key) (inOrder : timed.InOrder) {event : Event}
    (mild : event.Mild period) (recent : time ≤ timed.now + period)
    (early : (timed.after event).now < time) : (timed.after event).StaysUntil time key := by
  cases event with
  | operate operation => exact stays.operate inOrder.distinct mild.1 mild.2
  | start other =>
      obtain ⟨entry, found, _⟩ := stays
      refine ⟨entry, found, fun sweeper running => ?_⟩
      cases running
      have slow : period ≤ other := mild
      rw [Sweeper.dropsAt, Sweeper.start]
      split
      · simp only
        omega
      · simp only
        omega
  | pass duration =>
      rw [TimedCache.after, now_pass] at early
      exact stays.pass inOrder.distinct early
  | approach duration => exact stays.pass inOrder.distinct (Nat.lt_of_succ_lt early)

/-- Events of any number, up to a moment before the time at which the entry goes. -/
theorem afterAll (stays : timed.StaysUntil time key) (inOrder : timed.InOrder)
    {events : List Event} (mild : ∀ event ∈ events, event.Mild period)
    (recent : time ≤ timed.now + period) (early : (timed.afterAll events).now < time) :
    (timed.afterAll events).StaysUntil time key := by
  induction events generalizing timed with
  | nil => exact stays
  | cons event events inductionHypothesis =>
      have next := now_le_after timed event
      have soon := Nat.lt_of_le_of_lt (now_le_afterAll (timed.after event) events) early
      have step := stays.after inOrder (mild event List.mem_cons_self) recent soon
      exact inductionHypothesis step (inOrder.after event)
        (fun other member => mild other (List.mem_cons_of_mem event member)) (by omega) early

end StaysUntil

namespace GoesBy

variable {time : Nat}

/-- An operation that is no use gives the entry no more time. -/
theorem operate (goes : timed.GoesBy time key) (distinct : timed.cache.Distinct)
    {operation : RuleCache.Operation} (noUse : ¬ Uses key timed (.operate operation)) :
    GoesBy time key { timed with cache := timed.cache.after operation } := by
  obtain ⟨sweeper, running, positive, sooner⟩ := goes
  refine ⟨sweeper, running, positive, fun left found => ?_⟩
  rw [Option.mem_def, RuleCache.entry?_after distinct key operation] at found
  cases operation with
  | set other rule =>
      have apart : other ≠ key := noUse
      rw [RuleCache.entryAfter, if_neg apart] at found
      exact sooner left found
  | get other =>
      rw [RuleCache.entryAfter] at found
      split at found
      · next same =>
        obtain ⟨entry, present, _⟩ := Option.map_eq_some_iff.mp found
        refine absurd ⟨same, ?_⟩ noUse
        change (timed.cache.get key).1.isSome = true
        rw [RuleCache.get, present]
        rfl
      · exact sooner left found
  | has other => exact sooner left found
  | sweep =>
      obtain ⟨entry, present, kept⟩ := Option.bind_eq_some_iff.mp found
      refine Nat.le_trans ?_ (sooner entry present)
      rw [← Sweeper.dropsAt_swept kept, Sweeper.dropsAt, Sweeper.dropsAt]
      split
      · exact Nat.add_le_add_right (Nat.le_add_right _ _) _
      · exact Nat.le_add_right _ _
  | reset => cases found

/-- Time that passes does not put off the time at which the entry goes. -/
theorem pass (goes : timed.GoesBy time key) (distinct : timed.cache.Distinct) (duration : Nat) :
    (timed.pass duration).GoesBy time key := by
  obtain ⟨sweeper, running, positive, sooner⟩ := goes
  obtain ⟨cache, now, _⟩ := timed
  cases running
  have swept := Sweeper.sweeps_induction (now + duration)
    (motive := fun cache sweeper => cache.Distinct
      ∧ ∀ entry ∈ cache.entry? key, sweeper.dropsAt entry ≤ time)
    (by
      rintro cache sweeper _ ⟨distinct, sooner⟩
      refine ⟨distinct.swept, fun left found => ?_⟩
      rw [Option.mem_def, RuleCache.entry?_swept distinct] at found
      obtain ⟨entry, present, kept⟩ := Option.bind_eq_some_iff.mp found
      rw [Sweeper.dropsAt_swept kept]
      exact sooner entry present)
    ⟨distinct, sooner⟩
  exact ⟨_, rfl, positive, swept.2⟩

/-- One event that is no use of the key and starts no other sweeper. -/
theorem after (goes : timed.GoesBy time key) (inOrder : timed.InOrder) {event : Event}
    (noStart : event.isStart = false) (noUse : ¬ Uses key timed event) :
    (timed.after event).GoesBy time key := by
  cases event with
  | operate operation => exact goes.operate inOrder.distinct noUse
  | start period => cases noStart
  | pass duration => exact goes.pass inOrder.distinct duration
  | approach duration => exact goes.pass inOrder.distinct duration

/-- Events of any number none of which uses the key. -/
theorem afterAll (goes : timed.GoesBy time key) (inOrder : timed.InOrder) {events : List Event}
    (noStart : ∀ event ∈ events, event.isStart = false) (idle : timed.Idle key events) :
    (timed.afterAll events).GoesBy time key := by
  induction events generalizing timed with
  | nil => exact goes
  | cons event events inductionHypothesis =>
      have step := goes.after inOrder (noStart event List.mem_cons_self) idle.1
      exact inductionHypothesis step (inOrder.after event)
        (fun other member => noStart other (List.mem_cons_of_mem event member)) idle.2

/-- The entry is gone when the time is over. -/
theorem has_eq_false (goes : timed.GoesBy time key) (inOrder : timed.InOrder)
    (late : time < timed.now) : timed.cache.has key = false := by
  obtain ⟨sweeper, running, positive, sooner⟩ := goes
  rw [RuleCache.has, Option.isSome_eq_false_iff, Option.isNone_iff_eq_none]
  refine Option.eq_none_iff_forall_not_mem.mpr fun entry found => ?_
  have ahead := inOrder.ahead sweeper running positive
  have gone := sooner entry found
  rw [Sweeper.dropsAt] at gone
  split at gone <;> omega

end GoesBy

/-! ### Sweeps on schedule -/

/-- The sweeper that was started at some time has made a number of sweeps, and the next one comes
when one more period has gone by. -/
def OnSchedule (period started : Nat) (timed : TimedCache) : Prop :=
  ∃ made, timed.sweeper = some ⟨started + (made + 1) * period, period⟩
    ∧ started + made * period ≤ timed.now

namespace OnSchedule

variable {period started : Nat}

theorem start (timed : TimedCache) (period : Nat) :
    OnSchedule period timed.now (timed.startSweeper period) := by
  refine ⟨0, ?_, ?_⟩
  · rw [startSweeper, Sweeper.start, Nat.zero_add, Nat.one_mul]
  · rw [Nat.zero_mul]
    exact Nat.le_refl _

theorem pass (onSchedule : timed.OnSchedule period started) (positive : 0 < period)
    (duration : Nat) : (timed.pass duration).OnSchedule period started := by
  obtain ⟨made, running, behind⟩ := onSchedule
  obtain ⟨cache, now, _⟩ := timed
  cases running
  have count : Sweeper.due ⟨started + (made + 1) * period, period⟩ (now + duration)
      = (now + duration - started) / period - made := Sweeper.due_multiple positive _
  refine ⟨made + ((now + duration - started) / period - made), ?_, ?_⟩
  · rw [Nat.add_right_comm made _ 1, Nat.add_mul (made + 1), ← Nat.add_assoc, ← count]
    rfl
  · simp only [now_pass]
    have whole := Nat.div_mul_le_self (now + duration - started) period
    simp only at behind
    rcases Nat.le_total made ((now + duration - started) / period) with more | none
    · rw [Nat.add_sub_cancel' more]
      omega
    · rw [Nat.sub_eq_zero_of_le none, Nat.add_zero]
      omega

theorem after (onSchedule : timed.OnSchedule period started) (positive : 0 < period)
    {event : Event} (noStart : event.isStart = false) :
    (timed.after event).OnSchedule period started := by
  cases event with
  | operate operation => exact onSchedule
  | start other => cases noStart
  | pass duration => exact onSchedule.pass positive duration
  | approach duration =>
      obtain ⟨made, running, behind⟩ := onSchedule.pass positive duration
      refine ⟨made, running, Nat.le_trans behind ?_⟩
      rw [now_pass]
      exact Nat.le_succ _

theorem afterAll (onSchedule : timed.OnSchedule period started) (positive : 0 < period)
    {events : List Event} (noStart : ∀ event ∈ events, event.isStart = false) :
    (timed.afterAll events).OnSchedule period started := by
  induction events generalizing timed with
  | nil => exact onSchedule
  | cons event events inductionHypothesis =>
      exact inductionHypothesis (onSchedule.after positive (noStart event List.mem_cons_self))
        fun other member => noStart other (List.mem_cons_of_mem event member)

end OnSchedule

/-- The sweeps of a sweeper that was started at some time are those that fall on the multiples of
its period from then on, and no others: so many lie behind, and those up to any later time happen
when time passes until then. -/
def SweepsOnTime (period started : Nat) (timed : TimedCache) : Prop :=
  ∃ made, started + made * period ≤ timed.now ∧ timed.now ≤ started + (made + 1) * period
    ∧ ∀ duration, (timed.pass duration).cache
      = timed.cache.sweptTimes ((timed.now + duration - started) / period - made)

theorem OnSchedule.sweepsOnTime {period started : Nat}
    (onSchedule : timed.OnSchedule period started) (inOrder : timed.InOrder)
    (positive : 0 < period) : timed.SweepsOnTime period started := by
  obtain ⟨made, running, behind⟩ := onSchedule
  refine ⟨made, behind, inOrder.ahead _ running positive, fun duration => ?_⟩
  rw [← Sweeper.due_multiple positive, TimedCache.pass, running]

/-- Whenever a sweeper is started, in place of which other one ever, its sweeps are on time as long
as it is not replaced. -/
theorem sweepsOnTime_of_start {period : Nat} (positive : 0 < period) (history : List Event)
    {further : List Event} (noStart : ∀ event ∈ further, event.isStart = false) :
    (lived (history ++ .start period :: further)).SweepsOnTime period (lived history).now := by
  have running := (OnSchedule.start (lived history) period).afterAll positive noStart
  have inOrder := InOrder.lived (history ++ .start period :: further)
  rw [lived_append] at inOrder ⊢
  exact running.sweepsOnTime inOrder positive

theorem period_pass {allowed : Nat → Prop}
    (before : ∀ sweeper ∈ timed.sweeper, allowed sweeper.period) (duration : Nat) :
    ∀ sweeper ∈ (timed.pass duration).sweeper, allowed sweeper.period := by
  intro sweeper running
  rw [pass] at running
  split at running
  · exact before sweeper running
  · next old found =>
    cases running
    exact before old found

/-- Where only sweepers of allowed periods are started, the one that runs has such a period. -/
theorem period_lived {allowed : Nat → Prop} {history : List Event}
    (periods : ∀ period, .start period ∈ history → allowed period) :
    ∀ sweeper ∈ (lived history).sweeper, allowed sweeper.period := by
  induction history using List.reverseRecOn with
  | nil => simp [lived, afterAll, empty]
  | append_singleton history event inductionHypothesis =>
      have earlier := inductionHypothesis fun period member => periods period (by simp [member])
      rw [lived_snoc]
      cases event with
      | operate operation => exact earlier
      | start period =>
          intro sweeper running
          cases running
          exact periods period (by simp)
      | pass duration => exact period_pass earlier duration
      | approach duration => exact period_pass earlier duration

/-! ### From one use to the next -/

/-- What a sweeper with this period grants the entry under a key that has just been used. -/
structure Grants (period : Nat) (key : CacheKey) (used : TimedCache) (further : List Event) :
    Prop where
  /-- It is there as long as less than a period has gone by, whether or not the sweeper is replaced
  by others that are no faster. -/
  present : (∀ sweeper ∈ used.sweeper, period ≤ sweeper.period) →
    (∀ event ∈ further, event.Mild period) →
    (used.afterAll further).now < used.now + period →
    (used.afterAll further).cache.has key = true
  /-- Without another use it is gone when more than two periods have gone by. -/
  gone : (∃ next, used.sweeper = some ⟨next, period⟩) →
    (∀ event ∈ further, event.isStart = false) → used.Idle key further →
    used.now + 2 * period < (used.afterAll further).now →
    (used.afterAll further).cache.has key = false

/-- What has been used stands in the cache with its mark, and no time has passed. -/
theorem entry?_of_uses (inOrder : timed.InOrder) {event : Event} (uses : Uses key timed event) :
    ∃ entry, (timed.after event).cache.entry? key = some entry ∧ entry.used = true := by
  cases event with
  | operate operation =>
      have changed := RuleCache.entry?_after inOrder.distinct key operation
      cases operation with
      | set other rule =>
          have same : other = key := uses
          rw [RuleCache.entryAfter, if_pos same] at changed
          exact ⟨_, changed, rfl⟩
      | get other =>
          obtain ⟨same, found⟩ := uses
          change (timed.cache.get key).1.isSome = true at found
          rw [RuleCache.entryAfter, if_pos same] at changed
          rw [RuleCache.get] at found
          split at found
          · next entry present =>
            rw [present] at changed
            exact ⟨_, changed, rfl⟩
          · cases found
      | has other => cases uses
      | sweep => cases uses
      | reset => cases uses
  | start period => cases uses
  | pass duration => cases uses
  | approach duration => cases uses

/-- Whatever a cache has been through, a sweeper grants every entry one period at least and two at
most from its last use on. -/
theorem grants_of_uses {period : Nat} (positive : 0 < period) {history : List Event}
    {event : Event} (uses : Uses key (lived history) event) (further : List Event) :
    Grants period key (lived (history ++ [event])) further := by
  have inOrder := InOrder.lived (history ++ [event])
  obtain ⟨entry, found, used⟩ := entry?_of_uses (InOrder.lived history) uses
  rw [← lived_snoc] at found
  generalize lived (history ++ [event]) = used at inOrder found
  constructor
  case present =>
    intro slow mild early
    have stays : used.StaysUntil (used.now + period) key := by
      refine ⟨entry, found, fun sweeper running => ?_⟩
      have atLeast := slow sweeper running
      have ahead := inOrder.ahead sweeper running (Nat.lt_of_lt_of_le positive atLeast)
      rw [Sweeper.dropsAt_of_used ‹_›]
      omega
    obtain ⟨left, there, _⟩ := stays.afterAll inOrder mild (Nat.le_refl _) early
    rw [RuleCache.has, there]
    rfl
  case gone =>
    rintro ⟨next, running⟩ noStart idle late
    have goes : used.GoesBy (used.now + 2 * period) key := by
      refine ⟨_, running, positive, fun other there => ?_⟩
      have soon : next ≤ used.now + period := inOrder.soon _ running
      rw [Option.mem_def, found] at there
      cases there
      rw [Sweeper.dropsAt_of_used ‹_›]
      simp only
      omega
    exact (goes.afterAll inOrder noStart idle).has_eq_false (inOrder.afterAll further) late

end

end TimedCache

end AccessRules
