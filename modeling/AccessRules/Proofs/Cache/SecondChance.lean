import AccessRules.Proofs.Cache.Entries
import Mathlib.Data.List.Induction
import Mathlib.Data.Set.Card

/-!
# A second chance for every entry

What a cache holds can be told from what has been done with it, without a look at its marks: a key
is in it as long as no two sweeps have passed over it without a use in between. One operation does
to the entry under a key what depends on that entry only; what a whole history does follows by
induction on the history, from its end.
-/

namespace AccessRules

/-- An entry with its mark set. -/
def CacheEntry.marked (entry : CacheEntry) : CacheEntry :=
  { entry with used := true }

/-- The entry that a sweep leaves of an entry: none if it has not been used since the last one. -/
def CacheEntry.swept (entry : CacheEntry) : Option CacheEntry :=
  if entry.used then some { entry with used := false } else none

namespace RuleCache

/-- What can be done with a cache. -/
inductive Operation where
  | set (key : CacheKey) (rule : CachedRule)
  | get (key : CacheKey)
  | has (key : CacheKey)
  | sweep
  | reset

/-- Whether an operation can change what stands under a key. -/
def Operation.concerns (key : CacheKey) : Operation → Bool
  | .set other _ => other == key
  | .get other => other == key
  | .has _ => false
  | .sweep => true
  | .reset => true

/-- The cache after an operation. -/
def after (cache : RuleCache) : Operation → RuleCache
  | .set key rule => cache.set key rule
  | .get key => (cache.get key).2
  | .has _ => cache
  | .sweep => cache.swept
  | .reset => empty

/-- What a new cache has become by operations, one after the other. -/
def built (history : List Operation) : RuleCache :=
  history.foldl after empty

theorem built_append (history history' : List Operation) :
    built (history ++ history') = history'.foldl after (built history) :=
  List.foldl_append

theorem built_snoc (history : List Operation) (operation : Operation) :
    built (history ++ [operation]) = (built history).after operation :=
  built_append history [operation]

/-! ### No key stands in a cache twice -/

/-- The keys of a cache, in the order of its entries. -/
def keys (cache : RuleCache) : List CacheKey := cache.entries.map Prod.fst

/-- No key stands in the cache twice. -/
def Distinct (cache : RuleCache) : Prop := cache.keys.Nodup

theorem keys_markUsed (cache : RuleCache) (key : CacheKey) :
    (cache.markUsed key).keys = cache.keys := by
  rw [keys, keys, markUsed, List.map_map]
  refine List.map_congr_left fun entry _ => ?_
  simp only [Function.comp_apply]
  split <;> rfl

theorem keys_swept (cache : RuleCache) :
    cache.swept.keys = (cache.entries.filter fun entry => entry.2.used).map Prod.fst := by
  rw [keys, swept, sweep, List.map_map]
  rfl

namespace Distinct

variable {cache : RuleCache}

theorem empty : Distinct RuleCache.empty := List.nodup_nil

theorem set (distinct : cache.Distinct) (key : CacheKey) (rule : CachedRule) :
    (cache.set key rule).Distinct := by
  have others : ((without key cache.entries).map Prod.fst).Nodup :=
    distinct.sublist (List.filter_sublist.map _)
  refine List.nodup_cons.mpr ⟨?_, others⟩
  intro member
  obtain ⟨entry, kept, same⟩ := List.mem_map.mp member
  have differs := (List.mem_filter.mp kept).2
  simp [same] at differs

theorem markUsed (distinct : cache.Distinct) (key : CacheKey) : (cache.markUsed key).Distinct := by
  rw [Distinct, keys_markUsed]
  exact distinct

theorem get (distinct : cache.Distinct) (key : CacheKey) : (cache.get key).2.Distinct := by
  rw [RuleCache.get]
  split
  · exact distinct.markUsed key
  · exact distinct

theorem swept (distinct : cache.Distinct) : cache.swept.Distinct := by
  rw [Distinct, keys_swept]
  exact distinct.sublist (List.filter_sublist.map _)

/-- An operation puts no key in twice. -/
theorem after (distinct : cache.Distinct) (operation : Operation) :
    (cache.after operation).Distinct := by
  cases operation with
  | set key rule => exact distinct.set key rule
  | get key => exact distinct.get key
  | has key => exact distinct
  | sweep => exact distinct.swept
  | reset => exact empty

theorem built (history : List Operation) : (built history).Distinct := by
  induction history using List.reverseRecOn with
  | nil => exact empty
  | append_singleton history operation inductionHypothesis =>
      rw [built_snoc]
      exact inductionHypothesis.after operation

/-- What stands under a key is what is found there. -/
theorem entry?_eq_some_iff (distinct : cache.Distinct) {key : CacheKey} {entry : CacheEntry} :
    cache.entry? key = some entry ↔ (key, entry) ∈ cache.entries := by
  constructor
  · intro found
    obtain ⟨before, behind, split, _⟩ := List.lookup_eq_some_iff.mp found
    simp [split]
  · intro member
    obtain ⟨before, behind, split⟩ := List.append_of_mem member
    refine List.lookup_eq_some_iff.mpr ⟨before, behind, split, ?_⟩
    intro other earlier
    rw [Distinct, keys, split, List.map_append, List.nodup_append] at distinct
    have differs := distinct.2.2 other.1 (List.mem_map_of_mem earlier) key (by simp)
    simp [Ne.symm differs]

theorem has_iff (distinct : cache.Distinct) {key : CacheKey} :
    cache.has key = true ↔ key ∈ cache.keys := by
  rw [RuleCache.has, Option.isSome_iff_exists]
  simp only [distinct.entry?_eq_some_iff, keys, List.mem_map]
  constructor
  · rintro ⟨entry, member⟩
    exact ⟨_, member, rfl⟩
  · rintro ⟨⟨_, entry⟩, member, rfl⟩
    exact ⟨entry, member⟩

end Distinct

/-! ### The entry under a key after an operation -/

/-- The entry under a key after an operation, from the one before it. -/
def entryAfter (key : CacheKey) (entry : Option CacheEntry) : Operation → Option CacheEntry
  | .set other rule => if other = key then some ⟨rule, true⟩ else entry
  | .get other => if other = key then entry.map CacheEntry.marked else entry
  | .has _ => entry
  | .sweep => entry.bind CacheEntry.swept
  | .reset => none

section

variable {cache : RuleCache}

theorem entry?_set (distinct : cache.Distinct) (key other : CacheKey) (rule : CachedRule) :
    entry? (cache.set other rule) key
      = if other = key then some ⟨rule, true⟩ else cache.entry? key := by
  refine Option.ext fun entry => ?_
  rw [(distinct.set other rule).entry?_eq_some_iff]
  by_cases same : other = key
  · subst same
    simp [set, without, eq_comm]
  · simp [set, without, same, Ne.symm same, distinct.entry?_eq_some_iff]

theorem entry?_markUsed (cache : RuleCache) (key other : CacheKey) :
    entry? (cache.markUsed other) key
      = if other = key then (cache.entry? key).map CacheEntry.marked else cache.entry? key := by
  obtain ⟨entries⟩ := cache
  simp only [markUsed, entry?]
  induction entries with
  | nil => simp
  | cons entry entries inductionHypothesis =>
      obtain ⟨first, entry⟩ := entry
      by_cases here : key = first
      · subst here
        by_cases same : key = other
        · simp [same, CacheEntry.marked]
        · simp [same, Ne.symm same]
      · have elsewhere : (key == first) = false := beq_false_of_ne here
        rw [List.map_cons]
        split <;> simpa only [List.lookup_cons, elsewhere] using inductionHypothesis

theorem entry?_get (cache : RuleCache) (key other : CacheKey) :
    entry? (cache.get other).2 key
      = if other = key then (cache.entry? key).map CacheEntry.marked else cache.entry? key := by
  rw [get]
  split
  · exact entry?_markUsed cache key other
  · rename_i missing
    by_cases same : other = key
    · subst same
      simp [missing]
    · simp [same]

theorem entry?_swept (distinct : cache.Distinct) (key : CacheKey) :
    cache.swept.entry? key = (cache.entry? key).bind CacheEntry.swept := by
  refine Option.ext fun entry => ?_
  rw [distinct.swept.entry?_eq_some_iff, Option.bind_eq_some_iff]
  simp only [distinct.entry?_eq_some_iff, swept, sweep, List.mem_map, List.mem_filter]
  constructor
  · rintro ⟨old, ⟨member, used⟩, same⟩
    cases same
    exact ⟨old.2, member, by simp [CacheEntry.swept, used]⟩
  · rintro ⟨old, member, left⟩
    rw [CacheEntry.swept] at left
    split at left
    · rename_i used
      cases left
      exact ⟨(key, old), ⟨member, used⟩, rfl⟩
    · cases left

/-- What an operation does to the entry under a key depends on that entry only. -/
theorem entry?_after (distinct : cache.Distinct) (key : CacheKey) (operation : Operation) :
    entry? (cache.after operation) key = entryAfter key (cache.entry? key) operation := by
  cases operation with
  | set other rule => exact entry?_set distinct key other rule
  | get other => exact entry?_get cache key other
  | has other => rfl
  | sweep => exact entry?_swept distinct key
  | reset => rfl

end

/-- What a cache with this history holds under a key. -/
def held (history : List Operation) (key : CacheKey) : Option CacheEntry :=
  entry? (built history) key

theorem held_snoc (history : List Operation) (key : CacheKey) (operation : Operation) :
    held (history ++ [operation]) key
      = entryAfter key (held history key) operation := by
  rw [held, built_snoc]
  exact entry?_after (.built history) key operation

theorem has_built (history : List Operation) (key : CacheKey) :
    (built history).has key = (held history key).isSome :=
  rfl

/-- What is fetched under a key is the rule of its entry. -/
theorem get_built (history : List Operation) (key : CacheKey) :
    ((built history).get key).1 = (held history key).map CacheEntry.cached := by
  rw [held, get]
  split <;> rename_i found <;> rw [found] <;> rfl

/-! ### What the history says of a key -/

/-- Whether an operation on the cache with this history uses a key: it puts a rule under it, or gets
the one that is there. -/
def Uses (key : CacheKey) (history : List Operation) : Operation → Prop
  | .set other _ => other = key
  | .get other => other = key ∧ ((built history).get key).1.isSome = true
  | .has _ => False
  | .sweep => False
  | .reset => False

/-- One of the further operations uses the key. -/
def UsedIn (key : CacheKey) (history further : List Operation) : Prop :=
  ∃ before operation behind, further = before ++ operation :: behind
    ∧ Uses key (history ++ before) operation

/-- Some sweep among the further operations has no use of the key behind it. -/
def Unused (key : CacheKey) (history further : List Operation) : Prop :=
  ∃ before behind, further = before ++ .sweep :: behind
    ∧ ¬ UsedIn key (history ++ before ++ [.sweep]) behind

/-- Any two sweeps among the further operations have a use of the key between them. -/
def Kept (key : CacheKey) (history further : List Operation) : Prop :=
  ∀ before between behind, further = before ++ .sweep :: (between ++ .sweep :: behind) →
    UsedIn key (history ++ before ++ [.sweep]) between

/-- The key was set to this rule by the operation between the earlier and the later ones, and
neither set again nor dropped by a reset. -/
structure LatestSet (key : CacheKey) (rule : CachedRule)
    (history earlier later : List Operation) : Prop where
  split : history = earlier ++ .set key rule :: later
  latest : ∀ other, .set key other ∉ later
  inForce : .reset ∉ later

/-- A list with one more element behind is split at that one, or at an element before it. -/
theorem split_of_snoc {α : Type} {elements before behind : List α} {last element : α}
    (split : elements ++ [last] = before ++ element :: behind) :
    (elements = before ∧ last = element)
      ∨ ∃ rest, behind = rest ++ [last] ∧ elements = before ++ element :: rest := by
  rcases List.eq_nil_or_concat' behind with rfl | ⟨rest, final, rfl⟩
  · exact Or.inl (List.append_singleton_inj.mp split)
  · rw [← List.cons_append, ← List.append_assoc, List.append_singleton_inj] at split
    obtain ⟨split, rfl⟩ := split
    exact Or.inr ⟨rest, rfl, split⟩

section

variable {key : CacheKey} {history further : List Operation} {operation : Operation}

theorem not_usedIn_nil : ¬ UsedIn key history [] := by
  rintro ⟨before, operation, behind, split, _⟩
  simp at split

theorem usedIn_snoc : UsedIn key history (further ++ [operation]) ↔
    UsedIn key history further ∨ Uses key (history ++ further) operation := by
  constructor
  · rintro ⟨before, used, behind, split, uses⟩
    rcases split_of_snoc split with ⟨rfl, rfl⟩ | ⟨rest, _, split⟩
    · exact Or.inr uses
    · exact Or.inl ⟨before, used, rest, split, uses⟩
  · rintro (⟨before, used, behind, rfl, uses⟩ | uses)
    · exact ⟨before, used, behind ++ [operation], by simp, uses⟩
    · exact ⟨further, operation, [], rfl, uses⟩

/-- A sweep makes the key unused, and any other operation leaves it so unless it is a use. -/
theorem unused_snoc : Unused key history (further ++ [operation])
    ↔ operation = .sweep
      ∨ (Unused key history further ∧ ¬ Uses key (history ++ further) operation) := by
  constructor
  · rintro ⟨before, behind, split, unused⟩
    rcases split_of_snoc split with ⟨_, isSweep⟩ | ⟨rest, rfl, rfl⟩
    · exact Or.inl isSweep
    · rw [usedIn_snoc, not_or] at unused
      refine Or.inr ⟨⟨before, rest, rfl, unused.1⟩, ?_⟩
      simpa using unused.2
  · rintro (rfl | ⟨⟨before, behind, rfl, unused⟩, noUse⟩)
    · exact ⟨further, [], rfl, not_usedIn_nil⟩
    · refine ⟨before, behind ++ [operation], by simp, ?_⟩
      rw [usedIn_snoc, not_or]
      exact ⟨unused, by simpa using noUse⟩

/-- Only a sweep drops a key, if it has not been used since another one. -/
theorem kept_snoc : Kept key history (further ++ [operation]) ↔
    Kept key history further ∧ (operation = .sweep → ¬ Unused key history further) := by
  constructor
  · intro kept
    refine ⟨?_, ?_⟩
    · rintro before between behind rfl
      exact kept before between (behind ++ [operation]) (by simp)
    · rintro rfl ⟨before, behind, rfl, unused⟩
      exact unused (kept before behind [] (by simp))
  · rintro ⟨kept, used⟩ before between behind split
    rw [← List.cons_append, ← List.append_assoc] at split
    rcases split_of_snoc split with ⟨rfl, isSweep⟩ | ⟨rest, _, rfl⟩
    · by_contra unused
      exact used isSweep ⟨before, between, rfl, unused⟩
    · exact kept before between rest (by simp)

end

/-- What stands under a key that was set, after further operations: the rule with a mark that tells
whether it has been used since the last sweep, or nothing. -/
inductive Standing (key : CacheKey) (rule : CachedRule) (history further : List Operation) :
    Option CacheEntry → Prop where
  | kept {used : Bool} (kept : Kept key history further)
      (marked : used = true ↔ ¬ Unused key history further) :
      Standing key rule history further (some ⟨rule, used⟩)
  | dropped (dropped : ¬ Kept key history further) : Standing key rule history further none

namespace Standing

variable {key : CacheKey} {rule : CachedRule} {history further : List Operation}
  {entry : Option CacheEntry}

/-- An operation that neither uses the key nor sweeps lets everything stand as it is. -/
theorem unaffected (standing : Standing key rule history further entry) {operation : Operation}
    (noSweep : operation ≠ .sweep) (noUse : ¬ Uses key (history ++ further) operation) :
    Standing key rule history (further ++ [operation]) entry := by
  have keptIff : Kept key history (further ++ [operation]) ↔ Kept key history further := by
    simp [kept_snoc, noSweep]
  have unusedIff : Unused key history (further ++ [operation]) ↔ Unused key history further := by
    simp [unused_snoc, noSweep, noUse]
  cases standing with
  | kept kept marked => exact .kept (keptIff.mpr kept) (by rw [unusedIff]; exact marked)
  | dropped dropped => exact .dropped (keptIff.not.mpr dropped)

/-- A use sets the mark. -/
theorem used (standing : Standing key rule history further entry) {operation : Operation}
    (noSweep : operation ≠ .sweep) (use : Uses key (history ++ further) operation) :
    Standing key rule history (further ++ [operation]) (entry.map CacheEntry.marked) := by
  have keptIff : Kept key history (further ++ [operation]) ↔ Kept key history further := by
    simp [kept_snoc, noSweep]
  cases standing with
  | kept kept marked =>
      refine .kept (keptIff.mpr kept) ?_
      simp [unused_snoc, noSweep, use]
  | dropped dropped => exact .dropped (keptIff.not.mpr dropped)

/-- A sweep takes the mark, or drops the rule if the mark has been taken before. -/
theorem swept (standing : Standing key rule history further entry) :
    Standing key rule history (further ++ [.sweep]) (entry.bind CacheEntry.swept) := by
  cases standing with
  | @kept used kept marked =>
      cases used with
      | true =>
          refine .kept (kept_snoc.mpr ⟨kept, fun _ => marked.mp rfl⟩) ?_
          simp [unused_snoc]
      | false =>
          refine .dropped fun stillKept => ?_
          exact absurd (marked.mpr ((kept_snoc.mp stillKept).2 rfl)) (by simp)
  | dropped dropped => exact .dropped fun kept => dropped (kept_snoc.mp kept).1

/-- One operation that is no set of the key and no reset. -/
theorem after (standing : Standing key rule history further entry) {operation : Operation}
    (found : held (history ++ further) key = entry)
    (noSet : ∀ other, operation ≠ .set key other) (noReset : operation ≠ .reset) :
    Standing key rule history (further ++ [operation]) (entryAfter key entry operation) := by
  cases operation with
  | set other rule' =>
      have differs : other ≠ key := by
        rintro rfl
        exact noSet rule' rfl
      rw [entryAfter, if_neg differs]
      exact standing.unaffected (by simp) differs
  | get other =>
      by_cases same : other = key
      · rw [entryAfter, if_pos same]
        cases entry with
        | none =>
            refine standing.unaffected (by simp) fun uses => ?_
            simpa [get_built, found] using uses.2
        | some entry => exact standing.used (by simp) ⟨same, by simp [get_built, found]⟩
      · rw [entryAfter, if_neg same]
        exact standing.unaffected (by simp) fun uses => same uses.1
  | has other => exact standing.unaffected (by simp) id
  | sweep => exact standing.swept
  | reset => exact absurd rfl noReset

/-- What a history leaves under a key from its latest set on. -/
theorem of_latestSet {earlier later : List Operation}
    (latest : LatestSet key rule history earlier later) :
    Standing key rule (earlier ++ [.set key rule]) later (held history key) := by
  obtain ⟨split, noSet, noReset⟩ := latest
  rw [List.append_cons] at split
  subst split
  induction later using List.reverseRecOn with
  | nil =>
      rw [List.append_nil, held_snoc, entryAfter, if_pos rfl]
      refine .kept (fun before between behind split => ?_) ?_
      · simp at split
      · simp [Unused]
  | append_singleton later operation inductionHypothesis =>
      have standing := inductionHypothesis (fun other earlier => noSet other (by simp [earlier]))
        fun earlier => noReset (by simp [earlier])
      rw [← List.append_assoc, held_snoc]
      refine standing.after rfl (fun other same => noSet other (by simp [same])) fun same => ?_
      exact noReset (by simp [same])

end Standing

/-- What stands under a key after an operation has just been set, or something stood there. -/
theorem exists_of_entryAfter {key : CacheKey} {entry : Option CacheEntry} {operation : Operation}
    {left : CacheEntry} (found : entryAfter key entry operation = some left) :
    (∃ rule, operation = .set key rule)
      ∨ ((∀ rule, operation ≠ .set key rule) ∧ operation ≠ .reset ∧ ∃ old, entry = some old) := by
  cases operation with
  | set other rule =>
      by_cases same : other = key
      · exact Or.inl ⟨rule, by rw [same]⟩
      · rw [entryAfter, if_neg same] at found
        refine Or.inr ⟨fun rule' isSet => ?_, by simp, left, found⟩
        cases isSet
        exact same rfl
  | get other =>
      refine Or.inr ⟨by simp, by simp, ?_⟩
      rw [entryAfter] at found
      split at found
      · obtain ⟨old, present, _⟩ := Option.map_eq_some_iff.mp found
        exact ⟨old, present⟩
      · exact ⟨left, found⟩
  | has other => exact Or.inr ⟨by simp, by simp, left, found⟩
  | sweep =>
      obtain ⟨old, present, _⟩ := Option.bind_eq_some_iff.mp found
      exact Or.inr ⟨by simp, by simp, old, present⟩
  | reset => cases found

/-- A key that is in the cache has been set since the last reset. -/
theorem exists_latestSet {history : List Operation} {key : CacheKey} {entry : CacheEntry}
    (found : held history key = some entry) :
    ∃ rule earlier later, LatestSet key rule history earlier later := by
  induction history using List.reverseRecOn generalizing entry with
  | nil => cases found
  | append_singleton history operation inductionHypothesis =>
      rw [held_snoc] at found
      rcases exists_of_entryAfter found with ⟨rule, rfl⟩ | ⟨noSet, noReset, old, present⟩
      · exact ⟨rule, history, [], rfl, by simp, by simp⟩
      · obtain ⟨rule, earlier, later, split, latest, inForce⟩ := inductionHypothesis present
        refine ⟨rule, earlier, later ++ [operation], by simp [split], ?_, ?_⟩
        · intro other member
          rcases List.mem_append.mp member with before | last
          · exact latest other before
          · exact noSet other (List.mem_singleton.mp last).symm
        · intro member
          rcases List.mem_append.mp member with before | last
          · exact inForce before
          · exact noReset (List.mem_singleton.mp last).symm

/-- What does not concern a key leaves its entry as it is. -/
theorem entryAfter_of_not_concerns {key : CacheKey} {operation : Operation}
    (apart : operation.concerns key = false) (entry : Option CacheEntry) :
    entryAfter key entry operation = entry := by
  cases operation with
  | set other rule | get other =>
      rw [Operation.concerns, beq_eq_false_iff_ne] at apart
      exact if_neg apart
  | has other => rfl
  | sweep | reset => cases apart

/-- What stands under a key depends on the operations that concern it only. -/
theorem held_filter (history : List Operation) (key : CacheKey) :
    held (history.filter (·.concerns key)) key = held history key := by
  induction history using List.reverseRecOn with
  | nil => rfl
  | append_singleton history operation inductionHypothesis =>
      rw [held_snoc, List.filter_append]
      cases concerns : operation.concerns key with
      | true =>
          rw [List.filter_cons_of_pos concerns, List.filter_nil, held_snoc,
            inductionHypothesis]
      | false =>
          rw [List.filter_cons_of_neg (by simp [concerns]), List.filter_nil, List.append_nil,
            inductionHypothesis, entryAfter_of_not_concerns concerns]

/-! ### Counting keys -/

/-- The number of elements of a list in which none stands twice. -/
theorem encard_setOf_mem {α : Type} [DecidableEq α] {elements : List α}
    (nodup : elements.Nodup) : {element | element ∈ elements}.encard = elements.length := by
  rw [← List.coe_toFinset, Set.encard_coe_eq_coe_finsetCard, List.toFinset_card_of_nodup nodup]

theorem Distinct.encard_present {cache : RuleCache} (distinct : cache.Distinct) :
    {key | cache.has key = true}.encard = cache.size := by
  simp only [distinct.has_iff]
  rw [encard_setOf_mem distinct, keys, List.length_map, size]

/-- The keys that go with a sweep are those of the entries without a mark. -/
theorem Distinct.dropped_iff {cache : RuleCache} (distinct : cache.Distinct) {key : CacheKey} :
    cache.has key = true ∧ cache.swept.has key = false ↔
      key ∈ (cache.entries.filter fun entry => !entry.2.used).map Prod.fst := by
  rw [has, has, entry?_swept distinct]
  simp only [List.mem_map, List.mem_filter]
  constructor
  · rintro ⟨present, gone⟩
    obtain ⟨entry, found⟩ := Option.isSome_iff_exists.mp present
    refine ⟨(key, entry), ⟨distinct.entry?_eq_some_iff.mp found, ?_⟩, rfl⟩
    simpa [found, CacheEntry.swept] using gone
  · rintro ⟨⟨_, entry⟩, ⟨member, unused⟩, rfl⟩
    rw [distinct.entry?_eq_some_iff.mpr member]
    simpa [CacheEntry.swept] using unused

theorem Distinct.encard_dropped {cache : RuleCache} (distinct : cache.Distinct) :
    {key | cache.has key = true ∧ cache.swept.has key = false}.encard = cache.sweep.1 := by
  simp only [distinct.dropped_iff]
  rw [encard_setOf_mem (distinct.sublist (List.filter_sublist.map _)), List.length_map, sweep]
  have parts := cache.entries.length_eq_length_filter_add fun entry => entry.2.used
  congr 1
  omega

/-- The cache with this history is a second-chance cache under this key. -/
structure SecondChance (history : List Operation) (key : CacheKey) : Prop where
  /-- The key is in the cache if it has been set since the last reset and, from the latest set on,
  no two sweeps went by without a use between them. -/
  present : (built history).has key = true ↔ ∃ rule earlier later,
    LatestSet key rule history earlier later ∧ Kept key (earlier ++ [.set key rule]) later
  /-- As long as it is there, the rule of the latest set is fetched. -/
  fetched : ∀ rule earlier later, LatestSet key rule history earlier later →
    (built history).has key = true → ((built history).get key).1 = some rule
  /-- Operations on other keys and asking for this one leave everything under it as it is. -/
  apart : held (history.filter (·.concerns key)) key = held history key
  /-- A sweep tells how many keys were in the cache before it and are not in it after it. -/
  dropped : {other | (built history).has other = true
    ∧ (built (history ++ [.sweep])).has other = false}.encard = (built history).sweep.1
  /-- The size is the number of keys in the cache. -/
  size : {other | (built history).has other = true}.encard = (built history).size

/-- After any operations, a cache gives every key its second chance. -/
theorem secondChance_of_history (history : List Operation) (key : CacheKey) :
    SecondChance history key := by
  refine ⟨⟨?there, ?kept⟩, ?fetched, held_filter history key, ?dropped,
    (Distinct.built history).encard_present⟩
  case there =>
    intro present
    rw [has_built] at present
    obtain ⟨entry, found⟩ := Option.isSome_iff_exists.mp present
    obtain ⟨rule, earlier, later, latest⟩ := exists_latestSet found
    have standing := Standing.of_latestSet latest
    rw [found] at standing
    cases standing with
    | kept kept _ => exact ⟨rule, earlier, later, latest, kept⟩
  case kept =>
    rintro ⟨rule, earlier, later, latest, kept⟩
    have standing := Standing.of_latestSet latest
    rw [has_built]
    cases found : held history key with
    | some entry => rfl
    | none =>
        rw [found] at standing
        cases standing with
        | dropped dropped => exact absurd kept dropped
  case fetched =>
    intro rule earlier later latest present
    rw [has_built] at present
    obtain ⟨entry, found⟩ := Option.isSome_iff_exists.mp present
    have standing := Standing.of_latestSet latest
    rw [found] at standing
    rw [get_built, found]
    cases standing with
    | kept _ _ => rfl
  case dropped =>
    rw [built_snoc]
    exact (Distinct.built history).encard_dropped

end RuleCache

end AccessRules
