import Algorandscout.Library.OrderedDict
import Mathlib.Algebra.Order.Field.Rat
import Mathlib.Tactic.Linarith

namespace Algorandscout

open Library

/-!
# The TTL cache

`TTLCache` of `cache.py`.  Every method that reads the clock takes the reading as an argument,
and the methods are atomic (each runs under the lock).  `None` is a legal value, so a stored
value is an `Option`; `get` answers `none` both for a miss and for a stored `None`.

* `TTLCache` — the table, the counters, and the bound the eviction loop keeps, as a field;
* `get`, `set`, `clear` — the methods, with `get_cases` and `set_data` as their inversion lemmas;
* `live` — the entry a `get` would hit;
* `getOrFetch` — `get_or_fetch` as one task sees it when nothing runs in between.
-/

/-- Per-kind time-to-live, in seconds.  What changes per round is deliberately not listed. -/
def ttlTable : List (String × ℚ) :=
  [("block", 3600), ("transaction", 3600), ("asset", 300), ("application", 300)]

/-- `TTL_SECONDS.get(kind)`. -/
def ttlSeconds (kind : String) : Option ℚ := ttlTable.lookup kind

def maxEntriesPerKind : ℕ := 2048

structure CacheStats where
  hits : ℕ := 0
  misses : ℕ := 0
  evictions : ℕ := 0
  expirations : ℕ := 0
  deriving DecidableEq, Repr

/-- `hit_rate`. -/
def CacheStats.hitRate (s : CacheStats) : ℚ :=
  let total := s.hits + s.misses
  if total ≠ 0 then s.hits / total else 0

/-- A kind and a key of that kind. -/
abbrev CacheKey := String × String

/-- The cache between two calls. -/
structure TTLCache (V : Type) where
  /-- The entries: when each was stored, and its value. -/
  data : OrderedDict CacheKey (ℚ × Option V)
  max : ℕ
  stats : CacheStats
  bounded : OrderedDict.length data ≤ max

namespace TTLCache

variable {V : Type}

/-- `TTLCache(max_entries)`. -/
def new (maxEntries : ℕ := maxEntriesPerKind) : TTLCache V where
  data := ∅
  max := maxEntries
  stats := {}
  bounded := Nat.zero_le _

/-- `len(cache)`. -/
def len (c : TTLCache V) : ℕ := OrderedDict.length c.data

/-- `get`.  An entry that has outlived its kind's TTL is deleted on the way. -/
def get (c : TTLCache V) (now : ℚ) (kind key : String) : Option V × TTLCache V :=
  match ttlSeconds kind with
  | none => (none, c)
  | some ttl =>
    match c.data.lookup (kind, key) with
    | none => (none, { c with stats := { c.stats with misses := c.stats.misses + 1 } })
    | some (storedAt, value) =>
      -- Expiry is lazy: an entry goes when it is read, not when its time is up.
      if now - storedAt > ttl then
        (none, { c with
          data := c.data.erase (kind, key)
          stats := { c.stats with
            expirations := c.stats.expirations + 1, misses := c.stats.misses + 1 }
          bounded := by
            rw [OrderedDict.length_erase]
            have := c.bounded
            split <;> omega })
      else
        (value, { c with
          data := OrderedDict.moveToEnd c.data (kind, key)
          stats := { c.stats with hits := c.stats.hits + 1 }
          bounded := by rw [OrderedDict.length_moveToEnd]; exact c.bounded })

/-- `set`.  A kind with no declared TTL is refused. -/
def set (c : TTLCache V) (now : ℚ) (kind key : String) (value : Option V) : TTLCache V :=
  if ttlSeconds kind = none then c
  else
    -- An overwrite keeps its place in the dict, so the entry is moved to the end in any case.
    let assigned := OrderedDict.setItem c.data (kind, key) (now, value)
    let evicted := OrderedDict.evict c.max (OrderedDict.moveToEnd assigned (kind, key))
    { c with
      data := evicted.1
      stats := { c.stats with evictions := c.stats.evictions + evicted.2 }
      bounded := OrderedDict.length_evict_le _ _ }

/-- `clear`. -/
def clear (c : TTLCache V) : TTLCache V :=
  { c with data := ∅, bounded := Nat.zero_le _ }

/-- `get_or_fetch` when no other task runs during the fetch: the cached value, else what the
    fetch gives, stored at the time it came back. -/
def getOrFetch {ε : Type} (c : TTLCache V) (readAt storedAt : ℚ) (kind key : String)
    (fetch : Except ε (Option V)) : Except ε (Option V) × TTLCache V :=
  match c.get readAt kind key with
  | (some hit, c') => (.ok (some hit), c')
  | (none, c') =>
    match fetch with
    -- The exception leaves before the `set`.
    | .error e => (.error e, c')
    | .ok value => (.ok value, c'.set storedAt kind key value)

theorem getOrFetch_of_hit {ε : Type} {c : TTLCache V} {readAt : ℚ} {kind key : String} {hit : V}
    (h : (c.get readAt kind key).1 = some hit) (storedAt : ℚ) (fetch : Except ε (Option V)) :
    c.getOrFetch readAt storedAt kind key fetch = (.ok (some hit), (c.get readAt kind key).2) := by
  unfold getOrFetch
  rw [← Prod.mk.eta (p := c.get readAt kind key), h]

theorem getOrFetch_of_raise {ε : Type} {c : TTLCache V} {readAt : ℚ} {kind key : String}
    (h : (c.get readAt kind key).1 = none) (storedAt : ℚ) (exc : ε) :
    c.getOrFetch readAt storedAt kind key (.error exc) =
      (.error exc, (c.get readAt kind key).2) := by
  unfold getOrFetch
  rw [← Prod.mk.eta (p := c.get readAt kind key), h]

theorem getOrFetch_of_miss {ε : Type} {c : TTLCache V} {readAt : ℚ} {kind key : String}
    (h : (c.get readAt kind key).1 = none) (storedAt : ℚ) (value : Option V) :
    c.getOrFetch (ε := ε) readAt storedAt kind key (.ok value) =
      (.ok value, (c.get readAt kind key).2.set storedAt kind key value) := by
  unfold getOrFetch
  rw [← Prod.mk.eta (p := c.get readAt kind key), h]

/-! ### What the methods do -/

/-- The entry of `p` that a `get` at time `now` would hit. -/
def live (c : TTLCache V) (now : ℚ) (p : CacheKey) : Option (ℚ × Option V) :=
  match ttlSeconds p.1, c.data.lookup p with
  | some ttl, some entry => if now - entry.1 > ttl then none else some entry
  | _, _ => none

theorem live_eq_some_iff {c : TTLCache V} {now : ℚ} {p : CacheKey} {entry : ℚ × Option V} :
    c.live now p = some entry ↔
      c.data.lookup p = some entry ∧ ∃ ttl, ttlSeconds p.1 = some ttl ∧ now - entry.1 ≤ ttl := by
  unfold live
  cases hk : ttlSeconds p.1 with
  | none => simp
  | some ttl =>
    cases hl : c.data.lookup p with
    | none => simp
    | some found =>
      by_cases hexp : now - found.1 > ttl
      · simp only [hexp, ↓reduceIte, Option.some.injEq]
        refine ⟨fun h => by simp at h, ?_⟩
        rintro ⟨rfl, _, rfl, hle⟩
        exact absurd hexp (not_lt.mpr hle)
      · simp only [hexp, ↓reduceIte, Option.some.injEq]
        refine ⟨fun h => ⟨h, ttl, rfl, h ▸ not_lt.mp hexp⟩, fun h => h.1⟩

/-- The ways a `get` may go, each with what it answers and what it leaves. -/
inductive GetCase (c : TTLCache V) (now : ℚ) (kind key : String) : Prop where
  /-- The kind has no TTL: the cache is left alone. -/
  | refused (no_ttl : ttlSeconds kind = none)
      (live_eq : c.live now (kind, key) = none)
      (get_eq : c.get now kind key = (none, c))
  /-- There is no entry: a miss is counted. -/
  | absent (ttl : ℚ) (ttl_eq : ttlSeconds kind = some ttl)
      (lookup_eq : c.data.lookup (kind, key) = none)
      (live_eq : c.live now (kind, key) = none)
      (answer_eq : (c.get now kind key).1 = none)
      (data_eq : (c.get now kind key).2.data = c.data)
      (stats_eq : (c.get now kind key).2.stats =
        { c.stats with misses := c.stats.misses + 1 })
  /-- The entry has expired: it is deleted, and a miss is counted. -/
  | expired (ttl : ℚ) (entry : ℚ × Option V) (ttl_eq : ttlSeconds kind = some ttl)
      (lookup_eq : c.data.lookup (kind, key) = some entry)
      (age : ttl < now - entry.1)
      (live_eq : c.live now (kind, key) = none)
      (answer_eq : (c.get now kind key).1 = none)
      (data_eq : (c.get now kind key).2.data = c.data.erase (kind, key))
      (stats_eq : (c.get now kind key).2.stats = { c.stats with
        expirations := c.stats.expirations + 1, misses := c.stats.misses + 1 })
  /-- The entry is live: it is answered and moved to the end. -/
  | hit (ttl : ℚ) (entry : ℚ × Option V) (ttl_eq : ttlSeconds kind = some ttl)
      (lookup_eq : c.data.lookup (kind, key) = some entry)
      (age : now - entry.1 ≤ ttl)
      (live_eq : c.live now (kind, key) = some entry)
      (answer_eq : (c.get now kind key).1 = entry.2)
      (data_eq : (c.get now kind key).2.data = c.data.insert (kind, key) entry)
      (stats_eq : (c.get now kind key).2.stats = { c.stats with hits := c.stats.hits + 1 })

/-- **What a `get` can do.** -/
theorem get_cases (c : TTLCache V) (now : ℚ) (kind key : String) : GetCase c now kind key := by
  cases hk : ttlSeconds kind with
  | none => apply GetCase.refused hk <;> simp [live, get, hk]
  | some ttl =>
    cases hl : c.data.lookup (kind, key) with
    | none => apply GetCase.absent ttl hk hl <;> simp [live, get, hk, hl]
    | some entry =>
      by_cases hexp : now - entry.1 > ttl
      · apply GetCase.expired ttl entry hk hl hexp <;> simp [live, get, hk, hl, hexp]
      · have hmoved := OrderedDict.moveToEnd_of_lookup hl
        apply GetCase.hit ttl entry hk hl (not_lt.mp hexp) <;>
          simp [live, get, hk, hl, hexp, hmoved]

@[simp] theorem get_max (c : TTLCache V) (now : ℚ) (kind key : String) :
    (c.get now kind key).2.max = c.max := by
  unfold get
  repeat' split
  all_goals rfl

@[simp] theorem set_max (c : TTLCache V) (now : ℚ) (kind key : String) (value : Option V) :
    (c.set now kind key value).max = c.max := by
  unfold set
  split <;> rfl

/-- **What a `get` answers**: the value of the live entry. -/
theorem get_fst (c : TTLCache V) (now : ℚ) (kind key : String) :
    (c.get now kind key).1 = (c.live now (kind, key)).bind Prod.snd := by
  cases get_cases c now kind key with
  | refused _ hlive hget => rw [hlive, hget]; rfl
  | absent _ _ _ hlive hget => rw [hlive, hget]; rfl
  | expired _ _ _ _ _ hlive hget => rw [hlive, hget]; rfl
  | hit _ _ _ _ _ hlive hget => rw [hlive, hget]; rfl

theorem set_of_uncacheable {kind : String} (h : ttlSeconds kind = none) (c : TTLCache V) (now : ℚ)
    (key : String) (value : Option V) : c.set now kind key value = c := by
  rw [set, if_pos h]

/-- **What a `set` does to the table**: the new entry goes to the end, and the loop cuts the
    table down from the beginning. -/
theorem set_data {kind : String} (h : ttlSeconds kind ≠ none) (c : TTLCache V) (now : ℚ)
    (key : String) (value : Option V) :
    (c.set now kind key value).data =
      (OrderedDict.evict c.max (c.data.insert (kind, key) (now, value))).1 := by
  rw [set, if_neg h]
  show (OrderedDict.evict c.max _).1 = _
  rw [OrderedDict.moveToEnd_setItem]

/-! ### Reading after a call -/

/-- A `get` adds nothing and changes no entry. -/
theorem lookup_of_lookup_get {c : TTLCache V} {now : ℚ} {kind key : String} {p : CacheKey}
    {entry : ℚ × Option V} (h : (c.get now kind key).2.data.lookup p = some entry) :
    c.data.lookup p = some entry := by
  cases get_cases c now kind key with
  | refused _ _ hget => rwa [hget] at h
  | absent _ _ _ _ _ hdata => rwa [hdata] at h
  | expired _ _ _ _ _ _ _ hdata =>
    rw [hdata] at h
    by_cases hp : p = (kind, key)
    · subst hp
      rw [AList.lookup_erase] at h
      cases h
    · rwa [AList.lookup_erase_ne hp] at h
  | hit _ found _ hfound _ _ _ hdata =>
    rw [hdata] at h
    by_cases hp : p = (kind, key)
    · subst hp
      rw [AList.lookup_insert] at h
      exact hfound.trans h
    · rwa [AList.lookup_insert_ne hp] at h

/-- A `get` deletes only an entry of its own pair that has expired. -/
theorem lookup_get_of_lookup {c : TTLCache V} {now : ℚ} {kind key : String} {p : CacheKey}
    {entry : ℚ × Option V} (h : c.data.lookup p = some entry)
    (hlive : p = (kind, key) → ∀ ttl, ttlSeconds kind = some ttl → now - entry.1 ≤ ttl) :
    (c.get now kind key).2.data.lookup p = some entry := by
  cases get_cases c now kind key with
  | refused _ _ hget => rwa [hget]
  | absent _ _ _ _ _ hdata => rwa [hdata]
  | expired ttl found httl hfound hexp _ _ hdata =>
    rw [hdata]
    by_cases hp : p = (kind, key)
    · -- The entry deleted is `entry` itself, which has not expired.
      subst hp
      have heq : found = entry := Option.some.inj (hfound.symm.trans h)
      exact absurd (heq ▸ hlive rfl ttl httl) (not_le.mpr hexp)
    · rwa [AList.lookup_erase_ne hp]
  | hit _ found _ hfound _ _ _ hdata =>
    rw [hdata]
    by_cases hp : p = (kind, key)
    · subst hp
      rw [AList.lookup_insert, ← hfound, h]
    · rwa [AList.lookup_insert_ne hp]

/-- A `get` keeps every live entry of every pair. -/
theorem live_get {c : TTLCache V} {now : ℚ} (kind key : String) {p : CacheKey}
    {entry : ℚ × Option V} (h : c.live now p = some entry) :
    (c.get now kind key).2.live now p = some entry := by
  obtain ⟨hlookup, ttl, httl, hle⟩ := live_eq_some_iff.mp h
  refine live_eq_some_iff.mpr ⟨lookup_get_of_lookup hlookup ?_, ttl, httl, hle⟩
  rintro rfl ttl' httl'
  exact Option.some.inj (httl.symm.trans httl') ▸ hle

/-- After a `set` an entry is the one just stored or an older one of another pair. -/
theorem lookup_of_lookup_set {c : TTLCache V} {now : ℚ} {kind key : String} {value : Option V}
    {p : CacheKey} {entry : ℚ × Option V}
    (h : (c.set now kind key value).data.lookup p = some entry) (hk : ttlSeconds kind ≠ none) :
    (p = (kind, key) ∧ entry = (now, value)) ∨
      (p ≠ (kind, key) ∧ c.data.lookup p = some entry) := by
  rw [set_data hk] at h
  have h' := OrderedDict.lookup_of_lookup_evict h
  by_cases hp : p = (kind, key)
  · subst hp
    rw [AList.lookup_insert] at h'
    exact .inl ⟨rfl, (Option.some.inj h').symm⟩
  · rw [AList.lookup_insert_ne hp] at h'
    exact .inr ⟨hp, h'⟩

/-- The keys after a `set`, last one first. -/
theorem keys_set {kind : String} (h : ttlSeconds kind ≠ none) (c : TTLCache V) (now : ℚ)
    (key : String) (value : Option V) :
    (c.set now kind key value).data.keys =
      (c.data.insert (kind, key) (now, value)).keys.take c.max := by
  rw [set_data h, OrderedDict.evict_keys]

/-- A `set` stores its value, and keeps the entries of the keys it does not evict. -/
theorem lookup_set {kind : String} (h : ttlSeconds kind ≠ none) {c : TTLCache V} {now : ℚ}
    {key : String} {value : Option V} {p : CacheKey}
    (hp : p ∈ (c.set now kind key value).data) :
    (c.set now kind key value).data.lookup p =
      if p = (kind, key) then some (now, value) else c.data.lookup p := by
  rw [AList.mem_keys, keys_set h] at hp
  rw [set_data h, OrderedDict.lookup_evict hp]
  split_ifs with hpk
  · subst hpk
    exact AList.lookup_insert _
  · exact AList.lookup_insert_ne hpk

/-- A `set` is read back, unless the cache may hold nothing. -/
theorem lookup_set_self {kind : String} (h : ttlSeconds kind ≠ none) {c : TTLCache V}
    (hmax : 0 < c.max) (now : ℚ) (key : String) (value : Option V) :
    (c.set now kind key value).data.lookup (kind, key) = some (now, value) := by
  rw [lookup_set h, if_pos rfl]
  -- The new entry is the first of the keys, and at least one of them is kept.
  rw [AList.mem_keys, keys_set h, AList.keys_insert]
  obtain ⟨n, hn⟩ := Nat.exists_eq_succ_of_ne_zero hmax.ne'
  rw [hn, List.take_succ_cons]
  exact List.mem_cons_self

/-- Every TTL is positive. -/
theorem ttlSeconds_pos {kind : String} {ttl : ℚ} (h : ttlSeconds kind = some ttl) : 0 < ttl := by
  have hall : ∀ e ∈ ttlTable, 0 < e.2 := by
    unfold ttlTable
    simp only [List.mem_cons, List.not_mem_nil, or_false, forall_eq_or_imp, forall_eq]
    norm_num
  obtain ⟨pre, _, hsplit, _⟩ := List.lookup_eq_some_iff.mp h
  exact hall (kind, ttl) (by rw [hsplit]; simp)

/-- Right after a `set` its entry is live. -/
theorem live_set_self {kind : String} (h : ttlSeconds kind ≠ none) {c : TTLCache V}
    (hmax : 0 < c.max) (now : ℚ) (key : String) (value : Option V) :
    (c.set now kind key value).live now (kind, key) = some (now, value) := by
  obtain ⟨ttl, httl⟩ := Option.ne_none_iff_exists'.mp h
  refine live_eq_some_iff.mpr ⟨lookup_set_self h hmax now key value, ttl, httl, ?_⟩
  rw [sub_self]
  exact (ttlSeconds_pos httl).le

end TTLCache

end Algorandscout
