import Algorandscout.CacheRuns

namespace Algorandscout

open Library

/-!
# The counters of the cache over whole runs

The four counters of `CacheStats` are what `/metrics` publishes.  An entry leaves the table by
three routes: a `get` that finds it expired, the eviction loop of a `set`, and `clear`.  What the
counters should be is said on the history of calls:

* `lookups`, `additions`, `cleared` — the lookups, the entries added and the entries cleared;
* `CacheLedger` — the equations between them and the counters, kept by every call
  (`CacheLedger.step`);
* `cacheCounters_conserved` — the equations along every run.
-/

variable {V : Type}

/-! ### What a call adds to the ledger -/

/-- A `get` on a kind that has a TTL. -/
def CacheCall.isLookup : CacheCall V → Bool
  | .get kind _ => (ttlSeconds kind).isSome
  | _ => false

/-- The entries a call adds: one for a `set` that is not refused, of a pair not then in the
    table. -/
def CacheCall.adds (c : TTLCache V) : CacheCall V → ℕ
  | .set kind key _ => if (ttlSeconds kind).isSome ∧ (kind, key) ∉ c.data then 1 else 0
  | _ => 0

/-- The entries that a `clear` removes. -/
def CacheCall.clears (c : TTLCache V) : CacheCall V → ℕ
  | .clear => c.len
  | _ => 0

namespace History

/-- The `get` calls on kinds that have a TTL. -/
def lookups (h : History V) : ℕ := h.countP fun e => e.2.isLookup

/-- The `set` calls that added a pair not then in the table. -/
def additions (maxEntries : ℕ) : History V → ℕ
  | [] => 0
  | (_, call) :: h => additions maxEntries h + call.adds (run maxEntries h)

/-- The entries removed by `clear`. -/
def cleared (maxEntries : ℕ) : History V → ℕ
  | [] => 0
  | (_, call) :: h => cleared maxEntries h + call.clears (run maxEntries h)

end History

open History

/-! ### The ledger -/

/-- What ties the counters of a cache to the lookups, additions and clearings so far. -/
structure CacheLedger (c : TTLCache V) (lookups additions cleared : ℕ) : Prop where
  /-- A lookup hits or misses. -/
  answered : c.stats.hits + c.stats.misses = lookups
  /-- What has expired is answered as a miss. -/
  expired_le : c.stats.expirations ≤ c.stats.misses
  /-- An entry added is in the table, or left it by one of the three routes. -/
  conserved : additions = c.len + c.stats.evictions + c.stats.expirations + cleared

theorem CacheLedger.new (maxEntries : ℕ) :
    CacheLedger (TTLCache.new maxEntries : TTLCache V) 0 0 0 where
  answered := rfl
  expired_le := Nat.le_refl 0
  conserved := rfl

/-- A `get` deletes one entry when it counts an expiry, and none otherwise. -/
theorem CacheLedger.get {c : TTLCache V} {lookups additions cleared : ℕ}
    (hledger : CacheLedger c lookups additions cleared) (now : ℚ) (kind key : String) :
    CacheLedger (c.get now kind key).2
      (lookups + if (ttlSeconds kind).isSome then 1 else 0) additions cleared := by
  obtain ⟨hanswered, hexpired, hconserved⟩ := hledger
  cases TTLCache.get_cases c now kind key with
  | refused httl _ hget =>
    rw [hget, httl]
    exact ⟨hanswered, hexpired, hconserved⟩
  | absent ttl httl _ _ _ hdata hstats =>
    have hlen : (c.get now kind key).2.len = c.len := by
      unfold TTLCache.len
      rw [hdata]
    rw [httl]
    constructor
    · rw [hstats]
      show c.stats.hits + (c.stats.misses + 1) = lookups + 1
      omega
    · rw [hstats]
      show c.stats.expirations ≤ c.stats.misses + 1
      omega
    · rw [hstats, hlen]
      exact hconserved
  | expired ttl entry httl hlookup _ _ _ hdata hstats =>
    have hmem : (kind, key) ∈ c.data := OrderedDict.mem_of_lookup hlookup
    have hpos : 0 < c.len := by
      unfold TTLCache.len
      rw [OrderedDict.length_eq_length_keys]
      exact List.length_pos_of_mem hmem
    have hlen : (c.get now kind key).2.len = c.len - 1 := by
      unfold TTLCache.len
      rw [hdata, OrderedDict.length_erase, if_pos hmem]
    rw [httl]
    constructor
    · rw [hstats]
      show c.stats.hits + (c.stats.misses + 1) = lookups + 1
      omega
    · rw [hstats]
      show c.stats.expirations + 1 ≤ c.stats.misses + 1
      omega
    · -- The entry deleted moves from the table to the expirations.
      rw [hstats, hlen]
      show additions = c.len - 1 + c.stats.evictions + (c.stats.expirations + 1) + cleared
      omega
  | hit ttl entry httl hlookup _ _ _ hdata hstats =>
    have hmem : (kind, key) ∈ c.data := OrderedDict.mem_of_lookup hlookup
    have hlen : (c.get now kind key).2.len = c.len := by
      unfold TTLCache.len
      rw [hdata, OrderedDict.length_insert, if_pos hmem]
    rw [httl]
    constructor
    · rw [hstats]
      show c.stats.hits + 1 + c.stats.misses = lookups + 1
      omega
    · rw [hstats]
      exact hexpired
    · rw [hstats, hlen]
      exact hconserved

/-- What the loop of a `set` pops off is counted, so table and evictions together grow by the
    entry added. -/
theorem TTLCache.len_add_evictions_set {kind : String} (h : ttlSeconds kind ≠ none)
    (c : TTLCache V) (now : ℚ) (key : String) (value : Option V) :
    (c.set now kind key value).len + (c.set now kind key value).stats.evictions =
      c.len + c.stats.evictions + if (kind, key) ∈ c.data then 0 else 1 := by
  have hevictions : (c.set now kind key value).stats.evictions = c.stats.evictions +
      (OrderedDict.evict c.max (c.data.insert (kind, key) (now, value))).2 := by
    rw [set, if_neg h]
    show c.stats.evictions + (OrderedDict.evict c.max _).2 = _
    rw [OrderedDict.moveToEnd_setItem]
  have hlen : (c.set now kind key value).len =
      min c.max (OrderedDict.length (c.data.insert (kind, key) (now, value))) := by
    unfold len
    rw [set_data h]
    unfold OrderedDict.length
    rw [OrderedDict.evict_entries, List.length_take]
  have hinsert := OrderedDict.length_insert c.data (kind, key) (now, value)
  rw [hevictions, hlen, OrderedDict.evict_count, hinsert]
  unfold len
  split_ifs
  · omega
  · omega

/-- A `set` counts nothing but evictions. -/
theorem TTLCache.stats_set (c : TTLCache V) (now : ℚ) (kind key : String) (value : Option V) :
    (c.set now kind key value).stats =
      { c.stats with evictions := (c.set now kind key value).stats.evictions } := by
  unfold set
  split_ifs
  · rfl
  · rfl

theorem CacheLedger.set {c : TTLCache V} {lookups additions cleared : ℕ}
    (hledger : CacheLedger c lookups additions cleared) (now : ℚ) (kind key : String)
    (value : Option V) :
    CacheLedger (c.set now kind key value) lookups
      (additions + if (ttlSeconds kind).isSome ∧ (kind, key) ∉ c.data then 1 else 0)
      cleared := by
  obtain ⟨hanswered, hexpired, hconserved⟩ := hledger
  by_cases httl : ttlSeconds kind = none
  · rw [TTLCache.set_of_uncacheable httl, httl]
    exact ⟨hanswered, hexpired, by simpa using hconserved⟩
  have hsome : (ttlSeconds kind).isSome := Option.isSome_iff_ne_none.mpr httl
  have hstats := TTLCache.stats_set c now kind key value
  have hexpirations := congrArg CacheStats.expirations hstats
  have hgrow := TTLCache.len_add_evictions_set httl c now key value
  constructor
  · rw [hstats]
    exact hanswered
  · rw [hstats]
    exact hexpired
  · by_cases hmem : (kind, key) ∈ c.data
    · rw [if_pos hmem] at hgrow
      rw [if_neg (by tauto), hexpirations]
      show additions + 0 = _ + _ + c.stats.expirations + cleared
      omega
    · rw [if_neg hmem] at hgrow
      rw [if_pos ⟨hsome, hmem⟩, hexpirations]
      show additions + 1 = _ + _ + c.stats.expirations + cleared
      omega

theorem CacheLedger.clear {c : TTLCache V} {lookups additions cleared : ℕ}
    (hledger : CacheLedger c lookups additions cleared) :
    CacheLedger c.clear lookups additions (cleared + c.len) where
  answered := hledger.answered
  expired_le := hledger.expired_le
  conserved := by
    have hconserved := hledger.conserved
    show additions = 0 + c.stats.evictions + c.stats.expirations + (cleared + c.len)
    omega

/-- **Every call keeps the ledger.** -/
theorem CacheLedger.step {c : TTLCache V} {lookups additions cleared : ℕ}
    (hledger : CacheLedger c lookups additions cleared) (now : ℚ) (call : CacheCall V) :
    CacheLedger (call.apply c now) (lookups + if call.isLookup then 1 else 0)
      (additions + call.adds c) (cleared + call.clears c) := by
  cases call with
  | get kind key => exact hledger.get now kind key
  | set kind key value => exact hledger.set now kind key value
  | clear => exact hledger.clear

/-- **The counters conserve lookups and entries**, at every point between the calls of every run:
    a lookup is a hit or a miss, an expiry is a miss, and every entry ever added is in the table
    or was evicted, expired or cleared. -/
theorem cacheCounters_conserved (maxEntries : ℕ) (h : History V) :
    CacheLedger (run maxEntries h) (lookups h) (additions maxEntries h)
      (cleared maxEntries h) := by
  induction h with
  | nil => exact CacheLedger.new maxEntries
  | cons e h ih =>
    obtain ⟨now, call⟩ := e
    have hlookups : lookups ((now, call) :: h) = lookups h + if call.isLookup then 1 else 0 :=
      List.countP_cons
    rw [hlookups]
    exact ih.step now call

end Algorandscout
