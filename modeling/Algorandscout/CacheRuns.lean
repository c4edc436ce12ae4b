import Algorandscout.Cache
import Algorandscout.Library.Recency

namespace Algorandscout

open Library

/-!
# The cache over whole runs

What a bounded cache with expiry should answer is said on the history of calls alone:
`latestSet` is the latest `set` of a pair with no `clear` after it, and a pair is touched by a
`set` and by a `get` that hits it.  `CacheInv` ties the table to the history; every call keeps
it (`CacheInv.step`), so every run has it (`cacheInv_run`), and `cacheRuns_refine` reads the
specification off it.

A history lists the calls latest first.
-/

/-- A call of one of the three methods. -/
inductive CacheCall (V : Type) where
  | get (kind key : String)
  | set (kind key : String) (value : Option V)
  | clear

/-- The calls made so far, latest first, with the clock reading of each. -/
abbrev History (V : Type) := List (ℚ × CacheCall V)

variable {V : Type}

/-- The cache after a call. -/
def CacheCall.apply (c : TTLCache V) (now : ℚ) : CacheCall V → TTLCache V
  | .get kind key => (c.get now kind key).2
  | .set kind key value => c.set now kind key value
  | .clear => c.clear

/-- The pair a call touches: the one it stores, or the one it hits. -/
def CacheCall.touched (c : TTLCache V) (now : ℚ) : CacheCall V → Option CacheKey
  -- A miss touches nothing.
  | .get kind key => if (c.live now (kind, key)).isSome then some (kind, key) else none
  | .set kind key _ => if (ttlSeconds kind).isSome then some (kind, key) else none
  | .clear => none

theorem CacheCall.touched_of_miss {c : TTLCache V} {now : ℚ} {kind key : String}
    (h : c.live now (kind, key) = none) : touched c now (.get kind key : CacheCall V) = none := by
  simp [touched, h]

theorem CacheCall.touched_of_hit {c : TTLCache V} {now : ℚ} {kind key : String}
    {entry : ℚ × Option V} (h : c.live now (kind, key) = some entry) :
    touched c now (.get kind key : CacheCall V) = some (kind, key) := by
  simp [touched, h]

theorem CacheCall.touched_set (c : TTLCache V) (now : ℚ) (kind key : String) (value : Option V) :
    touched c now (.set kind key value) =
      if (ttlSeconds kind).isSome then some (kind, key) else none := rfl

namespace History

/-- The clock never runs backwards. -/
def Chronological (h : History V) : Prop := (h.map Prod.fst).Pairwise (· ≥ ·)

/-- The cache after a history. -/
def run (maxEntries : ℕ) : History V → TTLCache V
  | [] => TTLCache.new maxEntries
  | (now, call) :: h => call.apply (run maxEntries h) now

/-- The pairs touched, latest first. -/
def touches (maxEntries : ℕ) : History V → List CacheKey
  | [] => []
  | (now, call) :: h => (call.touched (run maxEntries h) now).toList ++ touches maxEntries h

/-- When and what the latest `set` of `p` stored, if no `clear` came after it. -/
def latestSet (p : CacheKey) : History V → Option (ℚ × Option V)
  | [] => none
  | (_, .get _ _) :: h => latestSet p h
  | (now, .set kind key value) :: h => if p = (kind, key) then some (now, value) else latestSet p h
  -- A `clear` hides every earlier `set`.
  | (_, .clear) :: _ => none

/-- **Declarative reading of `latestSet`**: the history splits at a `set` of `p` that neither a
    `set` of `p` nor a `clear` follows. -/
theorem latestSet_eq_some_iff {h : History V} {p : CacheKey} {t : ℚ} {value : Option V} :
    latestSet p h = some (t, value) ↔
      ∃ later earlier, h = later ++ (t, .set p.1 p.2 value) :: earlier ∧
        ∀ e ∈ later, e.2 ≠ .clear ∧ ∀ w, e.2 ≠ .set p.1 p.2 w := by
  induction h with
  | nil => simp [latestSet]
  | cons e h ih =>
    obtain ⟨now, call⟩ := e
    -- Either `e` is the splitting `set` itself, or the split is one of `h`.
    have hsplit : (∃ later earlier, (now, call) :: h = later ++ (t, .set p.1 p.2 value) :: earlier ∧
        ∀ e ∈ later, e.2 ≠ .clear ∧ ∀ w, e.2 ≠ .set p.1 p.2 w) ↔
        (now = t ∧ call = .set p.1 p.2 value) ∨
        ((call ≠ .clear ∧ ∀ w, call ≠ .set p.1 p.2 w) ∧ latestSet p h = some (t, value)) := by
      rw [ih]
      constructor
      · rintro ⟨later, earlier, heq, hlater⟩
        cases later with
        | nil =>
          simp only [List.nil_append, List.cons.injEq, Prod.mk.injEq] at heq
          exact .inl heq.1
        | cons l later =>
          simp only [List.cons_append, List.cons.injEq] at heq
          obtain ⟨rfl, rfl⟩ := heq
          exact .inr ⟨hlater _ List.mem_cons_self, later, earlier, rfl,
            fun e he => hlater e (List.mem_cons_of_mem _ he)⟩
      · rintro (⟨rfl, rfl⟩ | ⟨hcall, later, earlier, rfl, hlater⟩)
        · exact ⟨[], h, rfl, by simp⟩
        · refine ⟨(now, call) :: later, earlier, rfl, fun e he => ?_⟩
          rcases List.mem_cons.mp he with rfl | he
          · exact hcall
          · exact hlater e he
    rw [hsplit]
    cases call with
    | get kind key => simp [latestSet]
    | clear => simp [latestSet]
    | set kind key w =>
      by_cases hp : p = (kind, key)
      · subst hp
        simp [latestSet]
      · have hne : ∀ u, (CacheCall.set kind key w : CacheCall V) ≠ .set p.1 p.2 u := by
          intro u heq
          simp only [CacheCall.set.injEq] at heq
          exact hp (by rw [heq.1, heq.2.1])
        simp [latestSet, hp, hne]

end History

open History

/-! ### The invariant -/

/-- What ties the cache after a history to the history, at a time when the clock has not passed
    `now`. -/
structure CacheInv (c : TTLCache V) (h : History V) (log : List CacheKey) (now : ℚ) : Prop where
  /-- An entry is what the latest `set` stored, of a kind that may be stored. -/
  sound : ∀ p entry, c.data.lookup p = some entry →
    latestSet p h = some entry ∧ (ttlSeconds p.1).isSome
  /-- The table is ordered by last touch. -/
  order : ByRecency log c.data.keys
  /-- What is neither expired nor pushed out by others is still there. -/
  complete : ∀ p entry ttl, latestSet p h = some entry → ttlSeconds p.1 = some ttl →
    now - entry.1 ≤ ttl → (touchedSince p log).card < c.max → c.data.lookup p = some entry

/-- Time may pass. -/
theorem CacheInv.mono {c : TTLCache V} {h : History V} {log : List CacheKey} {now later : ℚ}
    (hinv : CacheInv c h log now) (hle : now ≤ later) : CacheInv c h log later where
  sound := hinv.sound
  order := hinv.order
  complete := fun p entry ttl hset httl hage hcard =>
    hinv.complete p entry ttl hset httl (by linarith) hcard

theorem CacheInv.new (maxEntries : ℕ) (now : ℚ) :
    CacheInv (TTLCache.new maxEntries) ([] : History V) [] now where
  sound := fun p entry h => by simp [TTLCache.new] at h
  order := ByRecency.nil _
  complete := fun p entry ttl h => by simp [latestSet] at h

theorem CacheInv.clear {c : TTLCache V} {h : History V} {log : List CacheKey} {now : ℚ} :
    CacheInv c.clear ((now, .clear) :: h) log now where
  sound := fun p entry h => by simp [TTLCache.clear] at h
  order := ByRecency.nil _
  complete := fun p entry ttl h => by simp [latestSet] at h

/-- **A `get` keeps the invariant.** Only a hit changes the order, and it is a touch. -/
theorem CacheInv.get {c : TTLCache V} {h : History V} {log : List CacheKey} {now : ℚ}
    (hinv : CacheInv c h log now) (kind key : String) :
    CacheInv (c.get now kind key).2 ((now, .get kind key) :: h)
      ((CacheCall.touched c now (.get kind key : CacheCall V)).toList ++ log) now where
  sound := fun p entry hentry => hinv.sound p entry (TTLCache.lookup_of_lookup_get hentry)
  order := by
    cases TTLCache.get_cases c now kind key with
    | refused _ hlive hget =>
      rw [CacheCall.touched_of_miss hlive, hget]
      exact hinv.order
    | absent _ _ _ hlive _ hdata =>
      rw [CacheCall.touched_of_miss hlive, hdata]
      exact hinv.order
    | expired _ _ _ _ _ hlive _ hdata =>
      rw [CacheCall.touched_of_miss hlive, hdata, AList.keys_erase]
      exact hinv.order.erase _
    | hit _ _ _ _ _ hlive _ hdata =>
      rw [CacheCall.touched_of_hit hlive, hdata, AList.keys_insert]
      exact hinv.order.touch _
  complete := by
    intro p entry ttl hset httl hage hcard
    rw [TTLCache.get_max] at hcard
    apply TTLCache.lookup_get_of_lookup
    · cases hlive : c.live now (kind, key) with
      | none =>
        rw [CacheCall.touched_of_miss hlive] at hcard
        exact hinv.complete p entry ttl hset httl hage hcard
      | some found =>
        rw [CacheCall.touched_of_hit hlive] at hcard
        by_cases hp : (kind, key) = p
        · -- The pair was hit, so it is there.
          subst hp
          have hlookup := (TTLCache.live_eq_some_iff.mp hlive).1
          rw [hlookup, ← (hinv.sound _ _ hlookup).1]
          exact hset
        · have hle := card_touchedSince_le hp log
          exact hinv.complete p entry ttl hset httl hage (hle.trans_lt hcard)
    · rintro rfl ttl' httl'
      exact Option.some.inj (httl.symm.trans httl') ▸ hage

/-- A `set` of a kind with no TTL is refused: the table has no entry of that kind, so the new
    `latestSet` concerns none. -/
theorem CacheInv.set_refused {c : TTLCache V} {h : History V} {log : List CacheKey} {now : ℚ}
    (hinv : CacheInv c h log now) {kind : String} (hk : ttlSeconds kind = none) (key : String)
    (value : Option V) : CacheInv c ((now, .set kind key value) :: h) log now := by
  have hne : ∀ p : CacheKey, (ttlSeconds p.1).isSome → p ≠ (kind, key) := by
    rintro p hp rfl
    simp [hk] at hp
  constructor
  case sound =>
    intro p entry hentry
    obtain ⟨hset, hsome⟩ := hinv.sound p entry hentry
    rw [latestSet, if_neg (hne p hsome)]
    exact ⟨hset, hsome⟩
  case order => exact hinv.order
  case complete =>
    intro p entry ttl hset httl hage hcard
    rw [latestSet, if_neg (hne p (by simp [httl]))] at hset
    exact hinv.complete p entry ttl hset httl hage hcard

/-- A `set` of another kind is a touch, and what the loop evicts had `max` other pairs touched
    after it. -/
theorem CacheInv.set_stored {c : TTLCache V} {h : History V} {log : List CacheKey} {now : ℚ}
    (hinv : CacheInv c h log now) {kind : String} (hk : ttlSeconds kind ≠ none) (key : String)
    (value : Option V) :
    CacheInv (c.set now kind key value) ((now, .set kind key value) :: h)
      ((kind, key) :: log) now := by
  -- The order before the eviction loop.
  have htouch : ByRecency ((kind, key) :: log)
      (c.data.insert (kind, key) (now, value)).keys := by
    rw [AList.keys_insert]
    exact hinv.order.touch _
  constructor
  case sound =>
    intro p entry hentry
    rcases TTLCache.lookup_of_lookup_set hentry hk with ⟨rfl, rfl⟩ | ⟨hp, hlookup⟩
    · rw [latestSet, if_pos rfl]
      exact ⟨rfl, Option.isSome_iff_ne_none.mpr hk⟩
    · rw [latestSet, if_neg hp]
      exact hinv.sound p entry hlookup
  case order =>
    rw [TTLCache.keys_set hk]
    exact htouch.sublist (List.take_sublist _ _)
  case complete =>
    intro p entry ttl hset httl hage hcard
    rw [TTLCache.set_max] at hcard
    -- Fewer than `max` other pairs were touched since, so the loop does not evict `p`.
    have hstays : p ∈ (c.data.insert (kind, key) (now, value)).keys →
        p ∈ (c.set now kind key value).data := by
      intro hp
      rw [AList.mem_keys, TTLCache.keys_set hk]
      exact htouch.mem_take hp hcard
    by_cases hp : p = (kind, key)
    · subst hp
      rw [latestSet, if_pos rfl] at hset
      rw [TTLCache.lookup_set hk (hstays (by simp)), if_pos rfl, hset]
    · rw [latestSet, if_neg hp] at hset
      have hle := card_touchedSince_le (Ne.symm hp) log
      have hlookup := hinv.complete p entry ttl hset httl hage (hle.trans_lt hcard)
      have hmem : p ∈ c.data := OrderedDict.mem_of_lookup hlookup
      have hmem' : p ∈ c.data.insert (kind, key) (now, value) := by
        rw [AList.mem_insert]
        exact .inr hmem
      rw [TTLCache.lookup_set hk (hstays hmem'), if_neg hp, hlookup]

/-- **A `set` keeps the invariant.** -/
theorem CacheInv.set {c : TTLCache V} {h : History V} {log : List CacheKey} {now : ℚ}
    (hinv : CacheInv c h log now) (kind key : String) (value : Option V) :
    CacheInv (c.set now kind key value) ((now, .set kind key value) :: h)
      ((CacheCall.touched c now (.set kind key value)).toList ++ log) now := by
  rw [CacheCall.touched_set]
  cases hk : ttlSeconds kind with
  | none =>
    rw [TTLCache.set_of_uncacheable hk]
    exact hinv.set_refused hk key value
  | some ttl =>
    have hkind : ttlSeconds kind ≠ none := by simp [hk]
    exact hinv.set_stored hkind key value

/-- **Every call keeps the invariant.** -/
theorem CacheInv.step {c : TTLCache V} {h : History V} {log : List CacheKey} {now : ℚ}
    (hinv : CacheInv c h log now) (call : CacheCall V) :
    CacheInv (call.apply c now) ((now, call) :: h) ((call.touched c now).toList ++ log) now := by
  cases call with
  | get kind key => exact hinv.get kind key
  | set kind key value => exact hinv.set kind key value
  | clear => exact CacheInv.clear

/-- **Every run has the invariant**, at every time from its last call on. -/
theorem cacheInv_run (maxEntries : ℕ) (h : History V) (hclock : h.Chronological) (now : ℚ)
    (hnow : ∀ e ∈ h, e.1 ≤ now) :
    CacheInv (run maxEntries h) h (touches maxEntries h) now := by
  induction h generalizing now with
  | nil => exact CacheInv.new maxEntries now
  | cons e h ih =>
    obtain ⟨t, call⟩ := e
    obtain ⟨hle, hclock'⟩ := List.pairwise_cons.mp hclock
    -- The clock never runs backwards, so the invariant of the earlier calls holds up to this one.
    have hbefore : ∀ e ∈ h, e.1 ≤ t := fun e he => hle e.1 (List.mem_map_of_mem he)
    exact ((ih hclock' t hbefore).step call).mono (hnow _ List.mem_cons_self)

@[simp] theorem run_max (maxEntries : ℕ) (h : History V) : (run maxEntries h).max = maxEntries := by
  induction h with
  | nil => rfl
  | cons e h ih =>
    obtain ⟨now, call⟩ := e
    cases call with
    | get kind key => rw [run, CacheCall.apply, TTLCache.get_max, ih]
    | set kind key value => rw [run, CacheCall.apply, TTLCache.set_max, ih]
    | clear => exact ih

/-! ### The refinement -/

/-- **The cache refines its specification.** After every chronological history: what a `get`
    answers is the value of the latest `set`, not cleared and not expired; a value so stored is
    answered when fewer than `max` other pairs were touched since the pair was; a kind with no
    TTL reads `None` and changes nothing; and the table is within its bound. -/
theorem cacheRuns_refine (maxEntries : ℕ) (h : History V) (now : ℚ) (hclock : h.Chronological)
    (hnow : ∀ e ∈ h, e.1 ≤ now) :
    (∀ kind key v, ((run maxEntries h).get now kind key).1 = some v →
      ∃ t ttl, latestSet (kind, key) h = some (t, some v) ∧ ttlSeconds kind = some ttl ∧
        now - t ≤ ttl) ∧
    (∀ kind key t v ttl, latestSet (kind, key) h = some (t, some v) →
      ttlSeconds kind = some ttl → now - t ≤ ttl →
      (touchedSince (kind, key) (touches maxEntries h)).card < maxEntries →
      ((run maxEntries h).get now kind key).1 = some v) ∧
    (∀ kind key, ttlSeconds kind = none →
      (run maxEntries h).get now kind key = (none, run maxEntries h) ∧
        ∀ value, (run maxEntries h).set now kind key value = run maxEntries h) ∧
    (run maxEntries h).len ≤ maxEntries := by
  have hinv := cacheInv_run maxEntries h hclock now hnow
  refine ⟨?_, ?_, ?_, ?_⟩
  · intro kind key v hget
    rw [TTLCache.get_fst, Option.bind_eq_some_iff] at hget
    obtain ⟨⟨t, value⟩, hlive, rfl⟩ := hget
    obtain ⟨hlookup, ttl, httl, hage⟩ := TTLCache.live_eq_some_iff.mp hlive
    exact ⟨t, ttl, (hinv.sound _ _ hlookup).1, httl, hage⟩
  · intro kind key t v ttl hset httl hage hcard
    have hlookup := hinv.complete _ _ ttl hset httl hage (by rwa [run_max])
    have hlive : (run maxEntries h).live now (kind, key) = some (t, some v) :=
      TTLCache.live_eq_some_iff.mpr ⟨hlookup, ttl, httl, hage⟩
    rw [TTLCache.get_fst, hlive]
    rfl
  · intro kind key hkind
    refine ⟨?_, TTLCache.set_of_uncacheable hkind _ now key⟩
    unfold TTLCache.get
    rw [hkind]
  · have hbounded := (run maxEntries h).bounded
    rwa [run_max] at hbounded

/-- A block stored at time 0 and hit at time 10, with an asset stored in between. -/
def sampleHistory : History ℕ :=
  [(10, .get "block" "1"), (5, .set "asset" "7" (some 2)), (0, .set "block" "1" (some 1))]

/-- The block is still answered at time 20. -/
theorem sampleHistory_refines : ((run 2 sampleHistory).get 20 "block" "1").1 = some 1 := by
  have hclock : sampleHistory.Chronological := by
    unfold Chronological sampleHistory
    decide +kernel
  have hnow : ∀ e ∈ sampleHistory, e.1 ≤ 20 := by
    unfold sampleHistory
    simp only [List.mem_cons, List.not_mem_nil, or_false, forall_eq_or_imp, forall_eq]
    norm_num
  exact (cacheRuns_refine 2 sampleHistory 20 hclock hnow).2.1 "block" "1" 0 1 3600 (by decide)
    (by decide) (by norm_num) (by decide +kernel)

end Algorandscout
