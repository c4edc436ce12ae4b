import Mathlib.Data.List.AList
import Mathlib.Tactic.Common

namespace Algorandscout.Library

/-!
# Ordered dicts

`collections.OrderedDict` on Mathlib's association lists.  The entries are kept from the end of
the dict to its beginning, so that `AList.insert` is an assignment followed by `move_to_end`.

* `setItem`, `moveToEnd`, `popFirst` — the methods;
* `evict` — the loop that pops entries off the beginning until at most `max` are left, with the
  number of pops;
* `moveToEnd_setItem` — an assignment followed by `move_to_end` is one `AList.insert`;
* `evict_entries`, `evict_count`, `lookup_evict` — what the loop computes.
-/

/-- A dict that remembers the order of its keys. -/
abbrev OrderedDict (K V : Type) := AList fun _ : K => V

namespace OrderedDict

variable {K V : Type} [DecidableEq K]

/-- `len(d)`. -/
def length (d : OrderedDict K V) : ℕ := d.entries.length

/-- `d[key] = value`: in place when the key is there, at the end otherwise. -/
def setItem (d : OrderedDict K V) (key : K) (value : V) : OrderedDict K V :=
  if key ∈ d then d.replace key value else d.insert key value

/-- `d.move_to_end(key)`. -/
def moveToEnd (d : OrderedDict K V) (key : K) : OrderedDict K V :=
  match d.lookup key with
  | some value => d.insert key value
  | none => d

omit [DecidableEq K] in
/-- `d.popitem(last=False)`. -/
def popFirst (d : OrderedDict K V) : OrderedDict K V :=
  ⟨d.entries.dropLast, d.nodupKeys.sublist (List.dropLast_sublist _)⟩

/-- `while len(d) > max: d.popitem(last=False)`, with the number of pops.  The fuel is the
    length of `d`: no loop pops more than that (`evict_entries`). -/
def evictLoop (max : ℕ) : ℕ → OrderedDict K V → OrderedDict K V × ℕ
  | 0, d => (d, 0)
  | fuel + 1, d =>
    if length d > max then
      let (rest, pops) := evictLoop max fuel (popFirst d)
      (rest, pops + 1)
    else (d, 0)

/-- The eviction loop. -/
def evict (max : ℕ) (d : OrderedDict K V) : OrderedDict K V × ℕ := evictLoop max (length d) d

/-! ### Assignment and reordering -/

theorem kreplace_cons_self (key : K) (v value : V) (es : List (Sigma fun _ : K => V)) :
    (⟨key, v⟩ :: es).kreplace key value = ⟨key, value⟩ :: es := by
  unfold List.kreplace
  exact List.lookmap_cons_some _ _ (if_pos rfl)

theorem kreplace_cons_ne {key k : K} (h : key ≠ k) (v value : V)
    (es : List (Sigma fun _ : K => V)) :
    (⟨k, v⟩ :: es).kreplace key value = ⟨k, v⟩ :: es.kreplace key value := by
  unfold List.kreplace
  exact List.lookmap_cons_none _ _ (if_neg h)

theorem kerase_kreplace (key : K) (value : V) (es : List (Sigma fun _ : K => V)) :
    (es.kreplace key value).kerase key = es.kerase key := by
  induction es with
  | nil => rfl
  | cons e es ih =>
    obtain ⟨k, v⟩ := e
    by_cases h : key = k
    · subst h
      simp [kreplace_cons_self, List.kerase]
    · rw [kreplace_cons_ne h, List.kerase_cons_ne h, List.kerase_cons_ne h, ih]

theorem dlookup_kreplace {key : K} {es : List (Sigma fun _ : K => V)} (h : key ∈ es.keys)
    (value : V) : (es.kreplace key value).dlookup key = some value := by
  induction es with
  | nil => simp at h
  | cons e es ih =>
    obtain ⟨k, v⟩ := e
    by_cases hk : key = k
    · subst hk
      rw [kreplace_cons_self, List.dlookup_cons_eq]
    · have hmem : key ∈ es.keys := by simpa [hk] using h
      rw [kreplace_cons_ne hk, List.dlookup_cons_ne _ _ hk, ih hmem]

/-- **An assignment followed by `move_to_end`** puts the new entry at the end. -/
theorem moveToEnd_setItem (d : OrderedDict K V) (key : K) (value : V) :
    moveToEnd (setItem d key value) key = d.insert key value := by
  unfold setItem moveToEnd
  split_ifs with h
  · have hlookup : (d.replace key value).lookup key = some value := dlookup_kreplace h value
    rw [hlookup]
    apply AList.ext
    simp only [AList.entries_insert]
    exact congrArg _ (kerase_kreplace key value d.entries)
  · rw [AList.lookup_insert]
    exact AList.insert_insert d

theorem moveToEnd_of_lookup {d : OrderedDict K V} {key : K} {value : V}
    (h : d.lookup key = some value) : moveToEnd d key = d.insert key value := by
  rw [moveToEnd, h]

omit [DecidableEq K] in
theorem length_eq_length_keys (d : OrderedDict K V) : length d = d.keys.length :=
  (List.length_map _).symm

theorem length_insert (d : OrderedDict K V) (key : K) (value : V) :
    length (d.insert key value) = if key ∈ d then length d else length d + 1 := by
  simp only [length_eq_length_keys, AList.keys_insert, List.length_cons, List.length_erase,
    AList.mem_keys]
  split_ifs with h
  · have := List.length_pos_of_mem h
    omega
  · rfl

theorem length_erase (d : OrderedDict K V) (key : K) :
    length (d.erase key) = if key ∈ d then length d - 1 else length d := by
  simp only [length_eq_length_keys, AList.keys_erase, List.length_erase, AList.mem_keys]

/-- A key that is looked up is there. -/
theorem mem_of_lookup {d : OrderedDict K V} {key : K} {value : V}
    (h : d.lookup key = some value) : key ∈ d :=
  AList.lookup_isSome.mp (by rw [h]; rfl)

theorem length_moveToEnd (d : OrderedDict K V) (key : K) : length (moveToEnd d key) = length d := by
  cases h : d.lookup key with
  | none => rw [moveToEnd, h]
  | some value =>
    rw [moveToEnd_of_lookup h, length_insert, if_pos (mem_of_lookup h)]

/-! ### Eviction -/

omit [DecidableEq K] in
theorem evictLoop_spec (max fuel : ℕ) (d : OrderedDict K V) (h : length d ≤ fuel) :
    (evictLoop max fuel d).1.entries = d.entries.take max ∧
      (evictLoop max fuel d).2 = length d - max := by
  induction fuel generalizing d with
  | zero =>
    have hnil : d.entries = [] := List.length_eq_zero_iff.mp (Nat.le_zero.mp h)
    simp [evictLoop, hnil, length]
  | succ fuel ih =>
    rw [evictLoop]
    split_ifs with hmax
    · -- Popping the first entry takes away one that `take max` drops anyway.
      have hpop : length (popFirst d) = length d - 1 := by simp [popFirst, length]
      have htake : (popFirst d).entries.take max = d.entries.take max := by
        show d.entries.dropLast.take max = _
        rw [List.dropLast_eq_take, List.take_take]
        unfold length at hmax
        congr 1
        omega
      obtain ⟨hes, hn⟩ := ih (popFirst d) (by omega)
      exact ⟨hes.trans htake, by show (evictLoop max fuel (popFirst d)).2 + 1 = _; omega⟩
    · have hle : d.entries.length ≤ max := by unfold length at hmax; omega
      rw [List.take_of_length_le hle]
      exact ⟨rfl, by show 0 = _; omega⟩

omit [DecidableEq K] in
/-- **The loop leaves the `max` latest entries.** -/
theorem evict_entries (max : ℕ) (d : OrderedDict K V) :
    (evict max d).1.entries = d.entries.take max :=
  (evictLoop_spec max (length d) d le_rfl).1

omit [DecidableEq K] in
/-- It pops the others. -/
theorem evict_count (max : ℕ) (d : OrderedDict K V) : (evict max d).2 = length d - max :=
  (evictLoop_spec max (length d) d le_rfl).2

omit [DecidableEq K] in
theorem evict_keys (max : ℕ) (d : OrderedDict K V) : (evict max d).1.keys = d.keys.take max := by
  unfold AList.keys List.keys
  rw [evict_entries, List.map_take]

omit [DecidableEq K] in
theorem length_evict_le (max : ℕ) (d : OrderedDict K V) : length (evict max d).1 ≤ max := by
  unfold length
  rw [evict_entries]
  exact List.length_take_le _ _

/-- What the cut-down dict holds, the dict held. -/
theorem lookup_of_lookup_evict {max : ℕ} {d : OrderedDict K V} {key : K} {value : V}
    (h : (evict max d).1.lookup key = some value) : d.lookup key = some value := by
  have hmem := AList.mem_lookup_iff.mp h
  rw [evict_entries] at hmem
  exact AList.mem_lookup_iff.mpr (List.mem_of_mem_take hmem)

/-- A key that is still there reads as before. -/
theorem lookup_evict {max : ℕ} {d : OrderedDict K V} {key : K} (h : key ∈ d.keys.take max) :
    (evict max d).1.lookup key = d.lookup key := by
  have hmem : key ∈ (evict max d).1 := by rwa [AList.mem_keys, evict_keys]
  obtain ⟨value, hvalue⟩ := Option.isSome_iff_exists.mp (AList.lookup_isSome.mpr hmem)
  rw [hvalue, lookup_of_lookup_evict hvalue]

end OrderedDict

end Algorandscout.Library
