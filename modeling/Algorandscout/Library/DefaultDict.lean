import Mathlib.Data.List.AList
import Mathlib.Tactic.Common

namespace Algorandscout.Library

/-!
# Dicts with a default

`collections.defaultdict` on Mathlib's association lists: a key that was never entered reads as
the default.  The order of the keys is left out.

* `DefaultDict.get`, `DefaultDict.update` — reading a key, and changing its value;
* `get_update` — what a change changes;
* `mem_entries_iff` — the entries, as the keys with their values;
* `flatMap_of_nodup` — what a loop over entries with distinct keys does for one of the keys.
-/

/-- A dict whose absent keys have a default value. -/
abbrev DefaultDict (K V : Type) := AList fun _ : K => V

namespace DefaultDict

variable {K V : Type} [DecidableEq K] {default : V}

/-- The value of a key. -/
def get (default : V) (d : DefaultDict K V) (k : K) : V := (d.lookup k).getD default

/-- `d[k] = f(d[k])`. -/
def update (default : V) (d : DefaultDict K V) (k : K) (f : V → V) : DefaultDict K V :=
  d.insert k (f (get default d k))

/-- **The value of one key changes, the others stay.** -/
theorem get_update (d : DefaultDict K V) (k : K) (f : V → V) (key : K) :
    get default (update default d k f) key =
      if key = k then f (get default d k) else get default d key := by
  unfold update
  by_cases h : key = k
  · subst h
    rw [if_pos rfl, get, AList.lookup_insert, Option.getD_some]
  · rw [if_neg h, get, AList.lookup_insert_ne h]
    rfl

theorem mem_update {d : DefaultDict K V} {k : K} {f : V → V} {key : K} :
    key ∈ update default d k f ↔ key = k ∨ key ∈ d := AList.mem_insert d

/-- The entries are the keys with their values. -/
theorem mem_entries_iff {d : DefaultDict K V} {k : K} {v : V} :
    (⟨k, v⟩ : Sigma fun _ : K => V) ∈ d.entries ↔ k ∈ d ∧ get default d k = v := by
  rw [← AList.mem_lookup_iff, ← AList.lookup_isSome]
  unfold get
  cases d.lookup k with
  | none => simp
  | some found => simp

omit [DecidableEq K] in
/-- A loop over entries whose keys are distinct comes by each key once. -/
theorem flatMap_of_nodup {β : Type} {entries : List (K × V)} (hnodup : (entries.map (·.1)).Nodup)
    {k : K} {v : V} (hmem : (k, v) ∈ entries) {f : K × V → List β}
    (hother : ∀ entry ∈ entries, entry.1 ≠ k → f entry = []) : entries.flatMap f = f (k, v) := by
  induction entries with
  | nil => cases hmem
  | cons entry entries ih =>
    obtain ⟨hnot, hrest⟩ := List.nodup_cons.mp hnodup
    obtain ⟨hhead, htail⟩ := List.forall_mem_cons.mp hother
    rw [List.flatMap_cons]
    rcases List.mem_cons.mp hmem with rfl | hmem'
    · -- The other entries have other keys.
      have hnil : entries.flatMap f = [] := by
        rw [List.flatMap_eq_nil_iff]
        intro entry hentry
        apply htail entry hentry
        rintro rfl
        exact hnot (List.mem_map.mpr ⟨entry, hentry, rfl⟩)
      rw [hnil, List.append_nil]
    · have hne : entry.1 ≠ k := by
        rintro rfl
        exact hnot (List.mem_map.mpr ⟨_, hmem', rfl⟩)
      rw [hhead hne, List.nil_append]
      exact ih hrest hmem' htail

end DefaultDict

end Algorandscout.Library
