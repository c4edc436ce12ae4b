import Mathlib.Data.ENat.Basic
import Mathlib.Tactic.Common

namespace Algorandscout.Library

/-!
# Chains of pages

A collection served in pages: a request with a cursor gives a page, and the page may name the
cursor of the page after it.  The pages that follow each other so are a chain, which may be
finite, run in a circle or never end.

* `cursor`, `page` — the cursor and the page at each place of the chain;
* `chainLength` — the length of the chain, `⊤` when it never ends;
* `page_isSome_iff` — the places that the chain has;
* `collection` — the items of a finite chain, in order.
-/

/-- A collection served in pages.  The first request has no cursor. -/
structure Paged (Token Page : Type) where
  fetch : Option Token → Page
  next : Page → Option Token

namespace Paged

variable {Token Page Item : Type} (c : Paged Token Page)

/-- The cursor of the `k`-th request after the one with the cursor `start`. -/
def cursor (start : Option Token) : ℕ → Option (Option Token)
  | 0 => some start
  | k + 1 => (cursor start k).bind fun t => (c.next (c.fetch t)).map some

/-- The `k`-th page after the one at the cursor `start`. -/
def page (start : Option Token) (k : ℕ) : Option Page := (c.cursor start k).map c.fetch

variable {c} {start : Option Token}

/-- The chain that a page without a next cursor ends. -/
theorem cursor_succ_of_none (h : c.next (c.fetch start) = none) (k : ℕ) :
    c.cursor start (k + 1) = none := by
  induction k with
  | zero =>
    show (c.next (c.fetch start)).map some = none
    rw [h, Option.map_none]
  | succ k ih =>
    show (c.cursor start (k + 1)).bind _ = none
    rw [ih, Option.bind_none]

/-- The chain goes on from the cursor that its first page names. -/
theorem cursor_succ_of_some {t : Token} (h : c.next (c.fetch start) = some t) (k : ℕ) :
    c.cursor start (k + 1) = c.cursor (some t) k := by
  induction k with
  | zero =>
    show (c.next (c.fetch start)).map some = some (some t)
    rw [h, Option.map_some]
  | succ k ih =>
    show (c.cursor start (k + 1)).bind _ = (c.cursor (some t) k).bind _
    rw [ih]

theorem page_succ_of_none (h : c.next (c.fetch start) = none) (k : ℕ) :
    c.page start (k + 1) = none := by
  unfold page
  rw [cursor_succ_of_none h, Option.map_none]

theorem page_succ_of_some {t : Token} (h : c.next (c.fetch start) = some t) (k : ℕ) :
    c.page start (k + 1) = c.page (some t) k := by
  unfold page
  rw [cursor_succ_of_some h]

/-- The cursor after a page is the one that page names. -/
theorem cursor_succ (k : ℕ) :
    c.cursor start (k + 1) = (c.page start k).bind fun p => (c.next p).map some := by
  show (c.cursor start k).bind _ = _
  unfold page
  cases c.cursor start k with
  | none => rfl
  | some t => rfl

/-! ### Length -/

variable (c) in
open Classical in
/-- The length of the chain that starts without a cursor. -/
noncomputable def chainLength : ℕ∞ :=
  if h : ∃ k, c.page none k = none then Nat.find h else ⊤

/-- A chain that has ended does not go on. -/
theorem page_eq_none_of_le {j k : ℕ} (hjk : j ≤ k) (h : c.page start j = none) :
    c.page start k = none := by
  induction k, hjk using Nat.le_induction with
  | base => exact h
  | succ k _ ih =>
    unfold page at ih ⊢
    rw [Option.map_eq_none_iff] at ih ⊢
    show (c.cursor start k).bind _ = none
    rw [ih, Option.bind_none]

/-- **The places that the chain has.** -/
theorem page_isSome_iff (k : ℕ) : (c.page none k).isSome ↔ (k : ℕ∞) < c.chainLength := by
  unfold chainLength
  split_ifs with h
  · rw [Nat.cast_lt, Nat.lt_find_iff]
    constructor
    · intro hsome j hjk hnone
      rw [page_eq_none_of_le hjk hnone] at hsome
      cases hsome
    · intro hbefore
      exact Option.isSome_iff_ne_none.mpr (hbefore k le_rfl)
  · push Not at h
    exact iff_of_true (Option.isSome_iff_ne_none.mpr (h k)) (ENat.natCast_lt_top k)

/-- The first page is always there. -/
theorem chainLength_pos : 0 < c.chainLength := (page_isSome_iff 0).mp rfl

/-- A list whose places are those below `x` has that length. -/
theorem length_eq_of_places {Entry : Type} {entries : List Entry} {x : ℕ∞}
    (h : ∀ k : ℕ, entries[k]?.isSome ↔ (k : ℕ∞) < x) : (entries.length : ℕ∞) = x := by
  apply ENat.eq_of_forall_natCast_le_iff
  intro a
  rw [Nat.cast_le]
  cases a with
  | zero => simp
  | succ k =>
    rw [Nat.succ_le_iff, Nat.cast_succ, ENat.natCast_add_one_le_iff, ← h k]
    simp

/-- The items of the first `n` pages, in order. -/
def collection (c : Paged Token Page) (items : Page → List Item) (n : ℕ) : List Item :=
  (List.range n).flatMap fun k => ((c.page none k).map items).getD []

/-- A list that holds the pages of the first `n` places holds their items. -/
theorem flatMap_eq_collection {pages : List Page} {n : ℕ} (hlength : pages.length = n)
    (h : ∀ k < n, pages[k]? = c.page none k) (items : Page → List Item) :
    pages.flatMap items = c.collection items n := by
  subst hlength
  unfold collection
  have hpages : pages.map items =
      (List.range pages.length).map fun k => ((c.page none k).map items).getD [] := by
    apply List.ext_getElem
    · rw [List.length_map, List.length_map, List.length_range]
    · intro k hk _
      rw [List.length_map] at hk
      rw [List.getElem_map, List.getElem_map, List.getElem_range, ← h k hk,
        List.getElem?_eq_getElem hk]
      rfl
  rw [List.flatMap_def, hpages, ← List.flatMap_def]

end Paged

end Algorandscout.Library
