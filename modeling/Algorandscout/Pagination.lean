import Mathlib
import Algorandscout.Client
import Algorandscout.Library.Cursor

namespace Algorandscout

open Library

/-!
# `paginate`

`AlgorandClient.paginate` follows the `next-token` cursor of a read method for `max_pages` pages
at most.  The upstream is a function from cursors to pages; its cursors may end, run in a circle
or never end.

* `paginate` — the loop, as a consumer that exhausts it sees it;
* `paginateFrom_spec` — what the loop does from any cursor on;
* `FollowsChain`, `paginate_followsChain` — the loop walks the chain of the upstream's pages.
-/

/-- What `paginate` does for a consumer that exhausts it. -/
structure Pagination where
  /-- The `next_token` of each request. -/
  requests : List Json
  /-- The pages yielded. -/
  pages : List Dict
  /-- Whether it logs that it stopped with the cursor still open. -/
  warned : Bool

/-- The loop of `paginate`, with the pages it may still ask for. -/
def paginateFrom (fn : Json → Dict) (token : Json) : ℕ → Pagination
  -- The bound is used up: the loop ends without a `return`.
  | 0 => ⟨[], [], true⟩
  | remaining + 1 =>
    let payload := fn token
    let next := payload.get "next-token"
    if next.truthy then
      let rest := paginateFrom fn next remaining
      ⟨token :: rest.requests, payload :: rest.pages, rest.warned⟩
    else ⟨[token], [payload], false⟩

/-- `paginate`, of the method that answers a `next_token` with the page `fn` gives. -/
def paginate (fn : Json → Dict) (maxPages : ℕ) : Pagination := paginateFrom fn .null maxPages

/-- The upstream behind a method, as a collection served in pages.  A `next-token` that is absent,
    null or empty names no further page. -/
def pagedBy (fn : Json → Dict) : Paged Json Dict where
  fetch := fun token => fn (token.getD .null)
  next := fun payload =>
    let token := payload.get "next-token"
    if token.truthy then some token else none

variable {fn : Json → Dict}

theorem next_pagedBy_of_truthy {payload : Dict} (h : (payload.get "next-token").truthy = true) :
    (pagedBy fn).next payload = some (payload.get "next-token") := if_pos h

theorem next_pagedBy_of_not_truthy {payload : Dict}
    (h : ¬ (payload.get "next-token").truthy = true) : (pagedBy fn).next payload = none := if_neg h

/-! ### The loop -/

/-- What the loop does, from any cursor on and with any number of pages left. -/
structure LoopFrom (fn : Json → Dict) (start : Option Json) (remaining : ℕ) (run : Pagination) :
    Prop where
  pages_get (k : ℕ) :
    run.pages[k]? = if k < remaining then (pagedBy fn).page start k else none
  requests_get (k : ℕ) :
    run.requests[k]? =
      if k < remaining then ((pagedBy fn).cursor start k).map (·.getD .null) else none
  warned_iff : run.warned = true ↔ ((pagedBy fn).page start remaining).isSome

/-- **The loop follows the cursors.** -/
theorem paginateFrom_spec (start : Option Json) (remaining : ℕ) :
    LoopFrom fn start remaining (paginateFrom fn (start.getD .null) remaining) := by
  induction remaining generalizing start with
  | zero =>
    refine ⟨fun k => ?_, fun k => ?_, ?_⟩
    · rw [if_neg (Nat.not_lt_zero k)]
      rfl
    · rw [if_neg (Nat.not_lt_zero k)]
      rfl
    · exact iff_of_true rfl rfl
  | succ remaining ih =>
    rw [paginateFrom]
    by_cases hnext : ((fn (start.getD .null)).get "next-token").truthy = true
    · -- The rest of the loop runs from the cursor that the page names.
      have hsome : (pagedBy fn).next (fn (start.getD .null)) = _ := next_pagedBy_of_truthy hnext
      obtain ⟨hpages, hrequests, hwarned⟩ := ih (some ((fn (start.getD .null)).get "next-token"))
      simp only [if_pos hnext]
      refine ⟨fun k => ?_, fun k => ?_, ?_⟩
      · cases k with
        | zero => rw [if_pos (Nat.succ_pos remaining)]; rfl
        | succ k =>
          rw [List.getElem?_cons_succ, Paged.page_succ_of_some hsome]
          simp only [Nat.succ_lt_succ_iff]
          exact hpages k
      · cases k with
        | zero => rw [if_pos (Nat.succ_pos remaining)]; rfl
        | succ k =>
          rw [List.getElem?_cons_succ, Paged.cursor_succ_of_some hsome]
          simp only [Nat.succ_lt_succ_iff]
          exact hrequests k
      · rw [Paged.page_succ_of_some hsome]
        exact hwarned
    · -- The chain ends with this page.
      have hnone : (pagedBy fn).next (fn (start.getD .null)) = _ :=
        next_pagedBy_of_not_truthy hnext
      simp only [if_neg hnext]
      refine ⟨fun k => ?_, fun k => ?_, ?_⟩
      · cases k with
        | zero => rw [if_pos (Nat.succ_pos remaining)]; rfl
        | succ k =>
          rw [Paged.page_succ_of_none hnone, ite_self]
          rfl
      · cases k with
        | zero => rw [if_pos (Nat.succ_pos remaining)]; rfl
        | succ k =>
          rw [Paged.cursor_succ_of_none hnone, Option.map_none, ite_self]
          rfl
      · rw [Paged.page_succ_of_none hnone]
        simp

/-! ### The whole walk -/

/-- The walk along the chain of pages that starts without a cursor. -/
structure FollowsChain (fn : Json → Dict) (maxPages : ℕ) (run : Pagination) : Prop where
  /-- As many pages as the chain has, up to the bound. -/
  pages_length : (run.pages.length : ℕ∞) = min (maxPages : ℕ∞) (pagedBy fn).chainLength
  /-- They are the first ones of the chain, in order. -/
  pages_get (k : ℕ) : k < run.pages.length → run.pages[k]? = (pagedBy fn).page none k
  /-- One request for each page. -/
  requests_length : run.requests.length = run.pages.length
  requests_le : run.requests.length ≤ maxPages
  /-- Each page is what its request was answered. -/
  pages_answer (k : ℕ) (token : Json) :
    run.requests[k]? = some token → run.pages[k]? = some (fn token)
  /-- The first request carries no token, .. -/
  first_request (token : Json) : run.requests[0]? = some token → token = .null
  /-- .. each later one the token of the page before it. -/
  next_request (k : ℕ) (token : Json) : run.requests[k + 1]? = some token →
    ∃ payload, run.pages[k]? = some payload ∧ payload.get "next-token" = token
  /-- The warning is for a chain that the bound cuts off. -/
  warned_iff : run.warned = true ↔ (maxPages : ℕ∞) < (pagedBy fn).chainLength ∨ maxPages = 0
  /-- A chain within the bound is yielded as a whole, each page once. -/
  complete (length : ℕ) : (pagedBy fn).chainLength = length → length ≤ maxPages →
    run.pages.length = length ∧ (∀ k, run.pages[k]? = (pagedBy fn).page none k) ∧
      ∀ (Item : Type) (items : Dict → List Item),
        run.pages.flatMap items = (pagedBy fn).collection items length

/-- The token a page names is its `next-token`. -/
theorem next_pagedBy_eq_some {payload : Dict} {token : Json}
    (h : (pagedBy fn).next payload = some token) : payload.get "next-token" = token := by
  by_cases htruthy : (payload.get "next-token").truthy = true
  · rw [next_pagedBy_of_truthy htruthy] at h
    exact Option.some.inj h
  · rw [next_pagedBy_of_not_truthy htruthy] at h
    cases h

section LoopFrom

variable {maxPages : ℕ} {run : Pagination}

/-- The pages yielded stand at the places of the chain below the bound. -/
theorem LoopFrom.length_pages (h : LoopFrom fn none maxPages run) :
    (run.pages.length : ℕ∞) = min (maxPages : ℕ∞) (pagedBy fn).chainLength := by
  apply Paged.length_eq_of_places
  intro k
  rw [h.pages_get, lt_min_iff, Nat.cast_lt, ← Paged.page_isSome_iff]
  by_cases hk : k < maxPages <;> simp [hk]

/-- So do the requests made. -/
theorem LoopFrom.length_requests (h : LoopFrom fn none maxPages run) :
    (run.requests.length : ℕ∞) = min (maxPages : ℕ∞) (pagedBy fn).chainLength := by
  apply Paged.length_eq_of_places
  intro k
  rw [h.requests_get, lt_min_iff, Nat.cast_lt, ← Paged.page_isSome_iff]
  by_cases hk : k < maxPages <;> simp [hk, Paged.page]

/-- A request made carries the cursor at its place of the chain. -/
theorem LoopFrom.cursor_of_request (h : LoopFrom fn none maxPages run) {k : ℕ} {token : Json}
    (htoken : run.requests[k]? = some token) :
    k < maxPages ∧ ∃ cursor, (pagedBy fn).cursor none k = some cursor ∧
      cursor.getD .null = token := by
  rw [h.requests_get] at htoken
  split_ifs at htoken with hk
  exact ⟨hk, Option.map_eq_some_iff.mp htoken⟩

/-- The page at a request's place is what the request was answered. -/
theorem LoopFrom.page_of_request (h : LoopFrom fn none maxPages run) {k : ℕ} {token : Json}
    (htoken : run.requests[k]? = some token) : run.pages[k]? = some (fn token) := by
  obtain ⟨hk, cursor, hcursor, rfl⟩ := h.cursor_of_request htoken
  rw [h.pages_get, if_pos hk]
  show ((pagedBy fn).cursor none k).map _ = _
  rw [hcursor]
  rfl

/-- The loop starts without a token. -/
theorem LoopFrom.request_zero (h : LoopFrom fn none maxPages run) {token : Json}
    (htoken : run.requests[0]? = some token) : token = .null := by
  obtain ⟨-, cursor, hcursor, rfl⟩ := h.cursor_of_request htoken
  obtain rfl := Option.some.inj hcursor
  rfl

/-- A later request carries the token that the page before it names. -/
theorem LoopFrom.request_succ (h : LoopFrom fn none maxPages run) {k : ℕ} {token : Json}
    (htoken : run.requests[k + 1]? = some token) :
    ∃ payload, run.pages[k]? = some payload ∧ payload.get "next-token" = token := by
  obtain ⟨hk, cursor, hcursor, rfl⟩ := h.cursor_of_request htoken
  rw [Paged.cursor_succ, Option.bind_eq_some_iff] at hcursor
  obtain ⟨payload, hpayload, hnext⟩ := hcursor
  refine ⟨payload, ?_, ?_⟩
  · rw [h.pages_get, if_pos (by omega), hpayload]
  · obtain ⟨named, hnamed, rfl⟩ := Option.map_eq_some_iff.mp hnext
    exact next_pagedBy_eq_some hnamed

/-- A bound that the chain does not reach cuts nothing off. -/
theorem LoopFrom.pages_get_of_le (h : LoopFrom fn none maxPages run)
    (hle : (pagedBy fn).chainLength ≤ maxPages) (k : ℕ) :
    run.pages[k]? = (pagedBy fn).page none k := by
  rw [h.pages_get]
  split_ifs with hk
  · rfl
  · have hend : ¬ (k : ℕ∞) < (pagedBy fn).chainLength := by
      have hbound : (maxPages : ℕ∞) ≤ k := Nat.cast_le.mpr (Nat.le_of_not_lt hk)
      exact not_lt.mpr (hle.trans hbound)
    rw [← Paged.page_isSome_iff, Bool.not_eq_true, Option.isSome_eq_false_iff,
      Option.isNone_iff_eq_none] at hend
    exact hend.symm

end LoopFrom

/-- **`paginate` walks the cursor chain.** -/
theorem paginate_followsChain (fn : Json → Dict) (maxPages : ℕ) :
    FollowsChain fn maxPages (paginate fn maxPages) := by
  have hloop : LoopFrom fn none maxPages (paginate fn maxPages) := paginateFrom_spec none maxPages
  generalize paginate fn maxPages = run at hloop
  refine ⟨hloop.length_pages, fun k hk => ?_, ?_, ?_, fun k token => hloop.page_of_request,
    fun token => hloop.request_zero, fun k token => hloop.request_succ, ?_,
    fun length hchain hle => ?_⟩
  · have hmin := (Nat.cast_lt (α := ℕ∞)).mpr hk
    rw [hloop.length_pages, lt_min_iff, Nat.cast_lt] at hmin
    rw [hloop.pages_get, if_pos hmin.1]
  · exact_mod_cast hloop.length_requests.trans hloop.length_pages.symm
  · have hmin : (run.requests.length : ℕ∞) ≤ maxPages :=
      hloop.length_requests.trans_le (min_le_left _ _)
    exact_mod_cast hmin
  · rw [hloop.warned_iff, Paged.page_isSome_iff]
    constructor
    · exact .inl
    · rintro (hlt | rfl)
      · exact hlt
      · exact Paged.chainLength_pos
  · have hbound : (pagedBy fn).chainLength ≤ maxPages := hchain.trans_le (Nat.cast_le.mpr hle)
    have hall := hloop.pages_get_of_le hbound
    have hlength : run.pages.length = length := by
      have hmin := hloop.length_pages
      rw [min_eq_right hbound, hchain] at hmin
      exact_mod_cast hmin
    refine ⟨hlength, hall, fun Item items => ?_⟩
    exact Paged.flatMap_eq_collection hlength (fun k _ => hall k) items

/-- A cursor that never ends is cut off. -/
example : (paginate (fun _ => [("next-token", .str "always-more")]) 4).pages.length = 4 := by decide

end Algorandscout
