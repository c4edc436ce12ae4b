import Algorandscout.RouteCourses

namespace Algorandscout

open Library Library.Program

/-!
# Search terms that search can answer

`classify_query` calls a term a number when `isdigit` accepts it, and `search` then hands it to
`int`, which reads less.

* `SearchTotal` — search ends with a response or an `AlgorandError`, whatever the upstream does;
* `NumberReads` — a term that looks like a number is one `int` reads;
* `search_total_iff` — search is total exactly on these terms;
* `search_not_total` — a term it is not total on.
-/

variable {keyText : KeyText} {q : String} {limit : Int} {log : RouteLog}

/-! ### What search may end with -/

/-- The mapper that reads the answer to a call accepts the payload. -/
def MapperAccepts (keyText : KeyText) : Call → Json → Prop
  | .account _ _, payload => ∃ items, foundAddress payload = .ok items
  | .transaction _, payload => ∃ items, foundTransaction payload = .ok items
  | .asset _, payload => ∃ items, foundToken payload = .ok items
  | .application _, payload => ∃ items, foundSmartContract keyText payload = .ok items
  | .searchAssets _ _ _, payload => ∃ items, foundAssets payload = .ok items
  | _, _ => True

/-- Every call failed with an `AlgorandError`, or returned a payload that its mapper accepts. -/
def AnswersAccepted (keyText : KeyText) (log : RouteLog) : Prop :=
  ∀ call payload, (call, Except.ok payload) ∈ callsOf log → MapperAccepts keyText call payload

/-- A response or an `AlgorandError`. -/
def EndsProperly {α : Type} (result : Except ServiceError α) : Prop :=
  (∃ response, result = .ok response) ∨ ∃ exc, result = .error (.algorand exc)

/-- Search ends properly whatever the upstream answers. -/
def SearchTotal (keyText : KeyText) (q : String) (limit : Int) : Prop :=
  ∀ log result, Course (search keyText q limit) log result → AnswersAccepted keyText log →
    EndsProperly result

/-- **The terms that search can answer.** A term that `classify_query` calls a number consists of
    decimal digits, and of no more than `int` takes. -/
def NumberReads (q : String) : Prop :=
  classifyQuery (Text.strip q) = some .numeric →
    (∀ c ∈ (Text.strip q).toList, (Text.decimalValue? c).isSome) ∧
      (Text.strip q).toList.length ≤ Text.intMaxStrDigits

/-! ### The parts -/

theorem isdigit_of_numeric {query : String} (h : classifyQuery query = some .numeric) :
    Text.isdigit (Text.strip query) = true := by
  unfold classifyQuery at h
  dsimp only at h
  split_ifs at h with hempty haddress htxid hdigit
  · cases h
  · cases h
  · exact hdigit

/-- For a number, the two notions agree exactly on the terms that are read. -/
theorem numberReads_iff :
    NumberReads q ↔ (classifyQuery (Text.strip q) = some .numeric →
      ∃ n, Text.int (Text.strip q) = .ok n) := by
  unfold NumberReads
  apply imp_congr_right
  intro hkind
  have hdigit := isdigit_of_numeric hkind
  rw [Text.strip_strip] at hdigit
  have hstrip : Text.stripChars (Text.strip q).toList = (Text.strip q).toList := by simp
  exact (Text.int_of_isdigit_iff hstrip hdigit).symm

/-- A probe whose mapper accepts what it gets ends with results. -/
theorem probe_ok {call : Call} {mapper : Json → Except PyError (List SearchItem)}
    {result : Except ServiceError (List SearchItem)} (h : Course (probe call mapper) log result)
    (haccepts : ∀ payload, (call, .ok payload) ∈ callsOf log →
      ∃ items, mapper payload = .ok items) :
    ∃ items, result = .ok items := by
  obtain ⟨outcome, rfl, rfl⟩ := course_probe_iff.mp h
  cases outcome with
  | error exc => exact ⟨[], rfl⟩
  | ok payload =>
    obtain ⟨items, hitems⟩ := haccepts payload (by simp)
    exact ⟨items, by simp only [hitems]; rfl⟩

/-- An asset search ends with results or with the failure of its call. -/
theorem searchedAssets_proper {unit name : Option String}
    {result : Except ServiceError (List SearchItem)}
    (h : Course (searchedAssets (.searchAssets unit name limit)) log result)
    (haccepts : AnswersAccepted keyText log) : EndsProperly result := by
  obtain ⟨outcome, rfl, rfl⟩ := course_searchedAssets_iff.mp h
  cases outcome with
  | error exc => exact .inr ⟨exc, rfl⟩
  | ok payload =>
    obtain ⟨items, hitems⟩ := haccepts _ payload List.mem_cons_self
    exact .inl ⟨items, by simp only [hitems]; rfl⟩

theorem answersAccepted_append {first rest : RouteLog} :
    AnswersAccepted keyText (first ++ rest) ↔
      AnswersAccepted keyText first ∧ AnswersAccepted keyText rest := by
  simp only [AnswersAccepted, callsOf_append, List.mem_append, or_imp, forall_and]

/-- A part that ends properly, then a rest that does. -/
theorem EndsProperly.bind {α β : Type} {p : Route α} {f : α → Route β}
    {result : Except ServiceError β} (h : Course (p >>= f) log result)
    (haccepts : AnswersAccepted keyText log)
    (hp : ∀ {log result}, Course p log result → AnswersAccepted keyText log →
      EndsProperly result)
    (hf : ∀ {a log result}, Course (f a) log result → AnswersAccepted keyText log →
      EndsProperly result) : EndsProperly result := by
  rcases course_bind_iff.mp h with ⟨e, hfirst, rfl⟩ | ⟨first, rest, a, rfl, hfirst, hrest⟩
  · rcases hp hfirst haccepts with ⟨_, heq⟩ | ⟨exc, heq⟩
    · cases heq
    · obtain rfl := Except.error.inj heq
      exact .inr ⟨exc, rfl⟩
  · exact hf hrest (answersAccepted_append.mp haccepts).2

theorem EndsProperly.pure {α : Type} {a : α} {result : Except ServiceError α}
    (h : Course (Pure.pure a : Route α) log result) : EndsProperly result := by
  obtain ⟨-, rfl⟩ := course_pure_iff.mp h
  exact .inl ⟨a, rfl⟩

/-! ### The route -/

/-- On a term that reads, search ends properly. -/
theorem searchTotal_of_numberReads (h : NumberReads q) : SearchTotal keyText q limit := by
  intro log result hcourse haccepts
  unfold search at hcourse
  dsimp only at hcourse
  cases hkind : classifyQuery (Text.strip q) with
  | none =>
    rw [hkind] at hcourse
    apply EndsProperly.bind hcourse haccepts searchedAssets_proper
    intro units log result hcourse haccepts
    -- Names are asked for only when no unit name matched.
    split_ifs at hcourse
    · exact EndsProperly.bind hcourse haccepts searchedAssets_proper fun h _ => .pure h
    · exact .pure hcourse
  | some kind =>
    rw [hkind] at hcourse
    cases kind with
    | address =>
      refine EndsProperly.bind hcourse haccepts ?_ fun h _ => .pure h
      intro log result hprobe haccepts
      exact .inl (probe_ok hprobe fun payload => haccepts _ payload)
    | transaction =>
      refine EndsProperly.bind hcourse haccepts ?_ fun h _ => .pure h
      intro log result hprobe haccepts
      exact .inl (probe_ok hprobe fun payload => haccepts _ payload)
    | numeric =>
      obtain ⟨n, hn⟩ := numberReads_iff.mp h hkind
      rcases course_ofExcept_bind_iff.mp hcourse with ⟨e, he, -⟩ | ⟨n', -, hnumber⟩
      · rw [hn] at he
        cases he
      · cases hrange : validateUint64 (.int n') "id" with
        | error e =>
          rw [hrange] at hnumber
          exact .pure hnumber
        | ok _ =>
          rw [hrange] at hnumber
          refine EndsProperly.bind hnumber haccepts ?_ ?_
          · intro log result hprobe haccepts
            exact .inl (probe_ok hprobe fun payload => haccepts _ payload)
          · intro tokens log result hcourse haccepts
            refine EndsProperly.bind hcourse haccepts ?_ fun h _ => .pure h
            intro log result hprobe haccepts
            exact .inl (probe_ok hprobe fun payload => haccepts _ payload)

/-- A number that `int` does not read ends search with a `ValueError`, before any call. -/
theorem course_of_not_numberReads (keyText : KeyText) (limit : Int) (h : ¬NumberReads q) :
    ∃ e, Course (search keyText q limit) [] (.error (.unhandled e)) := by
  rw [numberReads_iff, Classical.not_imp] at h
  obtain ⟨hkind, hint⟩ := h
  cases hread : Text.int (Text.strip q) with
  | ok n => exact absurd ⟨n, hread⟩ hint
  | error e =>
    refine ⟨e, ?_⟩
    unfold search
    dsimp only
    rw [hkind]
    exact course_ofExcept_bind_iff.mpr (.inl ⟨_, by rw [hread]; rfl, rfl, rfl⟩)

/-- Totality alone decides it: a number that does not read is answered with a `ValueError`. -/
theorem searchTotal_iff_numberReads : SearchTotal keyText q limit ↔ NumberReads q := by
  refine ⟨?_, searchTotal_of_numberReads⟩
  intro htotal
  by_contra h
  obtain ⟨e, hcourse⟩ := course_of_not_numberReads keyText limit h
  rcases htotal [] _ hcourse (by simp [AnswersAccepted]) with ⟨_, heq⟩ | ⟨_, heq⟩
  · cases heq
  · cases heq

/-- **Search is total exactly on the terms that read**: it ends with a response or an
    `AlgorandError` whatever the upstream answers, and `int` takes what `classify_query` calls a
    number. -/
theorem search_total_iff (keyText : KeyText) (q : String) (limit : Int) :
    (SearchTotal keyText q limit ∧
      (classifyQuery (Text.strip q) = some .numeric → ∃ n, Text.int (Text.strip q) = .ok n)) ↔
      NumberReads q := by
  rw [searchTotal_iff_numberReads, ← numberReads_iff, and_self]

/-- **A term that search is not total on**: a superscript digit makes a number for
    `classify_query`, and a `ValueError` in `int`. -/
theorem search_not_total :
    classifyQuery (Text.strip "12²") = some .numeric ∧
    Text.int (Text.strip "12²") = .error .valueError ∧
    ¬SearchTotal (fun _ => none) "12²" 10 := by
  refine ⟨by decide, by decide, ?_⟩
  rw [searchTotal_iff_numberReads, numberReads_iff]
  intro h
  obtain ⟨n, hn⟩ := h (by decide)
  have herror : Text.int (Text.strip "12²") = .error .valueError := by decide
  rw [herror] at hn
  cases hn

end Algorandscout
