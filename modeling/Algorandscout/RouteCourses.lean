import Algorandscout.Search
import Algorandscout.Library.Courses

namespace Algorandscout

open Library Library.Program

/-!
# Courses of the routes

What a route may do over every behaviour of the upstream and every content of the cache.

* `callsOf` — the upstream calls of a course, with their outcomes;
* `course_askUpstream_bind_iff`, `course_upstream_bind_iff` — the courses of an upstream call;
* `Fetched` — the courses of `get_or_fetch`;
* `course_probe_iff`, `course_searchedAssets_iff` — those of the parts of `search`.
-/

/-- What a route asked of its environment, with the answers. -/
abbrev RouteLog := Log Op.Answer

/-- The upstream call an operation makes, with its outcome. -/
def callOf : (op : Op) × op.Answer → Option (Call × Outcome)
  | ⟨.upstream call, outcome⟩ => some (call, outcome)
  | ⟨.cacheGet _ _, _⟩ => none
  | ⟨.cacheSet _ _ _, _⟩ => none

/-- The upstream calls of a course. -/
def callsOf (log : RouteLog) : CallLog := log.filterMap callOf

variable {α : Type} {log : RouteLog} {result : Except ServiceError α}

@[simp] theorem callsOf_nil : callsOf [] = [] := rfl

@[simp] theorem callsOf_upstream (call : Call) (outcome : Outcome) (rest : RouteLog) :
    callsOf (⟨.upstream call, outcome⟩ :: rest) = (call, outcome) :: callsOf rest := rfl

@[simp] theorem callsOf_cacheGet (kind key : String) (hit : Option Json) (rest : RouteLog) :
    callsOf (⟨.cacheGet kind key, hit⟩ :: rest) = callsOf rest := rfl

@[simp] theorem callsOf_cacheSet (kind key : String) (value : Option Json) (rest : RouteLog) :
    callsOf (⟨.cacheSet kind key value, ()⟩ :: rest) = callsOf rest := rfl

@[simp] theorem callsOf_append (first rest : RouteLog) :
    callsOf (first ++ rest) = callsOf first ++ callsOf rest := List.filterMap_append

/-! ### Operations -/

/-- An upstream call whose outcome the route looks at. -/
theorem course_askUpstream_bind_iff {call : Call} {f : Outcome → Route α} :
    Course (askUpstream call >>= f) log result ↔
      ∃ (outcome : Outcome) (rest : RouteLog),
        log = ⟨.upstream call, outcome⟩ :: rest ∧ Course (f outcome) rest result :=
  course_ask_bind_iff

/-- An upstream call whose failure leaves the route. -/
theorem course_upstream_iff {call : Call} {result : Except ServiceError Json} :
    Course (upstream call) log result ↔
      ∃ outcome : Outcome, log = [⟨.upstream call, outcome⟩] ∧
        result = outcome.mapError .algorand := by
  unfold upstream
  rw [course_askUpstream_bind_iff]
  constructor
  · rintro ⟨outcome, rest, rfl, h⟩
    refine ⟨outcome, ?_⟩
    cases outcome with
    | ok payload =>
      obtain ⟨rfl, rfl⟩ := course_pure_iff.mp h
      exact ⟨rfl, rfl⟩
    | error exc =>
      obtain ⟨rfl, rfl⟩ := course_raise_iff.mp h
      exact ⟨rfl, rfl⟩
  · rintro ⟨outcome, rfl, rfl⟩
    refine ⟨outcome, [], rfl, ?_⟩
    cases outcome with
    | ok payload => exact course_pure_iff.mpr ⟨rfl, rfl⟩
    | error exc => exact course_raise_iff.mpr ⟨rfl, rfl⟩

/-- An upstream call, and what is done with its payload. -/
theorem course_upstream_bind_iff {call : Call} {f : Json → Route α} :
    Course (upstream call >>= f) log result ↔
      (∃ exc : AlgorandError, log = [⟨.upstream call, (.error exc : Outcome)⟩] ∧
        result = .error (.algorand exc)) ∨
      ∃ (payload : Json) (rest : RouteLog),
        log = ⟨.upstream call, (.ok payload : Outcome)⟩ :: rest ∧
          Course (f payload) rest result := by
  rw [course_bind_iff]
  constructor
  · rintro (⟨e, hcall, rfl⟩ | ⟨first, rest, payload, rfl, hcall, hrest⟩)
    · obtain ⟨outcome, rfl, heq⟩ := course_upstream_iff.mp hcall
      cases outcome with
      | ok payload => cases heq
      | error exc =>
        obtain rfl := Except.error.inj heq
        exact .inl ⟨exc, rfl, rfl⟩
    · obtain ⟨outcome, rfl, heq⟩ := course_upstream_iff.mp hcall
      cases outcome with
      | ok payload' =>
        obtain rfl := Except.ok.inj heq
        exact .inr ⟨payload, rest, rfl, hrest⟩
      | error exc => cases heq
  · rintro (⟨exc, rfl, rfl⟩ | ⟨payload, rest, rfl, hrest⟩)
    · exact .inl ⟨_, course_upstream_iff.mpr ⟨.error exc, rfl, rfl⟩, rfl⟩
    · exact .inr ⟨_, rest, payload, rfl, course_upstream_iff.mpr ⟨.ok payload, rfl, rfl⟩, hrest⟩

/-- A mapper, and what is done with what it gives. -/
theorem course_mapping_bind_iff {β : Type} {x : Except PyError β} {f : β → Route α} :
    Course (Program.ofExcept (mapping x) >>= f) log result ↔
      (∃ e, x = .error e ∧ log = [] ∧ result = .error (.unhandled e)) ∨
        ∃ b, x = .ok b ∧ Course (f b) log result := by
  rw [course_ofExcept_bind_iff]
  cases x with
  | ok b => simp [mapping, Except.mapError]
  | error e => simp [mapping, Except.mapError]

/-- Storing a value, and what is done after it. -/
theorem course_cacheSet_bind_iff {kind key : String} {value : Option Json} {f : Unit → Route α} :
    Course (cacheSet kind key value >>= f) log result ↔
      ∃ rest : RouteLog, log = ⟨.cacheSet kind key value, ()⟩ :: rest ∧
        Course (f ()) rest result := by
  refine course_ask_bind_iff.trans ?_
  constructor
  · rintro ⟨⟨⟩, rest, hlog, h⟩
    exact ⟨rest, hlog, h⟩
  · rintro ⟨rest, hlog, h⟩
    exact ⟨(), rest, hlog, h⟩

/-- The courses of `get_or_fetch`: a hit asks nothing, a miss makes the one call. -/
inductive Fetched (kind key : String) (call : Call) : RouteLog → Except ServiceError Json → Prop
  | hit (value : Json) :
    Fetched kind key call [⟨.cacheGet kind key, (some value : Option Json)⟩] (.ok value)
  | failed (exc : AlgorandError) :
    Fetched kind key call
      [⟨.cacheGet kind key, (none : Option Json)⟩, ⟨.upstream call, (.error exc : Outcome)⟩]
      (.error (.algorand exc))
  /-- What the call gave is stored. -/
  | stored (payload : Json) :
    Fetched kind key call
      [⟨.cacheGet kind key, (none : Option Json)⟩, ⟨.upstream call, (.ok payload : Outcome)⟩,
        ⟨.cacheSet kind key payload.asValue, ()⟩] (.ok payload)

/-- **`get_or_fetch`.** -/
theorem fetched_of_course {kind key : String} {call : Call} {result : Except ServiceError Json}
    (h : Course (getOrFetch kind key (upstream call)) log result) :
    Fetched kind key call log result := by
  unfold getOrFetch cacheGet at h
  obtain ⟨value, rest, rfl, hmatch⟩ := course_ask_bind_iff.mp h
  cases value with
  | some hit =>
    obtain ⟨rfl, rfl⟩ := course_pure_iff.mp hmatch
    exact .hit hit
  | none =>
    rcases course_upstream_bind_iff.mp hmatch with ⟨exc, rfl, rfl⟩ | ⟨payload, rest, rfl, hset⟩
    · exact .failed exc
    · obtain ⟨rest, rfl, hend⟩ := course_cacheSet_bind_iff.mp hset
      obtain ⟨rfl, rfl⟩ := course_pure_iff.mp hend
      exact .stored payload

/-! ### The parts of `search` -/

/-- One probe makes one call, and passes its failure over. -/
theorem course_probe_iff {call : Call} {mapper : Json → Except PyError (List SearchItem)}
    {result : Except ServiceError (List SearchItem)} :
    Course (probe call mapper) log result ↔
      ∃ outcome : Outcome, log = [⟨.upstream call, outcome⟩] ∧
        result = match outcome with
          | .ok payload => mapping (mapper payload)
          | .error _ => .ok [] := by
  unfold probe
  rw [course_askUpstream_bind_iff]
  constructor
  · rintro ⟨outcome, rest, rfl, h⟩
    refine ⟨outcome, ?_⟩
    cases outcome with
    | ok payload =>
      obtain ⟨rfl, rfl⟩ := course_ofExcept_iff.mp h
      exact ⟨rfl, rfl⟩
    | error exc =>
      obtain ⟨rfl, rfl⟩ := course_pure_iff.mp h
      exact ⟨rfl, rfl⟩
  · rintro ⟨outcome, rfl, rfl⟩
    refine ⟨outcome, [], rfl, ?_⟩
    cases outcome with
    | ok payload => exact course_ofExcept_iff.mpr ⟨rfl, rfl⟩
    | error exc => exact course_pure_iff.mpr ⟨rfl, rfl⟩

/-- One asset search makes one call, and lets its failure through. -/
theorem course_searchedAssets_iff {call : Call}
    {result : Except ServiceError (List SearchItem)} :
    Course (searchedAssets call) log result ↔
      ∃ outcome : Outcome, log = [⟨.upstream call, outcome⟩] ∧
        result = match outcome with
          | .ok payload => mapping (foundAssets payload)
          | .error exc => .error (.algorand exc) := by
  unfold searchedAssets
  rw [course_upstream_bind_iff]
  constructor
  · rintro (⟨exc, rfl, rfl⟩ | ⟨payload, rest, rfl, hmap⟩)
    · exact ⟨.error exc, rfl, rfl⟩
    · obtain ⟨rfl, rfl⟩ := course_ofExcept_iff.mp hmap
      exact ⟨.ok payload, rfl, rfl⟩
  · rintro ⟨outcome, rfl, rfl⟩
    cases outcome with
    | ok payload => exact .inr ⟨payload, [], rfl, course_ofExcept_iff.mpr ⟨rfl, rfl⟩⟩
    | error exc => exact .inl ⟨exc, rfl, rfl⟩

/-- An address search whose call fails. -/
theorem course_of_failed_address_search (keyText : KeyText) {q : String}
    (hkind : classifyQuery (Text.strip q) = some .address) (limit : Int) (exc : AlgorandError) :
    Course (search keyText q limit)
      [⟨.upstream (.account (Text.strip q) false), (.error exc : Outcome)⟩]
      (.ok ⟨[], candidatesNote⟩) := by
  unfold search
  dsimp only
  rw [hkind]
  refine course_bind_iff.mpr (.inr ⟨_, [], [], (List.append_nil _).symm, ?_, ?_⟩)
  · exact course_probe_iff.mpr ⟨.error exc, rfl, rfl⟩
  · exact course_pure_iff.mpr ⟨rfl, rfl⟩

/-- A name search whose first call fails. -/
theorem course_of_failed_name_search (keyText : KeyText) {q : String}
    (hkind : classifyQuery (Text.strip q) = none) (limit : Int) (exc : AlgorandError) :
    Course (search keyText q limit)
      [⟨.upstream (.searchAssets (some (Text.strip q)) none limit), (.error exc : Outcome)⟩]
      (.error (.algorand exc)) := by
  unfold search
  dsimp only
  rw [hkind]
  refine course_bind_iff.mpr (.inl ⟨_, ?_, rfl⟩)
  exact course_searchedAssets_iff.mpr ⟨.error exc, rfl, rfl⟩

end Algorandscout
