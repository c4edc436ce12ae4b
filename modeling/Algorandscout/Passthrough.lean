import Algorandscout.Client
import Algorandscout.Library.Walk
import Algorandscout.Python.Text

namespace Algorandscout

open Library

/-!
# The native passthrough

The route checks the request path as it is; the HTTP client removes dot segments from the URL
before it sends the request.  Both are modelled on characters, and compared.  Of what the client
does to a URL the removal of RFC 3986 alone is modelled: it also decodes `%2e` and drops tabs
before it.

* `allowed` — the route's check, `passthroughTarget` — the route up to the upstream call;
* `urlPath`, `removeDotSegments` — the path of a URL, and its dot segments removed;
* `Contained` — the route refuses the path, or the path sent is an allowlisted one;
* `StaysIn` — walking the segments after the allowlisted name does not lead out of it for good;
* `contained_iff` — the two agree;
* `passthrough_escapes` — a request that is sent out of the allowlist.
-/

/-- Native indexer paths the passthrough will serve. -/
def passthroughPrefixes : List String :=
  ["/v2/accounts", "/v2/assets", "/v2/applications", "/v2/blocks", "/v2/transactions"]

/-- `any(target == p or target.startswith(p + "/") for p in PASSTHROUGH_PREFIXES)`. -/
def allowed (target : String) : Bool :=
  passthroughPrefixes.any fun p => target == p || Text.startsWith target (p ++ "/")

/-- What FastAPI's `HTTPException` carries. -/
structure HttpException where
  statusCode : ℕ
  detail : String
  deriving DecidableEq, Repr

/-- `passthrough`, up to the upstream call: the call it makes, or 403. -/
def passthroughTarget (path : String) (queryParams : Dict) : Except HttpException Call :=
  let target := "/v2/" ++ path
  if !allowed target then
    .error ⟨403, s!"path not in passthrough allowlist: {target}"⟩
  else .ok (.indexer target queryParams)

/-! ### The path of a URL -/

/-- What follows `://`. -/
def afterScheme : List Char → List Char
  | ':' :: '/' :: '/' :: rest => rest
  | _ :: rest => afterScheme rest
  | [] => []

/-- The query or the fragment begins. -/
def endsPath (c : Char) : Bool := c == '?' || c == '#'

/-- A path segment, or the authority, ends. -/
def endsSegment (c : Char) : Bool := c == '/' || endsPath c

/-- The characters of a path up to the query or the fragment. -/
def plainPart (cs : List Char) : List Char := cs.takeWhile fun c => !endsPath c

/-- The path of a URL: what follows the authority, up to the query or the fragment. -/
def urlPath (url : List Char) : List Char :=
  plainPart ((afterScheme url).dropWhile fun c => !endsSegment c)

/-- A path segment. -/
abbrev Segment := List Char

/-- What a segment does to the place reached: `.` and `..` are moves, all else is a name. -/
def Segment.move (s : Segment) : Move Segment :=
  if s = ['.'] then .stay else if s = ['.', '.'] then .up else .down s

/-- Every segment after a slash. -/
def joinPath (segments : List Segment) : List Char := segments.flatMap ('/' :: ·)

/-- RFC 3986's `remove_dot_segments` on an absolute path: names are pushed, `..` pops, and a path
    that ends in a dot segment keeps its final slash. -/
def removeDotSegments (path : List Char) : List Char :=
  let segments := (path.drop 1).splitOn '/'
  -- What the moves leave is a stack, innermost name first.
  let kept := (Move.resolve [] (segments.map Segment.move)).reverse
  let slash : List Segment :=
    if segments.getLast? = some ['.'] ∨ segments.getLast? = some ['.', '.'] then [[]] else []
  joinPath (kept ++ slash)

/-! ### The base URL -/

/-- The segment holds no character that ends one. -/
def Segment.Plain (s : Segment) : Prop := ∀ c ∈ s, endsSegment c = false

theorem Segment.plain_of_all {s : Segment} (h : s.all fun c => !endsSegment c) :
    Segment.Plain s := by
  intro c hc
  simpa using List.all_eq_true.mp h c hc

/-- An indexer URL, its trailing slashes stripped: scheme, authority, and the segments of its
    path (none for the public endpoints). -/
structure BaseUrl where
  scheme : List Char
  authority : List Char
  segments : List Segment
  scheme_plain : ':' ∉ scheme
  authority_plain : Segment.Plain authority
  segments_plain : ∀ s ∈ segments, Segment.Plain s

/-- The URL as a string. -/
def BaseUrl.url (base : BaseUrl) : String :=
  String.ofList (base.scheme ++ [':', '/', '/'] ++ base.authority ++ joinPath base.segments)

/-- The place the base URL's own path leads to. -/
def BaseUrl.root (base : BaseUrl) : List Segment :=
  (Move.resolve [] (base.segments.map Segment.move)).reverse

/-- The path the indexer is asked for. -/
def requestPath (base : BaseUrl) (path : String) (params : Dict) : List Char :=
  removeDotSegments (urlPath (getUrl base.url ("/v2/" ++ path) params).toList)

/-- The route refuses the path, or the path the indexer is asked for equals an allowlisted one,
    under the root of the base URL, or extends one by a slash. -/
def Contained (base : BaseUrl) (path : String) (params : Dict) : Prop :=
  (∃ detail, passthroughTarget path params = .error ⟨403, detail⟩) ∨
    ∃ p ∈ passthroughPrefixes,
      requestPath base path params = joinPath base.root ++ p.toList ∨
        joinPath base.root ++ p.toList ++ ['/'] <+: requestPath base path params

example : removeDotSegments "/v2/accounts/../status".toList = "/v2/status".toList := by decide

example : removeDotSegments "/v2/accounts//.".toList = "/v2/accounts//".toList := by decide

/-! ### Joining and splitting -/

theorem joinPath_append (xs ys : List Segment) : joinPath (xs ++ ys) = joinPath xs ++ joinPath ys :=
  List.flatMap_append

theorem joinPath_eq_cons {segments : List Segment} (h : segments ≠ []) :
    joinPath segments = '/' :: ['/'].intercalate segments := by
  induction segments with
  | nil => exact absurd rfl h
  | cons s segments ih =>
    cases segments with
    | nil => simp [joinPath]
    | cons t segments =>
      have hrest := ih (by simp)
      rw [joinPath, List.flatMap_cons]
      show '/' :: s ++ joinPath (t :: segments) = _
      rw [hrest, List.intercalate_cons_cons]
      simp

theorem joinPath_splitOn (cs : List Char) : joinPath (cs.splitOn '/') = '/' :: cs := by
  rw [joinPath_eq_cons (List.splitOn_ne_nil _ _), List.intercalate_splitOn]

/-- The pieces of a split hold no separator. -/
theorem not_mem_of_mem_splitOn {cs : List Char} {s : Segment} (h : s ∈ cs.splitOn '/') :
    '/' ∉ s := by
  induction cs generalizing s with
  | nil =>
    rw [List.splitOn_nil, List.mem_singleton] at h
    simp [h]
  | cons c cs ih =>
    rw [List.splitOn_cons_eq_if_modifyHead] at h
    split_ifs at h with hc
    · rcases List.mem_cons.mp h with rfl | h
      · simp
      · exact ih h
    · -- The character joins the first piece.
      obtain ⟨piece, pieces, hsplit⟩ := List.exists_cons_of_ne_nil (List.splitOn_ne_nil '/' cs)
      rw [hsplit, List.modifyHead_cons] at h
      rcases List.mem_cons.mp h with rfl | h
      · have hpiece : '/' ∉ piece := ih (by rw [hsplit]; exact List.mem_cons_self)
        have hne : ('/' : Char) ≠ c := fun heq => hc (by simp [heq.symm])
        simp [hpiece, hne]
      · exact ih (by rw [hsplit]; exact List.mem_cons_of_mem _ h)

/-- A joined path splits back. -/
theorem splitOn_joinPath {segments : List Segment} (hne : segments ≠ [])
    (hplain : ∀ s ∈ segments, '/' ∉ s) : ((joinPath segments).drop 1).splitOn '/' = segments := by
  rw [joinPath_eq_cons hne, List.drop_one, List.tail_cons,
    List.splitOn_intercalate _ hplain hne]

/-- Where a slash-free segment ends is seen in the path: at its end or at a slash. -/
theorem segment_unique {x y : Segment} {as bs : List Char} (hx : '/' ∉ x) (hy : '/' ∉ y)
    (ha : as = [] ∨ ∃ rest, as = '/' :: rest) (hb : bs = [] ∨ ∃ rest, bs = '/' :: rest)
    (h : x ++ as = y ++ bs) : x = y ∧ as = bs := by
  have htake : ∀ {z : Segment} {cs : List Char}, '/' ∉ z → (cs = [] ∨ ∃ rest, cs = '/' :: rest) →
      (z ++ cs).takeWhile (· != '/') = z := by
    intro z cs hz hcs
    have hpos : ∀ c ∈ z, (c != '/') = true := fun c hc => by
      simpa using fun heq : c = '/' => hz (heq ▸ hc)
    rw [List.takeWhile_append_of_pos hpos]
    rcases hcs with rfl | ⟨rest, rfl⟩ <;> simp
  -- Each segment is what stands before the first slash of the same path.
  have hxy : x = y := by rw [← htake hx ha, h, htake hy hb]
  subst hxy
  exact ⟨rfl, List.append_cancel_left h⟩

theorem joinPath_eq_nil_or_slash (segments : List Segment) :
    joinPath segments = [] ∨ ∃ rest, joinPath segments = '/' :: rest := by
  cases segments with
  | nil => exact .inl rfl
  | cons s segments => exact .inr ⟨s ++ joinPath segments, rfl⟩

/-- **Containment of paths is containment of segments.** -/
theorem joinPath_contained_iff {xs ys : List Segment} (hx : ∀ s ∈ xs, '/' ∉ s)
    (hy : ∀ s ∈ ys, '/' ∉ s) :
    (joinPath ys = joinPath xs ∨ joinPath xs ++ ['/'] <+: joinPath ys) ↔ xs <+: ys := by
  induction xs generalizing ys with
  | nil =>
    rcases joinPath_eq_nil_or_slash ys with hnil | ⟨rest, hrest⟩
    · exact ⟨fun _ => List.nil_prefix, fun _ => .inl hnil⟩
    · exact ⟨fun _ => List.nil_prefix, fun _ => .inr ⟨rest, hrest.symm⟩⟩
  | cons x xs ih =>
    cases ys with
    | nil => simp [joinPath]
    | cons y ys =>
      have hxs : '/' ∉ x ∧ ∀ s ∈ xs, '/' ∉ s := by simpa using hx
      have hys : '/' ∉ y ∧ ∀ s ∈ ys, '/' ∉ s := by simpa using hy
      have hstart := joinPath_eq_nil_or_slash
      show ('/' :: (y ++ joinPath ys) = '/' :: (x ++ joinPath xs) ∨
        '/' :: (x ++ joinPath xs) ++ ['/'] <+: '/' :: (y ++ joinPath ys)) ↔ x :: xs <+: y :: ys
      rw [List.cons.injEq, List.cons_append, List.cons_prefix_cons, List.cons_prefix_cons,
        ← ih hxs.2 hys.2]
      simp only [true_and]
      constructor
      · rintro (heq | ⟨rest, heq⟩)
        · obtain ⟨rfl, hjoin⟩ := segment_unique hys.1 hxs.1 (hstart ys) (hstart xs) heq
          exact ⟨rfl, .inl hjoin⟩
        · have hslash : joinPath xs ++ ['/'] ++ rest = [] ∨
              ∃ more, joinPath xs ++ ['/'] ++ rest = '/' :: more := by
            rcases hstart xs with hnil | ⟨more, hmore⟩
            · exact .inr ⟨rest, by rw [hnil]; rfl⟩
            · exact .inr ⟨more ++ ['/'] ++ rest, by rw [hmore]; rfl⟩
          have heq' : x ++ (joinPath xs ++ ['/'] ++ rest) = y ++ joinPath ys := by
            rw [← heq]; simp
          obtain ⟨rfl, hjoin⟩ := segment_unique hxs.1 hys.1 hslash (hstart ys) heq'
          exact ⟨rfl, .inr ⟨rest, hjoin⟩⟩
      · rintro ⟨rfl, heq | ⟨rest, heq⟩⟩
        · exact .inl (by rw [heq])
        · exact .inr ⟨rest, by rw [← heq]; simp⟩

/-! ### The path that is sent -/

/-- The names of the allowlist. -/
def passthroughNames : List Segment :=
  ["accounts", "assets", "applications", "blocks", "transactions"].map String.toList

/-- The segment below which the allowlist lives. -/
def v2 : Segment := ['v', '2']

/-- The segments that follow the allowlisted name in the path, without query and fragment. -/
def tailSegments : List Char → List Segment
  | [] => []
  | _ :: rest => (plainPart rest).splitOn '/'

theorem afterScheme_append {scheme : List Char} (h : ':' ∉ scheme) (rest : List Char) :
    afterScheme (scheme ++ ':' :: '/' :: '/' :: rest) = rest := by
  induction scheme with
  | nil => rfl
  | cons c scheme ih =>
    obtain ⟨hc, hscheme⟩ : ':' ≠ c ∧ ':' ∉ scheme := by simpa using h
    rw [List.cons_append, afterScheme]
    · exact ih hscheme
    · intro rest' heq
      exact absurd heq.symm hc

theorem plainPart_append_of_plain {cs : List Char} (h : ∀ c ∈ cs, endsPath c = false)
    (rest : List Char) : plainPart (cs ++ rest) = cs ++ plainPart rest := by
  unfold plainPart
  exact List.takeWhile_append_of_pos fun c hc => by simp [h c hc]

theorem joinPath_plain {segments : List Segment} (h : ∀ s ∈ segments, Segment.Plain s) :
    ∀ c ∈ joinPath segments, endsPath c = false := by
  intro c hc
  obtain ⟨s, hs, hc⟩ := List.mem_flatMap.mp hc
  rcases List.mem_cons.mp hc with rfl | hc
  · decide
  · exact (Bool.or_eq_false_iff.mp (h s hs c hc)).2

/-- The path of the URL that `_get` builds. -/
theorem urlPath_getUrl (base : BaseUrl) {target : List Char} (params : Dict) :
    urlPath (getUrl base.url (String.ofList ('/' :: target)) params).toList =
      joinPath base.segments ++ plainPart ('/' :: target ++ queryPart params) := by
  have hauthority : ∀ c ∈ base.authority, (!endsSegment c) = true := fun c hc => by
    simp [base.authority_plain c hc]
  -- After the authority stands a slash: of the base path, or of the target.
  obtain ⟨rest, hrest⟩ : ∃ rest, joinPath base.segments ++ ('/' :: target ++ queryPart params)
      = '/' :: rest := by
    rcases joinPath_eq_nil_or_slash base.segments with hnil | ⟨more, hmore⟩
    · exact ⟨target ++ queryPart params, by rw [hnil]; rfl⟩
    · exact ⟨more ++ ('/' :: target ++ queryPart params), by rw [hmore]; rfl⟩
  have hurl : (getUrl base.url (String.ofList ('/' :: target)) params).toList =
      base.scheme ++ ':' :: '/' :: '/' :: (base.authority ++ '/' :: rest) := by
    simp only [getUrl, BaseUrl.url, String.toList_ofList, ← hrest, List.append_assoc]
    rfl
  rw [urlPath, hurl, afterScheme_append base.scheme_plain,
    List.dropWhile_append_of_pos hauthority, List.dropWhile_cons_of_neg (by decide), ← hrest]
  exact plainPart_append_of_plain (joinPath_plain base.segments_plain) _

/-- The query cuts nothing off the path before it. -/
theorem plainPart_append_query (cs : List Char) (params : Dict) :
    plainPart (cs ++ queryPart params) = plainPart cs := by
  induction cs with
  | nil =>
    rcases queryPart_eq params with hnil | ⟨query, hquery⟩
    · rw [List.nil_append, hnil]
    · rw [List.nil_append, hquery]
      rfl
  | cons c cs ih =>
    simp only [plainPart, List.cons_append, List.takeWhile_cons] at ih ⊢
    split_ifs
      -- A character that ends the path cuts off what follows it, with or without a query.
    · rw [ih]
    · rfl

/-! ### Where the path leads -/

/-- A path whose segments are known leads to what the moves leave of them; the final slash is
    a segment of its own. -/
theorem removeDotSegments_joinPath {segments : List Segment} (hne : segments ≠ [])
    (hplain : ∀ s ∈ segments, '/' ∉ s) :
    ∃ slash : List Segment, (∀ s ∈ slash, s = []) ∧
      removeDotSegments (joinPath segments) =
        joinPath ((Move.resolve [] (segments.map Segment.move)).reverse ++ slash) := by
  unfold removeDotSegments
  dsimp only
  rw [splitOn_joinPath hne hplain]
  refine ⟨_, ?_, rfl⟩
  split_ifs <;> simp

/-- The names a walk leaves are segments it walked. -/
theorem mem_of_mem_resolve {segments stack : List Segment} {s : Segment}
    (h : s ∈ Move.resolve stack (segments.map Segment.move)) : s ∈ stack ∨ s ∈ segments := by
  induction segments generalizing stack with
  | nil => exact .inl h
  | cons t segments ih =>
    rw [List.map_cons, Segment.move] at h
    split_ifs at h
    · rcases ih h with h | h
      · exact .inl h
      · exact .inr (List.mem_cons_of_mem _ h)
    · rcases ih h with h | h
      · exact .inl (List.mem_of_mem_tail h)
      · exact .inr (List.mem_cons_of_mem _ h)
    · rcases ih h with h | h
      · rcases List.mem_cons.mp h with rfl | h
        · exact .inr List.mem_cons_self
        · exact .inl h
      · exact .inr (List.mem_cons_of_mem _ h)

/-- The place that a walk reaches from an allowlisted name below the root: what it climbs above
    is lost, and what it enters for good is added. -/
def reached (base : BaseUrl) (name : Segment) (walk : List (Move Segment)) : List Segment :=
  (base.root ++ [v2, name]).take (base.root.length + 2 - Move.climb walk) ++ Move.survivors walk

/-- The walk from an allowlisted name below the root does not lead out of it for good: the `..`
    segments never climb above the name, or what they climb out of is entered again. -/
def StaysIn (base : BaseUrl) (name : Segment) (walk : List (Move Segment)) : Prop :=
  Move.climb walk = 0 ∨
    ∃ name' ∈ passthroughNames, base.root ++ [v2, name'] <+: reached base name walk

/-- The place reached from an allowlisted name below the root. -/
theorem resolve_allowed (base : BaseUrl) {name : Segment} (hname : name ∈ passthroughNames)
    (tail : List Segment) :
    (Move.resolve [] ((base.segments ++ v2 :: name :: tail).map Segment.move)).reverse =
      reached base name (tail.map Segment.move) := by
  have hmoves : (v2 :: name :: tail).map Segment.move =
      .down v2 :: .down name :: tail.map Segment.move := by
    have hall : ∀ name ∈ passthroughNames, name ≠ ['.'] ∧ name ≠ ['.', '.'] := by decide
    obtain ⟨h1, h2⟩ := hall name hname
    simp [Segment.move, h1, h2, v2]
  rw [List.map_append, Move.resolve_append, hmoves, Move.resolve, Move.resolve, Move.resolve_eq,
    List.reverse_append, List.reverse_reverse, reached]
  congr 1
  -- Popping names off the stack is cutting the path short.
  rw [List.reverse_drop]
  simp [BaseUrl.root]

theorem joinPath_tailSegments {rest : List Char} (hrest : rest = [] ∨ ∃ r, rest = '/' :: r) :
    joinPath (tailSegments rest) = plainPart rest := by
  rcases hrest with rfl | ⟨r, rfl⟩
  · rfl
  · rw [tailSegments, joinPath_splitOn]
    rfl

/-- What is known of an allowlisted name. -/
theorem passthroughNames_plain : ∀ name ∈ passthroughNames, name ≠ [] ∧ Segment.Plain name := by
  have hall : passthroughNames.all fun name =>
      !name.isEmpty && name.all fun c => !endsSegment c := by decide
  intro name hname
  have h := List.all_eq_true.mp hall name hname
  rw [Bool.and_eq_true] at h
  exact ⟨by rintro rfl; simp at h, Segment.plain_of_all h.2⟩

/-- The URL path of a request that the route lets through, as segments. -/
theorem urlPath_allowed (base : BaseUrl) {name : Segment} (hname : name ∈ passthroughNames)
    {rest : List Char} (hrest : rest = [] ∨ ∃ r, rest = '/' :: r) {path : String}
    (hpath : path.toList = name ++ rest) (params : Dict) :
    urlPath (getUrl base.url ("/v2/" ++ path) params).toList =
      joinPath (base.segments ++ v2 :: name :: tailSegments rest) := by
  have htarget : "/v2/" ++ path = String.ofList ('/' :: (v2 ++ '/' :: name ++ rest)) := by
    rw [← String.toList_inj]
    simp [hpath, v2]
  have hbegins : ∀ c ∈ joinPath [v2, name], endsPath c = false := by
    apply joinPath_plain
    intro s hs
    rcases List.mem_cons.mp hs with rfl | hs
    · exact Segment.plain_of_all (by decide)
    · obtain rfl := List.mem_singleton.mp hs
      exact (passthroughNames_plain s hname).2
  have hjoin : '/' :: (v2 ++ '/' :: name ++ rest) = joinPath [v2, name] ++ rest := by
    simp [joinPath]
  rw [htarget, urlPath_getUrl, plainPart_append_query, hjoin, plainPart_append_of_plain hbegins,
    joinPath_append, ← joinPath_tailSegments hrest, ← joinPath_append]
  rfl

/-- None of these segments holds a slash. -/
theorem slash_not_mem (base : BaseUrl) {name : Segment} (hname : name ∈ passthroughNames)
    (rest : List Char) : ∀ s ∈ base.segments ++ v2 :: name :: tailSegments rest, '/' ∉ s := by
  have hslash : ∀ {s : Segment}, s.Plain → '/' ∉ s := fun hs h => absurd (hs _ h) (by decide)
  intro s hs
  rcases List.mem_append.mp hs with hs | hs
  · exact hslash (base.segments_plain s hs)
  rcases List.mem_cons.mp hs with rfl | hs
  · decide
  rcases List.mem_cons.mp hs with rfl | hs
  · exact hslash (passthroughNames_plain s hname).2
  · cases rest with
    | nil => simp [tailSegments] at hs
    | cons c rest => exact not_mem_of_mem_splitOn hs

/-- Nor does one of the place that is reached. -/
theorem slash_not_mem_reached (base : BaseUrl) {name : Segment} (hname : name ∈ passthroughNames)
    (rest : List Char) :
    ∀ s ∈ reached base name ((tailSegments rest).map Segment.move), '/' ∉ s := by
  intro s hs
  rw [← resolve_allowed base hname] at hs
  rcases mem_of_mem_resolve (List.mem_reverse.mp hs) with h | h
  · cases h
  · exact slash_not_mem base hname rest s h

/-- Nor one of an allowlisted place. -/
theorem slash_not_mem_allowed (base : BaseUrl) {name : Segment} (hname : name ∈ passthroughNames) :
    ∀ s ∈ base.root ++ [v2, name], '/' ∉ s := by
  intro s hs
  apply slash_not_mem base hname []
  rcases List.mem_append.mp hs with hs | hs
  · rcases mem_of_mem_resolve (List.mem_reverse.mp hs) with h | h
    · cases h
    · exact List.mem_append_left _ h
  · exact List.mem_append_right _ hs

/-- **The request path, for a path the route lets through.** -/
theorem requestPath_eq (base : BaseUrl) {name : Segment} (hname : name ∈ passthroughNames)
    {rest : List Char} (hrest : rest = [] ∨ ∃ r, rest = '/' :: r) {path : String}
    (hpath : path.toList = name ++ rest) (params : Dict) :
    ∃ slash : List Segment, (∀ s ∈ slash, s = []) ∧
      requestPath base path params =
        joinPath (reached base name ((tailSegments rest).map Segment.move) ++ slash) := by
  rw [requestPath, urlPath_allowed base hname hrest hpath, ← resolve_allowed base hname]
  exact removeDotSegments_joinPath (by simp) (slash_not_mem base hname rest)

/-- The final slash is no allowlisted name. -/
theorem prefix_append_slash {xs ys slash : List Segment} {last : Segment} (hlast : last ≠ [])
    (hslash : ∀ s ∈ slash, s = []) : xs ++ [last] <+: ys ++ slash ↔ xs ++ [last] <+: ys := by
  constructor
  · rintro ⟨rest, heq⟩
    rcases List.append_eq_append_iff.mp heq with ⟨m, hys, _⟩ | ⟨m, hxs, hm⟩
    · exact ⟨m, hys.symm⟩
    · rcases List.eq_nil_or_concat m with rfl | ⟨init, b, rfl⟩
      · exact ⟨[], by rw [List.append_nil, hxs, List.append_nil]⟩
      · -- The name would be one of the empty segments of `slash`.
        rw [List.concat_eq_append] at hm
        rw [List.concat_eq_append, ← List.append_assoc] at hxs
        obtain ⟨_, hb⟩ := List.append_inj' hxs rfl
        have hmem : last ∈ slash := by rw [hm, ← hb]; simp
        exact absurd (hslash last hmem) hlast
  · intro h
    exact h.trans (List.prefix_append _ _)

/-! ### The route's check -/

theorem passthroughPrefixes_eq :
    passthroughPrefixes = passthroughNames.map fun name => String.ofList (joinPath [v2, name]) := by
  decide

/-- The check passes when an allowlisted name stands at the beginning, up to the end or a
    slash. -/
theorem allowed_iff (path : String) :
    allowed ("/v2/" ++ path) = true ↔ ∃ name ∈ passthroughNames, ∃ rest,
      path.toList = name ++ rest ∧ (rest = [] ∨ ∃ r, rest = '/' :: r) := by
  let pre : List Char := ['/', 'v', '2', '/']
  have htarget : ("/v2/" ++ path).toList = pre ++ path.toList := by simp [pre]
  rw [allowed, passthroughPrefixes_eq, List.any_map, List.any_eq_true]
  refine exists_congr fun name => and_congr_right fun _ => ?_
  have hname : (String.ofList (joinPath [v2, name])).toList = pre ++ name := by
    simp [joinPath, v2, pre]
  have hslash : (String.ofList (joinPath [v2, name]) ++ "/").toList = pre ++ (name ++ ['/']) := by
    simp [joinPath, v2, pre]
  simp only [Function.comp, Bool.or_eq_true, beq_iff_eq, Text.startsWith_iff, ← String.toList_inj,
    htarget, hname, hslash, List.append_cancel_left_eq, List.prefix_append_right_inj]
  constructor
  · rintro (heq | ⟨rest, heq⟩)
    · exact ⟨[], by rw [heq, List.append_nil], .inl rfl⟩
    · exact ⟨'/' :: rest, by rw [← heq]; simp, .inr ⟨rest, rfl⟩⟩
  · rintro ⟨rest, heq, rfl | ⟨r, rfl⟩⟩
    · exact .inl (by rw [heq, List.append_nil])
    · exact .inr ⟨r, by rw [heq]; simp⟩

/-- The route refuses a path when the check fails. -/
theorem passthroughTarget_eq_error_iff (path : String) (params : Dict) :
    (∃ detail, passthroughTarget path params = .error ⟨403, detail⟩) ↔
      allowed ("/v2/" ++ path) = false := by
  unfold passthroughTarget
  cases hallowed : allowed ("/v2/" ++ path) with
  | true => simp [hallowed]
  | false => simp [hallowed]

/-- Where a let-through path leads, in segments: an allowlisted path below the root. -/
theorem requestPath_contained_iff (base : BaseUrl) {name : Segment}
    (hname : name ∈ passthroughNames) {rest : List Char}
    (hrest : rest = [] ∨ ∃ r, rest = '/' :: r) {path : String}
    (hpath : path.toList = name ++ rest) (params : Dict) :
    (∃ p ∈ passthroughPrefixes,
      requestPath base path params = joinPath base.root ++ p.toList ∨
        joinPath base.root ++ p.toList ++ ['/'] <+: requestPath base path params) ↔
      StaysIn base name ((tailSegments rest).map Segment.move) := by
  obtain ⟨slash, hslash, hrequest⟩ := requestPath_eq base hname hrest hpath params
  have hreached : ∀ s ∈ reached base name ((tailSegments rest).map Segment.move) ++ slash,
      '/' ∉ s := by
    intro s hs
    rcases List.mem_append.mp hs with hs | hs
    · exact slash_not_mem_reached base hname rest s hs
    · -- The final slash is an empty segment.
      rw [hslash s hs]
      simp
  have hbegins : ∀ name' ∈ passthroughNames,
      (requestPath base path params = joinPath (base.root ++ [v2, name']) ∨
        joinPath (base.root ++ [v2, name']) ++ ['/'] <+: requestPath base path params) ↔
      base.root ++ [v2, name'] <+: reached base name ((tailSegments rest).map Segment.move) := by
    intro name' hname'
    rw [hrequest, joinPath_contained_iff (slash_not_mem_allowed base hname') hreached]
    have hsplit : base.root ++ [v2, name'] = (base.root ++ [v2]) ++ [name'] := by simp
    rw [hsplit]
    exact prefix_append_slash (passthroughNames_plain name' hname').1 hslash
  rw [passthroughPrefixes_eq]
  constructor
  · rintro ⟨p, hp, hcontained⟩
    obtain ⟨name', hname', rfl⟩ := List.mem_map.mp hp
    rw [String.toList_ofList, ← joinPath_append] at hcontained
    exact .inr ⟨name', hname', (hbegins name' hname').mp hcontained⟩
  · intro hstays
    obtain ⟨name', hname', hpre⟩ : ∃ name' ∈ passthroughNames,
        base.root ++ [v2, name'] <+: reached base name ((tailSegments rest).map Segment.move) := by
      rcases hstays with hclimb | hreturns
        -- A walk that never climbs above the name stays below it.
      · refine ⟨name, hname, ?_⟩
        rw [reached, hclimb, List.take_of_length_le (by simp)]
        exact List.prefix_append _ _
      · exact hreturns
    refine ⟨_, List.mem_map_of_mem hname', ?_⟩
    rw [String.toList_ofList, ← joinPath_append]
    exact (hbegins name' hname').mpr hpre

/-- **Containment, exactly.** A request stays in the allowlist iff the route refuses it or the
    walk from the allowlisted name does not lead out of it for good. -/
theorem contained_iff (base : BaseUrl) (path : String) (params : Dict) :
    Contained base path params ↔
      ∀ name ∈ passthroughNames, ∀ rest, path.toList = name ++ rest →
        (rest = [] ∨ ∃ r, rest = '/' :: r) →
        StaysIn base name ((tailSegments rest).map Segment.move) := by
  rw [Contained, passthroughTarget_eq_error_iff]
  cases hallowed : allowed ("/v2/" ++ path) with
  | false =>
    refine iff_of_true (.inl rfl) fun name hname rest hpath hrest => ?_
    have := (allowed_iff path).mpr ⟨name, hname, rest, hpath, hrest⟩
    rw [hallowed] at this
    exact absurd this (by simp)
  | true =>
    obtain ⟨name, hname, rest, hpath, hrest⟩ := (allowed_iff path).mp hallowed
    rw [requestPath_contained_iff base hname hrest hpath]
    constructor
    · intro h name' hname' rest' hpath' hrest'
      -- Only one allowlisted name begins the path.
      have hno : ∀ {n : Segment}, n ∈ passthroughNames → '/' ∉ n := fun hn h =>
        absurd ((passthroughNames_plain _ hn).2 _ h) (by decide)
      obtain ⟨rfl, rfl⟩ := segment_unique (hno hname) (hno hname') hrest hrest'
        (hpath.symm.trans hpath')
      exact h.resolve_left (by simp)
    · intro h
      exact .inr (h name hname rest hpath hrest)

/-- A path with no `..` segment stays in the allowlist. -/
theorem contained_of_no_dotdot (base : BaseUrl) (path : String) (params : Dict)
    (h : ∀ name rest, path.toList = name ++ rest → ['.', '.'] ∉ tailSegments rest) :
    Contained base path params := by
  refine (contained_iff base path params).mpr fun name _ rest hpath _ => .inl ?_
  apply Nat.le_zero.mp
  apply (Move.climb_le_iff _ 0).mpr
  -- No initial stretch of the walk has an upward move.
  intro pre hpre
  have hups : ∀ ms : List (Move Segment), .up ∉ ms → Move.ups ms = 0 := by
    intro ms hms
    induction ms with
    | nil => rfl
    | cons m ms ih =>
      cases m with
      | stay => exact ih (by simpa using hms)
      | down a => exact ih (by simpa using hms)
      | up => simp at hms
  rw [hups pre]
  · exact Nat.zero_le _
  · intro hup
    obtain ⟨s, hs, hmove⟩ := List.mem_map.mp (hpre.subset hup)
    unfold Segment.move at hmove
    split_ifs at hmove with _ hdots
    exact h name rest hpath (hdots ▸ hs)

/-- The public mainnet indexer. -/
def mainnetIndexer : BaseUrl where
  scheme := "https".toList
  authority := "mainnet-idx.algonode.cloud".toList
  segments := []
  scheme_plain := by decide
  authority_plain := Segment.plain_of_all (by decide)
  segments_plain := by simp

/-- **The passthrough can be climbed out of.** The route lets `accounts/../../health` through,
    and the indexer is asked for `/health`. -/
theorem passthrough_escapes : ¬ Contained mainnetIndexer "accounts/../../health" [] := by
  rw [Contained, passthroughTarget_eq_error_iff]
  decide

end Algorandscout
