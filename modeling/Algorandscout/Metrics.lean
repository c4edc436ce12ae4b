import Algorandscout.Attribution
import Algorandscout.Library.DefaultDict
import Algorandscout.Library.Histogram
import Algorandscout.Library.TextFormat

namespace Algorandscout

open Library

/-!
# The metrics

`Metrics` of `metrics.py`: the tables behind `/metrics`, and the text they are rendered to.
Durations are rational numbers.

* `MetricsTables` — the tables, with `observeRequest` and `observeUpstream`;
* `Sample`, `Line` — the lines of the exposition, each f-string of `render` a constructor;
* `MetricsTables.lines`, `MetricsTables.render` — the exposition;
* `Observation`, `recorded` — the tables after any sequence of observations.
-/

/-! ### Tables -/

/-- The edge of a latency bucket, in seconds, and the float as it is written: without any of the
    characters that a label escapes. -/
structure Edge where
  value : ℚ
  text : String
  plain : text.toList.all TextFormat.isPlain = true

/-- `LATENCY_BUCKETS`. -/
def latencyBuckets : List Edge :=
  [⟨1 / 20, "0.05", by decide⟩, ⟨1 / 10, "0.1", by decide⟩, ⟨1 / 4, "0.25", by decide⟩,
    ⟨1 / 2, "0.5", by decide⟩, ⟨1, "1.0", by decide⟩, ⟨5 / 2, "2.5", by decide⟩,
    ⟨5, "5.0", by decide⟩, ⟨10, "10.0", by decide⟩]

/-- The tables of `Metrics`; `upstream` is the one that failures are attributed in. -/
structure MetricsTables extends Metrics where
  requests : Counter (String × Int)
  latencyBuckets : DefaultDict String (List ℕ)
  latencySum : DefaultDict String ℚ
  latencyCount : Counter String

/-- `Metrics()`. -/
def MetricsTables.new : MetricsTables := ⟨⟨[]⟩, [], ∅, ∅, []⟩

/-- `[0] * (len(LATENCY_BUCKETS) + 1)`. -/
def noBuckets : List ℕ := List.replicate (latencyBuckets.length + 1) 0

/-- Count a duration in the first bucket whose edge it does not exceed, else in the last one. -/
def placeDuration (duration : ℚ) (buckets : List ℕ) : List ℕ :=
  match latencyBuckets.findIdx? fun edge => duration ≤ edge.value with
  | some index => buckets.modify index (· + 1)
  | none => buckets.modify (buckets.length - 1) (· + 1)

namespace MetricsTables

/-- `observe_request`. -/
def observeRequest (m : MetricsTables) (route : String) (status : Int) (duration : ℚ) :
    MetricsTables :=
  { m with
    requests := m.requests.bump (route, status)
    latencyBuckets := m.latencyBuckets.update noBuckets route (placeDuration duration)
    latencySum := m.latencySum.update 0 route (· + duration)
    latencyCount := m.latencyCount.bump route }

/-- `observe_upstream`. -/
def observeUpstream (m : MetricsTables) (upstream outcome : String) : MetricsTables :=
  { m with toMetrics := m.toMetrics.observeUpstream upstream outcome }

end MetricsTables

/-! ### Text -/

/-- `s.replace(c, new)`, for a single character. -/
def replaceChar (c : Char) (new : List Char) (s : List Char) : List Char :=
  s.flatMap fun d => if d = c then new else [d]

/-- `_esc`. -/
def esc (value : String) : String :=
  let slashes := replaceChar '\\' ['\\', '\\'] value.toList
  let quotes := replaceChar '"' ['\\', '"'] slashes
  String.ofList (replaceChar '\n' [] quotes)

/-- `f"{x:.6f}"`: rounded to six places, halves to the even side. -/
def fixed6 (x : ℚ) : String :=
  let scaled : ℚ := |x| * 10 ^ 6
  let below : Int := scaled.floor
  let rest : ℚ := scaled - below
  let rounded := if rest < 1 / 2 ∨ (rest = 1 / 2 ∧ below % 2 = 0) then below else below + 1
  let digits := padDigits rounded.natAbs 7
  let sign : List Char := if x < 0 then ['-'] else []
  String.ofList (sign ++ digits.take (digits.length - 6) ++ '.' :: digits.drop (digits.length - 6))

/-- The outcomes under which the cache's counters are rendered. -/
inductive CacheOutcome where
  | hit
  | miss
  | expired
  | evicted

def CacheOutcome.text : CacheOutcome → String
  | .hit => "hit"
  | .miss => "miss"
  | .expired => "expired"
  | .evicted => "evicted"

/-- A gauge that the caller adds, with its value as Python writes it. -/
structure Gauge where
  name : String
  value : String
  name_ne_nil : name.toList ≠ []
  name_chars : ∀ c ∈ name.toList, TextFormat.isNameChar c = true
  value_line : '\n' ∉ value.toList

/-- A sample of the exposition. -/
inductive Sample where
  | requestsTotal (route : String) (status : Int) (count : ℕ)
  | upstreamTotal (target outcome : String) (count : ℕ)
  /-- The bucket of an edge; `none` is the one without an edge, `+Inf`. -/
  | durationBucket (route : String) (edge : Option Edge) (cumulative : ℕ)
  | durationSum (route : String) (sum : ℚ)
  | durationCount (route : String) (count : ℕ)
  | cacheTotal (outcome : CacheOutcome) (count : ℕ)
  | gauge (g : Gauge)

/-- `le`. -/
def edgeText : Option Edge → String
  | some edge => edge.text
  | none => "+Inf"

/-- The series of a sample: the f-string up to the value. -/
def Sample.series : Sample → String
  | .requestsTotal route status _ =>
    "algorandscout_requests_total\x7broute=\"" ++ esc route ++ "\",status=\"" ++ toString status ++
      "\"\x7d"
  | .upstreamTotal target outcome _ =>
    "algorandscout_upstream_total\x7bupstream=\"" ++ esc target ++ "\",outcome=\"" ++
      esc outcome ++ "\"\x7d"
  | .durationBucket route edge _ =>
    "algorandscout_request_duration_seconds_bucket\x7broute=\"" ++ esc route ++ "\",le=\"" ++
      edgeText edge ++ "\"\x7d"
  | .durationSum route _ =>
    "algorandscout_request_duration_seconds_sum\x7broute=\"" ++ esc route ++ "\"\x7d"
  | .durationCount route _ =>
    "algorandscout_request_duration_seconds_count\x7broute=\"" ++ esc route ++ "\"\x7d"
  | .cacheTotal outcome _ => "algorandscout_cache_total\x7boutcome=\"" ++ outcome.text ++ "\"\x7d"
  | .gauge g => "algorandscout_" ++ g.name

/-- The value of a sample, as it is written. -/
def Sample.value : Sample → String
  | .requestsTotal _ _ count => toString count
  | .upstreamTotal _ _ count => toString count
  | .durationBucket _ _ cumulative => toString cumulative
  | .durationSum _ sum => fixed6 sum
  | .durationCount _ count => toString count
  | .cacheTotal _ count => toString count
  | .gauge g => g.value

/-- The f-string of a sample. -/
def Sample.text (s : Sample) : String := s.series ++ " " ++ s.value

/-- A line: a comment, or a sample. -/
inductive Line where
  | comment (text : String)
  | sample (s : Sample)

def Line.text : Line → String
  | .comment text => "# " ++ text
  | .sample s => s.text

/-- The sample on a line. -/
def Line.sample? : Line → Option Sample
  | .comment _ => none
  | .sample s => some s

/-! ### Rendering -/

/-- `s < t`, by code points. -/
def strLt : List Char → List Char → Bool
  | _, [] => false
  | [], _ :: _ => true
  | c :: cs, d :: ds => c.toNat < d.toNat || (c.toNat == d.toNat && strLt cs ds)

/-- `sorted(table.items())`, when the keys are distinct: by route, or upstream, and then by what
    comes with it. -/
def sortedItems {B V : Type} (le : B → B → Bool) (table : List ((String × B) × V)) :
    List ((String × B) × V) :=
  table.mergeSort fun a b =>
    strLt a.1.1.toList b.1.1.toList || (a.1.1 == b.1.1 && le a.1.2 b.1.2)

/-- The buckets of a route, the counts accumulated edge by edge; the last count is on its own. -/
def bucketSamples (route : String) (cumulative : ℕ) : List Edge → List ℕ → List Sample
  | edge :: edges, count :: counts =>
    .durationBucket route (some edge) (cumulative + count) ::
      bucketSamples route (cumulative + count) edges counts
  | _, counts => [.durationBucket route none (cumulative + counts.getLastD 0)]

namespace MetricsTables

/-- The histogram samples of a route. -/
def durationSamples (m : MetricsTables) (route : String) (counts : List ℕ) : List Sample :=
  bucketSamples route 0 Algorandscout.latencyBuckets counts ++
    [.durationSum route (m.latencySum.get 0 route),
      .durationCount route (m.latencyCount.count route)]

/-- The samples of the histograms, route by route. -/
def histogramSamples (m : MetricsTables) : List Sample :=
  ((m.latencyBuckets.entries.map fun entry => (entry.1, entry.2)).mergeSort fun a b =>
    !strLt b.1.toList a.1.toList).flatMap fun (route, counts) => m.durationSamples route counts

/-- The two comment lines before the samples of a metric. -/
def heading (name help type : String) : List Line :=
  [.comment ("HELP algorandscout_" ++ name ++ " " ++ help),
    .comment ("TYPE algorandscout_" ++ name ++ " " ++ type)]

/-- The samples of the request counter. -/
def requestSamples (m : MetricsTables) : List Sample :=
  (sortedItems (fun a b => decide (a ≤ b)) m.requests).map fun ((route, status), count) =>
    .requestsTotal route status count

/-- The samples of the upstream counter. -/
def upstreamSamples (m : MetricsTables) : List Sample :=
  (sortedItems (fun a b => !strLt b.toList a.toList) m.upstream).map
    fun ((target, outcome), count) => .upstreamTotal target outcome count

/-- The lines about the cache. -/
def cacheLines : Option CacheStats → List Line
  | none => []
  | some stats => heading "cache_total" "Cache outcomes." "counter" ++
    [.sample (.cacheTotal .hit stats.hits), .sample (.cacheTotal .miss stats.misses),
      .sample (.cacheTotal .expired stats.expirations),
      .sample (.cacheTotal .evicted stats.evictions)]

/-- The lines of a gauge. -/
def gaugeLines (g : Gauge) : List Line :=
  heading g.name "Gauge." "gauge" ++ [.sample (.gauge g)]

/-- The lines of the exposition. -/
def lines (m : MetricsTables) (cacheStats : Option CacheStats) (extra : List Gauge) : List Line :=
  heading "requests_total" "HTTP requests by route and status." "counter" ++
  m.requestSamples.map .sample ++
  heading "upstream_total" "Upstream calls by target and outcome." "counter" ++
  m.upstreamSamples.map .sample ++
  heading "request_duration_seconds" "Request latency by route." "histogram" ++
  m.histogramSamples.map .sample ++
  cacheLines cacheStats ++ extra.flatMap gaugeLines

/-- `render`. -/
def render (m : MetricsTables) (cacheStats : Option CacheStats) (extra : List Gauge) : String :=
  String.ofList (['\n'].intercalate ((m.lines cacheStats extra).map fun line => line.text.toList) ++
    ['\n'])

/-- The samples of the exposition, in order. -/
def samples (m : MetricsTables) (cacheStats : Option CacheStats) (extra : List Gauge) :
    List Sample :=
  (m.lines cacheStats extra).filterMap Line.sample?

theorem filterMap_sample_map (samples : List Sample) :
    (samples.map Line.sample).filterMap Line.sample? = samples := by
  rw [List.filterMap_map]
  exact List.filterMap_some

theorem filterMap_heading (name help type : String) :
    (heading name help type).filterMap Line.sample? = [] := rfl

/-- The samples are those of the tables, one table after the other. -/
theorem samples_eq (m : MetricsTables) (cacheStats : Option CacheStats) (extra : List Gauge) :
    m.samples cacheStats extra = m.requestSamples ++ m.upstreamSamples ++ m.histogramSamples ++
      (cacheLines cacheStats).filterMap Line.sample? ++ extra.map .gauge := by
  have hgauges : (extra.flatMap gaugeLines).filterMap Line.sample? = extra.map .gauge := by
    induction extra with
    | nil => rfl
    | cons g extra ih =>
      rw [List.flatMap_cons, List.filterMap_append, ih]
      rfl
  unfold samples lines
  simp only [List.filterMap_append, filterMap_heading, filterMap_sample_map, hgauges,
    List.nil_append, List.append_nil]

end MetricsTables

/-! ### Observations -/

/-- A call of one of the two `observe` methods. -/
inductive Observation where
  | request (route : String) (status : Int) (duration : ℚ)
  | upstream (target outcome : String)

/-- The tables after the observations, latest first. -/
def recorded : List Observation → MetricsTables
  | [] => .new
  | .request route status duration :: obs => (recorded obs).observeRequest route status duration
  | .upstream target outcome :: obs => (recorded obs).observeUpstream target outcome

end Algorandscout
