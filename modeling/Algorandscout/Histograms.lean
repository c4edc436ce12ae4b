import Algorandscout.Metrics

namespace Algorandscout

open Library

/-!
# The latency histogram

`observe_request` counts a duration in one slot of its route, `render` accumulates the slots.

* `durationsOf` — the durations observed on a route;
* `RouteTables`, `routeTables_recorded` — what the five tables hold of a route after any run;
* `durationBlock` — the histogram that a route should have;
* `histogram_exact` — the exposition has it, for every observed route.
-/

/-- The durations observed on a route. -/
def durationsOf (route : String) (obs : List Observation) : List ℚ :=
  obs.filterMap fun
    | .request r _ duration => if r = route then some duration else none
    | .upstream _ _ => none

/-- The edges of the buckets. -/
def edges : List ℚ := latencyBuckets.map (·.value)

theorem edges_sorted : edges.Pairwise (· ≤ ·) := by
  unfold edges latencyBuckets
  simp only [List.map_cons, List.map_nil, List.pairwise_cons, List.mem_cons, List.not_mem_nil,
    or_false, forall_eq_or_imp, forall_eq]
  norm_num

/-! ### The tables -/

/-- The loop of `observe_request` counts in the slot of the duration. -/
theorem placeDuration_eq_observe (duration : ℚ) {slots : List ℕ}
    (hlength : slots.length = edges.length + 1) :
    placeDuration duration slots = Histogram.observe edges slots duration := by
  have hslot : Histogram.slot edges duration =
      latencyBuckets.findIdx fun edge => duration ≤ edge.value := List.findIdx_map _ _ _
  unfold placeDuration Histogram.observe
  rw [hslot]
  cases hfind : latencyBuckets.findIdx? fun edge => duration ≤ edge.value with
  | some index =>
    rw [(List.findIdx?_eq_some_iff_findIdx_eq.mp hfind).2]
  | none =>
    have hlast : slots.length - 1 = latencyBuckets.length := by
      rw [hlength]
      rfl
    rw [List.findIdx?_eq_none_iff_findIdx_eq.mp hfind, hlast]

/-- What the tables hold of a route. -/
structure RouteTables (m : MetricsTables) (route : String) (durations : List ℚ) : Prop where
  slots : m.latencyBuckets.get noBuckets route = Histogram.tally edges durations
  entered : route ∈ m.latencyBuckets ↔ durations ≠ []
  sum : m.latencySum.get 0 route = durations.sum
  count : m.latencyCount.count route = durations.length
  /-- Over all statuses. -/
  requests : m.requests.totalOn (fun key => key.1 = route) = durations.length

theorem RouteTables.new (route : String) : RouteTables .new route [] where
  slots := rfl
  entered := iff_of_false (AList.notMem_empty route) (fun h => h rfl)
  sum := rfl
  count := rfl
  requests := rfl

/-- A request to the route adds its duration. -/
theorem RouteTables.observeRequest {m : MetricsTables} {route : String} {durations : List ℚ}
    (h : RouteTables m route durations) (status : Int) (duration : ℚ) :
    RouteTables (m.observeRequest route status duration) route (duration :: durations) where
  slots := by
    show (m.latencyBuckets.update noBuckets route _).get noBuckets route = _
    rw [DefaultDict.get_update, if_pos rfl, h.slots]
    exact placeDuration_eq_observe duration (Histogram.length_tally edges durations)
  entered := by
    show route ∈ m.latencyBuckets.update noBuckets route _ ↔ _
    rw [DefaultDict.mem_update]
    exact iff_of_true (.inl rfl) (List.cons_ne_nil _ _)
  sum := by
    show (m.latencySum.update 0 route _).get 0 route = _
    rw [DefaultDict.get_update, if_pos rfl, h.sum, List.sum_cons]
    exact add_comm _ _
  count := by
    show (m.latencyCount.bump route).count route = _
    rw [Counter.count_bump, if_pos rfl, h.count, List.length_cons]
  requests := by
    show Counter.totalOn _ (m.requests.bump (route, status)) = _
    rw [Counter.totalOn_bump, h.requests, if_pos (by simp), List.length_cons]

/-- A request to another route changes nothing of it. -/
theorem RouteTables.observeRequest_other {m : MetricsTables} {route : String} {durations : List ℚ}
    (h : RouteTables m route durations) {other : String} (hne : other ≠ route) (status : Int)
    (duration : ℚ) : RouteTables (m.observeRequest other status duration) route durations where
  slots := by
    show (m.latencyBuckets.update noBuckets other _).get noBuckets route = _
    rw [DefaultDict.get_update, if_neg hne.symm]
    exact h.slots
  entered := by
    show route ∈ m.latencyBuckets.update noBuckets other _ ↔ _
    rw [DefaultDict.mem_update, or_iff_right hne.symm]
    exact h.entered
  sum := by
    show (m.latencySum.update 0 other _).get 0 route = _
    rw [DefaultDict.get_update, if_neg hne.symm]
    exact h.sum
  count := by
    show (m.latencyCount.bump other).count route = _
    rw [Counter.count_bump, if_neg hne.symm]
    exact h.count
  requests := by
    show Counter.totalOn _ (m.requests.bump (other, status)) = _
    rw [Counter.totalOn_bump, if_neg (by simpa using hne)]
    exact h.requests

/-- **After every run** the tables hold of each route what was observed on it. -/
theorem routeTables_recorded (obs : List Observation) (route : String) :
    RouteTables (recorded obs) route (durationsOf route obs) := by
  induction obs with
  | nil => exact .new route
  | cons o obs ih =>
    cases o with
    | request r status duration =>
      by_cases hr : r = route
      · subst hr
        have hcons : durationsOf r (.request r status duration :: obs) =
            duration :: durationsOf r obs := by simp [durationsOf]
        rw [hcons]
        exact ih.observeRequest status duration
      · have hsame : durationsOf route (.request r status duration :: obs) =
            durationsOf route obs := by simp [durationsOf, hr]
        rw [hsame]
        exact ih.observeRequest_other hr status duration
    | upstream target outcome =>
      -- None of the five tables changes.
      exact ⟨ih.slots, ih.entered, ih.sum, ih.count, ih.requests⟩

/-! ### The exposition -/

/-- A histogram sample of the route. -/
def Sample.isDurationOf (route : String) : Sample → Bool
  | .durationBucket r _ _ => r = route
  | .durationSum r _ => r = route
  | .durationCount r _ => r = route
  | _ => false

/-- The count of a request sample of the route. -/
def Sample.requestsOf (route : String) : Sample → ℕ
  | .requestsTotal r _ count => if r = route then count else 0
  | _ => 0

/-- The histogram of a route with the given durations: for each edge the number of durations up to
    it, then the number of all of them, their sum, and their number again. -/
def durationBlock (route : String) (durations : List ℚ) : List Sample :=
  latencyBuckets.map (fun edge =>
    .durationBucket route (some edge) (durations.countP fun d => d ≤ edge.value)) ++
  [.durationBucket route none durations.length, .durationSum route durations.sum,
    .durationCount route durations.length]

/-- The loop over the edges emits the running sums. -/
theorem bucketSamples_eq {route : String} {total n : ℕ} {es : List Edge} {counts : List ℕ}
    {f : Edge → ℕ} (h : Histogram.cumulate total counts = es.map f ++ [n]) :
    bucketSamples route total es counts =
      es.map (fun edge => .durationBucket route (some edge) (f edge)) ++
        [.durationBucket route none n] := by
  induction es generalizing total counts with
  | nil =>
    cases counts with
    | nil => cases h
    | cons c counts =>
      cases counts with
      | nil =>
        have hn : total + c = n := (List.cons.inj h).1
        rw [← hn]
        rfl
      | cons c' counts => cases (List.cons.inj h).2
  | cons edge es ih =>
    cases counts with
    | nil => cases h
    | cons c counts =>
      obtain ⟨hf, hrest⟩ := List.cons.inj h
      rw [bucketSamples, ih hrest, hf]
      rfl

/-- The histogram rendered from the tables of a route. -/
theorem durationSamples_eq {m : MetricsTables} {route : String} {durations : List ℚ}
    (h : RouteTables m route durations) :
    m.durationSamples route (m.latencyBuckets.get noBuckets route) =
      durationBlock route durations := by
  have hcumulate := Histogram.cumulate_tally edges_sorted durations
  rw [← h.slots] at hcumulate
  unfold edges at hcumulate
  rw [List.map_map] at hcumulate
  unfold MetricsTables.durationSamples
  rw [bucketSamples_eq hcumulate, h.sum, h.count, List.append_assoc]
  rfl

/-- The samples of a histogram are all of its route, and none is of the request counter. -/
theorem mem_bucketSamples {route : String} {total : ℕ} {es : List Edge} {counts : List ℕ}
    {s : Sample} (h : s ∈ bucketSamples route total es counts) :
    ∃ edge n, s = .durationBucket route edge n := by
  induction es generalizing total counts with
  | nil => exact ⟨none, _, List.mem_singleton.mp h⟩
  | cons edge es ih =>
    cases counts with
    | nil => exact ⟨none, _, List.mem_singleton.mp h⟩
    | cons c counts =>
      rcases List.mem_cons.mp h with rfl | h
      · exact ⟨some edge, _, rfl⟩
      · exact ih h

theorem of_mem_durationSamples {m : MetricsTables} {r : String} {counts : List ℕ} {s : Sample}
    (h : s ∈ m.durationSamples r counts) (route : String) :
    s.isDurationOf route = decide (r = route) ∧ s.requestsOf route = 0 := by
  rcases List.mem_append.mp h with h | h
  · obtain ⟨edge, n, rfl⟩ := mem_bucketSamples h
    exact ⟨rfl, rfl⟩
  · rcases List.mem_cons.mp h with rfl | h
    · exact ⟨rfl, rfl⟩
    · rw [List.mem_singleton.mp h]
      exact ⟨rfl, rfl⟩

theorem sum_map_eq_zero {f : Sample → ℕ} {samples : List Sample} (h : ∀ s ∈ samples, f s = 0) :
    (samples.map f).sum = 0 := by
  rw [List.sum_eq_zero]
  intro n hn
  obtain ⟨s, hs, rfl⟩ := List.mem_map.mp hn
  exact h s hs

/-- The route's share of the request counter is in its samples. -/
theorem sum_requestsOf_requestSamples (m : MetricsTables) (route : String) :
    (m.requestSamples.map (·.requestsOf route)).sum =
      m.requests.totalOn fun key => key.1 = route := by
  have hperm : (m.requestSamples.map (·.requestsOf route)).Perm
      (m.requests.map fun entry => if entry.1.1 = route then entry.2 else 0) := by
    unfold MetricsTables.requestSamples sortedItems
    rw [List.map_map]
    exact (List.mergeSort_perm _ _).map _
  rw [hperm.sum_eq]
  induction m.requests with
  | nil => rfl
  | cons entry requests ih =>
    obtain ⟨key, n⟩ := entry
    rw [List.map_cons, List.sum_cons, ih, Counter.totalOn_cons]
    simp only [decide_eq_true_eq]

/-- Only the request counter has request samples. -/
theorem sum_requestsOf_samples (m : MetricsTables) (cacheStats : Option CacheStats)
    (extra : List Gauge) (route : String) :
    ((m.samples cacheStats extra).map (·.requestsOf route)).sum =
      (m.requestSamples.map (·.requestsOf route)).sum := by
  have hupstream : ∀ s ∈ m.upstreamSamples, s.requestsOf route = 0 := by
    intro s hs
    obtain ⟨⟨⟨target, outcome⟩, count⟩, -, rfl⟩ := List.mem_map.mp hs
    rfl
  have hhistograms : ∀ s ∈ m.histogramSamples, s.requestsOf route = 0 := by
    intro s hs
    obtain ⟨⟨r, counts⟩, -, hs⟩ := List.mem_flatMap.mp hs
    exact (of_mem_durationSamples hs route).2
  have hcache : (((MetricsTables.cacheLines cacheStats).filterMap Line.sample?).map
      (·.requestsOf route)).sum = 0 := by
    cases cacheStats with
    | none => rfl
    | some stats => rfl
  have hgauges : ∀ s ∈ extra.map Sample.gauge, s.requestsOf route = 0 := by
    intro s hs
    obtain ⟨g, -, rfl⟩ := List.mem_map.mp hs
    rfl
  rw [MetricsTables.samples_eq]
  simp only [List.map_append, List.sum_append, hcache]
  rw [sum_map_eq_zero hupstream, sum_map_eq_zero hhistograms, sum_map_eq_zero hgauges]
  rfl

theorem filter_eq_nil {f : Sample → Bool} {samples : List Sample}
    (h : ∀ s ∈ samples, f s = false) : samples.filter f = [] := by
  rw [List.filter_eq_nil_iff]
  intro s hs
  rw [h s hs]
  exact Bool.false_ne_true

/-- Only the histograms have histogram samples. -/
theorem filter_samples (m : MetricsTables) (cacheStats : Option CacheStats) (extra : List Gauge)
    (route : String) :
    (m.samples cacheStats extra).filter (·.isDurationOf route) =
      m.histogramSamples.filter (·.isDurationOf route) := by
  have hrequests : ∀ s ∈ m.requestSamples, s.isDurationOf route = false := by
    intro s hs
    obtain ⟨⟨⟨r, status⟩, count⟩, -, rfl⟩ := List.mem_map.mp hs
    rfl
  have hupstream : ∀ s ∈ m.upstreamSamples, s.isDurationOf route = false := by
    intro s hs
    obtain ⟨⟨⟨target, outcome⟩, count⟩, -, rfl⟩ := List.mem_map.mp hs
    rfl
  have hcache : ((MetricsTables.cacheLines cacheStats).filterMap Line.sample?).filter
      (·.isDurationOf route) = [] := by
    cases cacheStats with
    | none => rfl
    | some stats => rfl
  have hgauges : ∀ s ∈ extra.map Sample.gauge, s.isDurationOf route = false := by
    intro s hs
    obtain ⟨g, -, rfl⟩ := List.mem_map.mp hs
    rfl
  rw [MetricsTables.samples_eq]
  simp only [List.filter_append, hcache, filter_eq_nil hrequests, filter_eq_nil hupstream,
    filter_eq_nil hgauges, List.nil_append, List.append_nil]

/-- A route has one histogram. -/
theorem filter_histogramSamples {m : MetricsTables} {route : String} {durations : List ℚ}
    (h : RouteTables m route durations) (hobserved : durations ≠ []) :
    m.histogramSamples.filter (·.isDurationOf route) = durationBlock route durations := by
  rw [← durationSamples_eq h]
  unfold MetricsTables.histogramSamples
  have hperm := List.mergeSort_perm
    (m.latencyBuckets.entries.map fun entry => (entry.1, entry.2))
    (fun a b => !strLt b.1.toList a.1.toList)
  generalize List.mergeSort _ _ = sorted at hperm
  -- The sorted entries are those of the table, each route once.
  have hnodup : (sorted.map (·.1)).Nodup := by
    rw [(hperm.map (·.1)).nodup_iff, List.map_map]
    exact m.latencyBuckets.nodupKeys
  have hmem : (route, m.latencyBuckets.get noBuckets route) ∈ sorted := by
    rw [hperm.mem_iff, List.mem_map]
    exact ⟨⟨route, _⟩, DefaultDict.mem_entries_iff.mpr ⟨h.entered.mpr hobserved, rfl⟩, rfl⟩
  rw [List.filter_flatMap, DefaultDict.flatMap_of_nodup hnodup hmem]
  · -- All the samples of the route's entry are of the route.
    rw [List.filter_eq_self]
    intro s hs
    rw [(of_mem_durationSamples hs route).1]
    exact decide_eq_true rfl
  · intro entry _ hne
    rw [List.filter_eq_nil_iff]
    intro s hs
    rw [(of_mem_durationSamples hs route).1]
    simpa using hne

/-- **What the exposition should say of a route** on which the given durations were observed. -/
structure HistogramExact (m : MetricsTables) (samples : List Sample) (route : String)
    (durations : List ℚ) : Prop where
  /-- Its histogram, and nothing else about its latency. -/
  block : samples.filter (·.isDurationOf route) = durationBlock route durations
  /-- The buckets do not decrease from edge to edge, .. -/
  monotone (edge edge' : Edge) (n n' : ℕ) : .durationBucket route (some edge) n ∈ samples →
    .durationBucket route (some edge') n' ∈ samples → edge.value ≤ edge'.value → n ≤ n'
  /-- .. and none is above the one without an edge. -/
  le_inf (edge : Edge) (n n' : ℕ) : .durationBucket route (some edge) n ∈ samples →
    .durationBucket route none n' ∈ samples → n ≤ n'
  /-- The requests of the route, over all statuses. -/
  requests : (samples.map (·.requestsOf route)).sum = durations.length
  /-- The latency sum in the table. -/
  sum : m.latencySum.get 0 route = durations.sum

/-- A bucket of the exposition is one of the histogram's. -/
theorem bucket_mem_block {samples : List Sample} {route : String} {durations : List ℚ}
    (hblock : samples.filter (·.isDurationOf route) = durationBlock route durations)
    {edge : Option Edge} {n : ℕ} (h : .durationBucket route edge n ∈ samples) :
    .durationBucket route edge n ∈ durationBlock route durations := by
  rw [← hblock, List.mem_filter]
  exact ⟨h, decide_eq_true rfl⟩

/-- The bucket of an edge counts the durations up to it. -/
theorem eq_of_bucket_mem {route : String} {durations : List ℚ} {edge : Edge} {n : ℕ}
    (h : .durationBucket route (some edge) n ∈ durationBlock route durations) :
    n = durations.countP fun d => d ≤ edge.value := by
  rcases List.mem_append.mp h with h | h
  · obtain ⟨edge', -, heq⟩ := List.mem_map.mp h
    cases heq
    rfl
  · simp at h

/-- The bucket without an edge counts them all. -/
theorem eq_of_inf_mem {route : String} {durations : List ℚ} {n : ℕ}
    (h : .durationBucket route none n ∈ durationBlock route durations) :
    n = durations.length := by
  rcases List.mem_append.mp h with h | h
  · obtain ⟨edge', -, heq⟩ := List.mem_map.mp h
    cases heq
  · simpa using h

/-- **The latency histogram counts exactly**, for every route observed in any run. -/
theorem histogram_exact (obs : List Observation) (cacheStats : Option CacheStats)
    (extra : List Gauge) (route : String) (hobserved : durationsOf route obs ≠ []) :
    HistogramExact (recorded obs) ((recorded obs).samples cacheStats extra) route
      (durationsOf route obs) := by
  have htables := routeTables_recorded obs route
  have hblock : ((recorded obs).samples cacheStats extra).filter (·.isDurationOf route) =
      durationBlock route (durationsOf route obs) := by
    rw [filter_samples, filter_histogramSamples htables hobserved]
  refine ⟨hblock, ?_, ?_, ?_, htables.sum⟩
  · intro edge edge' n n' hn hn' hle
    rw [eq_of_bucket_mem (bucket_mem_block hblock hn),
      eq_of_bucket_mem (bucket_mem_block hblock hn')]
    apply List.countP_mono_left
    intro d _ hd
    exact decide_eq_true ((of_decide_eq_true hd).trans hle)
  · intro edge n n' hn hn'
    rw [eq_of_bucket_mem (bucket_mem_block hblock hn),
      eq_of_inf_mem (bucket_mem_block hblock hn')]
    exact List.countP_le_length
  · rw [sum_requestsOf_samples, sum_requestsOf_requestSamples, htables.requests]

/-- Two requests to one route, one between them to another, and one beyond the last edge. -/
def sampleRequests : List Observation :=
  [.request "/r" 200 12, .request "/s" 200 1, .request "/r" 404 (1 / 20), .request "/r" 200 3]

theorem sampleRequests_exact :
    HistogramExact (recorded sampleRequests) ((recorded sampleRequests).samples none []) "/r"
      [12, 1 / 20, 3] :=
  histogram_exact sampleRequests none [] "/r" (List.cons_ne_nil _ _)

end Algorandscout
