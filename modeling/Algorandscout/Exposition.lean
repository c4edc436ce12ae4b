import Algorandscout.Decimals
import Algorandscout.Metrics
import Std.Data.String.ToInt

namespace Algorandscout

open Library

/-!
# Labels of the exposition

What a scraper reads of the text that `render` gives.  `_esc` escapes backslashes and quotes, and
takes line breaks out.

* `esc_toList` — `_esc` is the escape of the text format after the line breaks are gone;
* `LabelDecodes` — undoing the escapes gives the label;
* `Sample.parts`, `samples_render` — what a scraper reads are the samples that were rendered, but
  for the line breaks;
* `parts_of_series_eq` — what two samples of one series share;
* `readRequest`, `readUpstream` — the entries of the two counters, read back;
* `ExpositionDecodes`, `labels_decode_iff` — the runs whose counters are read back.
-/

/-! ### Labels -/

/-- The characters of a label without its line breaks. -/
def dropBreaks (value : String) : List Char := value.toList.filter (· != '\n')

/-- The three replacements of `_esc`, on one character. -/
theorem replace_char (c : Char) :
    replaceChar '\n' [] (replaceChar '"' ['\\', '"'] (replaceChar '\\' ['\\', '\\'] [c])) =
      if c = '\n' then [] else TextFormat.escapeChar c := by
  unfold replaceChar TextFormat.escapeChar
  by_cases hslash : c = '\\'
  · subst hslash
    decide
  by_cases hquote : c = '"'
  · subst hquote
    decide
  by_cases hbreak : c = '\n'
  · subst hbreak
    decide
  · simp [hslash, hquote, hbreak]

theorem replaceChar_append (c : Char) (new s t : List Char) :
    replaceChar c new (s ++ t) = replaceChar c new s ++ replaceChar c new t :=
  List.flatMap_append

/-- **`_esc` drops the line breaks and escapes the rest.** -/
theorem esc_toList (value : String) :
    (esc value).toList = TextFormat.escape (dropBreaks value) := by
  unfold esc dropBreaks
  rw [String.toList_ofList]
  induction value.toList with
  | nil => rfl
  | cons c s ih =>
    have hsplit : c :: s = [c] ++ s := rfl
    rw [hsplit, replaceChar_append, replaceChar_append, replaceChar_append, replace_char, ih,
      List.filter_append]
    unfold TextFormat.escape
    rw [List.flatMap_append]
    congr 1
    by_cases hbreak : c = '\n'
    · subst hbreak
      rfl
    · simp [hbreak]

/-- What undoing the escapes of a label should give. -/
structure LabelDecodes (s : String) : Prop where
  decodes : TextFormat.unescape (esc s).toList = some s.toList
  no_quote : TextFormat.hasBareQuote (esc s).toList = false
  no_break : '\n' ∉ (esc s).toList

theorem dropBreaks_eq_iff (s : String) : dropBreaks s = s.toList ↔ '\n' ∉ s.toList := by
  unfold dropBreaks
  rw [List.filter_eq_self]
  constructor
  · intro h hmem
    exact absurd (h '\n' hmem) (by decide)
  · intro h c hc
    rw [bne_iff_ne]
    rintro rfl
    exact h hc

theorem newline_notMem_dropBreaks (s : String) : '\n' ∉ dropBreaks s := by
  intro h
  have hne := (List.mem_filter.mp h).2
  revert hne
  decide

/-- A label is read back when it has no line break. -/
theorem labelDecodes_of_no_break {s : String} (h : '\n' ∉ s.toList) : LabelDecodes s := by
  have hesc : (esc s).toList = TextFormat.escape s.toList := by
    rw [esc_toList, (dropBreaks_eq_iff s).mpr h]
  constructor
  · rw [hesc, TextFormat.unescape_escape]
  · rw [hesc, TextFormat.hasBareQuote_escape]
  · rw [hesc]
    exact TextFormat.newline_notMem_escape _

theorem no_break_of_labelDecodes {s : String} (h : LabelDecodes s) : '\n' ∉ s.toList := by
  have hdecodes := h.decodes
  rw [esc_toList, TextFormat.unescape_escape, Option.some.injEq] at hdecodes
  exact (dropBreaks_eq_iff s).mp hdecodes

/-! ### Samples -/

/-- What a scraper reads of a sample. -/
def Sample.parts (s : Sample) : TextFormat.Sample :=
  match s with
  | .requestsTotal route status _ =>
    ⟨"algorandscout_requests_total".toList,
      [("route".toList, dropBreaks route), ("status".toList, (toString status).toList)],
      s.value.toList⟩
  | .upstreamTotal target outcome _ =>
    ⟨"algorandscout_upstream_total".toList,
      [("upstream".toList, dropBreaks target), ("outcome".toList, dropBreaks outcome)],
      s.value.toList⟩
  | .durationBucket route edge _ =>
    ⟨"algorandscout_request_duration_seconds_bucket".toList,
      [("route".toList, dropBreaks route), ("le".toList, (edgeText edge).toList)], s.value.toList⟩
  | .durationSum route _ =>
    ⟨"algorandscout_request_duration_seconds_sum".toList, [("route".toList, dropBreaks route)],
      s.value.toList⟩
  | .durationCount route _ =>
    ⟨"algorandscout_request_duration_seconds_count".toList, [("route".toList, dropBreaks route)],
      s.value.toList⟩
  | .cacheTotal outcome _ =>
    ⟨"algorandscout_cache_total".toList, [("outcome".toList, outcome.text.toList)],
      s.value.toList⟩
  | .gauge g => ⟨("algorandscout_" ++ g.name).toList, [], s.value.toList⟩

/-! Numbers are written with digits, signs and points, which are not escaped. -/

theorem isPlain_of_isDigit {c : Char} (h : c.isDigit = true) : TextFormat.isPlain c = true := by
  unfold TextFormat.isPlain
  have h1 : c ≠ '\\' := Numeral.ne_of_isDigit h (by decide)
  have h2 : c ≠ '"' := Numeral.ne_of_isDigit h (by decide)
  have h3 : c ≠ '\n' := Numeral.ne_of_isDigit h (by decide)
  simp [h1, h2, h3]

theorem plain_of_digits {cs : List Char} (h : Numeral.IsDigits cs) :
    cs.all TextFormat.isPlain = true := by
  rw [List.all_eq_true]
  intro c hc
  exact isPlain_of_isDigit (h c hc)

theorem plain_toString_nat (n : ℕ) : (toString n).toList.all TextFormat.isPlain = true := by
  have hdigits : (toString n).toList = Nat.toDigits 10 n := Nat.toList_repr
  rw [hdigits]
  exact plain_of_digits (Numeral.isDigits_toDigits n)

theorem plain_toString_int (n : Int) : (toString n).toList.all TextFormat.isPlain = true := by
  cases n with
  | ofNat n => exact plain_toString_nat n
  | negSucc n =>
    show ("-" ++ Nat.repr (n + 1)).toList.all TextFormat.isPlain = true
    rw [String.toList_append, List.all_append, Bool.and_eq_true]
    exact ⟨by decide, plain_toString_nat (n + 1)⟩

theorem plain_fixed6 (x : ℚ) : (fixed6 x).toList.all TextFormat.isPlain = true := by
  unfold fixed6
  simp only [String.toList_ofList, List.all_append, Bool.and_eq_true, List.all_cons]
  have hdigits := fun n => isDigits_padDigits n 7
  refine ⟨⟨?_, ?_⟩, by decide, ?_⟩
  · split_ifs <;> decide
  · exact plain_of_digits fun c hc => hdigits _ c (List.mem_of_mem_take hc)
  · exact plain_of_digits fun c hc => hdigits _ c (List.mem_of_mem_drop hc)

theorem plain_edgeText (edge : Option Edge) :
    (edgeText edge).toList.all TextFormat.isPlain = true := by
  cases edge with
  | none => decide
  | some edge => exact edge.plain

theorem newline_notMem_of_plain {cs : List Char} (h : cs.all TextFormat.isPlain = true) :
    '\n' ∉ cs := by
  intro hmem
  have hplain := List.all_eq_true.mp h '\n' hmem
  revert hplain
  decide

theorem newline_notMem_value (s : Sample) : '\n' ∉ s.value.toList := by
  cases s with
  | requestsTotal route status count => exact newline_notMem_of_plain (plain_toString_nat count)
  | upstreamTotal target outcome count => exact newline_notMem_of_plain (plain_toString_nat count)
  | durationBucket route edge n => exact newline_notMem_of_plain (plain_toString_nat n)
  | durationSum route sum => exact newline_notMem_of_plain (plain_fixed6 sum)
  | durationCount route count => exact newline_notMem_of_plain (plain_toString_nat count)
  | cacheTotal outcome count => exact newline_notMem_of_plain (plain_toString_nat count)
  | gauge g => exact g.value_line

/-! An f-string is a line of labels, when the text before a label opens it and the text of the label
is escaped. -/

/-- A line of one label. -/
theorem line_one {opening text : String} {name k v : List Char} (value : String)
    (hopen : opening.toList = name ++ '{' :: (k ++ ['=', '"']))
    (htext : text.toList = TextFormat.escape v) :
    (opening ++ text ++ "\"\x7d" ++ " " ++ value).toList =
      (TextFormat.Sample.mk name [(k, v)] value.toList).line := by
  have hend : "\"\x7d".toList = ['"', '}'] := rfl
  have hspace : " ".toList = [' '] := rfl
  simp only [String.toList_append, hopen, htext, hend, hspace]
  simp [TextFormat.Sample.line, TextFormat.labelsText]

/-- A line of two labels. -/
theorem line_two {opening text next text' : String} {name k v k' v' : List Char} (value : String)
    (hopen : opening.toList = name ++ '{' :: (k ++ ['=', '"']))
    (htext : text.toList = TextFormat.escape v)
    (hnext : next.toList = '"' :: ',' :: (k' ++ ['=', '"']))
    (htext' : text'.toList = TextFormat.escape v') :
    (opening ++ text ++ next ++ text' ++ "\"\x7d" ++ " " ++ value).toList =
      (TextFormat.Sample.mk name [(k, v), (k', v')] value.toList).line := by
  have hend : "\"\x7d".toList = ['"', '}'] := rfl
  have hspace : " ".toList = [' '] := rfl
  simp only [String.toList_append, hopen, htext, hnext, htext', hend, hspace]
  simp [TextFormat.Sample.line, TextFormat.labelsText]

/-- **The f-string of a sample is the line of its parts.** -/
theorem text_toList (s : Sample) : s.text.toList = s.parts.line := by
  cases s with
  | requestsTotal route status count =>
    exact line_two (toString count) (by decide) (esc_toList route) (by decide)
      (TextFormat.escape_of_plain (plain_toString_int status)).symm
  | upstreamTotal target outcome count =>
    exact line_two (toString count) (by decide) (esc_toList target) (by decide)
      (esc_toList outcome)
  | durationBucket route edge n =>
    exact line_two (toString n) (by decide) (esc_toList route) (by decide)
      (TextFormat.escape_of_plain (plain_edgeText edge)).symm
  | durationSum route sum => exact line_one (fixed6 sum) (by decide) (esc_toList route)
  | durationCount route count => exact line_one (toString count) (by decide) (esc_toList route)
  | cacheTotal outcome count =>
    have hplain : outcome.text.toList.all TextFormat.isPlain = true := by
      cases outcome <;> decide
    exact line_one (toString count) (by decide) (TextFormat.escape_of_plain hplain).symm
  | gauge g =>
    have hspace : " ".toList = [' '] := rfl
    unfold Sample.text Sample.parts Sample.series TextFormat.Sample.line
    simp only [String.toList_append, hspace, ↓reduceIte, List.append_nil, List.append_assoc,
      List.cons_append, List.nil_append]

theorem wellFormed_mk {name value : List Char} {labels : List (List Char × List Char)}
    (hname : name ≠ [] ∧ name.all TextFormat.isNameChar = true)
    (hlabels : ((labels.map Prod.fst).all fun k => k.all TextFormat.isNameChar) = true)
    (hvalue : '\n' ∉ value) : (TextFormat.Sample.mk name labels value).WellFormed := by
  refine ⟨hname.1, List.all_eq_true.mp hname.2, ?_, hvalue⟩
  intro l hl
  exact List.all_eq_true.mp (List.all_eq_true.mp hlabels l.1 (List.mem_map_of_mem hl))

/-- Samples and their labels have proper names. -/
theorem wellFormed_parts (s : Sample) : s.parts.WellFormed := by
  have hvalue := newline_notMem_value s
  cases s with
  | requestsTotal route status count =>
    exact wellFormed_mk (by decide) rfl hvalue
  | upstreamTotal target outcome count =>
    exact wellFormed_mk (by decide) rfl hvalue
  | durationBucket route edge n =>
    exact wellFormed_mk (by decide) rfl hvalue
  | durationSum route sum =>
    exact wellFormed_mk (by decide) rfl hvalue
  | durationCount route count =>
    exact wellFormed_mk (by decide) rfl hvalue
  | cacheTotal outcome count =>
    exact wellFormed_mk (by decide) rfl hvalue
  | gauge g =>
    refine wellFormed_mk ⟨?_, ?_⟩ rfl hvalue
    · rw [String.toList_append]
      exact List.append_ne_nil_of_left_ne_nil (by decide) _
    · rw [String.toList_append, List.all_append, Bool.and_eq_true]
      exact ⟨by decide, List.all_eq_true.mpr g.name_chars⟩

/-! ### Lines -/

theorem newline_notMem_comment {text : String} (h : '\n' ∉ text.toList) :
    '\n' ∉ (Line.comment text).text.toList := by
  show '\n' ∉ ("# " ++ text).toList
  rw [String.toList_append, List.mem_append, not_or]
  exact ⟨by decide, h⟩

theorem newline_notMem_sample (s : Sample) : '\n' ∉ s.text.toList := by
  rw [text_toList]
  exact TextFormat.newline_notMem_line (wellFormed_parts s)

theorem newline_notMem_heading {name help type : String} (hname : '\n' ∉ name.toList)
    (hhelp : '\n' ∉ help.toList) (htype : '\n' ∉ type.toList) :
    ∀ line ∈ MetricsTables.heading name help type, '\n' ∉ line.text.toList := by
  have hcomment : ∀ keyword text : String, '\n' ∉ keyword.toList → '\n' ∉ text.toList →
      '\n' ∉ (Line.comment (keyword ++ name ++ " " ++ text)).text.toList := by
    intro keyword text hkeyword htext
    apply newline_notMem_comment
    have hspace : '\n' ∉ " ".toList := by decide
    simp only [String.toList_append, List.mem_append, not_or]
    exact ⟨⟨⟨hkeyword, hname⟩, hspace⟩, htext⟩
  intro line hline
  rcases List.mem_cons.mp hline with rfl | hline
  · exact hcomment _ help (by decide) hhelp
  · rw [List.mem_singleton.mp hline]
    exact hcomment _ type (by decide) htype

/-- **Every line of the exposition is one line.** -/
theorem newline_notMem_lines (m : MetricsTables) (cacheStats : Option CacheStats)
    (extra : List Gauge) : ∀ line ∈ m.lines cacheStats extra, '\n' ∉ line.text.toList := by
  have hsamples : ∀ (samples : List Sample), ∀ line ∈ samples.map Line.sample,
      '\n' ∉ line.text.toList := by
    intro samples line hline
    obtain ⟨s, -, rfl⟩ := List.mem_map.mp hline
    exact newline_notMem_sample s
  have hcache : ∀ line ∈ MetricsTables.cacheLines cacheStats, '\n' ∉ line.text.toList := by
    cases cacheStats with
    | none => simp [MetricsTables.cacheLines]
    | some stats =>
      intro line hline
      rcases List.mem_append.mp hline with hline | hline
      · exact newline_notMem_heading (by decide) (by decide) (by decide) line hline
      · exact hsamples [_, _, _, _] line hline
  have hgauges : ∀ line ∈ extra.flatMap MetricsTables.gaugeLines, '\n' ∉ line.text.toList := by
    intro line hline
    obtain ⟨g, -, hline⟩ := List.mem_flatMap.mp hline
    rcases List.mem_append.mp hline with hline | hline
    · have hname := TextFormat.newline_notMem_name g.name_chars
      exact newline_notMem_heading hname (by decide) (by decide) line hline
    · exact hsamples [_] line hline
  intro line hline
  unfold MetricsTables.lines at hline
  simp only [List.mem_append] at hline
  rcases hline with ((((((hline | hline) | hline) | hline) | hline) | hline) | hline) | hline
  · exact newline_notMem_heading (by decide) (by decide) (by decide) line hline
  · exact hsamples _ line hline
  · exact newline_notMem_heading (by decide) (by decide) (by decide) line hline
  · exact hsamples _ line hline
  · exact newline_notMem_heading (by decide) (by decide) (by decide) line hline
  · exact hsamples _ line hline
  · exact hcache line hline
  · exact hgauges line hline

/-- A comment holds no sample, and a sample is read as its parts. -/
theorem parseLine_text (line : Line) :
    TextFormat.parseLine line.text.toList = line.sample?.map Sample.parts := by
  cases line with
  | comment text =>
    show TextFormat.parseLine ("# " ++ text).toList = none
    rw [String.toList_append]
    exact TextFormat.parseLine_comment _
  | sample s =>
    show TextFormat.parseLine s.text.toList = some s.parts
    rw [text_toList, TextFormat.parseLine_line (wellFormed_parts s)]

/-- **A scraper reads the samples that were rendered.** -/
theorem samples_render (m : MetricsTables) (cacheStats : Option CacheStats) (extra : List Gauge) :
    TextFormat.samples (m.render cacheStats extra).toList =
      (m.samples cacheStats extra).map Sample.parts := by
  have hne : (m.lines cacheStats extra).map (fun line => line.text.toList) ≠ [] := by
    simp [MetricsTables.lines, MetricsTables.heading]
  have hlines : ∀ text ∈ (m.lines cacheStats extra).map (fun line => line.text.toList),
      '\n' ∉ text := by
    intro text htext
    obtain ⟨line, hline, rfl⟩ := List.mem_map.mp htext
    exact newline_notMem_lines m cacheStats extra line hline
  unfold MetricsTables.render MetricsTables.samples
  rw [String.toList_ofList, TextFormat.intercalate_append_newline hne,
    TextFormat.samples_document hlines, List.filterMap_map, List.map_filterMap]
  congr 1
  funext line
  exact parseLine_text line

/-! ### Series -/

theorem parts_value (s : Sample) : s.parts.value = s.value.toList := by
  cases s <;> rfl

/-- The series is what stands before the value. -/
theorem line_series (s : Sample) (value : List Char) :
    TextFormat.Sample.line { s.parts with value := value } = s.series.toList ++ ' ' :: value := by
  have htext : s.series.toList ++ ' ' :: s.value.toList = s.parts.line := by
    rw [← text_toList]
    unfold Sample.text
    simp
  unfold TextFormat.Sample.line at htext ⊢
  rw [parts_value] at htext
  rw [List.append_cancel_right htext]

/-- **Samples of one series have one name and the same labels**, but for the line breaks. -/
theorem parts_of_series_eq {s t : Sample} (h : s.series = t.series) :
    s.parts.name = t.parts.name ∧ s.parts.labels = t.parts.labels := by
  have hparse : ∀ u : Sample, TextFormat.parseLine (u.series.toList ++ [' ']) =
      some { u.parts with value := [] } := by
    intro u
    rw [← line_series u [], TextFormat.parseLine_line]
    exact { wellFormed_parts u with value_line := List.not_mem_nil }
  have heq := hparse s
  rw [h, hparse t, Option.some.injEq, TextFormat.Sample.mk.injEq] at heq
  exact ⟨heq.1.symm, heq.2.1.symm⟩

/-! ### Reading the counters -/

/-- The entry of the request counter that a sample stands for. -/
def readRequest (s : TextFormat.Sample) : Option ((String × Int) × ℕ) :=
  match s.labels with
  | [(k, route), (k', status)] =>
    if s.name = "algorandscout_requests_total".toList ∧ k = "route".toList ∧
        k' = "status".toList then do
      let status ← (String.ofList status).toInt?
      let count ← (String.ofList s.value).toNat?
      return ((String.ofList route, status), count)
    else none
  | _ => none

/-- The entry of the upstream counter that a sample stands for. -/
def readUpstream (s : TextFormat.Sample) : Option ((String × String) × ℕ) :=
  match s.labels with
  | [(k, target), (k', outcome)] =>
    if s.name = "algorandscout_upstream_total".toList ∧ k = "upstream".toList ∧
        k' = "outcome".toList then do
      let count ← (String.ofList s.value).toNat?
      return ((String.ofList target, String.ofList outcome), count)
    else none
  | _ => none

/-- What a label is read back as. -/
def withoutBreaks (value : String) : String := String.ofList (dropBreaks value)

theorem withoutBreaks_eq_iff (s : String) : withoutBreaks s = s ↔ '\n' ∉ s.toList := by
  unfold withoutBreaks
  rw [← dropBreaks_eq_iff, ← String.toList_inj, String.toList_ofList]

theorem readRequest_requestsTotal (route : String) (status : Int) (count : ℕ) :
    readRequest (Sample.requestsTotal route status count).parts =
      some ((withoutBreaks route, status), count) := by
  have hstatus : (String.ofList (toString status).toList).toInt? = some status := by
    rw [String.ofList_toList]
    exact Int.toInt?_repr status
  have hcount : (String.ofList (toString count).toList).toNat? = some count := by
    rw [String.ofList_toList]
    exact Nat.toNat?_repr count
  show (do
    let status ← (String.ofList (toString status).toList).toInt?
    let count ← (String.ofList (toString count).toList).toNat?
    return ((withoutBreaks route, status), count)) = _
  rw [hstatus, hcount]
  rfl

theorem readUpstream_upstreamTotal (target outcome : String) (count : ℕ) :
    readUpstream (Sample.upstreamTotal target outcome count).parts =
      some ((withoutBreaks target, withoutBreaks outcome), count) := by
  have hcount : (String.ofList (toString count).toList).toNat? = some count := by
    rw [String.ofList_toList]
    exact Nat.toNat?_repr count
  show (do
    let count ← (String.ofList (toString count).toList).toNat?
    return ((withoutBreaks target, withoutBreaks outcome), count)) = _
  rw [hcount]
  rfl

/-- Samples of other names are passed over. -/
theorem readRequest_of_name {s : TextFormat.Sample}
    (h : s.name ≠ "algorandscout_requests_total".toList) : readRequest s = none := by
  unfold readRequest
  split
  · rw [if_neg fun hif => h hif.1]
  · rfl

theorem readUpstream_of_name {s : TextFormat.Sample}
    (h : s.name ≠ "algorandscout_upstream_total".toList) : readUpstream s = none := by
  unfold readUpstream
  split
  · rw [if_neg fun hif => h hif.1]
  · rfl

/-- The three names with two labels. -/
theorem names_ne : "algorandscout_requests_total".toList ≠ "algorandscout_upstream_total".toList ∧
    "algorandscout_request_duration_seconds_bucket".toList ≠
      "algorandscout_requests_total".toList ∧
    "algorandscout_request_duration_seconds_bucket".toList ≠
      "algorandscout_upstream_total".toList := by
  decide

theorem readRequest_upstreamTotal (target outcome : String) (count : ℕ) :
    readRequest (Sample.upstreamTotal target outcome count).parts = none :=
  readRequest_of_name names_ne.1.symm

theorem readUpstream_requestsTotal (route : String) (status : Int) (count : ℕ) :
    readUpstream (Sample.requestsTotal route status count).parts = none :=
  readUpstream_of_name names_ne.1

/-- A sample of the histograms, the cache or a gauge. -/
def Sample.isOther : Sample → Prop
  | .requestsTotal .. => False
  | .upstreamTotal .. => False
  | _ => True

theorem readRequest_other {s : Sample} (h : s.isOther) : readRequest s.parts = none := by
  cases s with
  | requestsTotal route status count => exact absurd h id
  | upstreamTotal target outcome count => exact absurd h id
  | durationBucket route edge n => exact readRequest_of_name names_ne.2.1
  | durationSum route sum => rfl
  | durationCount route count => rfl
  | cacheTotal outcome count => rfl
  | gauge g => rfl

theorem readUpstream_other {s : Sample} (h : s.isOther) : readUpstream s.parts = none := by
  cases s with
  | requestsTotal route status count => exact absurd h id
  | upstreamTotal target outcome count => exact absurd h id
  | durationBucket route edge n => exact readUpstream_of_name names_ne.2.2
  | durationSum route sum => rfl
  | durationCount route count => rfl
  | cacheTotal outcome count => rfl
  | gauge g => rfl

theorem isOther_bucketSamples {route : String} {cumulative : ℕ} {es : List Edge}
    {counts : List ℕ} : ∀ s ∈ bucketSamples route cumulative es counts, s.isOther := by
  induction es generalizing cumulative counts with
  | nil =>
    intro s hs
    rw [bucketSamples, List.mem_singleton] at hs
    · subst hs
      trivial
    · simp
  | cons edge es ih =>
    cases counts with
    | nil =>
      intro s hs
      rw [bucketSamples, List.mem_singleton] at hs
      · subst hs
        trivial
      · simp
    | cons count counts =>
      intro s hs
      rcases List.mem_cons.mp hs with rfl | hs
      · trivial
      · exact ih s hs

theorem isOther_histogramSamples (m : MetricsTables) : ∀ s ∈ m.histogramSamples, s.isOther := by
  intro s hs
  obtain ⟨⟨route, counts⟩, -, hs⟩ := List.mem_flatMap.mp hs
  rcases List.mem_append.mp hs with hs | hs
  · exact isOther_bucketSamples s hs
  · rcases List.mem_pair.mp hs with rfl | rfl <;> trivial

/-- The samples after those of the two counters. -/
theorem exists_samples_eq (m : MetricsTables) (cacheStats : Option CacheStats)
    (extra : List Gauge) : ∃ others : List Sample, (∀ s ∈ others, s.isOther) ∧
      m.samples cacheStats extra = m.requestSamples ++ m.upstreamSamples ++ others := by
  refine ⟨m.histogramSamples ++ (MetricsTables.cacheLines cacheStats).filterMap Line.sample? ++
    extra.map .gauge, ?_, ?_⟩
  · intro s hs
    simp only [List.mem_append] at hs
    rcases hs with (hs | hs) | hs
    · exact isOther_histogramSamples m s hs
    · cases cacheStats with
      | none => cases hs
      | some stats =>
        have hcases : s ∈ [Sample.cacheTotal .hit stats.hits, .cacheTotal .miss stats.misses,
            .cacheTotal .expired stats.expirations, .cacheTotal .evicted stats.evictions] := hs
        simp only [List.mem_cons, List.not_mem_nil, or_false] at hcases
        rcases hcases with rfl | rfl | rfl | rfl <;> trivial
    · obtain ⟨g, -, rfl⟩ := List.mem_map.mp hs
      trivial
  · rw [MetricsTables.samples_eq]
    simp only [List.append_assoc]

/-- **The request counter, as it is read back.** -/
theorem requests_read (m : MetricsTables) (cacheStats : Option CacheStats) (extra : List Gauge) :
    ((TextFormat.samples (m.render cacheStats extra).toList).filterMap readRequest).Perm
      (m.requests.map fun entry => ((withoutBreaks entry.1.1, entry.1.2), entry.2)) := by
  obtain ⟨others, hothers, hsamples⟩ := exists_samples_eq m cacheStats extra
  have hnone : others.filterMap (readRequest ∘ Sample.parts) = [] :=
    List.filterMap_eq_nil_iff.mpr fun s hs => readRequest_other (hothers s hs)
  have hupstream : m.upstreamSamples.filterMap (readRequest ∘ Sample.parts) = [] := by
    rw [List.filterMap_eq_nil_iff]
    intro s hs
    obtain ⟨⟨⟨target, outcome⟩, count⟩, -, rfl⟩ := List.mem_map.mp hs
    exact readRequest_upstreamTotal target outcome count
  rw [samples_render, List.filterMap_map, hsamples, List.filterMap_append, List.filterMap_append,
    hupstream, hnone, List.append_nil, List.append_nil]
  unfold MetricsTables.requestSamples
  rw [List.filterMap_map]
  have hread : (readRequest ∘ Sample.parts) ∘ (fun ((route, status), count) =>
      Sample.requestsTotal route status count) =
      some ∘ fun entry => ((withoutBreaks entry.1.1, entry.1.2), entry.2) := by
    funext entry
    exact readRequest_requestsTotal entry.1.1 entry.1.2 entry.2
  rw [hread, List.filterMap_eq_map]
  exact (List.mergeSort_perm _ _).map _

/-- **The upstream counter, as it is read back.** -/
theorem upstream_read (m : MetricsTables) (cacheStats : Option CacheStats) (extra : List Gauge) :
    ((TextFormat.samples (m.render cacheStats extra).toList).filterMap readUpstream).Perm
      (m.upstream.map fun entry =>
        ((withoutBreaks entry.1.1, withoutBreaks entry.1.2), entry.2)) := by
  obtain ⟨others, hothers, hsamples⟩ := exists_samples_eq m cacheStats extra
  have hnone : others.filterMap (readUpstream ∘ Sample.parts) = [] :=
    List.filterMap_eq_nil_iff.mpr fun s hs => readUpstream_other (hothers s hs)
  have hrequests : m.requestSamples.filterMap (readUpstream ∘ Sample.parts) = [] := by
    rw [List.filterMap_eq_nil_iff]
    intro s hs
    obtain ⟨⟨⟨route, status⟩, count⟩, -, rfl⟩ := List.mem_map.mp hs
    exact readUpstream_requestsTotal route status count
  rw [samples_render, List.filterMap_map, hsamples, List.filterMap_append, List.filterMap_append,
    hrequests, hnone, List.append_nil, List.nil_append]
  unfold MetricsTables.upstreamSamples
  rw [List.filterMap_map]
  have hread : (readUpstream ∘ Sample.parts) ∘ (fun ((target, outcome), count) =>
      Sample.upstreamTotal target outcome count) =
      some ∘ fun entry => ((withoutBreaks entry.1.1, withoutBreaks entry.1.2), entry.2) := by
    funext entry
    exact readUpstream_upstreamTotal entry.1.1 entry.1.2 entry.2
  rw [hread, List.filterMap_eq_map]
  exact (List.mergeSort_perm _ _).map _

/-! ### Runs -/

/-- The labels of an observation. -/
def Observation.labels : Observation → List String
  | .request route _ _ => [route]
  | .upstream target outcome => [target, outcome]

theorem nodup_recorded (obs : List Observation) :
    ((recorded obs).requests.map (·.1)).Nodup ∧ ((recorded obs).upstream.map (·.1)).Nodup := by
  induction obs with
  | nil => exact ⟨List.nodup_nil, List.nodup_nil⟩
  | cons o obs ih =>
    cases o with
    | request route status duration => exact ⟨Counter.nodup_keys_bump ih.1 _, ih.2⟩
    | upstream target outcome => exact ⟨ih.1, Counter.nodup_keys_bump ih.2 _⟩

/-- The pairs recorded are those observed, so the labels are those of the pairs recorded. -/
theorem forall_labels_iff (p : String → Prop) (obs : List Observation) :
    (∀ label ∈ obs.flatMap Observation.labels, p label) ↔
      (∀ key ∈ (recorded obs).requests.map (·.1), p key.1) ∧
        ∀ key ∈ (recorded obs).upstream.map (·.1), p key.1 ∧ p key.2 := by
  induction obs with
  | nil => simp [recorded, MetricsTables.new]
  | cons o obs ih =>
    rw [List.flatMap_cons, List.forall_mem_append, ih]
    cases o with
    | request route status duration =>
      have hkeys : ∀ key, key ∈ ((recorded (.request route status duration :: obs)).requests).map
          (·.1) ↔ key = (route, status) ∨ key ∈ (recorded obs).requests.map (·.1) :=
        fun key => Counter.mem_keys_bump
      have hsame : (recorded (.request route status duration :: obs)).upstream =
          (recorded obs).upstream := rfl
      simp only [hkeys, hsame, forall_eq_or_imp, Observation.labels, List.forall_mem_singleton]
      exact and_assoc.symm
    | upstream target outcome =>
      have hkeys : ∀ key, key ∈ ((recorded (.upstream target outcome :: obs)).upstream).map
          (·.1) ↔ key = (target, outcome) ∨ key ∈ (recorded obs).upstream.map (·.1) :=
        fun key => Counter.mem_keys_bump
      have hsame : (recorded (.upstream target outcome :: obs)).requests =
          (recorded obs).requests := rfl
      simp only [hkeys, hsame, forall_eq_or_imp, Observation.labels, List.forall_mem_cons,
        List.not_mem_nil, false_implies, implies_true, and_true]
      exact and_left_comm

/-- The exposition holds the two counters: each sample is on one line, the entries are read back,
    and no two of them share a series. -/
structure ExpositionDecodes (m : MetricsTables) (cacheStats : Option CacheStats)
    (extra : List Gauge) : Prop where
  one_line : ∀ s ∈ m.samples cacheStats extra, '\n' ∉ s.text.toList
  requests :
    ((TextFormat.samples (m.render cacheStats extra).toList).filterMap readRequest).Perm m.requests
  upstream :
    ((TextFormat.samples (m.render cacheStats extra).toList).filterMap readUpstream).Perm m.upstream
  distinct : ((m.requestSamples ++ m.upstreamSamples).map Sample.series).Nodup

/-- Series of distinct keys are distinct, where the series determines the key. -/
theorem nodup_series {B : Type} {le : B → B → Bool} {table : List ((String × B) × ℕ)}
    {sample : (String × B) × ℕ → Sample} (hnodup : (table.map (·.1)).Nodup)
    (hinj : ∀ a ∈ table, ∀ b ∈ table, (sample a).series = (sample b).series → a.1 = b.1) :
    (((sortedItems le table).map sample).map Sample.series).Nodup := by
  have hperm : (sortedItems le table).Perm table := List.mergeSort_perm _ _
  have hkeys : (sortedItems le table).Pairwise fun a b => a.1 ≠ b.1 :=
    List.pairwise_map.mp ((hperm.map _).nodup_iff.mpr hnodup)
  rw [List.map_map]
  refine List.pairwise_map.mpr (hkeys.imp_of_mem ?_)
  intro a b ha hb hne hseries
  exact hne (hinj a (hperm.mem_iff.mp ha) b (hperm.mem_iff.mp hb) hseries)

/-- A label without line breaks is determined by what is left of it. -/
theorem eq_of_dropBreaks_eq {s t : String} (hs : '\n' ∉ s.toList) (ht : '\n' ∉ t.toList)
    (h : dropBreaks s = dropBreaks t) : s = t := by
  rw [(dropBreaks_eq_iff s).mpr hs, (dropBreaks_eq_iff t).mpr ht] at h
  exact String.toList_inj.mp h

theorem toString_int_inj {a b : Int} (h : (toString a).toList = (toString b).toList) : a = b := by
  have heq := congrArg String.toInt? (String.toList_inj.mp h)
  have ha : (toString a).toInt? = some a := Int.toInt?_repr a
  have hb : (toString b).toInt? = some b := Int.toInt?_repr b
  rw [ha, hb, Option.some.injEq] at heq
  exact heq

/-- The entries are read back as they were when no route has a line break. -/
theorem map_requests_eq_iff (table : Counter (String × Int)) :
    (table.map fun entry => ((withoutBreaks entry.1.1, entry.1.2), entry.2)).Perm table ↔
      ∀ key ∈ table.map (·.1), '\n' ∉ key.1.toList := by
  rw [List.forall_mem_map]
  constructor
  · intro h entry hentry
    obtain ⟨source, -, rfl⟩ := List.mem_map.mp (h.mem_iff.mpr hentry)
    show '\n' ∉ (String.ofList (dropBreaks source.1.1)).toList
    rw [String.toList_ofList]
    exact newline_notMem_dropBreaks source.1.1
  · intro h
    have hid : table.map (fun entry => ((withoutBreaks entry.1.1, entry.1.2), entry.2)) =
        table.map id := by
      apply List.map_congr_left
      intro entry hentry
      rw [(withoutBreaks_eq_iff entry.1.1).mpr (h entry hentry)]
      rfl
    rw [hid, List.map_id]

theorem map_upstream_eq_iff (table : Counter (String × String)) :
    (table.map fun entry =>
        ((withoutBreaks entry.1.1, withoutBreaks entry.1.2), entry.2)).Perm table ↔
      ∀ key ∈ table.map (·.1), '\n' ∉ key.1.toList ∧ '\n' ∉ key.2.toList := by
  rw [List.forall_mem_map]
  constructor
  · intro h entry hentry
    obtain ⟨source, -, rfl⟩ := List.mem_map.mp (h.mem_iff.mpr hentry)
    show '\n' ∉ (String.ofList (dropBreaks source.1.1)).toList ∧
      '\n' ∉ (String.ofList (dropBreaks source.1.2)).toList
    rw [String.toList_ofList, String.toList_ofList]
    exact ⟨newline_notMem_dropBreaks source.1.1, newline_notMem_dropBreaks source.1.2⟩
  · intro h
    have hid : table.map (fun entry =>
        ((withoutBreaks entry.1.1, withoutBreaks entry.1.2), entry.2)) = table.map id := by
      apply List.map_congr_left
      intro entry hentry
      rw [(withoutBreaks_eq_iff entry.1.1).mpr (h entry hentry).1,
        (withoutBreaks_eq_iff entry.1.2).mpr (h entry hentry).2]
      rfl
    rw [hid, List.map_id]

/-- Two request samples of one series have one key. -/
theorem request_key_of_series {a b : (String × Int) × ℕ} (ha : '\n' ∉ a.1.1.toList)
    (hb : '\n' ∉ b.1.1.toList)
    (h : (Sample.requestsTotal a.1.1 a.1.2 a.2).series =
      (Sample.requestsTotal b.1.1 b.1.2 b.2).series) : a.1 = b.1 := by
  have hlabels : [("route".toList, dropBreaks a.1.1), ("status".toList, (toString a.1.2).toList)] =
      [("route".toList, dropBreaks b.1.1), ("status".toList, (toString b.1.2).toList)] :=
    (parts_of_series_eq h).2
  simp only [List.cons.injEq, Prod.mk.injEq, true_and, and_true] at hlabels
  exact Prod.ext (eq_of_dropBreaks_eq ha hb hlabels.1) (toString_int_inj hlabels.2)

/-- Two upstream samples of one series have one key. -/
theorem upstream_key_of_series {a b : (String × String) × ℕ}
    (ha : '\n' ∉ a.1.1.toList ∧ '\n' ∉ a.1.2.toList)
    (hb : '\n' ∉ b.1.1.toList ∧ '\n' ∉ b.1.2.toList)
    (h : (Sample.upstreamTotal a.1.1 a.1.2 a.2).series =
      (Sample.upstreamTotal b.1.1 b.1.2 b.2).series) : a.1 = b.1 := by
  have hlabels : [("upstream".toList, dropBreaks a.1.1), ("outcome".toList, dropBreaks a.1.2)] =
      [("upstream".toList, dropBreaks b.1.1), ("outcome".toList, dropBreaks b.1.2)] :=
    (parts_of_series_eq h).2
  simp only [List.cons.injEq, Prod.mk.injEq, true_and, and_true] at hlabels
  exact Prod.ext (eq_of_dropBreaks_eq ha.1 hb.1 hlabels.1)
    (eq_of_dropBreaks_eq ha.2 hb.2 hlabels.2)

/-- **Without line breaks in the labels, no two entries share a series.** -/
theorem nodup_series_of_no_break {m : MetricsTables} (hrequests : (m.requests.map (·.1)).Nodup)
    (hupstream : (m.upstream.map (·.1)).Nodup)
    (hroutes : ∀ key ∈ m.requests.map (·.1), '\n' ∉ key.1.toList)
    (htargets : ∀ key ∈ m.upstream.map (·.1), '\n' ∉ key.1.toList ∧ '\n' ∉ key.2.toList) :
    ((m.requestSamples ++ m.upstreamSamples).map Sample.series).Nodup := by
  rw [List.forall_mem_map] at hroutes htargets
  rw [List.map_append, List.nodup_append]
  refine ⟨?_, ?_, ?_⟩
  · apply nodup_series hrequests
    intro a ha b hb hseries
    exact request_key_of_series (hroutes a ha) (hroutes b hb) hseries
  · apply nodup_series hupstream
    intro a ha b hb hseries
    exact upstream_key_of_series (htargets a ha) (htargets b hb) hseries
  · -- The names of the two metrics differ.
    intro series hrequest series' hupstream' heq
    obtain ⟨s, hs, rfl⟩ := List.mem_map.mp hrequest
    obtain ⟨t, ht, rfl⟩ := List.mem_map.mp hupstream'
    obtain ⟨⟨⟨route, status⟩, count⟩, -, rfl⟩ := List.mem_map.mp hs
    obtain ⟨⟨⟨target, outcome⟩, count'⟩, -, rfl⟩ := List.mem_map.mp ht
    exact names_ne.1 (parts_of_series_eq heq).1

/-- **Labels decode back exactly when no line break is in them.** -/
theorem labels_decode_iff (s : String) (obs : List Observation) (cacheStats : Option CacheStats)
    (extra : List Gauge) :
    (LabelDecodes s ↔ '\n' ∉ s.toList) ∧
      (ExpositionDecodes (recorded obs) cacheStats extra ↔
        ∀ label ∈ obs.flatMap Observation.labels, '\n' ∉ label.toList) := by
  have hrequests := requests_read (recorded obs) cacheStats extra
  have hupstream := upstream_read (recorded obs) cacheStats extra
  refine ⟨⟨no_break_of_labelDecodes, labelDecodes_of_no_break⟩, ?_⟩
  rw [forall_labels_iff fun label => '\n' ∉ label.toList]
  constructor
  · intro h
    exact ⟨(map_requests_eq_iff _).mp (hrequests.symm.trans h.requests),
      (map_upstream_eq_iff _).mp (hupstream.symm.trans h.upstream)⟩
  · rintro ⟨hroutes, htargets⟩
    obtain ⟨hnodup, hnodup'⟩ := nodup_recorded obs
    exact {
      one_line := fun s _ => newline_notMem_sample s
      requests := hrequests.trans ((map_requests_eq_iff _).mpr hroutes)
      upstream := hupstream.trans ((map_upstream_eq_iff _).mpr htargets)
      distinct := nodup_series_of_no_break hnodup hnodup' hroutes htargets }

/-- A route with a line break in it: the label loses it, and the route is counted under the series
    of another one. -/
theorem line_break_not_decoded :
    ¬LabelDecodes "/a\nb" ∧
      ¬ExpositionDecodes (recorded [.request "/a\nb" 200 0, .request "/ab" 200 0]) none [] ∧
      (Sample.requestsTotal "/a\nb" 200 1).series = (Sample.requestsTotal "/ab" 200 1).series := by
  refine ⟨fun h => no_break_of_labelDecodes h (by decide), ?_, by decide⟩
  intro h
  have hperm := (requests_read _ none []).symm.trans h.requests
  have hroute := (map_requests_eq_iff _).mp hperm ("/a\nb", 200) (by decide)
  exact hroute (by decide)

end Algorandscout
