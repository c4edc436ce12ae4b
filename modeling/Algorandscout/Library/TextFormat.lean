import Mathlib.Data.List.Basic
import Mathlib.Tactic.Common

namespace Algorandscout.Library.TextFormat

/-!
# The text format of metric samples

A line of the exposition is a name, labels between braces and a value.  Label values are quoted,
with a backslash before a backslash, a quote and an `n` that stands for a line break.

* `escape`, `readQuoted`, `unescape` — escaping a label value and undoing it;
* `Sample`, `Sample.line`, `parseLine` — a line, written and read;
* `parseLine_line` — what is written is read back;
* `document`, `samples` — the lines of a document, and the samples among them;
* `samples_document` — they are read back too, comments skipped.
-/

/-! ### Escapes -/

/-- The escape of one character. -/
def escapeChar (c : Char) : List Char :=
  if c = '\\' then ['\\', '\\']
  else if c = '"' then ['\\', '"']
  else if c = '\n' then ['\\', 'n']
  else [c]

/-- The three escapes. -/
def escape (s : List Char) : List Char := s.flatMap escapeChar

/-- A character that is not escaped. -/
def isPlain (c : Char) : Bool := c != '\\' && c != '"' && c != '\n'

theorem escape_of_plain {s : List Char} (h : s.all isPlain = true) : escape s = s := by
  induction s with
  | nil => rfl
  | cons c s ih =>
    rw [List.all_cons, Bool.and_eq_true] at h
    have hplain : escapeChar c = [c] := by
      have hc := h.1
      simp only [isPlain, Bool.and_eq_true, bne_iff_ne, ne_eq] at hc
      unfold escapeChar
      rw [if_neg hc.1.1, if_neg hc.1.2, if_neg hc.2]
    unfold escape at ih ⊢
    rw [List.flatMap_cons, hplain, ih h.2, List.singleton_append]

/-- What an escape stands for. -/
def unescapeChar : Char → Option Char
  | '\\' => some '\\'
  | '"' => some '"'
  | 'n' => some '\n'
  | _ => none

/-- Read a label value up to the quote that closes it. -/
def readQuoted : List Char → Option (List Char × List Char)
  | [] => none
  | '"' :: rest => some ([], rest)
  | '\\' :: [] => none
  | '\\' :: c :: rest => do
    let decoded ← unescapeChar c
    let (value, after) ← readQuoted rest
    return (decoded :: value, after)
  | c :: rest => do
    let (value, after) ← readQuoted rest
    return (c :: value, after)

/-- Undo the escapes; a bare quote or a backslash that escapes nothing is refused. -/
def unescape (s : List Char) : Option (List Char) :=
  match readQuoted (s ++ ['"']) with
  | some (value, []) => some value
  | _ => none

theorem readQuoted_cons {c : Char} (hquote : c ≠ '"') (hslash : c ≠ '\\') (rest : List Char) :
    readQuoted (c :: rest) =
      (readQuoted rest).bind fun (value, after) => some (c :: value, after) := by
  rw [readQuoted]
  · rfl
  · rintro rfl
    exact hquote rfl
  · rintro rfl
    exact fun _ => hslash rfl
  · rintro d rest' rfl
    exact fun _ => hslash rfl

/-- **Escaping loses nothing**, whatever follows the closing quote. -/
theorem readQuoted_escape (s rest : List Char) :
    readQuoted (escape s ++ '"' :: rest) = some (s, rest) := by
  induction s with
  | nil => rfl
  | cons c s ih =>
    unfold escape at ih ⊢
    rw [List.flatMap_cons, List.append_assoc]
    by_cases hslash : c = '\\'
    · subst hslash
      show (readQuoted (s.flatMap escapeChar ++ '"' :: rest)).bind _ = _
      rw [ih]
      rfl
    by_cases hquote : c = '"'
    · subst hquote
      show (readQuoted (s.flatMap escapeChar ++ '"' :: rest)).bind _ = _
      rw [ih]
      rfl
    by_cases hbreak : c = '\n'
    · subst hbreak
      show (readQuoted (s.flatMap escapeChar ++ '"' :: rest)).bind _ = _
      rw [ih]
      rfl
    · have hplain : escapeChar c = [c] := by
        unfold escapeChar
        rw [if_neg hslash, if_neg hquote, if_neg hbreak]
      rw [hplain, List.singleton_append, readQuoted_cons hquote hslash, ih]
      rfl

theorem unescape_escape (s : List Char) : unescape (escape s) = some s := by
  unfold unescape
  rw [readQuoted_escape]

/-- An escaped value has no line break. -/
theorem newline_notMem_escape (s : List Char) : '\n' ∉ escape s := by
  intro h
  obtain ⟨c, -, hc⟩ := List.mem_flatMap.mp h
  unfold escapeChar at hc
  split_ifs at hc with hslash hquote hbreak
  · revert hc
    decide
  · revert hc
    decide
  · revert hc
    decide
  · exact hbreak (List.mem_singleton.mp hc).symm

/-- A quote that no backslash stands before, read from left to right. -/
def hasBareQuote : List Char → Bool
  | [] => false
  | '"' :: _ => true
  | '\\' :: [] => false
  | '\\' :: _ :: rest => hasBareQuote rest
  | _ :: rest => hasBareQuote rest

theorem hasBareQuote_cons {c : Char} (hquote : c ≠ '"') (hslash : c ≠ '\\') (rest : List Char) :
    hasBareQuote (c :: rest) = hasBareQuote rest := by
  rw [hasBareQuote]
  · rintro rfl
    exact hquote rfl
  · rintro rfl
    exact fun _ => hslash rfl
  · rintro d rest' rfl
    exact fun _ => hslash rfl

theorem hasBareQuote_escape (s : List Char) : hasBareQuote (escape s) = false := by
  induction s with
  | nil => rfl
  | cons c s ih =>
    unfold escape at ih ⊢
    rw [List.flatMap_cons]
    unfold escapeChar
    split_ifs with hslash hquote hbreak
    · exact ih
    · exact ih
    · exact ih
    · rw [List.singleton_append, hasBareQuote_cons hquote hslash]
      exact ih

/-! ### Lines -/

/-- A sample: its name, its labels and its value. -/
structure Sample where
  name : List Char
  labels : List (List Char × List Char)
  value : List Char
  deriving DecidableEq

/-- The characters of names. -/
def isNameChar (c : Char) : Bool := c.isAlphanum || c == '_'

/-- The labels between the braces. -/
def labelsText : List (List Char × List Char) → List Char
  | [] => []
  | [(k, v)] => k ++ '=' :: '"' :: (escape v ++ ['"'])
  | (k, v) :: l :: ls => k ++ '=' :: '"' :: (escape v ++ '"' :: ',' :: labelsText (l :: ls))

/-- The line of a sample; without labels there are no braces. -/
def Sample.line (s : Sample) : List Char :=
  s.name ++ (if s.labels = [] then [] else '{' :: (labelsText s.labels ++ ['}'])) ++ ' ' :: s.value

/-- Names are made of name characters, and the line is one line. -/
structure Sample.WellFormed (s : Sample) : Prop where
  name_ne_nil : s.name ≠ []
  name_chars : ∀ c ∈ s.name, isNameChar c = true
  label_chars : ∀ l ∈ s.labels, ∀ c ∈ l.1, isNameChar c = true
  value_line : '\n' ∉ s.value

/-- Read labels up to the closing brace; each takes at least one character. -/
def parseLabels : ℕ → List Char → Option (List (List Char × List Char) × List Char)
  | 0, _ => none
  | fuel + 1, cs =>
    match cs.dropWhile isNameChar with
    | '=' :: '"' :: quoted =>
      match readQuoted quoted with
      | some (value, '}' :: rest) => some ([(cs.takeWhile isNameChar, value)], rest)
      | some (value, ',' :: rest) =>
        (parseLabels fuel rest).map fun (labels, after) =>
          ((cs.takeWhile isNameChar, value) :: labels, after)
      | _ => none
    | _ => none

/-- The sample on a line; a comment holds none. -/
def parseLine (cs : List Char) : Option Sample :=
  if cs.takeWhile isNameChar = [] then none
  else
    match cs.dropWhile isNameChar with
    | ' ' :: value => some ⟨cs.takeWhile isNameChar, [], value⟩
    | '{' :: rest =>
      match parseLabels rest.length rest with
      | some (labels, ' ' :: value) => some ⟨cs.takeWhile isNameChar, labels, value⟩
      | _ => none
    | _ => none

/-- A name ends where a character follows that is none of a name. -/
theorem span_name {name : List Char} (h : ∀ c ∈ name, isNameChar c = true) {c : Char}
    (hc : isNameChar c = false) (rest : List Char) :
    (name ++ c :: rest).takeWhile isNameChar = name ∧
      (name ++ c :: rest).dropWhile isNameChar = c :: rest := by
  rw [List.takeWhile_append_of_pos h, List.dropWhile_append_of_pos h,
    List.takeWhile_cons_of_neg (by simp [hc]), List.dropWhile_cons_of_neg (by simp [hc]),
    List.append_nil]
  exact ⟨rfl, rfl⟩

/-- Every label takes some of the text. -/
theorem length_le_length_labelsText (labels : List (List Char × List Char)) :
    labels.length ≤ (labelsText labels).length := by
  induction labels with
  | nil => exact Nat.le_refl 0
  | cons l ls ih =>
    obtain ⟨k, v⟩ := l
    cases ls with
    | nil =>
      show 1 ≤ (k ++ '=' :: '"' :: (escape v ++ ['"'])).length
      rw [List.length_append, List.length_cons]
      omega
    | cons l' ls =>
      have hlen : (labelsText ((k, v) :: l' :: ls)).length =
          k.length + (escape v).length + 4 + (labelsText (l' :: ls)).length := by
        simp only [labelsText, List.length_append, List.length_cons]
        omega
      rw [hlen, List.length_cons]
      omega

/-- The labels are read back. -/
theorem parseLabels_labelsText {labels : List (List Char × List Char)} (hne : labels ≠ [])
    (h : ∀ l ∈ labels, ∀ c ∈ l.1, isNameChar c = true) (rest : List Char) {fuel : ℕ}
    (hfuel : labels.length ≤ fuel) :
    parseLabels fuel (labelsText labels ++ '}' :: rest) = some (labels, rest) := by
  induction labels generalizing fuel with
  | nil => exact absurd rfl hne
  | cons l ls ih =>
    obtain ⟨k, v⟩ := l
    obtain ⟨hk, hls⟩ := List.forall_mem_cons.mp h
    obtain ⟨fuel, rfl⟩ := Nat.exists_eq_succ_of_ne_zero (by
      rw [List.length_cons] at hfuel
      omega : fuel ≠ 0)
    have heq : isNameChar '=' = false := by decide
    cases ls with
    | nil =>
      have htext : labelsText [(k, v)] ++ '}' :: rest =
          k ++ '=' :: '"' :: (escape v ++ '"' :: '}' :: rest) := by
        simp [labelsText]
      obtain ⟨htake, hdrop⟩ := span_name hk heq ( '"' :: (escape v ++ '"' :: '}' :: rest))
      rw [htext, parseLabels, hdrop, htake]
      simp only [readQuoted_escape]
    | cons l' ls =>
      have htext : labelsText ((k, v) :: l' :: ls) ++ '}' :: rest =
          k ++ '=' :: '"' ::
            (escape v ++ '"' :: ',' :: (labelsText (l' :: ls) ++ '}' :: rest)) := by
        simp [labelsText]
      obtain ⟨htake, hdrop⟩ := span_name hk heq
        ( '"' :: (escape v ++ '"' :: ',' :: (labelsText (l' :: ls) ++ '}' :: rest)))
      have hmore := ih (List.cons_ne_nil _ _) hls (Nat.le_of_succ_le_succ hfuel)
      rw [htext, parseLabels, hdrop, htake]
      simp only [readQuoted_escape, hmore, Option.map_some]

/-- **What is written is read back.** -/
theorem parseLine_line {s : Sample} (h : s.WellFormed) : parseLine s.line = some s := by
  obtain ⟨name, labels, value⟩ := s
  obtain ⟨hne, hname, hlabels, -⟩ := h
  simp only at hne hname hlabels
  unfold parseLine Sample.line
  by_cases hempty : labels = []
  · subst hempty
    obtain ⟨htake, hdrop⟩ := span_name hname (by decide : isNameChar ' ' = false) value
    simp only [↓reduceIte, List.append_nil, htake, hdrop]
    rw [if_neg hne]
  · have htext : name ++ ('{' :: (labelsText labels ++ ['}'])) ++ ' ' :: value =
        name ++ '{' :: (labelsText labels ++ '}' :: ' ' :: value) := by simp
    obtain ⟨htake, hdrop⟩ := span_name hname (by decide : isNameChar '{' = false)
      (labelsText labels ++ '}' :: ' ' :: value)
    have hfuel : labels.length ≤ (labelsText labels ++ '}' :: ' ' :: value).length := by
      have hle := length_le_length_labelsText labels
      rw [List.length_append]
      omega
    have hparse := parseLabels_labelsText hempty hlabels (' ' :: value) hfuel
    simp only [if_neg hempty, htext, htake, hdrop, hparse]
    rw [if_neg hne]

/-- A name has no line break. -/
theorem newline_notMem_name {name : List Char} (h : ∀ c ∈ name, isNameChar c = true) :
    '\n' ∉ name := by
  intro hmem
  have hchar := h '\n' hmem
  revert hchar
  decide

theorem newline_notMem_labelsText {labels : List (List Char × List Char)}
    (h : ∀ l ∈ labels, ∀ c ∈ l.1, isNameChar c = true) : '\n' ∉ labelsText labels := by
  induction labels with
  | nil => exact List.not_mem_nil
  | cons l ls ih =>
    obtain ⟨k, v⟩ := l
    obtain ⟨hk, hls⟩ := List.forall_mem_cons.mp h
    have hname := newline_notMem_name hk
    have hvalue := newline_notMem_escape v
    cases ls with
    | nil => simp [labelsText, hname, hvalue]
    | cons l' ls => simp [labelsText, hname, hvalue, ih hls]

/-- A sample is one line. -/
theorem newline_notMem_line {s : Sample} (h : s.WellFormed) : '\n' ∉ s.line := by
  have hname := newline_notMem_name h.name_chars
  have hlabels := newline_notMem_labelsText h.label_chars
  have hvalue := h.value_line
  unfold Sample.line
  split_ifs
  · simp [hname, hvalue]
  · simp [hname, hlabels, hvalue]

/-- A comment holds no sample. -/
theorem parseLine_comment (cs : List Char) : parseLine ('#' :: cs) = none := rfl

/-! ### Documents -/

/-- The lines of a document, each ended by a line break. -/
def document (lines : List (List Char)) : List Char := lines.flatMap fun line => line ++ ['\n']

/-- Lines joined by line breaks, and one more line break. -/
theorem intercalate_append_newline {lines : List (List Char)} (h : lines ≠ []) :
    ['\n'].intercalate lines ++ ['\n'] = document lines := by
  induction lines with
  | nil => exact absurd rfl h
  | cons line lines ih =>
    cases lines with
    | nil => simp [document]
    | cons next lines =>
      have hrest := ih (List.cons_ne_nil next lines)
      unfold document at hrest ⊢
      rw [List.flatMap_cons, ← hrest]
      simp [List.intercalate_cons_cons]

/-- The samples of a document. -/
def samples (text : List Char) : List Sample := (text.splitOn '\n').filterMap parseLine

/-- The lines are split where they were ended, and nothing comes after the last of them. -/
theorem splitOn_document {lines : List (List Char)} (h : ∀ line ∈ lines, '\n' ∉ line) :
    (document lines).splitOn '\n' = lines ++ [[]] := by
  induction lines with
  | nil => rfl
  | cons line lines ih =>
    obtain ⟨hline, hlines⟩ := List.forall_mem_cons.mp h
    have htext : document (line :: lines) = line ++ '\n' :: document lines := by
      simp [document]
    rw [htext, List.splitOn_append_cons_self_of_not_mem hline, ih hlines, List.cons_append]

/-- **The samples of a document are read line by line.** -/
theorem samples_document {lines : List (List Char)} (h : ∀ line ∈ lines, '\n' ∉ line) :
    samples (document lines) = lines.filterMap parseLine := by
  unfold samples
  rw [splitOn_document h, List.filterMap_append]
  exact List.append_nil _

end Algorandscout.Library.TextFormat
