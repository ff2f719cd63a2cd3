import RingDiagram.Notation.Printer
import RingDiagram.Proofs.Notation.Forms

/-!
# What the lines of a text say

The kept lines of a text are what its lines say, with their numbers (`keptLines_eq`). Comments,
blanks and the way lines end are gone from `contents`, so two texts are told apart by the reader
only where their contents differ.

`firstLines n` is the text made of the first `n` lines of another. The classified lines of the whole
text are those of its first lines and others with greater numbers (`exists_readings_firstLines`),
and those of the first lines depend on the contents of these lines alone
(`readings_firstLines_congr`).
-/

namespace RingDiagram.Notation

open Text

/-! ### Lines and their numbers -/

/-- What the lines of a text say, one after the other; nothing is said by a line that is blank or
holds a comment alone. -/
def contents (source : String) : List (List Char) :=
  (lines source.toList).map content

/-- The kept lines of a text whose lines say these things and are counted from the given number
on. -/
def keptFrom (start : Nat) (texts : List (List Char)) : List KeptLine :=
  (texts.zipIdx start).filterMap fun t => if t.1.isEmpty then none else some ⟨t.2, t.1⟩

theorem keptFrom_nil (start : Nat) : keptFrom start [] = [] := rfl

/-- The first line is kept with its number, if it says something. -/
theorem keptFrom_cons (start : Nat) (text : List Char) (texts : List (List Char)) :
    keptFrom start (text :: texts) =
      (if text.isEmpty then none else some ⟨start, text⟩ : Option KeptLine).toList ++
        keptFrom (start + 1) texts := by
  unfold keptFrom
  -- the numbers begin with that of the first line
  rw [List.zipIdx_cons, List.filterMap_cons]
  by_cases h_text : text.isEmpty
  · simp [h_text]
  · simp [h_text]

theorem mem_keptFrom_cons {start : Nat} {text : List Char} {texts : List (List Char)}
    {kept : KeptLine} : kept ∈ keptFrom start (text :: texts) ↔
      (text ≠ [] ∧ kept = ⟨start, text⟩) ∨ kept ∈ keptFrom (start + 1) texts := by
  rw [keptFrom_cons, List.mem_append]
  refine or_congr_left ?_
  cases text with
  | nil => simp
  | cons c text => simp

theorem keptFrom_append (start : Nat) (xs ys : List (List Char)) :
    keptFrom start (xs ++ ys) = keptFrom start xs ++ keptFrom (start + xs.length) ys := by
  unfold keptFrom
  rw [List.zipIdx_append, List.filterMap_append]

/-- A text that says something is kept between the lines before it and those after it. -/
theorem keptFrom_append_cons {start : Nat} {before after : List (List Char)} {text : List Char}
    (h : text ≠ []) :
    keptFrom start (before ++ text :: after) = keptFrom start before ++
      ⟨start + before.length, text⟩ :: keptFrom (start + before.length + 1) after := by
  have h_text : text.isEmpty = false := by simpa using h
  rw [keptFrom_append, keptFrom_cons, h_text]
  rfl

/-- **Kept lines** are what the lines of a text say, counted from one. -/
theorem keptLines_eq (source : String) : keptLines source = keptFrom 1 (contents source) := by
  unfold keptLines keptFrom contents
  rw [List.zipIdx_map, List.filterMap_map]
  rfl

/-- The number of a kept line is its place in the text. -/
theorem getElem?_of_mem_keptFrom {start : Nat} {texts : List (List Char)} {kept : KeptLine}
    (h : kept ∈ keptFrom start texts) :
    start ≤ kept.number ∧ texts[kept.number - start]? = some kept.text ∧ kept.text ≠ [] := by
  obtain ⟨⟨text, number⟩, h_mem, h_kept⟩ := List.mem_filterMap.1 h
  -- the kept line stands at its number, counted from the start
  obtain ⟨h_start, h_text⟩ := List.mk_mem_zipIdx_iff_le_and_getElem?_sub.1 h_mem
  cases text with
  | nil => cases h_kept
  | cons c text =>
    cases h_kept
    exact ⟨h_start, h_text, List.cons_ne_nil c text⟩

/-- Numbers end where the texts do. -/
theorem number_lt_of_mem_keptFrom {start : Nat} {texts : List (List Char)} {kept : KeptLine}
    (h : kept ∈ keptFrom start texts) : kept.number < start + texts.length := by
  obtain ⟨h_start, h_text, -⟩ := getElem?_of_mem_keptFrom h
  obtain ⟨h_lt, -⟩ := List.getElem?_eq_some_iff.1 h_text
  omega

/-! ### The first lines of a text -/

/-- The text made of the first `n` lines of another. -/
def firstLines (n : Nat) (source : String) : String :=
  String.ofList (joined '\n' ((lines source.toList).take n))

/-- No line holds a line feed. -/
theorem notMem_of_mem_lines {text line : List Char} (h : line ∈ lines text) : '\n' ∉ line := by
  unfold lines at h
  -- the text is cut at the first line feed, and the induction is on its characters
  induction text generalizing line with
  | nil =>
    rw [List.splitOnP_nil, List.mem_singleton] at h
    rw [h]
    exact List.not_mem_nil
  | cons c text ih =>
    rw [List.splitOnP_cons_eq_if_modifyHead] at h
    split at h
    · rcases List.mem_cons.1 h with rfl | h_line
      · exact List.not_mem_nil
      · exact ih h_line
    · next h_c =>
      -- the character joins the first line of the rest
      cases h_split : text.splitOnP (· == '\n') with
      | nil => exact absurd h_split (List.splitOnP_ne_nil _ _)
      | cons first more =>
        rw [h_split, List.modifyHead_cons] at h
        rw [h_split] at ih
        rcases List.mem_cons.1 h with rfl | h_line
        · have h_first : '\n' ∉ first := ih List.mem_cons_self
          have h_ne : '\n' ≠ c := fun h_eq => h_c (by rw [← h_eq]; rfl)
          simp [h_first, h_ne]
        · exact ih (List.mem_cons_of_mem first h_line)

/-- A text that is made of lines says what they say. -/
theorem contents_joined {texts : List (List Char)} (h_nonempty : texts ≠ [])
    (h : ∀ line ∈ texts, '\n' ∉ line) :
    contents (String.ofList (joined '\n' texts)) = texts.map content := by
  -- the library splits at the separators that were put between
  have h_lines : lines (joined '\n' texts) = texts := List.splitOn_intercalate '\n' h h_nonempty
  unfold contents
  rw [String.toList_ofList, h_lines]

/-- The first lines of a text say what they say there. -/
theorem contents_firstLines {n : Nat} (h : n ≠ 0) (source : String) :
    contents (firstLines n source) = (contents source).take n := by
  have h_nonempty : (lines source.toList).take n ≠ [] := by
    rw [Ne, List.take_eq_nil_iff, not_or]
    exact ⟨h, List.splitOnP_ne_nil _ _⟩
  have h_lines : ∀ line ∈ (lines source.toList).take n, '\n' ∉ line := fun line h_line =>
    notMem_of_mem_lines (List.mem_of_mem_take h_line)
  rw [firstLines, contents_joined h_nonempty h_lines, contents, List.map_take]

/-- The kept lines among the first lines of a text. -/
theorem keptLines_firstLines (n : Nat) (source : String) :
    keptLines (firstLines n source) = keptFrom 1 ((contents source).take n) := by
  by_cases h : n = 0
  · -- of no lines a text is made that has one, and that line says nothing
    subst h
    rw [List.take_zero, keptFrom_nil, firstLines, List.take_zero]
    decide
  · rw [keptLines_eq, contents_firstLines h]

/-! ### Classified lines and their numbers -/

/-- Classified lines have the numbers of the kept lines. -/
theorem exists_of_mem_classified {kepts : List KeptLine} {r : Reading}
    (h : r ∈ classified kepts) : ∃ kept ∈ kepts, r.1 = kept.number := by
  cases kepts with
  | nil => cases h
  | cons kept rest =>
    rcases List.mem_cons.1 h with rfl | h_rest
    · exact ⟨kept, List.mem_cons_self, rfl⟩
    · obtain ⟨k, h_k, rfl⟩ := List.mem_map.1 h_rest
      exact ⟨k, List.mem_cons_of_mem kept h_k, rfl⟩

/-- Lines are classified without regard to their numbers. -/
theorem classified_map (f : Nat → Nat) (kepts : List KeptLine) :
    classified (kepts.map fun kept => ⟨f kept.number, kept.text⟩) =
      (classified kepts).map fun r => (f r.1, r.2) := by
  cases kepts with
  | nil => rfl
  | cons kept rest =>
    rw [List.map_cons, classified, classified, List.map_cons, List.map_map, List.map_map]
    rfl

/-- Kept lines are classified without regard to the ones after them. -/
theorem exists_classified_append (xs ys : List KeptLine) :
    ∃ rest, classified (xs ++ ys) = classified xs ++ rest ∧
      ∀ r ∈ rest, ∃ kept ∈ ys, r.1 = kept.number := by
  cases xs with
  | nil => exact ⟨classified ys, rfl, fun r h_r => exists_of_mem_classified h_r⟩
  | cons kept xs =>
    refine ⟨ys.map fun k => (k.number, Line.read? false k.text), ?_, fun r h_r => ?_⟩
    · rw [List.cons_append, classified, classified, List.map_append, List.cons_append]
    · obtain ⟨k, h_k, rfl⟩ := List.mem_map.1 h_r
      exact ⟨k, h_k, rfl⟩

/-- **The first lines** of a text are classified as they are in the whole text, where the lines
after them have greater numbers. -/
theorem exists_readings_firstLines (n : Nat) (source : String) :
    ∃ rest, readings source = readings (firstLines n source) ++ rest ∧ ∀ r ∈ rest, n < r.1 := by
  -- the kept lines are those of the first part and those of the rest, counted on
  have h_kept : keptLines source = keptLines (firstLines n source) ++
      keptFrom (1 + ((contents source).take n).length) ((contents source).drop n) := by
    rw [keptLines_firstLines, ← keptFrom_append, List.take_append_drop, keptLines_eq]
  obtain ⟨rest, h_rest, h_numbers⟩ := exists_classified_append (keptLines (firstLines n source))
    (keptFrom (1 + ((contents source).take n).length) ((contents source).drop n))
  refine ⟨rest, ?_, fun r h_r => ?_⟩
  · rw [readings, h_kept, h_rest, readings]
  · obtain ⟨kept, h_mem, h_number⟩ := h_numbers r h_r
    obtain ⟨h_start, h_text, -⟩ := getElem?_of_mem_keptFrom h_mem
    -- a line after the first ones is there, so there are as many of these as were asked for
    obtain ⟨h_lt, -⟩ := List.getElem?_eq_some_iff.1 h_text
    rw [List.length_drop] at h_lt
    rw [List.length_take] at h_start
    omega

/-- No line among the first ones has a greater number. -/
theorem number_le_of_mem_readings_firstLines {n : Nat} {source : String} {r : Reading}
    (h : r ∈ readings (firstLines n source)) : r.1 ≤ n := by
  obtain ⟨kept, h_kept, h_number⟩ := exists_of_mem_classified h
  -- there are no more than that many lines, so the numbers end there
  rw [keptLines_firstLines] at h_kept
  have h_lt := number_lt_of_mem_keptFrom h_kept
  rw [List.length_take] at h_lt
  omega

/-- The first lines of two texts are classified alike if they say the same. -/
theorem readings_firstLines_congr {n : Nat} {source text : String}
    (h : (contents text).take n = (contents source).take n) :
    readings (firstLines n text) = readings (firstLines n source) := by
  rw [readings, readings, keptLines_firstLines, keptLines_firstLines, h]

/-- A classified line stands in the text at its number, and says something. -/
theorem exists_line_of_mem_readings {source : String} {r : Reading} (h : r ∈ readings source) :
    ∃ line, 0 < r.1 ∧ (lines source.toList)[r.1 - 1]? = some line ∧ content line ≠ [] := by
  obtain ⟨kept, h_kept, h_number⟩ := exists_of_mem_classified h
  rw [keptLines_eq] at h_kept
  obtain ⟨h_start, h_text, h_nonempty⟩ := getElem?_of_mem_keptFrom h_kept
  rw [contents, List.getElem?_map, Option.map_eq_some_iff] at h_text
  obtain ⟨line, h_line, h_content⟩ := h_text
  rw [h_number]
  exact ⟨line, h_start, h_line, h_content ▸ h_nonempty⟩

end RingDiagram.Notation
