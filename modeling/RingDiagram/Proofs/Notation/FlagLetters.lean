import RingDiagram.Proofs.Notation.Comments
import RingDiagram.Proofs.Notation.Contents
import RingDiagram.Proofs.Notation.Grammar

/-!
# One more letter in a flags line

A source may open with a flags line, which is a hyphen and letters, and a flag is set by writing its
letter behind the hyphen. `withLetter` does so in the text, in the first line that says something,
behind the blanks that may stand before the hyphen and before whatever else the line holds.

`OpensWith` says of a source that it opens with a flags line and gives its letters. With another
letter in it the flags line stays where it is, and nothing else is classified otherwise
(`readings_withLetter`), so the two sources are read as the same lines under different flags
(`exists_read_withLetter`).
-/

namespace RingDiagram.Notation

open Text

/-! ### Sources that open with a flags line -/

/-- The first kept line of the source is a hyphen and these letters. -/
def OpensWith (letters : List Char) (source : String) : Prop :=
  (keptLines source).head?.map KeptLine.text = some ('-' :: letters)

theorem opensWith_iff {letters : List Char} {source : String} :
    OpensWith letters source ↔
      ∃ number rest, keptLines source = ⟨number, '-' :: letters⟩ :: rest := by
  unfold OpensWith
  cases keptLines source with
  | nil => simp
  | cons kept rest =>
    obtain ⟨number, text⟩ := kept
    simp

/-- No kept line holds a line feed. -/
theorem notMem_of_mem_keptLines {source : String} {kept : KeptLine} (h : kept ∈ keptLines source) :
    '\n' ∉ kept.text := by
  rw [keptLines_eq] at h
  -- a kept line is what one of the lines says, and lines are cut at line feeds
  obtain ⟨-, h_text, -⟩ := getElem?_of_mem_keptFrom h
  obtain ⟨line, h_line, h_content⟩ := List.mem_map.1 (List.mem_of_getElem? h_text)
  rw [← h_content]
  exact fun h_mem => notMem_of_mem_lines h_line (mem_of_mem_content h_mem)

/-- A hyphen and letters at the start of a source are read as flags. -/
theorem readings_of_keptLines {source : String} {number : Nat} {letters : List Char}
    {rest : List KeptLine} (h : keptLines source = ⟨number, '-' :: letters⟩ :: rest) :
    readings source = (number, some (.flags (.ofLetters letters))) ::
      rest.map fun k => (k.number, Line.read? false k.text) := by
  -- the letters are on one line, so the whole of them is read as flags
  have h_break : '\n' ∉ letters := by
    have h_first := notMem_of_mem_keptLines (h ▸ List.mem_cons_self)
    exact fun h_mem => h_first (List.mem_cons_of_mem _ h_mem)
  rw [readings, h, classified, read?_eq_flags_iff.2 ⟨rfl, letters, rfl, h_break, rfl⟩]

/-! ### Writing a letter behind the hyphen -/

/-- The line with a letter right behind its first hyphen. -/
def behindHyphen (letter : Char) : List Char → List Char
  | [] => []
  | '-' :: rest => '-' :: letter :: rest
  | c :: rest => c :: behindHyphen letter rest

/-- The lines with a change to the first one that says something. -/
def inFirstKept (change : List Char → List Char) : List (List Char) → List (List Char)
  | [] => []
  | line :: rest =>
    if (content line).isEmpty then line :: inFirstKept change rest else change line :: rest

/-- The source with a letter right behind the first hyphen of its first line that says something. -/
def withLetter (letter : Char) (source : String) : String :=
  .ofList (joined '\n' (inFirstKept (behindHyphen letter) (lines source.toList)))

/-- A letter does not end a line and neither begins nor ends what a line says. -/
structure IsLetter (c : Char) : Prop where
  not_blank : isBlank c = false
  not_slash : c ≠ '/'

variable {c : Char}

theorem isLetter_hyphen : IsLetter '-' := ⟨by decide, by decide⟩

theorem IsLetter.not_break (h : IsLetter c) : c ≠ '\n' := by
  rintro rfl
  have h_break : isBlank '\n' = true := by decide
  rw [h.not_blank] at h_break
  cases h_break

theorem IsLetter.beforeComment_cons (h : IsLetter c) (line : List Char) :
    beforeComment (c :: line) = c :: beforeComment line := by
  rw [beforeComment]
  intro rest h_c
  exact absurd h_c h.not_slash

/-- A line that begins with a letter says that letter first. -/
theorem IsLetter.content_cons (h : IsLetter c) (line : List Char) :
    content (c :: line) = c :: trimEnd (beforeComment line) := by
  rw [content, h.beforeComment_cons, trim_cons h.not_blank]

/-- What a line says begins with the first character of the line that is no blank. -/
theorem eq_of_content_cons {d : Char} {line text : List Char} (h_blank : isBlank c = false)
    (h : content (c :: line) = d :: text) : c = d := by
  -- the line begins with a character or with a comment, and a comment says nothing
  unfold content beforeComment at h
  split at h
  · next h_nil => cases h_nil
  · cases h
  · next e rest _ h_cons =>
    obtain ⟨rfl, -⟩ := List.cons.inj h_cons
    rw [trim_cons h_blank] at h
    exact (List.cons.inj h).1

/-- **A line with a letter behind its hyphen** says what it said before with the letter in it. -/
theorem content_behindHyphen {line letters : List Char} (h_c : IsLetter c)
    (h : content line = '-' :: letters) : content (behindHyphen c line) = '-' :: c :: letters := by
  fun_induction behindHyphen c line with
  | case1 => cases h
  | case2 rest =>
    -- the hyphen is the first character, and the letter comes right behind it
    rw [isLetter_hyphen.content_cons] at h
    rw [isLetter_hyphen.content_cons, h_c.beforeComment_cons, trimEnd_cons h_c.not_blank,
      (List.cons.inj h).2]
  | case3 d rest h_hyphen ih =>
    -- only blanks stand before the hyphen
    have h_blank : isBlank d = true := by
      rw [← Bool.not_eq_false]
      exact fun h_d => h_hyphen (eq_of_content_cons h_d h)
    rw [content_blank_cons h_blank] at h ⊢
    exact ih h

theorem notMem_behindHyphen {line : List Char} (h_c : IsLetter c) (h : '\n' ∉ line) :
    '\n' ∉ behindHyphen c line := by
  fun_induction behindHyphen c line with
  | case1 => exact h
  | case2 rest =>
    have h_rest : '\n' ∉ rest := fun h_mem => h (List.mem_cons_of_mem _ h_mem)
    simp [h_rest, h_c.not_break.symm]
  | case3 d rest _ ih =>
    rw [List.mem_cons, not_or] at h ⊢
    exact ⟨h.1, ih h.2⟩

section FirstKept

variable {change : List Char → List Char}

/-- A line is one of those before, or the changed one. -/
theorem of_mem_inFirstKept {texts : List (List Char)} {line : List Char}
    (h : line ∈ inFirstKept change texts) : ∃ old ∈ texts, line = old ∨ line = change old := by
  -- a line is passed over as idle, or it is the one that is changed
  fun_induction inFirstKept change texts with
  | case1 => cases h
  | case2 first rest _ ih =>
    rcases List.mem_cons.1 h with rfl | h_rest
    · exact ⟨_, List.mem_cons_self, Or.inl rfl⟩
    · obtain ⟨old, h_old, h_line⟩ := ih h_rest
      exact ⟨old, List.mem_cons_of_mem first h_old, h_line⟩
  | case3 first rest _ =>
    rcases List.mem_cons.1 h with rfl | h_rest
    · exact ⟨first, List.mem_cons_self, Or.inr rfl⟩
    · exact ⟨line, List.mem_cons_of_mem first h_rest, Or.inl rfl⟩

theorem inFirstKept_ne_nil {texts : List (List Char)} (h : texts ≠ []) :
    inFirstKept change texts ≠ [] := by
  fun_cases inFirstKept change texts with
  | case1 => exact absurd rfl h
  | case2 first rest _ => exact List.cons_ne_nil first _
  | case3 first rest _ => exact List.cons_ne_nil _ rest

/-- **The first kept line** is changed where it is, and the others stay. -/
theorem keptFrom_inFirstKept {texts : List (List Char)} {start number : Nat}
    {text text' : List Char} {rest : List KeptLine}
    (h : keptFrom start (texts.map content) = ⟨number, text⟩ :: rest)
    (h_change : ∀ line, content line = text → content (change line) = text') (h_text : text' ≠ []) :
    keptFrom start ((inFirstKept change texts).map content) = ⟨number, text'⟩ :: rest := by
  induction texts generalizing start with
  | nil => cases h
  | cons line texts ih =>
    rw [List.map_cons, keptFrom_cons] at h
    rw [inFirstKept]
    by_cases h_idle : (content line).isEmpty
    · -- an idle line is not kept, before and after
      rw [if_pos h_idle] at h ⊢
      rw [List.map_cons, keptFrom_cons, if_pos h_idle]
      exact ih h
    · rw [if_neg h_idle] at h ⊢
      -- the line is kept, and it is the first of those that are
      obtain ⟨h_first, h_rest⟩ := List.cons.inj h
      obtain ⟨rfl, h_content⟩ := KeptLine.mk.inj h_first
      rw [List.map_cons, keptFrom_cons, h_change line h_content]
      have h_some : text'.isEmpty = false := by simpa using h_text
      rw [h_some, ← h_rest]
      rfl

end FirstKept

/-! ### Reading the source with the letter -/

variable {source : String} {letters : List Char}

theorem contents_withLetter (h_c : IsLetter c) (source : String) :
    contents (withLetter c source) =
      (inFirstKept (behindHyphen c) (lines source.toList)).map content := by
  refine contents_joined (inFirstKept_ne_nil (List.splitOnP_ne_nil _ _)) fun line h_line => ?_
  -- neither an old line nor the changed one holds a line break
  obtain ⟨old, h_old, rfl | rfl⟩ := of_mem_inFirstKept h_line
  · exact notMem_of_mem_lines h_old
  · exact notMem_behindHyphen h_c (notMem_of_mem_lines h_old)

/-- **A letter in the flags line** changes the flags line and no other line. -/
theorem readings_withLetter (h_c : IsLetter c) (h : OpensWith letters source) :
    ∃ number rest, HaveContent rest ∧
      readings source = (number, some (.flags (.ofLetters letters))) :: rest ∧
      readings (withLetter c source) =
        (number, some (.flags (.ofLetters (c :: letters)))) :: rest := by
  -- the first kept line is the flags line, and it is changed where it stands
  obtain ⟨number, rest, h_kept⟩ := opensWith_iff.1 h
  have h_kept' : keptLines (withLetter c source) = ⟨number, '-' :: c :: letters⟩ :: rest := by
    rw [keptLines_eq, contents] at h_kept
    rw [keptLines_eq, contents_withLetter h_c]
    exact keptFrom_inFirstKept h_kept (fun line h_line => content_behindHyphen h_c h_line)
      (List.cons_ne_nil _ _)
  exact ⟨number, _, haveContent_later rest, readings_of_keptLines h_kept,
    readings_of_keptLines h_kept'⟩

/-- **Reading the source with the letter** is reading the same lines under the flags with the
letter. -/
theorem exists_read_withLetter (h_c : IsLetter c) (h : OpensWith letters source) :
    ∃ rest, HaveContent rest ∧
      read source = rest.foldlM Draft.addReading (Draft.opened (some (.ofLetters letters))) >>=
        Draft.close ∧
      read (withLetter c source) =
        rest.foldlM Draft.addReading (Draft.opened (some (.ofLetters (c :: letters)))) >>=
          Draft.close := by
  obtain ⟨number, rest, h_rest, h_readings, h_readings'⟩ := readings_withLetter h_c h
  refine ⟨rest, h_rest, ?_, ?_⟩
  · rw [read_eq, h_readings]
    rfl
  · rw [read_eq, h_readings']
    rfl

end RingDiagram.Notation
