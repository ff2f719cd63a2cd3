import RingDiagram.Proofs.Notation.Forms
import RingDiagram.Proofs.Notation.Spelling

/-!
# The grammar of a line

Which texts are an edge list, a vertex list, a path or a flags line, and what is read of them. The
classifier decides by tests in a fixed order; here every form is said by itself, as a text that is
written (`read?_eq_edgeList_iff`, `read?_eq_vertexList_iff`, `read?_eq_path_iff`) or as a hyphen
and letters (`read?_eq_flags_iff`).

The order of the tests matters in one place only: digits are a matrix row before they are the name
of a vertex (`Names.looksLikeRow_iff`). Everywhere else the first character or the first mark tells
the forms apart, and only a hyphen in front makes a difference to the first line of a source
(`read?_true_eq`). `read?_iff_written` puts this together with the uniqueness of what is written.
-/

namespace RingDiagram.Notation

open Text Written

/-! ### The tests one by one -/

section Tests

variable {text : List Char} {first : Bool}

/-- A flags line is a hyphen and letters, all in one line. -/
theorem readFlags?_eq_some_iff {modes : Flags} :
    readFlags? text = some modes ↔
      ∃ letters, text = '-' :: letters ∧ '\n' ∉ letters ∧ modes = .ofLetters letters := by
  constructor
  · intro h
    unfold readFlags? at h
    split at h
    · next letters =>
      split at h
      · cases h
      · next h_break =>
        cases h
        exact ⟨letters, rfl, by simpa using h_break, rfl⟩
    · cases h
  · rintro ⟨letters, rfl, h_break, rfl⟩
    simp [readFlags?, h_break]

theorem readFlags?_eq_none (h : text.head? ≠ some '-') : readFlags? text = none := by
  rw [Option.eq_none_iff_forall_ne_some]
  intro modes h_modes
  obtain ⟨letters, rfl, -⟩ := readFlags?_eq_some_iff.1 h_modes
  exact h rfl

/-- **The first line** differs from the others by a hyphen in front. -/
theorem read?_true_eq (h : text.head? ≠ some '-') :
    Line.read? true text = Line.read? false text := by
  unfold Line.read?
  rw [readFlags?_eq_none h]
  rfl

theorem ofTokens?_eq_edgeList_iff {ts : List Token} {groups : List (String × String)} :
    Line.ofTokens? ts = some (.edgeList groups) ↔ groups? ts = some groups := by
  unfold Line.ofTokens?
  cases groups? ts <;> cases names? ',' ts <;> simp

theorem ofTokens?_eq_vertexList_iff {ts : List Token} {names : List String} :
    Line.ofTokens? ts = some (.vertexList names) ↔
      groups? ts = none ∧ names? ',' ts = some names := by
  unfold Line.ofTokens?
  cases groups? ts <;> cases names? ',' ts <;> simp

theorem ofTokens?_eq_path_iff {ts : List Token} {names : List String} :
    Line.ofTokens? ts = some (.path names) ↔
      groups? ts = none ∧ names? ',' ts = none ∧ names? '-' ts = some names := by
  unfold Line.ofTokens?
  cases groups? ts <;> cases names? ',' ts <;> simp

theorem ofTokens?_ne_flags (ts : List Token) (modes : Flags) :
    Line.ofTokens? ts ≠ some (.flags modes) := by
  unfold Line.ofTokens?
  cases groups? ts <;> cases names? ',' ts <;> simp

/-- **Flags** are read of the first line, and of nothing but a hyphen and letters. -/
theorem read?_eq_flags_iff {modes : Flags} :
    Line.read? first text = some (.flags modes) ↔
      first = true ∧
        ∃ letters, text = '-' :: letters ∧ '\n' ∉ letters ∧ modes = .ofLetters letters := by
  rw [← readFlags?_eq_some_iff]
  -- what is tried after the flags is no flags line
  have h_other : (if looksLikeRow text then (readRow? text).map Line.matrixRow
      else if trim text = text then Line.ofTokens? (tokens text) else none) ≠
        some (.flags modes) := by
    split
    · simp
    · split
      · exact ofTokens?_ne_flags _ _
      · simp
  unfold Line.read?
  cases first with
  | false => simpa using h_other
  | true =>
    cases h : readFlags? text with
    | some modes' => simp
    | none => simpa using h_other

/-- What is told apart by tokens is read of a text without blanks at its ends that is neither flags
nor a row. -/
theorem read?_eq_ofTokens?_iff {line : Line} (h_flags : ∀ modes, line ≠ .flags modes)
    (h_row : ∀ cells, line ≠ .matrixRow cells) :
    Line.read? first text = some line ↔
      (first = true → readFlags? text = none) ∧ looksLikeRow text = false ∧ trim text = text ∧
        Line.ofTokens? (tokens text) = some line := by
  -- the form at hand is told by tokens, so flags and rows are other forms
  have h_flags' : ∀ modes, Line.flags modes ≠ line := fun modes h => h_flags modes h.symm
  have h_row' : ∀ cells, Line.matrixRow cells ≠ line := fun cells h => h_row cells h.symm
  have h_other : (if looksLikeRow text then (readRow? text).map Line.matrixRow
      else if trim text = text then Line.ofTokens? (tokens text) else none) = some line ↔
        looksLikeRow text = false ∧ trim text = text ∧
          Line.ofTokens? (tokens text) = some line := by
    cases looksLikeRow text with
    -- a text that looks like a row is not read by its tokens
    | true => simp [h_row']
    | false => by_cases h_trim : trim text = text <;> simp [h_trim]
  unfold Line.read?
  cases first with
  | false => simpa using h_other
  | true =>
    cases h : readFlags? text with
    | some modes => simp [h_flags']
    | none => simpa using h_other

end Tests

/-! ### Written texts and the tests -/

theorem looksLikeRow_iff {text : List Char} :
    looksLikeRow text = true ↔ text ≠ [] ∧ ∀ c ∈ text, c.isDigit = true ∨ isBlank c = true := by
  simp [looksLikeRow]

/-- A trimmed text is what is left of it without blanks at its ends. -/
theorem eq_of_trim_eq_self {text core : List Char} {lead trail : Gap}
    (h_text : text = lead.text ++ (core ++ trail.text)) (h_trim : trim text = text)
    (h_core : trim core = core) : text = core := by
  -- nothing is trimmed, so the gaps at the ends are empty
  rw [h_text, trim_blanks_append lead.blank, trim_append_blanks trail.blank, h_core] at h_trim
  rw [h_text, ← h_trim]

namespace Written

theorem Groups.head?_text (w : Groups) : w.text.head? = some '(' := by
  rw [text, Group.text_append]
  rfl

theorem Groups.exists_last (w : Groups) : ∃ front, w.text = front ++ [')'] := by
  obtain ⟨first, more⟩ := w
  -- the text ends with its last group
  induction more generalizing first with
  | nil =>
    rw [text, textAfter, List.flatMap_nil, List.append_nil, Group.text]
    exact ⟨_, rfl⟩
  | cons step more ih =>
    -- the text ends as that of the groups after the first does
    obtain ⟨front, h_rest⟩ := ih step.2
    change step.2.text ++ textAfter more = _ at h_rest
    refine ⟨first.text ++ (step.1.text ++ front), ?_⟩
    rw [text, textAfter_cons, h_rest]
    simp only [List.append_assoc]

theorem Groups.trim_text (w : Groups) : trim w.text = w.text := by
  obtain ⟨front, h_last⟩ := w.exists_last
  refine trim_eq_self ?_ ?_
  · rw [w.head?_text]
    exact isMark_open.blank
  · rw [h_last]
    simpa using isMark_close.blank

/-- A parenthesis is not in a matrix row. -/
theorem Groups.looksLikeRow_text (w : Groups) : looksLikeRow w.text = false := by
  rw [Bool.eq_false_iff]
  intro h_row
  have h_open := (looksLikeRow_iff.1 h_row).2 '(' (List.mem_of_head? w.head?_text)
  revert h_open
  decide

theorem Names.exists_last (separator : Char) (w : Names) :
    ∃ front c, w.text separator = front ++ [c] ∧ isWordChar c = true := by
  obtain ⟨first, more⟩ := w
  -- the text ends with its last name, and a name ends with a letter of its own
  induction more generalizing first with
  | nil =>
    refine ⟨first.letters.dropLast, first.letters.getLast first.nonempty, ?_,
      first.word _ (List.getLast_mem _)⟩
    rw [List.dropLast_concat_getLast, text, textAfter, List.flatMap_nil, List.append_nil]
  | cons step more ih =>
    obtain ⟨front, c, h_rest, h_c⟩ := ih step.2
    change step.2.letters ++ textAfter separator more = _ at h_rest
    refine ⟨first.letters ++ (step.1.1.text ++ separator :: (step.1.2.text ++ front)), c, ?_, h_c⟩
    rw [text, textAfter_cons, h_rest]
    simp

theorem Names.trim_text (separator : Char) (w : Names) :
    trim (w.text separator) = w.text separator := by
  obtain ⟨front, c, h, h_c⟩ := w.exists_last separator
  refine trim_eq_self (w.first.not_blank _) ?_
  rw [h]
  simpa using isBlank_of_isWordChar h_c

theorem Names.separator_mem {separator : Char} {w : Names} (h_two : 2 ≤ w.names.length) :
    separator ∈ w.text separator := by
  obtain ⟨first, _ | ⟨step, more⟩⟩ := w
  · simp [names] at h_two
  · rw [text, textAfter_cons]
    simp

/-- **Names and rows.** The only names that look like a matrix row are a single name of digits. -/
theorem Names.looksLikeRow_iff {separator : Char} (h_mark : IsMark separator)
    (h_digit : separator.isDigit = false) {w : Names} :
    looksLikeRow (w.text separator) = true ↔
      ∃ n : Name, n.letters = w.text separator ∧ ∀ c ∈ w.text separator, c.isDigit = true := by
  rw [Notation.looksLikeRow_iff]
  constructor
  · rintro ⟨-, h_row⟩
    -- a single name is all letters, of which only digits are in a row
    obtain ⟨first, _ | ⟨step, more⟩⟩ := w
    · refine ⟨first, by simp [text, textAfter], fun c h_c => ?_⟩
      have h_word := first.word c (by simpa [text, textAfter] using h_c)
      simpa [isBlank_of_isWordChar h_word] using h_row c h_c
    · -- a separator is neither a digit nor a blank
      have h_separator := h_row separator (separator_mem (by simp [names]))
      simp [h_digit, h_mark.blank] at h_separator
  · rintro ⟨n, h_text, h_digits⟩
    exact ⟨h_text ▸ n.nonempty, fun c h_c => Or.inl (h_digits c h_c)⟩

/-- Names do not begin with a mark. -/
theorem Names.head?_text (separator : Char) (w : Names) {c : Char} (h_c : IsMark c) :
    (w.text separator).head? ≠ some c := by
  -- names begin with a letter, and no letter is a mark
  obtain ⟨d, rest, h_letters, h_d⟩ := w.first.exists_cons
  rw [text, h_letters]
  intro h
  obtain rfl : d = c := Option.some.inj h
  rw [h_c.word] at h_d
  cases h_d

theorem Names.tokens_text {separator : Char} (h_mark : IsMark separator) (w : Names) :
    tokens (w.text separator) =
      .word w.first.letters :: tokens (textAfter separator w.more) :=
  tokens_name w.first (beginsWord_textAfter h_mark w.more)

/-- Names are no groups. -/
theorem Names.groups?_tokens {separator : Char} (h_mark : IsMark separator) (w : Names) :
    groups? (tokens (w.text separator)) = none := by
  rw [w.tokens_text h_mark]
  rfl

/-- Two names or more are not separated by two marks at once. -/
theorem Names.names?_tokens_other {separator other : Char} (h_mark : IsMark separator)
    (h_other : separator ≠ other) {w : Names} (h_two : 2 ≤ w.names.length) :
    names? other (tokens (w.text separator)) = none := by
  obtain ⟨first, _ | ⟨step, more⟩⟩ := w
  · simp [names] at h_two
  · rw [tokens_text h_mark, tokens_textAfter_cons h_mark, names?, if_neg h_other]

end Written

/-! ### The forms -/

section Forms

variable {text : List Char} {first : Bool}

/-- **An edge list** is a text of groups, and its groups are read. -/
theorem read?_eq_edgeList_iff {groups : List (String × String)} :
    Line.read? first text = some (.edgeList groups) ↔
      ∃ w : Groups, w.text = text ∧ w.groups = groups := by
  rw [read?_eq_ofTokens?_iff (by simp) (by simp), ofTokens?_eq_edgeList_iff]
  constructor
  · -- what the tokens tell is a text of groups between gaps, and trimming leaves no gaps
    rintro ⟨-, -, h_trim, h_groups⟩
    obtain ⟨lead, w, trail, h_text, h_w⟩ := exists_groups_of_groups? h_groups
    exact ⟨w, (eq_of_trim_eq_self h_text h_trim w.trim_text).symm, h_w⟩
  · rintro ⟨w, rfl, rfl⟩
    -- a text of groups is passed over by the tests before, since it begins with a parenthesis
    refine ⟨fun _ => readFlags?_eq_none ?_, w.looksLikeRow_text, w.trim_text,
      groups?_tokens_text w⟩
    simp [w.head?_text]

/-- **A vertex list** is a text of names with commas, unless it is a single name of digits. -/
theorem read?_eq_vertexList_iff {names : List String} :
    Line.read? first text = some (.vertexList names) ↔
      (∃ w : Names, w.text ',' = text ∧ w.names = names) ∧
        ¬ ∃ n : Name, n.letters = text ∧ ∀ c ∈ text, c.isDigit = true := by
  rw [read?_eq_ofTokens?_iff (by simp) (by simp), ofTokens?_eq_vertexList_iff]
  constructor
  · rintro ⟨-, h_row, h_trim, -, h_names⟩
    obtain ⟨lead, w, trail, h_text, h_w⟩ := exists_names_of_names? h_names
    obtain rfl := eq_of_trim_eq_self h_text h_trim (w.trim_text ',')
    rw [← Names.looksLikeRow_iff isMark_comma (by decide), h_row]
    exact ⟨⟨w, rfl, h_w⟩, Bool.false_ne_true⟩
  · rintro ⟨⟨w, rfl, rfl⟩, h_digits⟩
    -- a row is tried before names, and there is none here
    rw [← Names.looksLikeRow_iff isMark_comma (by decide), Bool.not_eq_true] at h_digits
    exact ⟨fun _ => readFlags?_eq_none (w.head?_text ',' isMark_hyphen), h_digits,
      w.trim_text ',', w.groups?_tokens isMark_comma, names?_tokens_text isMark_comma w⟩

/-- Two numbers are names as soon as there is a comma between them. -/
example : Line.read? false ['1', '2'] = some (.matrixRow [1, 2]) ∧
    Line.read? false ['1', ' ', ',', '2'] = some (.vertexList ["1", "2"]) := by
  decide

/-- **A path** is a text of two names or more with hyphens. -/
theorem read?_eq_path_iff {names : List String} :
    Line.read? first text = some (.path names) ↔
      ∃ w : Names, w.text '-' = text ∧ w.names = names ∧ 2 ≤ names.length := by
  rw [read?_eq_ofTokens?_iff (by simp) (by simp), ofTokens?_eq_path_iff]
  constructor
  · rintro ⟨-, -, h_trim, -, h_comma, h_names⟩
    obtain ⟨lead, w, trail, h_text, h_w⟩ := exists_names_of_names? h_names
    -- two names that are no vertex list are separated by hyphens
    exact ⟨w, (eq_of_trim_eq_self h_text h_trim (w.trim_text '-')).symm, h_w,
      two_le_length_of_names? h_names h_comma⟩
  · rintro ⟨w, rfl, rfl, h_two⟩
    have h_comma : names? ',' (tokens (w.text '-')) = none :=
      w.names?_tokens_other isMark_hyphen (by decide) h_two
    refine ⟨fun _ => readFlags?_eq_none (w.head?_text '-' isMark_hyphen), ?_, w.trim_text '-',
      w.groups?_tokens isMark_hyphen, h_comma, names?_tokens_text isMark_hyphen w⟩
    -- a row has no hyphen in it
    rw [Bool.eq_false_iff, ne_eq, Names.looksLikeRow_iff isMark_hyphen (by decide)]
    rintro ⟨n, -, h_digits⟩
    have h_hyphen := h_digits '-' (Names.separator_mem h_two)
    revert h_hyphen
    decide

end Forms

/-! ### The forms together -/

/-- Groups, names with commas, two names or more with hyphens, and a hyphen with letters are
different texts. -/
theorem written_ne (g : Groups) (v p : Names) (letters : List Char) (h_two : 2 ≤ p.names.length) :
    g.text ≠ v.text ',' ∧ g.text ≠ p.text '-' ∧ v.text ',' ≠ p.text '-' ∧
      g.text ≠ '-' :: letters ∧ v.text ',' ≠ '-' :: letters ∧ p.text '-' ≠ '-' :: letters := by
  -- all but the third differ in their first character
  refine ⟨fun h => ?_, fun h => ?_, fun h => ?_, fun h => ?_, fun h => ?_, fun h => ?_⟩
  · exact v.head?_text ',' isMark_open (h ▸ g.head?_text)
  · exact p.head?_text '-' isMark_open (h ▸ g.head?_text)
  · -- one text would be read as names with commas, and would not
    have h_comma := names?_tokens_text isMark_comma v
    rw [h, p.names?_tokens_other isMark_hyphen (by decide) h_two] at h_comma
    cases h_comma
  · have h_open := g.head?_text
    rw [h] at h_open
    cases h_open
  · exact v.head?_text ',' isMark_hyphen (h ▸ rfl)
  · exact p.head?_text '-' isMark_hyphen (h ▸ rfl)

/-- **The grammar of a line.** Whether or not it is the first, a text is read as an edge list
exactly when it is written as one, and its groups are read from left to right; the same holds of a
path, and of a vertex list that is not a single name of ASCII digits. Flags are read exactly of a
hyphen and letters in the first line. No text has two of these forms, a text is written in one way,
and only a hyphen in front makes a difference to the first line. -/
theorem read?_iff_written :
    (∀ (first : Bool) (text : List Char),
      (∀ groups, Line.read? first text = some (.edgeList groups) ↔
        ∃ w : Groups, w.text = text ∧ w.groups = groups) ∧
      (∀ names, Line.read? first text = some (.path names) ↔
        ∃ w : Names, w.text '-' = text ∧ w.names = names ∧ 2 ≤ names.length) ∧
      (∀ names, Line.read? first text = some (.vertexList names) ↔
        (∃ w : Names, w.text ',' = text ∧ w.names = names) ∧
          ¬ ∃ n : Name, n.letters = text ∧ ∀ c ∈ text, c.isDigit = true) ∧
      ∀ modes, Line.read? first text = some (.flags modes) ↔
        first = true ∧
          ∃ letters, text = '-' :: letters ∧ '\n' ∉ letters ∧ modes = .ofLetters letters) ∧
    (∀ (g : Groups) (v p : Names) (letters : List Char), 2 ≤ p.names.length →
      g.text ≠ v.text ',' ∧ g.text ≠ p.text '-' ∧ v.text ',' ≠ p.text '-' ∧
        g.text ≠ '-' :: letters ∧ v.text ',' ≠ '-' :: letters ∧ p.text '-' ≠ '-' :: letters) ∧
    (∀ w w' : Groups, w.text = w'.text → w = w') ∧
    (∀ w w' : Names, w.text ',' = w'.text ',' → w = w') ∧
    (∀ w w' : Names, w.text '-' = w'.text '-' → w = w') ∧
    ∀ text : List Char, text.head? ≠ some '-' → Line.read? true text = Line.read? false text :=
  ⟨fun _ _ => ⟨fun _ => read?_eq_edgeList_iff, fun _ => read?_eq_path_iff,
      fun _ => read?_eq_vertexList_iff, fun _ => read?_eq_flags_iff⟩,
    written_ne, fun _ _ => Groups.eq_of_text_eq, fun _ _ => Names.eq_of_text_eq isMark_comma,
    fun _ _ => Names.eq_of_text_eq isMark_hyphen, fun _ => read?_true_eq⟩

/-- A name of one letter. -/
private def letter (c : Char) (h : isWordChar c = true) : Name :=
  ⟨[c], List.cons_ne_nil c [], List.forall_mem_singleton.2 h⟩

/-- A gap of one blank. -/
private def blank (c : Char) (h : isBlank c = true) : Gap :=
  ⟨[c], List.forall_mem_singleton.2 h⟩

/-- Three groups, with blanks inside the first one, a comma behind a no-break space after it, and
nothing but a line feed after the second. -/
private def spaced : Groups where
  first := ⟨blank ' ' (by decide), letter 'a' (by decide), blank '\t' (by decide), noGap,
    letter 'b' (by decide), noGap⟩
  more :=
    [(.comma (blank '\u00a0' (by decide)) noGap,
        ⟨noGap, letter '_' (by decide), noGap, noGap, letter 'd' (by decide), noGap⟩),
      (.gap (blank '\n' (by decide)),
        ⟨noGap, letter 'b' (by decide), noGap, noGap, letter '1' (by decide), noGap⟩)]

/-- Two names with a hyphen. -/
private def hyphenated : Names :=
  ⟨letter 'a' (by decide), [((noGap, noGap), letter 'b' (by decide))]⟩

/-- Three groups with rare spacing are read as they stand, in the first line and in any other, and
no path is written like them. -/
theorem read?_iff_written_spaced :
    spaced.text = "( a\t,b)\u00a0,(_,d)\n(b,1)".toList ∧ spaced.text.head? ≠ some '-' ∧
      2 ≤ hyphenated.names.length ∧
      Line.read? false spaced.text = some (.edgeList [("a", "b"), ("_", "d"), ("b", "1")]) ∧
      Line.read? true spaced.text = Line.read? false spaced.text ∧
      spaced.text ≠ hyphenated.text '-' := by
  have h_head : spaced.text.head? ≠ some '-' := by decide
  have h_two : 2 ≤ hyphenated.names.length := by decide
  obtain ⟨h_forms, h_different, -, -, -, h_first⟩ := read?_iff_written
  have h_read := ((h_forms false spaced.text).1 [("a", "b"), ("_", "d"), ("b", "1")]).2
    ⟨spaced, rfl, by decide⟩
  have h_ne := (h_different spaced hyphenated hyphenated [] h_two).2.1
  exact ⟨by decide, h_head, h_two, h_read, h_first spaced.text h_head, h_ne⟩

end RingDiagram.Notation
