import RingDiagram.Notation.Reading
import RingDiagram.Proofs.Outcome

/-!
# What the kept lines of a source say

A source text is read line by line, and what the reader makes of it depends on its kept lines only
through their numbers and their forms. This file takes the text out of the reader:

* `readings` are the kept lines as they are classified, `forms` the classifications alone; `Says`
  holds of a source all of whose kept lines have a form;
* `read_eq` presents reading as one fold of `Draft.addReading` over the readings;
* `exists_opening` splits off the flags, in the only way there is (`opening_unique`). A flags line
  can only be the first line, so reading is a fold over lines with *content*, from the empty model
  under the flags of the first line.

A line has content (`Line.HasContent`) when it is not a flags line and, if it gives edges, gives at
least one: an edge list has a group and a path two names. The classifier accepts no other lines
(`hasContent_of_read?`), which is why an edge list or a path always leaves an edge behind. Runs of
lines are spoken of by `HaveContent` and `HasRow`; a source has a matrix row exactly when the lines
after its opening have one (`hasMatrixRow_iff_hasRow`).
-/

namespace RingDiagram.Notation

/-! ### The classified lines of a source -/

/-- A kept line as it is classified: its number, and the line it writes if it has a form. -/
abbrev Reading := Nat × Option Line

/-- Kept lines as they are classified. Only the first may be a flags line. -/
def classified : List KeptLine → List Reading
  | [] => []
  | kept :: rest =>
    (kept.number, Line.read? true kept.text) ::
      rest.map fun k => (k.number, Line.read? false k.text)

/-- The kept lines of a source as they are classified. -/
def readings (source : String) : List Reading :=
  classified (keptLines source)

/-- The forms of the kept lines of a source. -/
def forms (source : String) : List (Option Line) :=
  (readings source).map Prod.snd

/-- Every kept line of the source has a form, and these are the lines. -/
def Says (source : String) (lines : List Line) : Prop :=
  forms source = lines.map some

/-- Some kept line of the source is a matrix row. -/
def HasMatrixRow (source : String) : Prop :=
  ∃ cells, some (Line.matrixRow cells) ∈ forms source

/-- The draft with one more classified line. -/
def Draft.addReading (d : Draft) (r : Reading) : Except ParseError Draft :=
  match r.2 with
  | some line => d.addLine r.1 line
  | none => .error (.unreadableLine r.1)

theorem Draft.addKept_eq (first : Bool) (d : Draft) (kept : KeptLine) :
    d.addKept first kept = d.addReading (kept.number, Line.read? first kept.text) := rfl

/-- **Reading as one fold**: the classified lines are added to the empty draft one by one, and the
draft is closed. -/
theorem read_eq (source : String) :
    read source = (readings source).foldlM Draft.addReading {} >>= Draft.close := by
  unfold read readings
  cases keptLines source with
  | nil => rfl
  | cons kept rest =>
    have h_rest : ∀ d : Draft, rest.foldlM (Draft.addKept false) d
        = (rest.map fun k => (k.number, Line.read? false k.text)).foldlM Draft.addReading d := by
      intro d
      rw [List.foldlM_map]
      rfl
    change (Draft.addKept true {} kept >>= fun d => rest.foldlM (Draft.addKept false) d) >>= _ = _
    rw [classified, List.foldlM_cons, Draft.addKept_eq]
    -- the two sides differ in the fold over the rest, which is the same one line by line
    congr 2
    funext d
    exact h_rest d

/-! ### Lines with content -/

/-- The line is not a flags line, and if it gives edges it gives at least one. -/
def Line.HasContent : Line → Prop
  | .flags _ => False
  | .matrixRow _ => True
  | .edgeList groups => groups ≠ []
  | .vertexList _ => True
  | .path names => 2 ≤ names.length

/-- An edge list has a group. -/
theorem groups?_ne_some_nil (ts : List Token) : groups? ts ≠ some [] := by
  fun_cases groups? ts <;> simp

/-- A sequence of names has a name. -/
theorem names?_ne_some_nil (c : Char) (ts : List Token) : names? c ts ≠ some [] := by
  fun_cases names? c ts <;> simp

/-- What reads as names with one separator and not with another has at least two names: a single
name needs no separator. -/
theorem two_le_length_of_names? {c d : Char} {ts : List Token} {names : List String}
    (h : names? c ts = some names) (h_other : names? d ts = none) : 2 ≤ names.length := by
  fun_cases names? c ts with
  | case1 a =>
    -- a single name reads with any separator
    simp [names?] at h_other
  | case2 a rest =>
    rw [names?, if_pos rfl, Option.map_eq_some_iff] at h
    obtain ⟨more, h_more, rfl⟩ := h
    -- a separator is followed by a name
    have h_ne : more ≠ [] := fun h_nil => names?_ne_some_nil c rest (h_nil ▸ h_more)
    have h_pos := List.length_pos_iff.2 h_ne
    rw [List.length_cons]
    omega
  | case3 a c' rest h_sep =>
    rw [names?, if_neg h_sep] at h
    cases h
  | case4 =>
    rw [names?] at h
    · cases h
    · assumption
    · assumption

/-- A line told apart by its tokens has content. -/
theorem hasContent_of_ofTokens? {ts : List Token} {line : Line}
    (h : Line.ofTokens? ts = some line) : line.HasContent := by
  unfold Line.ofTokens? at h
  -- groups are looked for before names, and names with commas before those with hyphens
  cases h_groups : groups? ts with
  | some groups =>
    simp [h_groups] at h
    subst h
    exact fun h_nil => groups?_ne_some_nil ts (h_nil ▸ h_groups)
  | none =>
    cases h_names : names? ',' ts with
    | some names =>
      simp [h_groups, h_names] at h
      subst h
      trivial
    | none =>
      simp [h_groups, h_names] at h
      obtain ⟨names, h_path, rfl⟩ := h
      exact two_le_length_of_names? h_path h_names

/-- A line that is read where no flags are allowed has content. -/
theorem hasContent_of_read? {text : List Char} {line : Line}
    (h : Line.read? false text = some line) : line.HasContent := by
  unfold Line.read? at h
  -- where no flags are allowed a text is a row, or it is told by its tokens
  split at h
  · next h_flags => cases h_flags
  · split at h
    · obtain ⟨cells, -, rfl⟩ := Option.map_eq_some_iff.1 h
      trivial
    · split at h
      · exact hasContent_of_ofTokens? h
      · cases h

/-- Every line with a form has content. -/
def HaveContent (rs : List Reading) : Prop :=
  ∀ r ∈ rs, ∀ line, r.2 = some line → line.HasContent

theorem HaveContent.head {number : Nat} {line : Line} {rs : List Reading}
    (h : HaveContent ((number, some line) :: rs)) : line.HasContent :=
  h _ List.mem_cons_self line rfl

theorem HaveContent.tail {r : Reading} {rs : List Reading} (h : HaveContent (r :: rs)) :
    HaveContent rs :=
  fun s h_s => h s (List.mem_cons_of_mem r h_s)

theorem HaveContent.of_mem {rs : List Reading} {line : Line} (h : HaveContent rs)
    (h_line : some line ∈ rs.map Prod.snd) : line.HasContent := by
  obtain ⟨r, h_r, h_form⟩ := List.mem_map.1 h_line
  exact h r h_r line h_form

/-- The lines after the first one have content. -/
theorem haveContent_later (kepts : List KeptLine) :
    HaveContent (kepts.map fun k => (k.number, Line.read? false k.text)) := by
  intro r h_r line h_line
  obtain ⟨k, -, rfl⟩ := List.mem_map.1 h_r
  exact hasContent_of_read? h_line

/-- The first line of a source is a flags line, or it reads as any other line does. -/
theorem read?_true_cases (text : List Char) :
    (∃ modes, Line.read? true text = some (.flags modes)) ∨
      Line.read? true text = Line.read? false text := by
  unfold Line.read?
  -- flags are tried first, and all else is as in any other line
  cases readFlags? text with
  | some modes => exact Or.inl ⟨modes, rfl⟩
  | none => exact Or.inr rfl

/-! ### Matrix rows -/

/-- Some line is a matrix row. -/
def HasRow (rs : List Reading) : Prop :=
  ∃ cells, some (Line.matrixRow cells) ∈ rs.map Prod.snd

theorem hasRow_cons_iff {number : Nat} {line : Line} {rs : List Reading} :
    HasRow ((number, some line) :: rs) ↔ (∃ cells, line = .matrixRow cells) ∨ HasRow rs := by
  unfold HasRow
  simp only [List.map_cons, List.mem_cons, Option.some.injEq, exists_or, eq_comm]

theorem not_hasRow_cons_iff {number : Nat} {line : Line} {rs : List Reading} :
    ¬ HasRow ((number, some line) :: rs) ↔ (∀ cells, line ≠ .matrixRow cells) ∧ ¬ HasRow rs := by
  rw [hasRow_cons_iff, not_or, not_exists]

/-! ### The opening -/

/-- The draft at the start of a source that opens with the given flags. -/
def Draft.opened (modes : Option Flags) : Draft :=
  { model := { flags := modes.getD {} } }

/-- **The opening of a source.** A source is the flags of its first line, if it has any, and lines
with content; reading it is reading those lines from the empty model under the flags. -/
theorem exists_opening (source : String) :
    ∃ (modes : Option Flags) (rest : List Reading),
      forms source = (modes.map Line.flags).toList.map some ++ rest.map Prod.snd ∧
      HaveContent rest ∧
      read source = rest.foldlM Draft.addReading (Draft.opened modes) >>= Draft.close := by
  rw [read_eq]
  unfold forms readings
  cases keptLines source with
  | nil => exact ⟨none, [], rfl, by simp [HaveContent], rfl⟩
  | cons kept rest =>
    -- only the first line may set flags, so the rest has content in either case
    have h_rest := haveContent_later rest
    rw [classified]
    rcases read?_true_cases kept.text with ⟨modes, h_flags⟩ | h_same
    · -- the flags line is added first, to the empty model
      refine ⟨some modes, rest.map fun k => (k.number, Line.read? false k.text), ?_, h_rest, ?_⟩
      · rw [h_flags]
        rfl
      · rw [List.foldlM_cons, h_flags]
        rfl
    · -- the first line reads as the others do and is one of them
      refine ⟨none, (kept.number, Line.read? true kept.text) ::
        rest.map fun k => (k.number, Line.read? false k.text), rfl, ?_, rfl⟩
      intro r hr line h_line
      rcases List.mem_cons.1 hr with rfl | hr
      · exact hasContent_of_read? (h_same ▸ h_line)
      · exact h_rest r hr line h_line

theorem says_opening_iff {source : String} {modes : Option Flags} {lines : List Line} :
    Says source ((modes.map Line.flags).toList ++ lines) ↔
      forms source = (modes.map Line.flags).toList.map some ++ lines.map some := by
  rw [Says, List.map_append]

/-- The opening of a source holds no row. -/
theorem hasMatrixRow_iff_hasRow {source : String} {modes : Option Flags} {rest : List Reading}
    (h : forms source = (modes.map Line.flags).toList.map some ++ rest.map Prod.snd) :
    HasMatrixRow source ↔ HasRow rest := by
  unfold HasMatrixRow HasRow
  rw [h]
  cases modes <;> simp

/-- A source opens in one way: flags can be told from the lines after them. -/
theorem opening_unique {modes modes' : Option Flags} {xs ys : List (Option Line)}
    (h : (modes.map Line.flags).toList.map some ++ xs =
      (modes'.map Line.flags).toList.map some ++ ys)
    (h_xs : ∀ f, some (Line.flags f) ∉ xs) (h_ys : ∀ f, some (Line.flags f) ∉ ys) :
    modes = modes' ∧ xs = ys := by
  -- either side opens with flags or with a line that has content, and the two cannot be the same
  -- line
  cases modes with
  | none =>
    cases modes' with
    | none => exact ⟨rfl, h⟩
    | some f' =>
      change xs = some (.flags f') :: ys at h
      exact absurd (h ▸ List.mem_cons_self) (h_xs f')
  | some f =>
    cases modes' with
    | none =>
      change some (.flags f) :: xs = ys at h
      exact absurd (h ▸ List.mem_cons_self) (h_ys f)
    | some f' =>
      obtain ⟨h_flags, h_rest⟩ := List.cons.inj h
      cases h_flags
      exact ⟨rfl, h_rest⟩

end RingDiagram.Notation
