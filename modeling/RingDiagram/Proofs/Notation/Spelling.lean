import RingDiagram.Notation.Line
import RingDiagram.Proofs.Text.Trim

/-!
# Written lines

A line is read from its tokens, which have lost the blanks. This file has the lines as they are
written, blanks and all: a `Written.Name`, the `Written.Gap` between two pieces of a line, a
`Written.Group`, and sequences of names and of groups with what stands between them. Each has a
`text`, and says what it is read as.

* Written text has the tokens one expects (`tokens_group`, `tokens_names`), so what is written is
  read: `groups?_tokens_text`, `names?_tokens_text`;
* a text with such tokens is one that is written, up to blanks at its ends:
  `exists_groups_of_groups?`, `exists_names_of_names?`. These follow the recursion of the readers,
  and a text is taken apart by its first token (`exists_gap_mark`, `exists_gap_name`);
* a text is written in one way only (`Groups.eq_of_text_eq`, `Names.eq_of_text_eq`), since the
  characters on both sides of every cut are of different classes.
-/

namespace RingDiagram.Notation

open Text

/-! ### Pieces of a line -/

namespace Written

/-- A name: a word character or more. -/
@[ext]
structure Name where
  letters : List Char
  nonempty : letters ≠ []
  word : ∀ c ∈ letters, isWordChar c = true

/-- What may stand between two pieces of a line: blanks, or nothing. -/
@[ext]
structure Gap where
  text : List Char
  blank : ∀ c ∈ text, isBlank c = true

/-- Nothing between two pieces. -/
def noGap : Gap :=
  ⟨[], List.forall_mem_nil _⟩

/-- Two names in parentheses with a comma between them, and gaps anywhere inside. -/
@[ext]
structure Group where
  opening : Gap
  source : Name
  before : Gap
  after : Gap
  target : Name
  closing : Gap

/-- What stands between two groups: a gap, or a comma with a gap on either side. -/
inductive Joint where
  | gap (blanks : Gap)
  | comma (before after : Gap)

/-- One group or more. -/
@[ext]
structure Groups where
  first : Group
  more : List (Joint × Group)

/-- One name or more; a separator stands before every name but the first, with a gap on either
side. -/
@[ext]
structure Names where
  first : Name
  more : List ((Gap × Gap) × Name)

/-- The name that is read. -/
def Name.name (n : Name) : String :=
  String.ofList n.letters

def Group.text (g : Group) : List Char :=
  '(' :: g.opening.text ++ g.source.letters ++ g.before.text ++
    ',' :: g.after.text ++ g.target.letters ++ g.closing.text ++ [')']

/-- The two names of a group. -/
def Group.names (g : Group) : String × String :=
  (g.source.name, g.target.name)

def Joint.text : Joint → List Char
  | gap blanks => blanks.text
  | comma before after => before.text ++ ',' :: after.text

/-- The text of all groups but the first. -/
def Groups.textAfter (more : List (Joint × Group)) : List Char :=
  more.flatMap fun step => step.1.text ++ step.2.text

def Groups.text (w : Groups) : List Char :=
  w.first.text ++ textAfter w.more

/-- The groups that are read. -/
def Groups.groups (w : Groups) : List (String × String) :=
  w.first.names :: w.more.map fun step => step.2.names

/-- The text of all names but the first. -/
def Names.textAfter (separator : Char) (more : List ((Gap × Gap) × Name)) : List Char :=
  more.flatMap fun step => step.1.1.text ++ separator :: step.1.2.text ++ step.2.letters

def Names.text (separator : Char) (w : Names) : List Char :=
  w.first.letters ++ textAfter separator w.more

/-- The names that are read. -/
def Names.names (w : Names) : List String :=
  w.first.name :: w.more.map fun step => step.2.name

def Group.tokens (g : Group) : List Token :=
  [.mark '(', .word g.source.letters, .mark ',', .word g.target.letters, .mark ')']

theorem Groups.textAfter_cons (step : Joint × Group) (more : List (Joint × Group)) :
    textAfter (step :: more) = step.1.text ++ (step.2.text ++ textAfter more) := by
  simp [textAfter]

theorem Names.textAfter_cons (separator : Char) (step : (Gap × Gap) × Name)
    (more : List ((Gap × Gap) × Name)) :
    textAfter separator (step :: more) = step.1.1.text ++
      separator :: (step.1.2.text ++ (step.2.letters ++ textAfter separator more)) := by
  simp [textAfter]

theorem Group.text_append (g : Group) (rest : List Char) :
    g.text ++ rest = '(' :: (g.opening.text ++ (g.source.letters ++ (g.before.text ++
      ',' :: (g.after.text ++ (g.target.letters ++ (g.closing.text ++ ')' :: rest)))))) := by
  simp [Group.text]

/-! ### Where a piece begins -/

/-- A character that is a piece of a line by itself. -/
structure IsMark (c : Char) : Prop where
  word : isWordChar c = false
  blank : isBlank c = false

theorem isMark_open : IsMark '(' := ⟨by decide, by decide⟩

theorem isMark_comma : IsMark ',' := ⟨by decide, by decide⟩

theorem isMark_close : IsMark ')' := ⟨by decide, by decide⟩

theorem isMark_hyphen : IsMark '-' := ⟨by decide, by decide⟩

theorem IsMark.not_word {c : Char} (h : IsMark c) (rest : List Char) :
    (c :: rest).head?.any isWordChar = false := by
  simpa using h.word

theorem IsMark.not_blank {c : Char} (h : IsMark c) (rest : List Char) :
    (c :: rest).head?.any isBlank = false := by
  simpa using h.blank

theorem Name.exists_cons (n : Name) :
    ∃ c rest, n.letters = c :: rest ∧ isWordChar c = true := by
  obtain ⟨_ | ⟨c, rest⟩, h_nonempty, h_word⟩ := n
  · exact absurd rfl h_nonempty
  · exact ⟨c, rest, rfl, h_word c List.mem_cons_self⟩

/-- A name does not begin with a blank. -/
theorem Name.not_blank (n : Name) (rest : List Char) :
    (n.letters ++ rest).head?.any isBlank = false := by
  obtain ⟨c, more, h_letters, h_c⟩ := n.exists_cons
  rw [h_letters]
  simpa using isBlank_of_isWordChar h_c

/-- What follows a gap does not go on with a word, unless it begins one. -/
theorem Gap.not_word (g : Gap) {rest : List Char} (h : rest.head?.any isWordChar = false) :
    (g.text ++ rest).head?.any isWordChar = false := by
  obtain ⟨_ | ⟨c, more⟩, h_blank⟩ := g
  · exact h
  · simpa using isWordChar_of_isBlank (h_blank c List.mem_cons_self)

end Written

open Written

/-! ### Tokens of what is written -/

/-- Blanks have no tokens. -/
theorem tokens_gap (g : Gap) (rest : List Char) : tokens (g.text ++ rest) = tokens rest := by
  obtain ⟨blanks, h⟩ := g
  induction blanks with
  | nil => rfl
  | cons c blanks ih =>
    -- a blank begins no word, so the reader skips it
    have h_c : isBlank c = true := h c List.mem_cons_self
    rw [List.cons_append, tokens, isWordChar_of_isBlank h_c, h_c]
    exact ih fun d h_d => h d (List.mem_cons_of_mem c h_d)

theorem tokens_name (n : Name) {rest : List Char} (h : beginsWord rest = false) :
    tokens (n.letters ++ rest) = .word n.letters :: tokens rest :=
  tokens_word_append n.nonempty n.word h

theorem tokens_mark {c : Char} (h : IsMark c) (rest : List Char) :
    tokens (c :: rest) = .mark c :: tokens rest := by
  rw [tokens, h.1, h.2]
  rfl

theorem tokens_group (g : Group) (rest : List Char) :
    tokens (g.text ++ rest) = g.tokens ++ tokens rest := by
  -- either name ends before a blank or a mark, so it is a token of its own
  have h_target : beginsWord (g.closing.text ++ ')' :: rest) = false :=
    g.closing.not_word (isMark_close.not_word rest)
  have h_source : beginsWord (g.before.text ++ ',' ::
      (g.after.text ++ (g.target.letters ++ (g.closing.text ++ ')' :: rest)))) = false :=
    g.before.not_word (isMark_comma.not_word _)
  rw [g.text_append, tokens_mark isMark_open, tokens_gap, tokens_name _ h_source, tokens_gap,
    tokens_mark isMark_comma, tokens_gap, tokens_name _ h_target, tokens_gap,
    tokens_mark isMark_close]
  rfl

/-! ### What is written is read -/

theorem groups?_comma (g : Group) (ts : List Token) :
    groups? (g.tokens ++ .mark ',' :: ts) = (groups? ts).map (g.names :: ·) := rfl

theorem groups?_group (g next : Group) (ts : List Token) :
    groups? (g.tokens ++ (next.tokens ++ ts)) =
      (groups? (next.tokens ++ ts)).map (g.names :: ·) := rfl

theorem groups?_tokens_append (first : Group) (more : List (Joint × Group)) :
    groups? (tokens (first.text ++ Groups.textAfter more)) =
      some (first.names :: more.map fun step => step.2.names) := by
  induction more generalizing first with
  | nil =>
    rw [tokens_group]
    rfl
  | cons step more ih =>
    obtain ⟨joint, next⟩ := step
    rw [Groups.textAfter_cons, tokens_group]
    cases joint with
    | gap blanks =>
      -- the next token is the parenthesis of the next group
      rw [Joint.text, tokens_gap, tokens_group, groups?_group, ← tokens_group, ih next]
      rfl
    -- a comma between two groups takes nothing but a token
    | comma before after =>
      rw [Joint.text, List.append_assoc, tokens_gap, List.cons_append, tokens_mark isMark_comma,
        tokens_gap, groups?_comma, ih next]
      rfl

/-- **Groups that are written are read.** -/
theorem groups?_tokens_text (w : Groups) : groups? (tokens w.text) = some w.groups :=
  groups?_tokens_append w.first w.more

section Separated

variable {separator : Char} (h_mark : IsMark separator)
include h_mark

/-- No word goes on behind a name of a sequence. -/
theorem beginsWord_textAfter (more : List ((Gap × Gap) × Name)) :
    beginsWord (Names.textAfter separator more) = false := by
  cases more with
  | nil => rfl
  | cons step more =>
    rw [Names.textAfter_cons]
    exact step.1.1.not_word (h_mark.not_word _)

theorem tokens_textAfter_cons (step : (Gap × Gap) × Name) (more : List ((Gap × Gap) × Name)) :
    tokens (Names.textAfter separator (step :: more)) =
      .mark separator :: tokens (step.2.letters ++ Names.textAfter separator more) := by
  rw [Names.textAfter_cons, tokens_gap, tokens_mark h_mark, tokens_gap]

theorem names?_tokens_append (first : Name) (more : List ((Gap × Gap) × Name)) :
    names? separator (tokens (first.letters ++ Names.textAfter separator more)) =
      some (first.name :: more.map fun step => step.2.name) := by
  induction more generalizing first with
  | nil =>
    rw [tokens_name first (beginsWord_textAfter h_mark [])]
    rfl
  | cons step more ih =>
    rw [tokens_name first (beginsWord_textAfter h_mark _), tokens_textAfter_cons h_mark, names?,
      if_pos rfl, ih step.2]
    rfl

/-- **Names that are written are read.** -/
theorem names?_tokens_text (w : Names) :
    names? separator (tokens (w.text separator)) = some w.names :=
  names?_tokens_append h_mark w.first w.more

end Separated

/-! ### What is read is written -/

/-- The first token of a text, behind a gap: there is none, or a mark, or a name. -/
theorem tokens_cases (text : List Char) :
    (∃ g : Gap, text = g.text ∧ tokens text = []) ∨
      (∃ (g : Gap) (c : Char) (rest : List Char),
        text = g.text ++ c :: rest ∧ tokens text = .mark c :: tokens rest) ∨
      ∃ (g : Gap) (n : Name) (rest : List Char),
        text = g.text ++ (n.letters ++ rest) ∧ tokens text = .word n.letters :: tokens rest := by
  -- the gap is as long as it can be, so the text goes on with no blank
  let g : Gap := ⟨text.takeWhile isBlank, List.all_eq_true.1 List.all_takeWhile⟩
  have h_text : text = g.text ++ text.dropWhile isBlank := List.takeWhile_append_dropWhile.symm
  have h_tokens : tokens text = tokens (text.dropWhile isBlank) := by
    conv => lhs; rw [h_text]
    exact tokens_gap g _
  cases h_rest : text.dropWhile isBlank with
  | nil =>
    -- blanks to the end, and no token
    rw [h_rest] at h_text h_tokens
    exact Or.inl ⟨g, by rw [h_text, List.append_nil], h_tokens⟩
  | cons c rest =>
    have h_blank : isBlank c = false := by
      have h_head := List.head?_dropWhile_not isBlank text
      simpa [h_rest] using h_head
    rw [h_rest] at h_text h_tokens
    cases h_word : isWordChar c with
    -- neither a blank nor a word character: the token is the character itself
    | false =>
      rw [tokens_mark ⟨h_word, h_blank⟩] at h_tokens
      exact Or.inr (Or.inl ⟨g, c, rest, h_text, h_tokens⟩)
    | true =>
      -- the name is as long as it can be
      let n : Name := ⟨(c :: rest).takeWhile isWordChar, by simp [h_word],
        List.all_eq_true.1 List.all_takeWhile⟩
      have h_name : c :: rest = n.letters ++ (c :: rest).dropWhile isWordChar :=
        List.takeWhile_append_dropWhile.symm
      -- so what follows it begins no word
      have h_ends : beginsWord ((c :: rest).dropWhile isWordChar) = false := by
        have h_head := List.head?_dropWhile_not isWordChar (c :: rest)
        unfold beginsWord
        cases h_drop : ((c :: rest).dropWhile isWordChar).head? with
        | none => rfl
        | some d => simpa [h_drop] using h_head
      rw [h_name, tokens_name n h_ends] at h_tokens
      rw [h_name] at h_text
      exact Or.inr (Or.inr ⟨g, n, _, h_text, h_tokens⟩)

variable {text : List Char}

theorem exists_gap (h : tokens text = []) : ∃ g : Gap, text = g.text := by
  rcases tokens_cases text with ⟨g, h_text, -⟩ | ⟨g, c, rest, -, h'⟩ | ⟨g, n, rest, -, h'⟩
  · exact ⟨g, h_text⟩
  · rw [h'] at h
    cases h
  · rw [h'] at h
    cases h

theorem exists_gap_mark {c : Char} {ts : List Token} (h : tokens text = .mark c :: ts) :
    ∃ (g : Gap) (rest : List Char), text = g.text ++ c :: rest ∧ tokens rest = ts := by
  rcases tokens_cases text with ⟨g, -, h'⟩ | ⟨g, c', rest, h_text, h'⟩ | ⟨g, n, rest, -, h'⟩
  · rw [h'] at h
    cases h
  · rw [h'] at h
    cases h
    exact ⟨g, rest, h_text, rfl⟩
  · rw [h'] at h
    cases h

theorem exists_gap_name {letters : List Char} {ts : List Token}
    (h : tokens text = .word letters :: ts) :
    ∃ (g : Gap) (n : Name) (rest : List Char),
      text = g.text ++ (n.letters ++ rest) ∧ n.letters = letters ∧ tokens rest = ts := by
  rcases tokens_cases text with ⟨g, -, h'⟩ | ⟨g, c', rest, -, h'⟩ | ⟨g, n, rest, h_text, h'⟩
  · rw [h'] at h
    cases h
  · rw [h'] at h
    cases h
  · rw [h'] at h
    cases h
    exact ⟨g, n, rest, h_text, rfl, rfl⟩

/-- A text with the tokens of a group begins with one, behind a gap. -/
theorem exists_gap_group {a b : List Char} {ts : List Token}
    (h : tokens text = .mark '(' :: .word a :: .mark ',' :: .word b :: .mark ')' :: ts) :
    ∃ (lead : Gap) (g : Group) (rest : List Char),
      text = lead.text ++ (g.text ++ rest) ∧ g.names = (String.ofList a, String.ofList b) ∧
        tokens rest = ts := by
  obtain ⟨lead, r₁, rfl, h₁⟩ := exists_gap_mark h
  obtain ⟨opening, source, r₂, rfl, rfl, h₂⟩ := exists_gap_name h₁
  obtain ⟨before, r₃, rfl, h₃⟩ := exists_gap_mark h₂
  obtain ⟨after, target, r₄, rfl, rfl, h₄⟩ := exists_gap_name h₃
  obtain ⟨closing, rest, rfl, h₅⟩ := exists_gap_mark h₄
  refine ⟨lead, ⟨opening, source, before, after, target, closing⟩, rest, ?_, rfl, h₅⟩
  rw [Group.text_append]

/-- **Groups that are read are written**, up to blanks at the ends. -/
theorem exists_groups_of_groups? {groups : List (String × String)}
    (h : groups? (tokens text) = some groups) :
    ∃ (lead : Gap) (w : Groups) (trail : Gap),
      text = lead.text ++ (w.text ++ trail.text) ∧ w.groups = groups := by
  generalize h_ts : tokens text = ts at h
  induction ts using groups?.induct generalizing text groups with
  -- one group, and blanks behind it
  | case1 a b =>
    obtain ⟨lead, g, rest, rfl, h_names, h_rest⟩ := exists_gap_group h_ts
    obtain ⟨trail, rfl⟩ := exists_gap h_rest
    refine ⟨lead, ⟨g, []⟩, trail, ?_, ?_⟩
    · simp [Groups.text, Groups.textAfter]
    · rw [groups?] at h
      rw [Groups.groups, h_names]
      exact Option.some.inj h
  | case2 a b more ih =>
    obtain ⟨lead, g, rest, rfl, h_names, h_rest⟩ := exists_gap_group h_ts
    obtain ⟨before, rest, rfl, h_more⟩ := exists_gap_mark h_rest
    rw [groups?, Option.map_eq_some_iff] at h
    obtain ⟨others, h_others, rfl⟩ := h
    -- the comma and the blanks on either side of it join the first group to the others
    obtain ⟨after, w, trail, rfl, rfl⟩ := ih h_more h_others
    refine ⟨lead, ⟨g, (.comma before after, w.first) :: w.more⟩, trail, ?_, ?_⟩
    · simp [Groups.text, Groups.textAfter, Joint.text]
    · rw [← h_names]
      rfl
  -- a group that neither ends the line nor is followed by a comma
  | case3 a b more h_nil h_comma ih =>
    obtain ⟨lead, g, rest, rfl, h_names, h_rest⟩ := exists_gap_group h_ts
    rw [groups?] at h
    · rw [Option.map_eq_some_iff] at h
      obtain ⟨others, h_others, rfl⟩ := h
      -- nothing but blanks joins the first group to the others
      obtain ⟨blanks, w, trail, rfl, rfl⟩ := ih h_rest h_others
      refine ⟨lead, ⟨g, (.gap blanks, w.first) :: w.more⟩, trail, ?_, ?_⟩
      · simp [Groups.text, Groups.textAfter, Joint.text]
      · rw [← h_names]
        rfl
    · exact h_nil
    · exact h_comma
  -- tokens of any other form are not read
  | case4 ts h_other =>
    rw [groups?] at h
    · cases h
    · assumption

/-- **Names that are read are written**, up to blanks at the ends. -/
theorem exists_names_of_names? {separator : Char} {names : List String}
    (h : names? separator (tokens text) = some names) :
    ∃ (lead : Gap) (w : Names) (trail : Gap),
      text = lead.text ++ (w.text separator ++ trail.text) ∧ w.names = names := by
  generalize h_ts : tokens text = ts at h
  induction ts using names?.induct separator generalizing text names with
  | case1 a =>
    obtain ⟨lead, n, rest, rfl, rfl, h_rest⟩ := exists_gap_name h_ts
    obtain ⟨trail, rfl⟩ := exists_gap h_rest
    refine ⟨lead, ⟨n, []⟩, trail, ?_, ?_⟩
    · simp [Names.text, Names.textAfter]
    · rw [names?] at h
      exact Option.some.inj h
  | case2 a more ih =>
    obtain ⟨lead, n, rest, rfl, rfl, h_rest⟩ := exists_gap_name h_ts
    obtain ⟨before, rest, rfl, h_more⟩ := exists_gap_mark h_rest
    rw [names?, if_pos rfl, Option.map_eq_some_iff] at h
    obtain ⟨others, h_others, rfl⟩ := h
    -- the separator and the blanks on either side of it join the first name to the others
    obtain ⟨after, w, trail, rfl, rfl⟩ := ih h_more h_others
    refine ⟨lead, ⟨n, ((before, after), w.first) :: w.more⟩, trail, ?_, rfl⟩
    simp [Names.text, Names.textAfter]
  -- another mark than the separator is not read
  | case3 a c more h_c =>
    rw [names?, if_neg h_c] at h
    cases h
  | case4 ts h_single h_more =>
    rw [names?] at h
    · cases h
    · assumption
    · assumption

/-! ### A text is written in one way -/

namespace Written

section Cuts

variable {rest rest' : List Char}

theorem Gap.append_inj {g g' : Gap} (h_rest : rest.head?.any isBlank = false)
    (h_rest' : rest'.head?.any isBlank = false) (h : g.text ++ rest = g'.text ++ rest') :
    g = g' ∧ rest = rest' := by
  obtain ⟨h_text, h_rest⟩ := append_inj_of_span g.blank g'.blank h_rest h_rest' h
  exact ⟨Gap.ext h_text, h_rest⟩

theorem Name.append_inj {n n' : Name} (h_rest : rest.head?.any isWordChar = false)
    (h_rest' : rest'.head?.any isWordChar = false) (h : n.letters ++ rest = n'.letters ++ rest') :
    n = n' ∧ rest = rest' := by
  obtain ⟨h_letters, h_rest⟩ := append_inj_of_span n.word n'.word h_rest h_rest' h
  exact ⟨Name.ext h_letters, h_rest⟩

/-- A gap and the mark behind it are the same when the text is. -/
theorem Gap.mark_inj {g g' : Gap} {c c' : Char} (h_c : IsMark c) (h_c' : IsMark c')
    (h : g.text ++ c :: rest = g'.text ++ c' :: rest') : g = g' ∧ c = c' ∧ rest = rest' := by
  obtain ⟨h_gap, h_rest⟩ := Gap.append_inj (h_c.not_blank rest) (h_c'.not_blank rest') h
  exact ⟨h_gap, List.cons.inj h_rest⟩

/-- A group is cut off in one way. -/
theorem Group.append_inj {g g' : Group} (h : g.text ++ rest = g'.text ++ rest') :
    g = g' ∧ rest = rest' := by
  rw [Group.text_append, Group.text_append] at h
  -- piece by piece: each ends where the class of the characters changes
  obtain ⟨h_opening, h⟩ := Gap.append_inj (g.source.not_blank _) (g'.source.not_blank _)
    (List.cons.inj h).2
  obtain ⟨h_source, h⟩ := Name.append_inj (g.before.not_word (isMark_comma.not_word _))
    (g'.before.not_word (isMark_comma.not_word _)) h
  obtain ⟨h_before, -, h⟩ := Gap.mark_inj isMark_comma isMark_comma h
  obtain ⟨h_after, h⟩ := Gap.append_inj (g.target.not_blank _) (g'.target.not_blank _) h
  obtain ⟨h_target, h⟩ := Name.append_inj (g.closing.not_word (isMark_close.not_word _))
    (g'.closing.not_word (isMark_close.not_word _)) h
  obtain ⟨h_closing, -, h⟩ := Gap.mark_inj isMark_close isMark_close h
  exact ⟨Group.ext h_opening h_source h_before h_after h_target h_closing, h⟩

/-- What joins two groups is cut off in one way, since the second opens with a parenthesis. -/
theorem Joint.append_inj {j j' : Joint} (h : j.text ++ '(' :: rest = j'.text ++ '(' :: rest') :
    j = j' ∧ rest = rest' := by
  cases j with
  | gap blanks =>
    cases j' with
    | gap blanks' =>
      obtain ⟨rfl, -, h_rest⟩ := Gap.mark_inj isMark_open isMark_open h
      exact ⟨rfl, h_rest⟩
    | comma before' after' =>
      -- behind the blanks one text goes on with a parenthesis, the other with a comma
      rw [Joint.text, Joint.text, List.append_assoc] at h
      obtain ⟨-, h_mark, -⟩ := Gap.mark_inj isMark_open isMark_comma h
      cases h_mark
  | comma before after =>
    cases j' with
    | gap blanks' =>
      rw [Joint.text, Joint.text, List.append_assoc] at h
      obtain ⟨-, h_mark, -⟩ := Gap.mark_inj isMark_comma isMark_open h
      cases h_mark
    | comma before' after' =>
      rw [Joint.text, Joint.text, List.append_assoc, List.append_assoc] at h
      obtain ⟨rfl, -, h⟩ := Gap.mark_inj isMark_comma isMark_comma h
      obtain ⟨rfl, -, h_rest⟩ := Gap.mark_inj isMark_open isMark_open h
      exact ⟨rfl, h_rest⟩

end Cuts

theorem Groups.textAfter_inj {more more' : List (Joint × Group)}
    (h : textAfter more = textAfter more') : more = more' := by
  induction more generalizing more' with
  | nil =>
    cases more' with
    | nil => rfl
    | cons step' more' =>
      -- a text of no groups is empty, and that of a group has its parenthesis
      rw [textAfter_cons, Group.text_append] at h
      simp [textAfter] at h
  | cons step more ih =>
    rw [textAfter_cons, Group.text_append] at h
    cases more' with
    | nil => simp [textAfter] at h
    | cons step' more' =>
      rw [textAfter_cons, Group.text_append] at h
      obtain ⟨h_joint, h⟩ := Joint.append_inj h
      -- the joint is cut off at the parenthesis, which belongs to the group
      have h_group : step.2.text ++ textAfter more = step'.2.text ++ textAfter more' := by
        rw [Group.text_append, Group.text_append, h]
      obtain ⟨h_group, h_more⟩ := Group.append_inj h_group
      rw [ih h_more, Prod.ext h_joint h_group]

/-- **A sequence of groups is written in one way.** -/
theorem Groups.eq_of_text_eq {w w' : Groups} (h : w.text = w'.text) : w = w' := by
  obtain ⟨h_first, h_more⟩ := Group.append_inj h
  exact Groups.ext h_first (textAfter_inj h_more)

section Separated

variable {separator : Char} (h_mark : IsMark separator)
include h_mark

theorem Names.textAfter_inj {more more' : List ((Gap × Gap) × Name)}
    (h : textAfter separator more = textAfter separator more') : more = more' := by
  induction more generalizing more' with
  | nil =>
    cases more' with
    | nil => rfl
    | cons step' more' => simp [textAfter] at h
  | cons step more ih =>
    cases more' with
    | nil => simp [textAfter] at h
    | cons step' more' =>
      rw [textAfter_cons, textAfter_cons] at h
      obtain ⟨h_before, -, h⟩ := Gap.mark_inj h_mark h_mark h
      -- the separator is no blank and no word character, so all cuts are between classes
      obtain ⟨h_after, h⟩ := Gap.append_inj (step.2.not_blank _) (step'.2.not_blank _) h
      obtain ⟨h_name, h_more⟩ := Name.append_inj (beginsWord_textAfter h_mark more)
        (beginsWord_textAfter h_mark more') h
      rw [ih h_more, Prod.ext (Prod.ext h_before h_after) h_name]

/-- **A sequence of names is written in one way.** -/
theorem Names.eq_of_text_eq {w w' : Names} (h : w.text separator = w'.text separator) :
    w = w' := by
  obtain ⟨h_first, h_more⟩ := Name.append_inj (beginsWord_textAfter h_mark w.more)
    (beginsWord_textAfter h_mark w'.more) h
  exact Names.ext h_first (textAfter_inj h_mark h_more)

end Separated

end Written

end RingDiagram.Notation
