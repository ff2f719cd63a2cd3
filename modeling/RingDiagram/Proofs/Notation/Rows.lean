import RingDiagram.Decimal.Fixed
import RingDiagram.Proofs.Notation.Contents
import RingDiagram.Proofs.Notation.Grammar

/-!
# Matrix rows

A matrix row is one of two things that look alike. Where blanks part its numerals, each of them is a
cell; where there is but one numeral, its digits are the cells. This file has rows as they are
written (`Written.Row`), blanks and leading zeros and all, and says what is read of them:

* every text of digits and blanks with a digit in it is a row, and is written as one in one way
  (`exists_row`, `Written.Row.eq_of_text_eq`);
* what is read is what the row says (`read?_row`): a numeral is read at its value however long it
  is, and if one is too large for a cell then nothing is read, since a value that is cut off would
  be another one;
* so numbers come back from their numerals, whatever blanks stand between them (`read?_joined`), and
  digits come back when they are written together (`read?_digits`);
* a source is refused at a row with a cell that is too large, if it is not refused before
  (`read_eq_of_unreadable`).

`rows_exact` puts this together.
-/

namespace RingDiagram.Notation

open Text Decimal

/-! ### Rows as they are written -/

namespace Written

/-- One character or more, all of one class. -/
@[ext]
structure Run (p : Char → Bool) where
  text : List Char
  nonempty : text ≠ []
  all : ∀ c ∈ text, p c = true

/-- A numeral: a digit or more, zeros in front allowed. -/
abbrev Numeral := Run Char.isDigit

/-- What parts two numerals: a blank or more. -/
abbrev Space := Run isBlank

/-- One numeral or more with blanks between them, and perhaps blanks at either end. -/
@[ext]
structure Row where
  lead : Gap
  first : Numeral
  more : List (Space × Numeral)
  trail : Gap

/-- The number that a numeral stands for. -/
def Numeral.value (n : Numeral) : Nat :=
  Nat.ofDigitChars 10 n.text 0

/-- The text of all numerals but the first. -/
def Row.textAfter (more : List (Space × Numeral)) : List Char :=
  more.flatMap fun step => step.1.text ++ step.2.text

def Row.text (w : Row) : List Char :=
  w.lead.text ++ (w.first.text ++ textAfter w.more ++ w.trail.text)

/-- The numerals of a row, from left to right. -/
def Row.numerals (w : Row) : List Numeral :=
  w.first :: w.more.map Prod.snd

/-- What a row says: the digits of its only numeral, or the values of its numerals, unless one of
them is too large. -/
def Row.cells? (w : Row) : Option (List Nat) :=
  if w.more.isEmpty then some (w.first.text.map fun c => c.toNat - '0'.toNat)
  else if w.numerals.all fun n => n.value ≤ maxCell then some (w.numerals.map Numeral.value)
  else none

theorem Row.textAfter_cons (step : Space × Numeral) (more : List (Space × Numeral)) :
    textAfter (step :: more) = step.1.text ++ (step.2.text ++ textAfter more) := by
  simp [textAfter]

/-! ### Where a piece begins -/

theorem Numeral.not_blank (n : Numeral) : ∀ c ∈ n.text, isBlank c = false :=
  fun c h_c => isBlank_of_isDigit (n.all c h_c)

theorem Run.exists_cons {p : Char → Bool} (r : Run p) :
    ∃ c rest, r.text = c :: rest ∧ p c = true ∧ ∀ d ∈ rest, p d = true := by
  obtain ⟨_ | ⟨c, rest⟩, h_nonempty, h_all⟩ := r
  · exact absurd rfl h_nonempty
  · exact ⟨c, rest, rfl, List.forall_mem_cons.1 h_all⟩

/-- A numeral does not begin with a blank. -/
theorem Numeral.head_not_blank (n : Numeral) (rest : List Char) :
    (n.text ++ rest).head?.any isBlank = false := by
  obtain ⟨c, more, h_digits, h_c, -⟩ := n.exists_cons
  rw [h_digits]
  simpa using isBlank_of_isDigit h_c

/-- No digit stands behind a numeral: there is a blank or nothing. -/
theorem Row.head_not_digit (more : List (Space × Numeral)) (trail : Gap) :
    (textAfter more ++ trail.text).head?.any Char.isDigit = false := by
  cases more with
  | nil =>
    obtain ⟨_ | ⟨c, rest⟩, h_trail⟩ := trail
    · rfl
    · simpa [textAfter] using isDigit_of_isBlank (h_trail c List.mem_cons_self)
  | cons step more =>
    obtain ⟨c, rest, h_text, h_c, -⟩ := step.1.exists_cons
    rw [textAfter_cons, h_text]
    simpa using isDigit_of_isBlank h_c

end Written

open Written

/-! ### Every text of digits and blanks is a row -/

/-- **A text of digits and blanks** is blank, or it is a row. The row is found from the back: a
blank goes before it, and a digit begins its first numeral or one of its own. -/
theorem blank_or_row {text : List Char}
    (h : ∀ c ∈ text, c.isDigit = true ∨ isBlank c = true) :
    (∀ c ∈ text, isBlank c = true) ∨ ∃ w : Row, w.text = text := by
  induction text with
  | nil => exact Or.inl (List.forall_mem_nil _)
  | cons c text ih =>
    obtain ⟨h_c, h_rest⟩ := List.forall_mem_cons.1 h
    rcases h_c with h_digit | h_blank
    · right
      have h_single : ∀ d ∈ [c], d.isDigit = true := List.forall_mem_singleton.2 h_digit
      rcases ih h_rest with h_blanks | ⟨⟨⟨lead, h_lead⟩, first, more, trail⟩, rfl⟩
      · -- only blanks follow, so the digit is a numeral alone
        exact ⟨⟨noGap, ⟨[c], List.cons_ne_nil c [], h_single⟩, [], ⟨text, h_blanks⟩⟩, rfl⟩
      · cases lead with
        | nil =>
          -- the digit is the first one of the first numeral
          refine ⟨⟨noGap, ⟨c :: first.text, List.cons_ne_nil _ _, ?_⟩, more, trail⟩, rfl⟩
          exact List.forall_mem_cons.2 ⟨h_digit, first.all⟩
        | cons d lead =>
          -- blanks follow, and part the digit from the first numeral behind them
          refine ⟨⟨noGap, ⟨[c], List.cons_ne_nil c [], h_single⟩,
            (⟨d :: lead, List.cons_ne_nil d lead, h_lead⟩, first) :: more, trail⟩, ?_⟩
          simp [Row.text, Row.textAfter, noGap]
    · rcases ih h_rest with h_blanks | ⟨⟨⟨lead, h_lead⟩, first, more, trail⟩, rfl⟩
      · exact Or.inl (List.forall_mem_cons.2 ⟨h_blank, h_blanks⟩)
      · right
        exact ⟨⟨⟨c :: lead, List.forall_mem_cons.2 ⟨h_blank, h_lead⟩⟩, first, more, trail⟩, rfl⟩

/-- **A text of digits and blanks is a row** if there is a digit in it. -/
theorem exists_row {text : List Char} (h : ∀ c ∈ text, c.isDigit = true ∨ isBlank c = true)
    (h_digit : ∃ c ∈ text, c.isDigit = true) : ∃ w : Row, w.text = text := by
  rcases blank_or_row h with h_blank | h_row
  · obtain ⟨c, h_c, h_c_digit⟩ := h_digit
    rw [isDigit_of_isBlank (h_blank c h_c)] at h_c_digit
    cases h_c_digit
  · exact h_row

/-! ### A row is written in one way -/

namespace Written

section Cuts

variable {rest rest' : List Char}

/-- A run is cut off in one way where no more of its class follows. -/
theorem Run.append_inj {p : Char → Bool} {r r' : Run p} (h_rest : rest.head?.any p = false)
    (h_rest' : rest'.head?.any p = false) (h : r.text ++ rest = r'.text ++ rest') :
    r = r' ∧ rest = rest' := by
  obtain ⟨h_text, h_rest⟩ := append_inj_of_span r.all r'.all h_rest h_rest' h
  exact ⟨Run.ext h_text, h_rest⟩

/-- A digit is not among blanks. -/
theorem Gap.ne_append_digits {trail : Gap} {s : Space} {n : Numeral} :
    trail.text ≠ s.text ++ (n.text ++ rest) := by
  intro h
  obtain ⟨c, more, h_digits, h_c, -⟩ := n.exists_cons
  -- the first digit of the numeral would stand in the gap
  have h_blank : isBlank c = true := by
    apply trail.blank
    rw [h, h_digits]
    simp
  rw [isDigit_of_isBlank h_blank] at h_c
  cases h_c

end Cuts

theorem Row.textAfter_inj {more more' : List (Space × Numeral)} {trail trail' : Gap}
    (h : textAfter more ++ trail.text = textAfter more' ++ trail'.text) :
    more = more' ∧ trail = trail' := by
  induction more generalizing more' with
  | nil =>
    cases more' with
    | nil => exact ⟨rfl, Gap.ext h⟩
    | cons step' more' =>
      -- one text is blank, and in the other there is a numeral
      rw [textAfter_cons, List.append_assoc, List.append_assoc] at h
      exact absurd h Gap.ne_append_digits
  | cons step more ih =>
    rw [textAfter_cons, List.append_assoc, List.append_assoc] at h
    cases more' with
    | nil => exact absurd h.symm Gap.ne_append_digits
    | cons step' more' =>
      rw [textAfter_cons, List.append_assoc, List.append_assoc] at h
      -- blanks, a numeral and the rest are cut off one after the other
      obtain ⟨h_space, h⟩ := Run.append_inj (step.2.head_not_blank _) (step'.2.head_not_blank _) h
      obtain ⟨h_numeral, h⟩ := Run.append_inj (head_not_digit more trail)
        (head_not_digit more' trail') h
      obtain ⟨h_more, h_trail⟩ := ih h
      exact ⟨by rw [Prod.ext h_space h_numeral, h_more], h_trail⟩

/-- **A row is written in one way**: blanks end where a digit stands, and a numeral ends where there
is none. -/
theorem Row.eq_of_text_eq {w w' : Row} (h : w.text = w'.text) : w = w' := by
  unfold text at h
  rw [List.append_assoc, List.append_assoc] at h
  obtain ⟨h_lead, h⟩ := Gap.append_inj (w.first.head_not_blank _) (w'.first.head_not_blank _) h
  obtain ⟨h_first, h⟩ := Run.append_inj (head_not_digit w.more w.trail)
    (head_not_digit w'.more w'.trail) h
  obtain ⟨h_more, h_trail⟩ := textAfter_inj h
  exact Row.ext h_lead h_first h_more h_trail

/-! ### What is read of a row -/

/-- A row ends with a digit but for the blanks behind it. -/
theorem Row.exists_last (first : Numeral) (more : List (Space × Numeral)) :
    ∃ front c, first.text ++ textAfter more = front ++ [c] ∧ c.isDigit = true := by
  induction more generalizing first with
  | nil =>
    -- the last character of the numeral is a digit like all others
    refine ⟨first.text.dropLast, first.text.getLast first.nonempty, ?_,
      first.all _ (List.getLast_mem _)⟩
    rw [List.dropLast_concat_getLast, textAfter, List.flatMap_nil, List.append_nil]
  | cons step more ih =>
    obtain ⟨front, c, h_rest, h_c⟩ := ih step.2
    refine ⟨first.text ++ (step.1.text ++ front), c, ?_, h_c⟩
    rw [textAfter_cons, h_rest]
    simp only [List.append_assoc]

theorem Row.trim_text (w : Row) : trim w.text = w.first.text ++ textAfter w.more := by
  obtain ⟨front, c, h_last, h_c⟩ := exists_last w.first w.more
  rw [text, trim_blanks_append w.lead.blank, trim_append_blanks w.trail.blank]
  refine trim_eq_self (w.first.head_not_blank _) ?_
  rw [h_last]
  simpa using isBlank_of_isDigit h_c

/-- Blanks stand inside a row if it has more than one numeral. -/
theorem Row.any_isBlank (w : Row) :
    (w.first.text ++ textAfter w.more).any isBlank = !w.more.isEmpty := by
  have h_first : w.first.text.any isBlank = false := by
    rw [List.any_eq_false]
    intro c h_c
    rw [w.first.not_blank c h_c]
    exact Bool.false_ne_true
  rw [List.any_append, h_first, Bool.false_or]
  cases w.more with
  | nil => rfl
  | cons step more =>
    obtain ⟨c, rest, h_text, h_c, -⟩ := step.1.exists_cons
    rw [textAfter_cons, h_text]
    simp [h_c]

/-- The fields of a row are its numerals. -/
theorem Row.fields_numerals (first : Numeral) (more : List (Space × Numeral)) :
    fields (first.text ++ textAfter more) = first.text :: more.map fun step => step.2.text := by
  induction more generalizing first with
  | nil =>
    rw [textAfter, List.flatMap_nil, List.append_nil]
    exact fields_run first.nonempty first.not_blank
  | cons step more ih =>
    obtain ⟨c, rest, h_text, h_c, h_rest⟩ := step.1.exists_cons
    -- the first of the blanks ends the numeral, and the others are in front of the next one
    rw [textAfter_cons, h_text, List.cons_append,
      fields_run_append first.nonempty first.not_blank h_c, fields_blanks_append h_rest, ih step.2]
    rfl

/-- A numeral is read at its value, or not at all. -/
theorem Numeral.numeralCell?_text (n : Numeral) :
    numeralCell? n.text = if n.value ≤ maxCell then some n.value else none := by
  obtain ⟨c, rest, h_digits, h_c, -⟩ := n.exists_cons
  -- a sign is no digit
  have h_sign : c ≠ '+' := by
    rintro rfl
    cases h_c
  have h_read : readNat? n.text = some n.value := by
    unfold readNat?
    rw [if_pos]
    · rfl
    · simp [n.nonempty]
      exact n.all
  -- a digit is in front, so no sign is taken off
  have h_unsigned : numeralCell? n.text = (readNat? n.text).filter (· ≤ maxCell) := by
    unfold numeralCell?
    rw [h_digits]
    split
    · next h_plus =>
      cases h_plus
      exact absurd rfl h_sign
    · rfl
  rw [h_unsigned, h_read, Option.filter_some]
  simp only [decide_eq_true_eq]

/-- A row is made of digits and blanks. -/
theorem Row.digit_or_blank (w : Row) : ∀ c ∈ w.text, c.isDigit = true ∨ isBlank c = true := by
  intro c h_c
  simp only [text, List.mem_append] at h_c
  rcases h_c with h_lead | (h_first | h_more) | h_trail
  · exact Or.inr (w.lead.blank c h_lead)
  · exact Or.inl (w.first.all c h_first)
  · obtain ⟨step, -, h_step⟩ := List.mem_flatMap.1 h_more
    rcases List.mem_append.1 h_step with h_space | h_numeral
    · exact Or.inr (step.1.all c h_space)
    · exact Or.inl (step.2.all c h_numeral)
  · exact Or.inr (w.trail.blank c h_trail)

/-- There is a digit in a row. -/
theorem Row.exists_digit (w : Row) : ∃ c ∈ w.text, c.isDigit = true := by
  obtain ⟨c, rest, h_digits, h_c, -⟩ := w.first.exists_cons
  refine ⟨c, ?_, h_c⟩
  rw [text, h_digits]
  simp

theorem Row.looksLikeRow_text (w : Row) : looksLikeRow w.text = true := by
  obtain ⟨c, h_c, -⟩ := w.exists_digit
  exact looksLikeRow_iff.2 ⟨List.ne_nil_of_mem h_c, w.digit_or_blank⟩

end Written

/-- A step for all elements that only asks something of each of them succeeds when it is true of
all. -/
theorem mapM_guarded {α β : Type} (p : α → Bool) (f : α → β) (l : List α) :
    l.mapM (fun a => if p a then some (f a) else none) =
      if l.all p then some (l.map f) else none := by
  induction l with
  | nil => rfl
  | cons a l ih =>
    -- the first element is asked before the others, and one that fails is enough
    rw [List.mapM_cons, ih, List.all_cons]
    by_cases h_a : p a
    · by_cases h_l : l.all p
      · simp [h_a, h_l]
      · simp [h_a, h_l]
    · simp [h_a]

/-- A text of digits and blanks is a matrix row or nothing, in the first line too. -/
theorem read?_of_looksLikeRow {text : List Char} (h : looksLikeRow text = true) (first : Bool) :
    Line.read? first text = (readRow? text).map .matrixRow := by
  -- a hyphen is neither a digit nor a blank, so there are no flags
  have h_hyphen : text.head? ≠ some '-' := by
    intro h_head
    have h_char := (looksLikeRow_iff.1 h).2 '-' (List.mem_of_head? h_head)
    revert h_char
    decide
  unfold Line.read?
  rw [readFlags?_eq_none h_hyphen, ite_self]
  exact if_pos h

theorem readRow?_text (w : Row) : readRow? w.text = w.cells? := by
  unfold readRow? Row.cells?
  rw [w.trim_text]
  dsimp only
  rw [w.any_isBlank]
  cases h_more : w.more with
  | nil =>
    -- there is no blank inside, and every character is a cell
    have h_digits : w.first.text.all Char.isDigit = true := List.all_eq_true.2 w.first.all
    have h_cells := mapM_guarded Char.isDigit (fun c => c.toNat - '0'.toNat) w.first.text
    rw [h_digits] at h_cells
    rw [Row.textAfter, List.flatMap_nil, List.append_nil]
    exact h_cells
  | cons step more =>
    -- blanks are inside, and every numeral is a cell
    have h_fields : fields (w.first.text ++ Row.textAfter w.more) = w.numerals.map Run.text := by
      rw [Row.fields_numerals, Row.numerals, List.map_cons, List.map_map]
      rfl
    have h_read : (numeralCell? ∘ Run.text) =
        fun n : Numeral => if decide (n.value ≤ maxCell) then some n.value else none := by
      funext n
      simpa using Numeral.numeralCell?_text n
    rw [← h_more, h_fields, List.mapM_map, h_read, mapM_guarded, h_more]
    rfl

/-- **A row is read** as what it says. -/
theorem read?_row (first : Bool) (w : Row) :
    Line.read? first w.text = w.cells?.map .matrixRow := by
  rw [read?_of_looksLikeRow w.looksLikeRow_text, readRow?_text]

/-! ### Cells that fit, and cells that do not -/

namespace Written

/-- The only numeral of a row gives its digits. -/
theorem Row.cells?_eq_digits {w : Row} (h : w.more = []) :
    w.cells? = some (w.first.text.map fun c => c.toNat - '0'.toNat) := by
  rw [cells?, h]
  rfl

section Separated

variable {w : Row} (h_more : w.more ≠ [])
include h_more

theorem Row.cells?_eq_ite :
    w.cells? = if w.numerals.all fun n => n.value ≤ maxCell then some (w.numerals.map Numeral.value)
      else none := by
  have h_empty : w.more.isEmpty = false := by simpa using h_more
  rw [cells?, h_empty]
  rfl

/-- Several numerals give their values if all of them fit into a cell. -/
theorem Row.cells?_eq_values (h : ∀ n ∈ w.numerals, n.value ≤ maxCell) :
    w.cells? = some (w.numerals.map Numeral.value) := by
  rw [cells?_eq_ite h_more, if_pos]
  rw [List.all_eq_true]
  intro n h_n
  exact decide_eq_true (h n h_n)

/-- A numeral that does not fit leaves nothing of the row. -/
theorem Row.cells?_eq_none (h : ∃ n ∈ w.numerals, maxCell < n.value) : w.cells? = none := by
  obtain ⟨n, h_n, h_large⟩ := h
  rw [cells?_eq_ite h_more, if_neg]
  intro h_all
  have h_fits : n.value ≤ maxCell := of_decide_eq_true (List.all_eq_true.1 h_all n h_n)
  exact absurd h_large (Nat.not_lt.2 h_fits)

end Separated

/-! ### Numbers come back -/

/-- The numeral of a number, with no zero in front but its own. -/
def Numeral.of (n : Nat) : Numeral where
  text := numeral n
  nonempty := Nat.toDigits_ne_nil
  all _ h_c := Nat.isDigit_of_mem_toDigits (by decide) (by decide) h_c

theorem Numeral.value_of (n : Nat) : (Numeral.of n).value = n :=
  Nat.ofDigitChars_ten_toDigits

end Written

/-- **Numbers come back** from their numerals with blanks between them, whatever blanks these
are. -/
theorem read?_joined (first : Bool) {cell : Nat} {more : List (Space × Nat)} (h_more : more ≠ [])
    (h : ∀ n ∈ cell :: more.map Prod.snd, n ≤ maxCell) :
    Line.read? first (numeral cell ++ more.flatMap fun step => step.1.text ++ numeral step.2) =
      some (.matrixRow (cell :: more.map Prod.snd)) := by
  -- the row that the text is, from its gaps and its numerals
  let w : Row := ⟨noGap, .of cell, more.map fun step => (step.1, .of step.2), noGap⟩
  have h_text : w.text =
      numeral cell ++ more.flatMap fun step => step.1.text ++ numeral step.2 := by
    show [] ++ (numeral cell ++ Row.textAfter _ ++ []) = _
    rw [List.nil_append, List.append_nil, Row.textAfter, List.flatMap_map]
    rfl
  have h_values : w.numerals.map Numeral.value = cell :: more.map Prod.snd := by
    simp [w, Row.numerals, Numeral.value_of]
  have h_fit : ∀ n ∈ w.numerals, n.value ≤ maxCell := by
    intro n h_n
    apply h
    rw [← h_values]
    exact List.mem_map_of_mem h_n
  have h_several : w.more ≠ [] := by simpa [w] using h_more
  rw [← h_text, read?_row, Row.cells?_eq_values h_several h_fit, h_values]
  rfl

/-- **Digits come back** when they are written together. -/
theorem read?_digits (first : Bool) {cells : List Nat} (h_cells : cells ≠ [])
    (h : ∀ n ∈ cells, n < 10) :
    Line.read? first (cells.flatMap numeral) = some (.matrixRow cells) := by
  -- the numeral of a digit is a single character, so the numerals together are one
  have h_single : ∀ n ∈ cells, numeral n = [n.digitChar] := fun n h_n =>
    Nat.toDigits_of_lt_base (h n h_n)
  have h_digits : cells.flatMap numeral = cells.map Nat.digitChar := by
    rw [List.flatMap_congr h_single, List.map_eq_flatMap]
  have h_digit : ∀ c ∈ cells.map Nat.digitChar, c.isDigit = true := by
    intro c h_c
    obtain ⟨n, h_n, rfl⟩ := List.mem_map.1 h_c
    rw [Nat.isDigit_digitChar]
    exact decide_eq_true (h n h_n)
  have h_nonempty : cells.map Nat.digitChar ≠ [] := by simpa using h_cells
  let w : Row := ⟨noGap, ⟨cells.map Nat.digitChar, h_nonempty, h_digit⟩, [], noGap⟩
  have h_text : w.text = cells.map Nat.digitChar := by
    simp [w, Row.text, Row.textAfter, noGap]
  have h_values : (w.first.text.map fun c => c.toNat - '0'.toNat) = cells := by
    show (cells.map Nat.digitChar).map _ = cells
    rw [List.map_map]
    conv => rhs; rw [← List.map_id cells]
    exact List.map_congr_left fun n h_n => Nat.toNat_digitChar_sub_48_of_lt_ten (h n h_n)
  rw [h_digits, ← h_text, read?_row, Row.cells?_eq_digits rfl, h_values]
  rfl

/-! ### Rows in a source -/

/-- A kept line is added after the lines before it. -/
theorem Draft.addAll_append_cons (d : Draft) (before after : List KeptLine) (kept : KeptLine) :
    addAll d (before ++ kept :: after) = addAll d before >>= fun d' =>
      d'.addKept before.isEmpty kept >>= fun d'' => after.foldlM (addKept false) d'' := by
  cases before with
  | nil => rfl
  | cons k before =>
    -- the line is not the first one, and is added by the fold over the others
    rw [List.cons_append, addAll, addAll, bind_assoc]
    congr 1
    funext d'
    rw [List.foldlM_append]
    rfl

section Unreadable

variable {source : String} {before after : List (List Char)} {line : List Char}

/-- **A line without a form** ends the reading: the lines before it are read, and if they are taken
then its number is in the error, whatever comes after it. -/
theorem read_eq_of_unreadable (h_lines : lines source.toList = before ++ line :: after)
    (h_nonempty : content line ≠ []) (h_none : ∀ first, Line.read? first (content line) = none) :
    read source = Draft.addAll {} (keptLines (firstLines before.length source)) >>= fun _ =>
      .error (.unreadableLine (before.length + 1)) := by
  have h_contents : contents source =
      before.map content ++ content line :: after.map content := by
    rw [contents, h_lines, List.map_append, List.map_cons]
  have h_before : keptLines (firstLines before.length source) =
      keptFrom 1 (before.map content) := by
    rw [keptLines_firstLines, h_contents, List.take_left' (List.length_map content)]
  -- it does not matter whether the line is the first one kept, or what is drafted by then
  have h_kept : ∀ (first : Bool) (d : Draft),
      d.addKept first ⟨1 + (before.map content).length, content line⟩ =
        .error (.unreadableLine (before.length + 1)) := by
    intro first d
    unfold Draft.addKept
    rw [h_none, List.length_map, Nat.add_comm]
  unfold read
  rw [keptLines_eq, h_contents, keptFrom_append_cons h_nonempty, Draft.addAll_append_cons,
    bind_assoc, h_before]
  -- what the lines before leave to the line makes no difference
  congr 1
  funext d
  rw [h_kept]
  rfl

/-- A cell that is too large is the fault of its line if none comes before it. -/
theorem read_of_large_cell {w : Row} (h_lines : lines source.toList = before ++ line :: after)
    (h_row : content line = w.text) (h_more : w.more ≠ [])
    (h_large : ∃ n ∈ w.numerals, maxCell < n.value) :
    read source = Draft.addAll {} (keptLines (firstLines before.length source)) >>= fun _ =>
      .error (.unreadableLine (before.length + 1)) := by
  obtain ⟨c, h_c, -⟩ := w.exists_digit
  refine read_eq_of_unreadable h_lines ?_ fun first => ?_
  · rw [h_row]
    exact List.ne_nil_of_mem h_c
  · rw [h_row, read?_row, Row.cells?_eq_none h_more h_large]
    rfl

end Unreadable

/-- **Matrix rows are read exactly.** A text of digits and blanks with a digit in it is a row in one
way. Whether or not it is in the first line, one numeral alone gives its digits; several numerals
give their values, zeros in front or not, if all of these are below `2 ^ 32`, and nothing is read if
one is not. So two numbers or more below `2 ^ 32` come back from their numerals with any blanks
between them, and digits come back when they are written together. A source with a row that is too
large for its cells has the number of this line in its error, if the lines before it are taken, and
has the error of these lines if they are not. -/
theorem rows_exact :
    (∀ text : List Char, (∀ c ∈ text, c.isDigit = true ∨ isBlank c = true) →
      (∃ c ∈ text, c.isDigit = true) → ∃! w : Row, w.text = text) ∧
    (∀ (first : Bool) (w : Row),
      (w.more = [] → Line.read? first w.text =
        some (.matrixRow (w.first.text.map fun c => c.toNat - '0'.toNat))) ∧
      (w.more ≠ [] → (∀ n ∈ w.numerals, n.value ≤ 0xFFFFFFFF) →
        Line.read? first w.text = some (.matrixRow (w.numerals.map Numeral.value))) ∧
      (w.more ≠ [] → (∃ n ∈ w.numerals, 0xFFFFFFFF < n.value) → Line.read? first w.text = none)) ∧
    (∀ (first : Bool) (cell : Nat) (more : List (Space × Nat)), more ≠ [] →
      (∀ n ∈ cell :: more.map Prod.snd, n ≤ 0xFFFFFFFF) →
      Line.read? first (numeral cell ++ more.flatMap fun step => step.1.text ++ numeral step.2) =
        some (.matrixRow (cell :: more.map Prod.snd))) ∧
    (∀ (first : Bool) (cells : List Nat), cells ≠ [] → (∀ n ∈ cells, n < 10) →
      Line.read? first (cells.flatMap numeral) = some (.matrixRow cells)) ∧
    ∀ (source : String) (before after : List (List Char)) (line : List Char) (w : Row),
      lines source.toList = before ++ line :: after → content line = w.text → w.more ≠ [] →
      (∃ n ∈ w.numerals, 0xFFFFFFFF < n.value) →
      (∀ d, Draft.addAll {} (keptLines (firstLines before.length source)) = .ok d →
        read source = .error (.unreadableLine (before.length + 1))) ∧
      ∀ e, Draft.addAll {} (keptLines (firstLines before.length source)) = .error e →
        read source = .error e := by
  refine ⟨fun text h_text h_digit => ?_, fun first w => ⟨?_, ?_, ?_⟩, ?_, ?_, ?_⟩
  · -- a text is a row, and no two rows have one text
    obtain ⟨w, rfl⟩ := exists_row h_text h_digit
    exact ⟨w, rfl, fun w' h_w' => Row.eq_of_text_eq h_w'⟩
  · -- one numeral, several that fit, and several of which one does not
    intro h_single
    rw [read?_row, Row.cells?_eq_digits h_single]
    rfl
  · intro h_more h_fit
    rw [read?_row, Row.cells?_eq_values h_more h_fit]
    rfl
  · intro h_more h_large
    rw [read?_row, Row.cells?_eq_none h_more h_large]
    rfl
  · -- numbers and digits come back from what they are written as
    intro first cell more h_more h_fit
    exact read?_joined first h_more h_fit
  · intro first cells h_cells h_digits
    exact read?_digits first h_cells h_digits
  · -- the line is the fault of the source, unless the lines before it have one
    intro source before after line w h_lines h_row h_more h_large
    have h_read := read_of_large_cell h_lines h_row h_more h_large
    refine ⟨fun d h_d => ?_, fun e h_e => ?_⟩
    · rw [h_read, h_d]
      rfl
    · rw [h_read, h_e]
      rfl

/-- A row with zeros and a blank in front, and with the greatest number that a cell holds. -/
private def zeroFilled : Row where
  lead := ⟨['\t'], List.all_eq_true.1 (by decide)⟩
  first := ⟨['0', '0', '7'], by decide, List.all_eq_true.1 (by decide)⟩
  more := [(⟨['\u00a0', ' '], by decide, List.all_eq_true.1 (by decide)⟩, .of 4294967295)]
  trail := noGap

/-- A row with the least number that a cell does not hold. -/
private def overfull : Row where
  lead := noGap
  first := .of 1
  more := [(⟨[' '], by decide, List.all_eq_true.1 (by decide)⟩, .of 4294967296)]
  trail := noGap

/-- The greatest number that a cell holds is read with the zeros of the numeral before it, and the
next number is not. A row with that one is at fault in the third line of a source, and is not come
to in another source that has an unknown name in its first line. -/
theorem rows_exact_greatest_cell :
    (zeroFilled.text = "\t007\u00a0 4294967295".toList ∧
      Line.read? true zeroFilled.text = some (.matrixRow [7, 4294967295])) ∧
    (overfull.text = "1 4294967296".toList ∧ Line.read? false overfull.text = none) ∧
    Line.read? false "10\t2".toList = some (.matrixRow [10, 2]) ∧
    Line.read? false "102".toList = some (.matrixRow [1, 0, 2]) ∧
    read "a, b\n\n1 4294967296 // large\n(a" = .error (.unreadableLine 3) ∧
    read "(a, b)\n1 4294967296" = .error (.unknownVertex "a" 1) := by
  obtain ⟨-, h_rows, h_joined, h_digits, h_source⟩ := rows_exact
  have h_overfull : ∃ n ∈ overfull.numerals, 0xFFFFFFFF < n.value :=
    ⟨.of 4294967296, List.mem_cons_of_mem _ List.mem_cons_self, by decide +kernel⟩
  obtain ⟨-, h_fit, -⟩ := h_rows true zeroFilled
  obtain ⟨-, -, h_large⟩ := h_rows false overfull
  obtain ⟨h_taken, -⟩ := h_source "a, b\n\n1 4294967296 // large\n(a" ["a, b".toList, []]
    ["(a".toList] "1 4294967296 // large".toList overfull (by decide +kernel) (by decide +kernel)
    (by decide) h_overfull
  obtain ⟨-, h_failed⟩ := h_source "(a, b)\n1 4294967296" ["(a, b)".toList] []
    "1 4294967296".toList overfull (by decide +kernel) (by decide +kernel) (by decide) h_overfull
  refine ⟨⟨by decide +kernel, ?_⟩, ⟨by decide +kernel, ?_⟩, ?_, ?_, ?_, ?_⟩
  · exact (h_fit (by decide) (by decide +kernel)).trans (by decide +kernel)
  · exact h_large (by decide) h_overfull
  · exact h_joined false 10 [(⟨['\t'], by decide, List.all_eq_true.1 (by decide)⟩, 2)] (by decide)
      (by decide)
  · exact h_digits false [1, 0, 2] (by decide) (by decide)
  · exact h_taken ⟨⟨{}, ["a", "b"], []⟩, {}⟩ (by decide +kernel)
  · exact h_failed (.unknownVertex "a" 1) (by decide +kernel)

end RingDiagram.Notation
