import RingDiagram.Notation.KeptLine
import RingDiagram.Proofs.Text.Trim

/-!
# Comments and blanks in lines

What a line says does not change with the blanks at its ends, nor with a comment that a blank
separates from the rest. The blank is needed: two slashes behind a slash would join it and hide it,
while what is put behind a line and begins with no slash leaves the line as it was
(`beforeComment_append`).

A line is `Idle` if it is blank or holds a comment alone, and it then says nothing
(`Idle.content_eq_nil`). A line is `Dressed` if it is another line with more blanks and comments,
and it then says what that one says (`Dressed.content_eq`).
-/

namespace RingDiagram.Notation

open Text

/-! ### The part before the comment -/

/-- A blank is no slash. -/
theorem ne_slash_of_isBlank {c : Char} (h : isBlank c = true) : c ≠ '/' := by
  rintro rfl
  revert h
  decide

/-- Without a slash there is no comment. -/
theorem beforeComment_eq_self {text : List Char} (h : '/' ∉ text) : beforeComment text = text := by
  fun_induction beforeComment text with
  | case1 => rfl
  | case2 rest => exact absurd List.mem_cons_self h
  | case3 c rest h_comment ih => rw [ih fun h_slash => h (List.mem_cons_of_mem c h_slash)]

theorem beforeComment_blank_cons {c : Char} (h : isBlank c = true) (line : List Char) :
    beforeComment (c :: line) = c :: beforeComment line := by
  rw [beforeComment]
  intro rest h_c
  exact absurd h_c (ne_slash_of_isBlank h)

theorem mem_of_mem_beforeComment {line : List Char} {c : Char} (h : c ∈ beforeComment line) :
    c ∈ line := by
  fun_induction beforeComment line with
  | case1 => exact h
  | case2 rest => cases h
  | case3 d rest _ ih =>
    -- the comment is left out, and all that is in front of it is in the line
    rcases List.mem_cons.1 h with rfl | h_rest
    · exact List.mem_cons_self
    · exact List.mem_cons_of_mem d (ih h_rest)

/-- A character of what a line says is a character of the line. -/
theorem mem_of_mem_content {line : List Char} {c : Char} (h : c ∈ content line) : c ∈ line :=
  mem_of_mem_beforeComment (mem_of_mem_trim h)

/-- A comment in a line hides what follows; otherwise the line goes on with what follows, if that
does not begin with a slash. -/
theorem beforeComment_append {tail : List Char} (h_tail : tail.head? ≠ some '/')
    (line : List Char) :
    beforeComment (line ++ tail) = beforeComment line ∨
      beforeComment (line ++ tail) = beforeComment line ++ beforeComment tail := by
  fun_induction beforeComment line with
  | case1 => exact Or.inr rfl
  | case2 rest => exact Or.inl rfl
  | case3 c rest h_comment ih =>
    have h_cons : beforeComment (c :: rest ++ tail) = c :: beforeComment (rest ++ tail) := by
      rw [List.cons_append, beforeComment]
      intro more h_c h_more
      cases rest with
      | nil =>
        -- the line ends with a slash, and what follows has none
        rw [List.nil_append] at h_more
        rw [h_more] at h_tail
        exact h_tail rfl
      | cons d rest =>
        -- the slash would have one behind it in the line itself
        obtain ⟨rfl, -⟩ := List.cons.inj h_more
        exact h_comment rest h_c rfl
    rw [h_cons]
    rcases ih with h_hidden | h_open
    · exact Or.inl (by rw [h_hidden])
    · exact Or.inr (by rw [h_open, List.cons_append])

/-- What follows a line adds nothing to it if it is blank up to a comment and begins with no
slash. -/
theorem content_append {tail : List Char} (h_head : tail.head? ≠ some '/')
    (h_tail : ∀ c ∈ beforeComment tail, isBlank c = true) (line : List Char) :
    content (line ++ tail) = content line := by
  unfold content
  rcases beforeComment_append h_head line with h_hidden | h_open
  · rw [h_hidden]
  · rw [h_open, trim_append_blanks h_tail]

/-- A blank in front adds nothing to a line. -/
theorem content_blank_cons {c : Char} (h : isBlank c = true) (line : List Char) :
    content (c :: line) = content line := by
  have h_lead : ∀ d ∈ [c], isBlank d = true := by simpa using h
  unfold content
  rw [beforeComment_blank_cons h]
  exact trim_blanks_append h_lead _

/-! ### Idle and dressed lines -/

/-- A line of blanks, perhaps with a comment behind them. -/
inductive Idle : List Char → Prop where
  | empty : Idle []
  | comment (text : List Char) : Idle ('/' :: '/' :: text)
  | blank {c : Char} {line : List Char} (h_c : isBlank c = true) (h : Idle line) : Idle (c :: line)

/-- A line with more blanks at its ends, and perhaps with comments that follow a blank. -/
inductive Dressed (line : List Char) : List Char → Prop where
  | same : Dressed line line
  | lead {c : Char} {line' : List Char} (h_c : isBlank c = true) (h : Dressed line line') :
      Dressed line (c :: line')
  | trail {c : Char} {line' : List Char} (h_c : isBlank c = true) (h : Dressed line line') :
      Dressed line (line' ++ [c])
  | comment {c : Char} {line' : List Char} (h_c : isBlank c = true) (text : List Char)
      (h : Dressed line line') : Dressed line (line' ++ c :: '/' :: '/' :: text)

/-- **An idle line** says nothing. -/
theorem Idle.content_eq_nil {line : List Char} (h : Idle line) : content line = [] := by
  induction h with
  | empty => rfl
  | comment text => rfl
  | blank h_c h ih => rw [content_blank_cons h_c, ih]

/-- **A dressed line** says what it said before. -/
theorem Dressed.content_eq {line line' : List Char} (h : Dressed line line') :
    content line' = content line := by
  induction h with
  | same => rfl
  | lead h_c h ih => rw [content_blank_cons h_c, ih]
  | trail h_c h ih =>
    -- the blank that is added is no slash, and it is all blank up to a comment
    rw [content_append ?_ ?_, ih]
    · simpa using ne_slash_of_isBlank h_c
    · rw [beforeComment_blank_cons h_c]
      simpa [beforeComment] using h_c
  | comment h_c text h ih =>
    -- the comment is hidden, and the blank in front of it is blank
    rw [content_append ?_ ?_, ih]
    · simpa using ne_slash_of_isBlank h_c
    · rw [beforeComment_blank_cons h_c]
      simpa [beforeComment] using h_c

end RingDiagram.Notation
