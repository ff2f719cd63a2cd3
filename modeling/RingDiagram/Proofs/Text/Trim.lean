import RingDiagram.Text.Blank
import RingDiagram.Text.WordChar

/-!
# Words, blanks, trimming and fields

The two classes of characters that the notation tells apart have no character in common
(`isBlank_of_isWordChar`), so a text is cut in one way only where one of them ends
(`append_inj_of_span`). Trimming removes blanks from the ends of a text and nothing else: blanks
added at either end make no difference to it (`trim_blanks_append`, `trim_append_blanks`), and a
text that neither begins nor ends with a blank is left alone (`trim_eq_self`). A run without blanks
is a field as far as it goes (`fields_run_append`), and blanks belong to no field
(`fields_blanks_append`).
-/

namespace RingDiagram.Text

/-! ### The classes -/

/-- Classes whose ranges do not meet have no character in common. -/
theorem inRanges_disjoint {ranges others : List CodeRange} {c : Char}
    (h : ∀ r ∈ ranges, ∀ s ∈ others, r.2 < s.1 ∨ s.2 < r.1) (h_c : inRanges ranges c = true) :
    inRanges others c = false := by
  -- the character would lie in a range of each class
  obtain ⟨r, h_r, h_first, h_last⟩ := inRanges_iff.1 h_c
  rw [Bool.eq_false_iff]
  intro h_other
  obtain ⟨s, h_s, h_first', h_last'⟩ := inRanges_iff.1 h_other
  rcases h r h_r s h_s with h_before | h_after
  · omega
  · omega

/-- No word character is a blank. -/
theorem isBlank_of_isWordChar {c : Char} (h : isWordChar c = true) : isBlank c = false := by
  unfold isWordChar at h
  split at h
  · next h_ascii =>
    -- the ASCII characters one by one
    have h_all : ∀ n < 0x80, ((Char.ofNat n).isAlphanum || Char.ofNat n == '_') = true →
        isBlank (Char.ofNat n) = false := by
      decide +kernel
    have h_c := h_all c.toNat h_ascii
    rw [Char.ofNat_toNat] at h_c
    exact h_c h
  · exact inRanges_disjoint (by decide +kernel) h

/-- No digit is a blank. -/
theorem isBlank_of_isDigit {c : Char} (h : c.isDigit = true) : isBlank c = false := by
  obtain ⟨h_first, h_last⟩ : 48 ≤ c.toNat ∧ c.toNat ≤ 57 := Char.isDigit_iff_toNat.1 h
  rw [Bool.eq_false_iff]
  intro h_blank
  obtain ⟨r, h_r, h_lower, h_upper⟩ := inRanges_iff.1 h_blank
  -- the digits lie between two ranges of blanks
  have h_apart : ∀ r ∈ blankRanges, r.2 < 48 ∨ 57 < r.1 := by decide
  rcases h_apart r h_r with h_before | h_after
  · omega
  · omega

/-- No blank is a digit. -/
theorem isDigit_of_isBlank {c : Char} (h : isBlank c = true) : c.isDigit = false := by
  rw [Bool.eq_false_iff]
  intro h_digit
  rw [isBlank_of_isDigit h_digit] at h
  cases h

/-- No blank is a word character. -/
theorem isWordChar_of_isBlank {c : Char} (h : isBlank c = true) : isWordChar c = false := by
  rw [Bool.eq_false_iff]
  intro h_word
  rw [isBlank_of_isWordChar h_word] at h
  cases h

/-! ### Cutting a text -/

/-- A text is cut in one way where the characters of a class end. -/
theorem append_inj_of_span {p : Char → Bool} {xs ys rest rest' : List Char}
    (h_xs : ∀ c ∈ xs, p c = true) (h_ys : ∀ c ∈ ys, p c = true)
    (h_rest : rest.head?.any p = false) (h_rest' : rest'.head?.any p = false)
    (h : xs ++ rest = ys ++ rest') : xs = ys ∧ rest = rest' := by
  have h_none : ∀ {r : List Char}, r.head?.any p = false → r.takeWhile p = [] := by
    intro r h_r
    cases r with
    | nil => rfl
    | cons c r => exact List.takeWhile_cons_of_neg (by simpa using h_r)
  -- the characters of the class in front are all that there are up to the cut
  have h_take := congrArg (List.takeWhile p) h
  rw [List.takeWhile_append_of_pos h_xs, List.takeWhile_append_of_pos h_ys, h_none h_rest,
    h_none h_rest', List.append_nil, List.append_nil] at h_take
  subst h_take
  exact ⟨rfl, List.append_cancel_left h⟩

/-! ### Trimming -/

/-- Blanks in front make no difference. -/
theorem trim_blanks_append {lead : List Char} (h : ∀ c ∈ lead, isBlank c = true)
    (text : List Char) : trim (lead ++ text) = trim text := by
  rw [trim, trim, trimStart, trimStart, List.dropWhile_append_of_pos h]

/-- Blanks behind make no difference. -/
theorem trim_append_blanks {trail : List Char} (h : ∀ c ∈ trail, isBlank c = true)
    (text : List Char) : trim (text ++ trail) = trim text := by
  have h_end : ∀ t, trimEnd (t ++ trail) = trimEnd t := by
    intro t
    have h_reverse : ∀ c ∈ trail.reverse, isBlank c = true := by simpa using h
    rw [trimEnd, trimEnd, List.reverse_append, List.dropWhile_append_of_pos h_reverse]
  rw [trim, trim, trimStart, trimStart, List.dropWhile_append]
  split
  · next h_blank =>
    -- the text is blank, and so is all of it
    have h_drop : (trail ++ []).dropWhile isBlank = [] := List.dropWhile_append_of_pos h
    rw [List.append_nil] at h_drop
    rw [List.isEmpty_iff.1 h_blank, h_drop]
  · exact h_end _

/-- Trimming adds no character. -/
theorem mem_of_mem_trim {text : List Char} {c : Char} (h : c ∈ trim text) : c ∈ text := by
  unfold trim trimEnd trimStart at h
  rw [List.mem_reverse] at h
  -- either end is trimmed by leaving something out
  have h_end := (List.dropWhile_suffix _).subset h
  rw [List.mem_reverse] at h_end
  exact (List.dropWhile_suffix _).subset h_end

/-- What begins with no blank keeps its first character. -/
theorem trimEnd_cons {c : Char} (h : isBlank c = false) (text : List Char) :
    trimEnd (c :: text) = c :: trimEnd text := by
  unfold trimEnd
  rw [List.reverse_cons, List.dropWhile_append]
  -- either all of the text behind the first character goes, or some of it stays
  by_cases h_blank : (text.reverse.dropWhile isBlank).isEmpty
  · simp [List.isEmpty_iff.1 h_blank, h]
  · rw [if_neg h_blank, List.reverse_append]
    rfl

theorem trim_cons {c : Char} (h : isBlank c = false) (text : List Char) :
    trim (c :: text) = c :: trimEnd text := by
  rw [trim, trimStart, List.dropWhile_cons_of_neg (by simp [h]), trimEnd_cons h]

/-- A text that neither begins nor ends with a blank is left alone. -/
theorem trim_eq_self {text : List Char} (h_first : text.head?.any isBlank = false)
    (h_last : text.getLast?.any isBlank = false) : trim text = text := by
  have h_none : ∀ {t : List Char}, t.head?.any isBlank = false → t.dropWhile isBlank = t := by
    intro t h_t
    cases t with
    | nil => rfl
    | cons c t => exact List.dropWhile_cons_of_neg (by simpa using h_t)
  rw [← List.head?_reverse] at h_last
  rw [trim, trimStart, h_none h_first, trimEnd, h_none h_last, List.reverse_reverse]

/-! ### Fields -/

/-- Blanks belong to no field. -/
theorem fields_blanks_append {blanks : List Char} (h : ∀ c ∈ blanks, isBlank c = true)
    (text : List Char) : fields (blanks ++ text) = fields text := by
  induction blanks with
  | nil => rfl
  | cons c blanks ih =>
    calc fields (c :: blanks ++ text) = fields [] ++ fields (blanks ++ text) :=
          fields_append_cons (h c List.mem_cons_self) [] (blanks ++ text)
      _ = fields text := by
          rw [fields_nil, List.nil_append]
          exact ih fun d h_d => h d (List.mem_cons_of_mem c h_d)

/-- A run without blanks is one field. -/
theorem fields_run {run : List Char} (h_nonempty : run ≠ [])
    (h : ∀ c ∈ run, isBlank c = false) : fields run = [run] := by
  rw [fields, List.splitOnP_eq_singleton h]
  simp [h_nonempty]

/-- A run without blanks is a field if a blank ends it. -/
theorem fields_run_append {run : List Char} (h_nonempty : run ≠ [])
    (h : ∀ c ∈ run, isBlank c = false) {c : Char} (h_c : isBlank c = true) (rest : List Char) :
    fields (run ++ c :: rest) = run :: fields rest := by
  rw [fields_append_cons h_c, fields_run h_nonempty h, List.singleton_append]

end RingDiagram.Text
