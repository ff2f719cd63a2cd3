import RingDiagram.Proofs.Notation.Contents
import RingDiagram.Proofs.Notation.Faults

/-!
# Errors at the first line at fault

An error that is about a line is the fault of the first line of the source that has one
(`read_eq_error_iff_of_line?`), and an error of the matrix at the end means that no line has one
(`firstFault?_eq_none_of_read`). Everything else about such errors is about `firstFault?`, which has
no draft in it: it is found in a part of the lines or in the rest (`firstFault?_append`), and it
comes with the number of its line (`line?_of_faultAfter?`). As the numbers tell the first lines of a
text from the rest, a fault at a line is found in every text that begins as this one does up to
that line, and in no text that stops before it. `error_at_first_fault` puts this together.
-/

namespace RingDiagram

/-- The line that a parse error is about. A matrix is no single line, nor is a broken invariant. -/
def ParseError.line? : ParseError → Option Nat
  | .unknownVertex _ line | .unreadableLine line | .mixedWithMatrix line => some line
  | .matrix _ | .broken _ => none

namespace Notation

open Text

/-! ### The fault of one line -/

section OneLine

variable {earlier : List Line} {r : Reading} {e : ParseError}

/-- A fault is about the line that has it. -/
theorem line?_of_faultAfter? (h : faultAfter? earlier r = some e) : e.line? = some r.1 := by
  -- a line without a form is at fault itself, any other for its place or for a name
  obtain ⟨number, _ | line⟩ := r
  · cases h
    rfl
  · unfold faultAfter? Line.fault? at h
    dsimp only at h
    split at h
    · cases h
      rfl
    · obtain ⟨name, -, rfl⟩ := Option.map_eq_some_iff.1 h
      rfl

/-- A name that is unknown is the leftmost one that no earlier line lists, and mentions do not
declare. -/
theorem unknown_of_faultAfter? {name : String} {number : Nat}
    (h : faultAfter? earlier r = some (.unknownVertex name number)) :
    ∃ line, r.2 = some line ∧ (openingFlags earlier).auto = false ∧
      line.mentions.find? (· ∉ earlier.flatMap Line.listed) = some name := by
  -- a name is missing only from a line with a form that has its place where it stands
  obtain ⟨number', _ | line⟩ := r
  · cases h
  · unfold faultAfter? Line.fault? at h
    dsimp only at h
    split at h
    · cases h
    · obtain ⟨name', h_unknown, h_error⟩ := Option.map_eq_some_iff.1 h
      cases h_error
      unfold Line.unknown? at h_unknown
      split at h_unknown
      · cases h_unknown
      · next h_auto => exact ⟨line, rfl, Bool.eq_false_iff.2 h_auto, h_unknown⟩

end OneLine

/-! ### The first fault of a run -/

section Run

variable {earlier : List Line} {xs ys rs : List Reading} {e : ParseError}

theorem filterMap_snd_cons (r : Reading) (rs : List Reading) :
    (r :: rs).filterMap Prod.snd = r.2.toList ++ rs.filterMap Prod.snd := by
  obtain ⟨number, _ | line⟩ := r <;> rfl

/-- A fault is found in the first part of a run, or else in the rest after it. -/
theorem firstFault?_append (earlier : List Line) (xs ys : List Reading) :
    firstFault? earlier (xs ++ ys) =
      (firstFault? earlier xs).or (firstFault? (earlier ++ xs.filterMap Prod.snd) ys) := by
  induction xs generalizing earlier with
  | nil => rw [List.nil_append, firstFault?, Option.none_or, List.filterMap_nil, List.append_nil]
  | cons r xs ih =>
    -- the first line of the first part comes before the rest of it, and is earlier for all that
    -- follow
    rw [List.cons_append, firstFault?, firstFault?, ih, Option.or_assoc, filterMap_snd_cons,
      List.append_assoc]

/-- What comes after a fault does not matter. -/
theorem firstFault?_append_of_eq_some (h : firstFault? earlier xs = some e) (ys : List Reading) :
    firstFault? earlier (xs ++ ys) = some e := by
  rw [firstFault?_append, h, Option.some_or]

/-- The first fault is that of a line after lines without one. -/
theorem exists_of_firstFault? (h : firstFault? earlier rs = some e) :
    ∃ before r after, rs = before ++ r :: after ∧ firstFault? earlier before = none ∧
      faultAfter? (earlier ++ before.filterMap Prod.snd) r = some e := by
  induction rs generalizing earlier with
  | nil => cases h
  | cons r rs ih =>
    rw [firstFault?] at h
    -- the first line has the fault, or it is among those before the line that has it
    cases h_r : faultAfter? earlier r with
    | some e' =>
      rw [h_r, Option.some_or] at h
      refine ⟨[], r, rs, rfl, rfl, ?_⟩
      rw [List.filterMap_nil, List.append_nil, h_r, h]
    | none =>
      rw [h_r, Option.none_or] at h
      obtain ⟨before, s, after, rfl, h_none, h_s⟩ := ih h
      refine ⟨r :: before, s, after, rfl, ?_, ?_⟩
      · rw [firstFault?, h_r, h_none, Option.or_none]
      · rw [filterMap_snd_cons, ← List.append_assoc, h_s]

/-- The first fault is about one of the lines. -/
theorem exists_mem_of_firstFault? (h : firstFault? earlier rs = some e) :
    ∃ r ∈ rs, e.line? = some r.1 := by
  obtain ⟨before, r, after, rfl, -, h_r⟩ := exists_of_firstFault? h
  exact ⟨r, List.mem_append_right before List.mem_cons_self, line?_of_faultAfter? h_r⟩

/-- Where there is no fault, no line has one. -/
theorem faultAfter?_eq_none {before after : List Reading} {r : Reading}
    (h : firstFault? earlier (before ++ r :: after) = none) :
    faultAfter? (earlier ++ before.filterMap Prod.snd) r = none := by
  rw [firstFault?_append, Option.or_eq_none_iff, firstFault?, Option.or_eq_none_iff] at h
  exact h.2.1

/-- Lines without a fault have a form. -/
theorem map_snd_of_firstFault?_eq_none (h : firstFault? earlier rs = none) :
    rs.map Prod.snd = (rs.filterMap Prod.snd).map some := by
  induction rs generalizing earlier with
  | nil => rfl
  | cons r rs ih =>
    rw [firstFault?, Option.or_eq_none_iff] at h
    obtain ⟨h_r, h_rest⟩ := h
    -- a line without a form is always at fault
    obtain ⟨number, _ | line⟩ := r
    · cases h_r
    · rw [List.map_cons, ih h_rest]
      rfl

end Run

/-! ### Errors of the reader -/

variable {source : String} {e : ParseError}

/-- Closing a draft fails with a fault of the matrix, which is about no single line. -/
theorem Draft.line?_of_close {d : Draft} (h : d.close = .error e) : e.line? = none := by
  unfold close at h
  split at h
  · cases h
  · -- what is left to do with a matrix is to expand it, and its faults name no line
    rcases bind_eq_error h with h_expand | ⟨edges, -, h_close⟩
    · obtain ⟨fault, -, rfl⟩ := AdjacencyMatrix.expand_eq_error h_expand
      rfl
    · cases h_close

/-- The lines of a source are taken as long as none of them is at fault. -/
theorem readings_failsWith (source : String) :
    FailsWith ((readings source).foldlM Draft.addReading {}) (firstFault? [] (readings source)) :=
  Draft.follows_empty.addReadings_failsWith (continue_readings source)

/-- The first fault of the lines is the error of the source. -/
theorem read_of_firstFault? (h : firstFault? [] (readings source) = some e) :
    read source = .error e := by
  -- the fault of the lines ends the reading before the draft is closed
  have h_run := (readings_failsWith source e).2 h
  rw [read_eq, h_run]
  rfl

/-- **Errors about a line** are first faults. -/
theorem read_eq_error_iff_of_line? {number : Nat} (h_line : e.line? = some number) :
    read source = .error e ↔ firstFault? [] (readings source) = some e := by
  refine ⟨fun h => ?_, read_of_firstFault?⟩
  rw [read_eq] at h
  rcases bind_eq_error h with h_run | ⟨d, -, h_close⟩
  · exact (readings_failsWith source e).1 h_run
  · -- the lines were all taken, and what is left to do is about none of them
    rw [Draft.line?_of_close h_close] at h_line
    cases h_line

/-- **Errors about no line** mean that there is no fault. -/
theorem firstFault?_eq_none_of_read (h : read source = .error e) (h_line : e.line? = none) :
    firstFault? [] (readings source) = none := by
  rw [Option.eq_none_iff_forall_ne_some]
  intro e' h_fault
  -- a fault would be about a line, and it would be the error at hand
  obtain ⟨r, -, h_r⟩ := exists_mem_of_firstFault? h_fault
  have h_read := read_of_firstFault? h_fault
  rw [h] at h_read
  cases h_read
  rw [h_line] at h_r
  cases h_r

/-- A fault at a line is found among the lines up to it. -/
theorem firstFault?_firstLines {number : Nat} (h_line : e.line? = some number)
    (h : firstFault? [] (readings source) = some e) :
    firstFault? [] (readings (firstLines number source)) = some e := by
  -- the lines up to this number come first, and the rest has greater numbers
  obtain ⟨rest, h_rest, h_numbers⟩ := exists_readings_firstLines number source
  rw [h_rest, firstFault?_append, Option.or_eq_some_iff] at h
  rcases h with h_first | ⟨-, h_later⟩
  · exact h_first
  · -- the lines after that have greater numbers
    obtain ⟨r, h_r, h_number⟩ := exists_mem_of_firstFault? h_later
    have h_lt := h_numbers r h_r
    rw [h_line] at h_number
    cases h_number
    omega

/-- Reading stops at the same line with the same error in every text whose lines up to that one say
the same. -/
theorem read_eq_of_contents_take {number : Nat} {text : String} (h_line : e.line? = some number)
    (h : firstFault? [] (readings source) = some e)
    (h_text : (contents text).take number = (contents source).take number) :
    read text = .error e := by
  -- both texts begin with the same first lines, and these have the fault already
  have h_first := firstFault?_firstLines h_line h
  obtain ⟨rest, h_rest, -⟩ := exists_readings_firstLines number text
  apply read_of_firstFault?
  rw [h_rest, readings_firstLines_congr h_text]
  exact firstFault?_append_of_eq_some h_first rest

/-- The text made of the lines before a line at fault does not fail at a line, nor does that of the
first lines of a text without a fault: what is at fault among them is so in the whole text. -/
theorem line?_of_read_firstLines {n : Nat} {e' : ParseError}
    (h : ∀ e, firstFault? [] (readings source) = some e → ∀ number, e.line? = some number →
      n < number)
    (h_read : read (firstLines n source) = .error e') : e'.line? = none := by
  rw [Option.eq_none_iff_forall_ne_some]
  intro number h_line
  have h_fault := (read_eq_error_iff_of_line? h_line).1 h_read
  -- what is at fault among the first lines is at fault in the whole text
  obtain ⟨rest, h_rest, -⟩ := exists_readings_firstLines n source
  have h_source : firstFault? [] (readings source) = some e' := by
    rw [h_rest]
    exact firstFault?_append_of_eq_some h_fault rest
  have h_lt := h e' h_source number h_line
  -- its line is one of the first
  obtain ⟨r, h_r, h_number⟩ := exists_mem_of_firstFault? h_fault
  have h_le := number_le_of_mem_readings_firstLines h_r
  rw [h_line] at h_number
  cases h_number
  omega

/-- **The first line at fault** decides the error. When reading fails with an error about a line,
then it fails with the same error for every text whose lines up to that one say the same, whatever
follows; the text made of any of the lines before it does not fail at a line; and the line stands in
the text at the number that the error gives, says something, and has this fault after the lines
before it, all of which have a form. If a name is unknown there, mentions do not declare, and it is
the leftmost name of the line that no line before it lists. An error of the matrix means that no
line is at fault, in the whole text or in a text made of its first lines. -/
theorem error_at_first_fault (source : String) :
    (∀ e number, read source = .error e → e.line? = some number →
      (∀ text, (contents text).take number = (contents source).take number →
        read text = .error e) ∧
      (∀ n < number, ∀ e', read (firstLines n source) = .error e' → e'.line? = none) ∧
      (∃ line, 0 < number ∧ (lines source.toList)[number - 1]? = some line ∧
        content line ≠ []) ∧
      ∃ before form after earlier,
        readings source = before ++ (number, form) :: after ∧
        before.map Prod.snd = earlier.map some ∧
        faultAfter? earlier (number, form) = some e ∧
        ∀ name, e = .unknownVertex name number →
          ∃ line, form = some line ∧ (openingFlags earlier).auto = false ∧
            line.mentions.find? (· ∉ earlier.flatMap Line.listed) = some name) ∧
    ∀ fault, read source = .error (.matrix fault) →
      (∀ before r after, readings source = before ++ r :: after →
        faultAfter? (before.filterMap Prod.snd) r = none) ∧
      ∀ n e, read (firstLines n source) = .error e → e.line? = none := by
  constructor
  · -- everything is known of the first fault, which is the error
    intro e number h_read h_line
    have h_fault := (read_eq_error_iff_of_line? h_line).1 h_read
    obtain ⟨before, ⟨number', form⟩, after, h_readings, h_before, h_form⟩ :=
      exists_of_firstFault? h_fault
    obtain rfl : number' = number := by
      have h_number := line?_of_faultAfter? h_form
      rw [h_line] at h_number
      exact (Option.some.inj h_number).symm
    refine ⟨fun text h_text => read_eq_of_contents_take h_line h_fault h_text, ?_, ?_, ?_⟩
    · intro n h_n e' h_first
      refine line?_of_read_firstLines (fun e'' h_e'' number h_number => ?_) h_first
      -- the first fault of the source is the one at hand
      rw [h_fault] at h_e''
      cases h_e''
      rw [h_line] at h_number
      cases h_number
      exact h_n
    · -- its line is one of those that are kept, so it stands in the text and says something
      have h_mem : (number', form) ∈ readings source := by
        rw [h_readings]
        exact List.mem_append_right before List.mem_cons_self
      exact exists_line_of_mem_readings h_mem
    · -- the lines before it have no fault, and so each of them has a form
      refine ⟨before, form, after, before.filterMap Prod.snd, h_readings,
        map_snd_of_firstFault?_eq_none h_before, h_form, fun name h_name => ?_⟩
      rw [h_name] at h_form
      exact unknown_of_faultAfter? h_form
  · intro fault h_read
    -- an error of the matrix is about no line, so there is no fault among them
    have h_none := firstFault?_eq_none_of_read h_read rfl
    refine ⟨fun before r after h_readings => ?_, fun n e h_first => ?_⟩
    · rw [h_readings] at h_none
      exact faultAfter?_eq_none h_none
    · refine line?_of_read_firstLines (fun e' h_e' => ?_) h_first
      rw [h_none] at h_e'
      cases h_e'

/-- A source with an unknown name in its fifth line, where a comment and a blank line are counted,
and with a row after that. -/
private def unresolved : String := "-d\na, b // two\n\n// no more\na - b - d - c\n01"

/-- Another source that says the same up to its fifth line. -/
private def unresolvedAgain : String := "-d // directed\r\n a, b\n//\n\na - b - d - c //\n(a"

/-- The path in the fifth line fails for the name `d` in both sources, and the lines before it do
not fail. -/
theorem error_at_first_fault_unresolved :
    read unresolved = .error (.unknownVertex "d" 5) ∧
      (contents unresolvedAgain).take 5 = (contents unresolved).take 5 ∧
      read unresolvedAgain = .error (.unknownVertex "d" 5) ∧
      ∀ n < 5, ∀ e, read (firstLines n unresolved) = .error e → e.line? = none := by
  have h_read : read unresolved = .error (.unknownVertex "d" 5) := by decide +kernel
  have h_contents : (contents unresolvedAgain).take 5 = (contents unresolved).take 5 := by
    decide +kernel
  obtain ⟨h_same, h_first, -⟩ := (error_at_first_fault unresolved).1 _ 5 h_read rfl
  exact ⟨h_read, h_contents, h_same unresolvedAgain h_contents, h_first⟩

end Notation

end RingDiagram
