/-!
# Escaped attribute values

An attribute value stands between double quotes with four characters replaced by entities. Reading
the entities back in one pass from the left gives the value again, so no value can end its
attribute early.
-/

namespace RingDiagram.Svg

/-- How a character stands in an attribute value. -/
def escapeChar (c : Char) : List Char :=
  match c with
  | '&' => "&amp;".toList
  | '<' => "&lt;".toList
  | '>' => "&gt;".toList
  | '"' => "&quot;".toList
  | _ => [c]

/-- How a text stands in an attribute value. -/
def escape (text : List Char) : List Char :=
  text.flatMap escapeChar

/-- The text that stands in an attribute value. -/
def unescape : List Char → List Char
  | '&' :: 'a' :: 'm' :: 'p' :: ';' :: rest => '&' :: unescape rest
  | '&' :: 'l' :: 't' :: ';' :: rest => '<' :: unescape rest
  | '&' :: 'g' :: 't' :: ';' :: rest => '>' :: unescape rest
  | '&' :: 'q' :: 'u' :: 'o' :: 't' :: ';' :: rest => '"' :: unescape rest
  | c :: rest => c :: unescape rest
  | [] => []

/-- A character that does not begin an entity stands for itself. -/
theorem unescape_cons {c : Char} (plain : c ≠ '&') (rest : List Char) :
    unescape (c :: rest) = c :: unescape rest := by
  rw [unescape] <;> rintro - rfl <;> exact absurd rfl plain

/-- The entity of one character is read back, whatever follows. -/
theorem unescape_escapeChar (c : Char) (rest : List Char) :
    unescape (escapeChar c ++ rest) = c :: unescape rest := by
  -- the four characters by evaluation, all others because they stand for themselves
  by_cases plain : c ∈ ['&', '<', '>', '"']
  · simp only [List.mem_cons, List.not_mem_nil, or_false] at plain
    rcases plain with rfl | rfl | rfl | rfl <;> rfl
  · simp only [List.mem_cons, List.not_mem_nil, or_false, not_or] at plain
    have alone : escapeChar c = [c] := by
      unfold escapeChar
      split <;> simp_all
    rw [alone]
    exact unescape_cons plain.1 rest

/-- Reading an escaped text gives the text back. -/
theorem unescape_escape (text : List Char) : unescape (escape text) = text := by
  induction text with
  | nil => rfl
  | cons c rest ih =>
    rw [escape, List.flatMap_cons, unescape_escapeChar]
    exact congrArg (c :: ·) ih

end RingDiagram.Svg
