import RingDiagram.Drawing.Svg.Document
import RingDiagram.Proofs.Decimal.Writing
import RingDiagram.Proofs.Text.Legible

/-!
# Escaped text

What `escape` does to a text, beside that `unescape` undoes it:

* character by character or the four characters one after the other, ampersands first, comes to the
  same (`escape_eq_replaceAll`): the ampersands of entities are not replaced again;
* an escaped text holds none of the characters that end an attribute or a tag (`notMem_escape`), and
  its ampersands all begin an entity (`exists_entity_of_escape`);
* a text without special characters stays as it is (`Plain.escape_eq_self`), and numbers are written
  without them (`plain_of_writtenAs`), so only paints are ever changed.
-/

namespace RingDiagram.Svg

open Decimal

/-- The characters that do not stand for themselves in an attribute value. -/
def specials : List Char := ['&', '<', '>', '"']

/-- What stands for them. -/
def entities : List (List Char) :=
  ["&amp;".toList, "&lt;".toList, "&gt;".toList, "&quot;".toList]

/-! ### One character -/

/-- Other characters stand for themselves. -/
theorem escapeChar_of_notMem {c : Char} (h : c ∉ specials) : escapeChar c = [c] := by
  simp only [specials, List.mem_cons, List.not_mem_nil, or_false, not_or] at h
  obtain ⟨h_amp, h_lt, h_gt, h_quot⟩ := h
  unfold escapeChar
  split
  · exact absurd rfl h_amp
  · exact absurd rfl h_lt
  · exact absurd rfl h_gt
  · exact absurd rfl h_quot
  · rfl

/-- An entity stands for a special character, with one ampersand at its front. -/
theorem exists_entity_of_mem {c : Char} (h : c ∈ specials) :
    ∃ name, escapeChar c = '&' :: name ∧ '&' :: name ∈ entities ∧ '&' ∉ name := by
  simp only [specials, List.mem_cons, List.not_mem_nil, or_false] at h
  rcases h with rfl | rfl | rfl | rfl
  · exact ⟨"amp;".toList, by decide⟩
  · exact ⟨"lt;".toList, by decide⟩
  · exact ⟨"gt;".toList, by decide⟩
  · exact ⟨"quot;".toList, by decide⟩

/-- No entity holds a character that ends an attribute or a tag. -/
theorem notMem_of_mem_entities {c : Char} (h_c : c ∈ ['<', '>', '"']) :
    ∀ entity ∈ entities, c ∉ entity := by
  simp only [List.mem_cons, List.not_mem_nil, or_false] at h_c
  rcases h_c with rfl | rfl | rfl <;> decide

/-! ### Whole texts -/

/-- **An escaped text** ends no attribute and no tag. -/
theorem notMem_escape {c : Char} (h_c : c ∈ ['<', '>', '"']) (text : List Char) :
    c ∉ escape text := by
  intro h
  obtain ⟨d, -, h_d⟩ := List.mem_flatMap.1 h
  by_cases h_special : d ∈ specials
  · obtain ⟨name, h_entity, h_mem, -⟩ := exists_entity_of_mem h_special
    rw [h_entity] at h_d
    exact notMem_of_mem_entities h_c _ h_mem h_d
  · -- the character stands for itself, so it would have to be special
    rw [escapeChar_of_notMem h_special, List.mem_singleton] at h_d
    subst h_d
    exact h_special (List.mem_cons_of_mem '&' h_c)

/-- An ampersand in what stands for a character is at the front of an entity. -/
theorem entity_of_escapeChar {c : Char} {before after : List Char}
    (h : escapeChar c = before ++ '&' :: after) : before = [] ∧ escapeChar c ∈ entities := by
  by_cases h_special : c ∈ specials
  · obtain ⟨name, h_entity, h_mem, h_name⟩ := exists_entity_of_mem h_special
    refine ⟨?_, h_entity ▸ h_mem⟩
    rw [h_entity] at h
    cases before with
    | nil => rfl
    | cons b before =>
      -- a second ampersand would stand in the name
      obtain ⟨-, h_tail⟩ := List.cons.inj h
      rw [h_tail] at h_name
      exact absurd (List.mem_append_right before List.mem_cons_self) h_name
  · -- a character that stands for itself is no ampersand, as ampersands are special
    have h_amp : '&' ∈ escapeChar c := by
      rw [h]
      exact List.mem_append_right before List.mem_cons_self
    rw [escapeChar_of_notMem h_special, List.mem_singleton] at h_amp
    subst h_amp
    exact absurd List.mem_cons_self h_special

/-- **Ampersands** of an escaped text begin an entity. -/
theorem exists_entity_of_escape {text before after : List Char}
    (h : escape text = before ++ '&' :: after) : ∃ entity ∈ entities, entity <+: '&' :: after := by
  induction text generalizing before with
  | nil => simp [escape] at h
  | cons c rest ih =>
    rw [escape, List.flatMap_cons, List.append_eq_append_iff] at h
    -- the ampersand is behind what stands for the first character, or in it
    rcases h with ⟨between, -, h_rest⟩ | ⟨part, h_part, h_after⟩
    · exact ih h_rest
    · cases part with
      | nil =>
        have h_rest : escape rest = [] ++ '&' :: after := h_after.symm
        exact ih h_rest
      -- it is in what stands for the first character, so at its front
      | cons d part =>
        obtain ⟨rfl, h_after⟩ := List.cons.inj h_after
        obtain ⟨rfl, h_mem⟩ := entity_of_escapeChar h_part
        refine ⟨escapeChar c, h_mem, ?_⟩
        rw [h_part, h_after]
        exact ⟨_, rfl⟩

/-- A text with one character replaced wherever it stands. -/
def replaceAll (c : Char) (replacement text : List Char) : List Char :=
  text.flatMap fun d => if d = c then replacement else [d]

/-- **Four replacements** of whole texts, one after the other, come to one of each character. -/
theorem escape_eq_replaceAll (text : List Char) :
    escape text = replaceAll '"' "&quot;".toList (replaceAll '>' "&gt;".toList
      (replaceAll '<' "&lt;".toList (replaceAll '&' "&amp;".toList text))) := by
  unfold replaceAll escape
  rw [List.flatMap_assoc, List.flatMap_assoc, List.flatMap_assoc]
  -- both sides put something in the place of each character
  congr 1
  funext c
  by_cases h : c ∈ specials
  · simp only [specials, List.mem_cons, List.not_mem_nil, or_false] at h
    rcases h with rfl | rfl | rfl | rfl <;> rfl
  · -- no replacement touches any other character
    rw [escapeChar_of_notMem h]
    simp only [specials, List.mem_cons, List.not_mem_nil, or_false, not_or] at h
    obtain ⟨h_amp, h_lt, h_gt, h_quot⟩ := h
    rw [if_neg h_amp, List.flatMap_singleton, if_neg h_lt, List.flatMap_singleton, if_neg h_gt,
      List.flatMap_singleton, if_neg h_quot]

/-! ### Texts that stay as they are -/

/-- A text without special characters. -/
def Plain (text : List Char) : Prop :=
  ∀ c ∈ text, c ∉ specials

-- the characters of the text are looked at, not all that there are
instance (text : List Char) : Decidable (Plain text) :=
  List.decidableBAll (fun c => c ∉ specials) text

namespace Plain

variable {xs ys : List Char}

theorem append (h : Plain xs) (h' : Plain ys) : Plain (xs ++ ys) :=
  List.forall_mem_append.2 ⟨h, h'⟩

theorem intercalate {texts : List (List Char)} (h : Plain xs)
    (h_texts : ∀ text ∈ texts, Plain text) : Plain (xs.intercalate texts) :=
  (Text.forall_mem_intercalate_iff h).2 h_texts

/-- **A plain text** stays as it is. -/
theorem escape_eq_self (h : Plain xs) : escape xs = xs := by
  induction xs with
  | nil => rfl
  | cons c xs ih =>
    obtain ⟨h_c, h_xs⟩ := List.forall_mem_cons.1 h
    rw [escape, List.flatMap_cons, escapeChar_of_notMem h_c]
    exact congrArg (c :: ·) (ih h_xs)

end Plain

theorem plain_append_iff {xs ys : List Char} : Plain (xs ++ ys) ↔ Plain xs ∧ Plain ys :=
  List.forall_mem_append

/-! ### Numbers -/

/-- The text of a number is plain, be it finite or not. -/
theorem plain_of_writtenAs {isFinite : Bool} {text : List Char} (h : WrittenAs isFinite text) :
    Plain text :=
  h.avoids specials (by decide) (by decide)

end RingDiagram.Svg
