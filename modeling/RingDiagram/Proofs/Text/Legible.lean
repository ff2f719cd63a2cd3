import RingDiagram.Text.Quoted

/-!
# Legible texts

A text is legible if none of its characters is hidden. Line breaks of all kinds are hidden, so a
legible text stands on one line. Quoting makes every text legible (`legible_quoted`).
-/

namespace RingDiagram.Text

/-- All characters of the text show as themselves. -/
def Legible (text : List Char) : Prop :=
  ∀ c ∈ text, isHidden c = false

instance (text : List Char) : Decidable (Legible text) :=
  List.decidableBAll (fun c => isHidden c = false) text

/-- What holds of the characters between some texts holds of those of the whole if it holds of the
characters of the texts. -/
theorem forall_mem_intercalate_iff {P : Char → Prop} {between : List Char}
    (h : ∀ c ∈ between, P c) {texts : List (List Char)} :
    (∀ c ∈ between.intercalate texts, P c) ↔ ∀ text ∈ texts, ∀ c ∈ text, P c := by
  induction texts with
  | nil => simp
  | cons text texts ih =>
    cases texts with
    | nil => simp
    | cons next texts =>
      -- between two texts stands the separator, which has the property
      rw [List.forall_mem_cons, List.intercalate_cons_cons, List.forall_mem_append,
        List.forall_mem_append, ih]
      exact and_congr_left' (and_iff_left h)

/-- No line ends inside a legible text. -/
theorem Legible.newline_notMem {text : List Char} (h : Legible text) : '\n' ∉ text := by
  intro h_mem
  cases h '\n' h_mem

theorem Legible.append {xs ys : List Char} (h : Legible xs) (h' : Legible ys) :
    Legible (xs ++ ys) :=
  List.forall_mem_append.2 ⟨h, h'⟩

/-! ### Quoted texts -/

/-- The digits of a number are those below its base. -/
theorem exists_digit_of_mem_toDigits {base n : Nat} (h_base : 1 < base) {c : Char}
    (h : c ∈ Nat.toDigits base n) : ∃ d < base, c = d.digitChar := by
  -- the last digit is split off until the number is below the base
  induction n using Nat.strongRecOn with
  | ind n ih =>
    rw [Nat.toDigits_eq_if h_base] at h
    split at h
    · next h_lt => exact ⟨n, h_lt, List.mem_singleton.1 h⟩
    · next h_le =>
      rcases List.mem_append.1 h with h | h
      · exact ih (n / base) (Nat.div_lt_self (by omega) h_base) h
      · exact ⟨n % base, Nat.mod_lt n (by omega), List.mem_singleton.1 h⟩

theorem legible_hexadecimal (n : Nat) : Legible (Nat.toDigits 16 n) := by
  intro c h_c
  obtain ⟨d, h_d, rfl⟩ := exists_digit_of_mem_toDigits (by decide) h_c
  have h_all : ∀ d < 16, isHidden d.digitChar = false := by decide
  exact h_all d h_d

theorem legible_escaped (c : Char) : Legible (escaped c) := by
  unfold escaped
  split
  -- all other characters are escaped by fixed texts
  case h_7 =>
    split
    · exact ((by decide : Legible ['\\', 'u', '\x7b']).append (legible_hexadecimal _)).append
        (by decide)
    · next h =>
      intro d h_d
      rw [List.mem_singleton.1 h_d]
      exact Bool.eq_false_iff.2 h
  all_goals decide

/-- **Quoted texts are legible**, whatever they quote. -/
theorem legible_quoted (text : String) : Legible (quoted text).toList := by
  rw [quoted, String.toList_ofList]
  -- the quotes are around the text, and inside is one character after the other
  refine Legible.append (List.forall_mem_cons.2 ⟨by decide, fun c h_c => ?_⟩) (by decide)
  obtain ⟨d, -, h_d⟩ := List.mem_flatMap.1 h_c
  exact legible_escaped d c h_d

end RingDiagram.Text
