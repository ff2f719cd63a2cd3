import RingDiagram.Decimal.Shortest

/-!
# How numbers are written

A finite double is written with digits, a sign and a point, and in one of the three forms with the
letter of an exponent; any other double is written as a word (`Binary64.writtenAs_fixed`,
`Binary64.writtenAs_plain`, `Binary64.writtenAs_precise`). So the text of a number tells whether it
is finite (`WrittenAs.numeric_iff`), and there are few characters that it can hold at all
(`WrittenAs.forall_mem`).
-/

namespace RingDiagram.Decimal

/-- A character that finite numbers are written with. -/
def isNumeric (c : Char) : Bool :=
  c.isDigit || c == '-' || c == '.' || c == 'e'

/-- A text of such characters. -/
def Numeric (text : List Char) : Prop :=
  ∀ c ∈ text, isNumeric c = true

instance (text : List Char) : Decidable (Numeric text) :=
  List.decidableBAll (fun c => isNumeric c = true) text

/-- None of the other characters stands in the text. -/
def Avoids (others text : List Char) : Prop :=
  ∀ c ∈ text, c ∉ others

instance (others text : List Char) : Decidable (Avoids others text) :=
  List.decidableBAll (fun c => c ∉ others) text

/-- What is written for the doubles that are not finite. -/
def nonFiniteTexts : List (List Char) :=
  ["NaN".toList, "inf".toList, "-inf".toList]

/-- The text of a double: numeric if it is finite, and one of the words if not. -/
def WrittenAs (isFinite : Bool) (text : List Char) : Prop :=
  if isFinite then Numeric text else text ∈ nonFiniteTexts

/-- What a double stands for is a number. -/
def Binary64.isFinite : Binary64 → Bool
  | .finite .. => true
  | .nan | .infinite _ => false

/-! ### Parts of a number -/

namespace Numeric

variable {xs ys : List Char}

theorem nil : Numeric [] := by
  intro c h_c
  cases h_c

theorem cons {c : Char} (h_c : isNumeric c = true) (h : Numeric xs) : Numeric (c :: xs) :=
  List.forall_mem_cons.2 ⟨h_c, h⟩

theorem append (h : Numeric xs) (h' : Numeric ys) : Numeric (xs ++ ys) :=
  List.forall_mem_append.2 ⟨h, h'⟩

theorem of_subset (h : Numeric ys) (h_sub : xs ⊆ ys) : Numeric xs :=
  fun c h_c => h c (h_sub h_c)

theorem numeral (n : Nat) : Numeric (numeral n) := by
  intro c h_c
  have h_digit := Nat.isDigit_of_mem_toDigits (by decide) (by decide) h_c
  simp [isNumeric, h_digit]

theorem zeros (n : Nat) : Numeric (List.replicate n '0') := by
  intro c h_c
  rw [List.eq_of_mem_replicate h_c]
  decide

theorem signText (negative : Bool) : Numeric (signText negative) := by
  revert negative
  decide

/-- The digits of a shortest decimal are those of a numeral. -/
theorem digits_shortest (mantissa : Nat) (exponent : Int) :
    Numeric (shortest mantissa exponent).digits := by
  have h_of : ∀ coefficient power, Numeric (Expansion.of coefficient power).digits := by
    intro coefficient power
    -- the digits are those of the coefficient, without the zeros at its end
    refine (numeral coefficient).of_subset fun c h_c => ?_
    rw [Expansion.of, List.mem_reverse] at h_c
    exact List.mem_reverse.1 ((List.dropWhile_sublist _).subset h_c)
  unfold shortest
  dsimp only
  cases h : (List.range 17).findSome? _ with
  | none => exact numeral mantissa
  | some e =>
    -- it was found on one of the grids
    obtain ⟨i, -, h_i⟩ := List.exists_of_findSome?_eq_some h
    obtain ⟨coefficient, -, rfl⟩ := Option.map_eq_some_iff.1 h_i
    exact h_of coefficient _

variable {whole : List Char} {e : Expansion}

theorem positional (h_whole : Numeric whole) (h : Numeric e.digits) :
    Numeric (e.positional whole) := by
  unfold Expansion.positional
  dsimp only
  -- the point is before the digits, behind them or among them
  split
  · exact cons (by decide) (cons (by decide) ((zeros _).append h))
  · split
    · exact (h.append (zeros _)).append h_whole
    · have h_take := h.of_subset (List.take_subset e.point.toNat e.digits)
      have h_drop := h.of_subset (List.drop_subset e.point.toNat e.digits)
      exact h_take.append (cons (by decide) h_drop)

theorem scientific (h : Numeric e.digits) : Numeric e.scientific := by
  -- the point stands before the digits that are left, if there are any
  have h_fraction : Numeric (if (e.digits.drop 1).isEmpty then [] else '.' :: e.digits.drop 1) := by
    split
    · exact nil
    · exact cons (by decide) (h.of_subset (List.drop_subset 1 e.digits))
  have h_exponent : Numeric ('e' :: Decimal.signText (e.point - 1 < 0)) :=
    cons (by decide) (signText _)
  unfold Expansion.scientific
  exact (((h.of_subset (List.take_subset 1 e.digits)).append h_fraction).append h_exponent).append
    (numeral _)

end Numeric

/-! ### The three forms -/

/-- None of the words is numeric. -/
theorem not_numeric_of_mem_nonFiniteTexts : ∀ text ∈ nonFiniteTexts, ¬ Numeric text := by
  decide

theorem WrittenAs.numeric_iff {isFinite : Bool} {text : List Char} (h : WrittenAs isFinite text) :
    Numeric text ↔ isFinite = true := by
  cases isFinite with
  | true => exact iff_of_true h rfl
  | false => exact iff_of_false (not_numeric_of_mem_nonFiniteTexts text h) Bool.false_ne_true

/-- What holds of numeric characters and of the letters of the words holds of all. -/
theorem WrittenAs.forall_mem {isFinite : Bool} {text : List Char} (h : WrittenAs isFinite text)
    {P : Char → Prop} (h_numeric : ∀ c, isNumeric c = true → P c)
    (h_word : ∀ c ∈ nonFiniteTexts.flatten, P c) : ∀ c ∈ text, P c := by
  -- the text is numeric, or it is one of the words, and these have letters of their own
  cases isFinite with
  | true => exact fun c h_c => h_numeric c (h c h_c)
  | false => exact fun c h_c => h_word c (List.mem_flatten.2 ⟨text, h, h_c⟩)

theorem WrittenAs.avoids {isFinite : Bool} {text : List Char} (h : WrittenAs isFinite text)
    (others : List Char) (h_numeric : others.any isNumeric = false)
    (h_word : Avoids others nonFiniteTexts.flatten) : Avoids others text := by
  refine h.forall_mem (fun c h_c h_other => ?_) h_word
  exact List.any_eq_false.1 h_numeric c h_other h_c

namespace Binary64

theorem writtenAs_infinite (negative : Bool) :
    WrittenAs false (signText negative ++ "inf".toList) := by
  cases negative with
  | true => exact (by decide : "-inf".toList ∈ nonFiniteTexts)
  | false => exact (by decide : "inf".toList ∈ nonFiniteTexts)

/-- **With a fixed number of decimal places.** -/
theorem writtenAs_fixed (places : Nat) (x : Binary64) : WrittenAs x.isFinite (x.fixed places) := by
  cases x with
  | nan => exact (by decide : "NaN".toList ∈ nonFiniteTexts)
  | infinite negative => exact writtenAs_infinite negative
  | finite negative mantissa exponent =>
    -- the sign, the whole part, the point, and the decimal places with zeros before them
    refine (Numeric.signText negative).append ((Numeric.numeral _).append (.cons (by decide) ?_))
    exact (Numeric.zeros _).append (Numeric.numeral _)

/-- **As a shortest positional decimal.** -/
theorem writtenAs_plain (x : Binary64) : WrittenAs x.isFinite x.plain := by
  cases x with
  | nan => exact (by decide : "NaN".toList ∈ nonFiniteTexts)
  | infinite negative => exact writtenAs_infinite negative
  | finite negative mantissa exponent =>
    refine (Numeric.signText negative).append ?_
    split
    · -- zero is written by itself, and all else by its digits
      decide
    · exact Numeric.positional .nil (Numeric.digits_shortest mantissa exponent)

/-- **As a shortest decimal with a point or an exponent.** -/
theorem writtenAs_precise (x : Binary64) : WrittenAs x.isFinite x.precise := by
  cases x with
  | nan => exact (by decide : "NaN".toList ∈ nonFiniteTexts)
  | infinite negative => exact writtenAs_infinite negative
  | finite negative mantissa exponent =>
    refine (Numeric.signText negative).append ?_
    split
    · decide
    · have h_digits := Numeric.digits_shortest mantissa exponent
      dsimp only
      -- large and small numbers have an exponent, and the others a point
      split
      · exact h_digits.scientific
      · exact Numeric.positional (by decide) h_digits

end Binary64

end RingDiagram.Decimal
