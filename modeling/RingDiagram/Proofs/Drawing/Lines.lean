import RingDiagram.Drawing.Description
import RingDiagram.Proofs.Decimal.Writing
import RingDiagram.Proofs.Text.Legible

/-!
# Lines of commands

A command is described by a legible text, whatever its paint (`Command.legible_describe`), so the
descriptions of some commands, each followed by a line break, are as many lines
(`splitOn_describeAll`).
-/

namespace RingDiagram

open Decimal Text

/-! ### Descriptions -/

/-- What numbers are written with shows as itself. -/
theorem isHidden_of_isNumeric (c : Char) (h : isNumeric c = true) : isHidden c = false := by
  -- the signs and the letter are looked at one by one
  simp only [isNumeric, Bool.or_eq_true, beq_iff_eq] at h
  rcases h with ((h_digit | rfl) | rfl) | rfl
  · -- the digits lie among the characters of ASCII that show
    obtain ⟨h_zero, h_nine⟩ : 48 ≤ c.toNat ∧ c.toNat ≤ 57 := Char.isDigit_iff_toNat.1 h_digit
    have h_ascii : c.toNat < 0x80 := by omega
    rw [isHidden, if_pos h_ascii, Bool.or_eq_false_iff, decide_eq_false_iff_not,
      beq_eq_false_iff_ne]
    omega
  all_goals decide

theorem legible_preciseText (x : Float) : Legible (preciseText x).toList := by
  rw [preciseText, String.toList_ofList]
  -- a number is written with such characters, or it is one of three words
  exact (Binary64.writtenAs_precise _).forall_mem isHidden_of_isNumeric
    (by decide : Legible nonFiniteTexts.flatten)

/-- A record is legible if its names and values are. -/
theorem legible_describeRecord {name : String} {fields : List (String × String)}
    (h_name : Legible name.toList)
    (h_fields : ∀ f ∈ fields, Legible f.1.toList ∧ Legible f.2.toList) :
    Legible (describeRecord name fields).toList := by
  -- between the fields are commas and blanks
  have h_inner : Legible (", ".intercalate (fields.map fun f => f.1 ++ ": " ++ f.2)).toList := by
    rw [String.toList_intercalate]
    refine (forall_mem_intercalate_iff (by decide : Legible ", ".toList)).2 fun text h_text => ?_
    rw [List.map_map, List.mem_map] at h_text
    obtain ⟨f, h_f, rfl⟩ := h_text
    simp only [Function.comp_apply, String.toList_append]
    exact ((h_fields f h_f).1.append (by decide)).append (h_fields f h_f).2
  simp only [describeRecord, String.toList_append]
  exact ((h_name.append (by decide)).append h_inner).append (by decide)

theorem Point.legible_describe (p : Point Float) : Legible p.describe.toList := by
  refine legible_describeRecord (by decide) ?_
  simp only [List.forall_mem_cons]
  exact ⟨⟨by decide, legible_preciseText p.x⟩, ⟨by decide, legible_preciseText p.y⟩, by simp⟩

theorem legible_points (points : List (Point Float)) :
    Legible ("[" ++ ", ".intercalate (points.map Point.describe) ++ "]").toList := by
  have h_inner : Legible (", ".intercalate (points.map Point.describe)).toList := by
    rw [String.toList_intercalate]
    refine (forall_mem_intercalate_iff (by decide : Legible ", ".toList)).2 fun text h_text => ?_
    rw [List.map_map, List.mem_map] at h_text
    obtain ⟨p, -, rfl⟩ := h_text
    exact p.legible_describe
  simp only [String.toList_append]
  exact (Legible.append (by decide) h_inner).append (by decide)

/-- **Commands are described legibly**, whatever they paint with. -/
theorem Command.legible_describe (c : Command Float) : Legible c.describe.toList := by
  -- each kind of command is a record of names and numbers, and of one quoted paint
  cases c
  all_goals
    refine legible_describeRecord (by decide) ?_
    simp only [List.forall_mem_cons, legible_quoted, legible_preciseText, Point.legible_describe,
      legible_points, and_true, List.not_mem_nil, false_implies, implies_true]
    decide

/-! ### Lines -/

/-- **Commands stand on lines of their own**: their descriptions, with a line break behind each, are
as many lines, and there is nothing behind the last line break. -/
theorem splitOn_describeAll (commands : List (Command Float)) :
    (String.join (commands.map fun c => c.describe ++ "\n")).toList.splitOn '\n' =
      commands.map (·.describe.toList) ++ [[]] := by
  rw [String.toList_join]
  induction commands with
  | nil => rfl
  | cons c commands ih =>
    -- the first line break is the one behind the first description
    have h_line := (Command.legible_describe c).newline_notMem
    rw [List.map_cons, List.flatMap_cons, String.toList_append, List.append_assoc]
    exact (List.splitOn_append_cons_self_of_not_mem h_line _).trans (congrArg _ ih)

end RingDiagram
