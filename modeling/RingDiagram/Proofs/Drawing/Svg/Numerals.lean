import RingDiagram.Proofs.Decimal.Finite
import RingDiagram.Proofs.Drawing.Naming
import RingDiagram.Proofs.Drawing.Sources
import RingDiagram.Proofs.Drawing.Svg.Containment

/-!
# Numbers in documents

The values in a document are numbers with something between them, but for names and paints
(`Element.numerals`). A number can be seen to be finite by its characters alone
(`Decimal.WrittenAs.numeric_iff`), so a document can be looked at as it is read back.

Its commands were let through because they are finite, but not all that is written was looked at:
the size of the surface, the thickness of rings, and the ends of arcs. The size shows in the place
of every vertex (`Network.isFinite_of_place`), so it is looked at all the same if a vertex is drawn
(`Model.isFinite_size`). What is left is `Slips`, and `numerals_exact` says that a document has a
number that is not finite for these reasons and for no others.
-/

namespace RingDiagram

open Decimal Scalar

namespace Svg

/-! ### Numbers in a value -/

/-- What stands between the numbers of a value. -/
def separators : List Char :=
  [' ', ',', 'M', 'A']

/-- The numbers of a value, as they are written. -/
def numerals (value : List Char) : List (List Char) :=
  (value.splitOnP (separators.contains ·)).filter (!·.isEmpty)

/-- The numbers of an attribute: a namespace and a paint have none. -/
def Attribute.numerals (a : Attribute) : List (List Char) :=
  if a.name ∈ ["xmlns", "fill", "stroke"] then [] else Svg.numerals a.value.toList

/-- The numbers of an element. -/
def Element.numerals (e : Element) : List (List Char) :=
  e.attributes.flatMap Attribute.numerals

/-- All numbers of the value are finite. -/
def Definite (value : List Char) : Prop :=
  ∀ n ∈ numerals value, Numeric n

instance (value : List Char) : Decidable (Definite value) :=
  List.decidableBAll Numeric (numerals value)

/-- All numbers of the element are finite. -/
def Element.Definite (e : Element) : Prop :=
  ∀ n ∈ e.numerals, Numeric n

/-- Parts hold what is not split at. -/
theorem forall_mem_splitOnP_iff {p P : Char → Prop} [DecidablePred p] {text : List Char} :
    (∀ part ∈ text.splitOnP (p ·), ∀ c ∈ part, P c) ↔ ∀ c ∈ text, p c ∨ P c := by
  induction text with
  | nil => simp
  | cons d text ih =>
    -- a separator ends a part, and any other character is put in front of the first part
    rw [List.splitOnP_cons_eq_if_modifyHead, List.forall_mem_cons, ← ih]
    by_cases h : p d
    · simp [h]
    · obtain ⟨part, parts, h_parts⟩ := List.exists_cons_of_ne_nil (List.splitOnP_ne_nil (p ·) text)
      simp [h, h_parts, and_assoc]

/-- Whether the numbers of a value are finite can be told by its characters. -/
theorem definite_iff {value : List Char} :
    Definite value ↔ ∀ c ∈ value, c ∈ separators ∨ isNumeric c = true := by
  unfold Definite numerals Numeric
  simp only [List.contains_eq_mem]
  rw [← forall_mem_splitOnP_iff]
  -- an empty part holds no character, so it makes no difference to leave it out
  refine ⟨fun h part h_part c h_c => ?_, fun h n h_n => h n (List.mem_filter.1 h_n).1⟩
  refine h part (List.mem_filter.2 ⟨h_part, ?_⟩) c h_c
  simp [List.ne_nil_of_mem h_c]

theorem definite_append_iff {value value' : List Char} :
    Definite (value ++ value') ↔ Definite value ∧ Definite value' := by
  simp only [definite_iff]
  exact List.forall_mem_append

/-- What is written for a double is definite if the double is finite. -/
theorem definite_iff_of_writtenAs {isFinite : Bool} {text : List Char}
    (h : WrittenAs isFinite text) : Definite text ↔ isFinite = true := by
  -- it has no separator in it, so it is one number
  have h_one : Avoids separators text := h.avoids separators (by decide) (by decide)
  rw [definite_iff, ← h.numeric_iff]
  exact forall₂_congr fun c h_c => or_iff_right (h_one c h_c)

theorem definite_coordinate {x : Float} :
    Definite (coordinate x).toList ↔ Scalar.isFinite x = true := by
  rw [coordinate, fixedText, String.toList_ofList,
    definite_iff_of_writtenAs (Binary64.writtenAs_fixed 2 _), isFinite_ofFloat]
  rfl

theorem definite_plainText {x : Float} :
    Definite (plainText x).toList ↔ Scalar.isFinite x = true := by
  rw [plainText, String.toList_ofList, definite_iff_of_writtenAs (Binary64.writtenAs_plain _),
    isFinite_ofFloat]
  rfl

theorem definite_coordinates {between : String} (h : Definite between.toList) {p : Point Float} :
    Definite (coordinates between p).toList ↔ p.isFinite = true := by
  simp only [coordinates, String.toList_append, definite_append_iff, definite_coordinate, h,
    and_true, Point.isFinite, Bool.and_eq_true]

theorem definite_points {points : List (Point Float)} :
    Definite (" ".intercalate (points.map (coordinates ","))).toList ↔
      ∀ p ∈ points, p.isFinite = true := by
  have h_space : ∀ c ∈ " ".toList, c ∈ separators ∨ isNumeric c = true :=
    definite_iff.1 (by decide)
  have h_comma : Definite ",".toList := by decide
  -- the points are joined by blanks, so each of them is looked at by itself
  rw [String.toList_intercalate, definite_iff, Text.forall_mem_intercalate_iff h_space]
  simp only [← definite_iff, List.map_map, List.forall_mem_map, Function.comp_apply,
    definite_coordinates h_comma]

/-- The numbers of a path are its ends, its radius and three flags. -/
theorem definite_arcPath {center : Point Float} {radius startAngle endAngle : Float} :
    Definite (arcPath center radius startAngle endAngle).toList ↔
      (pointAt center radius startAngle).isFinite = true ∧ Scalar.isFinite radius = true ∧
        (pointAt center radius endAngle).isFinite = true := by
  have h_between : ∀ value ∈ ["M ", " ", " A ", " 0 ", "0", "1", " 1 "],
      Definite value.toList := by
    decide
  simp only [List.forall_mem_cons] at h_between
  obtain ⟨h_M, h_space, h_A, h_rotation, h_zero, h_one, h_clockwise, -⟩ := h_between
  have h_large : Definite (if pi < sweep startAngle endAngle then "1" else "0").toList := by
    split
    · exact h_one
    · exact h_zero
  -- what stands between the numbers is made of separators and digits, so the numbers decide
  simp only [arcPath, String.toList_append, definite_append_iff, definite_coordinate,
    definite_coordinates h_space, h_M, h_space, h_A, h_rotation, h_large, h_clockwise]
  tauto

/-! ### Numbers in an element -/

/-- The numbers that the element of a command is written with: those that the command carries, but
an arc is written with the points that it goes from and to, and a background with the size of the
document. -/
def figures (width height : Float) : Command Float → List Float
  | .background _ => [width, height]
  | .arc center radius startAngle endAngle _ thickness =>
    (pointAt center radius startAngle).numbers ++ [radius] ++
      (pointAt center radius endAngle).numbers ++ [thickness]
  | c => c.numbers

/-- The numbers among them that were not looked at. -/
def unchecked (width height : Float) : Command Float → List Float
  | .background _ => [width, height]
  | .arc center radius startAngle endAngle _ _ =>
    (pointAt center radius startAngle).numbers ++ (pointAt center radius endAngle).numbers
  | .ring _ _ _ thickness => [thickness]
  | _ => []

variable {width height : Float} {c : Command Float} {e : Element}

/-- A command is written with numbers that were looked at and all those that were not. -/
theorem mem_figures {x : Float} :
    (x ∈ figures width height c → x ∈ c.checked ∨ x ∈ unchecked width height c) ∧
      (x ∈ unchecked width height c → x ∈ figures width height c) := by
  -- all numbers of a command are looked at, but for those of a ring and of an arc
  cases c with
  | background | circle | line | polygon =>
    simp +contextual [figures, unchecked, Command.checked, Command.numbers]
  | ring =>
    simp only [figures, unchecked, Command.checked, Command.numbers, List.mem_append, List.mem_cons,
      List.not_mem_nil, or_false]
    tauto
  | arc =>
    simp only [figures, unchecked, Command.checked, Command.numbers, List.mem_append, List.mem_cons,
      List.not_mem_nil, or_false]
    tauto

/-- The numbers that a finite command is written with are finite if those are that were not looked
at. -/
theorem forall_figures_iff (h : c.isFinite = true) :
    (∀ x ∈ figures width height c, Scalar.isFinite x = true) ↔
      ∀ x ∈ unchecked width height c, Scalar.isFinite x = true := by
  constructor
  · exact fun h_figures x h_x => h_figures x (mem_figures.2 h_x)
  · intro h_unchecked x h_x
    -- a number was looked at, and then it is finite, or it was not
    rcases mem_figures.1 h_x with h_checked | h_x
    · exact Command.isFinite_iff.1 h x h_checked
    · exact h_unchecked x h_x

theorem Element.definite_iff :
    e.Definite ↔ ∀ a ∈ e.attributes, a.name ∉ ["xmlns", "fill", "stroke"] →
      Svg.Definite a.value.toList := by
  unfold Element.Definite Element.numerals
  rw [List.forall_mem_flatMap]
  refine forall₂_congr fun a _ => ?_
  by_cases h : a.name ∈ ["xmlns", "fill", "stroke"]
  · simp [Attribute.numerals, h]
  · simp [Attribute.numerals, h, Svg.Definite]

/-- **An element is definite** if it is written with finite numbers. -/
theorem definite_of_element?_iff (h : element? width height c = some e) :
    e.Definite ↔ ∀ x ∈ figures width height c, Scalar.isFinite x = true := by
  rw [Element.definite_iff]
  -- each kind of command is written with its numbers in its own attributes
  cases c with
  | background paint =>
    cases h
    simp [figures, definite_plainText]
  | circle center radius paint =>
    cases h
    simp [figures, circleAttributes, definite_coordinate, Command.numbers, Point.numbers]
  | line start finish paint thickness =>
    cases h
    simp [figures, strokeAttributes, definite_coordinate, Command.numbers, Point.numbers]
  | arc center radius startAngle endAngle paint thickness =>
    rw [element?] at h
    split at h
    · cases h
    · cases h
      simp [figures, strokeAttributes, definite_coordinate, definite_arcPath, Point.isFinite,
        Point.numbers, and_assoc]
  | ring center radius paint thickness =>
    cases h
    simp [figures, circleAttributes, strokeAttributes, definite_coordinate, Command.numbers,
      Point.numbers]
  | polygon points paint =>
    cases h
    simp only [figures, Command.numbers, List.forall_mem_flatMap, ← Point.isFinite_iff,
      ← definite_points]
    simp

/-- The root is definite if the size of the document is finite. -/
theorem definite_root_iff {d : Document} :
    d.root.Definite ↔ Scalar.isFinite d.width = true ∧ Scalar.isFinite d.height = true := by
  have h_box : Definite
      ("0 0 " ++ plainText d.width ++ " " ++ plainText d.height).toList ↔
        Scalar.isFinite d.width = true ∧ Scalar.isFinite d.height = true := by
    have h_origin : Definite "0 0 ".toList := by decide
    have h_space : Definite " ".toList := by decide
    simp only [String.toList_append, definite_append_iff, definite_plainText, h_origin, h_space,
      true_and, and_true]
  rw [Element.definite_iff]
  change (∀ a ∈ [_, Attribute.mk "width" _, Attribute.mk "height" _, Attribute.mk "viewBox" _], _) ↔ _
  -- the namespace has no number, and the other three are made of the two numbers
  simp only [List.forall_mem_cons, h_box, definite_plainText]
  simp +contextual

/-! ### The size of a surface -/

end Svg

/-- The centre of a ring is finite only if the middle of the surface is. -/
theorem isFinite_of_balancedCenter {slots : Nat} {radius : Float} {nominal : Point Float}
    (h : (balancedCenter slots radius nominal).isFinite = true) : nominal.isFinite = true := by
  unfold balancedCenter at h
  -- an even ring is around the nominal centre itself
  split at h
  · exact h
  · split at h
    · exact h
    · -- an odd ring is moved down from there
      obtain ⟨h_x, h_y⟩ := Bool.and_eq_true_iff.1 h
      exact Bool.and_eq_true_iff.2 ⟨h_x, isFinite_of_isFinite_add h_y⟩

/-- A place is finite only on a surface of finite size. -/
theorem Network.isFinite_of_place {net : Network} {settings : Settings Float}
    {width height : Float} {slot : Nat}
    (h : (net.place settings width height slot).isFinite = true) :
    Scalar.isFinite width = true ∧ Scalar.isFinite height = true := by
  obtain ⟨h_x, h_y⟩ := Bool.and_eq_true_iff.1 h
  -- a place is the centre and something added, so it is finite only if the centre is
  have h_center : (net.ringCenter settings width height).isFinite = true :=
    Bool.and_eq_true_iff.2 ⟨isFinite_of_isFinite_add h_x, isFinite_of_isFinite_add h_y⟩
  obtain ⟨h_width, h_height⟩ := Bool.and_eq_true_iff.1 (isFinite_of_balancedCenter h_center)
  exact ⟨isFinite_of_isFinite_div h_width, isFinite_of_isFinite_div h_height⟩

/-- **The size is looked at** if a vertex is drawn. -/
theorem Model.isFinite_size {m : Model} {settings : Settings Float} {width height : Float}
    {layout : Layout Float} (h : m.layout settings width height = .ok layout)
    (h_visible : 0 < m.visibleCount)
    (h_finite : ∀ c ∈ layout.commands settings, c.isFinite = true) :
    Scalar.isFinite width = true ∧ Scalar.isFinite height = true := by
  obtain ⟨net, h_net, h_layout⟩ := bind_eq_ok_iff.1 h
  -- a vertex that is shown has a slot, and its place there
  obtain ⟨name, h_name, h_shown⟩ := List.countP_pos_iff.1 h_visible
  obtain ⟨slot, h_slot, rfl⟩ := List.getElem_of_mem h_name
  have h_placed : layout.vertices[slot]? = some ⟨slot, m.vertices[slot],
      net.place settings width height slot, !invisibleName m.vertices[slot]⟩ := by
    rw [net.layout_eq] at h_layout
    obtain ⟨routes, -, rfl⟩ := map_eq_ok_iff.1 h_layout
    refine (Network.getElem?_placed slot).trans ?_
    rw [(Network.parts_of_ofModel? h_net).2.1, List.getElem?_map, List.getElem?_eq_getElem h_slot]
    rfl
  -- the disc of the vertex is in its place
  have h_disc : Command.circle (net.place settings width height slot) settings.vertexRadius
      settings.vertexColor ∈ layout.commands settings := by
    refine List.mem_cons_of_mem _ (List.mem_append_right _ (List.mem_flatMap.2
      ⟨_, List.mem_of_getElem? h_placed, ?_⟩))
    rw [PlacedVertex.commands, if_pos h_shown]
    exact List.mem_cons_self
  exact Network.isFinite_of_place (Bool.and_eq_true_iff.1 (h_finite _ h_disc)).1

namespace Svg

/-! ### Documents of source texts -/

/-- A document of finite commands has them all. -/
theorem extend_eq_drawn {width height : Float} {commands : List (Command Float)}
    (h : ∀ c ∈ commands, c.isFinite = true) :
    Document.extend { width, height } commands = drawn width height commands := by
  rw [drawn, Document.afterHistory_eq, flatMap_commands, List.filter_eq_self.2 h]

variable {source text : String} {settings : Settings Float} {width height : Float}

/-- The document of a source text is that of a layout, and its commands were looked at. -/
theorem exists_layout_of_ofSource (h : ofSource source settings width height = .ok text) :
    ∃ m layout, Notation.read source = .ok m ∧ m.layout settings width height = .ok layout ∧
      (∀ c ∈ layout.commands settings, c.isFinite = true) ∧
      text = (drawn width height (layout.commands settings)).text := by
  rw [ofSource_eq] at h
  -- the document is that of the commands, and they were made from a layout and let through
  obtain ⟨commands, h_commands, rfl⟩ := map_eq_ok_iff.1 h
  obtain ⟨m, h_read, h_drawing⟩ := commandsOf_eq_ok_iff.1 h_commands
  rw [m.drawing_eq] at h_drawing
  obtain ⟨layout, h_layout, h_allFinite⟩ := bind_eq_ok_iff.1 h_drawing
  obtain ⟨rfl, h_finite⟩ := allFinite_eq_ok_iff.1 h_allFinite
  exact ⟨m, layout, h_read, h_layout, h_finite, congrArg Document.text (extend_eq_drawn h_finite)⟩

/-- How a number that is not finite gets into the document of a layout. -/
inductive Slips (m : Model) (settings : Settings Float) (width height : Float)
    (commands : List (Command Float)) : Prop
  /-- No vertex is drawn, so the size is not looked at. -/
  | size (h_none : m.visibleCount = 0)
    (h_size : ¬ (Scalar.isFinite width = true ∧ Scalar.isFinite height = true))
  /-- The thickness of a ring is not looked at. -/
  | thickness {center : Point Float} {radius : Float} {paint : String}
    (h_ring : .ring center radius paint settings.edgeThickness ∈ commands)
    (h_thickness : ¬ Scalar.isFinite settings.edgeThickness = true)
  /-- The ends of an arc are computed after it was looked at. -/
  | arcEnd {center : Point Float} {radius startAngle endAngle thickness angle : Float}
    {paint : String}
    (h_arc : .arc center radius startAngle endAngle paint thickness ∈ shown commands)
    (h_angle : angle ∈ [startAngle, endAngle])
    (h_end : ¬ (pointAt center radius angle).isFinite = true)

/-- A command with an element has it in its document. -/
theorem exists_element_of_mem {commands : List (Command Float)} {c : Command Float}
    (h : c ∈ shown commands) :
    ∃ e ∈ (drawn width height commands).elements.toList, element? width height c = some e := by
  have h_map : element? width height c ∈ (shown commands).map (element? width height) :=
    List.mem_map_of_mem h
  -- the elements of the document are those of the commands that show
  rw [← map_some_elements_drawn] at h_map
  obtain ⟨e, h_e, h_some⟩ := List.mem_map.1 h_map
  exact ⟨e, h_e, h_some.symm⟩

/-- An element of a document is definite if the numbers are finite that were not looked at. -/
theorem definite_iff_of_mem_shown {commands : List (Command Float)} {c : Command Float}
    {e : Element} (h_c : c ∈ shown commands) (h_e : element? width height c = some e) :
    e.Definite ↔ ∀ x ∈ unchecked width height c, Scalar.isFinite x = true := by
  obtain ⟨h_finite, -⟩ := Bool.and_eq_true_iff.1 (List.mem_filter.1 h_c).2
  rw [definite_of_element?_iff h_e, forall_figures_iff h_finite]

/-- A document is definite throughout if the numbers are finite that were not looked at; a
background is among its commands. -/
theorem exists_not_definite_iff {commands : List (Command Float)} {paint : String}
    (h : .background paint ∈ shown commands) :
    (∃ e ∈ (drawn width height commands).root :: (drawn width height commands).elements.toList,
        ¬ e.Definite) ↔
      ∃ c ∈ shown commands, ¬ ∀ x ∈ unchecked width height c, Scalar.isFinite x = true := by
  constructor
  · rintro ⟨e, h_e, h_not⟩
    rcases List.mem_cons.1 h_e with rfl | h_e
    · -- the root is written with the same numbers as the background
      -- the background has an element, so its numbers tell about the root as well
      refine ⟨_, h, fun h_all => h_not ?_⟩
      rw [drawn, Document.root_afterHistory, definite_root_iff]
      simpa [unchecked] using h_all
    · obtain ⟨c, h_c, h_element⟩ := exists_command_of_mem h_e
      exact ⟨c, h_c, fun h_all => h_not ((definite_iff_of_mem_shown h_c h_element).2 h_all)⟩
  · rintro ⟨c, h_c, h_not⟩
    obtain ⟨e, h_e, h_element⟩ := exists_element_of_mem h_c
    exact ⟨e, List.mem_cons_of_mem _ h_e, mt (definite_iff_of_mem_shown h_c h_element).1 h_not⟩

/-- What was not looked at of an arc are the points at its ends. -/
theorem forall_unchecked_arc_iff {center : Point Float}
    {radius startAngle endAngle thickness : Float} {paint : String} :
    (∀ x ∈ unchecked width height (.arc center radius startAngle endAngle paint thickness),
        Scalar.isFinite x = true) ↔
      ∀ angle ∈ [startAngle, endAngle], (pointAt center radius angle).isFinite = true := by
  simp only [unchecked, List.forall_mem_append, List.forall_mem_cons, Point.isFinite_iff]
  simp

section

variable {m : Model} {layout : Layout Float}
  (h_layout : m.layout settings width height = .ok layout)
  (h_finite : ∀ c ∈ layout.commands settings, c.isFinite = true)
include h_layout h_finite

/-- **Numbers slip in** as those of commands that were not looked at. -/
theorem slips_iff :
    Slips m settings width height (layout.commands settings) ↔
      ∃ c ∈ shown (layout.commands settings),
        ¬ ∀ x ∈ unchecked width height c, Scalar.isFinite x = true := by
  constructor
  · intro h
    -- each way to slip in names a command and a number of it that was not looked at
    cases h with
    | size h_none h_size =>
      refine ⟨.background settings.background,
        List.mem_filter.2 ⟨List.mem_cons_self, rfl⟩, fun h_all => h_size ?_⟩
      simpa [unchecked] using h_all
    | thickness h_ring h_thickness =>
      refine ⟨_, List.mem_filter.2 ⟨h_ring, ?_⟩, fun h_all => h_thickness ?_⟩
      · exact Bool.and_eq_true_iff.2 ⟨h_finite _ h_ring, rfl⟩
      · exact h_all _ List.mem_cons_self
    | arcEnd h_arc h_angle h_end =>
      exact ⟨_, h_arc, fun h_all => h_end (forall_unchecked_arc_iff.1 h_all _ h_angle)⟩
  · rintro ⟨c, h_c, h_not⟩
    have h_mem : c ∈ layout.commands settings := (List.mem_filter.1 h_c).1
    -- only three kinds of commands have numbers that were not looked at
    cases c with
    | background paint =>
      -- were a vertex drawn, its place would have told that the size is not finite
      have h_size : ¬ (Scalar.isFinite width = true ∧ Scalar.isFinite height = true) := by
        simpa [unchecked] using h_not
      refine .size (Nat.eq_zero_of_not_pos fun h_visible => h_size ?_) h_size
      exact Model.isFinite_size h_layout h_visible h_finite
    | ring center radius paint thickness =>
      -- all rings are as thick as the edges
      obtain rfl := thickness_of_ring_mem_commands h_mem
      exact .thickness h_mem (by simpa [unchecked] using h_not)
    | arc center radius startAngle endAngle paint thickness =>
      rw [forall_unchecked_arc_iff] at h_not
      push Not at h_not
      obtain ⟨angle, h_angle, h_end⟩ := h_not
      exact .arcEnd h_c h_angle h_end
    | circle | line | polygon => exact absurd (by simp [unchecked]) h_not

end

/-- **Numbers in the document of a source text.** The text is read back as the root and the elements
of the commands that show. A number in it is not finite for one of three reasons and for no other:
no vertex is drawn and the size is not finite, a ring is drawn and the thickness of edges is not
finite, or an arc ends in a point that is not finite, although its centre, radius and angles are. -/
theorem numerals_exact (h : ofSource source settings width height = .ok text) :
    ∃ m commands root elements, Notation.read source = .ok m ∧
      m.drawing settings width height = .ok commands ∧
      Document.read? text.toList = some (root, elements) ∧
      elements.map some = (shown commands).map (element? width height) ∧
      ((∃ e ∈ root :: elements, ∃ n ∈ e.numerals, ¬ Numeric n) ↔
        Slips m settings width height commands) := by
  obtain ⟨m, layout, h_read, h_layout, h_finite, rfl⟩ := exists_layout_of_ofSource h
  -- the layout is drawn as its commands, which were all let through
  have h_drawing : m.drawing settings width height = .ok (layout.commands settings) := by
    rw [m.drawing_eq, h_layout]
    exact allFinite_eq_ok_iff.2 ⟨rfl, h_finite⟩
  have h_background : .background settings.background ∈ shown (layout.commands settings) :=
    List.mem_filter.2 ⟨List.mem_cons_self, rfl⟩
  refine ⟨m, layout.commands settings, _, _, h_read, h_drawing,
    Document.read?_text named_of_mem_drawn, map_some_elements_drawn _ _ _, ?_⟩
  rw [slips_iff h_layout h_finite, ← exists_not_definite_iff h_background]
  simp [Element.Definite]

/-! ### A vertex that is not drawn -/

/-- A vertex that is laid out and not drawn. -/
private def hidden : String := "_a"

private def hiddenModel : Model := { vertices := ["_a"] }

/-- A document of nothing but its background. -/
private def bare (width height : String) : String :=
  "<svg xmlns=\"http://www.w3.org/2000/svg\" width=\"" ++ width ++ "\" height=\"" ++ height ++
    "\" viewBox=\"0 0 " ++ width ++ " " ++ height ++ "\">\n<rect width=\"" ++ width ++
    "\" height=\"" ++ height ++ "\" fill=\"white\"/>\n</svg>\n"

private theorem read_hidden : Notation.read hidden = .ok hiddenModel := by
  decide +kernel

/-- On a surface of any size only the background is drawn. -/
private theorem ofSource_hidden (width height : Float) :
    ofSource hidden .standard width height =
      .ok (drawn width height [.background "white"]).text := by
  have h_commands : commandsOf hidden (.standard : Settings Float) width height =
      .ok [.background "white"] :=
    commandsOf_eq_ok_iff.2 ⟨hiddenModel, read_hidden, rfl⟩
  rw [ofSource_eq, h_commands]
  rfl

/-- A document is made of a vertex that is not drawn although the width is undefined, and the width
is written into it. -/
theorem undefined_width_written :
    ofSource hidden .standard (0 / 0) 300 = .ok (bare "NaN" "300") ∧
      ∃ root elements, Document.read? (bare "NaN" "300").toList = some (root, elements) ∧
        ∃ n ∈ root.numerals, ¬ Numeric n := by
  have h_text : (drawn (0 / 0) 300 [.background "white"]).text = bare "NaN" "300" := by
    decide +kernel
  refine ⟨h_text ▸ ofSource_hidden _ _, _, _, h_text ▸ Document.read?_text named_of_mem_drawn,
    "NaN".toList, ?_, by decide⟩
  rw [drawn, Document.root_afterHistory]
  decide +kernel

/-- An infinite height is written as well, as no vertex is drawn. -/
theorem numerals_exact_hidden :
    ofSource hidden .standard 300 (1 / 0) = .ok (bare "300" "inf") ∧
      ∃ root elements, Document.read? (bare "300" "inf").toList = some (root, elements) ∧
        ∃ e ∈ root :: elements, ∃ n ∈ e.numerals, ¬ Numeric n := by
  have h_text : (drawn 300 (1 / 0) [.background "white"]).text = bare "300" "inf" := by
    decide +kernel
  have h_document := h_text ▸ ofSource_hidden 300 (1 / 0)
  obtain ⟨m, commands, root, elements, h_read, -, h_document', -, h_slips⟩ :=
    numerals_exact h_document
  obtain rfl := Except.ok.inj (h_read.symm.trans read_hidden)
  exact ⟨h_document, root, elements, h_document', h_slips.2 (.size rfl (by decide +kernel))⟩

end Svg

end RingDiagram
