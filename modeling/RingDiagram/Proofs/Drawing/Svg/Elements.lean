import RingDiagram.Proofs.Drawing.Atomicity
import RingDiagram.Proofs.Drawing.Svg.Reader

/-!
# Elements of commands

Every command has an element but an arc that sweeps next to nothing (`element?_eq_none_iff`). The
paint of a command is the value of one attribute of its element, its stroke if it has one and its
fill otherwise, and of nothing else: a command in another paint has the element in another paint
(`element?_repainted`), and all other values are plain (`plain_of_element?`).

The elements of a document are those of the commands that were drawn on it, in order
(`Document.elements_afterHistory`).
-/

namespace RingDiagram

namespace Command

/-- An arc that sweeps next to nothing. -/
def vanishes : Command Float → Bool
  | arc _ _ startAngle endAngle _ _ => Svg.sweep startAngle endAngle < Scalar.tolerance
  | _ => false

variable {α : Type}

/-- What the command paints with. -/
def paint : Command α → String
  | background paint => paint
  | circle _ _ paint => paint
  | line _ _ paint _ => paint
  | arc _ _ _ _ paint _ => paint
  | ring _ _ paint _ => paint
  | polygon _ paint => paint

/-- The command with another paint. -/
def repainted (paint : String) : Command α → Command α
  | background _ => .background paint
  | circle center radius _ => .circle center radius paint
  | line start finish _ thickness => .line start finish paint thickness
  | arc center radius startAngle endAngle _ thickness =>
    .arc center radius startAngle endAngle paint thickness
  | ring center radius _ thickness => .ring center radius paint thickness
  | polygon points _ => .polygon points paint

@[simp] theorem isFinite_repainted [Scalar α] (paint : String) (c : Command α) :
    (c.repainted paint).isFinite = c.isFinite := by
  cases c <;> rfl

@[simp] theorem vanishes_repainted (paint : String) (c : Command Float) :
    (c.repainted paint).vanishes = c.vanishes := by
  cases c <;> rfl

end Command

namespace Svg

open Decimal

/-! ### Which commands have an element -/

variable {width height : Float} {c : Command Float} {e : Element}

/-- A command has no element if it is an arc that vanishes. -/
theorem element?_eq_none_iff : element? width height c = none ↔ c.vanishes = true := by
  -- the sweep of an arc is what is asked, and of the others nothing is
  cases c with
  | arc center radius startAngle endAngle paint thickness => simp [element?, Command.vanishes]
  | background | circle | line | ring | polygon => simp [element?, Command.vanishes]

/-- The elements of some commands are those of the ones that do not vanish, in order. -/
theorem map_some_filterMap_element? (width height : Float) (commands : List (Command Float)) :
    (commands.filterMap (element? width height)).map some =
      (commands.filter (!·.vanishes)).map (element? width height) := by
  induction commands with
  | nil => rfl
  | cons c commands ih =>
    -- a command without an element is passed over on both sides
    cases h : element? width height c with
    | none =>
      have h_vanishes := element?_eq_none_iff.1 h
      rw [List.filterMap_cons_none h, List.filter_cons_of_neg (by simp [h_vanishes]), ih]
    | some e =>
      have h_shown : c.vanishes = false := by
        rw [Bool.eq_false_iff]
        intro h_vanishes
        rw [element?_eq_none_iff.2 h_vanishes] at h
        cases h
      rw [List.filterMap_cons_some h, List.filter_cons_of_pos (by simp [h_shown]), List.map_cons,
        List.map_cons, ih, h]

/-- The names in an element of a command are names. -/
theorem named_of_element? (h : element? width height c = some e) : e.Named := by
  -- the names of a kind of element do not depend on the command
  cases c with
  | background paint =>
    cases h
    exact (by decide : ∀ name ∈ ["rect", "width", "height", "fill"], IsName name)
  | circle center radius paint =>
    cases h
    exact (by decide : ∀ name ∈ ["circle", "cx", "cy", "r", "fill"], IsName name)
  | line start finish paint thickness =>
    cases h
    exact (by decide : ∀ name ∈ ["line", "x1", "y1", "x2", "y2", "fill", "stroke", "stroke-width"],
      IsName name)
  | arc center radius startAngle endAngle paint thickness =>
    rw [element?] at h
    split at h
    · cases h
    · cases h
      exact (by decide : ∀ name ∈ ["path", "d", "fill", "stroke", "stroke-width"], IsName name)
  | ring center radius paint thickness =>
    cases h
    exact (by decide : ∀ name ∈ ["circle", "cx", "cy", "r", "fill", "stroke", "stroke-width"],
      IsName name)
  | polygon points paint =>
    cases h
    exact (by decide : ∀ name ∈ ["polygon", "points", "fill"], IsName name)

/-! ### Paints -/

namespace Element

/-- The name of the attribute that holds the paint: the stroke of an element that has one, the fill
of any other. -/
def paintName (e : Element) : String :=
  if "stroke" ∈ e.attributes.map Attribute.name then "stroke" else "fill"

/-- What the element is painted with. -/
def paint? (e : Element) : Option String :=
  (e.attributes.find? (·.name = e.paintName)).map Attribute.value

/-- The element with another paint. -/
def repainted (paint : String) (e : Element) : Element where
  name := e.name
  attributes := e.attributes.map fun a => if a.name = e.paintName then ⟨a.name, paint⟩ else a

end Element

/-- **Paints stay in their attribute**: the element of a command in another paint is the element of
the command in that paint. -/
theorem element?_repainted (width height : Float) (paint : String) (c : Command Float) :
    element? width height (c.repainted paint) =
      (element? width height c).map (Element.repainted paint) := by
  cases c with
  | arc center radius startAngle endAngle old thickness =>
    -- the sweep that decides about the element has nothing to do with the paint
    rw [Command.repainted, element?, element?]
    split
    · rfl
    · rfl
  | background | circle | line | ring | polygon => rfl

/-- The paint of a command is that of its element. -/
theorem paint?_of_element? (h : element? width height c = some e) : e.paint? = some c.paint := by
  -- the paint stands in the attribute that is looked up for it
  cases c with
  | arc center radius startAngle endAngle paint thickness =>
    rw [element?] at h
    split at h
    · cases h
    · cases h
      rfl
  | background | circle | line | ring | polygon =>
    cases h
    rfl

/-! ### Other values -/

theorem plain_coordinate (x : Float) : Plain (coordinate x).toList := by
  rw [coordinate, fixedText, String.toList_ofList]
  exact plain_of_writtenAs (Binary64.writtenAs_fixed 2 _)

theorem plain_plainText (x : Float) : Plain (plainText x).toList := by
  rw [plainText, String.toList_ofList]
  exact plain_of_writtenAs (Binary64.writtenAs_plain _)

theorem plain_coordinates {between : String} (h : Plain between.toList) (p : Point Float) :
    Plain (coordinates between p).toList := by
  rw [coordinates, String.toList_append, String.toList_append]
  exact ((plain_coordinate p.x).append h).append (plain_coordinate p.y)

theorem plain_arcPath (center : Point Float) (radius startAngle endAngle : Float) :
    Plain (arcPath center radius startAngle endAngle).toList := by
  -- the two flags of an arc are digits
  have h_large : Plain (if Scalar.pi < sweep startAngle endAngle then "1" else "0").toList := by
    split
    · decide
    · decide
  have h_space : Plain " ".toList := by decide
  simp only [arcPath, String.toList_append, plain_append_iff, plain_coordinate,
    plain_coordinates h_space, h_large, h_space, and_true]
  decide

theorem plain_points (points : List (Point Float)) :
    Plain (" ".intercalate (points.map (coordinates ","))).toList := by
  rw [String.toList_intercalate]
  -- the points are joined by blanks, and each of them is two numbers and a comma
  refine (by decide : Plain " ".toList).intercalate fun text h_text => ?_
  rw [List.map_map, List.mem_map] at h_text
  obtain ⟨p, -, rfl⟩ := h_text
  exact plain_coordinates (by decide) p

/-- The attributes of a stroke are plain but for the paint. -/
theorem plain_of_mem_strokeAttributes {paint : String} {thickness : Float} {a : Attribute}
    (h : a ∈ strokeAttributes paint thickness) (h_name : a.name ≠ "stroke") :
    Plain a.value.toList := by
  -- of the three attributes of a stroke only the second holds the paint
  simp only [strokeAttributes, List.mem_cons, List.not_mem_nil, or_false] at h
  rcases h with rfl | rfl | rfl
  · exact (by decide : Plain "none".toList)
  · exact absurd rfl h_name
  · exact plain_coordinate thickness

theorem plain_of_mem_circleAttributes {center : Point Float} {radius : Float} {a : Attribute}
    (h : a ∈ circleAttributes center radius) : Plain a.value.toList := by
  simp only [circleAttributes, List.mem_cons, List.not_mem_nil, or_false] at h
  rcases h with rfl | rfl | rfl
  · exact plain_coordinate center.x
  · exact plain_coordinate center.y
  · exact plain_coordinate radius

/-- **All other values are plain**, so they stand in the element as they are. -/
theorem plain_of_element? (h : element? width height c = some e) {a : Attribute}
    (h_a : a ∈ e.attributes) (h_name : a.name ≠ e.paintName) : Plain a.value.toList := by
  -- the attribute with the paint is the one that the name excludes
  cases c with
  | background paint =>
    cases h
    simp only [List.mem_cons, List.not_mem_nil, or_false] at h_a
    rcases h_a with rfl | rfl | rfl
    · exact plain_plainText width
    · exact plain_plainText height
    · exact absurd rfl h_name
  | circle center radius paint =>
    cases h
    rcases List.mem_append.1 h_a with h_a | h_a
    · exact plain_of_mem_circleAttributes h_a
    · rw [List.mem_singleton.1 h_a] at h_name
      exact absurd rfl h_name
  | line start finish paint thickness =>
    cases h
    rcases List.mem_append.1 h_a with h_a | h_a
    · simp only [List.mem_cons, List.not_mem_nil, or_false] at h_a
      rcases h_a with rfl | rfl | rfl | rfl <;> exact plain_coordinate _
    · exact plain_of_mem_strokeAttributes h_a h_name
  | arc center radius startAngle endAngle paint thickness =>
    rw [element?] at h
    -- an arc whose ends meet has no element
    split at h
    · cases h
    · cases h
      rcases List.mem_cons.1 h_a with rfl | h_a
      · exact plain_arcPath center radius startAngle endAngle
      · exact plain_of_mem_strokeAttributes h_a h_name
  | ring center radius paint thickness =>
    cases h
    -- the attributes of a circle without its paint, then those of a stroke
    rcases List.mem_append.1 h_a with h_a | h_a
    · exact plain_of_mem_circleAttributes h_a
    · exact plain_of_mem_strokeAttributes h_a h_name
  | polygon points paint =>
    cases h
    simp only [List.mem_cons, List.not_mem_nil, or_false] at h_a
    rcases h_a with rfl | rfl
    · exact plain_points points
    · exact absurd rfl h_name

/-! ### Documents -/

namespace Document

/-- A document holds the commands that the requests to it came to. -/
theorem afterHistory_eq (width height : Float) (history : List (Request Float)) :
    afterHistory ({ width, height } : Document) history =
      extend { width, height } (history.flatMap (Request.commands width height)) :=
  records.afterHistory_eq _ history

/-- **The elements of a document** are those of the commands that were drawn and do not vanish. -/
theorem elements_afterHistory (width height : Float) (history : List (Request Float)) :
    (afterHistory ({ width, height } : Document) history).elements.toList.map some =
      ((history.flatMap (Request.commands width height)).filter (!·.vanishes)).map
        (element? width height) := by
  -- the elements are made command by command as they are drawn
  rw [← map_some_filterMap_element?, afterHistory_eq]
  simp [extend]

/-- The root of a document is that of its size. -/
theorem root_afterHistory (width height : Float) (history : List (Request Float)) :
    (afterHistory ({ width, height } : Document) history).root =
      root { width, height } := by
  rw [afterHistory_eq]
  rfl

end Document

end Svg

end RingDiagram
