import RingDiagram.Proofs.Drawing.Svg.Escaping

/-!
# Reading markup back

A reader of markup that goes by the characters alone: an attribute value ends at the next double
quote, a tag where its attributes are followed by its ending, and the elements of a document where
no further tag begins. It is as strict about names as it is liberal about values, which may be
anything up to the quote.

What is written is read back, whatever the values: an attribute (`Attribute.read?_write`), a tag
(`Element.readTag?_beginning`) and a document (`Document.read?_text`), each with any text behind it,
so nothing of a value leaks into what follows. The names must be names (`Element.Named`).
`Document.count_text` counts the angle brackets.
-/

namespace RingDiagram.Svg

/-! ### The reader -/

/-- The characters of the names of elements and attributes. -/
def isNameChar (c : Char) : Bool :=
  c.isAlphanum || c == '-'

/-- The text up to the next double quote, and the text behind that. -/
def readValue? : List Char → Option (List Char × List Char)
  | [] => none
  | c :: rest =>
    if c = '"' then some ([], rest) else (readValue? rest).map fun r => (c :: r.1, r.2)

/-- The attribute that a text begins with, and the rest of the text. -/
def Attribute.read? : List Char → Option (Attribute × List Char)
  | ' ' :: text =>
    match text.dropWhile isNameChar with
    | '=' :: '"' :: rest =>
      (readValue? rest).map fun r =>
        (⟨String.ofList (text.takeWhile isNameChar), String.ofList (unescape r.1)⟩, r.2)
    | _ => none
  | _ => none

/-- What a text begins with, as often as it can be read, and the rest of the text. -/
def readMany {β : Type} (read? : List Char → Option (β × List Char)) (text : List Char) :
    List β × List Char :=
  match read? text with
  | none => ([], text)
  | some (b, rest) =>
    -- what takes nothing away from the text would be read for ever
    if rest.length < text.length then ((b :: (readMany read? rest).1), (readMany read? rest).2)
    else ([], text)
termination_by text.length

/-- The element whose tag a text begins with, if the tag has this ending, and the rest of the
text. -/
def Element.readTag? (ending : List Char) : List Char → Option (Element × List Char)
  | '<' :: text =>
    let attributes := readMany Attribute.read? (text.dropWhile isNameChar)
    if ending.isPrefixOf attributes.2 then
      some (⟨String.ofList (text.takeWhile isNameChar), attributes.1⟩,
        attributes.2.drop ending.length)
    else none
  | _ => none

/-- The root of a document and the elements in it, each in a line. -/
def Document.read? (text : List Char) : Option (Element × List Element) :=
  match Element.readTag? ">\n".toList text with
  | none => none
  | some (root, rest) =>
    let elements := readMany (Element.readTag? "/>\n".toList) rest
    if elements.2 = "</svg>\n".toList then some (root, elements.1) else none

/-! ### Names and values -/

/-- The text may be the name of an element or an attribute. -/
def IsName (name : String) : Prop :=
  ∀ c ∈ name.toList, isNameChar c = true

instance (name : String) : Decidable (IsName name) :=
  List.decidableBAll (fun c => isNameChar c = true) name.toList

/-- The names of the element and its attributes may be such. -/
def Element.Named (e : Element) : Prop :=
  ∀ name ∈ e.name :: e.attributes.map Attribute.name, IsName name

theorem Element.Named.attribute {e : Element} (h : e.Named) {a : Attribute}
    (h_a : a ∈ e.attributes) : IsName a.name :=
  h a.name (List.mem_cons_of_mem e.name (List.mem_map_of_mem h_a))

/-- A name ends before a character that is in no name. -/
theorem span_name {name rest : List Char} (h_name : ∀ c ∈ name, isNameChar c = true)
    (h_rest : rest.head?.any isNameChar = false) :
    (name ++ rest).takeWhile isNameChar = name ∧ (name ++ rest).dropWhile isNameChar = rest := by
  have h_stop : rest.takeWhile isNameChar = [] ∧ rest.dropWhile isNameChar = rest := by
    cases rest with
    | nil => exact ⟨rfl, rfl⟩
    -- the first character is in no name, so nothing is taken
    | cons c rest =>
      have h_c : ¬ isNameChar c = true := by simpa using h_rest
      exact ⟨List.takeWhile_cons_of_neg h_c, List.dropWhile_cons_of_neg h_c⟩
  rw [List.takeWhile_append_of_pos h_name, List.dropWhile_append_of_pos h_name, h_stop.1, h_stop.2,
    List.append_nil]
  exact ⟨rfl, rfl⟩

/-- A value without double quotes ends at the one behind it. -/
theorem readValue?_append {value : List Char} (h : '"' ∉ value) (rest : List Char) :
    readValue? (value ++ '"' :: rest) = some (value, rest) := by
  induction value with
  | nil => rfl
  | cons c value ih =>
    -- the quotes before the last one belong to the value, and there are none
    rw [List.mem_cons, not_or] at h
    rw [List.cons_append, readValue?, if_neg fun h_c => h.1 h_c.symm, ih h.2]
    rfl

/-- **An attribute is read back**, whatever its value and whatever follows. -/
theorem Attribute.read?_write {a : Attribute} (h : IsName a.name) (rest : List Char) :
    Attribute.read? (a.write ++ rest) = some (a, rest) := by
  have h_text : a.write ++ rest = ' ' :: (a.name.toList ++
      '=' :: '"' :: (escape a.value.toList ++ '"' :: rest)) := by
    simp [Attribute.write]
  -- the name ends at the equals sign and the value at its quote, as there is none in the value
  have h_equals : ('=' :: '"' :: (escape a.value.toList ++ '"' :: rest)).head?.any isNameChar =
      false := rfl
  have h_quote : '"' ∉ escape a.value.toList := notMem_escape (by decide) _
  obtain ⟨h_take, h_drop⟩ := span_name h h_equals
  rw [h_text, Attribute.read?, h_take, h_drop]
  change (readValue? (escape a.value.toList ++ '"' :: rest)).map _ = _
  rw [readValue?_append h_quote, Option.map_some, unescape_escape, String.ofList_toList,
    String.ofList_toList]

/-! ### Tags -/

/-- **Many are read back** if each of them is, whatever follows, and what follows them all is none
of them. -/
theorem readMany_flatMap {β : Type} {read? : List Char → Option (β × List Char)}
    {write : β → List Char} {bs : List β} {last : List Char}
    (h_read : ∀ b ∈ bs, ∀ rest, read? (write b ++ rest) = some (b, rest))
    (h_write : ∀ b ∈ bs, write b ≠ []) (h_last : read? last = none) :
    readMany read? (bs.flatMap write ++ last) = (bs, last) := by
  induction bs with
  | nil => rw [List.flatMap_nil, List.nil_append, readMany, h_last]
  | cons b bs ih =>
    have h_rest := ih (fun c h_c => h_read c (List.mem_cons_of_mem b h_c))
      fun c h_c => h_write c (List.mem_cons_of_mem b h_c)
    have h_pos := List.length_pos_iff.2 (h_write b List.mem_cons_self)
    rw [List.flatMap_cons, List.append_assoc, readMany, h_read b List.mem_cons_self]
    have h_shorter : (bs.flatMap write ++ last).length <
        (write b ++ (bs.flatMap write ++ last)).length := by
      have h_length := @List.length_append _ (write b) (bs.flatMap write ++ last)
      omega
    dsimp only
    rw [if_pos h_shorter, h_rest]

/-- **A tag is read back**, whatever the values in it and whatever follows. -/
theorem Element.readTag?_beginning {e : Element} (h : e.Named) (c : Char) (ending : List Char)
    (h_c : isNameChar c = false) (h_space : c ≠ ' ') (rest : List Char) :
    Element.readTag? (c :: ending) (e.beginning ++ (c :: ending ++ rest)) = some (e, rest) := by
  have h_text : e.beginning ++ (c :: ending ++ rest) = '<' :: (e.name.toList ++
      (e.attributes.flatMap Attribute.write ++ (c :: ending ++ rest))) := by
    simp [Element.beginning]
  have h_attributes : readMany Attribute.read?
      (e.attributes.flatMap Attribute.write ++ (c :: ending ++ rest)) =
        (e.attributes, c :: ending ++ rest) := by
    apply readMany_flatMap
    · exact fun a h_a => Attribute.read?_write (h.attribute h_a)
    · exact fun a _ => List.cons_ne_nil _ _
    · -- the ending is no attribute, as it begins with no space
      rw [List.cons_append, Attribute.read?]
      intro text h_text
      exact absurd (List.cons.inj h_text).1 h_space
  -- the name ends at the space of the first attribute, or at the ending if there is none
  have h_head : (e.attributes.flatMap Attribute.write ++ (c :: ending ++ rest)).head?.any
      isNameChar = false := by
    cases h_list : e.attributes with
    -- no attribute, and the ending does not begin with a character of names
    | nil => simpa using h_c
    | cons a attributes => rfl
  obtain ⟨h_take, h_drop⟩ := span_name (h e.name List.mem_cons_self) h_head
  rw [h_text, Element.readTag?, h_take, h_drop, h_attributes]
  simp

/-! ### Documents -/

namespace Document

/-- The text of a document: the tag of its root, a tag for each element, and the tag that closes the
root, each in a line. -/
theorem toList_text (d : Document) :
    d.text.toList = d.root.openTag ++ '\n' ::
      (d.elements.toList.flatMap (fun e => e.write ++ ['\n']) ++ "</svg>\n".toList) := by
  unfold text lines
  rw [String.toList_ofList, List.flatMap_cons, List.flatMap_append, List.flatMap_map]
  simp

theorem named_root (d : Document) : d.root.Named := by
  change ∀ name ∈ ["svg", "xmlns", "width", "height", "viewBox"], IsName name
  decide

/-- No element begins where the root is closed. -/
theorem readTag?_close : Element.readTag? "/>\n".toList "</svg>\n".toList = none := by
  have h_text : "</svg>\n".toList = '<' :: "/svg>\n".toList := rfl
  have h_name : "/svg>\n".toList.dropWhile isNameChar = "/svg>\n".toList := by decide
  have h_attributes : readMany Attribute.read? "/svg>\n".toList = ([], "/svg>\n".toList) := by
    rw [readMany]
    rfl
  -- there is neither a name nor an attribute, nor the ending of an element
  rw [h_text, Element.readTag?, h_name, h_attributes]
  decide

/-- **A document is read back**: its root and its elements, whatever the values in them. -/
theorem read?_text {d : Document} (h : ∀ e ∈ d.elements.toList, e.Named) :
    Document.read? d.text.toList = some (d.root, d.elements.toList) := by
  have h_elements : readMany (Element.readTag? "/>\n".toList)
      (d.elements.toList.flatMap (fun e => e.write ++ ['\n']) ++ "</svg>\n".toList) =
        (d.elements.toList, "</svg>\n".toList) := by
    apply readMany_flatMap
    · intro e h_e rest
      -- the tag of an element ends with a slash, so this is the first character of its ending
      have h_line : e.write ++ ['\n'] ++ rest = e.beginning ++ ('/' :: ">\n".toList ++ rest) := by
        simp [Element.write]
      rw [h_line]
      exact Element.readTag?_beginning (h e h_e) '/' ">\n".toList rfl (by decide) rest
    · exact fun e _ => List.cons_ne_nil _ _
    · exact readTag?_close
  have h_root : Element.readTag? ">\n".toList d.text.toList = some (d.root,
      d.elements.toList.flatMap (fun e => e.write ++ ['\n']) ++ "</svg>\n".toList) := by
    have h_line : ∀ rest, d.root.openTag ++ '\n' :: rest =
        d.root.beginning ++ ('>' :: "\n".toList ++ rest) := by
      simp [Element.openTag]
    rw [toList_text, h_line]
    exact Element.readTag?_beginning d.named_root '>' "\n".toList rfl (by decide) _
  rw [Document.read?, h_root]
  dsimp only
  rw [h_elements]
  exact if_pos rfl

end Document

/-! ### Angle brackets -/

/-- The angle brackets. -/
def brackets : List Char := ['<', '>']

theorem mem_brackets_iff {c : Char} : c ∈ brackets ↔ c = '<' ∨ c = '>' := by
  simp [brackets]

theorem IsName.notMem {name : String} (h : IsName name) {c : Char} (h_c : c ∈ brackets) :
    c ∉ name.toList := by
  have h_false : isNameChar c = false := by
    rcases mem_brackets_iff.1 h_c with rfl | rfl
    · decide
    · decide
  intro h_name
  rw [h c h_name] at h_false
  cases h_false

/-- No attribute has an angle bracket in it, whatever its value. -/
theorem Attribute.notMem_write {a : Attribute} (h : IsName a.name) {c : Char}
    (h_c : c ∈ brackets) : c ∉ a.write := by
  have h_rest : c ∉ [' ', '=', '"'] := by
    rcases mem_brackets_iff.1 h_c with rfl | rfl
    · decide
    · decide
  have h_value : c ∉ escape a.value.toList := notMem_escape (List.mem_append_left ['"'] h_c) _
  have h_name := h.notMem h_c
  simp only [List.mem_cons, List.not_mem_nil, or_false, not_or] at h_rest
  simp [Attribute.write, h_value, h_name, h_rest]

/-- **A tag is a single one**: between the brackets at its ends there are no others. -/
theorem Element.notMem_tail_beginning {e : Element} (h : e.Named) {c : Char}
    (h_c : c ∈ brackets) : c ∉ e.name.toList ++ e.attributes.flatMap Attribute.write := by
  rw [List.mem_append, not_or]
  refine ⟨(h e.name List.mem_cons_self).notMem h_c, fun h_mem => ?_⟩
  obtain ⟨a, h_a, h_write⟩ := List.mem_flatMap.1 h_mem
  exact Attribute.notMem_write (h.attribute h_a) h_c h_write

/-- The tag of an element up to its last attribute has the one bracket that it begins with. -/
theorem Element.count_beginning {e : Element} (h : e.Named) {c : Char} (h_c : c ∈ brackets) :
    e.beginning.count c = ['<'].count c := by
  have h_none := List.count_eq_zero.2 (e.notMem_tail_beginning h h_c)
  have h_split : e.beginning =
      ['<'] ++ (e.name.toList ++ e.attributes.flatMap Attribute.write) := by
    simp [Element.beginning]
  rw [h_split, List.count_append, h_none, Nat.add_zero]

/-- A character that stands once in each part stands as often as there are parts. -/
theorem count_flatMap_of_one {β : Type} {f : β → List Char} {c : Char} {bs : List β}
    (h : ∀ b ∈ bs, (f b).count c = 1) : (bs.flatMap f).count c = bs.length := by
  induction bs with
  | nil => rfl
  | cons b bs ih =>
    obtain ⟨h_b, h_bs⟩ := List.forall_mem_cons.1 h
    rw [List.flatMap_cons, List.count_append, h_b, ih h_bs, List.length_cons, Nat.add_comm]

/-- **The brackets of a document** are those of its tags: one of each kind for every element, and
two for the root. -/
theorem Document.count_text {d : Document} (h : ∀ e ∈ d.elements.toList, e.Named) {c : Char}
    (h_c : c ∈ brackets) : d.text.toList.count c = 2 + d.elements.size := by
  obtain ⟨h_open, h_self, h_close⟩ : ['<'].count c + ">\n".toList.count c = 1 ∧
      ['<'].count c + "/>\n".toList.count c = 1 ∧ "</svg>\n".toList.count c = 1 := by
    rcases mem_brackets_iff.1 h_c with rfl | rfl
    · decide
    · decide
  -- the root has a bracket of each kind in its own tag and one in the tag that closes it
  have h_elements : (d.elements.toList.flatMap fun e => e.write ++ ['\n']).count c =
      d.elements.toList.length := by
    apply count_flatMap_of_one
    intro e h_e
    have h_line : e.write ++ ['\n'] = e.beginning ++ "/>\n".toList := by simp [Element.write]
    rw [h_line, List.count_append, Element.count_beginning (h e h_e) h_c, h_self]
  have h_line : ∀ rest, d.root.openTag ++ '\n' :: rest =
      d.root.beginning ++ (">\n".toList ++ rest) := by
    simp [Element.openTag]
  rw [toList_text, h_line, List.count_append, List.count_append, List.count_append,
    Element.count_beginning d.named_root h_c, h_elements, h_close, Array.length_toList]
  omega

end RingDiagram.Svg
