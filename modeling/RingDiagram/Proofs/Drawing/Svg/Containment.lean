import RingDiagram.Proofs.Drawing.Svg.Elements

/-!
# Paints stay in their attributes

A paint is any text at all, and it is written into a document. It stays where it is put: the
document is read back as the elements of the commands that show (`map_some_elements_drawn`), and
each has the paint of its command in the one attribute that is for it (`map_paint?_drawn`).
Documents of commands that differ in nothing but paints are read back as elements that differ in
nothing but paints (`map_repainted_drawn`). `paints_contained` puts this together with what is known
of escaped texts.
-/

namespace RingDiagram

namespace Svg

/-! ### Documents of commands -/

/-- The document of some commands, of which those that are not finite were refused. -/
def drawn (width height : Float) (commands : List (Command Float)) : Document :=
  afterHistory { width, height } (commands.map Request.command)

/-- The commands that show in a document. -/
def shown (commands : List (Command Float)) : List (Command Float) :=
  commands.filter fun c => c.isFinite && !c.vanishes

variable {width height : Float} {commands commands' : List (Command Float)}

/-- Of commands the finite ones are drawn. -/
theorem flatMap_commands (width height : Float) (commands : List (Command Float)) :
    (commands.map Request.command).flatMap (Request.commands width height) =
      commands.filter (·.isFinite) := by
  induction commands with
  | nil => rfl
  | cons c commands ih =>
    rw [List.map_cons, List.flatMap_cons, ih, Request.commands]
    by_cases h : c.isFinite
    · simp [h]
    · simp [h]

/-- **The elements of a document** are those of the commands that show, in order. -/
theorem map_some_elements_drawn (width height : Float) (commands : List (Command Float)) :
    (drawn width height commands).elements.toList.map some =
      (shown commands).map (element? width height) := by
  unfold drawn shown
  rw [Document.elements_afterHistory, flatMap_commands, List.filter_filter]
  simp only [Bool.and_comm]

/-- An element of a document is that of a command. -/
theorem exists_command_of_mem {e : Element}
    (h : e ∈ (drawn width height commands).elements.toList) :
    ∃ c ∈ shown commands, element? width height c = some e := by
  -- the element stands in the list that is compared with the commands
  have h_some : some e ∈ (drawn width height commands).elements.toList.map some :=
    List.mem_map_of_mem h
  rw [map_some_elements_drawn] at h_some
  exact List.mem_map.1 h_some

theorem named_of_mem_drawn : ∀ e ∈ (drawn width height commands).elements.toList, e.Named := by
  intro e h_e
  obtain ⟨c, -, h_c⟩ := exists_command_of_mem h_e
  exact named_of_element? h_c

/-- There is an element for each command that shows. -/
theorem size_elements_drawn :
    (drawn width height commands).elements.size = (shown commands).length := by
  have h_length := congrArg List.length (map_some_elements_drawn width height commands)
  simpa using h_length

/-! ### Paints -/

/-- The elements of a document have the paints of the commands. -/
theorem map_paint?_drawn :
    (drawn width height commands).elements.toList.map Element.paint? =
      (shown commands).map fun c => some c.paint := by
  -- the elements are what `element?` gives, so their paints are those of what it gives
  have h_bind := congrArg (List.map fun e? => e?.bind Element.paint?)
    (map_some_elements_drawn width height commands)
  rw [List.map_map, List.map_map] at h_bind
  refine h_bind.trans (List.map_congr_left fun c h_c => ?_)
  -- a command that shows has an element
  obtain ⟨-, h_shown⟩ : c.isFinite = true ∧ c.vanishes = false := by
    simpa using (List.mem_filter.1 h_c).2
  change (element? width height c).bind Element.paint? = some c.paint
  cases h_e : element? width height c with
  | none =>
    rw [element?_eq_none_iff, h_shown] at h_e
    cases h_e
  | some e => exact paint?_of_element? h_e

/-- The same commands show in other paints. -/
theorem map_repainted_shown (paint : String) (commands : List (Command Float)) :
    (shown commands).map (Command.repainted paint) =
      shown (commands.map (Command.repainted paint)) := by
  unfold shown
  rw [List.filter_map]
  simp [Function.comp_def]

/-- **Commands that differ in paints** have elements that differ in paints. -/
theorem map_repainted_drawn (paint : String)
    (h : commands'.map (Command.repainted paint) = commands.map (Command.repainted paint)) :
    (drawn width height commands').elements.toList.map (Element.repainted paint) =
      (drawn width height commands).elements.toList.map (Element.repainted paint) := by
  -- the paints of the elements are changed where those of the commands are
  have h_some : ∀ cs : List (Command Float),
      ((drawn width height cs).elements.toList.map (Element.repainted paint)).map some =
        (shown (cs.map (Command.repainted paint))).map (element? width height) := by
    intro cs
    have h_map := congrArg (List.map (Option.map (Element.repainted paint)))
      (map_some_elements_drawn width height cs)
    rw [List.map_map, List.map_map] at h_map
    rw [← map_repainted_shown, List.map_map, List.map_map]
    refine h_map.trans (List.map_congr_left fun c _ => ?_)
    exact (element?_repainted width height paint c).symm
  have h_same : ((drawn width height commands').elements.toList.map (Element.repainted paint)).map
      some = ((drawn width height commands).elements.toList.map (Element.repainted paint)).map
        some := by
    rw [h_some, h_some, h]
  -- an element can be told from the answer that there is one
  exact List.map_injective_iff.2 (fun _ _ => Option.some.inj) h_same

/-- **Paints are contained.** Escaping comes to four replacements, ampersands first; an escaped text
holds no angle bracket and no double quote, its ampersands all begin an entity, and reading the
entities gives the text back. So whatever the paints of some commands are, their document has two
angle brackets of each kind and one more for every command that shows. It is read back as elements
with names and attributes, each in a tag of its own; these are the elements of the commands, the
paint of each is that of its command, and all their other values stand as they are. Commands that
differ in nothing but paints have the same root and elements that differ in nothing but paints. -/
theorem paints_contained :
    (∀ text : List Char,
      escape text = replaceAll '"' "&quot;".toList (replaceAll '>' "&gt;".toList
        (replaceAll '<' "&lt;".toList (replaceAll '&' "&amp;".toList text))) ∧
      (∀ c ∈ ['<', '>', '"'], c ∉ escape text) ∧
      (∀ before after, escape text = before ++ '&' :: after →
        ∃ entity ∈ entities, entity <+: '&' :: after) ∧
      unescape (escape text) = text) ∧
    ∀ (width height : Float) (commands : List (Command Float)),
      (∀ c ∈ brackets, (drawn width height commands).text.toList.count c =
        2 + (shown commands).length) ∧
      ∃ root elements,
        Document.read? (drawn width height commands).text.toList = some (root, elements) ∧
        elements.map some = (shown commands).map (element? width height) ∧
        elements.map Element.paint? = (shown commands).map (fun c => some c.paint) ∧
        (∀ e ∈ elements, ∀ a ∈ e.attributes, a.name ≠ e.paintName →
          escape a.value.toList = a.value.toList) ∧
        ∀ commands' : List (Command Float),
          commands'.map (Command.repainted "") = commands.map (Command.repainted "") →
          ∃ elements',
            Document.read? (drawn width height commands').text.toList = some (root, elements') ∧
            elements'.map (Element.repainted "") = elements.map (Element.repainted "") := by
  constructor
  · -- what is known of one escaped text
    intro text
    refine ⟨escape_eq_replaceAll text, fun c h_c => notMem_escape h_c text, ?_,
      unescape_escape text⟩
    exact fun before after h => exists_entity_of_escape h
  · intro width height commands
    refine ⟨fun c h_c => ?_, (drawn width height commands).root,
      (drawn width height commands).elements.toList, Document.read?_text named_of_mem_drawn,
      map_some_elements_drawn width height commands, map_paint?_drawn, ?_, ?_⟩
    · rw [Document.count_text named_of_mem_drawn h_c, size_elements_drawn]
    · intro e h_e a h_a h_name
      -- every value but the paint comes from the program, which writes nothing to escape
      obtain ⟨c, -, h_c⟩ := exists_command_of_mem h_e
      exact (plain_of_element? h_c h_a h_name).escape_eq_self
    · intro commands' h_paints
      refine ⟨(drawn width height commands').elements.toList, ?_, map_repainted_drawn "" h_paints⟩
      -- the root of a document tells its size, whatever is drawn on it
      have h_root : (drawn width height commands').root = (drawn width height commands).root := by
        unfold drawn
        rw [Document.root_afterHistory, Document.root_afterHistory]
      rw [← h_root]
      exact Document.read?_text named_of_mem_drawn

/-- Commands with paints that look like markup. -/
private def marked : List (Command Float) :=
  [.background "\"/><rect fill=\"red", .polygon [] "&lt;&amp;lt;"]

/-- The same with paints that do not. -/
private def unmarked : List (Command Float) :=
  [.background "white", .polygon [] "black"]

/-- Both documents have two elements, and the same ones but for the paints. -/
theorem paints_contained_marked :
    (drawn 100 50 marked).text.toList.count '<' = 4 ∧
      ∃ root elements elements',
        Document.read? (drawn 100 50 marked).text.toList = some (root, elements) ∧
        elements.map Element.paint? = [some "\"/><rect fill=\"red", some "&lt;&amp;lt;"] ∧
        Document.read? (drawn 100 50 unmarked).text.toList = some (root, elements') ∧
        elements'.map (Element.repainted "") = elements.map (Element.repainted "") := by
  obtain ⟨h_count, root, elements, h_read, -, h_paints, -, h_others⟩ :=
    paints_contained.2 100 50 marked
  -- the documents of the two differ in paints alone, as the commands do
  obtain ⟨elements', h_read', h_same⟩ := h_others unmarked rfl
  exact ⟨h_count '<' (by decide), root, elements, elements', h_read, h_paints, h_read', h_same⟩

end Svg

end RingDiagram
