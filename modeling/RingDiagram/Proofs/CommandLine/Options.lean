import Mathlib.Data.List.TakeDrop
import Mathlib.Data.List.TakeWhile
import RingDiagram.CommandLine.Arguments
import RingDiagram.Proofs.Outcome

/-!
# Options on a command line

The command lines without an input that the reader of arguments accepts, said without the reader.
An option stands with its value in one argument or in two, under its long or its short name
(`Key.Given`); a command line is made of such options and the one that asks for commands, in any
order (`Options`). It is accepted if every option is given at most once, with a value that it
accepts (`Asks`).

The reader sees one argument at a time, so what an argument is by itself comes first
(`Argument.hasForm_of`, and `Argument.of_joined` and `Argument.of_named` the other way). Reading an
option and reading what follows are then two steps (`Arguments.addAll_given`). By induction along
the command line its options are read one after the other (`Arguments.addAll_eq_ok_iff`), and
nothing but options is read without an input (`Arguments.exists_options`);
`Arguments.read_eq_ok_iff` joins the two.
-/

namespace RingDiagram.CommandLine

/-! ### Command lines -/

namespace Key

/-- An argument that names the option and holds its value. -/
inductive Joined (key : Key) (value : String) : String → Prop
  | long : Joined key value ("--" ++ key.long ++ "=" ++ value)
  | short {c : Char} (h : key.short? = some c) :
    Joined key value (String.ofList ('-' :: c :: '=' :: value.toList))
  /-- Behind a short name the equals sign may be left out, unless the value is empty or begins with
  one. -/
  | attached {c : Char} (h : key.short? = some c) (h_value : value.toList.head?.any (· != '=')) :
    Joined key value (String.ofList ('-' :: c :: value.toList))

/-- An argument that names the option and nothing else. -/
inductive Named (key : Key) : String → Prop
  | long : Named key ("--" ++ key.long)
  | short {c : Char} (h : key.short? = some c) : Named key (String.ofList ['-', c])

/-- The arguments that give an option its value. -/
inductive Given (key : Key) (value : String) : List String → Prop
  | joined {text : String} (h : key.Joined value text) : Given key value [text]
  | apart {name : String} (h : key.Named name) (h_value : looksLikeOption value = false) :
    Given key value [name, value]

end Key

/-- A command line of options alone: their values in order, and whether it asks for commands. -/
inductive Options : List String → List (Key × String) → Bool → Prop
  | nil : Options [] [] false
  /-- After two hyphens there could be an input. -/
  | hyphens : Options ["--"] [] false
  | option {key : Key} {value : String} {given rest : List String} {values : List (Key × String)}
    {commands : Bool} (h : key.Given value given) (h_rest : Options rest values commands) :
    Options (given ++ rest) ((key, value) :: values) commands
  | commands {rest : List String} {values : List (Key × String)}
    (h_rest : Options rest values false) : Options ("--commands" :: rest) values true

/-- A command line of options that asks for a drawing. -/
structure Asks (texts : List String) (values : List (Key × String)) (commands : Bool) : Prop where
  options : Options texts values commands
  once : (values.map Prod.fst).Nodup
  accepted : ∀ v ∈ values, v.1.accepts v.2 = true

/-! ### Single arguments -/

namespace Key

theorem ofLong?_eq_some_iff {name : List Char} {key : Key} :
    ofLong? name = some key ↔ name = key.long.toList := by
  constructor
  · intro h
    have h_found := List.find?_some h
    exact (beq_iff_eq.1 h_found).symm
  · rintro rfl
    -- no two options have the same long name, so the one that is found is the one that is looked
    -- for
    cases key <;> decide

theorem ofShort?_eq_some_iff {c : Char} {key : Key} :
    ofShort? c = some key ↔ key.short? = some c := by
  constructor
  · intro h
    have h_found := List.find?_some (p := fun key : Key => key.short? == some c) h
    exact beq_iff_eq.1 h_found
  · intro h
    -- only three options have a short name, and no two of them the same
    cases key with
    | output | radius | bendiness =>
      cases h
      rfl
    | _ => cases h

/-- No long name holds an equals sign. -/
theorem equals_notMem_long (key : Key) : '=' ∉ key.long.toList := by
  cases key <;> decide

/-- No short name is a hyphen. -/
theorem ne_hyphen_of_short? {key : Key} {c : Char} (h : key.short? = some c) : c ≠ '-' := by
  rintro rfl
  cases key <;> cases h

end Key

/-- Without an equals sign all is name. -/
theorem forall_ne_equals {name : List Char} (h : '=' ∉ name) :
    ∀ c ∈ name, (c != '=') = true :=
  fun _ h_c => bne_iff_ne.2 fun h_eq => h (h_eq ▸ h_c)

/-- A value begins behind the first equals sign. -/
theorem splitValue_append {name : List Char} (h : '=' ∉ name) (value : List Char) :
    splitValue (name ++ '=' :: value) = (name, some value) := by
  -- up to the equals sign the characters are of the name, and the rest begins with that sign
  rw [splitValue, List.span_eq_takeWhile_dropWhile,
    List.takeWhile_append_of_pos (forall_ne_equals h),
    List.dropWhile_append_of_pos (forall_ne_equals h)]
  simp

theorem splitValue_of_notMem {text : List Char} (h : '=' ∉ text) :
    splitValue text = (text, none) := by
  rw [splitValue, List.span_eq_takeWhile_dropWhile,
    List.takeWhile_eq_self_iff.2 (forall_ne_equals h),
    List.dropWhile_eq_nil_iff.2 (forall_ne_equals h)]

namespace Argument

variable {text value : String} {key : Key}

/-! #### Equations -/

theorem of_long {rest : List Char} (h : text.toList = '-' :: '-' :: rest) :
    of text = ofLong rest := by
  simp only [of, h]

theorem of_short {c : Char} (h_c : c ≠ '-') {rest : List Char}
    (h : text.toList = '-' :: c :: rest) : of text = ofShort c rest := by
  unfold of
  -- the three ways to read an argument are tried in order, and the first letter rules out the first
  split
  · next h_eq =>
    cases h.symm.trans h_eq
    exact absurd rfl h_c
  · next h_eq =>
    cases h.symm.trans h_eq
    rfl
  · next h_none => exact absurd h (h_none c rest)

theorem ofLong_append {name : List Char} (h : '=' ∉ name) (value : List Char) :
    ofLong (name ++ '=' :: value) =
      match Key.ofLong? name with
      | some key => .option key (String.ofList value)
      | none => .unknown := by
  simp only [ofLong, splitValue_append h]
  cases Key.ofLong? name <;> rfl

theorem ofLong_of_notMem {name : List Char} (h : '=' ∉ name) :
    ofLong name =
      match Key.ofLong? name with
      | some key => .awaiting key
      | none =>
        if name = "commands".toList then .commands
        else if name = "version".toList then .version
        else if name = "help".toList then .help
        else .unknown := by
  simp only [ofLong, splitValue_of_notMem h]
  cases Key.ofLong? name <;> rfl

theorem ofShort_nil {c : Char} (h : key.short? = some c) : ofShort c [] = .awaiting key := by
  simp only [ofShort, Key.ofShort?_eq_some_iff.2 h]

theorem ofShort_equals {c : Char} (h : key.short? = some c) (value : List Char) :
    ofShort c ('=' :: value) = .option key (String.ofList value) := by
  simp only [ofShort, Key.ofShort?_eq_some_iff.2 h]

theorem ofShort_attached {c : Char} (h : key.short? = some c) {value : List Char}
    (h_value : value.head?.any (· != '=')) :
    ofShort c value = .option key (String.ofList value) := by
  cases value with
  | nil => cases h_value
  | cons d value =>
    have h_d : d ≠ '=' := bne_iff_ne.1 h_value
    simp only [ofShort, Key.ofShort?_eq_some_iff.2 h]
    -- with a value that begins otherwise only the last way to read it is left
    split
    · next h_key h_nil => cases h_nil
    · next h_equals =>
      cases h_equals
      exact absurd rfl h_d
    · next h_key h_nil h_equals =>
      cases h_key
      rfl
    · next h_none => cases h_none

/-! #### Forms -/

/-- What is known of an argument by what it is by itself. -/
def HasForm (text : String) : Argument → Prop
  | .option key value => key.Joined value text
  | .awaiting key => key.Named text
  | .commands => text = "--commands"
  | .input name => name = text
  | .version | .help | .unknown => True

theorem hasForm_ofLong {text : String} {rest : List Char} (h : text.toList = '-' :: '-' :: rest) :
    HasForm text (ofLong rest) := by
  by_cases h_equals : '=' ∈ rest
  · -- the name ends at the first equals sign
    obtain ⟨name, value, rfl, h_name⟩ := List.eq_append_cons_of_mem h_equals
    rw [ofLong_append h_name]
    split
    · next key h_key =>
      rw [Key.ofLong?_eq_some_iff] at h_key
      have h_text : text = "--" ++ key.long ++ "=" ++ String.ofList value := by
        rw [← String.toList_inj, h, h_key]
        simp
      exact h_text ▸ .long
    · trivial
  · -- without an equals sign the argument is a name, of an option or of a flag
    rw [ofLong_of_notMem h_equals]
    split
    · next key h_key =>
      rw [Key.ofLong?_eq_some_iff] at h_key
      have h_text : text = "--" ++ key.long := by
        rw [← String.toList_inj, h, h_key]
        simp
      exact h_text ▸ .long
    · split
      · next h_name =>
        change text = "--commands"
        rw [← String.toList_inj, h, h_name]
        rfl
      · split
        · trivial
        · split <;> trivial

theorem hasForm_ofShort {text : String} {c : Char} {rest : List Char}
    (h : text.toList = '-' :: c :: rest) : HasForm text (ofShort c rest) := by
  have h_text : text = String.ofList ('-' :: c :: rest) := by
    rw [← h, String.ofList_toList]
  -- the letter behind the hyphen is the short name of an option, or it is not
  rw [h_text]
  cases h_key : Key.ofShort? c with
  | none =>
    simp only [ofShort, h_key]
    split
    · trivial
    · split <;> trivial
  | some key =>
    have h_c := Key.ofShort?_eq_some_iff.1 h_key
    cases rest with
    | nil =>
      rw [ofShort_nil h_c]
      exact .short h_c
    | cons d value =>
      -- an equals sign is passed over once, so a value may begin with another one
      by_cases h_d : d = '='
      · subst h_d
        have h_joined : key.Joined (String.ofList value) _ := .short h_c
        rw [String.toList_ofList] at h_joined
        rw [ofShort_equals h_c]
        exact h_joined
      · have h_value : (d :: value).head?.any (· != '=') = true := bne_iff_ne.2 h_d
        have h_joined : key.Joined (String.ofList (d :: value)) _ :=
          .attached h_c (by rwa [String.toList_ofList])
        rw [String.toList_ofList] at h_joined
        rw [ofShort_attached h_c h_value]
        exact h_joined

/-- **What an argument is** tells its form. -/
theorem hasForm_of (text : String) : HasForm text (of text) := by
  unfold of
  split
  · next h => exact hasForm_ofLong h
  · next h => exact hasForm_ofShort h
  · rfl

/-- **An option with its value** in one argument. -/
theorem of_joined {key : Key} {value text : String} (h : key.Joined value text) :
    of text = .option key value := by
  cases h with
  -- the text of each spelling is taken apart where its reader does
  | long =>
    have h_text : ("--" ++ key.long ++ "=" ++ value).toList =
        '-' :: '-' :: (key.long.toList ++ '=' :: value.toList) := by
      simp
    rw [of_long h_text, ofLong_append key.equals_notMem_long, Key.ofLong?_eq_some_iff.2 rfl]
    simp
  | short h_c =>
    rw [of_short (Key.ne_hyphen_of_short? h_c) String.toList_ofList, ofShort_equals h_c,
      String.ofList_toList]
  | attached h_c h_value =>
    rw [of_short (Key.ne_hyphen_of_short? h_c) String.toList_ofList,
      ofShort_attached h_c h_value, String.ofList_toList]

/-- **An option whose value is the next argument.** -/
theorem of_named {key : Key} {text : String} (h : key.Named text) : of text = .awaiting key := by
  cases h with
  | long =>
    have h_text : ("--" ++ key.long).toList = '-' :: '-' :: key.long.toList := by
      simp
    rw [of_long h_text, ofLong_of_notMem key.equals_notMem_long, Key.ofLong?_eq_some_iff.2 rfl]
  | short h_c =>
    rw [of_short (Key.ne_hyphen_of_short? h_c) String.toList_ofList, ofShort_nil h_c]

end Argument

/-! ### Reading a command line -/

namespace Arguments

variable {a a' : Arguments} {texts : List String}

theorem addInput_eq_ok {name : String} (h : a.addInput name = .ok a') : a'.input = some name := by
  unfold addInput at h
  split at h
  · cases h
  · cases h
    rfl

theorem addValue_eq_ok_iff {key : Key} {value : String} :
    a.addValue key value = .ok a' ↔ (a.value? key = none ∧ key.accepts value = true) ∧
      a' = { a with values := (key, value) :: a.values } := by
  unfold addValue
  cases h_value : a.value? key <;> cases h_accepts : key.accepts value <;> simp [eq_comm]

theorem addCommands_eq_ok_iff :
    a.addCommands = .ok a' ↔ a.commands = false ∧ a' = { a with commands := true } := by
  unfold addCommands
  cases h : a.commands <;> simp [eq_comm]

/-- The two hyphens are unknown by themselves. -/
theorem eq_false_of_of_eq {text : String} {form : Argument} (h : Argument.of text = form)
    (h_form : form ≠ .unknown) : text = "--" → False := by
  rintro rfl
  -- the two hyphens would be read as something unknown
  exact h_form (h.symm.trans (by decide))

/-- **Reading an option** comes before reading what follows. -/
theorem addAll_given {key : Key} {value : String} {given : List String}
    (h : key.Given value given) (rest : List String) :
    a.addAll (given ++ rest) = (a.addValue key value >>= (·.addAll rest)) := by
  -- the value stands in the same argument, or the next one is taken for it and read together with
  -- it
  cases h with
  | joined h =>
    have h_of := Argument.of_joined h
    have h_text := eq_false_of_of_eq h_of (by simp)
    simp only [List.singleton_append, addAll, h_of]
  | apart h h_value =>
    have h_of := Argument.of_named h
    have h_text := eq_false_of_of_eq h_of (by simp)
    simp [addAll, h_of, h_value]

theorem addAll_commands (rest : List String) :
    a.addAll ("--commands" :: rest) = (a.addCommands >>= (·.addAll rest)) := by
  -- the text is that of a flag, which nothing follows up
  have h_of : Argument.of "--commands" = .commands := by decide
  have h_text := eq_false_of_of_eq h_of (by simp)
  simp only [addAll, h_of]

/-- The arguments after the options with these values, and after the one that asks for commands. -/
structure Took (a : Arguments) (values : List (Key × String)) (commands : Bool) (a' : Arguments) :
    Prop where
  eq : a' = { a with
    values := values.reverse ++ a.values
    commands := a.commands || commands }
  once : (values.map Prod.fst).Nodup
  fresh : ∀ v ∈ values, a.value? v.1 = none
  accepted : ∀ v ∈ values, v.1.accepts v.2 = true
  commands : commands = true → a.commands = false

namespace Took

variable {values : List (Key × String)} {commands : Bool}

theorem nil_iff : Took a [] false a' ↔ a' = a := by
  constructor
  · intro h
    rw [h.eq]
    simp
  · rintro rfl
    exact ⟨by simp, by simp, by simp, by simp, by simp⟩

/-- The value of an option is looked up before the values given earlier. -/
theorem value?_cons (a : Arguments) (key other : Key) (value : String) :
    value? { a with values := (key, value) :: a.values } other =
      if other = key then some value else a.value? other := by
  unfold value?
  rw [List.lookup_cons]
  -- the new option is found at the head, and any other behind it
  by_cases h : other = key
  · simp [h]
  · rw [if_neg h, beq_eq_false_iff_ne.2 h]

theorem cons_iff {key : Key} {value : String} :
    Took a ((key, value) :: values) commands a' ↔
      ∃ b, a.addValue key value = .ok b ∧ Took b values commands a' := by
  simp only [addValue_eq_ok_iff]
  constructor
  · intro h
    obtain ⟨h_key, h_once⟩ := List.nodup_cons.1 h.once
    obtain ⟨h_fresh, h_rest⟩ := List.forall_mem_cons.1 h.fresh
    obtain ⟨h_accepts, h_accepted⟩ := List.forall_mem_cons.1 h.accepted
    -- the values that were given already, and the new one in front of them
    refine ⟨_, ⟨⟨h_fresh, h_accepts⟩, rfl⟩, ?_, h_once, ?_, h_accepted, h.commands⟩
    · rw [h.eq]
      simp
    · intro v h_v
      -- an option that comes later is not this one again, so it is still without a value
      have h_other : v.1 ≠ key := by
        intro h_eq
        exact h_key (List.mem_map.2 ⟨v, h_v, h_eq⟩)
      rw [value?_cons, if_neg h_other]
      exact h_rest v h_v
  · rintro ⟨b, ⟨⟨h_fresh, h_accepts⟩, rfl⟩, h⟩
    -- a later option had no value after this one was read, so it is another one
    have h_other : ∀ v ∈ values, v.1 ≠ key ∧ a.value? v.1 = none := by
      intro v h_v
      have h_none := h.fresh v h_v
      rw [value?_cons] at h_none
      split at h_none
      · cases h_none
      · next h_ne => exact ⟨h_ne, h_none⟩
    constructor
    case eq =>
      rw [h.eq]
      simp
    case once =>
      refine List.nodup_cons.2 ⟨fun h_mem => ?_, h.once⟩
      obtain ⟨v, h_v, h_eq⟩ := List.mem_map.1 h_mem
      exact (h_other v h_v).1 h_eq
    case fresh => exact List.forall_mem_cons.2 ⟨h_fresh, fun v h_v => (h_other v h_v).2⟩
    case accepted => exact List.forall_mem_cons.2 ⟨h_accepts, h.accepted⟩
    case commands => exact h.commands

theorem commands_iff :
    Took a values true a' ↔ ∃ b, a.addCommands = .ok b ∧ Took b values false a' := by
  simp only [addCommands_eq_ok_iff]
  constructor
  · intro h
    -- the flag can be given once, so what follows asks for nothing more
    refine ⟨_, ⟨h.commands rfl, rfl⟩, ?_, h.once, h.fresh, h.accepted, by simp⟩
    rw [h.eq]
    simp
  · rintro ⟨b, ⟨h_none, rfl⟩, h⟩
    refine ⟨?_, h.once, h.fresh, h.accepted, fun _ => h_none⟩
    rw [h.eq]
    simp

end Took

/-- **Options are read** one after the other. -/
theorem addAll_eq_ok_iff {values : List (Key × String)} {commands : Bool}
    (h : Options texts values commands) :
    a.addAll texts = .ok a' ↔ a.Took values commands a' := by
  -- the induction is on the options, from the arguments that hold all options before
  induction h generalizing a with
  | nil | hyphens =>
    change Except.ok a = Except.ok a' ↔ _
    rw [Except.ok.injEq, Took.nil_iff, eq_comm]
  | option h_given h_rest ih =>
    rw [addAll_given h_given, bind_eq_ok_iff, Took.cons_iff]
    simp only [ih]
  | commands h_rest ih =>
    rw [addAll_commands, bind_eq_ok_iff, Took.commands_iff]
    simp only [ih]

/-- An input stays one. -/
theorem foldlM_addInput {names : List String} (h : names.foldlM addInput a = .ok a')
    (h_input : a'.input = none) : names = [] ∧ a.input = none := by
  -- the last name that is given is the input, so there is none at all
  induction names generalizing a with
  | nil =>
    cases h
    exact ⟨rfl, h_input⟩
  | cons name names ih =>
    obtain ⟨b, h_b, h_rest⟩ := foldlM_cons_eq_ok_iff.1 h
    have h_none := (ih h_rest).2
    rw [addInput_eq_ok h_b] at h_none
    cases h_none

/-- The option for commands is given once. -/
theorem Took.commands_eq_false {values : List (Key × String)} {commands : Bool}
    (h : a.Took values commands a') (h_commands : a.commands = true) : commands = false := by
  rw [Bool.eq_false_iff]
  intro h_true
  rw [h.commands h_true] at h_commands
  cases h_commands

/-- **Without an input** a command line is one of options. -/
theorem exists_options (h : a.addAll texts = .ok a') (h_input : a'.input = none) :
    a.input = none ∧ ∃ values commands, Options texts values commands := by
  -- one case for each way to read the next argument; an argument that is an input stays one
  fun_induction a.addAll texts with
  | case1 a =>
    cases h
    exact ⟨h_input, _, _, .nil⟩
  | case2 a names =>
    obtain ⟨rfl, h_none⟩ := foldlM_addInput h h_input
    exact ⟨h_none, _, _, .hyphens⟩
  -- the input that is read here would still be there at the end
  | case3 a text rest h_text name h_of ih =>
    obtain ⟨b, h_b, h_rest⟩ := bind_eq_ok_iff.1 h
    have h_none := (ih b h_rest).1
    rw [addInput_eq_ok h_b] at h_none
    cases h_none
  | case4 a text rest h_text key value h_of ih =>
    obtain ⟨b, h_b, h_rest⟩ := bind_eq_ok_iff.1 h
    obtain ⟨h_none, values, commands, h_options⟩ := ih b h_rest
    -- what the argument is by itself is told by its form, so the command line begins with this
    -- option
    have h_joined := Argument.hasForm_of text
    rw [h_of] at h_joined
    obtain ⟨-, rfl⟩ := addValue_eq_ok_iff.1 h_b
    exact ⟨h_none, _, _, .option (.joined h_joined) h_options⟩
  | case5 | case6 => cases h
  | case7 a text h_text key h_of value rest h_value ih =>
    obtain ⟨b, h_b, h_rest⟩ := bind_eq_ok_iff.1 h
    obtain ⟨h_none, values, commands, h_options⟩ := ih b h_rest
    -- the value was taken from the next argument, which does not look like an option
    have h_named := Argument.hasForm_of text
    rw [h_of] at h_named
    obtain ⟨-, rfl⟩ := addValue_eq_ok_iff.1 h_b
    exact ⟨h_none, _, _, .option (.apart h_named (Bool.eq_false_iff.2 h_value)) h_options⟩
  | case8 a text rest h_text h_of ih =>
    obtain ⟨b, h_b, h_rest⟩ := bind_eq_ok_iff.1 h
    obtain ⟨h_none, values, commands, h_options⟩ := ih b h_rest
    have h_commands := Argument.hasForm_of text
    rw [h_of] at h_commands
    obtain rfl : text = "--commands" := h_commands
    obtain ⟨-, rfl⟩ := addCommands_eq_ok_iff.1 h_b
    -- the flag was read here, so it is not given again
    obtain rfl := ((addAll_eq_ok_iff h_options).1 h_rest).commands_eq_false rfl
    exact ⟨h_none, _, _, .commands h_options⟩
  | case9 | case10 | case11 => cases h

/-- **Command lines without an input** are accepted if they are made of options, each given once and
with a value that it accepts. -/
theorem read_eq_ok_iff {a : Arguments} :
    read texts = .ok a ∧ a.input = none ↔
      ∃ values commands, Asks texts values commands ∧
        a = { values := values.reverse, commands } := by
  unfold read
  constructor
  · rintro ⟨h, h_input⟩
    obtain ⟨-, values, commands, h_options⟩ := exists_options h h_input
    -- what is read of options is all of them, none twice and each with a value that it accepts
    have h_took := (addAll_eq_ok_iff h_options).1 h
    refine ⟨values, commands, ⟨h_options, h_took.once, h_took.accepted⟩, ?_⟩
    rw [h_took.eq]
    simp
  · rintro ⟨values, commands, h, rfl⟩
    refine ⟨(addAll_eq_ok_iff h.options).2 ?_, rfl⟩
    -- nothing has been read before the first option
    exact ⟨by simp, h.once, fun _ _ => rfl, h.accepted, fun _ => rfl⟩

end Arguments

end RingDiagram.CommandLine
