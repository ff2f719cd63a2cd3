import Mathlib.Data.List.DropRight
import Mathlib.Data.List.Infix
import RingDiagram.CommandLine.FileTree
import RingDiagram.Proofs.Outcome

/-!
# Writing into a file tree

A text that is written at a path goes to one location. There it is found again, and everywhere else
the tree is as it was (`FileTree.written_of_writeFile`).

That nothing else changes is not plain from the list of texts alone, since a text makes folders of
all locations around it. But a path is followed from folder to folder, so a location that is written
at lies in a folder already (`FileTree.isFolder_tail_of_target`), and so does everything around that
(`FileTree.isFolder_of_suffix`). So no location but this one changes (`FileTree.entry_put_ne`).

Reading follows the same names as writing does, apart from slashes at the end, which ask for a
folder (`FileTree.follow_of_target`). On its way it meets folders only, and these are still there
(`FileTree.follow_put`).
-/

namespace RingDiagram.CommandLine.FileTree

variable {t : FileTree} {k l : Location} {text : String}

/-! ### Folders -/

theorem isFolder_iff : t.isFolder l = true ↔
    l <:+ workingFolder ∨ l ∈ standardFolders ∨ ∃ f ∈ t.files, l ≠ f.1 ∧ l <:+ f.1 := by
  simp [isFolder, or_assoc]

/-- The folders around a standard folder are standard folders, up to the root. -/
theorem mem_standardFolders_of_suffix (h : l ∈ standardFolders) (h_suffix : k <:+ l) :
    k ∈ standardFolders ∨ k = [] := by
  -- there are few standard folders, and none of them is deep
  have h_closed : ∀ l ∈ standardFolders, ∀ k ∈ l.tails, k ∈ standardFolders ∨ k = [] := by
    decide +kernel
  exact h_closed l h k ((List.mem_tails k l).2 h_suffix)

/-- What stands around a folder is a folder. -/
theorem isFolder_of_suffix (h : t.isFolder l = true) (h_suffix : k <:+ l) :
    t.isFolder k = true := by
  rw [isFolder_iff] at h ⊢
  -- around the working folder, around a standard folder, or around a text
  rcases h with h | h | ⟨f, h_f, h_ne, h⟩
  · exact Or.inl (h_suffix.trans h)
  · rcases mem_standardFolders_of_suffix h h_suffix with h | rfl
    · exact Or.inr (Or.inl h)
    · exact Or.inl (List.nil_suffix)
  · refine Or.inr (Or.inr ⟨f, h_f, ?_, h_suffix.trans h⟩)
    -- a text that stood around the folder would stand around itself
    rintro rfl
    exact h_ne (h.eq_of_length_le h_suffix.length_le)

theorem isFolder_of_entry (h : t.entry? l = some .folder) : t.isFolder l = true := by
  unfold entry? at h
  split at h
  · cases h
  · split at h
    · assumption
    · obtain ⟨d, -, h_d⟩ := Option.map_eq_some_iff.1 h
      cases h_d

/-! ### One more text -/

theorem lookup_put_self : (t.put l text).files.lookup l = some text := by
  simp [put]

theorem lookup_put_ne (h : k ≠ l) : (t.put l text).files.lookup k = t.files.lookup k := by
  have h_rest : (t.files.filter (·.1 != l)).lookup k = t.files.lookup k := by
    induction t.files with
    | nil => rfl
    | cons f files ih =>
      obtain ⟨l', content⟩ := f
      by_cases h_f : l' = l
      · subst h_f
        -- the entries that are left out are not the one that is looked up
        rw [List.filter_cons_of_neg (by simp), ih, List.lookup_cons, beq_eq_false_iff_ne.2 h]
      · rw [List.filter_cons_of_pos (by simpa using h_f), List.lookup_cons, List.lookup_cons, ih]
  unfold put
  dsimp only
  rw [List.lookup_cons, beq_eq_false_iff_ne.2 h, h_rest]

theorem entry_put_self : entry? (t.put l text) l = some (.text text) := by
  unfold entry?
  rw [lookup_put_self]

/-- A text in a folder makes no other folder. -/
theorem isFolder_put_ne (h_tail : t.isFolder l.tail = true) (h : k ≠ l) :
    (t.put l text).isFolder k = t.isFolder k := by
  rw [Bool.eq_iff_iff]
  constructor
  · intro h_folder
    rcases isFolder_iff.1 h_folder with h_k | h_k | ⟨f, h_f, h_ne, h_k⟩
    · exact isFolder_iff.2 (Or.inl h_k)
    · exact isFolder_iff.2 (Or.inr (Or.inl h_k))
    · rcases List.mem_cons.1 h_f with rfl | h_f
      · -- what stands around the new text stands around its folder, or is this folder
        refine isFolder_of_suffix h_tail ?_
        cases l with
        | nil => exact absurd (List.suffix_nil.1 h_k) h
        | cons name around => exact (List.suffix_cons_iff.1 h_k).resolve_left h
      · exact isFolder_iff.2 (Or.inr (Or.inr ⟨f, (List.mem_filter.1 h_f).1, h_ne, h_k⟩))
  · intro h_folder
    rcases isFolder_iff.1 h_folder with h_k | h_k | ⟨f, h_f, h_ne, h_k⟩
    · exact isFolder_iff.2 (Or.inl h_k)
    · exact isFolder_iff.2 (Or.inr (Or.inl h_k))
    · refine isFolder_iff.2 (Or.inr (Or.inr ?_))
      -- a text that the new one replaces is replaced at the same location
      by_cases h_l : f.1 = l
      · rw [h_l] at h_k
        exact ⟨(l, text), List.mem_cons_self, h, h_k⟩
      · refine ⟨f, List.mem_cons_of_mem _ (List.mem_filter.2 ⟨h_f, ?_⟩), h_ne, h_k⟩
        simpa using h_l

/-- **Nothing else changes** when a text is put into a folder. -/
theorem entry_put_ne (h_tail : t.isFolder l.tail = true) (h : k ≠ l) :
    entry? (t.put l text) k = t.entry? k := by
  unfold entry?
  rw [lookup_put_ne h, isFolder_put_ne h_tail h]

/-! ### The way to a location -/

/-- A step is made from a folder. -/
theorem entry_of_step {name : String} (h : t.step k name = .ok l) :
    t.entry? k = some .folder := by
  unfold step at h
  split at h
  · cases h
  · assumption
  · cases h

/-- A step leads into a folder, to one, or to a location in one. -/
theorem isFolder_tail_of_step {name : String} (h : t.step k name = .ok l) :
    t.isFolder l.tail = true := by
  -- a name that stays in the folder, leads out of it, or leads to a location in it
  have h_folder := isFolder_of_entry (entry_of_step h)
  unfold step at h
  rw [entry_of_step h] at h
  dsimp only at h
  split at h
  · cases h
    exact isFolder_of_suffix h_folder (List.tail_suffix k)
  · split at h
    · cases h
      exact isFolder_of_suffix h_folder ((List.tail_suffix _).trans (List.tail_suffix k))
    · split at h
      · cases h
      · cases h
        exact h_folder

/-- A step without a name stays in the folder. -/
theorem eq_of_step_empty (h : t.step k "" = .ok l) : l = k := by
  unfold step at h
  rw [entry_of_step h] at h
  cases h
  rfl

variable {names : List String}

/-- **A location that can be written at** lies in a folder. -/
theorem isFolder_tail_of_target (h : t.target names = .ok l) : t.isFolder l.tail = true := by
  unfold target at h
  dsimp only at h
  split at h
  · cases h
    -- the root is around everything
    exact isFolder_iff.2 (Or.inl List.nil_suffix)
  · obtain ⟨around, -, h_step⟩ := bind_eq_ok_iff.1 h
    exact isFolder_tail_of_step h_step

/-- One more name is one more step. -/
theorem follow_concat {last : String} (h : last ≠ "") (names : List String) :
    t.follow (names ++ [last]) = t.follow names >>= fun around => t.step around last := by
  -- the first name decides where the way begins
  have h_start : (names ++ [last]).head? = some "" ↔ names.head? = some "" := by
    cases names with
    | nil => simpa using h
    | cons name names => rfl
  unfold follow
  rw [List.foldlM_append]
  simp only [h_start, List.foldlM_cons, List.foldlM_nil, bind_pure]

/-- **Reading leads to where writing leads**, unless that is a folder. -/
theorem follow_of_target (h_root : t.entry? [] = some .folder) (h : t.target names = .ok l)
    (h_l : t.entry? l ≠ some .folder) : t.follow names = .ok l := by
  have h_bare : (names.reverse.dropWhile (· = "")).reverse = names.rdropWhile (· = "") := rfl
  unfold target at h
  dsimp only at h
  rw [h_bare] at h
  split at h
  · -- nothing but slashes leads to the root
    cases h
    exact absurd h_root h_l
  · next last h_last =>
    obtain ⟨around, h_around, h_step⟩ := bind_eq_ok_iff.1 h
    split at h_step
    · -- a slash at the end stays in the folder before it
      rw [eq_of_step_empty h_step] at h_l
      exact absurd (entry_of_step h_step) h_l
    · next h_length =>
      have h_all : names.rdropWhile (· = "") = names :=
        (List.rdropWhile_prefix _ names).eq_of_length_le (Nat.le_of_not_lt h_length)
      have h_ne : last ≠ "" := by
        rintro rfl
        obtain ⟨h_some, h_empty⟩ := List.mem_getLast?_eq_getLast h_last
        exact List.rdropWhile_last_not _ names h_some (decide_eq_true h_empty.symm)
      rw [h_all] at h_last h_around
      rw [← List.dropLast_append_getLast? last h_last, follow_concat h_ne, h_around]
      exact h_step

/-- The same names lead to the same location as long as the folders on the way are there. -/
theorem follow_put (h_tail : t.isFolder l.tail = true) (h_l : t.entry? l ≠ some .folder)
    (h : t.follow names = .ok k) : (t.put l text).follow names = .ok k := by
  -- no step on the way starts at the new text, as it would start at a folder
  have h_step : ∀ {k k' name}, t.step k name = .ok k' → (t.put l text).step k name = .ok k' := by
    intro k k' name h_step
    have h_ne : k ≠ l := by
      rintro rfl
      exact h_l (entry_of_step h_step)
    rw [← h_step]
    unfold step
    rw [entry_put_ne h_tail h_ne]
  have h_run : ∀ {names : List String} {start k}, names.foldlM t.step start = .ok k →
      names.foldlM (t.put l text).step start = .ok k := by
    intro names
    induction names with
    | nil => exact fun h => h
    | cons name names ih =>
      intro start k h
      obtain ⟨next, h_next, h_rest⟩ := foldlM_cons_eq_ok_iff.1 h
      exact foldlM_cons_eq_ok_iff.2 ⟨next, h_step h_next, ih h_rest⟩
  exact h_run h

/-! ### Written texts -/

/-- How a tree changes when a text is written at a path. -/
inductive Written (t : FileTree) (path text : String) : FileTree → Prop
  /-- The text stands in one location, and everything else is as it was. It is read again from the
  path, provided that the root is a folder (`entry_root_ofFiles`). -/
  | file {t' : FileTree} (l : Location) (h_l : t'.entry? l = some (.text text))
    (h_others : ∀ k, k ≠ l → t'.entry? k = t.entry? k)
    (h_streams : t'.input = t.input ∧ t'.printed = t.printed ∧ t'.reported = t.reported)
    (h_read : t.entry? [] = some .folder → t'.readFile path = .ok text) : Written t path text t'
  /-- A device is given the text, and no location changes. -/
  | device {t' : FileTree} (l : Location) (device : Device)
    (h_l : t.entry? l = some (.device device)) (h_fed : t.feed text device = .ok t')
    (h_others : ∀ k, t'.entry? k = t.entry? k) : Written t path text t'

/-- A device is given a text without a change of the files. -/
theorem files_of_feed {device : Device} {t' : FileTree} (h : t.feed text device = .ok t') :
    t'.files = t.files := by
  cases device with
  | full => cases h
  | sink | input | output | errors =>
    cases h
    rfl

/-- **A text is written to one place.** -/
theorem written_of_writeFile {path : String} {t' : FileTree}
    (h : t.writeFile path text = .ok t') : t.Written path text t' := by
  unfold writeFile at h
  obtain ⟨names, h_names, h⟩ := bind_eq_ok_iff.1 h
  obtain ⟨l, h_target, h⟩ := bind_eq_ok_iff.1 h
  split at h
  · cases h
  · next device h_l =>
    refine .device l device h_l h fun k => ?_
    have h_files := files_of_feed h
    -- the locations hang on the files, and these are as they were
    unfold entry? isFolder
    rw [h_files]
  · next h_folder h_device =>
    cases h
    have h_tail := isFolder_tail_of_target h_target
    refine .file l entry_put_self (fun k h_ne => entry_put_ne h_tail h_ne) ⟨rfl, rfl, rfl⟩ ?_
    intro h_root
    -- what is written can be read, since nothing on the way there has changed
    have h_follow : (t.put l text).follow names = .ok l :=
      follow_put h_tail h_folder (follow_of_target h_root h_target h_folder)
    refine bind_eq_ok_iff.2 ⟨names, h_names, bind_eq_ok_iff.2 ⟨l, h_follow, ?_⟩⟩
    rw [entry_put_self]

/-- The root of a tree with texts in the working folder is a folder. -/
theorem entry_root_ofFiles (files : List (String × String)) (input : ByteArray) :
    entry? (ofFiles files input) [] = some .folder := by
  have h_lookup : (ofFiles files input).files.lookup [] = none := by
    refine List.lookup_eq_none_iff.2 fun f h_f => ?_
    -- every text stands below the working folder
    obtain ⟨g, -, rfl⟩ := List.mem_map.1 h_f
    simp [Location.below, workingFolder]
  unfold entry?
  rw [h_lookup, isFolder_iff.2 (Or.inl List.nil_suffix)]
  rfl

end RingDiagram.CommandLine.FileTree
