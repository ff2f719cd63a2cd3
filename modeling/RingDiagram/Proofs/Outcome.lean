import Mathlib.Control.Monad.Basic
import Mathlib.Data.List.Forall2
import Mathlib.Data.List.Perm.Basic

/-!
# Chains of fallible steps

What is known of a chain of fallible steps once its end is known: a chain that succeeds has
succeeded at every step (`bind_eq_ok_iff`, `foldlM_cons_eq_ok_iff`), and an error of a chain is the
error of one of its steps (`bind_eq_error`, `foldlM_eq_error`). Every reader of the library is such
a chain, so its laws are stated for one step and carried along by these.

Where the faults of the steps are known beforehand, those of the chain are: `FailsWith` says of a
step which fault it has, if any, and the fault of two steps is that of the first or else that of the
second (`FailsWith.bind`). A function that is a chain of such steps has one law: what comes out of it
is the `outcome` of a fault and a value, and that of a chain is known from those of its steps
(`bind_outcome`, `mapM_outcome`).

Two runs are compared step by step. `KeepsUp` says that one run comes to the result of another,
changed in a given way, or fails as it does, but for errors that are excused; it is a law of two
chains as soon as it is one of their steps (`KeepsUp.bind`, `KeepsUp.foldlM`).
-/

namespace RingDiagram

variable {ε α β : Type}

/-- Two steps succeed when the first does and the second does on its result. -/
theorem bind_eq_ok_iff {x : Except ε α} {f : α → Except ε β} {b : β} :
    (x >>= f) = .ok b ↔ ∃ a, x = .ok a ∧ f a = .ok b := by
  cases x with
  | error e =>
    refine ⟨fun h => ?_, ?_⟩
    · cases h
    · rintro ⟨a, h_a, -⟩
      cases h_a
  | ok a =>
    refine ⟨fun h => ⟨a, rfl, h⟩, ?_⟩
    rintro ⟨a', h_a, h_b⟩
    cases h_a
    exact h_b

/-- An error of two steps is the error of one of them. -/
theorem bind_eq_error {x : Except ε α} {f : α → Except ε β} {e : ε} (h : (x >>= f) = .error e) :
    x = .error e ∨ ∃ a, x = .ok a ∧ f a = .error e := by
  cases x with
  | error e' =>
    cases h
    exact Or.inl rfl
  | ok a => exact Or.inr ⟨a, rfl, h⟩

/-- A result that is changed afterwards succeeds when it did before. -/
theorem map_eq_ok_iff {x : Except ε α} {f : α → β} {b : β} :
    x.map f = .ok b ↔ ∃ a, x = .ok a ∧ f a = b := by
  cases x <;> simp [Except.map]

/-- A result that is changed afterwards keeps its error. -/
theorem map_eq_error_iff {x : Except ε α} {f : α → β} {e : ε} :
    x.map f = .error e ↔ x = .error e := by
  cases x <;> simp [Except.map]

/-- A result that is changed twice is changed once. -/
theorem map_map {γ : Type} (x : Except ε α) (f : α → β) (g : β → γ) :
    (x.map f).map g = x.map (g ∘ f) := by
  cases x <;> rfl

/-- A step that only changes the result before it is a change of that result. -/
theorem bind_ok_eq_map (x : Except ε α) (f : α → β) : (x >>= fun a => .ok (f a)) = x.map f := by
  cases x <;> rfl

/-- A change before a step is made in the step. -/
theorem map_bind_eq {γ : Type} (x : Except ε α) (g : α → γ) (f : γ → Except ε β) :
    (x.map g >>= f) = x >>= fun a => f (g a) := by
  cases x <;> rfl

/-- A change of the result of two steps is made in the second. -/
theorem bind_map_eq {γ : Type} (x : Except ε α) (f : α → Except ε β) (g : β → γ) :
    (x >>= f).map g = x >>= fun a => (f a).map g := by
  cases x <;> rfl

/-- A fold succeeds when its first step does and the rest does from there. -/
theorem foldlM_cons_eq_ok_iff {f : β → α → Except ε β} {a : α} {l : List α} {b c : β} :
    (a :: l).foldlM f b = .ok c ↔ ∃ b', f b a = .ok b' ∧ l.foldlM f b' = .ok c := by
  rw [List.foldlM_cons, bind_eq_ok_iff]

/-- **The error of a fold** is the error of one of its steps, so what holds of the errors of every
step holds of it. -/
theorem foldlM_eq_error {f : β → α → Except ε β} {P : ε → Prop} {l : List α} {b : β} {e : ε}
    (h_step : ∀ b, ∀ a ∈ l, ∀ e, f b a = .error e → P e) (h : l.foldlM f b = .error e) : P e := by
  induction l generalizing b with
  | nil => cases h
  | cons a l ih =>
    rw [List.foldlM_cons] at h
    -- a fold that fails does so at its first element, or further on from some other state
    rcases bind_eq_error h with h_a | ⟨b', -, h_l⟩
    · exact h_step b a List.mem_cons_self e h_a
    · exact ih (fun b c hc => h_step b c (List.mem_cons_of_mem a hc)) h_l

/-! ### Errors that are changed -/

/-- A changed error is the change of an error. -/
theorem mapError_eq_error_iff {ε' : Type} {g : ε → ε'} {x : Except ε α} {e' : ε'} :
    x.mapError g = .error e' ↔ ∃ e, x = .error e ∧ g e = e' := by
  cases x <;> simp [Except.mapError]

/-- Two steps have changed errors when each of them has. -/
theorem mapError_bind {ε' : Type} (g : ε → ε') (x : Except ε α) (f : α → Except ε β) :
    (x >>= f).mapError g = x.mapError g >>= fun a => (f a).mapError g := by
  cases x <;> rfl

/-- The result and the error are changed in either order. -/
theorem mapError_map {ε' : Type} (g : ε → ε') (x : Except ε α) (f : α → β) :
    (x.map f).mapError g = (x.mapError g).map f := by
  cases x <;> rfl

/-- **A fold has changed errors** when every step has: if other elements change no more than the
errors of one step, they change no more than the error of the fold. -/
theorem foldlM_map_mapError {ε' γ : Type} {g : ε → ε'} {k : α → γ} {f : β → α → Except ε β}
    {f' : β → γ → Except ε' β} (h_step : ∀ b a, f' b (k a) = (f b a).mapError g) (l : List α)
    (b : β) : (l.map k).foldlM f' b = (l.foldlM f b).mapError g := by
  induction l generalizing b with
  | nil => rfl
  | cons a l ih =>
    -- both sides take the first step, and the rest goes on from the same state
    rw [List.map_cons, List.foldlM_cons, List.foldlM_cons, mapError_bind, h_step]
    congr 1
    funext b'
    exact ih b'

/-! ### Steps for all elements of a list -/

/-- Steps that agree on a list come to the same for all of it. -/
theorem mapM_congr {f g : α → Except ε β} {l : List α} (h : ∀ a ∈ l, f a = g a) :
    l.mapM f = l.mapM g := by
  induction l with
  | nil => rfl
  | cons a l ih =>
    obtain ⟨h_a, h_l⟩ := List.forall_mem_cons.1 h
    rw [List.mapM_cons, List.mapM_cons, h_a, ih h_l]

/-- A step for all elements succeeds when it does for every one of them, in order. -/
theorem mapM_eq_ok_iff {f : α → Except ε β} {l : List α} {bs : List β} :
    l.mapM f = .ok bs ↔ List.Forall₂ (fun a b => f a = .ok b) l bs := by
  induction l generalizing bs with
  | nil =>
    rw [List.forall₂_nil_left_iff]
    exact ⟨fun h => (Except.ok.inj h).symm, fun h => congrArg Except.ok h.symm⟩
  | cons a l ih =>
    rw [List.mapM_cons, bind_eq_ok_iff, List.forall₂_cons_left_iff]
    -- the first result and the other results are chosen one after the other on both sides
    refine exists_congr fun b => ?_
    rw [bind_eq_ok_iff, ← exists_and_left]
    refine exists_congr fun bs' => and_congr_right fun _ => and_congr ih ?_
    -- the list is put together only after the steps, which cannot fail
    exact ⟨fun h => (Except.ok.inj h).symm, fun h => congrArg Except.ok h.symm⟩

/-- A step that is taken for all elements has succeeded for each of them. -/
theorem exists_ok_of_mapM {f : α → Except ε β} {l : List α} {bs : List β} (h : l.mapM f = .ok bs) :
    ∀ a ∈ l, ∃ b, f a = .ok b := by
  rw [mapM_eq_ok_iff] at h
  induction h with
  | nil => simp
  | @cons c d l bs h_c h_rest ih => exact List.forall_mem_cons.2 ⟨⟨d, h_c⟩, ih⟩

/-- Elements stand beside their results. -/
theorem mem_zip_iff_of_mapM {f : α → Except ε β} {l : List α} {bs : List β}
    (h : l.mapM f = .ok bs) {a : α} {b : β} : (a, b) ∈ l.zip bs ↔ a ∈ l ∧ f a = .ok b := by
  rw [mapM_eq_ok_iff] at h
  induction h with
  | nil => simp
  | @cons c d l bs h_c h_rest ih =>
    rw [List.zip_cons_cons, List.mem_cons, List.mem_cons, ih, Prod.mk.injEq]
    -- an element beside its result is the first one, or it is further on
    constructor
    · rintro (⟨rfl, rfl⟩ | ⟨h_a, h_b⟩)
      · exact ⟨Or.inl rfl, h_c⟩
      · exact ⟨Or.inr h_a, h_b⟩
    · rintro ⟨rfl | h_a, h_b⟩
      · -- a step has one result
        exact Or.inl ⟨rfl, Except.ok.inj (h_b.symm.trans h_c)⟩
      · exact Or.inr ⟨h_a, h_b⟩

/-- A result of steps for all elements is the result of one of them. -/
theorem exists_of_mem_mapM {f : α → Except ε β} {l : List α} {bs : List β} (h : l.mapM f = .ok bs)
    {b : β} (h_b : b ∈ bs) : ∃ a ∈ l, f a = .ok b := by
  rw [mapM_eq_ok_iff] at h
  induction h with
  | nil => cases h_b
  | @cons c d l bs h_c h_rest ih =>
    rcases List.mem_cons.1 h_b with rfl | h_b
    · exact ⟨c, List.mem_cons_self, h_c⟩
    · obtain ⟨a, h_a, h_ab⟩ := ih h_b
      exact ⟨a, List.mem_cons_of_mem c h_a, h_ab⟩

/-- **Steps for all elements in another order** come to the same results in another order. -/
theorem exists_mapM_of_perm {f : α → Except ε β} {l l' : List α} {bs : List β} (h_perm : l'.Perm l)
    (h : l.mapM f = .ok bs) : ∃ bs', l'.mapM f = .ok bs' ∧ bs'.Perm bs := by
  -- permuting the elements of a relation in step with them permutes what they are related to
  obtain ⟨bs', h_steps, h_bs⟩ := List.perm_comp_forall₂ h_perm (mapM_eq_ok_iff.1 h)
  exact ⟨bs', mapM_eq_ok_iff.2 h_steps, h_bs⟩

/-! ### Faults that are known beforehand -/

/-- What is found first is found in the first element, or else in the others. -/
theorem findSome?_cons_eq_or (f : α → Option β) (a : α) (l : List α) :
    (a :: l).findSome? f = (f a).or (l.findSome? f) := by
  rw [List.findSome?_cons]
  cases f a with
  | none => rfl
  | some b => rfl

/-- The step fails with exactly the fault that is given, and succeeds if there is none. -/
def FailsWith (x : Except ε α) (fault : Option ε) : Prop :=
  ∀ e, x = .error e ↔ fault = some e

namespace FailsWith

variable {x : Except ε α} {fault fault' : Option ε}

theorem ok (a : α) : FailsWith (.ok a : Except ε α) none := by
  intro e
  simp

theorem error (e : ε) : FailsWith (.error e : Except ε α) (some e) := by
  intro e'
  simp

/-- A step succeeds if it has no fault. -/
theorem exists_ok_iff (h : FailsWith x fault) : (∃ a, x = .ok a) ↔ fault = none := by
  cases x with
  | error e =>
    rw [(h e).1 rfl]
    simp
  | ok a =>
    refine ⟨fun _ => ?_, fun _ => ⟨a, rfl⟩⟩
    rw [Option.eq_none_iff_forall_ne_some]
    intro e h_e
    -- a step has only one outcome
    have h_error := (h e).2 h_e
    cases h_error

theorem ite {p : Prop} [Decidable p] {y : Except ε α} (h : p → FailsWith x fault)
    (h' : ¬ p → FailsWith y fault') :
    FailsWith (if p then x else y) (if p then fault else fault') := by
  split
  · next h_p => exact h h_p
  · next h_p => exact h' h_p

/-- A result that is changed afterwards has the fault that it had before. -/
theorem map (h : FailsWith x fault) (f : α → β) : FailsWith (x.map f) fault :=
  fun e => map_eq_error_iff.trans (h e)

/-- A step that only changes the result before it adds no fault. -/
theorem bind_pure (h : FailsWith x fault) (f : α → β) :
    FailsWith (x >>= fun a => pure (f a)) fault := by
  have h_map : (x >>= fun a => pure (f a)) = x.map f := bind_ok_eq_map x f
  rw [h_map]
  exact h.map f

/-- **Two steps** have the fault of the first, or else that of the second. -/
theorem bind {f : α → Except ε β} (h : FailsWith x fault)
    (h_next : ∀ a, x = .ok a → FailsWith (f a) fault') : FailsWith (x >>= f) (fault.or fault') := by
  cases x with
  -- the first step is at fault, and the second is not come to
  | error e =>
    have h_fault : fault = some e := (h e).1 rfl
    rw [h_fault]
    exact error e
  | ok a =>
    -- the first step has no fault, so the one of the second decides
    rw [h.exists_ok_iff.1 ⟨a, rfl⟩, Option.none_or]
    exact h_next a rfl

/-- **A step for all elements** has the first fault among them. -/
theorem mapM {f : α → Except ε β} {fault : α → Option ε} {l : List α}
    (h : ∀ a ∈ l, FailsWith (f a) (fault a)) : FailsWith (l.mapM f) (l.findSome? fault) := by
  induction l with
  | nil => exact ok []
  | cons a l ih =>
    obtain ⟨h_a, h_l⟩ := List.forall_mem_cons.1 h
    rw [List.mapM_cons, findSome?_cons_eq_or]
    -- the first element has its fault before those of the others, and keeping its result adds none
    refine h_a.bind fun b _ => ?_
    exact (ih h_l).bind_pure (b :: ·)

end FailsWith

/-! ### Outcomes that are known exactly -/

/-- The outcome of a step whose fault is known: the fault, or this value if there is none. -/
def outcome (fault : Option ε) (a : α) : Except ε α :=
  match fault with
  | some e => .error e
  | none => .ok a

/-- A step whose outcome is known fails with the fault that there is. -/
theorem FailsWith.of_outcome {x : Except ε α} {f : α → β} {fault : Option ε} {b : β}
    (h : x.map f = outcome fault b) : FailsWith x fault := by
  intro e
  -- a change of the result does not touch an error, so the outcome tells it
  rw [← map_eq_error_iff, h]
  cases fault with
  | some e' => simp [outcome]
  | none => simp [outcome]

/-- What succeeds although its fault is known has none, and the result has this value. -/
theorem value_of_outcome {x : Except ε α} {f : α → β} {fault : Option ε} {b : β} {a : α}
    (h : x.map f = outcome fault b) (h_x : x = .ok a) : fault = none ∧ f a = b := by
  rw [h_x] at h
  cases fault with
  | some e => cases h
  | none => exact ⟨rfl, Except.ok.inj h⟩

/-- **Two steps** have the fault of the first or else that of the second, and the value of the
second. -/
theorem bind_outcome {γ δ : Type} {x : Except ε α} {f : α → β} {g : α → Except ε γ} {k : γ → δ}
    {fault fault' : Option ε} {b : β} {d : δ} (h : x.map f = outcome fault b)
    (h_next : ∀ a, f a = b → (g a).map k = outcome fault' d) :
    (x >>= g).map k = outcome (fault.or fault') d := by
  cases x with
  | error e =>
    -- the second step is not come to
    have h_fault : fault = some e := (FailsWith.of_outcome h e).1 rfl
    rw [h_fault]
    rfl
  | ok a =>
    obtain ⟨h_fault, h_a⟩ := value_of_outcome h rfl
    rw [h_fault, Option.none_or, ← h_next a h_a]
    rfl

/-- A step that only changes the result before it adds no fault. -/
theorem bind_pure_outcome {γ δ : Type} {x : Except ε α} {f : α → β} {g : α → γ} {k : γ → δ}
    {fault : Option ε} {b : β} {d : δ} (h : x.map f = outcome fault b)
    (h_last : ∀ a, f a = b → k (g a) = d) :
    (x >>= fun a => pure (g a)).map k = outcome fault d := by
  -- the last step as one that has no fault of its own
  rw [← Option.or_none (o := fault)]
  refine bind_outcome h fun a h_a => ?_
  rw [← h_last a h_a]
  rfl

/-- **A step for all elements** has the first fault among them, or else all their values. -/
theorem mapM_outcome {γ : Type} {f : α → Except ε β} {g : β → γ} {fault : α → Option ε} {k : α → γ}
    {l : List α} (h : ∀ a ∈ l, (f a).map g = outcome (fault a) (k a)) :
    (l.mapM f).map (List.map g) = outcome (l.findSome? fault) (l.map k) := by
  induction l with
  | nil => rfl
  | cons a l ih =>
    obtain ⟨h_a, h_l⟩ := List.forall_mem_cons.1 h
    rw [List.mapM_cons, findSome?_cons_eq_or]
    -- the first element decides before the others, whose results are put behind its own
    refine bind_outcome h_a fun b h_b => bind_pure_outcome (ih h_l) fun bs h_bs => ?_
    rw [List.map_cons, List.map_cons, h_b, h_bs]

/-! ### Two runs side by side -/

/-- The second of two results keeps up with the first: it is the first one, changed, or the same
error. Nothing is asked of it where the error of the first is excused. -/
structure KeepsUp (excused : ε → Prop) (g : α → β) (x : Except ε α) (y : Except ε β) : Prop where
  ok : ∀ a, x = .ok a → y = .ok (g a)
  error : ∀ e, x = .error e → ¬ excused e → y = .error e

namespace KeepsUp

variable {α' β' : Type} {excused : ε → Prop} {g : α → β} {g' : α' → β'} {x : Except ε α}
  {y : Except ε β}

/-- A change of the result keeps up with it. -/
theorem of_eq_map (h : y = x.map g) : KeepsUp excused g x y where
  ok a h_a := by
    rw [h, h_a]
    rfl
  error e h_e _ := by
    rw [h, h_e]
    rfl

/-- Where no error is excused, only a change of the result keeps up with it. -/
-- an outcome is a result or an error, and nothing is excused of either
theorem eq_map (h : KeepsUp (fun _ => False) g x y) : y = x.map g := by
  cases h_x : x with
  | ok a => exact h.ok a h_x
  | error e => exact h.error e h_x id

/-- Anything keeps up with an error that is excused. -/
theorem of_excused {e : ε} (h : excused e) (y : Except ε β) : KeepsUp excused g (.error e) y where
  ok a h_a := nomatch h_a
  error e' h_e h_not := by
    cases h_e
    exact absurd h h_not

/-- **Two steps** keep up with two others when each does with its own. -/
theorem bind {f : α → Except ε α'} {f' : β → Except ε β'} (h : KeepsUp excused g x y)
    (h_next : ∀ a, x = .ok a → KeepsUp excused g' (f a) (f' (g a))) :
    KeepsUp excused g' (x >>= f) (y >>= f') := by
  cases h_x : x with
  | ok a =>
    rw [h.ok a h_x]
    exact h_next a h_x
  | error e =>
    -- an error that is excused asks nothing of the other run, and any other is the same there
    by_cases h_e : excused e
    · exact of_excused h_e _
    · rw [h.error e h_x h_e]
      exact of_eq_map rfl

/-- Results that are changed further keep up if the changes agree. -/
theorem map {k : α → α'} {k' : β → β'} (h : KeepsUp excused g x y)
    (h_change : ∀ a, k' (g a) = g' (k a)) : KeepsUp excused g' (x.map k) (y.map k') where
  ok b h_b := by
    obtain ⟨a, h_a, rfl⟩ := map_eq_ok_iff.1 h_b
    rw [h.ok a h_a, ← h_change]
    rfl
  error e h_e h_not := by
    rw [h.error e (map_eq_error_iff.1 h_e) h_not]
    rfl

/-- **A fold** keeps up with another one over the same elements when every step does. -/
theorem foldlM {γ : Type} {f : α → γ → Except ε α} {f' : β → γ → Except ε β} {l : List γ}
    (h_step : ∀ c ∈ l, ∀ a, KeepsUp excused g (f a c) (f' (g a) c)) (a : α) :
    KeepsUp excused g (l.foldlM f a) (l.foldlM f' (g a)) := by
  induction l generalizing a with
  | nil => exact of_eq_map rfl
  | cons c l ih =>
    obtain ⟨h_c, h_l⟩ := List.forall_mem_cons.1 h_step
    rw [List.foldlM_cons, List.foldlM_cons]
    -- one step keeps up, and the rest does from the result, whatever it is
    exact (h_c a).bind fun a' _ => ih h_l a'

end KeepsUp

end RingDiagram
