import RingDiagram.Text.Blank
import RingDiagram.Text.WordChar

/-!
# Tokens

The forms of a line are told apart by its tokens: the maximal runs of word characters, and every
other character that is not blank by itself. Blanks separate words and are otherwise dropped.
-/

namespace RingDiagram.Notation

open Text

/-- A piece of a line. -/
inductive Token where
  | word (letters : List Char)
  | mark (c : Char)
  deriving DecidableEq, Repr, Inhabited

/-- The tokens of a text whose first character `c` is a word character, from those of the rest:
the character joins the word that begins right after it, if one does. -/
def startWord (c : Char) (joins : Bool) : List Token → List Token
  | .word letters :: rest =>
    if joins then .word (c :: letters) :: rest else .word [c] :: .word letters :: rest
  | rest => .word [c] :: rest

/-- Whether a text begins with a word character. -/
def beginsWord (text : List Char) : Bool :=
  text.head?.any isWordChar

/-- The tokens of a text. -/
def tokens : List Char → List Token
  | [] => []
  | c :: rest =>
    if isWordChar c then startWord c (beginsWord rest) (tokens rest)
    else if isBlank c then tokens rest
    else .mark c :: tokens rest

@[simp] theorem startWord_false (c : Char) (ts : List Token) :
    startWord c false ts = .word [c] :: ts := by
  cases ts with
  | nil => rfl
  | cons t ts => cases t <;> rfl

/-- A word that nothing continues is one token. -/
theorem tokens_word_append {letters rest : List Char} (nonempty : letters ≠ [])
    (word : ∀ c ∈ letters, isWordChar c = true) (ends : beginsWord rest = false) :
    tokens (letters ++ rest) = .word letters :: tokens rest := by
  induction letters with
  | nil => exact absurd rfl nonempty
  | cons c more ih =>
    have head : isWordChar c = true := word c List.mem_cons_self
    -- the last letter starts the word; any other joins the word of the letters after it
    cases more with
    | nil => simp [tokens, head, ends]
    | cons d more =>
      have next : isWordChar d = true := word d (by simp)
      have step := ih (by simp) fun x hx => word x (List.mem_cons_of_mem c hx)
      rw [List.cons_append, tokens, if_pos head, step]
      simp [startWord, beginsWord, next]

end RingDiagram.Notation
