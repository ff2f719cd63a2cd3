import RingDiagram.Proofs.Drawing.Svg.Elements

/-!
# Canvases and documents agree

A canvas and a document of one size are asked the same. What a surface that records answers to a
request hangs on its size alone, and recording does not change the size, so the two give the same
answers all along (`Records.answers_eq`). What they have recorded in the end is the same too: the
document has the elements of the commands on the canvas (`surfaces_agree`).
-/

namespace RingDiagram

open Decimal

/-! ### Answers -/

/-- What an action comes to, without the surface that it leaves behind. -/
def resultOf {ε σ β : Type} : EStateM.Result ε σ β → Except ε β
  | .ok b _ => .ok b
  | .error e _ => .error e

/-- What a surface says to a request, with the errors of its kind. -/
inductive Answer where
  | command (result : Except SurfaceError Unit)
  | model (result : Except RenderError Unit)
  | source (result : Except Failure Unit)

variable {α : Type} [Add α] [Sub α] [Mul α] [Div α] [Neg α] [NatCast α] [LT α] [DecidableLT α]
  [BEq α] [Scalar α]

namespace Request

/-- What a surface says to a request. -/
def answer {σ : Type} [Surface σ α] (s : σ) : Request α → Answer
  | .command c => .command (resultOf (Surface.draw c s))
  | .model m settings => .model (resultOf (drawModel m settings s))
  | .source text settings => .source (resultOf (drawSource text settings s))

/-- What surfaces of the given size say to a request. -/
def answerAt (width height : α) : Request α → Answer
  | .command c => .command c.requireFinite
  | .model m settings => .model ((m.drawing settings width height).map fun _ => ())
  | .source text settings =>
    .source <|
      match Notation.read text with
      | .error e => .error (.parse e)
      | .ok m => ((m.drawing settings width height).map fun _ => ()).mapError .render

end Request

variable {σ : Type} [Surface σ α]

/-- What a surface says to the requests of a history, each made of the surface that the one before
it left behind. -/
def answers (s : σ) : List (Request α) → List Answer
  | [] => []
  | r :: history => r.answer s :: answers (r.after s) history

namespace Records

variable {extend : σ → List (Command α) → σ} (h : Records extend)
include h

/-- **One answer** hangs on the size of the surface. -/
theorem answer_eq (s : σ) (r : Request α) :
    r.answer s = r.answerAt (Surface.size s).1 (Surface.size s).2 := by
  -- a surface that records only tells what the commands come to, whatever it holds
  cases r with
  | command c =>
    rw [Request.answer, Request.answerAt, h.draw_eq, Command.requireFinite]
    split
    · rfl
    · rfl
  | model m settings =>
    rw [Request.answer, Request.answerAt, h.drawModel_eq]
    cases m.drawing settings (Surface.size s).1 (Surface.size s).2 with
    | error e => rfl
    | ok commands => rfl
  | source text settings =>
    rw [Request.answer, Request.answerAt, h.drawSource_eq]
    cases Notation.read text with
    | error e => rfl
    | ok m =>
      dsimp only
      cases m.drawing settings (Surface.size s).1 (Surface.size s).2 with
      | error e => rfl
      | ok commands => rfl

/-- **All answers** hang on the size of the surface at the start. -/
theorem answers_eq (s : σ) (history : List (Request α)) :
    answers s history =
      history.map (Request.answerAt (Surface.size s).1 (Surface.size s).2) := by
  induction history generalizing s with
  | nil => rfl
  | cons r history ih =>
    -- no request changes the size
    have h_size : Surface.size (r.after s) = Surface.size s := by
      rw [h.after_eq, h.size_extend]
    rw [answers, ih, h_size, h.answer_eq, List.map_cons]

end Records

/-! ### Documents -/

namespace Svg

/-- The first line of a document. -/
def header (width height : Float) : String :=
  "<svg xmlns=\"http://www.w3.org/2000/svg\" width=\"" ++ plainText width ++ "\" height=\"" ++
    plainText height ++ "\" viewBox=\"0 0 " ++ plainText width ++ " " ++ plainText height ++ "\">"

/-- The tag of the root is the first line, as nothing in it is escaped. -/
theorem Document.openTag_root (d : Document) :
    d.root.openTag = (header d.width d.height).toList := by
  have h_xmlns : Plain "http://www.w3.org/2000/svg".toList := by decide
  have h_width := plain_plainText d.width
  have h_height := plain_plainText d.height
  have h_box : Plain ("0 0 " ++ plainText d.width ++ " " ++ plainText d.height).toList := by
    -- the numbers are plain, and between them are blanks
    simp only [String.toList_append, plain_append_iff, h_width, h_height, and_true]
    decide
  unfold Element.openTag Element.beginning root header
  simp only [List.flatMap_cons, List.flatMap_nil, Attribute.write, h_xmlns.escape_eq_self,
    h_width.escape_eq_self, h_height.escape_eq_self, h_box.escape_eq_self]
  simp

end Svg

/-- **Canvases and documents agree.** A canvas and a document of one size give the same answers to
the requests of a history, command by command and drawing by drawing. In the end the canvas holds
the commands of the requests that succeeded, in order, and the document consists of its first line,
the elements of these commands in the same order, but for arcs that sweep next to nothing, and the
line that closes it. -/
theorem surfaces_agree (width height : Float) (history : List (Request Float)) :
    let canvas := afterHistory ({ width, height } : Canvas Float) history
    let document := afterHistory ({ width, height } : Svg.Document) history
    answers ({ width, height } : Canvas Float) history =
        answers ({ width, height } : Svg.Document) history ∧
      canvas.commands.toList = history.flatMap (Request.commands width height) ∧
      ∃ elements : List Svg.Element,
        elements.map some =
          (canvas.commands.toList.filter (!·.vanishes)).map (Svg.element? width height) ∧
        document.text.toList = (Svg.header width height).toList ++ '\n' ::
          (elements.flatMap (fun e => e.write ++ ['\n']) ++ "</svg>\n".toList) := by
  intro canvas document
  have h_answers : answers ({ width, height } : Canvas Float) history =
      answers ({ width, height } : Svg.Document) history := by
    -- both surfaces have the same size, and no more of them enters into an answer
    rw [Canvas.records.answers_eq, Svg.Document.records.answers_eq]
    rfl
  have h_canvas : canvas.commands.toList = history.flatMap (Request.commands width height) := by
    have h_all : canvas = Canvas.extend { width, height }
        (history.flatMap (Request.commands width height)) :=
      Canvas.records.afterHistory_eq _ history
    rw [h_all]
    simp [Canvas.extend]
  refine ⟨h_answers, h_canvas, document.elements.toList, ?_, ?_⟩
  · rw [h_canvas]
    exact Svg.Document.elements_afterHistory width height history
  · -- the first line is that of an empty document of this size
    have h_root : document.root = Svg.Document.root { width, height } :=
      Svg.Document.root_afterHistory width height history
    rw [Svg.Document.toList_text, h_root, Svg.Document.openTag_root]

end RingDiagram
