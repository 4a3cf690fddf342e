import TurtleGraphics.Keyword
import TurtleGraphics.Program.Listing

/-! # The canonical text of a program

Every top-level statement stands on a line of its own, with one space between its words. The body of a loop is
put in quotes unless it is exactly one statement. -/

namespace TurtleGraphics

namespace Statement

/-- A part of a text still to be written: words as they stand, or a statement. -/
inductive Piece where
  | text (words : String)
  | statement (s : Statement)

/-- The body of a loop as it is written. -/
def bodyPieces : List Statement → List Piece
  | [] => [.text "\"\""]
  | [s] => [.statement s]
  | s :: rest =>
    .text "\"" :: .statement s :: rest.flatMap (fun t => [.text " ", .statement t]) ++ [.text "\""]

/-- A keyword with a number after it. -/
def withNumber (keyword : Keyword) (n : UInt32) : String :=
  keyword.text ++ " " ++ n.toNat.repr

/-- A statement as it is written. -/
def pieces : Statement → List Piece
  | move .forward distance => [.text (withNumber .forw distance ++ ".")]
  | move .backward distance => [.text (withNumber .back distance ++ ".")]
  | turn .left degrees => [.text (withNumber .left degrees ++ ".")]
  | turn .right degrees => [.text (withNumber .right degrees ++ ".")]
  | pen true => [.text (Keyword.down.text ++ ".")]
  | pen false => [.text (Keyword.up.text ++ ".")]
  | color c => [.text (Keyword.color.text ++ " " ++ c.text ++ ".")]
  | loop count body => .text (withNumber .rep count ++ " ") :: bodyPieces body

/-- How many statements a piece holds, at every depth. -/
def Piece.size : Piece → Nat
  | text _ => 0
  | statement s => s.size

/-- How many statements some pieces hold, at every depth. -/
def sizePieces : List Piece → Nat
  | [] => 0
  | piece :: rest => piece.size + sizePieces rest

@[simp] theorem sizePieces_append (a b : List Piece) : sizePieces (a ++ b) = sizePieces a + sizePieces b := by
  induction a with
  | nil => simp [sizePieces]
  | cons piece rest ih => simp [sizePieces, ih, Nat.add_assoc]

theorem sizePieces_bodyPieces (body : List Statement) : sizePieces (bodyPieces body) = sizeAll body := by
  have separated (rest : List Statement) :
      sizePieces (rest.flatMap fun t => [Piece.text " ", .statement t]) = sizeAll rest := by
    induction rest with
    | nil => rfl
    | cons t rest ih => simp [sizePieces, Piece.size, sizeAll, ih]
  cases body with
  | nil => rfl
  | cons s rest =>
    cases rest with
    | nil => rfl
    | cons t rest =>
      have := separated (t :: rest)
      simp only [bodyPieces, List.cons_append, sizePieces_append, sizePieces, this, Piece.size, sizeAll]
      omega

theorem sizePieces_pieces (s : Statement) : sizePieces s.pieces = sizeAll s.body := by
  match s with
  | move .forward _ | move .backward _ | turn .left _ | turn .right _ | pen true | pen false | color _ => rfl
  | loop _ body => simp [pieces, sizePieces, Piece.size, Statement.body, sizePieces_bodyPieces]

/-- Writes the pieces in `work` after the text in `done`. -/
def write (done : String) : List Piece → String
  | [] => done
  | .text words :: rest => write (done ++ words) rest
  | .statement s :: rest => write done (s.pieces ++ rest)
termination_by work => (sizePieces work, work.length)
decreasing_by
  · simp [Prod.lex_def, sizePieces, Piece.size]
  · apply Prod.Lex.left
    rw [sizePieces_append, sizePieces, Piece.size, sizePieces_pieces, size_eq s]
    omega

end Statement

/-- The canonical text of a program. -/
def Program.format (p : Program) : String :=
  Statement.write "" (p.statements.flatMap fun s => [.statement s, .text "\n"])

end TurtleGraphics
