/-! # Positions in a text

A position counts characters: `index` from 0 over the whole text, `line` and `column` from 1. A newline
belongs to the line that it ends. -/

namespace TurtleGraphics

/-- A place in a text. -/
structure Position where
  index : Nat
  line : Nat
  column : Nat
deriving Repr, DecidableEq

namespace Position

/-- Where every text starts. -/
def start : Position := ⟨0, 1, 1⟩

instance : Inhabited Position := ⟨start⟩

/-- The position after one more character. -/
def advance (p : Position) (c : Char) : Position :=
  if c = '\n' then ⟨p.index + 1, p.line + 1, 1⟩ else ⟨p.index + 1, p.line, p.column + 1⟩

/-- The position after a stretch of text. -/
def after (p : Position) (text : List Char) : Position :=
  text.foldl advance p

/-- Every position passed in a stretch of text, its two ends among them. -/
def along (p : Position) (text : List Char) : Array Position :=
  (text.foldl (fun (q, passed) c => (q.advance c, passed.push (q.advance c))) (p, #[p])).2

@[simp] theorem after_nil (p : Position) : p.after [] = p := rfl

@[simp] theorem after_cons (p : Position) (c : Char) (text : List Char) :
    p.after (c :: text) = (p.advance c).after text := rfl

theorem after_append (p : Position) (a b : List Char) : p.after (a ++ b) = (p.after a).after b :=
  List.foldl_append

theorem index_advance (p : Position) (c : Char) : (p.advance c).index = p.index + 1 := by
  unfold advance
  split <;> rfl

theorem index_after (p : Position) (text : List Char) : (p.after text).index = p.index + text.length := by
  induction text generalizing p with
  | nil => rfl
  | cons c rest ih =>
    rw [after_cons, ih, index_advance, List.length_cons]
    omega

end Position

end TurtleGraphics
