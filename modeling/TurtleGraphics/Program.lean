import TurtleGraphics.Color

/-! # Programs

A program is a list of statements. A loop holds statements of its own, so programs are trees, and they may be
as deep as a text is long: what walks over a whole program keeps a list of the statements still to visit
instead of descending. -/

namespace TurtleGraphics

/-- The two ways along the heading. -/
inductive Direction where
  | forward
  | backward
deriving Repr, DecidableEq

/-- The two ways to turn. -/
inductive Side where
  | left
  | right
deriving Repr, DecidableEq

/-- One instruction to the turtle. -/
inductive Statement where
  | move (direction : Direction) (distance : UInt32)
  | turn (side : Side) (degrees : UInt32)
  | pen (down : Bool)
  | color (color : Color)
  | loop (count : UInt32) (body : List Statement)
deriving Repr

/-- A list of statements, run in order. -/
structure Program where
  statements : List Statement
deriving Repr

namespace Statement

/-! ### Sizes -/

mutual

/-- How many statements there are in a statement, itself included. -/
def size : Statement → Nat
  | loop _ body => 1 + sizeAll body
  | move _ _ | turn _ _ | pen _ | color _ => 1

/-- How many statements there are in a list of statements, at every depth. -/
def sizeAll : List Statement → Nat
  | [] => 0
  | s :: rest => s.size + sizeAll rest

end

@[simp] theorem sizeAll_append (a b : List Statement) : sizeAll (a ++ b) = sizeAll a + sizeAll b := by
  induction a with
  | nil => simp [sizeAll]
  | cons s rest ih => simp [sizeAll, ih, Nat.add_assoc]

end Statement

namespace Program

/-! ### Building programs -/

/-- The program without statements. -/
def empty : Program := ⟨[]⟩

instance : Inhabited Program := ⟨empty⟩

/-- Adds a statement at the end. -/
def push (p : Program) (s : Statement) : Program := ⟨p.statements ++ [s]⟩

/-- Moves along the heading. -/
def forward (p : Program) (distance : UInt32) : Program := p.push (.move .forward distance)

/-- Moves against the heading. -/
def backward (p : Program) (distance : UInt32) : Program := p.push (.move .backward distance)

/-- Turns counter-clockwise. -/
def left (p : Program) (degrees : UInt32) : Program := p.push (.turn .left degrees)

/-- Turns clockwise. -/
def right (p : Program) (degrees : UInt32) : Program := p.push (.turn .right degrees)

/-- Lowers the pen. -/
def penDown (p : Program) : Program := p.push (.pen true)

/-- Lifts the pen. -/
def penUp (p : Program) : Program := p.push (.pen false)

/-- Changes the color of the pen. -/
def color (p : Program) (c : Color) : Program := p.push (.color c)

/-- Runs another program a number of times. -/
def loop (p : Program) (count : UInt32) (body : Program) : Program := p.push (.loop count body.statements)

end Program

end TurtleGraphics
