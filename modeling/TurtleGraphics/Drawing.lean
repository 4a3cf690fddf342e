import TurtleGraphics.Decimal
import TurtleGraphics.Turtle

/-! # Drawings

Running statements moves a turtle and draws a segment for every move with the pen down. A drawing goes on from
where it stands, so a program may be run in parts. -/

namespace TurtleGraphics

/-- A line drawn by one move. -/
structure Segment where
  color : Color
  source : Point
  target : Point

namespace Segment

/-- Coordinates are written with four decimals. -/
def places : Nat := 4

/-- A segment as it is written: its color and the coordinates of its ends. -/
def text (s : Segment) : String :=
  s.color.text ++ " " ++ Decimal.fixed places s.source.x ++ " " ++ Decimal.fixed places s.source.y ++
    " " ++ Decimal.fixed places s.target.x ++ " " ++ Decimal.fixed places s.target.y

/-- Segments as they are written, one on a line. -/
def render (segments : List Segment) : String :=
  segments.foldl (fun lines s => lines ++ s.text ++ "\n") ""

end Segment

/-- A turtle and the segments that it has drawn, in order. -/
structure Drawing where
  turtle : Turtle
  segments : Array Segment

namespace Statement

mutual

/-- How many steps running a statement takes, one for every round of a loop among them. -/
def steps : Statement → Nat
  | loop count body => 1 + count.toNat * (1 + stepsAll body)
  | move _ _ | turn _ _ | pen _ | color _ => 1

/-- How many steps running a list of statements takes. -/
def stepsAll : List Statement → Nat
  | [] => 0
  | s :: rest => s.steps + stepsAll rest

end

@[simp] theorem stepsAll_append (a b : List Statement) : stepsAll (a ++ b) = stepsAll a + stepsAll b := by
  induction a with
  | nil => simp [stepsAll]
  | cons s rest ih => simp [stepsAll, ih, Nat.add_assoc]

end Statement

namespace Drawing

/-- Nothing drawn yet. -/
def empty : Drawing := ⟨.initial, #[]⟩

instance : Inhabited Drawing := ⟨empty⟩

/-- Moves the turtle, with a segment behind it if the pen is down. -/
def move (d : Drawing) (direction : Direction) (distance : UInt32) : Drawing :=
  let target := d.turtle.moved direction distance
  ⟨{ d.turtle with position := target },
    if d.turtle.penDown then d.segments.push ⟨d.turtle.color, d.turtle.position, target⟩ else d.segments⟩

/-- Turns the turtle. -/
def turn (d : Drawing) (side : Side) (degrees : UInt32) : Drawing :=
  { d with turtle := { d.turtle with heading := d.turtle.turned side degrees } }

/-- Lifts or lowers the pen. -/
def setPen (d : Drawing) (down : Bool) : Drawing :=
  { d with turtle := { d.turtle with penDown := down } }

/-- Changes the color of the pen. -/
def setColor (d : Drawing) (c : Color) : Drawing :=
  { d with turtle := { d.turtle with color := c } }

/-- Runs statements in order. A loop is its body followed by the loop with one round less, and nothing when no
    round is left. -/
def execute (d : Drawing) : List Statement → Drawing
  | [] => d
  | .move direction distance :: rest => execute (d.move direction distance) rest
  | .turn side degrees :: rest => execute (d.turn side degrees) rest
  | .pen down :: rest => execute (d.setPen down) rest
  | .color c :: rest => execute (d.setColor c) rest
  | .loop count body :: rest =>
    if count = 0 then execute d rest else execute d (body ++ .loop (count - 1) body :: rest)
termination_by work => Statement.stepsAll work
decreasing_by
  all_goals simp only [Statement.stepsAll, Statement.stepsAll_append, Statement.steps]
  any_goals omega
  rename_i nonzero
  have positive : 1 ≤ count.toNat := by
    have : count.toNat ≠ 0 := fun h => nonzero (UInt32.toNat_inj.mp h)
    omega
  have fewer : (count - 1).toNat = count.toNat - 1 := UInt32.toNat_sub_of_le _ _ positive
  rw [fewer]
  obtain ⟨n, eq⟩ : ∃ n, count.toNat = n + 1 := ⟨count.toNat - 1, by omega⟩
  rw [eq, Nat.add_sub_cancel, Nat.succ_mul]
  omega

/-- Running statements in two parts is running them at once. -/
theorem execute_append (d : Drawing) (a b : List Statement) : d.execute (a ++ b) = (d.execute a).execute b := by
  fun_induction execute d a with
  | case1 d => rw [List.nil_append]
  | case2 d direction distance rest ih => rw [List.cons_append, execute, ih]
  | case3 d side degrees rest ih => rw [List.cons_append, execute, ih]
  | case4 d down rest ih => rw [List.cons_append, execute, ih]
  | case5 d c rest ih => rw [List.cons_append, execute, ih]
  | case6 d body rest ih => rw [List.cons_append, execute, if_pos rfl, ih]
  | case7 d count body rest nonzero ih =>
    rw [List.cons_append, execute, if_neg nonzero, ← ih, List.append_assoc, List.cons_append]

end Drawing

/-- What a program draws. -/
def Program.segments (p : Program) : List Segment :=
  (Drawing.empty.execute p.statements).segments.toList

end TurtleGraphics
