import TurtleGraphics.Heading
import TurtleGraphics.Program

/-! # The turtle

The turtle walks the plane and carries a pen. After every move its coordinates are rounded to ten decimals, and
what is as near to zero as rounding errors are becomes zero. -/

namespace TurtleGraphics

/-- A point of the plane. -/
structure Point where
  x : Float
  y : Float

/-- Where a turtle starts. -/
def Point.origin : Point := ⟨0.0, 0.0⟩

/-- Where the turtle is and what it carries. -/
structure Turtle where
  position : Point
  heading : Heading
  penDown : Bool
  color : Color

namespace Turtle

/-- A new turtle: at the origin, looking along the x axis, with a blue pen lifted. -/
def initial : Turtle := ⟨.origin, .initial, false, .initial⟩

instance : Inhabited Turtle := ⟨initial⟩

/-- Rounds a coordinate to ten decimals. What is then not farther than `1e-10` from zero becomes zero. -/
def snap (value : Float) : Float :=
  let rounded := (value * 1e10).round / 1e10
  if rounded.abs > 1e-10 then rounded else 0.0

/-- Where a walk over a signed distance leads. -/
def target (t : Turtle) (distance : Float) : Point :=
  ⟨snap (t.position.x + distance * t.heading.radians.cos), snap (t.position.y + distance * t.heading.radians.sin)⟩

/-- Where a move leads. -/
def moved (t : Turtle) : Direction → UInt32 → Point
  | .forward, distance => t.target distance.toFloat
  | .backward, distance => t.target (-distance.toFloat)

/-- The heading after a turn. -/
def turned (t : Turtle) : Side → UInt32 → Heading
  | .left, degrees => t.heading.left degrees.toNat
  | .right, degrees => t.heading.right degrees.toNat

end Turtle

end TurtleGraphics
