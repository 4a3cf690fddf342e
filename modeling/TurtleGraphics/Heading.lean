/-! # Headings

A heading is an angle in whole degrees, counter-clockwise from the positive x axis. Turning is modulo a full
turn, so a heading never drifts. There are two headings along the x axis, because the remainder of a negative
number keeps its sign: a turn to the right by whole turns beyond zero comes to rest on a zero with a minus
sign. -/

namespace TurtleGraphics

/-- An angle in whole degrees, from 0 up to a full turn, or zero with a minus sign. -/
inductive Heading where
  | degrees (d : Fin 360)
  | negativeZero
deriving Repr, DecidableEq

namespace Heading

/-- Along the positive x axis. -/
def initial : Heading := degrees 0

instance : Inhabited Heading := ⟨initial⟩

/-- The angle in degrees. -/
def toNat : Heading → Nat
  | degrees d => d
  | negativeZero => 0

/-- Turns counter-clockwise. -/
def left (h : Heading) (turn : Nat) : Heading :=
  degrees (Fin.ofNat 360 (h.toNat + turn))

/-- Turns clockwise. Below zero the remainder is taken of the amount by which the turn goes beyond zero. -/
def right (h : Heading) (turn : Nat) : Heading :=
  if turn ≤ h.toNat then
    if h = negativeZero then negativeZero else degrees (Fin.ofNat 360 (h.toNat - turn))
  else
    let beyond := (turn - h.toNat) % 360
    if beyond = 0 then negativeZero else degrees (Fin.ofNat 360 (360 - beyond))

/-- The heading as a number. -/
def toFloat : Heading → Float
  | degrees d => d.val.toFloat
  | negativeZero => -0.0

/-- The angle in radians. -/
def radians (h : Heading) : Float :=
  3.141592653589793 * h.toFloat / 180.0

/-! ### Turning is arithmetic modulo a full turn -/

theorem toNat_lt (h : Heading) : h.toNat < 360 := by
  cases h with
  | degrees d => exact d.isLt
  | negativeZero => exact Nat.zero_lt_succ _

theorem toNat_degrees_ofNat (n : Nat) : (degrees (Fin.ofNat 360 n)).toNat = n % 360 := rfl

theorem toNat_left (h : Heading) (turn : Nat) : (h.left turn).toNat = (h.toNat + turn) % 360 := rfl

theorem toNat_right (h : Heading) (turn : Nat) : ((h.right turn).toNat : Int) = ((h.toNat : Int) - turn) % 360 := by
  have below := h.toNat_lt
  unfold right
  split
  · split
    · subst h
      simp_all [toNat]
    · rw [toNat_degrees_ofNat]
      omega
  · dsimp only
    split
    · show ((0 : Nat) : Int) = _
      omega
    · rw [toNat_degrees_ofNat]
      omega

end Heading

end TurtleGraphics
