import TurtleGraphics.Proofs.Fragments
import TurtleGraphics.Proofs.WholeNumbers

/-! # Headings do not drift

The heading is the sum of all turns made, modulo a full turn, however many turns there were: turns to the left count for
it and turns to the right against it, and neither their order nor anything else that was done matters. It is the same
heading when it is reckoned in floating point (`reckoned`), where every turn is a sum or a difference and a remainder.
What is reckoned never leaves the integers that are represented exactly, as a heading is smaller than a full turn and a
turn has 32 bits. -/

namespace TurtleGraphics
open Whole

/-! ### Sums of turns -/

def Action.turn? : Action → Option (Side × UInt32)
  | turn side degrees => some (side, degrees)
  | move _ _ | pen _ | color _ => none

/-- The turns among what is done. -/
def turns (trace : List Action) : List (Side × UInt32) := trace.filterMap Action.turn?

/-- How far turns go to one side, all together. -/
def degreesTo (side : Side) : List (Side × UInt32) → Nat
  | [] => 0
  | (other, degrees) :: rest => (if other = side then degrees.toNat else 0) + degreesTo side rest

/-- How far turns go to the left, less how far they go to the right. -/
def netTurn (ts : List (Side × UInt32)) : Int := degreesTo .left ts - degreesTo .right ts

def Side.signed : Side → UInt32 → Int
  | left, degrees => degrees.toNat
  | right, degrees => -degrees.toNat

theorem netTurn_nil : netTurn [] = 0 := rfl

theorem netTurn_cons (side : Side) (degrees : UInt32) (rest : List (Side × UInt32)) :
    netTurn ((side, degrees) :: rest) = side.signed degrees + netTurn rest := by
  cases side <;> simp [netTurn, degreesTo, Side.signed] <;> omega

theorem netTurn_perm {a b : List (Side × UInt32)} (h : a.Perm b) : netTurn a = netTurn b := by
  induction h with
  | nil => rfl
  | cons t _ ih => rw [netTurn_cons, netTurn_cons, ih]
  | swap t u rest => rw [netTurn_cons, netTurn_cons, netTurn_cons, netTurn_cons, Int.add_left_comm]
  | trans _ _ ih₁ ih₂ => exact ih₁.trans ih₂

/-- What one action adds to the sum of turns. -/
theorem netTurn_turns_cons (a : Action) (rest : List Action) :
    netTurn (turns (a :: rest)) = netTurn (turns [a]) + netTurn (turns rest) := by
  cases a with
  | turn side degrees =>
    have hcons : turns (.turn side degrees :: rest) = (side, degrees) :: turns rest := rfl
    have hsingle : turns [.turn side degrees] = [(side, degrees)] := rfl
    rw [hcons, hsingle, netTurn_cons, netTurn_cons, netTurn_nil, Int.add_zero]
  | move direction distance | pen down | color c => exact (Int.zero_add _).symm

/-! ### The heading of a turtle -/

theorem Turtle.toNat_turned (t : Turtle) (side : Side) (degrees : UInt32) :
    ((t.turned side degrees).toNat : Int) = (t.heading.toNat + side.signed degrees) % 360 := by
  cases side with
  | left =>
    rw [turned, Heading.toNat_left, Side.signed]
    omega
  | right =>
    rw [turned, Heading.toNat_right, Side.signed]
    rfl

namespace Drawing
open Statement

theorem toNat_heading_perform (d : Drawing) (a : Action) :
    ((d.perform a).turtle.heading.toNat : Int) = (d.turtle.heading.toNat + netTurn (turns [a])) % 360 := by
  cases a with
  | turn side degrees =>
    have hsingle : turns [.turn side degrees] = [(side, degrees)] := rfl
    rw [hsingle, netTurn_cons, netTurn_nil, Int.add_zero]
    exact d.turtle.toNat_turned side degrees
  | move direction distance | pen down | color c =>
    have hlt := d.turtle.heading.toNat_lt
    show (d.turtle.heading.toNat : Int) = (d.turtle.heading.toNat + 0) % 360
    omega

theorem toNat_heading_foldl (d : Drawing) (trace : List Action) :
    ((trace.foldl perform d).turtle.heading.toNat : Int) = (d.turtle.heading.toNat + netTurn (turns trace)) % 360 := by
  induction trace generalizing d with
  | nil =>
    have hlt := d.turtle.heading.toNat_lt
    show (d.turtle.heading.toNat : Int) = (d.turtle.heading.toNat + 0) % 360
    omega
  | cons a rest ih =>
    rw [List.foldl_cons, ih, toNat_heading_perform, netTurn_turns_cons a rest, Int.emod_add_emod, Int.add_assoc]

theorem toNat_heading_execute (d : Drawing) (ss : List Statement) :
    ((d.execute ss).turtle.heading.toNat : Int) = (d.turtle.heading.toNat + netTurn (turns (traceAll ss))) % 360 := by
  rw [execute_eq_foldl, toNat_heading_foldl]

theorem toNat_heading_after (done : List Action) :
    ((after done).turtle.heading.toNat : Int) = netTurn (turns done) % 360 := by
  rw [after_eq_foldl, toNat_heading_foldl]
  exact congrArg (· % 360) (Int.zero_add _)

end Drawing

/-! ### Reckoning in floating point -/

/-- A heading after a turn, before whole turns are taken off. -/
def swung (x : Float) : Side → UInt32 → Float
  | .left, degrees => x + degrees.toFloat
  | .right, degrees => x - degrees.toFloat

/-- The heading after turns, reckoned in floating point with a function that takes whole turns off. -/
def reckoned (remainder : Float → Float) (ts : List (Side × UInt32)) : Float :=
  ts.foldl (fun x t => remainder (swung x t.1 t.2)) 0.0

/-- The remainder by a full turn is exact on integers. -/
def ExactRemainder (remainder : Float → Float) : Prop :=
  ∀ x i, integer? x = some i → Safe i → integer? (remainder x) = some (i % 360)

/-- The remainder of a heading by a full turn: what a division by it leaves over, and a full turn more if
    that is negative. -/
def turnRemainder (x : Float) : Float :=
  let r : Float := ⟨.pack (leftOver 360 x.toModel.unpack)⟩
  if r < 0.0 then r + 360.0 else r

theorem tmod_eq_or (i : Int) : i.tmod 360 = i % 360 ∨ i.tmod 360 = i % 360 - 360 := by
  rw [Int.tmod_eq_emod]
  split
  · exact Or.inl (Int.sub_zero _)
  · exact Or.inr rfl

theorem exactRemainder_turnRemainder : ExactRemainder turnRemainder := by
  intro x i hx hi
  have hleft : integer? ⟨.pack (leftOver 360 x.toModel.unpack)⟩ = some (i.tmod 360) := integer?_leftOver hx hi 360
  have hcases := tmod_eq_or i
  have hsafe : Safe (i.tmod 360) := by
    unfold Safe
    omega
  have hsum : Safe (i.tmod 360 + 360) := by
    unfold Safe
    omega
  unfold turnRemainder
  dsimp only
  split
  · next hneg =>
    have hneg := (lt_zero_iff hleft hsafe).mp hneg
    rw [integer?_add hleft (by rfl : integer? 360.0 = some 360) hsafe (by decide : Safe 360) hsum]
    congr 1
    omega
  · next hpos =>
    have hpos := mt (lt_zero_iff hleft hsafe).mpr hpos
    rw [hleft]
    congr 1
    omega

/-- One turn stays far away from integers that are not represented exactly. -/
theorem integer?_swung {x : Float} {h : Int} (hx : integer? x = some h) (hlow : 0 ≤ h) (hhigh : h < 360) (side : Side)
    (degrees : UInt32) :
    integer? (swung x side degrees) = some (h + side.signed degrees) ∧ Safe (h + side.signed degrees) := by
  have hdegrees := degrees.toNat_lt
  have hh : Safe h := by
    unfold Safe
    omega
  have hd : Safe degrees.toNat := by
    unfold Safe
    omega
  have hsum : Safe (h + side.signed degrees) := by
    cases side <;> unfold Safe <;> rw [Side.signed] <;> omega
  refine ⟨?_, hsum⟩
  cases side with
  | left => exact integer?_add hx (integer?_toFloat degrees) hh hd hsum
  | right => exact integer?_sub hx (integer?_toFloat degrees) hh hd hsum

theorem integer?_foldl_swung {remainder : Float → Float} (hexact : ExactRemainder remainder) (ts : List (Side × UInt32))
    {x : Float} {h : Int} (hx : integer? x = some h) (hlow : 0 ≤ h) (hhigh : h < 360) :
    integer? (ts.foldl (fun x t => remainder (swung x t.1 t.2)) x) = some ((h + netTurn ts) % 360) := by
  induction ts generalizing x h with
  | nil =>
    rw [netTurn_nil, Int.add_zero, Int.emod_eq_of_lt hlow hhigh]
    exact hx
  | cons t rest ih =>
    obtain ⟨hswung, hsafe⟩ := integer?_swung hx hlow hhigh t.1 t.2
    rw [List.foldl_cons, ih (hexact _ _ hswung hsafe) (Int.emod_nonneg _ (by decide))
      (Int.emod_lt_of_pos _ (by decide)), netTurn_cons, Int.emod_add_emod, Int.add_assoc]

theorem integer?_reckoned {remainder : Float → Float} (hexact : ExactRemainder remainder) (done : List Action) :
    integer? (reckoned remainder (turns done)) = some ((Drawing.after done).turtle.heading.toNat : Int) := by
  rw [Drawing.toNat_heading_after, ← Int.zero_add (netTurn (turns done))]
  exact integer?_foldl_swung hexact _ (by rfl) (by decide) (by decide)

theorem Heading.integer?_toFloat (h : Heading) : integer? h.toFloat = some (h.toNat : Int) := by
  cases h with
  | degrees d => exact integer?_natToFloat (Nat.lt_trans d.isLt (by decide))
  | negativeZero => rfl

namespace Drawing
open Statement

/-- At every point of a run from an empty drawing the heading is what all turns made so far come to, modulo a full turn,
    and it is what comes out when these turns are reckoned in floating point, with a remainder that is exact on
    integers. The sum or difference of the next turn is then an integer that is represented exactly. So runs with the
    same turns in any order end with the same heading, and a loop whose turns come to whole turns restores it. -/
theorem heading_never_drifts {remainder : Float → Float} (hexact : ExactRemainder remainder)
    (fragments : List (List Statement)) :
    let trace := traceAll fragments.flatten
    let d := fragments.foldl execute empty
    (∀ done rest, trace = done ++ rest →
      let h := (after done).turtle.heading
      (after done).execute (rest.map Action.statement) = d ∧
      h.toNat < 360 ∧ (h.toNat : Int) = netTurn (turns done) % 360 ∧
      integer? h.toFloat = some (h.toNat : Int) ∧ integer? (reckoned remainder (turns done)) = some (h.toNat : Int) ∧
      ∀ side degrees, rest.head? = some (.turn side degrees) →
        integer? (swung (reckoned remainder (turns done)) side degrees) = some (h.toNat + side.signed degrees) ∧
        Safe (h.toNat + side.signed degrees)) ∧
    (∀ others : List (List Statement), (turns trace).Perm (turns (traceAll others.flatten)) →
      (others.foldl execute empty).turtle.heading.toNat = d.turtle.heading.toNat) ∧
    ∀ count body, 360 ∣ netTurn (turns (loop count body).trace) →
      (d.execute [.loop count body]).turtle.heading.toNat = d.turtle.heading.toNat := by
  intro trace d
  refine ⟨fun done rest htrace => ?_, fun others hperm => ?_, fun count body hdvd => ?_⟩
  · have hlt := (after done).turtle.heading.toNat_lt
    have hreckoned := integer?_reckoned hexact done
    refine ⟨?_, hlt, toNat_heading_after done, Heading.integer?_toFloat _, hreckoned, fun side degrees _ =>
      integer?_swung hreckoned (by omega) (by omega) side degrees⟩
    show _ = fragments.foldl execute empty
    rw [foldl_execute, ← execute_trace empty, after, ← execute_append, ← List.map_append, ← htrace]
  · have hheadings : ((others.foldl execute empty).turtle.heading.toNat : Int) = d.turtle.heading.toNat := by
      show _ = ((fragments.foldl execute empty).turtle.heading.toNat : Int)
      rw [foldl_execute_empty, foldl_execute_empty, toNat_heading_after, toNat_heading_after, netTurn_perm hperm]
    omega
  · have hlt := d.turtle.heading.toNat_lt
    have hheading := toNat_heading_execute d [.loop count body]
    rw [traceAll_cons, traceAll_nil, List.append_nil] at hheading
    omega

theorem heading_never_drifts_at_limits :
    let fragments : List (List Statement) := [[.pen true, .turn .right 4294967295],
      [.loop 2 [.move .forward 10, .turn .right 360, .turn .left 4294967295]]]
    let others : List (List Statement) :=
      [[.loop 2 [.turn .left 4294967295, .turn .right 360]], [.turn .right 4294967295]]
    let d := fragments.foldl execute empty
    integer? (swung (reckoned turnRemainder []) .right 4294967295) = some (-4294967295) ∧ Safe (-4294967295) ∧
    d.turtle.heading.toNat = 255 ∧ integer? (reckoned turnRemainder (turns (traceAll fragments.flatten))) = some 255 ∧
    (others.foldl execute empty).turtle.heading.toNat = 255 ∧
    (d.execute [.loop 4 [.turn .left 90]]).turtle.heading.toNat = 255 := by
  intro fragments others d
  obtain ⟨hpoints, hperm, hloop⟩ := heading_never_drifts exactRemainder_turnRemainder fragments
  have htrace : traceAll fragments.flatten = [.pen true] ++ [.turn .right 4294967295, .move .forward 10,
      .turn .right 360, .turn .left 4294967295, .move .forward 10, .turn .right 360, .turn .left 4294967295] := by
    decide +kernel
  have hnet : netTurn (turns (traceAll fragments.flatten)) % 360 = 255 := by
    rw [htrace]
    rfl
  obtain ⟨-, -, hstart, -, -, hnext⟩ := hpoints _ _ htrace
  obtain ⟨-, -, hheading, -, hreckoned, -⟩ := hpoints _ [] (List.append_nil _).symm
  have hlast : (after (traceAll fragments.flatten)).turtle.heading.toNat = 255 := by omega
  have hd : d.turtle.heading.toNat = 255 := by rwa [← foldl_execute_empty] at hlast
  have hswung : netTurn (turns [.pen true]) % 360 + Side.right.signed 4294967295 = -4294967295 := by rfl
  obtain ⟨hfirst, hsafe⟩ := hnext .right 4294967295 rfl
  rw [hstart, hswung] at hfirst hsafe
  rw [hlast] at hreckoned
  refine ⟨hfirst, hsafe, hd, hreckoned, (hperm others ?_).trans hd, (hloop 4 [.turn .left 90] ?_).trans hd⟩
  · decide +kernel
  · decide +kernel

end Drawing

end TurtleGraphics
