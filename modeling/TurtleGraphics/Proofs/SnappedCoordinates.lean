import Mathlib.Data.List.Induction
import TurtleGraphics.Proofs.Fragments

/-! # Coordinates that are kept

A turtle only ever stands on coordinates that were rounded, whatever sines and cosines come to: each is the zero without
a sign, or so far from zero that a comparison can tell. A comparison with a number that is none fails, so none of the
coordinates is one, and neither is one a zero with a minus sign. The ends of every segment are points where the
turtle stood: a segment starts at the origin, or where an earlier move has led. -/

namespace TurtleGraphics

/-- A coordinate as it is kept: the zero without a sign, or farther than `1e-10` from zero. -/
def Snapped (c : Float) : Prop := c = 0.0 ∨ c.abs > 1e-10

def Point.Snapped (p : Point) : Prop := TurtleGraphics.Snapped p.x ∧ TurtleGraphics.Snapped p.y

/-! ### One coordinate -/

theorem snapped_snap (value : Float) : Snapped (Turtle.snap value) := by
  unfold Turtle.snap
  dsimp only
  split
  · next h => exact Or.inr h
  · exact Or.inl rfl

theorem unpack_of_isNaN {c : Float} (h : c.isNaN = true) : c.toModel.unpack = .notANumber := by
  have hunpacked : c.toModel.unpack.isNaN = true := h
  cases hc : c.toModel.unpack with
  | notANumber => rfl
  | infinity s | zero s | finite s m e hm =>
    rw [hc] at hunpacked
    cases hunpacked

theorem Snapped.isNaN_eq_false {c : Float} (h : Snapped c) : c.isNaN = false := by
  rcases h with rfl | h
  · rfl
  · refine Bool.eq_false_iff.mpr fun hnan => ?_
    have habs : c.abs = ⟨.pack .notANumber⟩ := by
      unfold Float.abs Float.Model.abs
      rw [unpack_of_isNaN hnan]
      rfl
    rw [habs] at h
    revert h
    decide

theorem Snapped.ne_negativeZero {c : Float} (h : Snapped c) : c ≠ -0.0 := by
  rintro rfl
  rcases h with h | h
  · revert h
    decide
  · revert h
    decide

theorem Point.snapped_origin : Point.origin.Snapped := ⟨Or.inl rfl, Or.inl rfl⟩

theorem Turtle.snapped_moved (t : Turtle) (direction : Direction) (distance : UInt32) :
    (t.moved direction distance).Snapped := by
  cases direction <;> exact ⟨snapped_snap _, snapped_snap _⟩

/-! ### Where the turtle stood -/

namespace Drawing
open Statement

/-- A move among what has been done led to the point. -/
def LedTo (done : List Action) (p : Point) : Prop :=
  ∃ earlier direction distance later, done = earlier ++ .move direction distance :: later ∧
    p = (after (earlier ++ [.move direction distance])).turtle.position

theorem LedTo.append {done : List Action} {p : Point} (h : LedTo done p) (more : List Action) :
    LedTo (done ++ more) p := by
  obtain ⟨earlier, direction, distance, later, rfl, hp⟩ := h
  exact ⟨earlier, direction, distance, later ++ more, List.append_assoc _ _ _, hp⟩

/-- The turtle moves, or it stays where it is. -/
theorem position_perform (d : Drawing) (a : Action) :
    (∃ direction distance, a = .move direction distance ∧
      (d.perform a).turtle.position = d.turtle.moved direction distance) ∨
    (d.perform a).turtle.position = d.turtle.position := by
  cases a with
  | move direction distance => exact Or.inl ⟨direction, distance, rfl, rfl⟩
  | turn side degrees => exact Or.inr rfl
  | pen down => exact Or.inr rfl
  | color c => exact Or.inr rfl

theorem snapped_position (done : List Action) : (after done).turtle.position.Snapped := by
  induction done using List.reverseRecOn with
  | nil =>
    rw [after_eq_foldl]
    exact Point.snapped_origin
  | append_singleton done a ih =>
    rw [after_concat]
    rcases position_perform (after done) a with ⟨direction, distance, -, hposition⟩ | hposition
    · rw [hposition]
      exact Turtle.snapped_moved _ _ _
    · rwa [hposition]

theorem position_origin_or_ledTo (done : List Action) :
    (after done).turtle.position = .origin ∨ LedTo done (after done).turtle.position := by
  induction done using List.reverseRecOn with
  | nil =>
    rw [after_eq_foldl]
    exact Or.inl rfl
  | append_singleton done a ih =>
    rcases position_perform (after done) a with ⟨direction, distance, rfl, -⟩ | hposition
    · exact Or.inr ⟨done, direction, distance, [], rfl, rfl⟩
    · rw [after_concat, hposition]
      exact ih.imp_right fun hled => hled.append [a]

/-! ### Segments -/

/-- The segment that a move among what has been done drew, behind `i` others: from where the turtle stood to where the
    move led. -/
def DrewSegment (done : List Action) (i : Nat) (s : Segment) : Prop :=
  ∃ before direction distance later, done = before ++ .move direction distance :: later ∧
    (after before).segments.size = i ∧ s.source = (after before).turtle.position ∧
    s.target = (after (before ++ [.move direction distance])).turtle.position ∧
    (s.source = .origin ∨ LedTo before s.source)

theorem DrewSegment.append {done : List Action} {i : Nat} {s : Segment} (h : DrewSegment done i s)
    (more : List Action) : DrewSegment (done ++ more) i s := by
  obtain ⟨before, direction, distance, later, rfl, hs⟩ := h
  exact ⟨before, direction, distance, later ++ more, List.append_assoc _ _ _, hs⟩

theorem DrewSegment.snapped {done : List Action} {i : Nat} {s : Segment} (h : DrewSegment done i s) :
    s.source.Snapped ∧ s.target.Snapped := by
  obtain ⟨before, direction, distance, later, -, -, hsource, htarget, -⟩ := h
  rw [hsource, htarget]
  exact ⟨snapped_position _, snapped_position _⟩

/-- A segment is added by a move with the pen down, and otherwise none is. -/
theorem segments_perform_cases (d : Drawing) (a : Action) :
    (∃ direction distance, a = .move direction distance ∧
      (d.perform a).segments =
        d.segments.push ⟨d.turtle.color, d.turtle.position, (d.perform a).turtle.position⟩) ∨
    (d.perform a).segments = d.segments := by
  cases a with
  | move direction distance =>
    cases hpen : d.turtle.penDown with
    | true =>
      refine Or.inl ⟨direction, distance, rfl, ?_⟩
      unfold perform move
      dsimp only
      rw [if_pos hpen]
    | false =>
      refine Or.inr ?_
      unfold perform move
      dsimp only
      rw [hpen]
      rfl
  | turn side degrees => exact Or.inr rfl
  | pen down => exact Or.inr rfl
  | color c => exact Or.inr rfl

theorem drewSegment_of_getElem? {done : List Action} {i : Nat} {s : Segment} (h : (after done).segments[i]? = some s) :
    DrewSegment done i s := by
  induction done using List.reverseRecOn with
  | nil =>
    rw [after_eq_foldl] at h
    cases h
  | append_singleton done a ih =>
    rw [after_concat] at h
    rcases segments_perform_cases (after done) a with ⟨direction, distance, rfl, hsegments⟩ | hsegments
    · rw [hsegments, Array.getElem?_push] at h
      split at h
      · -- The new segment starts where the turtle stood.
        next hi =>
        cases h
        rw [← after_concat]
        exact ⟨done, direction, distance, [], rfl, hi.symm, rfl, rfl, position_origin_or_ledTo done⟩
      · exact (ih h).append _
    · rw [hsegments] at h
      exact (ih h).append _

/-- After any calls of `execute` from an empty drawing, the coordinates of the turtle and of the ends of all segments
    are as they are kept, so that none is a zero with a sign or no number at all, and every segment was drawn by a move
    of the run, from the origin or from where an earlier move had led. -/
theorem coordinates_snapped (fragments : List (List Statement)) :
    let d := fragments.foldl execute empty
    d.turtle.position.Snapped ∧
    (∀ s ∈ d.segments, s.source.Snapped ∧ s.target.Snapped) ∧
    (∀ c, Snapped c → c.isNaN = false ∧ c ≠ -0.0) ∧
    ∀ i s, d.segments[i]? = some s → DrewSegment (traceAll fragments.flatten) i s := by
  intro d
  have hd : d = after (traceAll fragments.flatten) := foldl_execute_empty fragments
  have hdrew : ∀ i s, d.segments[i]? = some s → DrewSegment (traceAll fragments.flatten) i s := fun i s h =>
    drewSegment_of_getElem? (by rwa [← hd])
  refine ⟨?_, fun s hs => ?_, fun c hc => ⟨hc.isNaN_eq_false, hc.ne_negativeZero⟩, hdrew⟩
  · rw [hd]
    exact snapped_position _
  · obtain ⟨i, hi⟩ := Array.mem_iff_getElem?.mp hs
    exact (hdrew i s hi).snapped

theorem coordinates_snapped_rounds :
    let fragments : List (List Statement) :=
      [[.pen true, .move .forward 10], [.turn .left 90, .loop 2 [.move .backward 5]]]
    let d := fragments.foldl execute empty
    ∃ s, d.segments[2]? = some s ∧ s ∈ d.segments ∧ s.source.Snapped ∧ s.target.Snapped ∧ s.target.x.isNaN = false ∧
      s.target.x ≠ -0.0 ∧ DrewSegment (traceAll fragments.flatten) 2 s := by
  intro fragments d
  obtain ⟨-, hends, hkept, hdrew⟩ := coordinates_snapped fragments
  have htrace : traceAll fragments.flatten = [.pen true, .move .forward 10, .turn .left 90, .move .backward 5,
      .move .backward 5] := by decide +kernel
  have hd : d = after (traceAll fragments.flatten) := foldl_execute_empty fragments
  have hsize : d.segments.size = 3 := by
    rw [hd, htrace, after_eq_foldl]
    rfl
  obtain ⟨s, hs⟩ : ∃ s, d.segments[2]? = some s := ⟨_, Array.getElem?_eq_getElem (by omega)⟩
  have hmem : s ∈ d.segments := Array.mem_of_getElem? hs
  obtain ⟨hsource, htarget⟩ := hends s hmem
  obtain ⟨hnan, hzero⟩ := hkept _ htarget.1
  exact ⟨s, hs, hmem, hsource, htarget, hnan, hzero, hdrew 2 s hs⟩

end Drawing

end TurtleGraphics
