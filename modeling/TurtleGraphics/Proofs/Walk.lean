import TurtleGraphics.Proofs.Unrolling

/-! # The walk behind a drawing

Where the turtle goes is a matter of moves and turns alone, whatever the pen does on the way. A drawing observes this
walk: of the moves in a trace it keeps those with the pen down, in the color of the time (`Turtle.observed`). So
statements that differ in nothing but pens and colors, at any depth, lead the turtle the same way. -/

namespace TurtleGraphics

/-! ### Walks -/

/-- What takes the turtle to another pose. -/
inductive Motion where
  | move (direction : Direction) (distance : UInt32)
  | turn (side : Side) (degrees : UInt32)
deriving Repr, DecidableEq

/-- Where a turtle is and which way it looks. -/
structure Pose where
  position : Point
  heading : Heading

namespace Pose

/-- A turtle in a pose, with a new pen. -/
def turtle (p : Pose) : Turtle := { Turtle.initial with position := p.position, heading := p.heading }

def go (p : Pose) : Motion → Pose
  | .move direction distance => { p with position := p.turtle.moved direction distance }
  | .turn side degrees => { p with heading := p.turtle.turned side degrees }

def goAll (p : Pose) (motions : List Motion) : Pose := motions.foldl go p

/-- The two ends of every move of a walk, in order. -/
def walk (p : Pose) : List Motion → List (Point × Point)
  | [] => []
  | .move direction distance :: rest =>
    let next := p.go (.move direction distance)
    (p.position, next.position) :: next.walk rest
  | .turn side degrees :: rest => (p.go (.turn side degrees)).walk rest

end Pose

namespace Action

def motion? : Action → Option Motion
  | move direction distance => some (.move direction distance)
  | turn side degrees => some (.turn side degrees)
  | pen _ | color _ => none

def pen? : Action → Option Bool
  | pen down => some down
  | move _ _ | turn _ _ | color _ => none

def color? : Action → Option Color
  | color c => some c
  | move _ _ | turn _ _ | pen _ => none

end Action

/-- What is left of a trace without pens and colors. -/
def motions (trace : List Action) : List Motion := trace.filterMap Action.motion?

/-! ### Drawings -/

/-- What a trace last set to a value, or `first` where it sets nothing. -/
def latest {α : Type} (set? : Action → Option α) (first : α) (trace : List Action) : α :=
  (trace.filterMap set?).getLast?.getD first

/-- What comes before each move of a trace. -/
def beforeMoves : List Action → List (List Action)
  | [] => []
  | .move direction distance :: rest => [] :: (beforeMoves rest).map (.move direction distance :: ·)
  | a :: rest => (beforeMoves rest).map (a :: ·)

namespace Turtle

def pose (t : Turtle) : Pose := ⟨t.position, t.heading⟩

/-- The segment for a move from `source` to `target` behind a part of the trace, if the pen is down there. -/
def mark? (t : Turtle) : List Action × Point × Point → Option Segment
  | (before, source, target) =>
    if latest Action.pen? t.penDown before then some ⟨latest Action.color? t.color before, source, target⟩ else none

/-- What can be seen of a walk: the moves with the pen down. -/
def observed (t : Turtle) (trace : List Action) (walk : List (Point × Point)) : List Segment :=
  ((beforeMoves trace).zip walk).filterMap t.mark?

/-- The turtle after an action. -/
def act (t : Turtle) : Action → Turtle
  | .move direction distance => { t with position := t.moved direction distance }
  | .turn side degrees => { t with heading := t.turned side degrees }
  | .pen down => { t with penDown := down }
  | .color c => { t with color := c }

/-- The segments that an action draws. -/
def draws (t : Turtle) : Action → List Segment
  | .move direction distance => if t.penDown then [⟨t.color, t.position, t.moved direction distance⟩] else []
  | .turn _ _ | .pen _ | .color _ => []

end Turtle

section
variable {α : Type} (set? : Action → Option α) (first : α)

@[simp] theorem latest_nil : latest set? first [] = first := rfl

theorem latest_cons (a : Action) (trace : List Action) :
    latest set? first (a :: trace) = latest set? ((set? a).getD first) trace := by
  unfold latest
  cases h : set? a with
  | none => simp [h]
  | some value => simp [h, List.getLast?_cons]

end

@[simp] theorem motions_move (direction : Direction) (distance : UInt32) (rest : List Action) :
    motions (.move direction distance :: rest) = .move direction distance :: motions rest := rfl

@[simp] theorem motions_turn (side : Side) (degrees : UInt32) (rest : List Action) :
    motions (.turn side degrees :: rest) = .turn side degrees :: motions rest := rfl

@[simp] theorem motions_pen (down : Bool) (rest : List Action) : motions (.pen down :: rest) = motions rest := rfl

@[simp] theorem motions_color (c : Color) (rest : List Action) : motions (.color c :: rest) = motions rest := rfl

theorem length_beforeMoves (p : Pose) (trace : List Action) :
    (beforeMoves trace).length = (p.walk (motions trace)).length := by
  induction trace generalizing p with
  | nil => rfl
  | cons a rest ih =>
    cases a with
    | move direction distance => simp [beforeMoves, Pose.walk, ih (p.go (.move direction distance))]
    | turn side degrees => simp [beforeMoves, Pose.walk, ih (p.go (.turn side degrees))]
    | pen down => simp [beforeMoves, ih p]
    | color c => simp [beforeMoves, ih p]

/-! ### One action -/

namespace Turtle

section
variable (t : Turtle)

/-- The pen has no part in where a move leads. -/
theorem pose_act_move (direction : Direction) (distance : UInt32) :
    (t.act (.move direction distance)).pose = t.pose.go (.move direction distance) := by
  cases direction <;> rfl

theorem pose_act_turn (side : Side) (degrees : UInt32) :
    (t.act (.turn side degrees)).pose = t.pose.go (.turn side degrees) := by
  cases side <;> rfl

theorem penDown_act (a : Action) : (t.act a).penDown = a.pen?.getD t.penDown := by
  cases a <;> rfl

theorem color_act (a : Action) : (t.act a).color = a.color?.getD t.color := by
  cases a <;> rfl

theorem mark?_cons (a : Action) (before : List Action) (ends : Point × Point) :
    t.mark? (a :: before, ends) = (t.act a).mark? (before, ends) := by
  rw [mark?, mark?, latest_cons, latest_cons, penDown_act, color_act]

/-- What is seen behind an action is seen by the turtle after it. -/
theorem filterMap_mark?_cons (a : Action) (befores : List (List Action)) (walk : List (Point × Point)) :
    ((befores.map (a :: ·)).zip walk).filterMap t.mark? = (befores.zip walk).filterMap (t.act a).mark? := by
  rw [List.zip_map_left, List.filterMap_map]
  congr 1
  funext ⟨before, ends⟩
  exact mark?_cons t a before ends

theorem observed_cons (a : Action) (rest : List Action) :
    t.observed (a :: rest) (t.pose.walk (motions (a :: rest))) =
      t.draws a ++ (t.act a).observed rest ((t.act a).pose.walk (motions rest)) := by
  cases a with
  | move direction distance =>
    have htarget : (t.pose.go (.move direction distance)).position = t.moved direction distance :=
      congrArg Pose.position (t.pose_act_move direction distance).symm
    rw [observed, observed, beforeMoves, motions_move, Pose.walk, List.zip_cons_cons, List.filterMap_cons,
      filterMap_mark?_cons, pose_act_move, htarget, mark?, latest_nil, latest_nil, draws]
    cases t.penDown <;> rfl
  | turn side degrees =>
    rw [observed, beforeMoves, motions_turn, Pose.walk, filterMap_mark?_cons, ← pose_act_turn]
    · rfl
    · simp
  | pen down =>
    rw [observed, beforeMoves, motions_pen, filterMap_mark?_cons]
    · rfl
    · simp
  | color c =>
    rw [observed, beforeMoves, motions_color, filterMap_mark?_cons]
    · rfl
    · simp

end

end Turtle

/-! ### A whole trace -/

namespace Drawing

theorem turtle_perform (d : Drawing) (a : Action) : (d.perform a).turtle = d.turtle.act a := by
  cases a <;> rfl

theorem segments_perform (d : Drawing) (a : Action) :
    (d.perform a).segments.toList = d.segments.toList ++ d.turtle.draws a := by
  cases a with
  | move direction distance =>
    rw [perform, move, Turtle.draws]
    cases d.turtle.penDown <;> simp
  | turn side degrees => simp [perform, turn, Turtle.draws]
  | pen down => simp [perform, setPen, Turtle.draws]
  | color c => simp [perform, setColor, Turtle.draws]

theorem segments_foldl_perform (d : Drawing) (trace : List Action) :
    (trace.foldl perform d).segments.toList =
      d.segments.toList ++ d.turtle.observed trace (d.turtle.pose.walk (motions trace)) := by
  induction trace generalizing d with
  | nil => simp [Turtle.observed, beforeMoves]
  | cons a rest ih =>
    rw [List.foldl_cons, ih, segments_perform, turtle_perform, Turtle.observed_cons, List.append_assoc]

theorem pose_foldl_perform (d : Drawing) (trace : List Action) :
    (trace.foldl perform d).turtle.pose = d.turtle.pose.goAll (motions trace) := by
  induction trace generalizing d with
  | nil => rfl
  | cons a rest ih =>
    rw [List.foldl_cons, ih, turtle_perform]
    cases a with
    | move direction distance => rw [Turtle.pose_act_move]; rfl
    | turn side degrees => rw [Turtle.pose_act_turn]; rfl
    | pen down => rfl
    | color c => rfl

end Drawing

/-! ### Without pens and colors -/

namespace Statement

mutual

/-- A statement without the statements about the pen in it, at every depth. -/
def penless : Statement → List Statement
  | move direction distance => [move direction distance]
  | turn side degrees => [turn side degrees]
  | pen _ | color _ => []
  | loop count body => [loop count (penlessAll body)]

def penlessAll : List Statement → List Statement
  | [] => []
  | s :: rest => s.penless ++ penlessAll rest

end

theorem motions_append (a b : List Action) : motions (a ++ b) = motions a ++ motions b :=
  List.filterMap_append

theorem motions_loop (count : UInt32) (body : List Statement) :
    motions (loop count body).trace = (List.replicate count.toNat (motions (traceAll body))).flatten := by
  rw [trace_loop, motions, List.filterMap_flatten, List.map_replicate]
  rfl

-- By recursion on the statement: a loop goes through the motions of its body as often as before.
mutual

theorem motions_penless : (s : Statement) → motions (traceAll s.penless) = motions s.trace
  | move _ _ | turn _ _ => by simp [penless]
  | pen _ | color _ => by simp [penless, trace]
  | loop count body => by
    rw [penless, traceAll_cons, traceAll_nil, List.append_nil, motions_loop, motions_loop, motions_penlessAll body]

theorem motions_penlessAll : (ss : List Statement) → motions (traceAll (penlessAll ss)) = motions (traceAll ss)
  | [] => by rw [penlessAll]
  | s :: rest => by
    rw [penlessAll, traceAll_append, traceAll_cons, motions_append, motions_append, motions_penless s,
      motions_penlessAll rest]

end

end Statement

namespace Drawing
open Statement

theorem pose_execute (d : Drawing) (ss : List Statement) :
    (d.execute ss).turtle.pose = d.turtle.pose.goAll (motions (traceAll ss)) := by
  rw [execute_eq_foldl, pose_foldl_perform]

/-- What statements add to a drawing is a segment for every move in their trace with the pen down there, from the one
    end of the move to the other in the walk without pens and colors, and in the color of the time. The turtle comes to
    the end of that walk. Statements that are the same without pens and colors lead along the same walk, whatever
    pen the turtle carries. -/
theorem execute_observes_walk (d : Drawing) (ss : List Statement) :
    let trace := traceAll ss
    let walk := d.turtle.pose.walk (motions trace)
    (d.execute ss).segments.toList = d.segments.toList ++ d.turtle.observed trace walk ∧
    (beforeMoves trace).length = walk.length ∧
    (d.execute ss).turtle.pose = d.turtle.pose.goAll (motions trace) ∧
    ∀ (other : Drawing) (ts : List Statement), penlessAll ts = penlessAll ss → other.turtle.pose = d.turtle.pose →
      other.turtle.pose.walk (motions (traceAll ts)) = walk ∧
      (other.execute ts).turtle.pose = (d.execute ss).turtle.pose := by
  intro trace walk
  refine ⟨?_, length_beforeMoves _ _, pose_execute d ss, fun other ts hsame hpose => ?_⟩
  · rw [execute_eq_foldl, segments_foldl_perform]
  · have hmotions : motions (traceAll ts) = motions trace := by
      rw [← motions_penlessAll ts, hsame, motions_penlessAll]
    rw [pose_execute, pose_execute, hpose, hmotions]
    exact ⟨rfl, rfl⟩

/-- The pen is lowered behind the first move of the first round, so the second round draws and the first does not. -/
theorem execute_observes_walk_rounds :
    let red : Color := ⟨255, 0, 0⟩
    let ss : List Statement := [.loop 2 [.move .forward 10, .pen true, .color red, .turn .left 90]]
    let ts : List Statement := [.pen true, .loop 2 [.move .forward 10, .turn .left 90, .pen false], .color red]
    let down : Drawing := ⟨{ Turtle.initial with penDown := true }, #[]⟩
    (∃ source target, (empty.execute ss).segments.toList = [⟨red, source, target⟩]) ∧
    penlessAll ts = penlessAll ss ∧ down.turtle.pose = empty.turtle.pose ∧
    (down.execute ts).turtle.pose = (empty.execute ss).turtle.pose := by
  intro red ss ts down
  obtain ⟨hsegments, -, -, hother⟩ := execute_observes_walk empty ss
  have hround : traceAll ss = [.move .forward 10, .pen true, .color red, .turn .left 90] ++
      [.move .forward 10, .pen true, .color red, .turn .left 90] := by decide +kernel
  have hsame : penlessAll ts = penlessAll ss := rfl
  rw [hround] at hsegments
  exact ⟨⟨_, _, hsegments⟩, hsame, rfl, (hother down ts hsame rfl).2⟩

end Drawing

end TurtleGraphics
