import TurtleGraphics.Proofs.Walk

/-! # How many segments a program draws

The number of segments can be read off the syntax, without running the rounds of a loop one by one. The first round of a
loop may start with another pen than the others, but from then on every round starts with the pen that its body leaves
behind: what a body does to the pen, it does only once (`latest_idem`). So a loop draws what the first round draws and,
for each further round, what a round draws behind another one. -/

namespace TurtleGraphics

namespace Statement

mutual

/-- Whether the pen is down behind a statement, given whether it is down before. -/
def penAfter : Statement → Bool → Bool
  | move _ _, down | turn _ _, down | color _, down => down
  | pen down, _ => down
  | loop count body, down => if count = 0 then down else penAfterAll body down

def penAfterAll : List Statement → Bool → Bool
  | [], down => down
  | s :: rest, down => penAfterAll rest (s.penAfter down)

end

mutual

/-- How many segments a statement draws, given whether the pen is down before it. -/
def drawn : Statement → Bool → Nat
  | move _ _, down => if down then 1 else 0
  | turn _ _, _ | pen _, _ | color _, _ => 0
  | loop count body, down =>
    if count = 0 then 0 else drawnAll body down + (count.toNat - 1) * drawnAll body (penAfterAll body down)

def drawnAll : List Statement → Bool → Nat
  | [], _ => 0
  | s :: rest, down => s.drawn down + drawnAll rest (s.penAfter down)

end

end Statement

/-! ### The pen along a trace -/

section
variable {α : Type} (set? : Action → Option α) (first : α)

theorem latest_append (a b : List Action) : latest set? first (a ++ b) = latest set? (latest set? first a) b := by
  induction a generalizing first with
  | nil => rfl
  | cons action a ih => rw [List.cons_append, latest_cons, latest_cons, ih]

/-- A trace that is gone through again sets nothing anew. -/
theorem latest_idem (trace : List Action) : latest set? (latest set? first trace) trace = latest set? first trace := by
  unfold latest
  cases (trace.filterMap set?).getLast? <;> rfl

theorem latest_rounds (n : Nat) (trace : List Action) :
    latest set? first (List.replicate (n + 1) trace).flatten = latest set? first trace := by
  induction n generalizing first with
  | zero => simp
  | succ n ih => rw [List.replicate_succ, List.flatten_cons, latest_append, ih, latest_idem]

end

/-- How many segments a trace draws. -/
def marks (down : Bool) : List Action → Nat
  | [] => 0
  | .move _ _ :: rest => (if down then 1 else 0) + marks down rest
  | .pen down :: rest => marks down rest
  | .turn _ _ :: rest | .color _ :: rest => marks down rest

theorem marks_append (down : Bool) (a b : List Action) :
    marks down (a ++ b) = marks down a + marks (latest Action.pen? down a) b := by
  induction a generalizing down with
  | nil => simp [marks]
  | cons action a ih =>
    rw [List.cons_append, latest_cons]
    cases action with
    | move direction distance => simp [marks, ih, Action.pen?, Nat.add_assoc]
    | turn side degrees => simp [marks, ih, Action.pen?]
    | pen down => simp [marks, ih, Action.pen?]
    | color c => simp [marks, ih, Action.pen?]

theorem marks_rounds (n : Nat) (down : Bool) (trace : List Action) :
    marks down (List.replicate (n + 1) trace).flatten =
      marks down trace + n * marks (latest Action.pen? down trace) trace := by
  induction n generalizing down with
  | zero => simp
  | succ n ih =>
    -- Behind the first round the pen is where every further round leaves it.
    rw [List.replicate_succ, List.flatten_cons, marks_append, ih, latest_idem, Nat.succ_mul, Nat.add_comm (n * _)]

/-! ### Statements and their traces -/

namespace Statement

theorem exists_succ_of_ne_zero {count : UInt32} (h : count ≠ 0) : ∃ n, count.toNat = n + 1 :=
  Nat.exists_eq_succ_of_ne_zero fun hzero => h (UInt32.toNat_inj.mp hzero)

-- By recursion on the statement: the rounds of a loop are the same trace again and again.
mutual

theorem penAfter_eq (down : Bool) : (s : Statement) → s.penAfter down = latest Action.pen? down s.trace
  | move _ _ | turn _ _ | pen _ | color _ => by rw [penAfter, trace]; rfl
  | loop count body => by
    rw [penAfter]
    split
    · next hzero => rw [hzero, trace_loop_zero, latest_nil]
    · next hcount =>
      obtain ⟨n, hn⟩ := exists_succ_of_ne_zero hcount
      rw [trace_loop, hn, latest_rounds, penAfterAll_eq down body]

theorem penAfterAll_eq (down : Bool) :
    (ss : List Statement) → penAfterAll ss down = latest Action.pen? down (traceAll ss)
  | [] => by rw [penAfterAll, traceAll_nil, latest_nil]
  | s :: rest => by
    rw [penAfterAll, traceAll_cons, latest_append, penAfter_eq down s, penAfterAll_eq _ rest]

end

mutual

theorem drawn_eq (down : Bool) : (s : Statement) → s.drawn down = marks down s.trace
  | move _ _ | turn _ _ | pen _ | color _ => by rw [drawn, trace]; rfl
  | loop count body => by
    rw [drawn]
    split
    · next hzero => rw [hzero, trace_loop_zero, marks]
    · next hcount =>
      obtain ⟨n, hn⟩ := exists_succ_of_ne_zero hcount
      rw [trace_loop, hn, marks_rounds, penAfterAll_eq, drawnAll_eq down body, drawnAll_eq _ body, Nat.add_sub_cancel]

theorem drawnAll_eq (down : Bool) : (ss : List Statement) → drawnAll ss down = marks down (traceAll ss)
  | [] => by rw [drawnAll, traceAll_nil, marks]
  | s :: rest => by
    rw [drawnAll, traceAll_cons, marks_append, drawn_eq down s, penAfter_eq, drawnAll_eq _ rest]

end

end Statement

/-! ### Drawings -/

namespace Drawing

theorem length_foldl_perform (d : Drawing) (trace : List Action) :
    (trace.foldl perform d).segments.toList.length = d.segments.toList.length + marks d.turtle.penDown trace := by
  induction trace generalizing d with
  | nil => rfl
  | cons a rest ih =>
    rw [List.foldl_cons, ih, segments_perform, List.length_append, turtle_perform, Turtle.penDown_act, Nat.add_assoc]
    congr 1
    cases a with
    | move direction distance =>
      rw [Turtle.draws, marks]
      cases d.turtle.penDown <;> rfl
    | turn side degrees => simp [Turtle.draws, marks, Action.pen?]
    | pen down => simp [Turtle.draws, marks, Action.pen?]
    | color c => simp [Turtle.draws, marks, Action.pen?]

theorem length_segments_execute (d : Drawing) (ss : List Statement) :
    (d.execute ss).segments.toList.length = d.segments.toList.length + Statement.drawnAll ss d.turtle.penDown := by
  rw [execute_eq_foldl, length_foldl_perform, Statement.drawnAll_eq]

end Drawing

/-- A program draws as many segments as its syntax says, starting with the pen up. -/
theorem Program.length_segments (p : Program) : p.segments.length = Statement.drawnAll p.statements false := by
  have h := Drawing.length_segments_execute .empty p.statements
  rw [Program.segments, h]
  exact Nat.zero_add _

-- The pen is lowered behind the first move, so every round but the first draws.
example : Statement.drawnAll [.loop 3 [.loop 4 [.move .forward 1, .pen true]]] false = 11 := by decide

end TurtleGraphics
