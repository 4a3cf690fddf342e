import TurtleGraphics.Drawing

/-! # Unrolled loops

The trace of statements is what they do one after the other: every loop is replaced by its rounds, at every depth, so a
trace has no loops. Running statements is running their trace (`execute_eq_foldl`), and what has the same trace
cannot be told apart. -/

namespace TurtleGraphics

/-- What a turtle does at once: a statement other than a loop. -/
inductive Action where
  | move (direction : Direction) (distance : UInt32)
  | turn (side : Side) (degrees : UInt32)
  | pen (down : Bool)
  | color (color : Color)
deriving Repr, DecidableEq

def Action.statement : Action → Statement
  | move direction distance => .move direction distance
  | turn side degrees => .turn side degrees
  | pen down => .pen down
  | color c => .color c

namespace Statement

mutual

/-- The trace of a statement. The trace of a loop is that of its body, once for every round. -/
def trace : Statement → List Action
  | move direction distance => [.move direction distance]
  | turn side degrees => [.turn side degrees]
  | pen down => [.pen down]
  | color c => [.color c]
  | loop count body => (List.replicate count.toNat (traceAll body)).flatten

def traceAll : List Statement → List Action
  | [] => []
  | s :: rest => s.trace ++ traceAll rest

end

@[simp] theorem traceAll_nil : traceAll [] = [] := by
  rw [traceAll]

@[simp] theorem traceAll_cons (s : Statement) (rest : List Statement) :
    traceAll (s :: rest) = s.trace ++ traceAll rest := by
  rw [traceAll]

@[simp] theorem traceAll_append (a b : List Statement) : traceAll (a ++ b) = traceAll a ++ traceAll b := by
  induction a with
  | nil => simp
  | cons s rest ih => simp [ih]

theorem trace_loop (count : UInt32) (body : List Statement) :
    (loop count body).trace = (List.replicate count.toNat (traceAll body)).flatten := by
  rw [trace]

@[simp] theorem trace_statement (a : Action) : a.statement.trace = [a] := by
  cases a <;> rw [Action.statement, trace]

theorem traceAll_map_statement (actions : List Action) : traceAll (actions.map Action.statement) = actions := by
  induction actions with
  | nil => simp
  | cons a rest ih => simp [ih]

/-! ### Rounds of a loop -/

theorem trace_loop_zero (body : List Statement) : (loop 0 body).trace = [] := by
  rw [trace_loop]
  rfl

theorem trace_loop_of_ne_zero {count : UInt32} (h : count ≠ 0) (body : List Statement) :
    (loop count body).trace = traceAll body ++ (loop (count - 1) body).trace := by
  have hone : (1 : UInt32) ≤ count := by
    rw [UInt32.le_iff_toNat_le]
    exact Nat.one_le_iff_ne_zero.mpr fun hzero => h (UInt32.toNat_inj.mp hzero)
  have hcount : count.toNat = (count - 1).toNat + 1 := by
    rw [UInt32.toNat_sub_of_le _ _ hone]
    exact (Nat.sub_add_cancel (UInt32.le_iff_toNat_le.mp hone)).symm
  rw [trace_loop, trace_loop, hcount, List.replicate_succ, List.flatten_cons]

theorem trace_loop_add {n m : UInt32} (h : n.toNat + m.toNat < UInt32.size) (body : List Statement) :
    (loop (n + m) body).trace = (loop n body).trace ++ (loop m body).trace := by
  have hsum : (n + m).toNat = n.toNat + m.toNat := by rw [UInt32.toNat_add, Nat.mod_eq_of_lt h]
  rw [trace_loop, trace_loop, trace_loop, hsum, ← List.replicate_append_replicate, List.flatten_append]

theorem flatten_replicate_mul (n m : Nat) (actions : List Action) :
    (List.replicate n (List.replicate m actions).flatten).flatten = (List.replicate (n * m) actions).flatten := by
  induction n with
  | zero => simp
  | succ n ih =>
    rw [List.replicate_succ, List.flatten_cons, ih, Nat.succ_mul, Nat.add_comm, ← List.replicate_append_replicate,
      List.flatten_append]

theorem trace_loop_loop {n m : UInt32} (h : n.toNat * m.toNat < UInt32.size) (body : List Statement) :
    (loop n [loop m body]).trace = (loop (n * m) body).trace := by
  have hproduct : (n * m).toNat = n.toNat * m.toNat := by rw [UInt32.toNat_mul, Nat.mod_eq_of_lt h]
  rw [trace_loop, trace_loop, traceAll_cons, traceAll_nil, List.append_nil, trace_loop, hproduct, flatten_replicate_mul]

end Statement

namespace Drawing
open Statement

def perform (d : Drawing) : Action → Drawing
  | .move direction distance => d.move direction distance
  | .turn side degrees => d.turn side degrees
  | .pen down => d.setPen down
  | .color c => d.setColor c

/-- Running statements is doing what their trace says. -/
theorem execute_eq_foldl (d : Drawing) (ss : List Statement) : d.execute ss = (traceAll ss).foldl perform d := by
  fun_induction execute d ss with
  | case1 d => simp
  | case2 d direction distance rest ih => simpa [trace, perform] using ih
  | case3 d side degrees rest ih => simpa [trace, perform] using ih
  | case4 d down rest ih => simpa [trace, perform] using ih
  | case5 d c rest ih => simpa [trace, perform] using ih
  | case6 d body rest ih =>
    rw [traceAll_cons, trace_loop_zero]
    exact ih
  | case7 d count body rest nonzero ih =>
    -- One round is done, and the loop with the other rounds comes behind it.
    rw [traceAll_append, traceAll_cons] at ih
    rw [traceAll_cons, trace_loop_of_ne_zero nonzero, List.append_assoc]
    exact ih

theorem execute_trace (d : Drawing) (ss : List Statement) :
    d.execute ((traceAll ss).map Action.statement) = d.execute ss := by
  rw [execute_eq_foldl, execute_eq_foldl, traceAll_map_statement]

theorem execute_eq_of_traceAll_eq {ss ts : List Statement} (h : traceAll ss = traceAll ts) (d : Drawing) :
    d.execute ss = d.execute ts := by
  rw [execute_eq_foldl, execute_eq_foldl, h]

/-- Statements that do the same to every drawing. -/
def Interchangeable (ss ts : List Statement) : Prop := ∀ d : Drawing, d.execute ss = d.execute ts

theorem interchangeable_of_trace_eq {s t : Statement} (h : s.trace = t.trace) : Interchangeable [s] [t] :=
  execute_eq_of_traceAll_eq (by simp [h])

/-- Statements and their trace, without loops, leave every drawing in the same state. Programs with the same trace can
    be put for each other, whatever their loops, and so can a loop around a loop and the loop with the product of the
    counts, and a loop and two loops that share its rounds. -/
theorem execute_unrolled :
    (∀ (d : Drawing) (ss : List Statement), d.execute ss = d.execute ((traceAll ss).map Action.statement)) ∧
    (∀ p q : Program, traceAll p.statements = traceAll q.statements →
      Interchangeable p.statements q.statements ∧ p.segments = q.segments) ∧
    (∀ (n m : UInt32) (body : List Statement), n.toNat * m.toNat < UInt32.size →
      Interchangeable [.loop n [.loop m body]] [.loop (n * m) body]) ∧
    ∀ (n m : UInt32) (body : List Statement), n.toNat + m.toNat < UInt32.size →
      Interchangeable [.loop (n + m) body] [.loop n body, .loop m body] := by
  refine ⟨fun d ss => (execute_trace d ss).symm, fun p q h => ⟨execute_eq_of_traceAll_eq h, ?_⟩,
    fun n m body h => interchangeable_of_trace_eq (trace_loop_loop h body), fun n m body h => ?_⟩
  · rw [Program.segments, Program.segments, execute_eq_of_traceAll_eq h]
  · refine execute_eq_of_traceAll_eq ?_
    simp [trace_loop_add h]

/-- Two rounds with a loop in them that changes the pen for the next round, and a loop that is never entered. -/
theorem execute_unrolled_rounds :
    let body : List Statement := [.move .forward 5, .loop 2 [.pen true, .turn .left 45], .loop 0 [.pen false]]
    let flat : List Statement := [.move .forward 5, .pen true, .turn .left 45, .pen true, .turn .left 45]
    Interchangeable [.loop 2 body] (flat ++ flat) ∧
    Program.segments ⟨[.loop 2 body]⟩ = Program.segments ⟨flat ++ flat⟩ ∧
    Interchangeable [.loop 65536 [.loop 65535 body]] [.loop 4294901760 body] ∧
    Interchangeable [.loop 4294967295 body] [.loop 4294967294 body, .loop 1 body] := by
  intro body flat
  obtain ⟨-, hsame, hnested, hsplit⟩ := execute_unrolled
  have hflat : traceAll [.loop 2 body] = traceAll (flat ++ flat) := by decide +kernel
  obtain ⟨hexecute, hsegments⟩ := hsame ⟨[.loop 2 body]⟩ ⟨flat ++ flat⟩ hflat
  exact ⟨hexecute, hsegments, hnested 65536 65535 body (by decide), hsplit 4294967294 1 body (by decide)⟩

end Drawing

end TurtleGraphics
