import TurtleGraphics.Proofs.Unrolling

/-! # Drawings made in parts

Running statements never looks at what was drawn before: it puts new segments behind the old ones, and what these
are depends on the turtle alone. So a drawing that goes on from another is the other one's segments followed by those of
a drawing that starts with its turtle, and a list of statements may be cut into fragments that are run one by one. -/

namespace TurtleGraphics.Drawing
open Statement

/-- A drawing with segments that were drawn before its own. -/
def behind (d : Drawing) (earlier : Array Segment) : Drawing := { d with segments := earlier ++ d.segments }

theorem perform_behind (d : Drawing) (earlier : Array Segment) (a : Action) :
    (d.behind earlier).perform a = (d.perform a).behind earlier := by
  cases a with
  | move direction distance =>
    unfold perform move behind
    dsimp only
    cases d.turtle.penDown with
    | false => rfl
    | true => rw [if_pos rfl, if_pos rfl, Array.append_push]
  | turn side degrees => rfl
  | pen down => rfl
  | color c => rfl

theorem foldl_perform_behind (d : Drawing) (earlier : Array Segment) (trace : List Action) :
    trace.foldl perform (d.behind earlier) = (trace.foldl perform d).behind earlier := by
  induction trace generalizing d with
  | nil => rfl
  | cons a rest ih => rw [List.foldl_cons, List.foldl_cons, perform_behind, ih]

theorem execute_behind (d : Drawing) (earlier : Array Segment) (ss : List Statement) :
    (d.behind earlier).execute ss = (d.execute ss).behind earlier := by
  rw [execute_eq_foldl, execute_eq_foldl, foldl_perform_behind]

/-- A drawing goes on as one that starts with its turtle, behind its segments. -/
theorem execute_eq_behind (d : Drawing) (ss : List Statement) :
    d.execute ss = (execute ⟨d.turtle, #[]⟩ ss).behind d.segments := by
  have hd : (⟨d.turtle, #[]⟩ : Drawing).behind d.segments = d := by
    unfold behind
    dsimp only
    rw [Array.append_empty]
  rw [← execute_behind, hd]

theorem foldl_execute (d : Drawing) (fragments : List (List Statement)) :
    fragments.foldl execute d = d.execute fragments.flatten := by
  induction fragments generalizing d with
  | nil => rw [List.foldl_nil, List.flatten_nil, execute]
  | cons ss rest ih => rw [List.foldl_cons, List.flatten_cons, execute_append, ih]

/-! ### Points of a run -/

/-- The drawing at a point of a run that started with nothing drawn, when `done` has been done. -/
def after (done : List Action) : Drawing := empty.execute (done.map Action.statement)

theorem after_eq_foldl (done : List Action) : after done = done.foldl perform empty := by
  rw [after, execute_eq_foldl, traceAll_map_statement]

theorem after_concat (done : List Action) (a : Action) : after (done ++ [a]) = (after done).perform a := by
  rw [after_eq_foldl, after_eq_foldl, List.foldl_append, List.foldl_cons, List.foldl_nil]

/-- A run ends at its last point. -/
theorem foldl_execute_empty (fragments : List (List Statement)) :
    fragments.foldl execute empty = after (traceAll fragments.flatten) := by
  rw [foldl_execute, after, execute_trace]

/-! ### The law -/

/-- Running statements adds segments to those of a drawing, and both these and the turtle at the end are those of a
    drawing that starts with the same turtle and nothing drawn. However a list of statements is cut into fragments,
    running them in turn is running the list, and from an empty drawing the segments are those of the program. -/
theorem execute_appends :
    (∀ (d : Drawing) (ss : List Statement),
      (d.execute ss).segments = d.segments ++ (execute ⟨d.turtle, #[]⟩ ss).segments ∧
      (d.execute ss).turtle = (execute ⟨d.turtle, #[]⟩ ss).turtle) ∧
    ∀ fragments : List (List Statement),
      (∀ d : Drawing, fragments.foldl execute d = d.execute fragments.flatten) ∧
      (fragments.foldl execute empty).segments.toList = Program.segments ⟨fragments.flatten⟩ := by
  refine ⟨fun d ss => ?_, fun fragments => ⟨fun d => foldl_execute d fragments, ?_⟩⟩
  · rw [execute_eq_behind d ss]
    exact ⟨rfl, rfl⟩
  · rw [foldl_execute, Program.segments]

end TurtleGraphics.Drawing
