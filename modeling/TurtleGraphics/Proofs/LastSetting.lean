import TurtleGraphics.Proofs.Canonical
import TurtleGraphics.Proofs.Listing
import TurtleGraphics.Proofs.SegmentCount

/-! # The pen that a program leaves behind

Which pen a program leaves behind can be read off its text: what is set last on paper is set last in the run, however
often and however deep the loops go around it. This rests on every loop having a round, as loops that were read do: a
loop without rounds sets on paper what it never sets in the run. -/

namespace TurtleGraphics

/-- What an entry of a listing does at once. A loop does nothing itself. -/
def Entry.action? : Entry → Option Action
  | move direction distance => some (.move direction distance)
  | turn side degrees => some (.turn side degrees)
  | pen down => some (.pen down)
  | color c => some (.color c)
  | loop _ _ => none

/-- What a program says to do, in the order in which it is written. -/
def Program.written (p : Program) : List Action := p.listing.toList.filterMap Entry.action?

theorem Entry.eq_color_of_action? {entry : Entry} {c : Color} (h : entry.action? = some (.color c)) :
    entry = color c := by
  cases entry <;> cases h
  rfl

/-! ### Written statements -/

namespace Statement

mutual

def written : Statement → List Action
  | move direction distance => [.move direction distance]
  | turn side degrees => [.turn side degrees]
  | pen down => [.pen down]
  | color c => [.color c]
  | loop _ body => writtenAll body

def writtenAll : List Statement → List Action
  | [] => []
  | s :: rest => s.written ++ writtenAll rest

end

mutual

theorem filterMap_entries : (s : Statement) → s.entries.filterMap Entry.action? = s.written
  | move _ _ | turn _ _ | pen _ | color _ => by rw [entries, written]; rfl
  | loop count body => by
    rw [entries, written, ← filterMap_entriesAll body]
    rfl

theorem filterMap_entriesAll : (ss : List Statement) → (entriesAll ss).filterMap Entry.action? = writtenAll ss
  | [] => by rw [entriesAll, writtenAll]; rfl
  | s :: rest => by
    rw [entriesAll, writtenAll, List.filterMap_append, filterMap_entries s, filterMap_entriesAll rest]

end

theorem written_eq_writtenAll (p : Program) : p.written = writtenAll p.statements := by
  rw [Program.written, Program.toList_listing, filterMap_entriesAll]

/-! ### What is written and what is done -/

-- By recursion on the statement: the rounds of a loop set what one round sets, and there is one.
mutual

theorem latest_trace {α : Type} (set? : Action → Option α) (first : α) :
    (s : Statement) → s.WellFormed → latest set? first s.trace = latest set? first s.written
  | move _ _, _ | turn _ _, _ | pen _, _ | color _, _ => by rw [trace, written]
  | loop count body, h => by
    rw [WellFormed] at h
    obtain ⟨hcount, -, hbody⟩ := h
    obtain ⟨n, hn⟩ := exists_succ_of_ne_zero (UInt32.ne_of_lt hcount).symm
    rw [trace_loop, hn, latest_rounds, written, latest_traceAll set? first body hbody]

theorem latest_traceAll {α : Type} (set? : Action → Option α) (first : α) :
    (ss : List Statement) → AllWellFormed ss → latest set? first (traceAll ss) = latest set? first (writtenAll ss)
  | [], _ => by rw [traceAll, writtenAll]
  | s :: rest, h => by
    rw [AllWellFormed] at h
    rw [traceAll_cons, writtenAll, latest_append, latest_append, latest_trace set? first s h.1,
      latest_traceAll set? _ rest h.2]

end

mutual

theorem mem_written_of_mem_trace {a : Action} : (s : Statement) → a ∈ s.trace → a ∈ s.written
  | move _ _, h | turn _ _, h | pen _, h | color _, h => by rwa [trace] at h
  | loop count body, h => by
    rw [trace_loop] at h
    obtain ⟨round, hround, ha⟩ := List.mem_flatten.mp h
    rw [List.eq_of_mem_replicate hround] at ha
    rw [written]
    exact mem_writtenAll_of_mem_traceAll body ha

theorem mem_writtenAll_of_mem_traceAll {a : Action} : (ss : List Statement) → a ∈ traceAll ss → a ∈ writtenAll ss
  | [], h => by rwa [traceAll] at h
  | s :: rest, h => by
    rw [writtenAll]
    rw [traceAll_cons] at h
    rcases List.mem_append.mp h with h | h
    · exact List.mem_append_left _ (mem_written_of_mem_trace s h)
    · exact List.mem_append_right _ (mem_writtenAll_of_mem_traceAll rest h)

end

end Statement

theorem Program.color_mem_listing {p : Program} {c : Color} (h : .color c ∈ p.written) : .color c ∈ p.listing := by
  obtain ⟨entry, hentry, haction⟩ := List.mem_filterMap.mp h
  rw [← Entry.eq_color_of_action? haction]
  exact Array.mem_def.mpr hentry

/-! ### Colors of segments -/

theorem mem_of_mem_beforeMoves {trace before : List Action} (h : before ∈ beforeMoves trace) :
    ∀ a ∈ before, a ∈ trace := by
  induction trace generalizing before with
  | nil => cases h
  | cons first rest ih =>
    -- Before a move there is nothing, or the first action and what comes before a move of the rest.
    have hcases : before = [] ∨ ∃ behind ∈ beforeMoves rest, before = first :: behind := by
      cases first with
      | move direction distance =>
        rcases List.mem_cons.mp h with h | h
        · exact Or.inl h
        · obtain ⟨behind, hbehind, rfl⟩ := List.mem_map.mp h
          exact Or.inr ⟨behind, hbehind, rfl⟩
      | turn side degrees | pen down | color c =>
        obtain ⟨behind, hbehind, rfl⟩ := List.mem_map.mp h
        exact Or.inr ⟨behind, hbehind, rfl⟩
    intro a ha
    rcases hcases with rfl | ⟨behind, hbehind, rfl⟩
    · cases ha
    · rcases List.mem_cons.mp ha with rfl | ha
      · exact List.mem_cons_self
      · exact List.mem_cons_of_mem _ (ih hbehind a ha)

theorem latest_color_cases (first : Color) (trace : List Action) :
    latest Action.color? first trace = first ∨ .color (latest Action.color? first trace) ∈ trace := by
  unfold latest
  cases h : (trace.filterMap Action.color?).getLast? with
  | none => exact Or.inl rfl
  | some c =>
    obtain ⟨a, ha, hc⟩ := List.mem_filterMap.mp (List.mem_of_getLast? h)
    cases a <;> cases hc
    exact Or.inr ha

namespace Turtle

theorem color_of_mem_observed {t : Turtle} {trace : List Action} {walk : List (Point × Point)} {s : Segment}
    (h : s ∈ t.observed trace walk) : s.color = t.color ∨ .color s.color ∈ trace := by
  obtain ⟨⟨before, source, target⟩, hzip, hmark⟩ := List.mem_filterMap.mp h
  have hbefore := (List.of_mem_zip hzip).1
  simp only [mark?, Option.ite_none_right_eq_some, Option.some.injEq] at hmark
  obtain ⟨-, rfl⟩ := hmark
  rcases latest_color_cases t.color before with heq | hmem
  · exact Or.inl heq
  · exact Or.inr (mem_of_mem_beforeMoves hbefore _ hmem)

end Turtle

/-! ### Running -/

namespace Drawing
open Statement

/-- What a turtle carries is what the trace set last. -/
theorem carried_foldl_perform {α : Type} {set? : Action → Option α} {carried : Turtle → α}
    (hact : ∀ t a, carried (t.act a) = (set? a).getD (carried t)) (d : Drawing) (trace : List Action) :
    carried (trace.foldl perform d).turtle = latest set? (carried d.turtle) trace := by
  induction trace generalizing d with
  | nil => rfl
  | cons a rest ih => rw [List.foldl_cons, ih, turtle_perform, hact, latest_cons]

theorem carried_execute {α : Type} {set? : Action → Option α} {carried : Turtle → α}
    (hact : ∀ t a, carried (t.act a) = (set? a).getD (carried t)) (d : Drawing) {p : Program} (h : p.WellFormed) :
    carried (d.execute p.statements).turtle = latest set? (carried d.turtle) p.written := by
  rw [execute_eq_foldl, carried_foldl_perform hact, latest_traceAll _ _ _ h, written_eq_writtenAll]

end Drawing

namespace Program
open Statement

/-- After a program that was read, the pen is up or down as its text says last, and has the color that its text names
    last, each being as before where the text says nothing. A segment drawn meanwhile has the color from before or one
    that the program names. -/
theorem execute_leaves_last_setting {text : String} {p : Program} (h : parse text = .ok p) (d : Drawing) :
    (d.execute p.statements).turtle.penDown = latest Action.pen? d.turtle.penDown p.written ∧
    (d.execute p.statements).turtle.color = latest Action.color? d.turtle.color p.written ∧
    ∃ added, (d.execute p.statements).segments.toList = d.segments.toList ++ added ∧
      ∀ s ∈ added, s.color = d.turtle.color ∨ .color s.color ∈ p.listing := by
  have hwell := wellFormed_of_parse h
  have hadded : (d.execute p.statements).segments.toList = d.segments.toList ++
      d.turtle.observed (traceAll p.statements) (d.turtle.pose.walk (motions (traceAll p.statements))) := by
    rw [Drawing.execute_eq_foldl, Drawing.segments_foldl_perform]
  refine ⟨Drawing.carried_execute Turtle.penDown_act d hwell, Drawing.carried_execute Turtle.color_act d hwell, _,
    hadded, fun s hs => ?_⟩
  rcases Turtle.color_of_mem_observed hs with hcolor | hmem
  · exact Or.inl hcolor
  · refine Or.inr (color_mem_listing ?_)
    rw [written_eq_writtenAll]
    exact mem_writtenAll_of_mem_traceAll _ hmem

/-- The pen is lowered and raised in every round, and the color named last stands in the inner loop. -/
theorem execute_leaves_last_setting_rounds :
    let text := "rep 3 \"down. color #ff0000. rep 2 \"forw 1. up. color #00ff00.\"\" left 90."
    let p : Program :=
      ⟨[.loop 3 [.pen true, .color ⟨255, 0, 0⟩, .loop 2 [.move .forward 1, .pen false, .color ⟨0, 255, 0⟩]],
        .turn .left 90]⟩
    let d := Drawing.empty.execute p.statements
    parse text = .ok p ∧ d.turtle.penDown = false ∧ d.turtle.color = ⟨0, 255, 0⟩ ∧ d.segments.size = 3 ∧
    ∀ s ∈ d.segments.toList, s.color = .initial ∨ .color s.color ∈ p.listing := by
  intro text p d
  have hkinds : Token.kinds (Text.upperCase text) = [.keyword .rep, .number 3, .quote, .keyword .down, .period,
      .keyword .color, .hex "#FF0000", .period, .keyword .rep, .number 2, .quote, .keyword .forw, .number 1, .period,
      .keyword .up, .period, .keyword .color, .hex "#00FF00", .period, .quote, .quote, .keyword .left, .number 90,
      .period] := by decide +kernel
  have hparse : parse text = .ok p := parse_eq_verdict_ok_iff.mpr (by rw [hkinds]; rfl)
  have htrace : traceAll p.statements = (List.replicate 3 [.pen true, .color ⟨255, 0, 0⟩, .move .forward 1, .pen false,
      .color ⟨0, 255, 0⟩, .move .forward 1, .pen false, .color ⟨0, 255, 0⟩]).flatten ++ [.turn .left 90] := by
    decide +kernel
  have hsize : d.segments.size = 3 := by
    show (Drawing.empty.execute p.statements).segments.size = 3
    rw [Drawing.execute_eq_foldl, htrace]
    rfl
  obtain ⟨hpen, hcolor, added, hadded, hcolors⟩ := execute_leaves_last_setting hparse .empty
  rw [written_eq_writtenAll] at hpen hcolor
  rw [show Drawing.empty.segments.toList = [] from rfl, List.nil_append] at hadded
  exact ⟨hparse, hpen, hcolor, hsize, hadded ▸ hcolors⟩

end Program

end TurtleGraphics
