import TurtleGraphics.Drawing
import TurtleGraphics.Proofs.Lookahead
import TurtleGraphics.Proofs.Tiling
import TurtleGraphics.Proofs.Verdict

/-! # Programs one behind the other

A text that is a program, a newline and another text: the tokens of the first stay, and those of the second are moved
down by the lines before them (`tokensFrom_joined`). The reader stands behind the first program as it does at the start,
but for the statements it holds. -/

namespace TurtleGraphics

/-! ### Moved positions -/

namespace Position

/-- The position that many characters and lines further down. -/
def shift (index line : Nat) (p : Position) : Position := ⟨p.index + index, p.line + line, p.column⟩

theorem advance_shift (index line : Nat) (p : Position) (c : Char) :
    (p.shift index line).advance c = (p.advance c).shift index line := by
  unfold advance
  split
  · simp [shift, Nat.add_right_comm]
  · simp [shift, Nat.add_right_comm]

theorem after_shift (index line : Nat) (p : Position) (text : List Char) :
    (p.shift index line).after text = (p.after text).shift index line := by
  induction text generalizing p with
  | nil => rfl
  | cons c text ih => rw [after_cons, after_cons, advance_shift, ih]

/-- Behind a newline the column is that of the start. -/
theorem after_newline (text : List Char) :
    (start.after text).advance '\n' = start.shift (text.length + 1) (text.count '\n' + 1) := by
  have hline := line_after start text
  have hindex := index_start_after text
  rw [advance, if_pos rfl, hline, hindex]
  simp [shift, start, Nat.add_assoc]

end Position

namespace Token

/-- The same token further down. -/
def shift (index line : Nat) (t : Token) : Token := ⟨t.kind, t.start.shift index line, t.stop.shift index line⟩

theorem tokensFrom_shift (index line : Nat) (text : List Char) : ∀ position : Position,
    tokensFrom (position.shift index line) text = (tokensFrom position text).map (shift index line) := by
  induction text using stretchInduction with
  | nil =>
    intro position
    rw [tokensFrom_nil, tokensFrom_nil, List.map_nil]
  | stretch h ih =>
    intro position
    rw [h.tokensFrom_append, h.tokensFrom_append, Position.after_shift, ih, List.map_append, List.map_map]
    rfl

/-- A stretch without errors is the same before a newline and more text. -/
theorem Stretch.append_newline {c : Char} {run rest : List Char} {ks : List Kind} (h : Stretch c run rest ks)
    (hok : ∀ kind ∈ ks, kind.error? = none) (more : List Char) : Stretch c run (rest ++ '\n' :: more) ks := by
  cases rest with
  | nil => exact h.before_newline hok more
  | cons d rest => exact h.of_sameAhead (Or.inr rfl) fun _ => rfl

/-- The tokens of a text without errors, a newline and more text. -/
theorem tokensFrom_joined (more : List Char) {text : List Char} : ∀ position : Position,
    (∀ kind ∈ kinds text, kind.error? = none) → tokensFrom position (text ++ '\n' :: more) =
      tokensFrom position text ++ tokensFrom ((position.after text).advance '\n') more := by
  induction text using stretchInduction with
  | nil =>
    intro position hok
    have hblank : Stretch '\n' [] more [] := .blank rfl
    rw [tokensFrom_nil]
    exact hblank.tokensFrom_append position
  | @stretch c run rest ks h ih =>
    intro position hok
    rw [h.kinds_append, List.forall_mem_append] at hok
    have hjoined := (h.append_newline hok.1 more).tokensFrom_append position
    rw [← List.append_assoc] at hjoined
    rw [List.cons_append, hjoined, h.tokensFrom_append, ih _ hok.2, List.append_assoc, ← Position.after_append,
      List.cons_append]

end Token

namespace Program
open Token

section
variable {a b : String} {p : Program}

theorem upperCase_joined (a b : String) :
    Text.upperCase (a ++ "\n" ++ b) = Text.upperCase a ++ '\n' :: Text.upperCase b := by
  have hnewline : Text.upperCase "\n" = ['\n'] := by decide
  rw [Text.upperCase_append, Text.upperCase_append, hnewline, List.append_assoc]
  rfl

theorem tokensFrom_start_joined (h : ∀ kind ∈ kinds (Text.upperCase a), kind.error? = none) :
    tokensFrom .start (Text.upperCase (a ++ "\n" ++ b)) = tokensFrom .start (Text.upperCase a) ++
      (tokensFrom .start (Text.upperCase b)).map
        (Token.shift ((Text.upperCase a).length + 1) ((Text.upperCase a).count '\n' + 1)) := by
  rw [upperCase_joined, tokensFrom_joined _ _ h, Position.after_newline, tokensFrom_shift]

theorem kinds_joined (h : ∀ kind ∈ kinds (Text.upperCase a), kind.error? = none) :
    kinds (Text.upperCase (a ++ "\n" ++ b)) = kinds (Text.upperCase a) ++ kinds (Text.upperCase b) := by
  rw [← kind_tokensFrom .start, tokensFrom_start_joined h, List.map_append, kind_tokensFrom, List.map_map,
    ← kind_tokensFrom .start (Text.upperCase b)]
  rfl

/-- The end of the second text is told at the last of its tokens, moved down as they are. -/
theorem finish_joined (h : ∀ kind ∈ kinds (Text.upperCase a), kind.error? = none)
    (hne : tokensFrom .start (Text.upperCase b) ≠ []) :
    finish (Text.upperCase (a ++ "\n" ++ b)) = (finish (Text.upperCase b)).shift
      ((Text.upperCase a).length + 1) ((Text.upperCase a).count '\n' + 1) := by
  rw [finish, finish, tokensFrom_start_joined h, List.getLast?_append, List.getLast?_map,
    List.getLast?_eq_some_getLast hne]
  rfl

theorem start_scan_joined (h : ∀ kind ∈ kinds (Text.upperCase a), kind.error? = none)
    (hne : tokensFrom .start (Text.upperCase b) ≠ []) :
    (scan (a ++ "\n" ++ b)).map Token.start = (tokensFrom .start (Text.upperCase a)).map Token.start ++
      ((scan b).map Token.start).map
        (Position.shift ((Text.upperCase a).length + 1) ((Text.upperCase a).count '\n' + 1)) := by
  rw [scan_eq, scan_eq, tokensFrom_start_joined h, finish_joined h hne]
  simp [Token.shift, Function.comp_def]

theorem verdict_joined (h : parse a = .ok p) :
    Reader.start.verdict (kinds (Text.upperCase (a ++ "\n" ++ b))) =
      ((Reader.start.verdict (kinds (Text.upperCase b))).map fun q => ⟨p.statements ++ q.statements⟩).mapError
        (Fault.behind (kinds (Text.upperCase a)).length) := by
  obtain ⟨last, hlast, hp⟩ := parse_eq_ok_iff.mp h
  rw [kinds_joined (Reader.error?_of_takeAll? hlast), Reader.verdict_of_takeAll? hlast, Reader.eq_of_result? hp,
    Reader.verdict_since, List.reverse_reverse]

theorem parse_joined_ok {q : Program} (ha : parse a = .ok p) (hb : parse b = .ok q) :
    parse (a ++ "\n" ++ b) = .ok ⟨p.statements ++ q.statements⟩ := by
  rw [parse_eq_verdict_ok_iff, verdict_joined ha, parse_eq_verdict_ok_iff.mp hb]
  rfl

theorem parse_joined_error {e : SyntaxError} (ha : parse a = .ok p) (hb : parse b = .error e) :
    parse (a ++ "\n" ++ b) = .error ⟨e.kind, e.position.shift ((Text.upperCase a).length + 1)
      ((Text.upperCase a).count '\n' + 1)⟩ := by
  obtain ⟨k, hverdict, hposition⟩ := parse_eq_error_iff.mp hb
  obtain ⟨last, hlast, -⟩ := parse_eq_ok_iff.mp ha
  have hok := Reader.error?_of_takeAll? hlast
  have hne : tokensFrom .start (Text.upperCase b) ≠ [] := mt tokensFrom_eq_nil_iff.mp (kinds_ne_nil_of_error hb)
  refine parse_eq_error_iff.mpr ⟨(kinds (Text.upperCase a)).length + k, ?_, ?_⟩
  · rw [verdict_joined ha, hverdict]
    rfl
  · rw [start_scan_joined hok hne, ← kind_tokensFrom .start, List.length_map,
      List.getElem?_append_right (Nat.le_add_right_of_le (by simp)), List.getElem?_map]
    have hbehind : (tokensFrom .start (Text.upperCase a)).length + k -
        ((tokensFrom .start (Text.upperCase a)).map Token.start).length = k := by simp
    rw [hbehind, hposition]
    rfl

end

/-- Behind a program and a newline, a program adds its statements, so the drawing goes on from where it stands; and an
    error is the same, as many characters and lines further down as there are before. -/
theorem parse_joined (a b : String) (p : Program) (ha : parse a = .ok p) :
    (∀ q, parse b = .ok q → parse (a ++ "\n" ++ b) = .ok ⟨p.statements ++ q.statements⟩ ∧
      (parse (a ++ "\n" ++ b)).map Program.segments =
        .ok ((Drawing.empty.execute p.statements).execute q.statements).segments.toList) ∧
    ∀ e, parse b = .error e → parse (a ++ "\n" ++ b) = .error ⟨e.kind,
      ⟨e.position.index + ((Text.upperCase a).length + 1), e.position.line + (a.toList.count '\n' + 1),
        e.position.column⟩⟩ := by
  refine ⟨fun q hb => ?_, fun e hb => ?_⟩
  · have hjoined := parse_joined_ok ha hb
    refine ⟨hjoined, ?_⟩
    rw [hjoined, ← Drawing.execute_append]
    rfl
  · rw [parse_joined_error ha hb, Text.count_newline_upperCase]
    rfl

/-- Behind a program that ends in a comment, with a letter in it that has two characters in upper case. -/
theorem parse_joined_commented :
    let a := "DOWN.\nUP. % ß"
    parse a = .ok ⟨[.pen true, .pen false]⟩ ∧
    parse (a ++ "\n" ++ "rep 2 left 1.") = .ok ⟨[.pen true, .pen false] ++ [.loop 2 [.turn .left 1]]⟩ ∧
    parse "rep 2\nleft 0." = .error ⟨.lexical .zeroNumber, ⟨11, 2, 6⟩⟩ ∧
    parse (a ++ "\n" ++ "rep 2\nleft 0.") = .error ⟨.lexical .zeroNumber, ⟨11 + 15, 2 + 2, 6⟩⟩ := by
  intro a
  have hkinds : kinds (Text.upperCase a) = [.keyword .down, .period, .keyword .up, .period] := by decide +kernel
  have ha : parse a = .ok ⟨[.pen true, .pen false]⟩ := parse_eq_verdict_ok_iff.mpr (by rw [hkinds]; rfl)
  have hloop : kinds (Text.upperCase "rep 2 left 1.") =
      [.keyword .rep, .number 2, .keyword .left, .number 1, .period] := by decide +kernel
  have hok : parse "rep 2 left 1." = .ok ⟨[.loop 2 [.turn .left 1]]⟩ :=
    parse_eq_verdict_ok_iff.mpr (by rw [hloop]; rfl)
  have hzero : kinds (Text.upperCase "rep 2\nleft 0.") =
      [.keyword .rep, .number 2, .keyword .left, .error .zeroNumber, .period] := by decide +kernel
  have herror : parse "rep 2\nleft 0." = .error ⟨.lexical .zeroNumber, ⟨11, 2, 6⟩⟩ :=
    parse_eq_error_iff.mpr ⟨3, by rw [hzero]; rfl, by decide +kernel⟩
  have hlength : (Text.upperCase a).length = 14 := by decide
  have hlines : a.toList.count '\n' = 1 := by decide
  refine ⟨ha, ((parse_joined _ _ _ ha).1 _ hok).1, herror, ?_⟩
  rw [(parse_joined _ _ _ ha).2 _ herror, hlength, hlines]

end Program

end TurtleGraphics
