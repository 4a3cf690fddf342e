import Mathlib.Data.List.DropRight
import TurtleGraphics.Proofs.Tiling
import TurtleGraphics.Proofs.Verdict

/-! # Where errors are told

An error is told of a token with text in it, also at the end of the input, where it falls back on the last token
(`exists_token_of_error`). Such a token starts in code: not at a blank, and not in a comment. Its line is one of the
lines of the text. -/

namespace TurtleGraphics

namespace Text

/-! ### Lines -/

/-- What stands behind the last newline. -/
def lastLine (text : List Char) : List Char := text.rtakeWhile (· != '\n')

/-- How many lines a text has. Each newline ends one, and what stands behind the last newline is one more. -/
def lineCount (text : List Char) : Nat := text.count '\n' + if lastLine text = [] then 0 else 1

@[simp] theorem lastLine_nil : lastLine [] = [] := rfl

@[simp] theorem lastLine_concat_newline (text : List Char) : lastLine (text ++ ['\n']) = [] :=
  List.rtakeWhile_concat_neg _ _ _ (by decide)

theorem lastLine_concat {c : Char} (h : c ≠ '\n') (text : List Char) : lastLine (text ++ [c]) = lastLine text ++ [c] :=
  List.rtakeWhile_concat_pos _ _ _ (bne_iff_ne.mpr h)

theorem lastLine_append {b : List Char} (h : '\n' ∉ b) (a : List Char) : lastLine (a ++ b) = lastLine a ++ b := by
  induction b using List.reverseRecOn with
  | nil => simp
  | append_singleton b c ih =>
    rw [List.mem_append, List.mem_singleton, not_or] at h
    rw [← List.append_assoc, lastLine_concat (Ne.symm h.2), ih h.1, List.append_assoc]

theorem lastLine_append_newline (a b : List Char) : lastLine (a ++ '\n' :: b) = lastLine b := by
  induction b using List.reverseRecOn with
  | nil => simp
  | append_singleton b c ih =>
    rw [← List.cons_append, ← List.append_assoc]
    by_cases hc : c = '\n'
    · rw [hc, lastLine_concat_newline, lastLine_concat_newline]
    · rw [lastLine_concat hc, lastLine_concat hc, ih]

/-- A character that is no newline is on one of the lines of the text. -/
theorem line_le_lineCount {front back : List Char} {c : Char} (h : c ≠ '\n') :
    1 + front.count '\n' ≤ lineCount (front ++ c :: back) := by
  have hcount : (front ++ c :: back).count '\n' = front.count '\n' + back.count '\n' := by
    rw [List.count_append, List.count_cons_of_ne h]
  rw [lineCount, hcount]
  by_cases hback : '\n' ∈ back
  · have hpos := List.count_pos_iff.mpr hback
    omega
  · have hline : lastLine (front ++ c :: back) ≠ [] := by
      rw [lastLine_append (by simp [hback, Ne.symm h])]
      simp
    rw [if_neg hline]
    omega

theorem lineCount_upperCase_le (text : String) : lineCount (upperCase text) ≤ lineCount text.toList := by
  rw [lineCount, lineCount, count_newline_upperCase]
  suffices hempty : lastLine text.toList = [] → lastLine (upperCase text) = [] by
    split
    · omega
    · next hne => rw [if_neg (mt hempty hne)]
  intro hline
  rcases List.eq_nil_or_concat text.toList with htext | ⟨front, c, htext⟩
  · rw [upperCase, htext]
    rfl
  · rw [List.concat_eq_append] at htext
    have hc : c = '\n' := by
      by_contra hc
      rw [htext, lastLine_concat hc] at hline
      simp at hline
    have hupper : upper '\n' = ['\n'] := by decide
    rw [upperCase, htext, List.flatMap_append, hc, List.flatMap_singleton, hupper, lastLine_concat_newline]

theorem line_le_of_upperCase_eq {text : String} {front back : List Char} {c : Char}
    (h : upperCase text = front ++ c :: back) (hc : c ≠ '\n') : 1 + front.count '\n' ≤ lineCount text.toList := by
  have hupper := lineCount_upperCase_le text
  rw [h] at hupper
  exact Nat.le_trans (line_le_lineCount hc) hupper

end Text

theorem Position.column_start_after (text : List Char) :
    (Position.start.after text).column = 1 + (Text.lastLine text).length := by
  induction text using List.reverseRecOn with
  | nil => rfl
  | append_singleton text c ih =>
    rw [after_append, after_cons, after_nil, advance]
    split
    · next hc => rw [hc, Text.lastLine_concat_newline]; rfl
    · next hc => simp [Text.lastLine_concat hc, ih, Nat.add_assoc]

namespace Token

/-! ### Code -/

/-- Whether the character at an index belongs to a comment: a comment goes from a percent sign to
    the end of the line. -/
def InComment (text : List Char) (i : Nat) : Prop := '%' ∈ Text.lastLine (text.take (i + 1))

theorem not_inComment {front back : List Char} {c : Char} (hfront : '%' ∉ Text.lastLine front) (hc : c ∉ ['\n', '%']) :
    ¬InComment (front ++ c :: back) front.length := by
  simp only [List.mem_cons, List.not_mem_nil, or_false, not_or] at hc
  rw [InComment, List.take_length_add_append, List.take_succ_cons, List.take_zero, Text.lastLine_concat hc.1]
  simp [hfront, Ne.symm hc.2]

/-- No comment is open behind a gap, if none was before it. -/
theorem Gap.percent_notMem {gap : List Char} (h : Gap gap) : ∀ {before : List Char},
    '%' ∉ Text.lastLine before → '%' ∉ Text.lastLine (before ++ gap) := by
  induction h with
  | nil =>
    intro before hb
    rwa [List.append_nil]
  | @blank c gap hc h ih =>
    intro before hb
    rw [List.append_cons]
    apply ih
    by_cases hn : c = '\n'
    · simp [hn]
    · rw [Text.lastLine_concat hn]
      have hpercent : c ≠ '%' := by rintro rfl; simp at hc
      simp [hb, Ne.symm hpercent]
  | @comment body gap hbody h ih =>
    intro before hb
    -- The newline closes the comment, so it is as if there had been none.
    have hclosed := ih hb
    rw [Text.lastLine_append_newline] at hclosed
    rwa [← List.cons_append, ← List.append_assoc, Text.lastLine_append_newline]

/-- A token starts in code. -/
theorem exists_code_of_mem {text : List Char} : ∀ (before : List Char) {t : Token}, '%' ∉ Text.lastLine before →
    t ∈ tokensFrom (Position.start.after before) text →
      ∃ front c back, before ++ text = front ++ c :: back ∧ t.start = Position.start.after front ∧
        startsSeparator [c] = false ∧ '%' ∉ Text.lastLine front := by
  induction text using tokenInduction with
  | trailing h =>
    intro before t _ ht
    rw [h.tokensFrom_eq] at ht
    cases ht
  | @token gap c run rest ks hg h hne ih =>
    intro before t hb ht
    have hgap := hg.percent_notMem hb
    rw [tokensFrom_gap_stretch hg h, List.mem_append] at ht
    rcases ht with ht | ht
    · obtain ⟨kind, -, rfl⟩ := List.mem_map.mp ht
      exact ⟨before ++ gap, c, run ++ rest, by simp, rfl, h.startsSeparator_eq_false hne [], hgap⟩
    · have hword : '%' ∉ Text.lastLine (before ++ (gap ++ c :: run)) := by
        rw [← List.append_assoc, Text.lastLine_append (h.newline_notMem hne), List.mem_append, not_or]
        exact ⟨hgap, h.separator_notMem hne rfl⟩
      obtain ⟨front, c', back, heq, ht⟩ := ih _ hword ht
      exact ⟨front, c', back, by simpa using heq, ht⟩

end Token

namespace Program
open Token

/-- An error is told of a token other than the end marker. -/
theorem exists_token_of_error {text : String} {e : SyntaxError} (h : parse text = .error e) :
    ∃ t ∈ tokensFrom .start (Text.upperCase text), e.position = t.start := by
  obtain ⟨k, -, hposition⟩ := parse_eq_error_iff.mp h
  have hne : tokensFrom .start (Text.upperCase text) ≠ [] := mt tokensFrom_eq_nil_iff.mp (kinds_ne_nil_of_error h)
  obtain ⟨t, ht, hstart⟩ := List.mem_map.mp (List.mem_of_getElem? hposition)
  rw [scan_eq, List.mem_append, List.mem_singleton] at ht
  rcases ht with ht | rfl
  · exact ⟨t, ht, hstart.symm⟩
  · -- The end marker stands at the last token.
    refine ⟨_, List.getLast_mem hne, ?_⟩
    rw [← hstart, finish, List.getLast?_eq_some_getLast hne]
    rfl

/-- A syntax error is told at the start of a token of the text, at a character that is neither blank nor in a comment.
    Its line and column are those of this character, and the line is one of the lines of the text. -/
theorem parse_error_at_code (text : String) (e : SyntaxError) (h : parse text = .error e) :
    let source := Text.upperCase text
    let before := source.take e.position.index
    (∃ t ∈ scan text, t.kind ≠ .eof ∧ e.position = t.start) ∧
    e.position.index < source.length ∧
    (∃ c, source[e.position.index]? = some c ∧ c ∉ [' ', '\t', '\n', '%']) ∧
    ¬InComment source e.position.index ∧
    e.line = 1 + before.count '\n' ∧
    e.position.column = 1 + (Text.lastLine before).length ∧
    1 ≤ e.line ∧ e.line ≤ Text.lineCount text.toList := by
  intro source before
  obtain ⟨t, ht, hposition⟩ := exists_token_of_error h
  obtain ⟨front, c, back, hsource, hstart, hcode, hcomment⟩ := exists_code_of_mem [] (by simp) ht
  have hsource : source = front ++ c :: back := hsource
  have hstart : e.position = Position.start.after front := hposition.trans hstart
  have hblank : c ≠ ' ' ∧ c ≠ '\t' ∧ c ≠ '\n' ∧ c ≠ '%' := by
    simpa [startsSeparator, isBlank, and_assoc] using hcode
  have hindex : e.position.index = front.length := by rw [hstart, Position.index_start_after]
  have hbefore : before = front := by simp [before, hsource, hindex]
  have hline : e.line = 1 + front.count '\n' := by rw [SyntaxError.line, hstart, Position.line_after]; rfl
  have hcounted : e.line ≤ Text.lineCount text.toList := hline ▸ Text.line_le_of_upperCase_eq hsource hblank.2.2.1
  refine ⟨⟨t, ?_, kind_ne_eof_of_mem ht, hposition⟩, ?_, ⟨c, ?_, by simp [hblank]⟩, ?_, hbefore ▸ hline, ?_, ?_,
    hcounted⟩
  · rw [scan_eq]
    exact List.mem_append_left _ ht
  · simp [hsource, hindex]
  · simp [hsource, hindex]
  · rw [hsource, hindex]
    exact not_inComment hcomment (by simp [hblank])
  · rw [hbefore, hstart, Position.column_start_after]
  · omega

/-- A loop without its second quote, between comments. The error is told at the last token, above the comment that the
    quote is in. -/
theorem parse_error_at_code_unterminated :
    let text := "down. % ß\nrep 2 \"up.\n% \"\n"
    let e : SyntaxError := ⟨.unterminatedLoop, ⟨20, 2, 10⟩⟩
    parse text = .error e ∧ (∃ t ∈ scan text, t.kind ≠ .eof ∧ e.position = t.start) ∧
    (Text.upperCase text)[20]? = some '.' ∧ ¬InComment (Text.upperCase text) 20 ∧ 2 ≤ Text.lineCount text.toList := by
  intro text e
  have hkinds : kinds (Text.upperCase text) =
      [.keyword .down, .period, .keyword .rep, .number 2, .quote, .keyword .up, .period] := by decide +kernel
  have h : parse text = .error e := parse_eq_error_iff.mpr ⟨7, by rw [hkinds]; rfl, by decide +kernel⟩
  obtain ⟨htoken, -, -, hcomment, -, -, -, hlines⟩ := parse_error_at_code text e h
  exact ⟨h, htoken, by decide, hcomment, hlines⟩

end Program

end TurtleGraphics
