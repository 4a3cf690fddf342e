import TurtleGraphics.Proofs.Reader
import TurtleGraphics.Proofs.Tiling

/-! # The end marker

`ofTokens` reads the tokens as they are given, whatever stands behind an end marker, and puts a marker of its own behind
the last one. That no function of it steps over a marker, and that each of them tells errors at the marker it stops at,
is `Reader.runToMark_allStatements`; so all that is left of the tokens are those before the first marker and its place
(`ofTokens_eq_run`). The scanner puts its marker at the start of the last token, as `ofTokens` does: with the marker or
without it, a text is read alike, and so are its errors. A text without tokens has no error, wherever it ends. -/

namespace TurtleGraphics.Program

section
variable {front : List Token} {mark : Token} (hmark : mark.kind = .eof)
include hmark

theorem isEof_of_kind : mark.isEof = true := by
  simp [Token.isEof, hmark]

-- Whether `front` has an end marker of its own makes no difference.
theorem beforeEnd_append_mark (rest : List Token) : beforeEnd (front ++ mark :: rest) = beforeEnd front := by
  induction front with
  | nil => simp [isEof_of_kind hmark]
  | cons t front ih =>
    rw [beforeEnd, beforeEnd, List.cons_append, List.takeWhile_cons, List.takeWhile_cons]
    split
    · exact congrArg (t :: ·) ih
    · rfl

theorem endOf_append_mark (rest : List Token) :
    endOf (front ++ mark :: rest) = ((front.find? Token.isEof).getD mark).start := by
  rw [endOf, List.find?_append, List.find?_cons_of_pos (isEof_of_kind hmark)]
  cases front.find? Token.isEof <;> rfl

/-- Nothing behind an end marker counts. -/
theorem ofTokens_append_mark (rest : List Token) : ofTokens (front ++ mark :: rest) = ofTokens (front ++ [mark]) := by
  rw [ofTokens_eq_run, ofTokens_eq_run, beforeEnd_append_mark hmark, beforeEnd_append_mark hmark,
    endOf_append_mark hmark, endOf_append_mark hmark]

/-- An end marker may be left out where it says what the end of the tokens says without it. -/
theorem ofTokens_concat_mark (hfront : ∀ t ∈ front, t.kind ≠ .eof)
    (hstart : mark.start = (front.getLast?.map Token.start).getD .start) :
    ofTokens (front ++ [mark]) = ofTokens front := by
  have hnone : front.find? Token.isEof = none := by
    rw [List.find?_eq_none]
    intro t ht
    simpa [Token.isEof] using hfront t ht
  have hend : endOf front = mark.start := by
    rw [endOf, hnone, hstart]
    rfl
  rw [ofTokens_eq_run, ofTokens_eq_run, beforeEnd_append_mark hmark, endOf_append_mark hmark, hnone, hend]
  rfl

end

/-- Tokens up to the first end marker, the marker and what is behind it. -/
theorem exists_mark_of_findIdx? {tokens : List Token} {k : Nat} (h : tokens.findIdx? Token.isEof = some k) :
    ∃ front mark rest, tokens = front ++ mark :: rest ∧ tokens.take (k + 1) = front ++ [mark] ∧ mark.kind = .eof := by
  obtain ⟨hlt, hmark, -⟩ := List.findIdx?_eq_some_iff_getElem.mp h
  refine ⟨tokens.take k, tokens[k], tokens.drop (k + 1), ?_, ?_, by simpa [Token.isEof] using hmark⟩
  · rw [List.getElem_cons_drop, List.take_append_drop]
  · rw [List.take_append_getElem]

/-- The scanner's marker may be left out. -/
theorem ofTokens_tokensFrom (text : String) :
    ofTokens (Token.tokensFrom .start (Text.upperCase text)) = parse text := by
  rw [parse, Token.scan_eq]
  cases hlast : (Token.tokensFrom .start (Text.upperCase text)).getLast? with
  | none =>
    rw [List.getLast?_eq_none_iff.mp hlast, ofTokens_eq_run, ofTokens_eq_run, beforeEnd_append_mark rfl]
    rfl
  | some t =>
    refine (ofTokens_concat_mark rfl (fun s hs => Token.kind_ne_eof_of_mem hs) ?_).symm
    rw [Token.finish, hlast]
    rfl

/-- Nothing behind the first end marker has a part in the program or in the error. Tokens without one are read as if a
    marker stood behind them, at the start of the last token. A text is read alike without the marker that the scanner
    puts behind its tokens. -/
theorem ofTokens_end_immaterial :
    (∀ (tokens : List Token) (k : Nat), tokens.findIdx? Token.isEof = some k →
      ofTokens tokens = ofTokens (tokens.take (k + 1)) ∧
      ∀ others, tokens.take (k + 1) <+: others → ofTokens others = ofTokens tokens) ∧
    (∀ (tokens : List Token) (mark : Token), (∀ t ∈ tokens, t.kind ≠ .eof) → mark.kind = .eof →
      mark.start = (tokens.getLast?.map Token.start).getD .start → ofTokens tokens = ofTokens (tokens ++ [mark])) ∧
    ∀ text : String, ∃ tokens mark, Token.scan text = tokens ++ [mark] ∧ mark.kind = .eof ∧
      ofTokens tokens = parse text := by
  refine ⟨fun tokens k h => ?_, fun tokens mark htokens hmark hstart => ?_, fun text => ?_⟩
  · obtain ⟨front, mark, rest, rfl, htake, hmark⟩ := exists_mark_of_findIdx? h
    rw [htake]
    refine ⟨ofTokens_append_mark hmark rest, ?_⟩
    rintro others ⟨more, rfl⟩
    rw [List.append_assoc, List.singleton_append, ofTokens_append_mark hmark more, ofTokens_append_mark hmark rest]
  · exact (ofTokens_concat_mark hmark htokens hstart).symm
  · exact ⟨_, _, Token.scan_eq text, rfl, ofTokens_tokensFrom text⟩

/-- A loop in quotes that an end marker cuts off, with the missing quote behind the marker, and a statement without
    argument or marker. -/
theorem ofTokens_end_immaterial_cut_off :
    let unclosed : List Token := [⟨.keyword .rep, ⟨0, 1, 1⟩, ⟨3, 1, 4⟩⟩, ⟨.number 2, ⟨4, 1, 5⟩, ⟨5, 1, 6⟩⟩,
      ⟨.quote, ⟨6, 1, 7⟩, ⟨7, 1, 8⟩⟩, ⟨.keyword .up, ⟨8, 2, 1⟩, ⟨10, 2, 3⟩⟩, ⟨.period, ⟨10, 2, 3⟩, ⟨11, 2, 4⟩⟩]
    let mark : Token := ⟨.eof, ⟨3, 1, 4⟩, ⟨3, 1, 4⟩⟩
    let quote : Token := ⟨.quote, ⟨12, 3, 1⟩, ⟨13, 3, 2⟩⟩
    let word : Token := ⟨.keyword .forw, ⟨5, 2, 2⟩, ⟨9, 2, 6⟩⟩
    let behind : Token := ⟨.eof, ⟨5, 2, 2⟩, ⟨9, 2, 6⟩⟩
    (unclosed ++ [mark, quote]).findIdx? Token.isEof = some 5 ∧
    ofTokens (unclosed ++ [mark, quote]) = .error ⟨.unterminatedLoop, ⟨3, 1, 4⟩⟩ ∧
    ofTokens (unclosed ++ [mark]) = .error ⟨.unterminatedLoop, ⟨3, 1, 4⟩⟩ ∧
    ofTokens [word, behind] = .error ⟨.expected .number .endOfInput, ⟨5, 2, 2⟩⟩ ∧
    ofTokens [word] = .error ⟨.expected .number .endOfInput, ⟨5, 2, 2⟩⟩ := by
  intro unclosed mark quote word behind
  obtain ⟨hbehind, hnone, -⟩ := ofTokens_end_immaterial
  have hfirst : (unclosed ++ [mark, quote]).findIdx? Token.isEof = some 5 := by decide
  have hcut : ofTokens (unclosed ++ [mark]) = .error ⟨.unterminatedLoop, ⟨3, 1, 4⟩⟩ := by
    rw [ofTokens_eq_run]
    rfl
  have hword : ofTokens [word] = .error ⟨.expected .number .endOfInput, ⟨5, 2, 2⟩⟩ := by
    rw [ofTokens_eq_run]
    rfl
  refine ⟨hfirst, (hbehind _ 5 hfirst).1.trans hcut, hcut, ?_, hword⟩
  exact (hnone [word] behind (by simp [word]) rfl rfl).symm.trans hword

end TurtleGraphics.Program
