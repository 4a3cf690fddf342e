import Mathlib.Data.List.Chain
import TurtleGraphics.Proofs.Layout

/-! # Tokens tile the text

The tokens of a text stand one behind the other, with nothing but gaps between them. `tokensFrom` gives the tokens with
their places and no accumulator; `placed` is the token that a word is read as behind the text before it. Along
`tokenInduction` every token is a placed one, neighbours have a gap between them or share their word, and behind the
last there is only what may trail. `scan_tiling` states this in terms of the indices that tokens carry. -/

namespace TurtleGraphics

@[simp] theorem Position.index_start_after (text : List Char) : (Position.start.after text).index = text.length := by
  rw [index_after]
  exact Nat.zero_add _

theorem Position.line_after (p : Position) (text : List Char) : (p.after text).line = p.line + text.count '\n' := by
  induction text generalizing p with
  | nil => rfl
  | cons c text ih =>
    rw [after_cons, ih, List.count_cons, advance]
    split
    · next hc => simp [hc, Nat.add_comm, Nat.add_left_comm]
    · next hc => simp [hc]

namespace Token

/-! ### Where tokens stand -/

/-- The tokens of successive steps, the first of which starts at a position. -/
def place (position : Position) : List Lexeme → List Token
  | [] => []
  | l :: rest => l.kinds.map (⟨·, position, position.after l.text⟩) ++ place (position.after l.text) rest

/-- The tokens of a text that starts at a position. -/
def tokensFrom (position : Position) (text : List Char) : List Token := place position (lexemes text)

@[simp] theorem tokensFrom_nil (position : Position) : tokensFrom position [] = [] := by
  simp [tokensFrom, lexemes, place]

theorem tokensFrom_cons (position : Position) (c : Char) (rest : List Char) :
    tokensFrom position (c :: rest) =
      (lexeme c rest).kinds.map (⟨·, position, position.after (lexeme c rest).text⟩) ++
        tokensFrom (position.after (lexeme c rest).text) (lexeme c rest).rest := by
  rw [tokensFrom, lexemes, place]
  rfl

theorem scanFrom_eq (position : Position) (before : List Token) (text : List Char) :
    scanFrom position before text = (before.reverse ++ tokensFrom position text, position.after text) := by
  fun_induction scanFrom position before text with
  | case1 position before => simp
  | case2 position before c rest piece stop tokens ih =>
    have hstop : stop.after piece.rest = position.after (c :: rest) := by
      rw [← Position.after_append, text_append_rest_lexeme]
    rw [ih, hstop, tokensFrom_cons, List.reverse_append, List.reverse_reverse, List.append_assoc]

/-- Where the end of a text is told: at the last of its tokens or, if there is none, behind the text. -/
def finish (text : List Char) : Position :=
  ((tokensFrom .start text).getLast?.map Token.start).getD (Position.start.after text)

theorem scan_eq (text : String) : scan text = tokensFrom .start (Text.upperCase text) ++
    [⟨.eof, finish (Text.upperCase text), finish (Text.upperCase text)⟩] := by
  rw [scan, scanFrom_eq]
  rfl

theorem kind_tokensFrom (position : Position) (text : List Char) :
    (tokensFrom position text).map Token.kind = kinds text := by
  have h := kind_scanFrom position [] text
  rw [scanFrom_eq] at h
  simpa using h

theorem Stretch.tokensFrom_append {c : Char} {run rest : List Char} {ks : List Kind} (h : Stretch c run rest ks)
    (position : Position) : tokensFrom position (c :: (run ++ rest)) =
      ks.map (⟨·, position, position.after (c :: run)⟩) ++ tokensFrom (position.after (c :: run)) rest := by
  rw [tokensFrom_cons, h.lexeme_eq]

theorem Gap.tokensFrom_append {gap : List Char} (h : Gap gap) (position : Position) (rest : List Char) :
    tokensFrom position (gap ++ rest) = tokensFrom (position.after gap) rest := by
  induction h generalizing position with
  | nil => rfl
  | @blank c gap hc h ih =>
    rw [List.cons_append, ← List.nil_append (gap ++ rest), (Stretch.blank (isBlank_iff.mpr hc)).tokensFrom_append, ih]
    rfl
  | @comment body gap hb h ih =>
    have hstop : Stops (· != '\n') ('\n' :: gap ++ rest) := stops_newline _
    rw [List.cons_append, List.append_assoc, (Stretch.comment hb hstop).tokensFrom_append, ih, ← Position.after_append]
    rfl

theorem tokensFrom_eq_nil_iff {position : Position} {text : List Char} :
    tokensFrom position text = [] ↔ kinds text = [] := by
  rw [← kind_tokensFrom position, List.map_eq_nil_iff]

theorem Trailing.tokensFrom_eq {text : List Char} (h : Trailing text) (position : Position) :
    tokensFrom position text = [] :=
  tokensFrom_eq_nil_iff.mpr h.kinds_eq

/-- The token that `word` is read as behind the text `before`. -/
def placed (before word : List Char) (kind : Kind) : Token :=
  ⟨kind, Position.start.after before, Position.start.after (before ++ word)⟩

theorem tokensFrom_gap_stretch {gap run rest : List Char} {c : Char} {ks : List Kind} (hg : Gap gap)
    (h : Stretch c run rest ks) (before : List Char) :
    tokensFrom (Position.start.after before) (gap ++ c :: (run ++ rest)) =
      ks.map (placed (before ++ gap) (c :: run)) ++
        tokensFrom (Position.start.after (before ++ (gap ++ c :: run))) rest := by
  rw [hg.tokensFrom_append, h.tokensFrom_append, ← Position.after_append, ← Position.after_append,
    ← List.append_assoc before]
  rfl

/-! ### Every token has its word -/

/-- An element of two lists is in the second one or in the first one. -/
theorem append_eq_append_cons_cases {α : Type} {as bs front back : List α} {x : α} (h : as ++ bs = front ++ x :: back) :
    (∃ front', front' <:+ front ∧ bs = front' ++ x :: back) ∨
    ∃ inner, as = front ++ x :: inner ∧ back = inner ++ bs := by
  rcases List.append_eq_append_iff.mp h with ⟨front', rfl, hsplit⟩ | ⟨inner, rfl, hback⟩
  · exact Or.inl ⟨front', List.suffix_append _ _, hsplit⟩
  rcases List.cons_eq_append_iff.mp hback with ⟨rfl, rfl⟩ | ⟨inner, rfl, rfl⟩
  · exact Or.inl ⟨[], List.nil_suffix, rfl⟩
  · exact Or.inr ⟨inner, rfl, rfl⟩

/-- A token is one of those that a stretch of the text gives, and they stand side by side. -/
theorem exists_stretch_of_split {text : List Char} : ∀ (before : List Char) {front back : List Token} {t : Token},
    tokensFrom (Position.start.after before) text = front ++ t :: back →
      ∃ head c run rest as kind bs, before ++ text = head ++ c :: (run ++ rest) ∧
        Stretch c run rest (as ++ kind :: bs) ∧
        t = placed head (c :: run) kind ∧ as.map (placed head (c :: run)) <:+ front ∧
        bs.map (placed head (c :: run)) <+: back := by
  induction text using tokenInduction with
  | trailing h =>
    intro before front back t ht
    rw [h.tokensFrom_eq] at ht
    simp at ht
  | @token gap c run rest ks hg h hne ih =>
    intro before front back t ht
    rw [tokensFrom_gap_stretch hg h] at ht
    rcases append_eq_append_cons_cases ht with ⟨front', hfront, hsplit⟩ | ⟨inner, hks, hback⟩
    · obtain ⟨head, c', run', rest', as, kind, bs, heq, h', ht, ha, hb⟩ := ih _ hsplit
      exact ⟨head, c', run', rest', as, kind, bs, by simpa using heq, h', ht, ha.trans hfront, hb⟩
    · obtain ⟨as, others, rfl, rfl, hothers⟩ := List.map_eq_append_iff.mp hks
      obtain ⟨kind, bs, rfl, rfl, rfl⟩ := List.map_eq_cons_iff.mp hothers
      exact ⟨before ++ gap, c, run, rest, as, kind, bs, by simp, h, rfl, List.suffix_rfl, ⟨_, hback.symm⟩⟩

theorem exists_stretch_of_mem {text : List Char} (before : List Char) {t : Token}
    (ht : t ∈ tokensFrom (Position.start.after before) text) :
    ∃ front c run rest ks, before ++ text = front ++ c :: (run ++ rest) ∧ Stretch c run rest ks ∧
      (∃ kind ∈ ks, t = placed front (c :: run) kind) ∧
      ks.map (placed front (c :: run)) <:+: tokensFrom (Position.start.after before) text := by
  obtain ⟨front, back, hsplit⟩ := List.append_of_mem ht
  obtain ⟨head, c, run, rest, as, kind, bs, heq, h, rfl, ⟨front', rfl⟩, ⟨back', rfl⟩⟩ :=
    exists_stretch_of_split before hsplit
  refine ⟨head, c, run, rest, _, heq, h, ⟨kind, by simp, rfl⟩, front', back', ?_⟩
  rw [hsplit]
  simp

/-- Only the mark behind the tokens is an end marker. -/
theorem exists_tokensFrom_eq {text : String} {front back : List Token} {t : Token} (h : scan text = front ++ t :: back)
    (hend : t.kind ≠ .eof) : ∃ inner, tokensFrom .start (Text.upperCase text) = front ++ t :: inner := by
  rw [scan_eq] at h
  rcases append_eq_append_cons_cases h with ⟨front', -, hmark⟩ | ⟨inner, hsplit, -⟩
  · have hmem : t ∈ front' ++ t :: back := List.mem_append_right _ List.mem_cons_self
    rw [← hmark, List.mem_singleton] at hmem
    exact absurd (congrArg Token.kind hmem) hend
  · exact ⟨inner, hsplit⟩

theorem mem_tokensFrom_of_mem_scan {text : String} {t : Token} (h : t ∈ scan text) (hend : t.kind ≠ .eof) :
    t ∈ tokensFrom .start (Text.upperCase text) := by
  obtain ⟨front, back, hsplit⟩ := List.append_of_mem h
  obtain ⟨inner, hinner⟩ := exists_tokensFrom_eq hsplit hend
  exact hinner ▸ List.mem_append_right _ List.mem_cons_self

theorem exists_placed_of_mem {text : List Char} (before : List Char) {t : Token}
    (ht : t ∈ tokensFrom (Position.start.after before) text) :
    ∃ front word back, before ++ text = front ++ (word ++ back) ∧ word ≠ [] ∧ '\n' ∉ word ∧
      t = placed front word t.kind := by
  obtain ⟨front, c, run, rest, ks, heq, h, ⟨kind, hkind, rfl⟩, -⟩ := exists_stretch_of_mem before ht
  exact ⟨front, c :: run, rest, heq, List.cons_ne_nil _ _, h.newline_notMem (List.ne_nil_of_mem hkind), rfl⟩

/-- Before the first token there is a gap. -/
theorem exists_gap_of_head? {text : List Char} (before : List Char) {t : Token}
    (h : (tokensFrom (Position.start.after before) text).head? = some t) :
    ∃ gap word rest, text = gap ++ (word ++ rest) ∧ Gap gap ∧ word ≠ [] ∧ t = placed (before ++ gap) word t.kind := by
  rcases trailing_or_stretch text with htrail | ⟨gap, c, run, rest, ks, rfl, hg, hs, hne⟩
  · rw [htrail.tokensFrom_eq] at h
    cases h
  · obtain ⟨kind, ks, rfl⟩ := List.exists_cons_of_ne_nil hne
    rw [tokensFrom_gap_stretch hg hs] at h
    cases h
    exact ⟨gap, c :: run, rest, rfl, hg, List.cons_ne_nil _ _, rfl⟩

/-! ### Neighbours -/

/-- Two tokens of `source`, one behind the other: there is a gap between their words. -/
def Separate (source : List Char) (s t : Token) : Prop :=
  ∃ front word gap word' back, source = front ++ (word ++ (gap ++ (word' ++ back))) ∧ Gap gap ∧
    s = placed front word s.kind ∧ t = placed (front ++ (word ++ gap)) word' t.kind

/-- Two tokens of the same word: the word is a malformed color. -/
def Shared (s t : Token) : Prop :=
  ∃ literal, s.kind = .error (.malformedColor literal) ∧ t.kind = .hex literal ∧ s.start = t.start ∧ s.stop = t.stop

theorem isChain_map_placed {c : Char} {run rest : List Char} {ks : List Kind} (h : Stretch c run rest ks)
    (front word : List Char) (R : Token → Token → Prop) (hR : ∀ s t, Shared s t → R s t) :
    (ks.map (placed front word)).IsChain R := by
  rcases h.kinds_cases with rfl | ⟨kind, rfl, -⟩ | ⟨literal, rfl⟩
  · exact .nil
  · exact .singleton _
  · exact .cons_cons (hR _ _ ⟨literal, rfl, rfl, rfl, rfl⟩) (.singleton _)

theorem isChain_tokensFrom (text : List Char) : ∀ before : List Char,
    (tokensFrom (Position.start.after before) text).IsChain
      fun s t => Separate (before ++ text) s t ∨ Shared s t := by
  induction text using tokenInduction with
  | trailing h =>
    intro before
    rw [h.tokensFrom_eq]
    exact .nil
  | @token gap c run rest ks hg h hne ih =>
    intro before
    have hwhole : before ++ (gap ++ c :: (run ++ rest)) = before ++ (gap ++ c :: run) ++ rest := by simp
    rw [tokensFrom_gap_stretch hg h, List.isChain_append]
    refine ⟨isChain_map_placed h _ _ _ fun _ _ => Or.inr, hwhole ▸ ih _, ?_⟩
    -- The last token of this word and the first one of the rest have the gap before the rest between them.
    intro s hs t ht
    obtain ⟨kind, -, rfl⟩ := List.mem_map.mp (List.mem_of_mem_getLast? hs)
    obtain ⟨gap', word', back, rfl, hg', -, ht⟩ := exists_gap_of_head? _ ht
    refine Or.inl ⟨before ++ gap, c :: run, gap', word', back, by simp, hg', rfl, ?_⟩
    rw [ht]
    simp [placed]

/-- Behind the last token there is only what may trail. -/
theorem exists_trailing (text : List Char) : ∀ before : List Char,
    ∃ front back, before ++ text = front ++ back ∧ Trailing back ∧
      ((tokensFrom (Position.start.after before) text).getLast?.map Token.stop).getD (Position.start.after before) =
        Position.start.after front := by
  induction text using tokenInduction with
  | @trailing text h =>
    intro before
    rw [h.tokensFrom_eq]
    exact ⟨before, text, rfl, h, rfl⟩
  | @token gap c run rest ks hg h hne ih =>
    intro before
    obtain ⟨front, back, heq, hback, hstop⟩ := ih (before ++ (gap ++ c :: run))
    refine ⟨front, back, by simpa using heq, hback, ?_⟩
    rw [tokensFrom_gap_stretch hg h, List.getLast?_append, ← hstop]
    cases hlast : (tokensFrom (Position.start.after (before ++ (gap ++ c :: run))) rest).getLast? with
    | some t => rfl
    | none =>
      -- All tokens of the word stop where the rest starts.
      rw [List.getLast?_map, List.getLast?_eq_some_getLast hne]
      simp [placed]

/-! ### In terms of indices -/

/-- The text from one index up to another. -/
def between (text : List Char) (i j : Nat) : List Char := (text.take j).drop i

theorem between_append (front word back : List Char) :
    between (front ++ (word ++ back)) front.length (front ++ word).length = word := by
  rw [between, ← List.append_assoc, List.take_left, List.drop_left]

theorem between_placed {source before word rest : List Char} (h : source = before ++ (word ++ rest)) (kind : Kind) :
    between source (placed before word kind).start.index (placed before word kind).stop.index = word := by
  rw [h, placed, Position.index_start_after, Position.index_start_after, between_append]

/-- Tokens of `source`, and a mark behind them, that leave out nothing but gaps and read nothing twice. -/
structure Tiling (source : List Char) (tokens : List Token) (mark : Token) : Prop where
  -- only the mark is an end marker
  mark_kind : mark.kind = .eof
  kind_ne : ∀ t ∈ tokens, t.kind ≠ .eof
  -- every token has text of its own
  span : ∀ t ∈ tokens, t.start.index < t.stop.index ∧ t.stop.index ≤ source.length
  -- positions are those that one comes to by going through the text
  position : ∀ t ∈ tokens ++ [mark], t.start = Position.start.after (source.take t.start.index) ∧
    t.stop = Position.start.after (source.take t.stop.index)
  -- the next token starts behind this one, unless both are of a malformed color
  order : tokens.IsChain fun s t => s.stop.index ≤ t.start.index ∨ Shared s t
  -- before, between and behind the tokens there are gaps
  first_gap : ∀ t, tokens.head? = some t → Gap (source.take t.start.index)
  gap : tokens.IsChain fun s t => Gap (between source s.stop.index t.start.index)
  last_gap : Trailing (source.drop ((tokens.getLast?.map (·.stop.index)).getD 0))
  -- the mark stands at the start of the last token or, without tokens, behind the text
  mark_start : mark.start = (tokens.getLast?.map Token.start).getD (Position.start.after source)
  mark_stop : mark.stop = mark.start

section
variable {source : List Char} {s t : Token}

theorem kind_ne_eof_of_mem (h : t ∈ tokensFrom .start source) : t.kind ≠ .eof := by
  intro heof
  have hmem := List.mem_map_of_mem (f := Token.kind) h
  rw [kind_tokensFrom, heof] at hmem
  exact eof_notMem_kinds source hmem

theorem span_of_mem (h : t ∈ tokensFrom .start source) :
    t.start.index < t.stop.index ∧ t.stop.index ≤ source.length := by
  obtain ⟨front, word, back, rfl, hword, -, ht⟩ := exists_placed_of_mem [] h
  have hpos := List.length_pos_iff.mpr hword
  rw [ht]
  simp only [placed, Position.index_start_after, List.length_append]
  omega

theorem position_of_mem (h : t ∈ tokensFrom .start source) :
    t.start = Position.start.after (source.take t.start.index) ∧
      t.stop = Position.start.after (source.take t.stop.index) := by
  obtain ⟨front, word, back, rfl, -, -, ht⟩ := exists_placed_of_mem [] h
  rw [ht]
  constructor
  · simp [placed]
  · simp [placed, ← List.append_assoc]

theorem finish_eq (source : List Char) : finish source = Position.start.after (source.take (finish source).index) := by
  unfold finish
  cases hlast : (tokensFrom .start source).getLast? with
  | none => simp
  | some t => exact (position_of_mem (List.mem_of_mem_getLast? hlast)).1

theorem Separate.le (h : Separate source s t) : s.stop.index ≤ t.start.index := by
  obtain ⟨front, word, gap, word', back, rfl, -, hs, ht⟩ := h
  rw [hs, ht]
  simp [placed]

theorem Separate.gap (h : Separate source s t) : Gap (between source s.stop.index t.start.index) := by
  obtain ⟨front, word, gap, word', back, rfl, hg, hs, ht⟩ := h
  have hbetween := between_append (front ++ word) gap (word' ++ back)
  rw [List.append_assoc, List.append_assoc] at hbetween
  rw [hs, ht, placed, placed, Position.index_start_after, Position.index_start_after, hbetween]
  exact hg

-- Between two tokens of one word there is nothing: the second one starts before the first one stops.
theorem Shared.gap (h : Shared s t) (hspan : t.start.index < t.stop.index) :
    Gap (between source s.stop.index t.start.index) := by
  obtain ⟨literal, -, -, -, hstop⟩ := h
  have hnil : between source s.stop.index t.start.index = [] := by
    rw [between, hstop, List.drop_eq_nil_iff, List.length_take]
    omega
  rw [hnil]
  exact .nil

theorem isChain_gap (source : List Char) :
    (tokensFrom .start source).IsChain fun s t => Gap (between source s.stop.index t.start.index) := by
  refine List.IsChain.imp_of_mem_imp (fun s t _ ht hst => ?_) (isChain_tokensFrom source [])
  rcases hst with hst | hst
  · exact hst.gap
  · exact hst.gap (span_of_mem ht).1

theorem gap_of_head? (h : (tokensFrom .start source).head? = some t) : Gap (source.take t.start.index) := by
  obtain ⟨gap, word, rest, rfl, hg, -, ht⟩ := exists_gap_of_head? [] h
  rw [ht]
  simpa [placed] using hg

theorem trailing_drop (source : List Char) :
    Trailing (source.drop (((tokensFrom .start source).getLast?.map (·.stop.index)).getD 0)) := by
  obtain ⟨front, back, heq, hback, hstop⟩ := exists_trailing source []
  have hindex : (((tokensFrom .start source).getLast?.map (·.stop.index)).getD 0) = front.length := by
    rw [← Position.index_start_after front, ← hstop, Position.after_nil]
    cases (tokensFrom .start source).getLast? <;> rfl
  rw [List.nil_append] at heq
  rw [hindex, heq, List.drop_left]
  exact hback

end

/-- The tokens of a text tile its upper case. -/
theorem scan_tiling (text : String) :
    ∃ tokens mark, scan text = tokens ++ [mark] ∧ Tiling (Text.upperCase text) tokens mark := by
  refine ⟨_, _, scan_eq text, ?_⟩
  refine {
    mark_kind := rfl
    kind_ne := fun t ht => kind_ne_eof_of_mem ht
    span := fun t ht => span_of_mem ht
    position := fun t ht => ?_
    order := (isChain_tokensFrom _ []).imp fun _ _ => Or.imp_left Separate.le
    first_gap := fun t ht => gap_of_head? ht
    gap := isChain_gap _
    last_gap := trailing_drop _
    mark_start := rfl
    mark_stop := rfl }
  rcases List.mem_append.mp ht with ht | ht
  · exact position_of_mem ht
  · rw [List.mem_singleton.mp ht]
    exact ⟨finish_eq _, finish_eq _⟩

end Token

end TurtleGraphics
