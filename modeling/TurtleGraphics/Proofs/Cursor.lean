import TurtleGraphics.Proofs.Tiling

/-! # Scanning with a cursor

`scanFrom` takes stretches off the front of a text. Here the text stays as it is, and a cursor passes over it one
character at a time. A round looks at the character at the cursor and then passes over the characters of a class, that
character first: the round moves on only because the class holds of the character that it was chosen for (`round_eq`).
The rounds are bounded, and there is no answer where the bound is too small. As many as there are characters are always
enough, and the tokens are those of `scan` (`rounds_start`). -/

namespace TurtleGraphics.Token

/-! ### The cursor -/

section
variable (source : List Char)

/-- Passes over the character at the cursor. At the end of the text the cursor stays. -/
def pass (cursor : Position) : Position :=
  match source[cursor.index]? with
  | some c => cursor.advance c
  | none => cursor

/-- Passes over the characters of a class, from the one at the cursor on. -/
def passWhile (p : Char → Bool) (cursor : Position) : Position :=
  if hlt : cursor.index < source.length then
    if p source[cursor.index] then passWhile p (cursor.advance source[cursor.index]) else cursor
  else cursor
termination_by source.length - cursor.index
decreasing_by
  rw [Position.index_advance]
  omega

end

/-- A scanner at work: its cursor, and the tokens that it has found, the last of them first. -/
structure Scanner where
  cursor : Position
  found : List Token
deriving Repr, DecidableEq

namespace Scanner

/-- Goes to a position and finds tokens of the text up to there. -/
def goTo (s : Scanner) (stop : Position) (kinds : List Kind) : Scanner :=
  ⟨stop, (kinds.map (⟨·, s.cursor, stop⟩)).reverse ++ s.found⟩

/-- One round. At the end of the text there is none. -/
def round (source : List Char) (s : Scanner) : Option Scanner :=
  match source[s.cursor.index]? with
  | none => none
  | some c => some <|
    let next := pass source s.cursor
    if isBlank c then s.goTo next []
    else if c = '%' then s.goTo (passWhile source (· != '\n') s.cursor) []
    else if c = '.' then s.goTo next [.period]
    else if c = '"' then s.goTo next [.quote]
    else if c = '#' then
      let stop := passWhile source Color.isHexDigit next
      s.goTo stop (colorKinds (between source next.index stop.index))
    else if c.isDigit then
      let stop := passWhile source Char.isDigit s.cursor
      s.goTo stop [numberKind (between source s.cursor.index stop.index) (source.drop stop.index)]
    else if Text.isAlphabetic c then
      let stop := passWhile source Text.isAlphabetic s.cursor
      s.goTo stop [wordKind (between source s.cursor.index stop.index) (source.drop stop.index)]
    else s.goTo next [.error (.unexpectedCharacter c)]

/-- Rounds up to the end of the text. There is no answer if more than `bound` are needed. -/
def rounds (source : List Char) (bound : Nat) (s : Scanner) : Option Scanner :=
  match round source s with
  | none => some s
  | some next => match bound with
    | 0 => none
    | bound + 1 => rounds source bound next

/-- The tokens found, and the end marker behind them: where the last of them starts or, without any, at the cursor. -/
def tokens (s : Scanner) : List Token :=
  let position := (s.found.head?.map Token.start).getD s.cursor
  s.found.reverse ++ [⟨.eof, position, position⟩]

end Scanner

/-! ### What is ahead -/

section
variable {source : List Char} {cursor : Position}

theorem getElem?_of_drop {c : Char} {rest : List Char} (h : source.drop cursor.index = c :: rest) :
    source[cursor.index]? = some c := by
  rw [← List.head?_drop, h]
  rfl

theorem drop_index_after {text rest : List Char} (h : source.drop cursor.index = text ++ rest) :
    source.drop (cursor.after text).index = rest := by
  rw [Position.index_after, ← List.drop_drop, h, List.drop_left]

theorem drop_index_lexeme {c : Char} {rest : List Char} (h : source.drop cursor.index = c :: rest) :
    source.drop (cursor.after (lexeme c rest).text).index = (lexeme c rest).rest :=
  drop_index_after (h.trans (text_append_rest_lexeme c rest).symm)

theorem between_after {text rest : List Char} (h : source.drop cursor.index = text ++ rest) :
    between source cursor.index (cursor.after text).index = text := by
  rw [between, List.drop_take, h, Position.index_after, Nat.add_sub_cancel_left, List.take_left]

theorem pass_eq {c : Char} {rest : List Char} (h : source.drop cursor.index = c :: rest) :
    pass source cursor = cursor.after [c] := by
  rw [pass, getElem?_of_drop h]
  rfl

theorem passWhile_eq (p : Char → Bool) (cursor : Position) :
    passWhile source p cursor = cursor.after ((source.drop cursor.index).takeWhile p) := by
  fun_induction passWhile source p cursor with
  | case1 cursor hlt hp ih =>
    rw [ih, Position.index_advance, List.drop_eq_getElem_cons hlt, List.takeWhile_cons_of_pos hp, Position.after_cons]
  | case2 cursor hlt hp => rw [List.drop_eq_getElem_cons hlt, List.takeWhile_cons_of_neg hp, Position.after_nil]
  | case3 cursor hend => rw [List.drop_eq_nil_of_le (Nat.le_of_not_lt hend), List.takeWhile_nil, Position.after_nil]

end

/-! ### One round -/

/-- A stretch is at most one token, or two if it starts as a color. -/
theorem Stretch.length_kinds_le {c : Char} {run rest : List Char} {ks : List Kind} (h : Stretch c run rest ks) :
    ks.length ≤ if c = '#' then 2 else 1 := by
  have hone : 1 ≤ if c = '#' then 2 else 1 := by split <;> decide
  cases h with
  | blank | comment => exact Nat.zero_le _
  | period | quote | number | word | stray => exact hone
  | color =>
    rw [if_pos rfl, colorKinds]
    split
    · exact Nat.le_succ 1
    · exact Nat.le_refl 2

theorem length_kinds_lexeme_le (c : Char) (rest : List Char) :
    (lexeme c rest).kinds.length ≤ if c = '#' then 2 else 1 := by
  obtain ⟨run, rest, ks, rfl, h⟩ := exists_stretch c rest
  rw [h.lexeme_eq]
  exact h.length_kinds_le

namespace Scanner

variable {source : List Char} {s : Scanner}

theorem round_eq_none (h : source.drop s.cursor.index = []) : round source s = none := by
  rw [round, List.getElem?_eq_none (List.drop_eq_nil_iff.mp h)]

theorem round_eq {c : Char} {rest : List Char} (h : source.drop s.cursor.index = c :: rest) :
    round source s = some (s.goTo (s.cursor.after (lexeme c rest).text) (lexeme c rest).kinds) := by
  have hnext : pass source s.cursor = s.cursor.after [c] := pass_eq h
  have hahead : source.drop (s.cursor.after [c]).index = rest := drop_index_after h
  have hsplit (p : Char → Bool) : source.drop s.cursor.index = c :: rest.takeWhile p ++ rest.dropWhile p := by
    rw [List.cons_append, List.takeWhile_append_dropWhile, h]
  -- A run takes the character at the cursor only if that is of the class.
  have hrun {p : Char → Bool} (hp : p c = true) :
      passWhile source p s.cursor = s.cursor.after (c :: rest.takeWhile p) := by
    rw [passWhile_eq, h, List.takeWhile_cons_of_pos hp]
  rw [round, getElem?_of_drop h]
  unfold lexeme
  dsimp only
  congr 1
  rw [hnext]
  split_ifs with hblank hcomment hperiod hquote hcolor hdigit hword
  · rfl
  · rw [hrun (by rw [hcomment]; decide)]
  · rfl
  · rfl
  · rw [passWhile_eq, hahead, between_after (hahead.trans List.takeWhile_append_dropWhile.symm)]
    rfl
  · rw [hrun hdigit, between_after (hsplit _), drop_index_after (hsplit _)]
  · rw [hrun hword, between_after (hsplit _), drop_index_after (hsplit _)]
  · rfl

/-- From wherever it is made, a round moves the cursor on, but not beyond the end, and does as `scanFrom` does. -/
theorem round_progresses (h : s.cursor.index < source.length) : ∃ next new, round source s = some next ∧
    scanFrom s.cursor s.found (source.drop s.cursor.index) =
      scanFrom next.cursor next.found (source.drop next.cursor.index) ∧
    s.cursor.index < next.cursor.index ∧ next.cursor.index ≤ source.length ∧
    next.found = new ++ s.found ∧ new.length ≤ if source[s.cursor.index] = '#' then 2 else 1 := by
  let piece := lexeme source[s.cursor.index] (source.drop (s.cursor.index + 1))
  have hahead := List.drop_eq_getElem_cons h
  have htaken : 0 < piece.text.length := List.length_pos_iff.mpr (text_lexeme_ne_nil _ _)
  have hwhole : piece.text.length + piece.rest.length = source.length - s.cursor.index := by
    rw [← List.length_append, text_append_rest_lexeme, ← hahead, List.length_drop]
  have hindex : (s.cursor.after piece.text).index = s.cursor.index + piece.text.length := Position.index_after _ _
  refine ⟨s.goTo (s.cursor.after piece.text) piece.kinds, _, round_eq hahead, ?_, ?_, ?_, rfl, ?_⟩
  · rw [hahead, scanFrom]
    exact congrArg (scanFrom _ _) (drop_index_lexeme hahead).symm
  · change _ < (s.cursor.after piece.text).index
    omega
  · change (s.cursor.after piece.text).index ≤ _
    omega
  · rw [List.length_reverse, List.length_map]
    exact length_kinds_lexeme_le _ _

theorem rounds_at_end (h : source.drop s.cursor.index = []) (bound : Nat) : rounds source bound s = some s := by
  cases bound <;> rw [rounds, round_eq_none h]

/-- With as many rounds as there are characters ahead, a scanner comes to the end. -/
theorem rounds_eq (position : Position) (before : List Token) (ahead : List Char) :
    source.drop position.index = ahead → ∀ bound, ahead.length ≤ bound →
      (rounds source bound ⟨position, before⟩).map (fun last => (last.found.reverse, last.cursor)) =
        some (scanFrom position before ahead) := by
  fun_induction scanFrom position before ahead with
  | case1 position before =>
    intro h bound hbound
    rw [rounds_at_end h]
    rfl
  | case2 position before c rest piece stop tokens ih =>
    intro h bound hbound
    have hshorter : piece.rest.length ≤ rest.length := length_rest_lexeme_le c rest
    rw [List.length_cons] at hbound
    obtain ⟨bound, rfl⟩ := Nat.exists_eq_add_one_of_ne_zero (Nat.ne_zero_of_lt hbound)
    rw [rounds, round_eq h]
    exact ih (drop_index_lexeme h) bound (by omega)

theorem rounds_start (text : String) :
    (rounds (Text.upperCase text) (Text.upperCase text).length ⟨.start, []⟩).map tokens = some (scan text) := by
  have hrounds := rounds_eq .start [] (Text.upperCase text) List.drop_zero _ (Nat.le_refl _)
  obtain ⟨last, hlast, hscan⟩ := Option.map_eq_some_iff.mp hrounds
  rw [hlast, scan, ← hscan]
  simp [tokens]

end Scanner

/-! ### The number of tokens -/

/-- A token counts for the first character of its text, and the second one of a malformed color for
    the `#` once more. -/
theorem length_kinds_le (text : List Char) : (kinds text).length ≤ text.length + text.count '#' := by
  induction text using stretchInduction with
  | nil => simp
  | @stretch c run rest ks h ih =>
    have hfew := h.length_kinds_le
    rw [h.kinds_append, List.length_append, List.length_cons, List.length_append, List.count_cons, List.count_append]
    by_cases hc : c = '#'
    · simp only [hc, if_pos, beq_self_eq_true] at hfew ⊢
      omega
    · simp only [hc, if_false, beq_iff_eq] at hfew ⊢
      omega

theorem length_scan_le (text : String) :
    (scan text).length ≤ (Text.upperCase text).length + (Text.upperCase text).count '#' + 1 := by
  rw [← List.length_map, kind_scan, List.length_append]
  exact Nat.succ_le_succ (length_kinds_le _)

/-- From any cursor before the end of the text, a round moves the cursor on and not beyond the end, and finds at most
    one token, or two at a `#`; `scanFrom` does the same. So there are no more rounds than characters, and no more
    tokens than characters and `#`s together, the end marker apart. -/
theorem scanning_progresses (text : String) :
    let source := Text.upperCase text
    (∀ (s : Scanner) (h : s.cursor.index < source.length), ∃ next new, s.round source = some next ∧
      scanFrom s.cursor s.found (source.drop s.cursor.index) =
        scanFrom next.cursor next.found (source.drop next.cursor.index) ∧
      s.cursor.index < next.cursor.index ∧ next.cursor.index ≤ source.length ∧
      next.found = new ++ s.found ∧ new.length ≤ if source[s.cursor.index] = '#' then 2 else 1) ∧
    (Scanner.rounds source source.length ⟨.start, []⟩).map Scanner.tokens = some (scan text) ∧
    (scan text).length ≤ source.length + source.count '#' + 1 :=
  ⟨fun _ h => Scanner.round_progresses h, Scanner.rounds_start text, length_scan_le text⟩

/-- The cursor stands at a malformed color. -/
theorem scanning_progresses_color :
    let source := Text.upperCase "ß #1a%é"
    let s : Scanner := ⟨⟨3, 1, 4⟩, []⟩
    let next : Scanner := ⟨⟨6, 1, 7⟩,
      [⟨.hex "#1A", ⟨3, 1, 4⟩, ⟨6, 1, 7⟩⟩, ⟨.error (.malformedColor "#1A"), ⟨3, 1, 4⟩, ⟨6, 1, 7⟩⟩]⟩
    s.round source = some next ∧ 3 < next.cursor.index ∧ next.cursor.index ≤ source.length ∧
    (∃ new, next.found = new ++ [] ∧ new.length ≤ 2) ∧ (scan "ß #1a%é").length ≤ 8 + 1 + 1 := by
  intro source s next
  have hround : s.round source = some next := by decide +kernel
  have hlen : source.length = 8 := by decide +kernel
  have hmarks : source.count '#' = 1 := by decide +kernel
  obtain ⟨hprogress, -, hcount⟩ := scanning_progresses "ß #1a%é"
  obtain ⟨next', new, hnext', -, hmoves, hends, hfound, hfew⟩ := hprogress s (by rw [hlen]; decide)
  obtain rfl := Option.some_inj.mp (hround.symm.trans hnext')
  rw [hlen, hmarks] at hcount
  exact ⟨hround, hmoves, hends, ⟨new, hfound, Nat.le_trans hfew (by split <;> decide)⟩, hcount⟩

end TurtleGraphics.Token
