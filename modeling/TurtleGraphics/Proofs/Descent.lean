import TurtleGraphics.Proofs.EarliestError

/-! # Reading by descent

`statement` holds the loops that are open in a list. Here statements are read by descent instead: a loop reads the
statements of its body itself, in rounds up to the closing quote, and the program is read in rounds up to the end. The
depth of the descent and the rounds of every loop are bounded, and there is no answer where a bound is too small. As
many as there are tokens are always enough, and the answer is that of `statement` (`descend_eq`), since whatever is read
takes tokens away (`StepsOver`). No end marker is among those, so no cursor gets beyond the first one. -/

namespace TurtleGraphics.Program

/-! ### The descent -/

/-- Reads statements up to where `stop` ends them, behind those in `done`, the last of them first. One round reads one
    statement. There is no answer if the rounds do not suffice or a statement has none. -/
def readUntil (stop : List Token → Option (Except SyntaxError (List Token)))
    (read : List Token → Option (Except SyntaxError (Statement × List Token))) (rounds : Nat) (done : List Statement)
    (tokens : List Token) : Option (Except SyntaxError (List Statement × List Token)) :=
  match stop tokens with
  | some ending => some (ending.map fun rest => (done.reverse, rest))
  | none => match rounds with
    | 0 => none
    | rounds + 1 => match read tokens with
      | none => none
      | some (.error e) => some (.error e)
      | some (.ok (s, rest)) => readUntil stop read rounds (s :: done) rest

/-- A program ends with an end marker. -/
def atEnd (finish : Position) (tokens : List Token) : Option (Except SyntaxError (List Token)) :=
  if (current finish tokens).isEof then some (.ok tokens) else none

/-- A body in quotes ends with a quote. -/
def atQuote (finish : Position) (tokens : List Token) : Option (Except SyntaxError (List Token)) :=
  let t := current finish tokens
  match t.kind with
  | .quote => some (.ok tokens.tail)
  | .eof => some (.error ⟨.unterminatedLoop, t.start⟩)
  | _ => none

/-- Reads one statement, and the statements inside it by descent. There is no answer if they are nested as deep as
    `depth` or deeper. -/
def descend (finish : Position) : Nat → List Token → Option (Except SyntaxError (Statement × List Token))
  | 0, _ => none
  | depth + 1, tokens => match opening finish tokens with
    | .error e => some (.error e)
    | .ok (.simple s, rest) => some (.ok (s, rest))
    | .ok (.loop (.bare count), rest) =>
      (descend finish depth rest).map (·.map fun (s, rest) => (.loop count [s], rest))
    | .ok (.loop (.quoted count body), rest) =>
      (readUntil (atQuote finish) (descend finish depth) rest.length body rest).map
        (·.map fun (body, rest) => (.loop count body, rest))

/-! ### Statements inside loops -/

section
variable {finish : Position}

/-- How reading goes on behind a statement inside of loops. -/
def onward (finish : Position) (loops : List OpenLoop) :
    Except SyntaxError (Statement × List Token) → Except SyntaxError (Statement × List Token)
  | .error e => .error e
  | .ok (s, rest) => match close finish s loops rest with
    | .error e => .error e
    | .ok (.complete s rest) => .ok (s, rest)
    | .ok (.inside loops rest) => statementWithin finish loops rest

theorem statementWithin_of_error {tokens : List Token} {e : SyntaxError} (h : opening finish tokens = .error e)
    (loops : List OpenLoop) : statementWithin finish loops tokens = .error e := by
  rw [statementWithin]
  split <;> simp_all

theorem statementWithin_of_simple {tokens rest : List Token} {s : Statement}
    (h : opening finish tokens = .ok (.simple s, rest)) (loops : List OpenLoop) :
    statementWithin finish loops tokens = onward finish loops (.ok (s, rest)) := by
  rw [statementWithin, onward]
  split
  · simp_all
  · simp_all
  · split <;> simp_all

theorem statementWithin_of_loop {tokens rest : List Token} {l : OpenLoop}
    (h : opening finish tokens = .ok (.loop l, rest)) (loops : List OpenLoop) :
    statementWithin finish loops tokens = statementWithin finish (l :: loops) rest := by
  rw [statementWithin]
  split <;> simp_all

theorem atQuote_eq_none {tokens : List Token} (hend : (current finish tokens).kind ≠ .eof)
    (hquote : (current finish tokens).kind ≠ .quote) : atQuote finish tokens = none := by
  dsimp only [atQuote]
  split
  · next h => exact absurd h hquote
  · next h => exact absurd h hend
  · rfl

/-- A loop in quotes is complete at a quote, and goes on where its body does not end. -/
theorem close_quoted (s : Statement) (count : UInt32) (body : List Statement) (outer : List OpenLoop)
    (tokens : List Token) :
    close finish s (.quoted count body :: outer) tokens = match atQuote finish tokens with
      | some (.error e) => .error e
      | some (.ok rest) => close finish (.loop count (s :: body).reverse) outer rest
      | none => .ok (.inside (.quoted count (s :: body) :: outer) tokens) := by
  dsimp only [close, atQuote]
  cases (current finish tokens).kind <;> rfl

theorem close_append (s : Statement) (loops outer : List OpenLoop) (tokens : List Token) :
    close finish s (loops ++ outer) tokens = match close finish s loops tokens with
      | .error e => .error e
      | .ok (.complete s rest) => close finish s outer rest
      | .ok (.inside loops rest) => .ok (.inside (loops ++ outer) rest) := by
  induction loops generalizing s tokens with
  | nil => rfl
  | cons l loops ih =>
    cases l with
    | bare count => exact ih _ tokens
    | quoted count body =>
      rw [List.cons_append, close_quoted, close_quoted]
      rcases atQuote finish tokens with _ | _ | rest
      · rfl
      · rfl
      · exact ih _ rest

/-- A statement inside of loops is read as by itself. -/
theorem statementWithin_append (loops outer : List OpenLoop) (tokens : List Token) :
    statementWithin finish (loops ++ outer) tokens = onward finish outer (statementWithin finish loops tokens) := by
  fun_induction statementWithin finish loops tokens with
  | case1 loops tokens e starts => rw [statementWithin_of_error starts, onward]
  | case2 loops tokens l rest starts ih => rw [statementWithin_of_loop starts, ← ih, List.cons_append]
  | case3 loops tokens s rest starts e closes =>
    rw [statementWithin_of_simple starts]
    simp only [onward, close_append, closes]
  | case4 loops tokens s rest starts s' rest' closes =>
    rw [statementWithin_of_simple starts]
    simp only [onward, close_append, closes]
  | case5 loops tokens s rest starts inner rest' closes ih =>
    rw [statementWithin_of_simple starts, ← ih]
    simp only [onward, close_append, closes]

theorem statement_of_loop {tokens rest : List Token} {l : OpenLoop}
    (h : opening finish tokens = .ok (.loop l, rest)) : statement finish tokens = statementWithin finish [l] rest :=
  statementWithin_of_loop h []

theorem statementWithin_bare (count : UInt32) (tokens : List Token) :
    statementWithin finish [.bare count] tokens =
      (statement finish tokens).map fun (s, rest) => (.loop count [s], rest) := by
  have hread : statementWithin finish [.bare count] tokens = onward finish [.bare count] (statement finish tokens) :=
    statementWithin_append [] [.bare count] tokens
  rw [hread]
  cases statement finish tokens <;> rfl

/-- What is read of a body in quotes, from `tokens` on. -/
def bodyFrom (finish : Position) (count : UInt32) (body : List Statement) (tokens : List Token) :
    Except SyntaxError (Statement × List Token) :=
  match atQuote finish tokens with
  | some ending => ending.map fun rest => (.loop count body.reverse, rest)
  | none => statementWithin finish [.quoted count body] tokens

theorem statementWithin_quoted (count : UInt32) (body : List Statement) (tokens : List Token) :
    statementWithin finish [.quoted count body] tokens = match statement finish tokens with
      | .error e => .error e
      | .ok (s, rest) => bodyFrom finish count (s :: body) rest := by
  have hread : statementWithin finish [.quoted count body] tokens =
      onward finish [.quoted count body] (statement finish tokens) :=
    statementWithin_append [] [.quoted count body] tokens
  rw [hread]
  cases statement finish tokens with
  | error e => rfl
  | ok found =>
    obtain ⟨s, rest⟩ := found
    simp only [onward, close_quoted, bodyFrom]
    rcases atQuote finish rest with _ | _ | after <;> rfl

/-! ### Enough rounds -/

section
variable {stop : List Token → Option (Except SyntaxError (List Token))}
  {read : List Token → Option (Except SyntaxError (Statement × List Token))}

theorem readUntil_of_stop {tokens : List Token} {ending : Except SyntaxError (List Token)}
    (h : stop tokens = some ending) (rounds : Nat) (done : List Statement) :
    readUntil stop read rounds done tokens = some (ending.map fun rest => (done.reverse, rest)) := by
  unfold readUntil
  rw [h]

theorem readUntil_succ {tokens : List Token} (h : stop tokens = none) (rounds : Nat) (done : List Statement) :
    readUntil stop read (rounds + 1) done tokens = match read tokens with
      | none => none
      | some (.error e) => some (.error e)
      | some (.ok (s, rest)) => readUntil stop read rounds (s :: done) rest := by
  rw [readUntil, h]

/-- Rounds that read statements answer whatever follows the same rule, if there are as many rounds as tokens. -/
theorem readUntil_eq {α : Type} {f : List Statement × List Token → α}
    (answer : List Statement → List Token → Except SyntaxError α) (hnil : stop [] ≠ none)
    (hstop : ∀ done tokens ending, stop tokens = some ending →
      answer done tokens = ending.map fun rest => f (done.reverse, rest))
    (hround : ∀ done tokens, stop tokens = none → answer done tokens = match statement finish tokens with
      | .error e => .error e
      | .ok (s, rest) => answer (s :: done) rest)
    {rounds : Nat} {tokens : List Token} (done : List Statement) (hrounds : tokens.length ≤ rounds)
    (hread : ∀ shorter : List Token, shorter.length ≤ tokens.length → read shorter = some (statement finish shorter)) :
    (readUntil stop read rounds done tokens).map (·.map f) = some (answer done tokens) := by
  induction rounds generalizing done tokens with
  | zero =>
    rw [List.length_eq_zero_iff.mp (Nat.le_zero.mp hrounds)]
    obtain ⟨ending, hending⟩ := Option.ne_none_iff_exists'.mp hnil
    rw [readUntil_of_stop hending, hstop _ _ _ hending]
    cases ending <;> rfl
  | succ rounds ih =>
    cases hends : stop tokens with
    | some ending =>
      rw [readUntil_of_stop hends, hstop _ _ _ hends]
      cases ending <;> rfl
    | none =>
      rw [readUntil_succ hends, hread tokens (Nat.le_refl _), hround _ _ hends]
      cases reads : statement finish tokens with
      | error e => rfl
      | ok found =>
        obtain ⟨s, rest⟩ := found
        have hless : rest.length < tokens.length := (stepsOver_statementWithin reads).length_lt
        exact ih (s :: done) (by omega) fun shorter hshorter => hread shorter (by omega)

/-- The rounds up to a quote read the body of a loop. -/
theorem readUntil_atQuote {rounds : Nat} {tokens : List Token} (count : UInt32) (body : List Statement)
    (hrounds : tokens.length ≤ rounds)
    (hread : ∀ shorter : List Token, shorter.length ≤ tokens.length → read shorter = some (statement finish shorter)) :
    (readUntil (atQuote finish) read rounds body tokens).map (·.map fun (body, rest) => (.loop count body, rest)) =
      some (bodyFrom finish count body tokens) := by
  refine readUntil_eq (bodyFrom finish count) (Option.some_ne_none _) ?_ ?_ body hrounds hread
  · intro done tokens ending hending
    rw [bodyFrom, hending]
  · intro done tokens hending
    rw [bodyFrom, hending, ← statementWithin_quoted]

end

theorem descend_eq {depth : Nat} {tokens : List Token} (h : tokens.length < depth) :
    descend finish depth tokens = some (statement finish tokens) := by
  induction depth generalizing tokens with
  | zero => exact absurd h (Nat.not_lt_zero _)
  | succ depth ih =>
    rw [descend]
    cases starts : opening finish tokens with
    | error e => rw [statement, statementWithin_of_error starts]
    | ok found =>
      obtain ⟨o, rest⟩ := found
      have hless := (stepsOver_opening starts).length_lt
      cases o with
      | simple s =>
        rw [statement, statementWithin_of_simple starts]
        rfl
      | loop l =>
        rw [statement_of_loop starts]
        cases l with
        | bare count => rw [statementWithin_bare, ← Option.map_some, ← ih (by omega)]
        | quoted count body =>
          -- The body has to start here, so it does not end before its first statement.
          obtain ⟨hend, hquote⟩ : Reader.Due finish [.quoted count body] rest := Reader.due_of_opening starts
          have hbody : bodyFrom finish count body rest = statementWithin finish [.quoted count body] rest := by
            rw [bodyFrom, atQuote_eq_none hend hquote]
          rw [← hbody]
          exact readUntil_atQuote count body (Nat.le_refl _) fun shorter hshorter => ih (by omega)

/-! ### Cursors -/

/-- Stepping over tokens moves a cursor on, and not beyond the first end marker. -/
theorem StepsOver.exists_cursor {tokens rest : List Token} {pos : Nat} (h : StepsOver 1 (tokens.drop pos) rest) :
    ∃ next, pos < next ∧ next ≤ tokens.length ∧ rest = tokens.drop next ∧
      (∀ t ∈ (tokens.take next).drop pos, t.kind.isProper = true) ∧
      (pos ≤ tokens.findIdx Token.isEof → next ≤ tokens.findIdx Token.isEof) := by
  obtain ⟨taken, hsplit, hleast, hproper⟩ := h
  have hlen := congrArg List.length hsplit
  rw [List.length_append, List.length_drop] at hlen
  have htaken : (tokens.take (pos + taken.length)).drop pos = taken := by
    rw [← List.take_drop, hsplit, List.take_left]
  refine ⟨pos + taken.length, by omega, by omega, ?_, by rwa [htaken], fun hpos => ?_⟩
  · rw [← List.drop_drop, hsplit, List.drop_left]
  · -- The first end marker would be one of the tokens that are stepped over.
    apply Nat.le_of_not_lt
    intro hbeyond
    have hlt : tokens.findIdx Token.isEof < tokens.length := by omega
    have hat : taken[tokens.findIdx Token.isEof - pos]? = some tokens[tokens.findIdx Token.isEof] := by
      rw [← List.getElem?_append_left (by omega), ← hsplit, List.getElem?_drop, Nat.add_sub_cancel' hpos,
        List.getElem?_eq_getElem hlt]
    have hmark : (tokens[tokens.findIdx Token.isEof]).kind = .eof := by
      simpa [Token.isEof] using List.findIdx_getElem (p := Token.isEof) (w := hlt)
    have hkind := hproper _ (List.mem_of_getElem? hat)
    rw [hmark] at hkind
    cases hkind

theorem allStatements_of_not_end {tokens : List Token} (h : atEnd finish tokens = none) (done : List Statement) :
    allStatements finish done tokens = match statement finish tokens with
      | .error e => .error e
      | .ok (s, rest) => allStatements finish (s :: done) rest := by
  have hend : ¬(current finish tokens).isEof = true := fun hend => by rw [atEnd, if_pos hend] at h; cases h
  rw [allStatements, if_neg hend]
  split <;> simp_all

/-- The rounds up to the end read a program. -/
theorem readUntil_atEnd {read : List Token → Option (Except SyntaxError (Statement × List Token))} {tokens : List Token}
    (hread : ∀ shorter : List Token, shorter.length ≤ tokens.length → read shorter = some (statement finish shorter))
    {rounds : Nat} (hrounds : tokens.length ≤ rounds) :
    (readUntil (atEnd finish) read rounds [] tokens).map (·.map fun found => ⟨found.1⟩) =
      some ((allStatements finish [] tokens).map Program.mk) := by
  refine readUntil_eq (fun done tokens => (allStatements finish done tokens).map Program.mk) (Option.some_ne_none _)
    ?_ ?_ [] hrounds hread
  · intro done tokens ending hending
    obtain ⟨hend, hok⟩ := Option.ite_none_right_eq_some.mp hending
    cases hok
    rw [allStatements, if_pos hend]
    rfl
  · intro done tokens hending
    rw [allStatements_of_not_end hending]
    cases statement finish tokens <;> rfl

end

/-- Reading a statement from a cursor on ends. If it succeeds, the cursor has moved on over tokens of programs, and not
    beyond the first end marker, or the end of the tokens if there is none. So a program is read in no more rounds than
    there are tokens, and a body behind its opening quote in fewer, that is in no more if taking the closing quote is a
    round too. -/
theorem reading_progresses (tokens : List Token) (pos : Nat) :
    let finish := lastStart tokens
    let left := fun pos => tokens.drop pos
    let read := descend finish (tokens.length + 1)
    read (left pos) = some (statement finish (left pos)) ∧
    (∀ s rest, statement finish (left pos) = .ok (s, rest) →
      ∃ next, pos < next ∧ next ≤ tokens.length ∧ rest = left next ∧
        (∀ t ∈ (tokens.take next).drop pos, t.kind.isProper = true) ∧
        (pos ≤ tokens.findIdx Token.isEof → next ≤ tokens.findIdx Token.isEof)) ∧
    (readUntil (atEnd finish) read tokens.length [] (left 0)).map (·.map fun found => ⟨found.1⟩) =
      some (ofTokens tokens) ∧
    (0 < pos → ∃ answer, readUntil (atQuote finish) read (tokens.length - 1) [] (left pos) = some answer) := by
  intro finish left read
  have hread : ∀ shorter : List Token, shorter.length ≤ tokens.length →
      read shorter = some (statement finish shorter) := fun shorter hshorter => descend_eq (by omega)
  have hleft : (left pos).length = tokens.length - pos := List.length_drop
  refine ⟨hread _ (by omega), fun s rest reads => ?_, ?_, fun hquote => ?_⟩
  · exact (stepsOver_statementWithin reads).exists_cursor
  · exact readUntil_atEnd hread (Nat.le_refl _)
  · have hbody := readUntil_atQuote 1 [] (by omega : (left pos).length ≤ tokens.length - 1)
      fun shorter hshorter => hread shorter (by omega)
    obtain ⟨answer, hanswer, -⟩ := Option.map_eq_some_iff.mp hbody
    exact ⟨answer, hanswer⟩

/-- The cursor stands behind an opening quote, a malformed token comes before the end marker, and the missing quote
    behind it. -/
theorem reading_progresses_nested :
    let place : Token.Kind → Token := fun kind => ⟨kind, .start, .start⟩
    let tokens := [.keyword .rep, .number 2, .quote, .keyword .rep, .number 3, .keyword .down, .period, .quote,
      .error .zeroNumber, .eof, .quote].map place
    3 ≤ tokens.findIdx Token.isEof ∧
    statement (lastStart tokens) (tokens.drop 3) = .ok (.loop 3 [.pen true], tokens.drop 7) ∧
    (∃ next, 3 < next ∧ next ≤ 9 ∧ tokens.drop 7 = tokens.drop next ∧
      ∀ t ∈ (tokens.take next).drop 3, t.kind.isProper = true) ∧
    ∃ answer, readUntil (atQuote (lastStart tokens)) (descend (lastStart tokens) 12) 10 [] (tokens.drop 3) =
      some answer := by
  intro place tokens
  have hpos : 3 ≤ tokens.findIdx Token.isEof := by decide
  obtain ⟨hread, hcursor, -, hquote⟩ := reading_progresses tokens 3
  have hstatement : statement (lastStart tokens) (tokens.drop 3) = .ok (.loop 3 [.pen true], tokens.drop 7) := by
    rw [← Option.some_inj, ← hread]
    rfl
  obtain ⟨next, hmoves, -, hrest, hproper, hmark⟩ := hcursor _ _ hstatement
  exact ⟨hpos, hstatement, ⟨next, hmoves, hmark hpos, hrest, hproper⟩, hquote (by decide)⟩

end TurtleGraphics.Program
