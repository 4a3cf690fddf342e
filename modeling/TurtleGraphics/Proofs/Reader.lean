import TurtleGraphics.Program.Parse

/-! # Reading one token at a time

`ofTokens` takes up to three tokens at once off its list. A `Reader` takes one token a step: it holds the
statements that are complete, the loops that are open, and what has to come next. Which step it takes depends on
the kind of the token alone, and no step takes an end marker. `ofTokens` reads as a reader that looks out for markers
(`runToMark_allStatements`), and that one as a reader of the tokens before the first marker (`runToMark_eq`). So
`ofTokens_eq_run`: the two read alike, errors included. -/

namespace TurtleGraphics.Program

/-- What has to come next. -/
inductive Awaited where
  -- a statement, or the end of what is around it
  | statement
  -- the argument of a statement
  | number (make : UInt32 → Statement)
  | color
  | period (s : Statement)
  -- how often a loop runs
  | count
  -- the body of a loop, with or without quotes
  | body (count : UInt32)

/-- Where reading stands between two tokens. Complete statements are held with the last of them first. -/
structure Reader where
  awaited : Awaited
  loops : List OpenLoop
  done : List Statement

namespace Reader

/-- Where reading starts. -/
def start : Reader := ⟨.statement, [], []⟩

/-- Where reading stands once `s` is complete. A loop without quotes is complete with it. -/
def put (done : List Statement) (s : Statement) : List OpenLoop → Reader
  | [] => ⟨.statement, [], s :: done⟩
  | .bare count :: outer => put done (.loop count [s]) outer
  | .quoted count body :: outer => ⟨.statement, .quoted count (s :: body) :: outer, done⟩

@[simp] theorem put_nil (done : List Statement) (s : Statement) : put done s [] = ⟨.statement, [], s :: done⟩ := rfl

@[simp] theorem put_bare (done : List Statement) (s : Statement) (count : UInt32) (outer : List OpenLoop) :
    put done s (.bare count :: outer) = put done (.loop count [s]) outer := rfl

@[simp] theorem put_quoted (done : List Statement) (s : Statement) (count : UInt32) (body : List Statement)
    (outer : List OpenLoop) :
    put done s (.quoted count body :: outer) = ⟨.statement, .quoted count (s :: body) :: outer, done⟩ := rfl

/-- What has to come after a keyword. -/
def awaitedAfter : Keyword → Awaited
  | .forw => .number (.move .forward)
  | .back => .number (.move .backward)
  | .left => .number (.turn .left)
  | .right => .number (.turn .right)
  | .down => .period (.pen true)
  | .up => .period (.pen false)
  | .color => .color
  | .rep => .count

/-- One step: where reading stands after one more token, unless no program goes on with it. -/
def take? : Reader → Token.Kind → Option Reader
  | ⟨.statement, loops, done⟩, .keyword word => some ⟨awaitedAfter word, loops, done⟩
  | ⟨.statement, .quoted n (s :: body) :: outer, done⟩, .quote => some (put done (.loop n (s :: body).reverse) outer)
  | ⟨.number make, loops, done⟩, .number n => some ⟨.period (make n), loops, done⟩
  | ⟨.color, loops, done⟩, .hex literal => (Color.ofText? literal).map fun c => ⟨.period (.color c), loops, done⟩
  | ⟨.period s, loops, done⟩, .period => some (put done s loops)
  | ⟨.count, loops, done⟩, .number n => some ⟨.body n, loops, done⟩
  | ⟨.body n, loops, done⟩, .keyword word => some ⟨awaitedAfter word, .bare n :: loops, done⟩
  | ⟨.body n, loops, done⟩, .quote => some ⟨.statement, .quoted n [] :: loops, done⟩
  | _, _ => none

/-- What is wrong with a token that is not taken. -/
def refuse : Reader → Token.Kind → SyntaxError.Kind
  | _, .error cause => .lexical cause
  | ⟨.statement, .quoted _ _ :: _, _⟩, .quote => .emptyLoop
  | ⟨.color, _, _⟩, .hex literal => .invalidColor literal
  | ⟨.statement, _, _⟩, kind | ⟨.body _, _, _⟩, kind => .expectedStatement kind.label
  | ⟨.number _, _, _⟩, kind | ⟨.count, _, _⟩, kind => .expected .number kind.label
  | ⟨.color, _, _⟩, kind => .expected .color kind.label
  | ⟨.period _, _, _⟩, kind => .expected .period kind.label

/-- What is wrong if the input ends here. -/
def unfinished : Reader → SyntaxError.Kind
  | ⟨.statement, .quoted _ _ :: _, _⟩ => .unterminatedLoop
  | r => r.refuse .eof

/-- The program that has been read if the input may end here. -/
def result? : Reader → Option Program
  | ⟨.statement, [], done⟩ => some ⟨done.reverse⟩
  | _ => none

/-- Reads to the end of the tokens. -/
def run (finish : Position) (r : Reader) : List Token → Except SyntaxError Program
  | [] => match r.result? with
    | some p => .ok p
    | none => .error ⟨r.unfinished, finish⟩
  | t :: rest => match r.take? t.kind with
    | some next => run finish next rest
    | none => .error ⟨r.refuse t.kind, t.start⟩

/-- Reads tokens up to the first end marker, where the input ends. Without a marker it ends at `finish`. -/
def runToMark (finish : Position) (r : Reader) : List Token → Except SyntaxError Program
  | [] => run finish r []
  | t :: rest => if t.isEof then run t.start r [] else match r.take? t.kind with
    | some next => runToMark finish next rest
    | none => .error ⟨r.refuse t.kind, t.start⟩

/-- The input ends at an end marker, one of the tokens or the one that stands in behind them. -/
theorem runToMark_of_end {finish : Position} {tokens : List Token} (h : (current finish tokens).kind = .eof)
    (r : Reader) : runToMark finish r tokens = run (current finish tokens).start r [] := by
  cases tokens with
  | nil => rfl
  | cons t rest =>
    have heof : t.isEof = true := decide_eq_true h
    rw [runToMark, if_pos heof]
    rfl

/-! ### Reading several tokens at once -/

section Steps
variable {finish : Position} {done : List Statement} {loops : List OpenLoop}

/-- Reading goes on behind the opening of a statement. -/
def resume (finish : Position) (done : List Statement) (loops : List OpenLoop) :
    Except SyntaxError (Opening × List Token) → Except SyntaxError Program
  | .error e => .error e
  | .ok (.simple s, rest) => runToMark finish (put done s loops) rest
  | .ok (.loop l, rest) => runToMark finish ⟨.statement, l :: loops, done⟩ rest

theorem runToMark_period (s : Statement) (tokens : List Token) :
    runToMark finish ⟨.period s, loops, done⟩ tokens =
      resume finish done loops (period finish tokens >>= fun rest => pure (.simple s, rest)) := by
  match tokens with
  | [] => rfl
  | ⟨kind, _, _⟩ :: rest => cases kind <;> rfl

theorem runToMark_number (make : UInt32 → Statement) (tokens : List Token) :
    runToMark finish ⟨.number make, loops, done⟩ tokens = resume finish done loops (numbered finish make tokens) := by
  match tokens with
  | [] => rfl
  | ⟨kind, _, _⟩ :: rest =>
    cases kind with
    | number n => exact runToMark_period (make n) rest
    | _ => rfl

theorem runToMark_color (tokens : List Token) :
    runToMark finish ⟨.color, loops, done⟩ tokens =
      resume finish done loops (colorLiteral finish tokens >>= fun (c, rest) =>
        period finish rest >>= fun rest => pure (.simple (.color c), rest)) := by
  match tokens with
  | [] => rfl
  | ⟨kind, start, stop⟩ :: rest =>
    cases kind with
    | hex literal =>
      have hnot : (Token.mk (.hex literal) start stop).isEof = false := rfl
      simp only [runToMark, hnot, Bool.false_eq_true, if_false, take?, colorLiteral]
      cases Color.ofText? literal with
      | none => rfl
      | some c => exact runToMark_period (.color c) rest
    | _ => rfl

theorem runToMark_count (tokens : List Token) :
    runToMark finish ⟨.count, loops, done⟩ tokens = resume finish done loops (loopOpening finish tokens) := by
  match tokens with
  | [] => rfl
  | ⟨kind, _, _⟩ :: rest =>
    cases kind with
    | number n =>
      match rest with
      | [] => rfl
      | [⟨kind, _, _⟩] => cases kind <;> rfl
      | ⟨kind, _, _⟩ :: ⟨kind', _, _⟩ :: rest => cases kind <;> cases kind' <;> rfl
    | _ => rfl

/-- A statement has to start here: neither the input nor a loop in quotes ends. -/
def Due (finish : Position) : List OpenLoop → List Token → Prop
  | [], tokens => (current finish tokens).kind ≠ .eof
  | .bare _ :: _, _ => True
  | .quoted _ _ :: _, tokens => (current finish tokens).kind ≠ .eof ∧ (current finish tokens).kind ≠ .quote

theorem runToMark_opening {tokens : List Token} (hdue : Due finish loops tokens) :
    runToMark finish ⟨.statement, loops, done⟩ tokens = resume finish done loops (opening finish tokens) := by
  match tokens with
  | [] =>
    match loops with
    | [] => exact absurd rfl hdue
    | .bare _ :: _ => rfl
    | .quoted _ _ :: _ => exact absurd rfl hdue.1
  | ⟨kind, _, _⟩ :: rest =>
    cases kind with
    | keyword word =>
      -- A keyword is taken whatever loops are open, and its arguments are read one by one.
      show runToMark finish ⟨awaitedAfter word, loops, done⟩ rest = _
      cases word with
      | forw | back | left | right => exact runToMark_number _ rest
      | rep => exact runToMark_count rest
      | down | up => exact runToMark_period _ rest
      | color => exact runToMark_color rest
    | quote =>
      -- The reader would close a loop in quotes here, so none may be innermost.
      match loops with
      | [] | .bare _ :: _ => rfl
      | .quoted _ _ :: _ => exact absurd rfl hdue.2
    | eof =>
      match loops with
      | [] => exact absurd rfl hdue
      | .bare _ :: _ => rfl
      | .quoted _ _ :: _ => exact absurd rfl hdue.1
    | _ => rcases loops with _ | ⟨_ | _, _⟩ <;> rfl

/-- Behind the opening of a loop, its body has to start. -/
theorem due_of_loopOpening {tokens rest : List Token} {o : Opening} (h : loopOpening finish tokens = .ok (o, rest)) :
    ∃ l, o = .loop l ∧ Due finish (l :: loops) rest := by
  obtain ⟨⟨n, after⟩, -, hbody⟩ := exists_of_bind_eq_ok h
  dsimp only at hbody
  split at hbody
  · split at hbody
    · cases hbody
    · cases hbody
    · next hquote hend =>
      cases hbody
      exact ⟨_, rfl, hend, hquote⟩
  · cases hbody
    exact ⟨_, rfl, trivial⟩

theorem simple_of_period {tokens rest : List Token} {s : Statement} {o : Opening}
    (h : (period finish tokens >>= fun rest => pure (Opening.simple s, rest)) = .ok (o, rest)) : o = .simple s := by
  obtain ⟨after, -, hrest⟩ := exists_of_bind_eq_ok h
  cases hrest
  rfl

theorem simple_of_numbered {make : UInt32 → Statement} {tokens rest : List Token} {o : Opening}
    (h : numbered finish make tokens = .ok (o, rest)) : ∃ s, o = .simple s := by
  obtain ⟨⟨n, after⟩, -, hending⟩ := exists_of_bind_eq_ok h
  exact ⟨_, simple_of_period hending⟩

theorem due_of_opening {tokens rest : List Token} {l : OpenLoop}
    (h : opening finish tokens = .ok (.loop l, rest)) : Due finish (l :: loops) rest := by
  unfold opening at h
  split at h
  · rename_i word _ _ tail
    cases word with
    | forw | back | left | right => obtain ⟨s, hs⟩ := simple_of_numbered h; cases hs
    | down | up => cases simple_of_period h
    | color =>
      obtain ⟨⟨c, after⟩, -, hending⟩ := exists_of_bind_eq_ok h
      cases simple_of_period hending
    | rep =>
      obtain ⟨l', hl, hdue⟩ := due_of_loopOpening h
      cases hl
      exact hdue
  · cases h

/-- Reading goes on behind a complete statement and the loops that end with it. -/
def proceed (finish : Position) (done : List Statement) : Except SyntaxError Progress → Except SyntaxError Program
  | .error e => .error e
  | .ok (.complete s rest) => runToMark finish ⟨.statement, [], s :: done⟩ rest
  | .ok (.inside loops rest) => runToMark finish ⟨.statement, loops, done⟩ rest

theorem runToMark_put (s : Statement) (tokens : List Token) :
    runToMark finish (put done s loops) tokens = proceed finish done (close finish s loops tokens) := by
  fun_induction close finish s loops tokens with
  | case1 s tokens => rfl
  | case2 s count outer tokens ih => exact ih
  | case3 s count body outer tokens t hquote ih =>
    obtain ⟨t, rest, rfl, ht⟩ := exists_cons_of_current hquote (by decide)
    rw [← ih]
    simp [put, runToMark, take?, Token.isEof, ht]
  | case4 s count body outer tokens t hend =>
    rw [runToMark_of_end hend]
    rfl
  | case5 s count body outer tokens t hquote hend => rfl

theorem due_of_close {s : Statement} {tokens rest : List Token} {inner : List OpenLoop}
    (h : close finish s loops tokens = .ok (.inside inner rest)) : Due finish inner rest := by
  fun_induction close finish s loops tokens with
  | case1 s tokens => cases h
  | case2 s count outer tokens ih => exact ih h
  | case3 s count body outer tokens t hquote ih => exact ih h
  | case4 => cases h
  | case5 s count body outer tokens t hquote hend => cases h; exact ⟨hend, hquote⟩

theorem runToMark_simple {tokens rest : List Token} {s : Statement} (hdue : Due finish loops tokens)
    (starts : opening finish tokens = .ok (.simple s, rest)) :
    runToMark finish ⟨.statement, loops, done⟩ tokens = proceed finish done (close finish s loops rest) := by
  rw [runToMark_opening hdue, starts]
  exact runToMark_put s rest

theorem runToMark_statementWithin {tokens : List Token} (hdue : Due finish loops tokens) :
    runToMark finish ⟨.statement, loops, done⟩ tokens = match statementWithin finish loops tokens with
      | .error e => .error e
      | .ok (s, rest) => runToMark finish ⟨.statement, [], s :: done⟩ rest := by
  fun_induction statementWithin finish loops tokens with
  | case1 loops tokens e starts => rw [runToMark_opening hdue, starts]; rfl
  | case2 loops tokens l rest starts ih =>
    rw [runToMark_opening hdue, starts]
    exact ih (due_of_opening starts)
  | case3 loops tokens s rest starts e closes => rw [runToMark_simple hdue starts, closes]; rfl
  | case4 loops tokens s rest starts s' rest' closes => rw [runToMark_simple hdue starts, closes]; rfl
  | case5 loops tokens s rest starts inner rest' closes ih =>
    rw [runToMark_simple hdue starts, closes]
    exact ih (due_of_close closes)

theorem runToMark_allStatements (done : List Statement) (tokens : List Token) :
    runToMark finish ⟨.statement, [], done⟩ tokens = (allStatements finish done tokens).map Program.mk := by
  fun_induction allStatements finish done tokens with
  | case1 done tokens hend =>
    rw [runToMark_of_end (of_decide_eq_true hend)]
    rfl
  | case2 done tokens hend e reads =>
    have hdue : Due finish [] tokens := fun h => hend (decide_eq_true h)
    rw [runToMark_statementWithin hdue, ← statement, reads]
    rfl
  | case3 done tokens hend s rest reads ih =>
    have hdue : Due finish [] tokens := fun h => hend (decide_eq_true h)
    rw [runToMark_statementWithin hdue, ← statement, reads]
    exact ih

end Steps

/-! ### What a step and a run do -/

/-- The steps a reader can take. -/
inductive Takes : Reader → Token.Kind → Reader → Prop where
  | word {done loops} (k : Keyword) : Takes ⟨.statement, loops, done⟩ (.keyword k) ⟨awaitedAfter k, loops, done⟩
  | number {done loops make} (n : UInt32) :
    Takes ⟨.number make, loops, done⟩ (.number n) ⟨.period (make n), loops, done⟩
  | color {done loops literal c} (h : Color.ofText? literal = some c) :
    Takes ⟨.color, loops, done⟩ (.hex literal) ⟨.period (.color c), loops, done⟩
  | period {done loops s} : Takes ⟨.period s, loops, done⟩ .period (put done s loops)
  | count {done loops} (n : UInt32) : Takes ⟨.count, loops, done⟩ (.number n) ⟨.body n, loops, done⟩
  | bare {done loops n} (k : Keyword) :
    Takes ⟨.body n, loops, done⟩ (.keyword k) ⟨awaitedAfter k, .bare n :: loops, done⟩
  | quote {done loops n} : Takes ⟨.body n, loops, done⟩ .quote ⟨.statement, .quoted n [] :: loops, done⟩
  | close {done n body outer} (h : body ≠ []) :
    Takes ⟨.statement, .quoted n body :: outer, done⟩ .quote (put done (.loop n body.reverse) outer)

section Runs
variable {finish : Position} {r next last : Reader} {kind : Token.Kind} {p : Program}

theorem take?_eq_some_iff : r.take? kind = some next ↔ Takes r kind next := by
  constructor
  · intro h
    unfold take? at h
    split at h
    · cases h; exact .word _
    · cases h; exact .close (List.cons_ne_nil _ _)
    · cases h; exact .number _
    · obtain ⟨c, hc, rfl⟩ := Option.map_eq_some_iff.mp h
      exact .color hc
    · cases h; exact .period
    · cases h; exact .count _
    · cases h; exact .bare _
    · cases h; exact .quote
    · cases h
  · intro h
    cases h with
    | color h => simp [take?, h]
    | close h =>
      obtain ⟨s, body, rfl⟩ := List.exists_cons_of_ne_nil h
      rfl
    | _ => rfl

theorem take?_error (r : Reader) (cause : LexicalError) : r.take? (.error cause) = none :=
  Option.eq_none_iff_forall_ne_some.mpr fun _ h => nomatch take?_eq_some_iff.mp h

/-- Where reading stands after several tokens. -/
def takeAll? (r : Reader) (kinds : List Token.Kind) : Option Reader := kinds.foldlM take? r

@[simp] theorem takeAll?_nil : r.takeAll? [] = some r := rfl

theorem takeAll?_cons {kinds : List Token.Kind} :
    r.takeAll? (kind :: kinds) = (r.take? kind).bind (·.takeAll? kinds) := rfl

theorem takeAll?_cons_of_takes {kinds : List Token.Kind} (h : Takes r kind next) :
    r.takeAll? (kind :: kinds) = next.takeAll? kinds := by
  rw [takeAll?_cons, take?_eq_some_iff.mpr h, Option.bind_some]

/-- A body without quotes is read as a statement inside a loop that is already open. -/
theorem takeAll?_body {n : UInt32} {loops : List OpenLoop} {done : List Statement} (word : Keyword)
    (kinds : List Token.Kind) : takeAll? ⟨.body n, loops, done⟩ (.keyword word :: kinds) =
      takeAll? ⟨.statement, .bare n :: loops, done⟩ (.keyword word :: kinds) := by
  rw [takeAll?_cons_of_takes (.bare word), takeAll?_cons_of_takes (.word word)]

theorem takeAll?_append (a b : List Token.Kind) : r.takeAll? (a ++ b) = (r.takeAll? a).bind (·.takeAll? b) :=
  List.foldlM_append

theorem exists_takes_of_mem {kinds : List Token.Kind} (h : r.takeAll? kinds = some last) (hk : kind ∈ kinds) :
    ∃ r next, Takes r kind next := by
  induction kinds generalizing r with
  | nil => cases hk
  | cons kind' kinds ih =>
    rw [takeAll?_cons] at h
    obtain ⟨next, hn, h⟩ := Option.bind_eq_some_iff.mp h
    rcases List.mem_cons.mp hk with rfl | hk
    · exact ⟨r, next, take?_eq_some_iff.mp hn⟩
    · exact ih h hk

/-- Malformed tokens are never taken. -/
theorem error?_of_takeAll? {kinds : List Token.Kind} (h : r.takeAll? kinds = some last) :
    ∀ kind ∈ kinds, kind.error? = none := by
  intro kind hk
  obtain ⟨_, _, ht⟩ := exists_takes_of_mem h hk
  cases ht <;> rfl

/-- A run over tokens that are all taken goes on behind them. -/
theorem run_append {taken rest : List Token} (h : r.takeAll? (taken.map Token.kind) = some next) :
    run finish r (taken ++ rest) = run finish next rest := by
  induction taken generalizing r with
  | nil => cases h; rfl
  | cons t taken ih =>
    rw [List.map_cons, takeAll?_cons] at h
    obtain ⟨r', hr', h⟩ := Option.bind_eq_some_iff.mp h
    simp only [List.cons_append, run, hr']
    exact ih h

theorem run_of_takeAll? {tokens : List Token} (h : r.takeAll? (tokens.map Token.kind) = some last) :
    run finish r tokens = run finish last [] := by
  have hrun : run finish r (tokens ++ []) = run finish last [] := run_append h
  rwa [List.append_nil] at hrun

theorem run_refused {t : Token} {rest : List Token} (h : r.take? t.kind = none) :
    run finish r (t :: rest) = .error ⟨r.refuse t.kind, t.start⟩ := by
  simp only [run, h]

/-- A run takes all tokens, or it stops at the first one that it does not take. -/
theorem takeAll?_or_refused (r : Reader) (tokens : List Token) :
    (∃ last, r.takeAll? (tokens.map Token.kind) = some last) ∨
    ∃ taken t rest next, tokens = taken ++ t :: rest ∧ r.takeAll? (taken.map Token.kind) = some next ∧
      next.take? t.kind = none := by
  induction tokens generalizing r with
  | nil => exact Or.inl ⟨r, rfl⟩
  | cons t tokens ih =>
    cases ht : r.take? t.kind with
    | none => exact Or.inr ⟨[], t, tokens, r, rfl, rfl, ht⟩
    | some r' =>
      rw [List.map_cons, takeAll?_cons, ht, Option.bind_some]
      rcases ih r' with h | ⟨taken, t', rest, next, rfl, hn, ht'⟩
      · exact Or.inl h
      · refine Or.inr ⟨t :: taken, t', rest, next, rfl, ?_, ht'⟩
        rw [List.map_cons, takeAll?_cons, ht, Option.bind_some, hn]

theorem run_eq_ok_iff {tokens : List Token} : run finish r tokens = .ok p ↔
    ∃ last, r.takeAll? (tokens.map Token.kind) = some last ∧ last.result? = some p := by
  rcases takeAll?_or_refused r tokens with ⟨last, hl⟩ | ⟨taken, t, rest, next, rfl, hn, ht⟩
  · rw [run_of_takeAll? hl, hl]
    cases hp : last.result? <;> simp [run, hp]
  · rw [run_append hn, run_refused ht, List.map_append, takeAll?_append, hn, Option.bind_some, List.map_cons,
      takeAll?_cons, ht]
    simp

end Runs

end Reader

/-- The tokens that count: those before the first end marker. -/
abbrev beforeEnd (tokens : List Token) : List Token := tokens.takeWhile fun t => !t.isEof

theorem beforeEnd_append {a b : List Token} (h : Token.Kind.eof ∉ a.map Token.kind) :
    beforeEnd (a ++ b) = a ++ beforeEnd b := by
  apply List.takeWhile_append_of_pos
  intro t ht
  have hk : t.kind ≠ .eof := fun hk => h (hk ▸ List.mem_map_of_mem ht)
  simp [Token.isEof, hk]

/-- Where errors at the end of the input are told: at the first end marker or, if there is none, at the start of
    the last token. -/
def endOf (tokens : List Token) : Position :=
  ((tokens.find? Token.isEof <|> tokens.getLast?).map Token.start).getD .start

/-- A reader that looks out for end markers does not get beyond the first one. -/
theorem Reader.runToMark_eq (finish : Position) (r : Reader) (tokens : List Token) :
    r.runToMark finish tokens =
      r.run (((tokens.find? Token.isEof).map Token.start).getD finish) (beforeEnd tokens) := by
  induction tokens generalizing r with
  | nil => rfl
  | cons t rest ih =>
    rw [runToMark, beforeEnd, List.takeWhile_cons, List.find?_cons]
    cases hend : t.isEof with
    | true => rfl
    | false =>
      simp only [Bool.not_false, Bool.false_eq_true, if_true, if_false, run, ← ih]

/-- Reading depends on the tokens before the first end marker and on where the input ends. -/
theorem ofTokens_eq_run (tokens : List Token) :
    ofTokens tokens = Reader.start.run (endOf tokens) (beforeEnd tokens) := by
  have hfinish : ((tokens.find? Token.isEof).map Token.start).getD (lastStart tokens) = endOf tokens := by
    rw [endOf]
    cases tokens.find? Token.isEof <;> rfl
  rw [← hfinish, ← Reader.runToMark_eq]
  exact (Reader.runToMark_allStatements [] tokens).symm

theorem ofTokens_eq_ok_iff {tokens : List Token} {p : Program} : ofTokens tokens = .ok p ↔
    ∃ last, Reader.start.takeAll? ((beforeEnd tokens).map Token.kind) = some last ∧ last.result? = some p := by
  rw [ofTokens_eq_run, Reader.run_eq_ok_iff]

end TurtleGraphics.Program
