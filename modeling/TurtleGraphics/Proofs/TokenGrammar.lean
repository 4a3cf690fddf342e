import TurtleGraphics.Proofs.Reader

/-! # The grammar of tokens

Which tokens a statement may be written with, as derivations over token kinds. A body stands in quotes or is one
statement, and a quote closes a body with the same token that opens one. `ofTokens` reads exactly the derivable
token lists. Soundness is an invariant of the reader: what it holds derives from the tokens that it has
taken (`Read`). Completeness follows a derivation through the reader step by step. -/

namespace TurtleGraphics

/-- The word for a move. -/
def Direction.keyword : Direction → Keyword
  | forward => .forw
  | backward => .back

/-- The word for a turn. -/
def Side.keyword : Side → Keyword
  | left => .left
  | right => .right

/-- The word that lowers or lifts the pen. -/
def penKeyword (down : Bool) : Keyword := if down then .down else .up

namespace Program

mutual

/-- The tokens of one statement. -/
inductive Derives : List Token.Kind → Statement → Prop where
  | move (direction : Direction) (n : UInt32) :
    Derives [.keyword direction.keyword, .number n, .period] (.move direction n)
  | turn (side : Side) (n : UInt32) : Derives [.keyword side.keyword, .number n, .period] (.turn side n)
  | pen (down : Bool) : Derives [.keyword (penKeyword down), .period] (.pen down)
  | color {literal : String} {c : Color} (h : Color.ofText? literal = some c) :
    Derives [.keyword .color, .hex literal, .period] (.color c)
  | bare {kinds : List Token.Kind} {s : Statement} (n : UInt32) (h : Derives kinds s) :
    Derives (.keyword .rep :: .number n :: kinds) (.loop n [s])
  | quoted {kinds : List Token.Kind} {body : List Statement} (n : UInt32) (h : DerivesAll kinds body)
    (hne : body ≠ []) : Derives (.keyword .rep :: .number n :: .quote :: (kinds ++ [.quote])) (.loop n body)

/-- The tokens of several statements. -/
inductive DerivesAll : List Token.Kind → List Statement → Prop where
  | nil : DerivesAll [] []
  | cons {a b : List Token.Kind} {s : Statement} {rest : List Statement} (h : Derives a s) (hr : DerivesAll b rest) :
    DerivesAll (a ++ b) (s :: rest)

end

theorem DerivesAll.snoc {a b : List Token.Kind} {ss : List Statement} {s : Statement} :
    DerivesAll a ss → Derives b s → DerivesAll (a ++ b) (ss ++ [s])
  | .nil, h => by simpa using DerivesAll.cons h .nil
  | .cons h₁ hr, h => by
    rw [List.append_assoc]
    exact .cons h₁ (hr.snoc h)

theorem Derives.starts {kinds : List Token.Kind} {s : Statement} (h : Derives kinds s) :
    ∃ word rest, kinds = .keyword word :: rest := by
  cases h <;> exact ⟨_, _, rfl⟩

/-! ### Soundness -/

/-- The tokens of a statement that has begun, up to what is awaited. -/
inductive Pending : Awaited → List Token.Kind → Prop where
  | statement : Pending .statement []
  | number {word : Keyword} {make : UInt32 → Statement}
    (h : ∀ n, Derives [.keyword word, .number n, .period] (make n)) : Pending (.number make) [.keyword word]
  | color : Pending .color [.keyword .color]
  | period {kinds : List Token.Kind} {s : Statement} (h : Derives (kinds ++ [.period]) s) : Pending (.period s) kinds
  | count : Pending .count [.keyword .rep]
  | body (n : UInt32) : Pending (.body n) [.keyword .rep, .number n]

/-- The tokens of open loops, up to what has been read of their bodies. -/
inductive Opened : List OpenLoop → List Token.Kind → Prop where
  | nil : Opened [] []
  | bare {outer : List OpenLoop} {kinds : List Token.Kind} (n : UInt32) (h : Opened outer kinds) :
    Opened (.bare n :: outer) (kinds ++ [.keyword .rep, .number n])
  | quoted {outer : List OpenLoop} {kinds inner : List Token.Kind} {body : List Statement} (n : UInt32)
    (h : Opened outer kinds) (hb : DerivesAll inner body.reverse) :
    Opened (.quoted n body :: outer) (kinds ++ .keyword .rep :: .number n :: .quote :: inner)

/-- The tokens that a reader has taken. -/
inductive Read : Reader → List Token.Kind → Prop where
  | mk {awaited : Awaited} {loops : List OpenLoop} {done : List Statement} {a b c : List Token.Kind}
    (hd : DerivesAll a done.reverse) (ho : Opened loops b) (hp : Pending awaited c) :
    Read ⟨awaited, loops, done⟩ (a ++ b ++ c)

theorem pending_awaitedAfter (word : Keyword) : Pending (Reader.awaitedAfter word) [.keyword word] := by
  cases word with
  | forw => exact .number (.move .forward)
  | back => exact .number (.move .backward)
  | left => exact .number (.turn .left)
  | right => exact .number (.turn .right)
  | down => exact .period (.pen true)
  | up => exact .period (.pen false)
  | color => exact .color
  | rep => exact .count

theorem Opened.read_put {loops : List OpenLoop} {done : List Statement} {a b : List Token.Kind}
    (hd : DerivesAll a done.reverse) (ho : Opened loops b) :
    ∀ {s : Statement} {c : List Token.Kind}, Derives c s → Read (Reader.put done s loops) (a ++ b ++ c) := by
  induction ho with
  | nil =>
    intro s c hs
    have hd' : DerivesAll (a ++ c) (s :: done).reverse := by
      rw [List.reverse_cons]
      exact hd.snoc hs
    simpa using Read.mk hd' .nil .statement
  | bare n ho ih =>
    intro s c hs
    simpa using ih (.bare n hs)
  | @quoted outer kinds inner body n ho hb ih =>
    intro s c hs
    have hb' : DerivesAll (inner ++ c) (s :: body).reverse := by
      rw [List.reverse_cons]
      exact hb.snoc hs
    simpa using Read.mk hd (.quoted n ho hb') .statement

theorem Read.step {r next : Reader} {kinds : List Token.Kind} {kind : Token.Kind} (h : Read r kinds)
    (ht : r.Takes kind next) : Read next (kinds ++ [kind]) := by
  cases h with
  | @mk awaited loops done a b c hd ho hp =>
    rw [List.append_assoc]
    cases ht with
    | word k =>
      cases hp
      exact .mk hd ho (pending_awaitedAfter k)
    | number n =>
      cases hp with
      | number hn => exact .mk hd ho (.period (hn n))
    | color hc =>
      cases hp
      exact .mk hd ho (.period (.color hc))
    | period =>
      cases hp with
      | period hs => exact ho.read_put hd hs
    | count n =>
      cases hp
      exact .mk hd ho (.body n)
    | bare k =>
      cases hp
      simpa using Read.mk hd (.bare _ ho) (pending_awaitedAfter k)
    | quote =>
      cases hp
      simpa using Read.mk hd (.quoted _ ho .nil) .statement
    | @close _ n _ _ hne =>
      cases hp
      cases ho with
      | quoted _ ho hb =>
        have hs := Derives.quoted n hb (fun h => hne (List.reverse_eq_nil_iff.mp h))
        simpa using ho.read_put hd hs

theorem Read.takeAll {r last : Reader} {kinds more : List Token.Kind} (h : Read r kinds)
    (ht : r.takeAll? more = some last) : Read last (kinds ++ more) := by
  induction more generalizing r kinds with
  | nil =>
    cases ht
    simpa using h
  | cons kind more ih =>
    rw [Reader.takeAll?_cons] at ht
    obtain ⟨next, hn, ht⟩ := Option.bind_eq_some_iff.mp ht
    simpa using ih (h.step (Reader.take?_eq_some_iff.mp hn)) ht

theorem Read.start : Read .start [] :=
  @Read.mk .statement [] [] [] [] [] .nil .nil .statement

theorem Read.derivesAll {r : Reader} {kinds : List Token.Kind} {p : Program} (h : Read r kinds)
    (hp : r.result? = some p) : DerivesAll kinds p.statements := by
  cases h with
  | mk hd ho hc =>
    unfold Reader.result? at hp
    split at hp
    · next heq =>
      cases heq
      cases hp
      cases ho
      cases hc
      simpa using hd
    · cases hp

/-! ### Completeness -/

namespace Reader

mutual

theorem takeAll?_derives {loops : List OpenLoop} {done : List Statement} {kinds : List Token.Kind} {s : Statement} :
    Derives kinds s → takeAll? ⟨.statement, loops, done⟩ kinds = some (put done s loops)
  | .move direction n => by cases direction <;> rfl
  | .turn side n => by cases side <;> rfl
  | .pen down => by cases down <;> rfl
  | .color h => by
    rw [takeAll?_cons_of_takes (.word .color), awaitedAfter, takeAll?_cons_of_takes (.color h),
      takeAll?_cons_of_takes .period, takeAll?_nil]
  | .bare n h => by
    obtain ⟨word, rest, rfl⟩ := h.starts
    rw [takeAll?_cons_of_takes (.word .rep), awaitedAfter, takeAll?_cons_of_takes (.count n), takeAll?_body,
      takeAll?_derives h, put_bare]
  | .quoted n h hne => by
    rw [takeAll?_cons_of_takes (.word .rep), awaitedAfter, takeAll?_cons_of_takes (.count n),
      takeAll?_cons_of_takes .quote, takeAll?_append, takeAll?_derivesAll_quoted h, Option.bind_some,
      takeAll?_cons_of_takes (.close (by simpa using hne)), takeAll?_nil]
    simp

-- A statement inside quotes goes to the innermost loop, so the loop holds what has been derived so far.
theorem takeAll?_derivesAll_quoted {n : UInt32} {outer : List OpenLoop} {done body ss : List Statement}
    {kinds : List Token.Kind} : DerivesAll kinds ss →
    takeAll? ⟨.statement, .quoted n body :: outer, done⟩ kinds =
      some ⟨.statement, .quoted n (ss.reverse ++ body) :: outer, done⟩
  | .nil => rfl
  | .cons h hr => by
    rw [takeAll?_append, takeAll?_derives h, Option.bind_some, put_quoted, takeAll?_derivesAll_quoted hr]
    simp

end

theorem takeAll?_derivesAll {done ss : List Statement} {kinds : List Token.Kind} : DerivesAll kinds ss →
    takeAll? ⟨.statement, [], done⟩ kinds = some ⟨.statement, [], ss.reverse ++ done⟩
  | .nil => rfl
  | .cons h hr => by
    rw [takeAll?_append, takeAll?_derives h, Option.bind_some, put_nil, takeAll?_derivesAll hr]
    simp

end Reader

/-! ### Exactness -/

/-- Tokens are read as a program just when they derive it. -/
theorem takeAll?_result?_iff {kinds : List Token.Kind} {p : Program} :
    (∃ last, Reader.start.takeAll? kinds = some last ∧ last.result? = some p) ↔ DerivesAll kinds p.statements := by
  constructor
  · rintro ⟨last, hl, hp⟩
    exact (Read.start.takeAll hl).derivesAll hp
  · intro h
    exact ⟨_, Reader.takeAll?_derivesAll h, by simp [Reader.result?]⟩

theorem DerivesAll.unique {kinds : List Token.Kind} {a b : List Statement} (ha : DerivesAll kinds a)
    (hb : DerivesAll kinds b) : a = b := by
  have h : Reader.takeAll? ⟨.statement, [], []⟩ kinds = _ := Reader.takeAll?_derivesAll ha
  rw [Reader.takeAll?_derivesAll hb] at h
  simpa using h.symm

/-- The tokens before the first end marker are read as a program just when they derive it, and no tokens derive
    two programs. -/
theorem ofTokens_iff_derivesAll :
    (∀ (tokens : List Token) (p : Program),
      ofTokens tokens = .ok p ↔ DerivesAll ((beforeEnd tokens).map Token.kind) p.statements) ∧
    ∀ (kinds : List Token.Kind) (p q : Program),
      DerivesAll kinds p.statements → DerivesAll kinds q.statements → p = q := by
  refine ⟨fun tokens p => ?_, fun kinds p q hp hq => ?_⟩
  · rw [ofTokens_eq_ok_iff, takeAll?_result?_iff]
  · obtain ⟨a⟩ := p
    obtain ⟨b⟩ := q
    exact congrArg Program.mk (hp.unique hq)

/-- Two bodies in quotes that close together, read behind a bare one and before what no program starts with. -/
theorem ofTokens_adjacent_quotes :
    let kinds : List Token.Kind :=
      [.keyword .rep, .number 4, .keyword .rep, .number 2, .quote, .keyword .rep, .number 3, .quote, .keyword .forw,
      .number 0, .period, .quote, .quote]
    let p : Program := ⟨[.loop 4 [.loop 2 [.loop 3 [.move .forward 0]]]]⟩
    ofTokens ((kinds ++ [Token.Kind.eof, .quote]).map fun kind => ⟨kind, .start, .start⟩) = .ok p ∧
      ∀ q : Program, DerivesAll kinds q.statements → q = p := by
  have h : DerivesAll _ [_] :=
    .cons (.bare 4 (.quoted 2 (.cons (.quoted 3 (.cons (.move .forward 0) .nil) (by simp)) .nil) (by simp))) .nil
  exact ⟨(ofTokens_iff_derivesAll.1 _ _).mpr h, fun q hq => ofTokens_iff_derivesAll.2 _ _ _ hq h⟩

end Program

end TurtleGraphics
