import TurtleGraphics.Proofs.EarliestError
import TurtleGraphics.Proofs.TokenGrammar

/-! # What an error tells

The kind of a syntax error tells what stood at the error. Opening and closing quotes are the same token, so what a quote
or the end of the input means there depends on all tokens before it; the reader holds just that. `Reader.blame` is what
is wrong with a token, and `blame_cases` says what it can be. The last tokens that were taken say where the reader
stands, and the other way round. -/

namespace TurtleGraphics.Program

/-! ### The token at fault -/

/-- The tokens before token `k` start some program, and with token `k` they start none, unless it is the end that is at
    fault. -/
def Offends (tokens : List Token) (k : Nat) : Prop :=
  k ≤ tokens.findIdx Token.isEof ∧ (∃ more p, ofTokens (tokens.take k ++ more) = .ok p) ∧
    (k < tokens.findIdx Token.isEof → ∀ more p, ofTokens (tokens.take (k + 1) ++ more) ≠ .ok p)

/-- What stands for the end of tokens without an end marker. -/
def standIn (tokens : List Token) : Token :=
  ⟨.eof, (tokens.getLast?.map Token.start).getD .start, (tokens.getLast?.map Token.start).getD .start⟩

/-- Token `k`, or what stands for the end behind the last token. -/
def tokenAt (tokens : List Token) (k : Nat) : Token := tokens[k]?.getD (standIn tokens)

theorem Offends.le {tokens : List Token} {j k : Nat} (hj : Offends tokens j) (hk : Offends tokens k) : k ≤ j := by
  refine Nat.le_of_not_lt fun hlt => ?_
  obtain ⟨-, -, hnone⟩ := hj
  obtain ⟨hle, ⟨more, p, hok⟩, -⟩ := hk
  -- The tokens before `k` hold token `j`, and yet a program starts with them.
  have hsplit : tokens.take k = tokens.take (j + 1) ++ (tokens.take k).drop (j + 1) := by
    have h := List.take_append_drop (j + 1) (tokens.take k)
    rw [List.take_take, Nat.min_eq_left (by omega)] at h
    exact h.symm
  rw [hsplit, List.append_assoc] at hok
  exact hnone (by omega) _ _ hok

theorem tokenAt_end (tokens : List Token) : (tokenAt tokens (tokens.findIdx Token.isEof)).kind = .eof ∧
    (tokenAt tokens (tokens.findIdx Token.isEof)).start = endOf tokens := by
  have hfind : tokens.find? Token.isEof = tokens[tokens.findIdx Token.isEof]? := List.find?_eq_getElem?_findIdx
  rw [tokenAt, endOf, hfind]
  cases hmark : tokens[tokens.findIdx Token.isEof]? with
  | none => exact ⟨rfl, rfl⟩
  | some t =>
    rw [hmark] at hfind
    exact ⟨by simpa [Token.isEof] using List.find?_some hfind, rfl⟩

namespace Reader

/-- What is wrong with a token, or with the end, that comes next. -/
def blame (r : Reader) : Token.Kind → SyntaxError.Kind
  | .eof => r.unfinished
  | kind => r.refuse kind

theorem blame_of_ne (r : Reader) {kind : Token.Kind} (h : kind ≠ .eof) : r.blame kind = r.refuse kind := by
  unfold blame
  split
  · exact absurd rfl h
  · rfl

/-- A statement or a closing quote has to come next. -/
def InQuotes (r : Reader) : Prop := r.awaited = .statement ∧ ∃ n body outer, r.loops = .quoted n body :: outer

/-- A token is malformed, closes quotes without statements, is no color or ends the input inside quotes; otherwise
    something else was expected. -/
theorem blame_cases (r : Reader) (kind : Token.Kind) :
    (∃ cause, kind = .error cause ∧ r.blame kind = .lexical cause) ∨
    (kind = .quote ∧ r.InQuotes ∧ r.blame kind = .emptyLoop) ∨
    (∃ literal, kind = .hex literal ∧ r.awaited = .color ∧ r.blame kind = .invalidColor literal) ∨
    (kind = .eof ∧ r.InQuotes ∧ r.blame kind = .unterminatedLoop) ∨
    (kind.error? = none ∧ (kind = .quote ∨ kind = .eof → ¬r.InQuotes) ∧
      (∀ literal, kind = .hex literal → r.awaited ≠ .color) ∧
      ((∃ expectation, r.blame kind = .expected expectation kind.label) ∨
        r.blame kind = .expectedStatement kind.label)) := by
  obtain ⟨awaited, loops, done⟩ := r
  rcases loops with _ | ⟨_ | _, outer⟩ <;> cases awaited <;> cases kind <;>
    simp [blame, refuse, unfinished, InQuotes, Token.Kind.error?]

/-- Four kinds of errors tell the token and where the reader stands. -/
theorem blame_iff (r : Reader) (kind : Token.Kind) :
    (∀ l, r.blame kind = .lexical l ↔ kind = .error l) ∧
    (r.blame kind = .emptyLoop ↔ kind = .quote ∧ r.InQuotes) ∧
    (∀ literal, r.blame kind = .invalidColor literal ↔ kind = .hex literal ∧ r.awaited = .color) ∧
    (r.blame kind = .unterminatedLoop ↔ kind = .eof ∧ r.InQuotes) := by
  rcases r.blame_cases kind with ⟨cause, rfl, hb⟩ | ⟨rfl, hq, hb⟩ | ⟨literal, rfl, hc, hb⟩ | ⟨rfl, hq, hb⟩ |
    ⟨hkind, hq, hc, hb⟩
  · simp [hb]
  · simp [hb, hq]
  · simp [hb, hc]
  · simp [hb, hq]
  · have hlexical : ∀ l, kind ≠ .error l := by
      rintro l rfl
      cases hkind
    have hquote : ¬(kind = .quote ∧ r.InQuotes) := fun h => hq (Or.inl h.1) h.2
    have hcolor : ∀ literal, ¬(kind = .hex literal ∧ r.awaited = .color) := fun literal h => hc literal h.1 h.2
    have heof : ¬(kind = .eof ∧ r.InQuotes) := fun h => hq (Or.inr h.1) h.2
    rcases hb with ⟨_, hb⟩ | hb <;> simp only [hb, hlexical, hquote, hcolor, heof, reduceCtorEq, implies_true, and_self]

/-! ### The last tokens -/

theorem takeAll?_concat {r last : Reader} {kinds : List Token.Kind} {kind : Token.Kind} :
    r.takeAll? (kinds ++ [kind]) = some last ↔ ∃ next, r.takeAll? kinds = some next ∧ Takes next kind last := by
  rw [takeAll?_append, Option.bind_eq_some_iff]
  refine exists_congr fun next => and_congr_right fun _ => ?_
  rw [takeAll?_cons, ← take?_eq_some_iff]
  cases next.take? kind <;> rfl

/-- Behind a complete statement, another one or a closing quote may come, and no bare loop is open. -/
theorem put_cases (done : List Statement) (s : Statement) (loops : List OpenLoop) :
    (∃ p, (put done s loops).result? = some p) ∨ (put done s loops).InQuotes := by
  induction loops generalizing s with
  | nil => exact Or.inl ⟨_, rfl⟩
  | cons l outer ih =>
    cases l with
    | bare n => exact ih _
    | quoted n body => exact Or.inr ⟨rfl, n, s :: body, outer, rfl⟩

section
variable {r : Reader} {kinds : List Token.Kind} (h : start.takeAll? kinds = some r)
include h

theorem awaited_of_color (hlast : [.keyword .color] <:+ kinds) : r.awaited = .color := by
  obtain ⟨front, rfl⟩ := hlast
  obtain ⟨next, -, ht⟩ := takeAll?_concat.mp h
  cases ht <;> rfl

theorem color_of_awaited (hcolor : r.awaited = .color) : [.keyword .color] <:+ kinds := by
  have hread := Read.start.takeAll h
  rw [List.nil_append] at hread
  cases hread with
  | mk hd ho hp =>
    cases hcolor
    cases hp
    exact ⟨_, rfl⟩

theorem inQuotes_of_opened {n : UInt32} (hlast : [.keyword .rep, .number n, .quote] <:+ kinds) : r.InQuotes := by
  obtain ⟨front, rfl⟩ := hlast
  have hsplit : front ++ [.keyword .rep, .number n, .quote] = front ++ [.keyword .rep] ++ [.number n] ++ [.quote] := by
    simp
  rw [hsplit] at h
  obtain ⟨third, h, hquote⟩ := takeAll?_concat.mp h
  obtain ⟨second, h, hnumber⟩ := takeAll?_concat.mp h
  obtain ⟨first, -, hrep⟩ := takeAll?_concat.mp h
  -- A loop keyword has its count behind it, whether it starts a statement or a bare body.
  have hcount : second.awaited = .count := by cases hrep <;> rfl
  cases hnumber with
  | number => cases hcount
  | count =>
    cases hquote
    exact ⟨rfl, _, _, _, rfl⟩

/-- Quotes without statements have just been opened. -/
theorem opened_of_nil {n : UInt32} {outer : List OpenLoop} (hawaited : r.awaited = .statement)
    (hloops : r.loops = .quoted n [] :: outer) : [.keyword .rep, .number n, .quote] <:+ kinds := by
  have hread := Read.start.takeAll h
  rw [List.nil_append] at hread
  cases hread with
  | @mk _ _ _ a _ _ hd ho hp =>
    cases hawaited
    cases hloops
    cases hp
    cases ho with
    | @quoted _ kinds _ _ _ ho hb =>
      cases hb
      exact ⟨a ++ kinds, by simp⟩

/-- Behind a period or a quote the input may end, or it goes on inside quotes. -/
theorem inQuotes_of_ending {kind : Token.Kind} (hkind : kind ∈ [.period, .quote]) (hlast : [kind] <:+ kinds)
    (hp : r.result? = none) : r.InQuotes := by
  have hput : ∀ done s loops, r = put done s loops → r.InQuotes := by
    rintro done s loops rfl
    rcases put_cases done s loops with ⟨p, hsome⟩ | hquotes
    · rw [hp] at hsome
      cases hsome
    · exact hquotes
  obtain ⟨front, rfl⟩ := hlast
  obtain ⟨next, -, ht⟩ := takeAll?_concat.mp h
  cases ht with
  | period => exact hput _ _ _ rfl
  | close => exact hput _ _ _ rfl
  | quote => exact ⟨rfl, _, _, _, rfl⟩
  | _ => simp at hkind

theorem ending_of_inQuotes (hquotes : r.InQuotes) : ∃ kind ∈ [.period, .quote], [kind] <:+ kinds := by
  obtain ⟨hawaited, n, body, outer, hloops⟩ := hquotes
  rcases List.eq_nil_or_concat kinds with rfl | ⟨front, kind, rfl⟩
  · cases h
    cases hloops
  · rw [List.concat_eq_append] at h ⊢
    obtain ⟨next, -, ht⟩ := takeAll?_concat.mp h
    refine ⟨kind, ?_, front, rfl⟩
    cases ht with
    | period | quote | close => simp
    | word k | bare k => cases k <;> cases hawaited
    | number | color | count => cases hawaited

end

/-! ### Closing quotes -/

/-- Behind a complete statement, quotes alone complete the program. -/
theorem exists_quotes_put (done : List Statement) (s : Statement) (loops : List OpenLoop) :
    ∃ m last p, (put done s loops).takeAll? (List.replicate m .quote) = some last ∧ last.result? = some p := by
  induction loops generalizing s with
  | nil => exact ⟨0, _, _, rfl, rfl⟩
  | cons l outer ih =>
    cases l with
    | bare n => exact ih _
    | quoted n body =>
      obtain ⟨m, last, p, hl, hp⟩ := ih (.loop n (s :: body).reverse)
      refine ⟨m + 1, last, p, ?_, hp⟩
      rw [List.replicate_succ, put_quoted, takeAll?_cons_of_takes (.close (List.cons_ne_nil s body)), hl]

/-- Inside quotes, one statement and at least one quote complete the program. -/
theorem InQuotes.exists_quotes {r : Reader} (h : r.InQuotes) : ∃ m last p, 1 ≤ m ∧
    r.takeAll? ([.keyword .down, .period] ++ List.replicate m .quote) = some last ∧ last.result? = some p := by
  obtain ⟨awaited, loops, done⟩ := r
  obtain ⟨hawaited, n, body, outer, hloops⟩ := h
  cases hawaited
  cases hloops
  obtain ⟨m, last, p, hl, hp⟩ := exists_quotes_put done (.loop n (.pen true :: body).reverse) outer
  refine ⟨m + 1, last, p, by omega, ?_, hp⟩
  rw [List.cons_append, List.cons_append, List.nil_append, takeAll?_cons_of_takes (.word .down), awaitedAfter,
    takeAll?_cons_of_takes .period, put_quoted, List.replicate_succ,
    takeAll?_cons_of_takes (.close (List.cons_ne_nil _ body)), hl]

end Reader

/-! ### What the kind of an error tells -/

/-- What the kind of an error tells of the token `t` behind the tokens `before` it. -/
structure Tells (tokens before : List Token) (t : Token) (cause : SyntaxError.Kind) : Prop where
  lexical : ∀ l, cause = .lexical l ↔ t.kind = .error l
  -- no malformed token comes before the one that is told
  first : ∀ l, cause = .lexical l → tokens.findIdx (·.kind.error?.isSome) = before.length
  emptyLoop : cause = .emptyLoop ↔
    t.kind = .quote ∧ ∃ n, [.keyword .rep, .number n, .quote] <:+ before.map Token.kind
  invalidColor : ∀ literal, cause = .invalidColor literal ↔
    t.kind = .hex literal ∧ Color.ofText? literal = none ∧ [.keyword .color] <:+ before.map Token.kind
  unterminatedLoop : cause = .unterminatedLoop ↔
    t.kind = .eof ∧ (∃ kind ∈ [.period, .quote], [kind] <:+ before.map Token.kind) ∧
      ∃ m p, 1 ≤ m ∧ ∀ more : List Token, more.map Token.kind = [.keyword .down, .period] ++ List.replicate m .quote →
        ofTokens (before ++ more) = .ok p
  -- all other errors name what they found
  found : (∀ l, cause ≠ .lexical l) → cause ≠ .emptyLoop → (∀ literal, cause ≠ .invalidColor literal) →
    cause ≠ .unterminatedLoop →
      (∃ expectation, cause = .expected expectation t.kind.label) ∨ cause = .expectedStatement t.kind.label

/-- An error is told of the token at fault, with what is wrong with it where the reader stands. -/
theorem exists_blame_of_error {tokens : List Token} {e : SyntaxError} (h : ofTokens tokens = .error e) :
    ∃ k r, Offends tokens k ∧ Reader.start.takeAll? ((tokens.take k).map Token.kind) = some r ∧
      r.take? (tokenAt tokens k).kind = none ∧ ((tokenAt tokens k).kind = .eof → r.result? = none) ∧
      e = ⟨r.blame (tokenAt tokens k).kind, (tokenAt tokens k).start⟩ := by
  rcases ofTokens_error_cases h with ⟨taken, t, rest, next, rfl, hend, hn, ht, rfl⟩ | ⟨last, hl, hp, rfl⟩
  · have htake : (taken ++ t :: rest).take taken.length = taken := List.take_left
    have hat : tokenAt (taken ++ t :: rest) taken.length = t := by simp [tokenAt]
    refine ⟨taken.length, next, ⟨?_, ?_, fun _ more p => ?_⟩, by rw [htake, hn], by rw [hat, ht], ?_, ?_⟩
    · rw [← length_beforeEnd, beforeEnd_append_cons hn hend, List.length_append]
      omega
    · rw [htake]
      exact exists_ofTokens_append_eq_ok hn
    · rw [List.take_length_add_append, List.take_succ_cons, List.take_zero, ← List.append_cons,
        ofTokens_append_refused hn ht hend]
      exact nofun
    · rw [hat]
      exact fun heof => absurd heof hend
    · rw [hat, next.blame_of_ne hend]
  · -- All tokens that count are taken, so it is the end that is at fault.
    obtain ⟨hkind, hstart⟩ := tokenAt_end tokens
    rw [beforeEnd_eq_take] at hl
    refine ⟨_, last, ⟨Nat.le_refl _, exists_ofTokens_append_eq_ok hl, fun hlt => absurd hlt (Nat.lt_irrefl _)⟩, hl, ?_,
      fun _ => hp, ?_⟩
    · rw [hkind]
      exact Option.eq_none_iff_forall_ne_some.mpr fun _ htaken => nomatch Reader.take?_eq_some_iff.mp htaken
    · rw [hkind, hstart]
      rfl

theorem findIdx_error {tokens : List Token} {k : Nat} {t : Token} {l : LexicalError} (ht : tokens[k]? = some t)
    (hl : t.kind = .error l) (hbefore : ∀ kind ∈ (tokens.take k).map Token.kind, kind.error? = none) :
    tokens.findIdx (·.kind.error?.isSome) = (tokens.take k).length := by
  obtain ⟨hlt, rfl⟩ := List.getElem?_eq_some_iff.mp ht
  rw [List.length_take, Nat.min_eq_left (Nat.le_of_lt hlt), List.findIdx_eq hlt]
  refine ⟨by rw [hl]; rfl, fun j hj => ?_⟩
  have hmem : tokens[j].kind ∈ (tokens.take k).map Token.kind :=
    List.mem_map_of_mem (List.mem_take_iff_getElem.mpr ⟨j, by omega, rfl⟩)
  rw [hbefore _ hmem]
  rfl

theorem tells_blame {tokens : List Token} {k : Nat} {r : Reader}
    (h : Reader.start.takeAll? ((tokens.take k).map Token.kind) = some r)
    (ht : r.take? (tokenAt tokens k).kind = none) (hend : (tokenAt tokens k).kind = .eof → r.result? = none) :
    Tells tokens (tokens.take k) (tokenAt tokens k) (r.blame (tokenAt tokens k).kind) := by
  obtain ⟨hlexical, hempty, hinvalid, hunterminated⟩ := r.blame_iff (tokenAt tokens k).kind
  refine ⟨hlexical, fun l hl => ?first, ?emptyLoop, fun literal => ?invalidColor, ?unterminatedLoop, ?found⟩
  case first =>
    have hkind := (hlexical l).mp hl
    have hat : tokens[k]? = some (tokenAt tokens k) := by
      rw [tokenAt] at hkind ⊢
      cases hk : tokens[k]? with
      | none =>
        rw [hk] at hkind
        cases hkind
      | some t => rfl
    exact findIdx_error hat hkind (Reader.error?_of_takeAll? h)
  case emptyLoop =>
    rw [hempty]
    refine and_congr_right fun hquote => ⟨fun hq => ?_, fun ⟨n, hlast⟩ => Reader.inQuotes_of_opened h hlast⟩
    -- A quote that is not taken here closes nothing, so no statement has come behind the opening quote.
    obtain ⟨hawaited, n, body, outer, hloops⟩ := hq
    cases body with
    | nil => exact ⟨n, Reader.opened_of_nil h hawaited hloops⟩
    | cons s body =>
      obtain ⟨awaited, loops, done⟩ := r
      cases hawaited
      cases hloops
      rw [hquote] at ht
      cases ht
  case invalidColor =>
    rw [hinvalid]
    refine and_congr_right fun hhex => ⟨fun hcolor => ⟨?_, Reader.color_of_awaited h hcolor⟩,
      fun ⟨_, hlast⟩ => Reader.awaited_of_color h hlast⟩
    obtain ⟨awaited, loops, done⟩ := r
    cases hcolor
    rw [hhex] at ht
    exact Option.map_eq_none_iff.mp ht
  case unterminatedLoop =>
    rw [hunterminated]
    refine and_congr_right fun heof => ⟨fun hq => ⟨Reader.ending_of_inQuotes h hq, ?_⟩,
      fun ⟨⟨kind, hkind, hlast⟩, _⟩ => Reader.inQuotes_of_ending h hkind hlast (hend heof)⟩
    obtain ⟨m, last, p, hm, hl, hp⟩ := hq.exists_quotes
    exact ⟨m, p, hm, fun more hmore => ofTokens_append_eq_ok h (hmore ▸ hl) hp⟩
  case found =>
    intro hlexical hempty hcolor hunterminated
    rcases r.blame_cases (tokenAt tokens k).kind with ⟨l, -, hb⟩ | ⟨-, -, hb⟩ | ⟨literal, -, -, hb⟩ | ⟨-, -, hb⟩ |
      ⟨-, -, -, hb⟩
    · exact absurd hb (hlexical l)
    · exact absurd hb hempty
    · exact absurd hb (hcolor literal)
    · exact absurd hb hunterminated
    · exact hb

/-- An error is told of the one token at fault, and its kind tells what stood there. Tokens with a malformed one among
    those that count are no program. -/
theorem ofTokens_error_tells :
    (∀ (tokens : List Token) (e : SyntaxError), ofTokens tokens = .error e →
      (∃ k, Offends tokens k) ∧ ∀ k, Offends tokens k →
        e.position = (tokenAt tokens k).start ∧ Tells tokens (tokens.take k) (tokenAt tokens k) e.kind) ∧
    ∀ tokens : List Token, (∃ t ∈ beforeEnd tokens, ∃ l, t.kind = .error l) → ∀ p, ofTokens tokens ≠ .ok p := by
  constructor
  · intro tokens e h
    obtain ⟨k, r, hk, hr, ht, hend, rfl⟩ := exists_blame_of_error h
    refine ⟨⟨k, hk⟩, fun j hj => ?_⟩
    cases Nat.le_antisymm (hj.le hk) (hk.le hj)
    exact ⟨rfl, tells_blame hr ht hend⟩
  · rintro tokens ⟨t, ht, l, hl⟩ p hok
    obtain ⟨last, hlast, -⟩ := ofTokens_eq_ok_iff.mp hok
    have hnone := Reader.error?_of_takeAll? hlast _ (List.mem_map_of_mem ht)
    rw [hl] at hnone
    cases hnone

/-- Quotes in a bare loop in quotes, both of them open at the end, and a malformed token behind a quote. -/
theorem ofTokens_error_tells_open_quotes :
    let place : Token.Kind → Token := fun kind => ⟨kind, .start, .start⟩
    let tokens : List Token := [.keyword .rep, .number 2, .quote, .keyword .down, .period, .keyword .rep, .number 3,
      .keyword .rep, .number 4, .quote, .keyword .up, .period].map place
    ofTokens tokens = .error ⟨.unterminatedLoop, .start⟩ ∧
    (∃ k, Offends tokens k ∧ (tokenAt tokens k).kind = .eof ∧ ∃ m p, 1 ≤ m ∧ ∀ more : List Token,
      more.map Token.kind = [.keyword .down, .period] ++ List.replicate m .quote →
      ofTokens (tokens.take k ++ more) = .ok p) ∧
    ∀ p, ofTokens ([.keyword .rep, .number 2, .quote, .error .zeroNumber, .eof].map place) ≠ .ok p := by
  intro place tokens
  have h : ofTokens tokens = .error ⟨.unterminatedLoop, .start⟩ := by
    rw [ofTokens_eq_run]
    rfl
  obtain ⟨⟨k, hk⟩, htells⟩ := ofTokens_error_tells.1 tokens _ h
  obtain ⟨heof, -, hquotes⟩ := (htells k hk).2.unterminatedLoop.mp rfl
  have hmem : place (.error .zeroNumber) ∈
      beforeEnd ([.keyword .rep, .number 2, .quote, .error .zeroNumber, .eof].map place) := by
    simp [beforeEnd, place, Token.isEof]
  exact ⟨h, ⟨k, hk, heof, hquotes⟩, ofTokens_error_tells.2 _ ⟨_, hmem, .zeroNumber, rfl⟩⟩

end TurtleGraphics.Program
