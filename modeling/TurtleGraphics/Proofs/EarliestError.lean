import TurtleGraphics.Proofs.Reader

/-! # Errors are told at the earliest token

A reader can be brought to the end of a program from wherever it stands (`Reader.viable`): a statement is completed,
and every loop in quotes is closed. So the tokens that have been taken start some program, and the token that
is refused is the first one with which they start none. What comes behind it is not looked at. -/

namespace TurtleGraphics.Program

namespace Reader

/-- There are tokens that complete a program from here. -/
def Viable (r : Reader) : Prop :=
  ∃ kinds last p, r.takeAll? kinds = some last ∧ last.result? = some p

theorem Viable.of_takes {r next : Reader} {kind : Token.Kind} (ht : Takes r kind next) (h : Viable next) :
    Viable r := by
  obtain ⟨kinds, last, p, hl, hp⟩ := h
  exact ⟨kind :: kinds, last, p, by rw [takeAll?_cons_of_takes ht, hl], hp⟩

theorem viable_put (loops : List OpenLoop) (done : List Statement) (s : Statement) : Viable (put done s loops) := by
  induction loops generalizing s with
  | nil => exact ⟨[], _, _, rfl, rfl⟩
  | cons l outer ih =>
    cases l with
    | bare n => exact ih (.loop n [s])
    | quoted n body => exact .of_takes (.close (List.cons_ne_nil s body)) (ih _)

theorem viable_period (s : Statement) (loops : List OpenLoop) (done : List Statement) :
    Viable ⟨.period s, loops, done⟩ :=
  .of_takes .period (viable_put loops done s)

/-- Every reader can be brought to the end of a program. -/
theorem viable (r : Reader) : Viable r := by
  obtain ⟨awaited, loops, done⟩ := r
  cases awaited with
  | statement => exact .of_takes (.word .down) (viable_period _ _ _)
  | number make => exact .of_takes (.number 1) (viable_period _ _ _)
  | color => exact .of_takes (.color (Color.ofText?_text .initial)) (viable_period _ _ _)
  | period s => exact viable_period s loops done
  | count => exact .of_takes (.count 1) (.of_takes (.bare .down) (viable_period _ _ _))
  | body n => exact .of_takes (.bare .down) (viable_period _ _ _)

theorem eof_notMem_of_takeAll? {r last : Reader} {kinds : List Token.Kind} (h : r.takeAll? kinds = some last) :
    Token.Kind.eof ∉ kinds := by
  intro hk
  obtain ⟨_, _, ht⟩ := exists_takes_of_mem h hk
  cases ht

end Reader

/-! ### Where the tokens end -/

theorem eof_notMem_beforeEnd (tokens : List Token) : Token.Kind.eof ∉ (beforeEnd tokens).map Token.kind := by
  intro h
  obtain ⟨t, ht, hk⟩ := List.mem_map.mp h
  have := List.all_eq_true.mp List.all_takeWhile t ht
  simp [Token.isEof, hk] at this

theorem beforeEnd_eq_take (tokens : List Token) : beforeEnd tokens = tokens.take (tokens.findIdx Token.isEof) := by
  rw [beforeEnd, List.takeWhile_eq_take_findIdx_not]
  simp only [Bool.not_not]

theorem length_beforeEnd (tokens : List Token) : (beforeEnd tokens).length = tokens.findIdx Token.isEof := by
  rw [beforeEnd_eq_take, List.length_take, Nat.min_eq_left List.findIdx_le_length]

/-- The end of the input is told at the first end marker, or at the last token if there is none. -/
theorem endOf_eq {tokens : List Token} (h : tokens ≠ []) :
    (tokens[tokens.findIdx Token.isEof]?.or tokens.getLast?).map Token.start = some (endOf tokens) := by
  rw [endOf, List.find?_eq_getElem?_findIdx, List.getLast?_eq_some_getLast h]
  cases tokens[tokens.findIdx Token.isEof]? <;> rfl

/-! ### What an error says -/

/-- An error is told of the first token that is not taken or, if all are taken, of the end. -/
theorem ofTokens_error_cases {tokens : List Token} {e : SyntaxError} (h : ofTokens tokens = .error e) :
    (∃ taken t rest next, tokens = taken ++ t :: rest ∧ t.kind ≠ .eof ∧
      Reader.start.takeAll? (taken.map Token.kind) = some next ∧ next.take? t.kind = none ∧
      e = ⟨next.refuse t.kind, t.start⟩) ∨
    ∃ last, Reader.start.takeAll? ((beforeEnd tokens).map Token.kind) = some last ∧ last.result? = none ∧
      e = ⟨last.unfinished, endOf tokens⟩ := by
  rw [ofTokens_eq_run] at h
  rcases Reader.takeAll?_or_refused .start (beforeEnd tokens) with ⟨last, hl⟩ | ⟨taken, t, rest, next, heq, hn, ht⟩
  · rw [Reader.run_of_takeAll? hl] at h
    cases hp : last.result? with
    | some p => simp [Reader.run, hp] at h
    | none => exact Or.inr ⟨last, hl, hp, by simpa [Reader.run, hp] using h.symm⟩
  · rw [heq, Reader.run_append hn, Reader.run_refused ht] at h
    have hend : t.kind ≠ .eof := by
      intro hk
      have heof := eof_notMem_beforeEnd tokens
      simp [heq, hk] at heof
    have htokens : tokens = taken ++ t :: (rest ++ tokens.drop (tokens.findIdx Token.isEof)) := by
      rw [← List.cons_append, ← List.append_assoc, ← heq, beforeEnd_eq_take, List.take_append_drop]
    exact Or.inl ⟨taken, t, _, next, htokens, hend, hn, ht, (Except.error.inj h).symm⟩

section
variable {taken : List Token} {next : Reader} (hn : Reader.start.takeAll? (taken.map Token.kind) = some next)
include hn

theorem beforeEnd_of_takeAll? : beforeEnd taken = taken := by
  have h := @beforeEnd_append taken [] (Reader.eof_notMem_of_takeAll? hn)
  simpa using h

theorem ofTokens_append_eq_ok {more : List Token} {last : Reader} {p : Program}
    (hl : next.takeAll? (more.map Token.kind) = some last) (hp : last.result? = some p) :
    ofTokens (taken ++ more) = .ok p := by
  have hall : Reader.start.takeAll? ((taken ++ more).map Token.kind) = some last := by
    rw [List.map_append, Reader.takeAll?_append, hn, Option.bind_some, hl]
  exact ofTokens_eq_ok_iff.mpr ⟨last, by rw [beforeEnd_of_takeAll? hall, hall], hp⟩

theorem exists_ofTokens_append_eq_ok : ∃ more p, ofTokens (taken ++ more) = .ok p := by
  obtain ⟨kinds, last, p, hl, hp⟩ := next.viable
  let more : List Token := kinds.map fun kind => ⟨kind, .start, .start⟩
  have hmore : more.map Token.kind = kinds := by simp [more, Function.comp_def]
  exact ⟨more, p, ofTokens_append_eq_ok hn (hmore ▸ hl) hp⟩

theorem beforeEnd_append_cons {t : Token} (hend : t.kind ≠ .eof) (more : List Token) :
    beforeEnd (taken ++ t :: more) = taken ++ t :: beforeEnd more := by
  have heof : Token.Kind.eof ∉ (taken ++ [t]).map Token.kind := by
    simpa [hend.symm] using Reader.eof_notMem_of_takeAll? hn
  rw [List.append_cons, beforeEnd_append heof, ← List.append_cons]

theorem ofTokens_append_refused {t : Token} (ht : next.take? t.kind = none) (hend : t.kind ≠ .eof)
    (more : List Token) : ofTokens (taken ++ t :: more) = .error ⟨next.refuse t.kind, t.start⟩ := by
  rw [ofTokens_eq_run, beforeEnd_append_cons hn hend, Reader.run_append hn]
  exact Reader.run_refused ht

theorem ofTokens_ne_ok (hp : next.result? = none) (p : Program) : ofTokens taken ≠ .ok p := by
  intro hok
  obtain ⟨last, hl, hp'⟩ := ofTokens_eq_ok_iff.mp hok
  rw [beforeEnd_of_takeAll? hn, hn] at hl
  cases hl
  rw [hp] at hp'
  cases hp'

end

/-- An error stands at token `k` or, for `k = m`, at the end of the input. The tokens before it start some program.
    With a token `k` that counts they start none, and the error is the same whatever comes behind; at the end, they
    are no program themselves. -/
theorem ofTokens_error_earliest {tokens : List Token} {e : SyntaxError} (h : ofTokens tokens = .error e) :
    let m := tokens.findIdx Token.isEof
    ∃ k ≤ m, (tokens[k]?.or tokens.getLast?).map Token.start = some e.position ∧
      (∃ more p, ofTokens (tokens.take k ++ more) = .ok p) ∧
      (k < m → ∀ other, tokens.take (k + 1) <+: other → ofTokens other = .error e ∧ ∀ p, ofTokens other ≠ .ok p) ∧
      (k = m → ∀ p, ofTokens (tokens.take m) ≠ .ok p) := by
  intro m
  rcases ofTokens_error_cases h with ⟨taken, t, rest, next, rfl, hend, hn, ht, rfl⟩ | ⟨last, hl, hp, rfl⟩
  · -- The reader refuses a token, and so it does before any other tokens.
    have hlt : taken.length < m := by
      have hlen := length_beforeEnd (taken ++ t :: rest)
      rw [beforeEnd_append_cons hn hend, List.length_append, List.length_cons] at hlen
      omega
    refine ⟨taken.length, Nat.le_of_lt hlt, by simp, ?_, ?_, fun hk => absurd hk (Nat.ne_of_lt hlt)⟩
    · rw [List.take_left]
      exact exists_ofTokens_append_eq_ok hn
    · rintro - other ⟨more, rfl⟩
      have hother : (taken ++ t :: rest).take (taken.length + 1) ++ more = taken ++ t :: more := by
        rw [List.take_length_add_append, List.take_succ_cons, List.take_zero, ← List.append_cons]
      rw [hother, ofTokens_append_refused hn ht hend]
      exact ⟨rfl, fun p hok => by cases hok⟩
  · -- The reader takes all tokens that count, but not the end.
    have hne : tokens ≠ [] := by
      rintro rfl
      cases hl
      cases hp
    rw [beforeEnd_eq_take] at hl
    exact ⟨m, Nat.le_refl m, endOf_eq hne, exists_ofTokens_append_eq_ok hl, fun hlt => absurd hlt (Nat.lt_irrefl m),
      fun _ p => ofTokens_ne_ok hl hp p⟩

/-- A body without statements is refused at its second quote, although a program may go on with the first one. -/
theorem ofTokens_emptyLoop_earliest :
    let tokens : List Token := [⟨.keyword .rep, ⟨0, 1, 1⟩, ⟨3, 1, 4⟩⟩, ⟨.number 2, ⟨4, 1, 5⟩, ⟨5, 1, 6⟩⟩,
      ⟨.quote, ⟨6, 1, 7⟩, ⟨7, 1, 8⟩⟩, ⟨.quote, ⟨8, 2, 1⟩, ⟨9, 2, 2⟩⟩, ⟨.eof, ⟨8, 2, 1⟩, ⟨8, 2, 1⟩⟩]
    ofTokens tokens = .error ⟨.emptyLoop, ⟨8, 2, 1⟩⟩ ∧
    ∃ k ≤ 4, (tokens[k]?.or tokens.getLast?).map Token.start = some ⟨8, 2, 1⟩ ∧
      (∃ more p, ofTokens (tokens.take k ++ more) = .ok p) ∧
      (k < 4 → ∀ other, tokens.take (k + 1) <+: other → ofTokens other = .error ⟨.emptyLoop, ⟨8, 2, 1⟩⟩) ∧
      (k = 4 → ∀ p, ofTokens (tokens.take 4) ≠ .ok p) := by
  intro tokens
  have h : ofTokens tokens = .error ⟨.emptyLoop, ⟨8, 2, 1⟩⟩ := by
    rw [ofTokens_eq_run]
    rfl
  obtain ⟨k, hk, hpos, hmore, hsame, hnone⟩ := ofTokens_error_earliest h
  exact ⟨h, k, hk, hpos, hmore, fun hlt other ho => (hsame hlt other ho).1, hnone⟩

end TurtleGraphics.Program
