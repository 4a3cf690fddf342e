import TurtleGraphics.Proofs.Lexemes
import TurtleGraphics.Proofs.Reader

/-! # What reading comes to

The kinds of the tokens alone decide whether a text is a program, and otherwise what is wrong and which token that
is told of (`Reader.verdict`). Statements that are complete have no part in what comes next (`Reader.verdict_since`).
Positions only say where the token stands (`parse_eq_error_iff`). -/

namespace TurtleGraphics.Program

/-- What is wrong with a list of tokens, and how many of them come before. -/
structure Fault where
  index : Nat
  cause : SyntaxError.Kind

/-- The same fault behind `n` more tokens. -/
def Fault.behind (n : Nat) (f : Fault) : Fault := ⟨n + f.index, f.cause⟩

namespace Reader

/-- What reading comes to. -/
def verdict (r : Reader) : List Token.Kind → Except Fault Program
  | [] => match r.result? with
    | some p => .ok p
    | none => .error ⟨0, r.unfinished⟩
  | kind :: kinds => match r.take? kind with
    | some next => (next.verdict kinds).mapError (Fault.behind 1)
    | none => .error ⟨0, r.refuse kind⟩

section
variable {r next : Reader} {kind : Token.Kind} {kinds : List Token.Kind}

theorem verdict_of_take? (h : r.take? kind = some next) :
    r.verdict (kind :: kinds) = (next.verdict kinds).mapError (Fault.behind 1) := by
  rw [verdict, h]

theorem verdict_of_refused (h : r.take? kind = none) : r.verdict (kind :: kinds) = .error ⟨0, r.refuse kind⟩ := by
  rw [verdict, h]

theorem verdict_of_takeAll? {taken : List Token.Kind} (h : r.takeAll? taken = some next) :
    r.verdict (taken ++ kinds) = (next.verdict kinds).mapError (Fault.behind taken.length) := by
  induction taken generalizing r with
  | nil =>
    cases h
    rw [List.nil_append]
    cases next.verdict kinds <;> simp [Except.mapError, Fault.behind]
  | cons kind taken ih =>
    rw [takeAll?_cons] at h
    obtain ⟨r', hr', h⟩ := Option.bind_eq_some_iff.mp h
    rw [List.cons_append, verdict_of_take? hr', ih h]
    cases next.verdict kinds <;> simp [Except.mapError, Fault.behind, Nat.add_assoc, Nat.add_comm]

/-- A fault stands at one of the tokens or behind them all. -/
theorem index_le_of_verdict {f : Fault} (h : r.verdict kinds = .error f) : f.index ≤ kinds.length := by
  induction kinds generalizing r f with
  | nil =>
    rw [verdict] at h
    split at h
    · cases h
    · cases h
      exact Nat.le_refl 0
  | cons kind kinds ih =>
    cases ht : r.take? kind with
    | none =>
      rw [verdict_of_refused ht] at h
      cases h
      exact Nat.zero_le _
    | some next =>
      rw [verdict_of_take? ht] at h
      cases hv : next.verdict kinds with
      | ok p =>
        rw [hv] at h
        cases h
      | error f' =>
        rw [hv] at h
        cases h
        have hle := ih hv
        simp only [Fault.behind, List.length_cons]
        omega

theorem run_eq_verdict (finish : Position) (r : Reader) (tokens : List Token) :
    run finish r tokens = (r.verdict (tokens.map Token.kind)).mapError fun f =>
      ⟨f.cause, (tokens[f.index]?.map Token.start).getD finish⟩ := by
  induction tokens generalizing r with
  | nil =>
    rw [run, List.map_nil, verdict]
    cases r.result? <;> rfl
  | cons t tokens ih =>
    rw [List.map_cons]
    cases ht : r.take? t.kind with
    | none =>
      rw [run_refused ht, verdict_of_refused ht]
      rfl
    | some next =>
      have hrun : run finish r (t :: tokens) = run finish next tokens := by simp only [run, ht]
      rw [hrun, verdict_of_take? ht, ih next]
      cases next.verdict (tokens.map Token.kind) <;> simp [Except.mapError, Fault.behind, Nat.add_comm 1]

end

/-! ### What has been read before -/

/-- The reader that also holds earlier statements, the last of them first. -/
def since (earlier : List Statement) (r : Reader) : Reader := { r with done := r.done ++ earlier }

section
variable (earlier : List Statement) (r : Reader)

theorem put_since (done : List Statement) (s : Statement) (loops : List OpenLoop) :
    put (done ++ earlier) s loops = (put done s loops).since earlier := by
  induction loops generalizing s with
  | nil => rfl
  | cons l outer ih =>
    cases l with
    | bare n => exact ih _
    | quoted n body => rfl

theorem take?_since (kind : Token.Kind) : (r.since earlier).take? kind = (r.take? kind).map (since earlier) := by
  obtain ⟨awaited, loops, done⟩ := r
  cases awaited with
  | statement =>
    cases kind with
    | quote =>
      rcases loops with _ | ⟨_ | ⟨n, _ | ⟨s, body⟩⟩, outer⟩
      · rfl
      · rfl
      · rfl
      · exact congrArg some (put_since earlier done _ outer)
    | _ => rfl
  | color =>
    cases kind with
    | hex literal =>
      simp only [since, take?]
      cases Color.ofText? literal <;> rfl
    | _ => rfl
  | period s =>
    cases kind with
    | period => exact congrArg some (put_since earlier done s loops)
    | _ => rfl
  | number | count | body => cases kind <;> rfl

theorem refuse_since (kind : Token.Kind) : (r.since earlier).refuse kind = r.refuse kind := by
  obtain ⟨awaited, loops, done⟩ := r
  rcases loops with _ | ⟨_ | _, outer⟩ <;> cases awaited <;> cases kind <;> rfl

theorem unfinished_since : (r.since earlier).unfinished = r.unfinished := by
  obtain ⟨awaited, loops, done⟩ := r
  rcases loops with _ | ⟨_ | _, outer⟩ <;> cases awaited <;> rfl

theorem result?_since :
    (r.since earlier).result? = r.result?.map fun p => ⟨earlier.reverse ++ p.statements⟩ := by
  obtain ⟨awaited, loops, done⟩ := r
  cases awaited with
  | statement =>
    cases loops with
    | nil => simp [since, result?]
    | cons l outer => rfl
  | _ => rfl

theorem verdict_since (kinds : List Token.Kind) :
    (r.since earlier).verdict kinds = (r.verdict kinds).map fun p => ⟨earlier.reverse ++ p.statements⟩ := by
  induction kinds generalizing r with
  | nil =>
    rw [verdict, verdict, result?_since, unfinished_since]
    cases r.result? <;> rfl
  | cons kind kinds ih =>
    cases ht : r.take? kind with
    | none =>
      have ht' : (r.since earlier).take? kind = none := by rw [take?_since, ht, Option.map_none]
      rw [verdict_of_refused ht, verdict_of_refused ht', refuse_since]
      rfl
    | some next =>
      have ht' : (r.since earlier).take? kind = some (next.since earlier) := by rw [take?_since, ht, Option.map_some]
      rw [verdict_of_take? ht, verdict_of_take? ht', ih]
      cases next.verdict kinds <;> rfl

end

theorem eq_of_result? {r : Reader} {p : Program} (h : r.result? = some p) : r = start.since p.statements.reverse := by
  unfold result? at h
  split at h
  · cases h
    simp [since, start]
  · cases h

end Reader

/-! ### Parsing -/

theorem kind_beforeEnd_scan (text : String) :
    (beforeEnd (Token.scan text)).map Token.kind = Token.kinds (Text.upperCase text) := by
  obtain ⟨tokens, last, hscan, htokens, hlast⟩ := List.map_eq_append_iff.mp (Token.kind_scan text)
  obtain ⟨t, rfl, ht⟩ := List.map_eq_singleton_iff.mp hlast
  rw [hscan, beforeEnd_append (htokens ▸ Token.eof_notMem_kinds _)]
  simp [Token.isEof, ht, htokens]

theorem parse_eq_ok_iff {text : String} {p : Program} : parse text = .ok p ↔
    ∃ last, Reader.start.takeAll? (Token.kinds (Text.upperCase text)) = some last ∧ last.result? = some p := by
  rw [parse, ofTokens_eq_ok_iff, kind_beforeEnd_scan]

/-- The end of a text is told where its end marker stands, behind all other tokens. -/
theorem start_scan_eq (text : String) :
    (Token.scan text).map Token.start = (beforeEnd (Token.scan text)).map Token.start ++ [endOf (Token.scan text)] := by
  obtain ⟨tokens, last, hscan, htokens, hlast⟩ := List.map_eq_append_iff.mp (Token.kind_scan text)
  obtain ⟨t, rfl, ht⟩ := List.map_eq_singleton_iff.mp hlast
  have heof : Token.Kind.eof ∉ tokens.map Token.kind := htokens ▸ Token.eof_notMem_kinds _
  have hmark : t.isEof = true := by simp [Token.isEof, ht]
  have hfind : tokens.find? Token.isEof = none := by
    rw [List.find?_eq_none]
    intro t' ht' hmark'
    have hk : t'.kind = .eof := by simpa [Token.isEof] using hmark'
    exact heof (hk ▸ List.mem_map_of_mem ht')
  rw [hscan, beforeEnd_append heof, endOf, List.find?_append, hfind]
  simp [hmark]

theorem parse_eq_verdict_ok_iff {text : String} {p : Program} :
    parse text = .ok p ↔ Reader.start.verdict (Token.kinds (Text.upperCase text)) = .ok p := by
  rw [parse, ofTokens_eq_run, Reader.run_eq_verdict, kind_beforeEnd_scan]
  cases Reader.start.verdict (Token.kinds (Text.upperCase text)) <;> simp [Except.mapError]

theorem getElem?_start_append {tokens : List Token} {finish : Position} {k : Nat} (h : k ≤ tokens.length) :
    (tokens.map Token.start ++ [finish])[k]? = some ((tokens[k]?.map Token.start).getD finish) := by
  rcases Nat.lt_or_eq_of_le h with hlt | rfl
  · rw [List.getElem?_append_left (by simpa using hlt), List.getElem?_map, List.getElem?_eq_getElem hlt]
    rfl
  · simp

/-- An error is told of the token that reading stops at, the end marker among them. -/
theorem parse_eq_error_iff {text : String} {e : SyntaxError} : parse text = .error e ↔
    ∃ k, Reader.start.verdict (Token.kinds (Text.upperCase text)) = .error ⟨k, e.kind⟩ ∧
      ((Token.scan text).map Token.start)[k]? = some e.position := by
  rw [parse, ofTokens_eq_run, Reader.run_eq_verdict, kind_beforeEnd_scan, start_scan_eq]
  cases hv : Reader.start.verdict (Token.kinds (Text.upperCase text)) with
  | ok p => simp [Except.mapError]
  | error f =>
    obtain ⟨k, cause⟩ := f
    have hle : k ≤ (beforeEnd (Token.scan text)).length := by
      have hle := Reader.index_le_of_verdict hv
      rwa [← kind_beforeEnd_scan, List.length_map] at hle
    constructor
    · intro h
      cases h
      exact ⟨k, rfl, getElem?_start_append hle⟩
    · rintro ⟨_, hfault, hposition⟩
      cases hfault
      rw [getElem?_start_append hle] at hposition
      rw [Except.mapError, Option.some.inj hposition]

/-- A text without tokens is the program without statements. -/
theorem kinds_ne_nil_of_error {text : String} {e : SyntaxError} (h : parse text = .error e) :
    Token.kinds (Text.upperCase text) ≠ [] := by
  obtain ⟨k, hverdict, -⟩ := parse_eq_error_iff.mp h
  intro hnil
  rw [hnil] at hverdict
  cases hverdict

/-- Two texts read alike: as the same program, or with an error of the same kind, told of the same token. -/
def ReadAlike (a b : String) : Prop :=
  (∃ p, parse a = .ok p ∧ parse b = .ok p) ∨
  ∃ (e e' : SyntaxError) (k : Nat) (t t' : Token), parse a = .error e ∧ parse b = .error e' ∧ e'.kind = e.kind ∧
    (Token.scan a)[k]? = some t ∧ (Token.scan b)[k]? = some t' ∧ e.position = t.start ∧ e'.position = t'.start

theorem exists_parse_eq_error {text : String} {f : Fault}
    (h : Reader.start.verdict (Token.kinds (Text.upperCase text)) = .error f) :
    ∃ t, (Token.scan text)[f.index]? = some t ∧ parse text = .error ⟨f.cause, t.start⟩ := by
  have hlt : f.index < (Token.scan text).length := by
    have hle := Reader.index_le_of_verdict h
    have hlen := congrArg List.length (Token.kind_scan text)
    simp only [List.length_map, List.length_append, List.length_singleton] at hlen
    omega
  refine ⟨_, List.getElem?_eq_getElem hlt, parse_eq_error_iff.mpr ⟨f.index, h, ?_⟩⟩
  rw [List.getElem?_map, List.getElem?_eq_getElem hlt]
  rfl

theorem readAlike_of_kinds_eq {a b : String}
    (h : Token.kinds (Text.upperCase b) = Token.kinds (Text.upperCase a)) : ReadAlike a b := by
  cases hv : Reader.start.verdict (Token.kinds (Text.upperCase a)) with
  | ok p => exact Or.inl ⟨p, parse_eq_verdict_ok_iff.mpr hv, parse_eq_verdict_ok_iff.mpr (h ▸ hv)⟩
  | error f =>
    obtain ⟨t, ht, ha⟩ := exists_parse_eq_error hv
    obtain ⟨t', ht', hb⟩ := exists_parse_eq_error (h ▸ hv)
    exact Or.inr ⟨_, _, f.index, t, t', ha, hb, rfl, ht, ht', rfl, rfl⟩

end TurtleGraphics.Program
