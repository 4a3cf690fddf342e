import TurtleGraphics.Proofs.RoundTrip

/-! # No two programs have the same text

A program that the language cannot express has a canonical text as well, which is read as nothing, so the text cannot be
told from others by reading it. Its tokens tell it still: a statement written in front of any text is told by the tokens
of the whole, and so is where it ends (`selfDelimiting`). The word that a statement starts with says of what kind it is;
a body is quoted unless it is one statement, and inside quotes a statement starts with a word where the body would end
with a quote. -/

namespace TurtleGraphics

namespace Statement
open Token

theorem numberToken_inj {m n : UInt32} (h : numberToken m = numberToken n) : m = n := by
  unfold numberToken at h
  split at h
  · split at h
    · exact Kind.number.inj h
    · cases h
  · next hm =>
    split at h
    · cases h
    · next hn =>
      rw [UInt32.not_lt, UInt32.le_zero_iff] at hm hn
      rw [hm, hn]

/-- Statements that are written with the same word. -/
inductive Alike : Statement → Statement → Prop where
  | move (direction : Direction) (m n : UInt32) : Alike (.move direction m) (.move direction n)
  | turn (side : Side) (m n : UInt32) : Alike (.turn side m) (.turn side n)
  | pen (down : Bool) : Alike (.pen down) (.pen down)
  | color (c d : Color) : Alike (.color c) (.color d)
  | loop (m n : UInt32) (body other : List Statement) : Alike (.loop m body) (.loop n other)

theorem alike_of_keyword_eq {s t : Statement} (h : s.entry.keyword = t.entry.keyword) : Alike s t := by
  -- Direction, side and pen are part of the word.
  match s, t with
  | .move .forward m, .move .forward n => exact .move .forward m n
  | .move .backward m, .move .backward n => exact .move .backward m n
  | .turn .left m, .turn .left n => exact .turn .left m n
  | .turn .right m, .turn .right n => exact .turn .right m n
  | .pen true, .pen true => exact .pen true
  | .pen false, .pen false => exact .pen false
  | .color c, .color d => exact .color c d
  | .loop m body, .loop n other => exact .loop m n body other

/-- The tokens of a text that starts with the statement tell the statement and what comes behind it. -/
def SelfDelimiting (s : Statement) : Prop :=
  ∀ (t : Statement) (a b : List Char), kinds (s.chars ++ a) = kinds (t.chars ++ b) → s = t ∧ kinds a = kinds b

theorem alike_of_kinds_eq {s t : Statement} {a b : List Char} (h : kinds (s.chars ++ a) = kinds (t.chars ++ b)) :
    Alike s t := by
  obtain ⟨more, hs⟩ := s.starts_kinds_chars a
  obtain ⟨other, ht⟩ := t.starts_kinds_chars b
  rw [hs, ht, List.cons.injEq, Kind.keyword.injEq] at h
  exact alike_of_keyword_eq h.1

theorem kinds_chars_ne_nil (s : Statement) (a : List Char) : kinds (s.chars ++ a) ≠ [] := by
  obtain ⟨more, hs⟩ := s.starts_kinds_chars a
  rw [hs]
  exact List.cons_ne_nil _ _

theorem quote_ne_kinds_chars (s : Statement) (a : List Char) (more : List Kind) :
    .quote :: more ≠ kinds (s.chars ++ a) := by
  obtain ⟨other, hs⟩ := s.starts_kinds_chars a
  rw [hs]
  intro h
  cases h

section
variable {ss ts : List Statement} {a b : List Char}

theorem kinds_moreChars_nil (a : List Char) : kinds (moreChars [] ++ a) = kinds a := rfl

theorem kinds_moreChars_cons (s : Statement) (rest : List Statement) (a : List Char) :
    kinds (moreChars (s :: rest) ++ a) = kinds (s.chars ++ (moreChars rest ++ a)) := by
  rw [moreChars, List.flatMap_cons, List.cons_append, List.cons_append, kinds_blank rfl, List.append_assoc]
  rfl

theorem kinds_bodyChars_quoted (h : ss.length ≠ 1) (a : List Char) :
    kinds (bodyChars ss ++ a) = .quote :: kinds (moreChars ss ++ '"' :: a) := by
  match ss with
  | [] => rw [bodyChars_nil, List.cons_append, Program.kinds_quote]; rfl
  | [_] => exact absurd rfl h
  | s :: t :: rest =>
    rw [bodyChars_cons_cons, List.cons_append, Program.kinds_quote, kinds_moreChars_cons]
    simp

/-- Statements up to a closing quote. -/
theorem moreChars_unique (hss : ∀ s ∈ ss, s.SelfDelimiting)
    (h : kinds (moreChars ss ++ '"' :: a) = kinds (moreChars ts ++ '"' :: b)) : ss = ts ∧ kinds a = kinds b := by
  induction ss generalizing ts with
  | nil =>
    rw [kinds_moreChars_nil, Program.kinds_quote] at h
    cases ts with
    | nil =>
      rw [kinds_moreChars_nil, Program.kinds_quote] at h
      exact ⟨rfl, (List.cons.inj h).2⟩
    | cons t ts =>
      rw [kinds_moreChars_cons] at h
      exact absurd h (quote_ne_kinds_chars t _ _)
  | cons s ss ih =>
    rw [List.forall_mem_cons] at hss
    cases ts with
    | nil =>
      rw [kinds_moreChars_cons, kinds_moreChars_nil, Program.kinds_quote] at h
      exact absurd h.symm (quote_ne_kinds_chars s _ _)
    | cons t ts =>
      rw [kinds_moreChars_cons, kinds_moreChars_cons] at h
      obtain ⟨rfl, hmore⟩ := hss.1 t _ _ h
      obtain ⟨rfl, hrest⟩ := ih hss.2 hmore
      exact ⟨rfl, hrest⟩

theorem bodyChars_unique (hss : ∀ s ∈ ss, s.SelfDelimiting)
    (h : kinds (bodyChars ss ++ a) = kinds (bodyChars ts ++ b)) : ss = ts ∧ kinds a = kinds b := by
  by_cases hs : ss.length = 1
  · obtain ⟨s, rfl⟩ := List.length_eq_one_iff.mp hs
    rw [bodyChars_singleton] at h
    by_cases ht : ts.length = 1
    · obtain ⟨t, rfl⟩ := List.length_eq_one_iff.mp ht
      rw [bodyChars_singleton] at h
      obtain ⟨rfl, hrest⟩ := hss s (List.mem_singleton_self s) t a b h
      exact ⟨rfl, hrest⟩
    · rw [kinds_bodyChars_quoted ht] at h
      exact absurd h.symm (quote_ne_kinds_chars s a _)
  · rw [kinds_bodyChars_quoted hs] at h
    by_cases ht : ts.length = 1
    · obtain ⟨t, rfl⟩ := List.length_eq_one_iff.mp ht
      rw [bodyChars_singleton] at h
      exact absurd h (quote_ne_kinds_chars t b _)
    · rw [kinds_bodyChars_quoted ht] at h
      exact moreChars_unique hss (List.cons.inj h).2

end

-- By recursion on the statement. A statement of a body is written in front of the rest of the body, so it is told in
-- the same way as one outside.
mutual

theorem selfDelimiting : (s : Statement) → s.SelfDelimiting
  | .move direction m => by
    intro t a b h
    cases alike_of_kinds_eq h with
    | move _ _ n =>
      rw [kinds_chars_move, kinds_chars_move] at h
      simp only [List.cons.injEq] at h
      obtain ⟨-, hn, -, hrest⟩ := h
      exact ⟨by rw [numberToken_inj hn], hrest⟩
  | .turn side m => by
    intro t a b h
    cases alike_of_kinds_eq h with
    | turn _ _ n =>
      rw [kinds_chars_turn, kinds_chars_turn] at h
      simp only [List.cons.injEq] at h
      obtain ⟨-, hn, -, hrest⟩ := h
      exact ⟨by rw [numberToken_inj hn], hrest⟩
  | .pen down => by
    intro t a b h
    cases alike_of_kinds_eq h with
    | pen =>
      rw [kinds_chars_pen, kinds_chars_pen] at h
      simp only [List.cons.injEq] at h
      obtain ⟨-, -, hrest⟩ := h
      exact ⟨rfl, hrest⟩
  | .color c => by
    intro t a b h
    cases alike_of_kinds_eq h with
    | color _ d =>
      rw [kinds_chars_color, kinds_chars_color] at h
      simp only [List.cons.injEq, Kind.hex.injEq] at h
      obtain ⟨-, htext, -, hrest⟩ := h
      have hcolor : some c = some d := by rw [← Color.ofText?_text c, htext, Color.ofText?_text]
      exact ⟨by rw [Option.some.inj hcolor], hrest⟩
  | .loop m body => by
    intro t a b h
    cases alike_of_kinds_eq h with
    | loop _ n _ other =>
      rw [kinds_chars_loop, kinds_chars_loop] at h
      simp only [List.cons.injEq] at h
      obtain ⟨-, hn, hbody⟩ := h
      obtain ⟨rfl, hrest⟩ := bodyChars_unique (selfDelimiting_of_mem body) hbody
      exact ⟨by rw [numberToken_inj hn], hrest⟩

theorem selfDelimiting_of_mem : (ss : List Statement) → ∀ s ∈ ss, s.SelfDelimiting
  | [] => List.forall_mem_nil _
  | s :: rest => List.forall_mem_cons.mpr ⟨selfDelimiting s, selfDelimiting_of_mem rest⟩

end

end Statement

/-- The line of a statement. -/
def Statement.line (s : Statement) : String := String.ofList s.chars

namespace Program

/-- The lines of two texts with the same tokens are of the same statements. -/
theorem eq_of_kinds_lines {ss ts : List Statement} (h : Token.kinds (ss.flatMap fun s => s.chars ++ ['\n']) =
    Token.kinds (ts.flatMap fun t => t.chars ++ ['\n'])) : ss = ts := by
  induction ss generalizing ts with
  | nil =>
    cases ts with
    | nil => rfl
    | cons t ts =>
      rw [List.flatMap_nil, Token.kinds_nil, List.flatMap_cons, List.append_assoc] at h
      exact absurd h.symm (t.kinds_chars_ne_nil _)
  | cons s ss ih =>
    rw [List.flatMap_cons, List.append_assoc] at h
    cases ts with
    | nil =>
      rw [List.flatMap_nil, Token.kinds_nil] at h
      exact absurd h (s.kinds_chars_ne_nil _)
    | cons t ts =>
      rw [List.flatMap_cons, List.append_assoc] at h
      obtain ⟨rfl, hrest⟩ := s.selfDelimiting t _ _ h
      rw [List.singleton_append, List.singleton_append, Token.kinds_blank rfl, Token.kinds_blank rfl] at hrest
      rw [ih hrest]

theorem format_injective {p q : Program} (h : p.format = q.format) : p = q := by
  have hkinds := congrArg (fun text : String => Token.kinds text.toList) h
  simp only [toList_format] at hkinds
  obtain ⟨ss⟩ := p
  obtain ⟨ts⟩ := q
  exact congrArg Program.mk (eq_of_kinds_lines hkinds)

theorem format_eq_join (p : Program) : p.format = String.join (p.statements.map fun s => s.line ++ "\n") := by
  rw [← String.toList_inj, toList_format, String.toList_join, List.flatMap_map]
  simp [Statement.line]

/-- The canonical text tells the program, whether or not the language can express it. It is a line for each statement,
    in characters that are the same in upper case. -/
theorem format_tells_program :
    (∀ p q : Program, p.format = q.format → p = q) ∧
    (∀ p : Program, ∀ c ∈ p.format.toList, c.toNat < 0x80 ∧ c.isLower = false ∧ c ≠ '\t' ∧ c ≠ '%') ∧
    (∀ p : Program, p.format = String.join (p.statements.map fun s => s.line ++ "\n")) ∧
    (∀ s : Statement, '\n' ∉ s.line.toList) ∧
    ∀ (a b : String) (p q : Program), parse a = .ok p → parse b = .ok q →
      (parse a = parse b ↔ p.format = q.format) := by
  refine ⟨fun p q => format_injective, fun p c hc => ?_, format_eq_join, fun s hmem => ?_, fun a b p q ha hb => ?_⟩
  · have hplain := of_mem_format (P := fun c => c.toNat < 0x80 && !c.isLower && c != '\t' && c != '%') (by decide) hc
    simpa [and_assoc] using hplain
  · rw [Statement.line, String.toList_ofList] at hmem
    exact absurd (s.chars_subset_ink hmem) (by decide)
  · rw [ha, hb, Except.ok.injEq]
    exact ⟨congrArg format, format_injective⟩

/-- Two programs with adjacent quotes in their texts, and two texts of one program. -/
theorem format_tells_program_adjacent_quotes :
    let p : Program := ⟨[.loop 0 [.loop 1 [], .pen true]]⟩
    let q : Program := ⟨[.loop 0 [.loop 1 [.pen true, .loop 2 []]]]⟩
    let read : Program := ⟨[.loop 2 [.pen true]]⟩
    p.format ≠ q.format ∧ '\t' ∉ p.format.toList ∧ parse "rep 2 \"down.\"" = .ok read ∧
    parse "REP 02%\nDOWN." = .ok read ∧
    (parse "rep 2 \"down.\"" = parse "REP 02%\nDOWN." ↔ read.format = read.format) := by
  intro p q read
  obtain ⟨hinj, hplain, -, -, hread⟩ := format_tells_program
  have hquoted : Token.kinds (Text.upperCase "rep 2 \"down.\"") = [.keyword .rep, .number 2, .quote, .keyword .down,
      .period, .quote] := by decide +kernel
  have hbare : Token.kinds (Text.upperCase "REP 02%\nDOWN.") = [.keyword .rep, .number 2, .keyword .down, .period] := by
    decide +kernel
  have ha : parse "rep 2 \"down.\"" = .ok read := parse_eq_verdict_ok_iff.mpr (by rw [hquoted]; rfl)
  have hb : parse "REP 02%\nDOWN." = .ok read := parse_eq_verdict_ok_iff.mpr (by rw [hbare]; rfl)
  have hne : p ≠ q := by simp [p, q]
  exact ⟨fun h => hne (hinj p q h), fun hmem => (hplain p _ hmem).2.2.1 rfl, ha, hb, hread _ _ _ _ ha hb⟩

end Program

end TurtleGraphics
