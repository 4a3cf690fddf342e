import TurtleGraphics.Program
import TurtleGraphics.SyntaxError
import TurtleGraphics.Token.Scan

/-! # Reading programs

A program is read from its tokens, the first of those that are left at a time. Where none is left, an end marker at the
position `finish` stands in for the next one. No end marker is ever taken, so reading stops at the first one. A
statement is read with a list of the loops that are still open around it, so the depth of a program is bounded by its
length alone. -/

namespace TurtleGraphics.Program

/-- The token that comes next. Behind the last one, an end marker at `finish` stands in. -/
def current (finish : Position) (tokens : List Token) : Token :=
  tokens.headD ⟨.eof, finish, finish⟩

/-- The error of a token that cannot come next. A malformed token is told as such. -/
def refuse (finish : Position) (why : Token.Label → SyntaxError.Kind) (tokens : List Token) : SyntaxError :=
  let t := current finish tokens
  match t.kind with
  | .error cause => ⟨.lexical cause, t.start⟩
  | kind => ⟨why kind.label, t.start⟩

/-- Reads a number. -/
def number (finish : Position) : List Token → Except SyntaxError (UInt32 × List Token)
  | ⟨.number n, _, _⟩ :: rest => .ok (n, rest)
  | tokens => .error (refuse finish (.expected .number) tokens)

/-- Reads the end of a statement. -/
def period (finish : Position) : List Token → Except SyntaxError (List Token)
  | ⟨.period, _, _⟩ :: rest => .ok rest
  | tokens => .error (refuse finish (.expected .period) tokens)

/-- Reads a color. -/
def colorLiteral (finish : Position) : List Token → Except SyntaxError (Color × List Token)
  | ⟨.hex literal, start, _⟩ :: rest => match Color.ofText? literal with
    | some c => .ok (c, rest)
    | none => .error ⟨.invalidColor literal, start⟩
  | tokens => .error (refuse finish (.expected .color) tokens)

/-- A loop whose body is being read. -/
inductive OpenLoop where
  /-- the body is the next statement -/
  | bare (count : UInt32)
  /-- the body goes on to a closing quote; the statements read so far, the last of them first -/
  | quoted (count : UInt32) (body : List Statement)

/-- How a statement starts: with all of a simple statement, or with a loop up to its body. -/
inductive Opening where
  | simple (s : Statement)
  | loop (l : OpenLoop)

/-- Reads a number and a period. -/
def numbered (finish : Position) (make : UInt32 → Statement) (tokens : List Token) :
    Except SyntaxError (Opening × List Token) := do
  let (n, rest) ← number finish tokens
  let rest ← period finish rest
  return (.simple (make n), rest)

/-- Reads the count of a loop and the quote before its body, if there is one. The body has to start
    behind the quote. -/
def loopOpening (finish : Position) (tokens : List Token) : Except SyntaxError (Opening × List Token) := do
  let (count, rest) ← number finish tokens
  match rest with
  | ⟨.quote, _, _⟩ :: rest =>
    let t := current finish rest
    match t.kind with
    | .quote => .error ⟨.emptyLoop, t.start⟩
    | .eof => .error ⟨.unterminatedLoop, t.start⟩
    | _ => .ok (.loop (.quoted count []), rest)
  | rest => .ok (.loop (.bare count), rest)

/-- Reads how a statement starts. -/
def opening (finish : Position) : List Token → Except SyntaxError (Opening × List Token)
  | ⟨.keyword word, _, _⟩ :: rest => match word with
    | .forw => numbered finish (.move .forward) rest
    | .back => numbered finish (.move .backward) rest
    | .left => numbered finish (.turn .left) rest
    | .right => numbered finish (.turn .right) rest
    | .down => do
      let rest ← period finish rest
      return (.simple (.pen true), rest)
    | .up => do
      let rest ← period finish rest
      return (.simple (.pen false), rest)
    | .color => do
      let (c, rest) ← colorLiteral finish rest
      let rest ← period finish rest
      return (.simple (.color c), rest)
    | .rep => loopOpening finish rest
  | tokens => .error (refuse finish .expectedStatement tokens)

/-- Where reading stands after a statement: the outermost loop is complete, or another statement has to be read
    in a loop that is still open. -/
inductive Progress where
  | complete (s : Statement) (rest : List Token)
  | inside (loops : List OpenLoop) (rest : List Token)

/-- The tokens that are left when a statement is complete or the next one is to be read. -/
def Progress.rest : Progress → List Token
  | complete _ rest | inside _ rest => rest

/-- Puts a complete statement into the loops around it, the innermost of them first, and completes those that
    end there. -/
def close (finish : Position) (s : Statement) : List OpenLoop → List Token → Except SyntaxError Progress
  | [], tokens => .ok (.complete s tokens)
  | .bare count :: outer, tokens => close finish (.loop count [s]) outer tokens
  | .quoted count body :: outer, tokens =>
    let t := current finish tokens
    match t.kind with
    | .quote => close finish (.loop count (s :: body).reverse) outer tokens.tail
    | .eof => .error ⟨.unterminatedLoop, t.start⟩
    | _ => .ok (.inside (.quoted count (s :: body) :: outer) tokens)

/-! ### Reading takes tokens away -/

/-- Tokens of programs, `least` of them or more, come before `rest`. -/
def StepsOver (least : Nat) (tokens rest : List Token) : Prop :=
  ∃ taken, tokens = taken ++ rest ∧ least ≤ taken.length ∧ ∀ t ∈ taken, t.kind.isProper = true

namespace StepsOver
variable {m n : Nat} {a b c tokens rest : List Token}

theorem refl (tokens : List Token) : StepsOver 0 tokens tokens :=
  ⟨[], rfl, Nat.zero_le _, fun _ ht => absurd ht List.not_mem_nil⟩

theorem cons {t : Token} (ht : t.kind.isProper = true) (h : StepsOver n tokens rest) :
    StepsOver (n + 1) (t :: tokens) rest := by
  obtain ⟨taken, rfl, hleast, hproper⟩ := h
  exact ⟨t :: taken, rfl, Nat.succ_le_succ hleast, List.forall_mem_cons.mpr ⟨ht, hproper⟩⟩

theorem trans (hab : StepsOver m a b) (hbc : StepsOver n b c) : StepsOver (m + n) a c := by
  obtain ⟨taken, rfl, htaken, hproper⟩ := hab
  obtain ⟨more, rfl, hmore, hproper'⟩ := hbc
  refine ⟨taken ++ more, (List.append_assoc _ _ _).symm, ?_, List.forall_mem_append.mpr ⟨hproper, hproper'⟩⟩
  rw [List.length_append]
  exact Nat.add_le_add htaken hmore

theorem weaken (h : StepsOver n tokens rest) (hle : m ≤ n) : StepsOver m tokens rest := by
  obtain ⟨taken, htokens, hleast, hproper⟩ := h
  exact ⟨taken, htokens, Nat.le_trans hle hleast, hproper⟩

theorem length_le (h : StepsOver n tokens rest) : rest.length + n ≤ tokens.length := by
  obtain ⟨taken, rfl, hleast, -⟩ := h
  rw [List.length_append, Nat.add_comm]
  exact Nat.add_le_add_right hleast _

theorem length_lt (h : StepsOver 1 tokens rest) : rest.length < tokens.length := h.length_le

end StepsOver

theorem exists_of_bind_eq_ok {ε α β : Type} {x : Except ε α} {f : α → Except ε β} {b : β} (h : (x >>= f) = .ok b) :
    ∃ a, x = .ok a ∧ f a = .ok b := by
  cases x with
  | error e => cases h
  | ok a => exact ⟨a, rfl, h⟩

section
variable {finish : Position} {tokens rest : List Token} {o : Opening}

theorem stepsOver_number {n : UInt32} (h : number finish tokens = .ok (n, rest)) : StepsOver 1 tokens rest := by
  unfold number at h
  split at h
  · cases h
    exact .cons rfl (.refl _)
  · cases h

theorem stepsOver_period (h : period finish tokens = .ok rest) : StepsOver 1 tokens rest := by
  unfold period at h
  split at h
  · cases h
    exact .cons rfl (.refl _)
  · cases h

theorem stepsOver_colorLiteral {c : Color} (h : colorLiteral finish tokens = .ok (c, rest)) :
    StepsOver 1 tokens rest := by
  unfold colorLiteral at h
  split at h
  · split at h
    · cases h
      exact .cons rfl (.refl _)
    · cases h
  · cases h

/-- A statement ends with a period. -/
theorem stepsOver_ending {s : Statement}
    (h : (period finish tokens >>= fun rest => pure (Opening.simple s, rest)) = .ok (o, rest)) :
    StepsOver 1 tokens rest := by
  obtain ⟨after, hperiod, hrest⟩ := exists_of_bind_eq_ok h
  cases hrest
  exact stepsOver_period hperiod

theorem stepsOver_numbered {make : UInt32 → Statement} (h : numbered finish make tokens = .ok (o, rest)) :
    StepsOver 2 tokens rest := by
  obtain ⟨⟨n, after⟩, hnumber, hending⟩ := exists_of_bind_eq_ok h
  exact (stepsOver_number hnumber).trans (stepsOver_ending hending)

theorem stepsOver_loopOpening (h : loopOpening finish tokens = .ok (o, rest)) : StepsOver 1 tokens rest := by
  obtain ⟨⟨n, after⟩, hnumber, hbody⟩ := exists_of_bind_eq_ok h
  refine ((stepsOver_number hnumber).trans (n := 0) ?_)
  dsimp only at hbody
  split at hbody
  · -- Behind a quote the loop is open only if its body starts there.
    split at hbody
    · cases hbody
    · cases hbody
    · cases hbody
      exact (StepsOver.cons rfl (.refl _)).weaken (Nat.zero_le _)
  · cases hbody
    exact .refl _

theorem stepsOver_opening (h : opening finish tokens = .ok (o, rest)) : StepsOver 1 tokens rest := by
  unfold opening at h
  split at h
  · rename_i word _ _ tail
    suffices StepsOver 0 tail rest from .cons rfl this
    cases word with
    | forw | back | left | right => exact (stepsOver_numbered h).weaken (Nat.zero_le _)
    | rep => exact (stepsOver_loopOpening h).weaken (Nat.zero_le _)
    | down | up => exact (stepsOver_ending h).weaken (Nat.zero_le _)
    | color =>
      obtain ⟨⟨c, after⟩, hcolor, hending⟩ := exists_of_bind_eq_ok h
      exact ((stepsOver_colorLiteral hcolor).trans (stepsOver_ending hending)).weaken (Nat.zero_le _)
  · cases h

/-- Only tokens are taken, and not the end marker that stands in behind them. -/
theorem exists_cons_of_current {kind : Token.Kind} (h : (current finish tokens).kind = kind) (hkind : kind ≠ .eof) :
    ∃ t rest, tokens = t :: rest ∧ t.kind = kind := by
  cases tokens with
  | nil => exact absurd h.symm hkind
  | cons t rest => exact ⟨t, rest, rfl, h⟩

theorem stepsOver_close {s : Statement} {loops : List OpenLoop} {p : Progress}
    (h : close finish s loops tokens = .ok p) : StepsOver 0 tokens p.rest := by
  fun_induction close finish s loops tokens with
  | case1 s tokens => cases h; exact .refl _
  | case2 s count outer tokens ih => exact ih h
  | case3 s count body outer tokens t hquote ih =>
    obtain ⟨t, rest, rfl, ht⟩ := exists_cons_of_current hquote (by decide)
    exact (StepsOver.cons (by rw [ht]; rfl) (ih h)).weaken (Nat.zero_le _)
  | case4 => cases h
  | case5 => cases h; exact .refl _

end

/-! ### Statements and programs -/

/-- Reads statements until the outermost of the open loops, or a simple statement outside of all loops, is
    complete. -/
def statementWithin (finish : Position) (loops : List OpenLoop) (tokens : List Token) :
    Except SyntaxError (Statement × List Token) :=
  match _starts : opening finish tokens with
  | .error e => .error e
  | .ok (.loop l, rest) => statementWithin finish (l :: loops) rest
  | .ok (.simple s, rest) => match _closes : close finish s loops rest with
    | .error e => .error e
    | .ok (.complete s rest) => .ok (s, rest)
    | .ok (.inside loops rest) => statementWithin finish loops rest
termination_by tokens.length
decreasing_by
  · exact (stepsOver_opening _starts).length_lt
  · exact ((stepsOver_opening _starts).trans (stepsOver_close _closes)).length_lt

/-- Reads one statement. -/
def statement (finish : Position) (tokens : List Token) : Except SyntaxError (Statement × List Token) :=
  statementWithin finish [] tokens

theorem stepsOver_statementWithin {finish : Position} {loops : List OpenLoop} {tokens rest : List Token} {s : Statement}
    (h : statementWithin finish loops tokens = .ok (s, rest)) : StepsOver 1 tokens rest := by
  fun_induction statementWithin finish loops tokens with
  | case1 => cases h
  | case2 loops tokens l after starts ih =>
    exact ((stepsOver_opening starts).trans (ih h)).weaken (Nat.le_add_left _ _)
  | case3 => cases h
  | case4 loops tokens s after starts s' rest' closes =>
    cases h
    exact (stepsOver_opening starts).trans (stepsOver_close closes)
  | case5 loops tokens s after starts loops' rest' closes ih =>
    exact ((stepsOver_opening starts).trans (stepsOver_close closes)).trans (ih h) |>.weaken (Nat.le_add_left _ _)

/-- Reads statements up to an end marker, after those in `done`, the last of them first. -/
def allStatements (finish : Position) (done : List Statement) (tokens : List Token) :
    Except SyntaxError (List Statement) :=
  if (current finish tokens).isEof then .ok done.reverse
  else match _reads : statement finish tokens with
    | .error e => .error e
    | .ok (s, rest) => allStatements finish (s :: done) rest
termination_by tokens.length
decreasing_by exact (stepsOver_statementWithin _reads).length_lt

/-- Where the end marker stands that is put behind the tokens: at the start of the last one. -/
def lastStart (tokens : List Token) : Position :=
  (tokens.getLast?.map Token.start).getD .start

/-- The program that tokens stand for. -/
def ofTokens (tokens : List Token) : Except SyntaxError Program :=
  (allStatements (lastStart tokens) [] tokens).map Program.mk

/-- The program that a text stands for. -/
def parse (text : String) : Except SyntaxError Program :=
  ofTokens (Token.scan text)

end TurtleGraphics.Program
