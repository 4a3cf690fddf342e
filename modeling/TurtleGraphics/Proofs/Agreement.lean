import TurtleGraphics.Proofs.Canonical

/-! # The commands agree

Whether a file holds a program is the same question for all three commands, and so is what is wrong with it. On failure
`run` says the line on standard output as well. An error text ends with its line and column, so the line can be read off
it (`repr_line_eq`). -/

namespace TurtleGraphics

/-! ### Lines in error texts -/

theorem space_notMem_toDigits (n : Nat) : ' ' ∉ Nat.toDigits 10 n := fun h => by
  cases Nat.isDigit_of_mem_toDigits (by decide) (by decide) h

/-- A text has one last word. -/
theorem lastWord_eq {a b x y : List Char} (hx : ' ' ∉ x) (hy : ' ' ∉ y) (h : a ++ ' ' :: x = b ++ ' ' :: y) :
    a = b ∧ x = y := by
  have hnil : ∀ {m x y : List Char}, ' ' ∉ x → ' ' :: x = m ++ ' ' :: y → m = [] := by
    intro m x y hx h
    cases m with
    | nil => rfl
    | cons c m =>
      rw [List.cons_append, List.cons.injEq] at h
      exact absurd (h.2 ▸ List.mem_append_right m List.mem_cons_self) hx
  rcases List.append_eq_append_iff.mp h with ⟨m, rfl, hm⟩ | ⟨m, rfl, hm⟩
  · cases hnil hx hm
    exact ⟨(List.append_nil a).symm, (List.cons.inj hm).2⟩
  · cases hnil hy hm
    exact ⟨List.append_nil b, (List.cons.inj hm).2.symm⟩

theorem repr_line_eq {a b : String} {line column line' column' : Nat}
    (h : a ++ " at line " ++ line.repr ++ ", column " ++ column.repr ++ "\n" =
      b ++ " at line " ++ line'.repr ++ ", column " ++ column'.repr ++ "\n") : line.repr = line'.repr := by
  have hspaced : ∀ (c : String) (n m : Nat), (c ++ " at line " ++ n.repr ++ ", column " ++ m.repr ++ "\n").toList =
      ((c.toList ++ " at line".toList) ++ ' ' :: Nat.toDigits 10 n ++ ", column".toList) ++
        ' ' :: (Nat.toDigits 10 m ++ ['\n']) := by
    intro c n m
    simp
  have hword : ∀ n : Nat, ' ' ∉ Nat.toDigits 10 n ++ ['\n'] := by
    intro n
    simp [space_notMem_toDigits]
  rw [String.ext_iff, hspaced, hspaced] at h
  obtain ⟨h, -⟩ := lastWord_eq (hword column) (hword column') h
  obtain ⟨-, hline⟩ :=
    lastWord_eq (space_notMem_toDigits line) (space_notMem_toDigits line') (List.append_cancel_right h)
  rw [String.ext_iff, Nat.toList_repr, Nat.toList_repr, hline]

namespace Command
open Program

theorem remark_message (name : String) (e : SyntaxError) : remark name e.message =
    name ++ ": " ++ e.kind.message ++ " at line " ++ e.line.repr ++ ", column " ++ e.position.column.repr ++ "\n" := by
  simp only [remark, SyntaxError.message, SyntaxError.line, String.append_assoc]

/-- The line on standard output is the one that the remark ends with. -/
theorem syntaxErrorLine_of_remark {name before : String} {e : SyntaxError} {line column : Nat}
    (h : remark name e.message = before ++ " at line " ++ line.repr ++ ", column " ++ column.repr ++ "\n") :
    syntaxErrorLine e = "Syntaxfel på rad " ++ line.repr ++ "\n" := by
  rw [remark_message] at h
  unfold syntaxErrorLine
  rw [repr_line_eq h]

/-! ### Outcomes for one file -/

section
variable {host : Host} {path : String}

theorem outcomes_of_unreadable {e : ReadError} (h : host.file path = .error e) :
    (run (.file path)).outcome host = ⟨.failure, "", remark path e.message⟩ ∧
    (format (.file path)).outcome host = ⟨.failure, "", remark path e.message⟩ ∧
    (check [path]).outcome host = ⟨.failure, "", remark path e.message⟩ := by
  simp [outcome, runOutcome, formatOutcome, checkOutcome, findings, checkNext, Source.read, Source.name, h]

theorem outcomes_of_program {text : String} {p : Program} (h : host.file path = .ok text) (hp : parse text = .ok p)
    (hout : host.outputError = none) :
    ((run (.file path)).outcome host).status = .success ∧ ((format (.file path)).outcome host).status = .success ∧
    ((check [path]).outcome host).status = .success := by
  have hread : (Source.file path).read host = .ok text := h
  rw [outcome_run_of_parse hread hp, outcome_format_of_parse hread hp, print_of_writable hout, print_of_writable hout]
  simp [outcome, checkOutcome, findings, checkNext, h, hp]

/-- A syntax error is told alike, and `run` says its line. -/
theorem outcomes_of_error {text : String} {e : SyntaxError} (h : host.file path = .ok text) (he : parse text = .error e)
    (hout : host.outputError = none) :
    (run (.file path)).outcome host = ⟨.failure, syntaxErrorLine e, remark path e.message⟩ ∧
    (format (.file path)).outcome host = ⟨.failure, "", remark path e.message⟩ ∧
    (check [path]).outcome host = ⟨.failure, "", remark path e.message⟩ := by
  simp [outcome, runOutcome, formatOutcome, checkOutcome, findings, checkNext, Source.read, Source.name, h, he, hout]

end

/-- For a file with a program in it all three commands succeed. For one with a syntax error they all fail and say the
    same on standard error; `run` adds the line of the error on standard output, and nothing else is written there. A
    file that cannot be read or is no text is told alike. -/
theorem outcomes_agree (host : Host) (path : String) :
    let ran := (run (.file path)).outcome host
    let formatted := (format (.file path)).outcome host
    let checked := (check [path]).outcome host
    (∀ bytes text, host.file path = decodeText bytes → String.fromUTF8? bytes = some text → host.outputError = none →
      ((∃ p, parse text = .ok p) ∧ ran.status.code = 0 ∧ formatted.status.code = 0 ∧ checked.status.code = 0) ∨
      ((∃ e, parse text = .error e ∧ ran.errors = path ++ ": " ++ e.message ++ "\n") ∧
        ran.status.code = 1 ∧ formatted.status.code = 1 ∧ checked.status.code = 1 ∧
        formatted.errors = ran.errors ∧ checked.errors = ran.errors ∧ formatted.output = "" ∧ checked.output = "" ∧
        (∃ before line column,
          ran.errors = before ++ " at line " ++ Nat.repr line ++ ", column " ++ Nat.repr column ++ "\n") ∧
        ∀ before line column,
          ran.errors = before ++ " at line " ++ Nat.repr line ++ ", column " ++ Nat.repr column ++ "\n" →
          ran.output = "Syntaxfel på rad " ++ Nat.repr line ++ "\n")) ∧
    ((∃ e, host.file path = .error (.system e)) ∨
        (∃ bytes, host.file path = decodeText bytes ∧ String.fromUTF8? bytes = none) →
      ran.status.code = 1 ∧ ran.output = "" ∧ formatted = ran ∧ checked = ran) := by
  intro ran formatted checked
  constructor
  · intro bytes text hfile htext hout
    have hread : host.file path = .ok text := by rw [hfile, decodeText, htext]
    cases hparse : parse text with
    | ok p =>
      obtain ⟨hran, hformatted, hchecked⟩ := outcomes_of_program hread hparse hout
      exact Or.inl ⟨⟨p, rfl⟩, congrArg ExitStatus.code hran, congrArg ExitStatus.code hformatted,
        congrArg ExitStatus.code hchecked⟩
    | error e =>
      obtain ⟨hran, hformatted, hchecked⟩ : ran = _ ∧ formatted = _ ∧ checked = _ := outcomes_of_error hread hparse hout
      have herrors : ran.errors = remark path e.message := by rw [hran]
      have houtput : ran.output = syntaxErrorLine e := by rw [hran]
      rw [hformatted, hchecked]
      refine Or.inr ⟨⟨e, rfl, herrors⟩, by rw [hran]; rfl, rfl, rfl, herrors.symm, herrors.symm, rfl, rfl,
        ⟨_, _, _, herrors.trans (remark_message path e)⟩, fun before line column htold => ?_⟩
      exact houtput.trans (syntaxErrorLine_of_remark (herrors.symm.trans htold))
  · intro hbad
    obtain ⟨e, hread⟩ : ∃ e, host.file path = .error e := by
      rcases hbad with ⟨e, hfile⟩ | ⟨bytes, hfile, htext⟩
      · exact ⟨_, hfile⟩
      · exact ⟨.notText, by rw [hfile, decodeText, htext]⟩
    obtain ⟨hran, hformatted, hchecked⟩ : ran = _ ∧ formatted = _ ∧ checked = _ := outcomes_of_unreadable hread
    rw [hran, hformatted, hchecked]
    exact ⟨rfl, rfl, rfl, rfl⟩

-- The error stands behind a statement that draws, and the other file is no text.
theorem outcomes_agree_late_error :
    let text := "DOWN. FORW 1.\nFORW 0."
    let host : Host :=
      ⟨fun path => decodeText (if path = "a" then text.toUTF8 else ⟨#[255]⟩), .ok "", none, fun _ => ""⟩
    host.file "a" = decodeText text.toUTF8 ∧ String.fromUTF8? text.toUTF8 = some text ∧
    ((run (.file "a")).outcome host).output = "Syntaxfel på rad 2\n" ∧
    ((format (.file "a")).outcome host).errors = ((run (.file "a")).outcome host).errors ∧
    ((check ["a"]).outcome host).status.code = 1 ∧
    (check ["b"]).outcome host = (run (.file "b")).outcome host := by
  intro text host
  have hkinds : Token.kinds (Text.upperCase text) = [.keyword .down, .period, .keyword .forw, .number 1, .period,
      .keyword .forw, .error .zeroNumber, .period] := by decide +kernel
  have hparse : parse text = .error ⟨.lexical .zeroNumber, ⟨19, 2, 6⟩⟩ :=
    parse_eq_error_iff.mpr ⟨6, by rw [hkinds]; rfl, by decide +kernel⟩
  have htext : String.fromUTF8? text.toUTF8 = some text := by decide +kernel
  have hbytes : String.fromUTF8? ⟨#[255]⟩ = none := by decide +kernel
  have hfile : host.file "a" = decodeText text.toUTF8 ∧ host.file "b" = decodeText ⟨#[255]⟩ := by simp [host]
  obtain ⟨hlate, -⟩ := outcomes_agree host "a"
  obtain ⟨-, hbad⟩ := outcomes_agree host "b"
  obtain ⟨-, -, -, hchecked⟩ := hbad (Or.inr ⟨_, hfile.2, hbytes⟩)
  rcases hlate _ text hfile.1 htext rfl with ⟨⟨p, hp⟩, -⟩ | ⟨⟨e, he, hremark⟩, -, -, hcode, hsame, -, -, -, -, hline⟩
  · rw [hparse] at hp
    cases hp
  · rw [hparse] at he
    cases he
    exact ⟨hfile.1, htext, hline "a: number can not be 0" 2 6 (hremark.trans (by decide +kernel)), hsame, hcode,
      hchecked⟩

end Command

end TurtleGraphics
