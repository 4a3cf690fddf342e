import TurtleGraphics.CommandLine
import TurtleGraphics.Proofs.RoundTrip

/-! # Canonical texts

What is read from a text can be written again: the numbers in it are positive, its loops have bodies, and so its
canonical text is read as the same program (`parse_format_of_parse`). A program may be put in canonical form before it
is run, also on the command line, and nothing changes when that is done once more. -/

namespace TurtleGraphics

namespace Program
open Token Statement

/-! ### What is read can be written -/

-- Along the spelling: every number in it is a numeral, and a numeral is positive.
mutual

theorem Spells.wellFormed {word : List Char} {s : Statement} : Spells word s → s.WellFormed
  | .move _ _ _ hn _ => by
    rw [Statement.WellFormed]
    exact hn.positive
  | .turn _ _ _ hn _ => by
    rw [Statement.WellFormed]
    exact hn.positive
  | .pen _ _ => by rw [Statement.WellFormed]; trivial
  | .color _ _ _ _ _ _ => by rw [Statement.WellFormed]; trivial
  | .bare _ _ hn _ _ h => by
    rw [Statement.WellFormed, AllWellFormed, AllWellFormed]
    exact ⟨hn.positive, List.cons_ne_nil _ _, h.wellFormed, trivial⟩
  | .quoted _ _ hn _ _ h hb => by
    rw [Statement.WellFormed]
    exact ⟨hn.positive, hb, h.allWellFormed⟩

theorem SpellsAll.allWellFormed {text : List Char} {ss : List Statement} : SpellsAll text ss → AllWellFormed ss
  | .nil _ => by rw [AllWellFormed]; trivial
  | .cons _ h hr => by
    rw [AllWellFormed]
    exact ⟨h.wellFormed, hr.allWellFormed⟩

end

section
variable {text : String} {p : Program} (h : parse text = .ok p)
include h

theorem derivesAll_of_parse : DerivesAll (Token.kinds (Text.upperCase text)) p.statements :=
  takeAll?_result?_iff.mp (parse_eq_ok_iff.mp h)

theorem exists_spellsAll_of_parse :
    ∃ inner rest, Text.upperCase text = inner ++ rest ∧ SpellsAll inner p.statements ∧ Token.kinds rest = [] :=
  (derivesAll_of_parse h).exists_spellsAll (List.append_nil _).symm fun _ hc => Text.isLower_of_mem_upperCase hc

theorem wellFormed_of_parse : p.WellFormed := by
  obtain ⟨inner, rest, -, hinner, -⟩ := exists_spellsAll_of_parse h
  exact hinner.allWellFormed

end

theorem parse_format {p : Program} (h : p.WellFormed) : parse p.format = .ok p := by
  rw [parse_eq_ok_iff, upperCase_format, toList_format]
  exact ⟨_, (Reader.takeAll?_lines _).mpr ⟨h, rfl⟩, by simp [Reader.result?]⟩

theorem parse_format_of_parse {text : String} {p : Program} (h : parse text = .ok p) : parse p.format = .ok p :=
  parse_format (wellFormed_of_parse h)

end Program

/-! ### The commands -/

namespace Command
open Program

section
variable {host : Host} {source : Source} {text : String} {p : Program}

theorem outcome_run_of_parse (hread : source.read host = .ok text) (h : parse text = .ok p) :
    (run source).outcome host = print host (Segment.render p.segments) := by
  simp only [outcome, runOutcome, hread, h]

theorem outcome_format_of_parse (hread : source.read host = .ok text) (h : parse text = .ok p) :
    (format source).outcome host = print host p.format := by
  simp only [outcome, formatOutcome, hread, h]

theorem print_of_writable (hout : host.outputError = none) (text : String) :
    print host text = ⟨.success, text, ""⟩ := by
  simp only [print, hout]

theorem exists_parse_of_format (h : ((format source).outcome host).status.code = 0) :
    ∃ text p, source.read host = .ok text ∧ parse text = .ok p := by
  simp only [outcome, formatOutcome] at h
  cases hread : source.read host with
  | error e =>
    rw [hread] at h
    cases h
  | ok text =>
    cases hparse : parse text with
    | error e =>
      simp only [hread, hparse] at h
      cases h
    | ok p => exact ⟨text, p, rfl, hparse⟩

end

end Command

/-- What is read from a text can be expressed in the language, and its canonical text draws the same and is its own
    canonical text. On the command line, `run` prints of the output of `fmt` what it prints of the input, and `fmt`
    gives back its own output. -/
theorem Program.parse_canonical :
    (∀ (text : String) (p : Program), parse text = .ok p →
      p.WellFormed ∧
      (∀ c, .color c ∈ p.listing → ∃ digits, c.text = String.ofList ('#' :: digits) ∧ digits.length = 6 ∧
        ∀ d ∈ digits, d ∈ Color.upperDigits) ∧
      (parse p.format).map Program.segments = (parse text).map Program.segments ∧
      (parse p.format).map Program.format = .ok p.format) ∧
    ∀ (host fed : Host) (source again : Source), host.outputError = none → fed.outputError = none →
      ((Command.format source).outcome host).status.code = 0 →
      again.read fed = .ok ((Command.format source).outcome host).output →
      ((Command.run again).outcome fed).output = ((Command.run source).outcome host).output ∧
      ((Command.run again).outcome fed).status = ((Command.run source).outcome host).status ∧
      (Command.format again).outcome fed = (Command.format source).outcome host := by
  constructor
  · intro text p h
    have hformat := parse_format_of_parse h
    exact ⟨wellFormed_of_parse h, fun c _ => c.exists_upperDigits, by rw [hformat, h], by rw [hformat]; rfl⟩
  · intro host fed source again hhost hfed hzero hagain
    obtain ⟨text, p, hread, hparse⟩ := Command.exists_parse_of_format hzero
    have hprinted : (Command.format source).outcome host = ⟨.success, p.format, ""⟩ := by
      rw [Command.outcome_format_of_parse hread hparse, Command.print_of_writable hhost]
    rw [hprinted] at hagain
    have hformat := parse_format_of_parse hparse
    rw [hprinted, Command.outcome_run_of_parse hread hparse, Command.outcome_run_of_parse hagain hformat,
      Command.outcome_format_of_parse hagain hformat, Command.print_of_writable hhost, Command.print_of_writable hfed,
      Command.print_of_writable hfed]
    exact ⟨rfl, rfl, rfl⟩

/-- A program in a file, with leading zeros, a comment and quotes that are not needed; its canonical text is fed to
    standard input. -/
theorem Program.parse_canonical_fed :
    let text := "down.\nrep 02 \"rep 3 \" % thrice\nforw 007 .\"\"color #a0B1c2."
    let p : Program := ⟨[.pen true, .loop 2 [.loop 3 [.move .forward 7]], .color ⟨0xA0, 0xB1, 0xC2⟩]⟩
    let host : Host := ⟨fun _ => .ok text, .error .notText, none, fun _ => ""⟩
    let fed : Host := ⟨fun _ => .error .notText, .ok p.format, none, fun _ => ""⟩
    parse text = .ok p ∧ p.WellFormed ∧ (parse p.format).map Program.segments = (parse text).map Program.segments ∧
    ((Command.format (.file "a")).outcome host).status.code = 0 ∧
    ((Command.run .standardInput).outcome fed).output = ((Command.run (.file "a")).outcome host).output ∧
    (Command.format .standardInput).outcome fed = (Command.format (.file "a")).outcome host := by
  intro text p host fed
  have hkinds : Token.kinds (Text.upperCase text) = [.keyword .down, .period, .keyword .rep, .number 2, .quote,
      .keyword .rep, .number 3, .quote, .keyword .forw, .number 7, .period, .quote, .quote, .keyword .color,
      .hex "#A0B1C2", .period] := by decide +kernel
  have hparse : parse text = .ok p := parse_eq_verdict_ok_iff.mpr (by rw [hkinds]; rfl)
  have hfile : (Source.file "a").read host = .ok text := rfl
  have hprinted : (Command.format (.file "a")).outcome host = ⟨.success, p.format, ""⟩ := by
    rw [Command.outcome_format_of_parse hfile hparse, Command.print_of_writable rfl]
  have hzero : ((Command.format (.file "a")).outcome host).status.code = 0 := by rw [hprinted]; rfl
  obtain ⟨hread, hcommands⟩ := parse_canonical
  obtain ⟨hwell, -, hsegments, -⟩ := hread text p hparse
  obtain ⟨hrun, -, hformat⟩ := hcommands host fed (.file "a") .standardInput rfl rfl hzero (by rw [hprinted]; rfl)
  exact ⟨hparse, hwell, hsegments, hzero, hrun, hformat⟩

end TurtleGraphics
