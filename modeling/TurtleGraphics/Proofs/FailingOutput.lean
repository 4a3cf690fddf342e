import TurtleGraphics.Proofs.CheckReport

/-! # When standard output fails

What `run` and `fmt` write is empty or ends in a newline, so a failure of standard output shows while they write. They
tell of it in a line on standard error and exit with code 1. There is one exception: the line that `run` has to say
about a syntax error. When that cannot be written, `run` is aborted (`output_failure_told_iff`). -/

namespace TurtleGraphics
open Text

/-- A line of a text, with the newline at its end. -/
def HasLine (text line : String) : Prop :=
  ∃ before behind, text = before ++ line ++ "\n" ++ behind ∧ (before = "" ∨ ∃ front, before = front ++ "\n")

/-- What the host would be if standard output took all that is written. -/
def Host.writable (host : Host) : Host := { host with outputError := none }

theorem Source.read_writable (source : Source) (host : Host) : source.read host.writable = source.read host := by
  cases source <;> rfl

namespace Command
open Program

/-- What a command ought to do when standard output fails: exit with code 0 if there was nothing to write and the
    program was valid, with code 1 otherwise, and tell of the failure wherever there was something to write. -/
structure Told (fault : SystemError) (attempted : String) (valid : Prop) (o : Outcome) : Prop where
  success : attempted = "" → valid → o.status.code = 0
  failure : ¬ (attempted = "" ∧ valid) → o.status.code = 1
  line : attempted ≠ "" → HasLine o.errors ("<stdout>: " ++ fault.message)

theorem hasLine_remark (name message : String) : HasLine (remark name message) (name ++ ": " ++ message) :=
  ⟨"", "", by simp [remark], Or.inl rfl⟩

section
variable {host : Host} {fault : SystemError} {source : Source} {text : String}

theorem told_print (hout : host.outputError = some fault) (text : String) {valid : Prop} (hvalid : valid) :
    Told fault text valid (print host text) := by
  by_cases htext : text = ""
  · have hprint : print host text = ⟨.success, "", ""⟩ := by simp only [print, hout, htext, if_true]
    rw [hprint]
    exact ⟨fun _ _ => rfl, fun h => absurd ⟨htext, hvalid⟩ h, fun h => absurd htext h⟩
  · have hprint : print host text = ⟨.failure, "", remark "<stdout>" fault.message⟩ := by
      simp only [print, hout, htext, if_false]
    rw [hprint]
    exact ⟨fun h => absurd h htext, fun _ => rfl, fun _ => hasLine_remark _ _⟩

/-- Where nothing is written and no program is read, it is enough to fail. -/
theorem told_of_silent {valid : Prop} (hvalid : ¬ valid) (errors : String) :
    Told fault "" valid ⟨.failure, "", errors⟩ :=
  ⟨fun _ h => absurd h hvalid, fun _ => rfl, fun h => absurd rfl h⟩

theorem outcome_of_unreadable {c : Command} {e : ReadError} (hc : c = run source ∨ c = format source)
    (hread : source.read host = .error e) : c.outcome host = ⟨.failure, "", remark source.name e.message⟩ := by
  rcases hc with rfl | rfl
  · simp only [outcome, runOutcome, hread]
  · simp only [outcome, formatOutcome, hread]

theorem outcome_format_of_error {e : SyntaxError} (hread : source.read host = .ok text) (h : parse text = .error e) :
    (format source).outcome host = ⟨.failure, "", remark source.name e.message⟩ := by
  simp only [outcome, formatOutcome, hread, h]

theorem outcome_run_of_error {e : SyntaxError} (hread : source.read host = .ok text) (h : parse text = .error e)
    (hout : host.outputError = some fault) :
    (run source).outcome host = ⟨.aborted, "", host.abortReport fault⟩ := by
  simp only [outcome, runOutcome, hread, h, hout]

end

/-! ### What is to be written -/

/-- What a command tries to write to standard output. -/
def attempted (c : Command) (host : Host) : String := (c.outcome host.writable).output

/-- A text that is empty or ends in a newline. -/
def Flushed (text : String) : Prop := text = "" ∨ ∃ front, text = front ++ "\n"

theorem flushed_of_unlines {text : String} {lines : List (List Char)} (h : text.toList = unlines lines) :
    Flushed text := by
  rcases unlines_eq_nil_or lines with hnil | ⟨front, hfront⟩
  · exact Or.inl (String.toList_eq_nil_iff.mp (h.trans hnil))
  · refine Or.inr ⟨String.ofList front, ?_⟩
    rw [← String.toList_inj, h, hfront, String.toList_append, String.toList_ofList]
    rfl

section
variable {host : Host} {source : Source} {text : String} {p : Program} {e : SyntaxError}

theorem attempted_run_of_parse (hread : source.read host = .ok text) (h : parse text = .ok p) :
    (run source).attempted host = Segment.render p.segments := by
  rw [attempted, outcome_run_of_parse ((source.read_writable host).trans hread) h, print_of_writable rfl]

theorem attempted_format_of_parse (hread : source.read host = .ok text) (h : parse text = .ok p) :
    (format source).attempted host = p.format := by
  rw [attempted, outcome_format_of_parse ((source.read_writable host).trans hread) h, print_of_writable rfl]

theorem attempted_run_of_error (hread : source.read host = .ok text) (h : parse text = .error e) :
    (run source).attempted host = syntaxErrorLine e := by
  have hout : host.writable.outputError = none := rfl
  simp only [attempted, outcome, runOutcome, (source.read_writable host).trans hread, h, hout]

theorem attempted_format_of_error (hread : source.read host = .ok text) (h : parse text = .error e) :
    (format source).attempted host = "" := by
  rw [attempted, outcome_format_of_error ((source.read_writable host).trans hread) h]

theorem attempted_of_unreadable {c : Command} {e : ReadError} (hc : c = run source ∨ c = format source)
    (hread : source.read host = .error e) : c.attempted host = "" := by
  rw [attempted, outcome_of_unreadable hc ((source.read_writable host).trans hread)]

end

/-! ### The exception -/

theorem syntaxErrorLine_ne_empty (e : SyntaxError) : syntaxErrorLine e ≠ "" := by
  intro h
  have hlast : "\n" = "" := (String.append_eq_empty_iff.mp h).2
  exact absurd hlast (by decide)

/-- A text that was read and is no program. -/
def Refused (content : Except ReadError String) : Prop := ∃ text e, content = .ok text ∧ parse text = .error e

theorem not_holdsProgram_of_refused {content : Except ReadError String} (h : Refused content) :
    ¬ HoldsProgram content := by
  rintro ⟨text', p, hread', hp⟩
  obtain ⟨text, e, hread, he⟩ := h
  cases hread.symm.trans hread'
  cases he.symm.trans hp

section
variable {host : Host} {source : Source} {c : Command}

/-- What `run` and `fmt` may come upon: a program, whose output they print; something of which nothing is to be written;
    or, in `run`, a syntax error. -/
theorem attempt_cases (hc : c = run source ∨ c = format source) :
    HoldsProgram (source.read host) ∧ Flushed (c.attempted host) ∧ c.outcome host = print host (c.attempted host) ∨
    ¬ HoldsProgram (source.read host) ∧ c.attempted host = "" ∧ (∃ errors, c.outcome host = ⟨.failure, "", errors⟩) ∨
    (c = run source ∧ Refused (source.read host)) ∧ Flushed (c.attempted host) := by
  cases hread : source.read host with
  | error e =>
    have hnot : ¬ HoldsProgram (.error e) := fun ⟨_, _, hok, _⟩ => by cases hok
    exact Or.inr (Or.inl ⟨hnot, attempted_of_unreadable hc hread, _, outcome_of_unreadable hc hread⟩)
  | ok text =>
    cases hparse : parse text with
    | ok p =>
      have hholds : HoldsProgram (.ok text) := ⟨text, p, rfl, hparse⟩
      rcases hc with rfl | rfl
      · rw [attempted_run_of_parse hread hparse]
        exact Or.inl ⟨hholds, flushed_of_unlines (Segment.toList_render _), outcome_run_of_parse hread hparse⟩
      · rw [attempted_format_of_parse hread hparse]
        exact Or.inl ⟨hholds, flushed_of_unlines p.toList_format_unlines, outcome_format_of_parse hread hparse⟩
    | error e =>
      have hrefused : Refused (.ok text) := ⟨text, e, rfl, hparse⟩
      rcases hc with rfl | rfl
      · rw [attempted_run_of_error hread hparse]
        exact Or.inr (Or.inr ⟨⟨rfl, hrefused⟩, Or.inr ⟨_, rfl⟩⟩)
      · exact Or.inr (Or.inl ⟨not_holdsProgram_of_refused hrefused, attempted_format_of_error hread hparse, _,
          outcome_format_of_error hread hparse⟩)

theorem flushed_attempted (hc : c = run source ∨ c = format source) : Flushed (c.attempted host) := by
  rcases attempt_cases hc with ⟨-, hflushed, -⟩ | ⟨-, hnothing, -⟩ | ⟨-, hflushed⟩
  · exact hflushed
  · exact Or.inl hnothing
  · exact hflushed

variable {fault : SystemError} (hout : host.outputError = some fault)
include hout

theorem told_of_not_refused (hc : c = run source ∨ c = format source)
    (h : ¬ (c = run source ∧ Refused (source.read host))) :
    Told fault (c.attempted host) (HoldsProgram (source.read host)) (c.outcome host) := by
  rcases attempt_cases hc with ⟨hholds, -, hprint⟩ | ⟨hnot, hnothing, errors, hfails⟩ | ⟨hrefused, -⟩
  · rw [hprint]
    exact told_print hout _ hholds
  · rw [hnothing, hfails]
    exact told_of_silent hnot errors
  · exact absurd hrefused h

theorem aborted_of_refused (h : Refused (source.read host)) :
    (run source).attempted host ≠ "" ∧ ((run source).outcome host).status.code = 101 ∧
    ((run source).outcome host).errors = host.abortReport fault := by
  obtain ⟨text, e, hread, hparse⟩ := h
  rw [attempted_run_of_error hread hparse, outcome_run_of_error hread hparse hout]
  exact ⟨syntaxErrorLine_ne_empty e, rfl, rfl⟩

theorem not_told_of_refused (h : Refused (source.read host)) {valid : Prop} :
    ¬ Told fault ((run source).attempted host) valid ((run source).outcome host) := by
  intro htold
  obtain ⟨hne, hcode, -⟩ := aborted_of_refused hout h
  have hfailure := htold.failure fun hnothing => hne hnothing.1
  rw [hcode] at hfailure
  cases hfailure

end

/-- What `run` and `fmt` write is empty or ends in a newline. A standard output that fails is told of, except when `run`
    has a syntax error to report: then it is aborted, and all that is on standard error comes from the abort. -/
theorem output_failure_told_iff (host : Host) (fault : SystemError) (hout : host.outputError = some fault)
    (source : Source) (c : Command) (hc : c = run source ∨ c = format source) :
    Flushed (c.attempted host) ∧
    (Told fault (c.attempted host) (HoldsProgram (source.read host)) (c.outcome host) ↔
      ¬ (c = run source ∧ Refused (source.read host))) ∧
    (c = run source → Refused (source.read host) →
      c.attempted host ≠ "" ∧ (c.outcome host).status.code = 101 ∧
      (c.outcome host).errors = host.abortReport fault) := by
  refine ⟨flushed_attempted hc, ⟨?_, told_of_not_refused hout hc⟩, ?_⟩
  · rintro htold ⟨rfl, hrefused⟩
    exact not_told_of_refused hout hrefused htold
  · rintro rfl hrefused
    exact aborted_of_refused hout hrefused

theorem output_failure_told_iff_format :
    let host : Host := ⟨fun _ => .error .notText, .ok "up.", some .noSpace, fun _ => ""⟩
    let c := format .standardInput
    host.outputError = some .noSpace ∧ c.attempted host = "UP.\n" ∧ (c.outcome host).status.code = 1 ∧
    HasLine (c.outcome host).errors "<stdout>: No space left on device (os error 28)" := by
  intro host c
  have hkinds : Token.kinds (upperCase "up.") = [.keyword .up, .period] := by decide +kernel
  have hparse : parse "up." = .ok ⟨[.pen false]⟩ := parse_eq_verdict_ok_iff.mpr (by rw [hkinds]; rfl)
  have hattempted : c.attempted host = "UP.\n" := by
    rw [attempted_format_of_parse rfl hparse, ← String.toList_inj, toList_format_unlines, List.map_singleton,
      Statement.chars_pen]
    decide +kernel
  have hne : c.attempted host ≠ "" := by rw [hattempted]; decide +kernel
  obtain ⟨-, hiff, -⟩ := output_failure_told_iff host .noSpace rfl .standardInput c (Or.inr rfl)
  have htold := hiff.mpr fun h => by simp [c] at h
  exact ⟨rfl, hattempted, htold.failure fun h => hne h.1, htold.line hne⟩

/-- A number that is zero is a syntax error, and `run` has a line to say about it. Whatever an aborted process leaves on
    standard error, its code is not the one that is asked for. -/
theorem output_failure_untold_zero :
    let host (report : SystemError → String) : Host := ⟨fun _ => .error .notText, .ok "FORW 0.", some .noSpace, report⟩
    let c := run .standardInput
    parse "FORW 0." = .error ⟨.lexical .zeroNumber, ⟨5, 1, 6⟩⟩ ∧ ∀ report,
      ¬ Told .noSpace (c.attempted (host report)) (HoldsProgram (Source.standardInput.read (host report)))
        (c.outcome (host report)) ∧
      c.attempted (host report) = "Syntaxfel på rad 1\n" ∧ (c.outcome (host report)).status.code = 101 ∧
      (c.outcome (host report)).errors = report .noSpace := by
  intro host c
  have hkinds : Token.kinds (upperCase "FORW 0.") = [.keyword .forw, .error .zeroNumber, .period] := by decide +kernel
  have hparse : parse "FORW 0." = .error ⟨.lexical .zeroNumber, ⟨5, 1, 6⟩⟩ :=
    parse_eq_error_iff.mpr ⟨1, by rw [hkinds]; rfl, by decide +kernel⟩
  refine ⟨hparse, fun report => ?_⟩
  have hrefused : Refused (Source.standardInput.read (host report)) := ⟨_, _, rfl, hparse⟩
  obtain ⟨-, hcode, herrors⟩ := aborted_of_refused rfl hrefused
  exact ⟨not_told_of_refused rfl hrefused, (attempted_run_of_error rfl hparse).trans (by decide +kernel), hcode,
    herrors⟩

end Command

end TurtleGraphics
