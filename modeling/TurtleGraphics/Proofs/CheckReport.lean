import TurtleGraphics.Proofs.ColorLiterals
import TurtleGraphics.Proofs.Lines

/-! # What `check` reports

Of every file `check` says one line, which depends on what reading that file gives and on nothing else. That it is one
line rests on the messages: a message that repeats a part of the text repeats the text of one token, which is on one
line, and a character that starts nothing is escaped. -/

namespace TurtleGraphics
open Text

/-! ### Messages on one line -/

theorem newline_notMem_toDigits (n : Nat) : '\n' ∉ Nat.toDigits 16 n := by
  induction n using Nat.strongRecOn with
  | _ n ih =>
    rcases Nat.lt_or_ge n 16 with hlt | hge
    · rw [Nat.toDigits_of_lt_base hlt, List.mem_singleton]
      exact (Nat.digitChar_ne '\n' rfl).symm
    · rw [Nat.toDigits_of_base_le (by decide) hge, List.mem_append, List.mem_singleton, not_or]
      exact ⟨ih _ (by omega), (Nat.digitChar_ne '\n' rfl).symm⟩

theorem Text.oneLine_escape (c : Char) : OneLine (escape c) := by
  unfold escape
  split
  · decide +kernel
  split
  · decide +kernel
  split
  · decide +kernel
  -- From here on the character is no newline.
  next hnewline =>
  split
  · simp [OneLine, Ne.symm hnewline]
  split
  · simp [OneLine, Ne.symm hnewline]
  · refine oneLine_quoting (by decide +kernel) ?_ (by decide +kernel)
    rw [OneLine, String.toList_ofList]
    exact newline_notMem_toDigits _

namespace LexicalError

/-- The part of the text that a message repeats. -/
def quoted : LexicalError → String
  | unknownKeyword word => word
  | malformedNumber digits | numberTooLarge digits => digits
  | malformedColor literal => literal
  | missingSeparator _ | zeroNumber | unexpectedCharacter _ => ""

theorem oneLine_message {cause : LexicalError} (h : OneLine cause.quoted) : OneLine cause.message := by
  cases cause with
  | unknownKeyword word =>
    exact oneLine_append.mpr ⟨oneLine_quoting (by decide +kernel) h (by decide +kernel), by decide +kernel⟩
  | missingSeparator k => exact oneLine_quoting (by decide +kernel) (by cases k <;> decide +kernel) (by decide +kernel)
  | zeroNumber => decide +kernel
  | malformedNumber digits | numberTooLarge digits => exact oneLine_quoting (by decide +kernel) h (by decide +kernel)
  | malformedColor literal => exact oneLine_quoting (by decide +kernel) h (by decide +kernel)
  | unexpectedCharacter c => exact oneLine_append.mpr ⟨by decide +kernel, oneLine_escape c⟩

end LexicalError

namespace Token

/-- What an error repeats is the text of its token. -/
theorem Stretch.oneLine_quoted {c : Char} {run rest : List Char} {ks : List Kind} {cause : LexicalError}
    (h : Stretch c run rest ks) (hk : .error cause ∈ ks) : OneLine cause.quoted := by
  have hline : OneLine (String.ofList (c :: run)) := by
    rw [OneLine, String.toList_ofList]
    exact h.newline_notMem (List.ne_nil_of_mem hk)
  cases cause with
  | unknownKeyword word =>
    obtain ⟨-, hrules⟩ := h.starts_and_rules (f := .word) hk rfl
    exact ((hrules.unknownKeyword word).mp rfl).1 ▸ hline
  | malformedNumber digits =>
    obtain ⟨-, hrules⟩ := h.starts_and_rules (f := .number) hk rfl
    exact ((hrules.malformedNumber digits).mp rfl).1 ▸ hline
  | numberTooLarge digits =>
    obtain ⟨-, hrules⟩ := h.starts_and_rules (f := .number) hk rfl
    exact ((hrules.numberTooLarge digits).mp rfl).1 ▸ hline
  | malformedColor literal =>
    obtain ⟨-, hrules⟩ := h.starts_and_rules (f := .color) hk rfl
    exact (hrules.malformedColor literal rfl).1 ▸ hline
  | missingSeparator | zeroNumber | unexpectedCharacter => exact List.not_mem_nil

theorem oneLine_message_of_mem {text : String} {t : Token} {cause : LexicalError} (h : t ∈ scan text)
    (hk : t.kind = .error cause) : OneLine cause.message := by
  have hmem := mem_tokensFrom_of_mem_scan h (by rw [hk]; intro heof; cases heof)
  obtain ⟨front, c, run, rest, ks, -, hstretch, ⟨kind, hkind, rfl⟩, -⟩ := exists_stretch_of_mem [] hmem
  obtain rfl : kind = .error cause := hk
  exact LexicalError.oneLine_message (hstretch.oneLine_quoted hkind)

theorem Label.oneLine_text (l : Label) : OneLine l.text := by
  cases l with
  | keyword word => cases word <;> decide +kernel
  | number | color | period | quote | invalid | endOfInput => decide +kernel

end Token

namespace SyntaxError

theorem oneLine_message {e : SyntaxError} (h : OneLine e.kind.message) : OneLine e.message :=
  oneLine_append.mpr ⟨oneLine_quoting (oneLine_append.mpr ⟨h, by decide +kernel⟩) (oneLine_repr _) (by decide +kernel),
    oneLine_repr _⟩

theorem Expectation.oneLine_text (x : Expectation) : OneLine x.text := by
  cases x <;> decide +kernel

end SyntaxError

namespace Program

theorem mem_of_tokenAt {tokens : List Token} {k : Nat} {cause : LexicalError}
    (h : (tokenAt tokens k).kind = .error cause) : tokenAt tokens k ∈ tokens := by
  rw [tokenAt] at h ⊢
  cases hk : tokens[k]? with
  | none =>
    rw [hk] at h
    cases h
  | some t => exact List.mem_of_getElem? hk

/-- The message of a syntax error is on one line, whatever the text is. -/
theorem oneLine_message_of_parse {text : String} {e : SyntaxError} (h : parse text = .error e) : OneLine e.message := by
  have hcolor := ne_invalidColor h
  obtain ⟨k, r, -, -, -, -, rfl⟩ := exists_blame_of_error h
  refine SyntaxError.oneLine_message ?_
  show OneLine (r.blame (tokenAt (Token.scan text) k).kind).message
  rcases r.blame_cases (tokenAt (Token.scan text) k).kind with ⟨cause, hkind, hb⟩ | ⟨-, -, hb⟩ | ⟨literal, -, -, hb⟩ |
    ⟨-, -, hb⟩ | ⟨-, -, -, ⟨expectation, hb⟩ | hb⟩
  · rw [hb]
    exact Token.oneLine_message_of_mem (mem_of_tokenAt hkind) hkind
  · rw [hb]
    decide +kernel
  · exact absurd hb (hcolor literal)
  · rw [hb]
    decide +kernel
  · rw [hb]
    exact oneLine_append.mpr ⟨oneLine_quoting (by decide +kernel) expectation.oneLine_text (by decide +kernel),
      Token.Label.oneLine_text _⟩
  · rw [hb]
    exact oneLine_append.mpr ⟨by decide +kernel, Token.Label.oneLine_text _⟩

end Program

/-! ### The report -/

namespace Command
open Program

/-- What is said of a file that reading gives `content` of. -/
def said : Except ReadError String → String
  | .error e => e.message
  | .ok text => match parse text with
    | .ok p => "valid (" ++ (Statement.sizeAll p.statements).repr ++ " statement(s))"
    | .error e => e.message

/-- A file that can be read and holds a program. -/
def HoldsProgram (content : Except ReadError String) : Prop := ∃ text p, content = .ok text ∧ parse text = .ok p

theorem said_of_parse {text : String} {p : Program} (h : parse text = .ok p) :
    said (.ok text) = "valid (" ++ (Statement.sizeAll p.statements).repr ++ " statement(s))" := by
  simp only [said, h]

theorem said_of_error {text : String} {e : SyntaxError} (h : parse text = .error e) : said (.ok text) = e.message := by
  simp only [said, h]

theorem findings_file (host : Host) (path : String) :
    ((findings host [path]).failed = true ↔ ¬ HoldsProgram (host.file path)) ∧
    (findings host [path]).lines = remark path (said (host.file path)) := by
  rw [findings, List.foldl_cons, List.foldl_nil]
  cases hfile : host.file path with
  | error e => simp [checkNext, hfile, HoldsProgram, said]
  | ok text =>
    cases hparse : parse text with
    | ok p =>
      rw [said_of_parse hparse, ← Statement.length_wordsAll, ← statementCount_eq]
      simp [checkNext, hfile, hparse, HoldsProgram]
    | error e =>
      rw [said_of_error hparse]
      simp [checkNext, hfile, hparse, HoldsProgram]

theorem oneLine_said {content : Except ReadError String} (h : ∀ e, content = .error e → OneLine e.message) :
    OneLine (said content) := by
  cases content with
  | error e => exact h e rfl
  | ok text =>
    cases hparse : parse text with
    | ok p =>
      rw [said_of_parse hparse]
      exact oneLine_quoting (by decide +kernel) (oneLine_repr _) (by decide +kernel)
    | error e =>
      rw [said_of_error hparse]
      exact oneLine_message_of_parse hparse

section
variable (host : Host) (paths : List String)

/-- The flag that goes along tells of every file, and so do the lines. -/
theorem findings_eq : findings host paths =
    ⟨paths.any fun path => (findings host [path]).failed,
      String.join (paths.map fun path => (findings host [path]).lines)⟩ := by
  induction paths with
  | nil => rfl
  | cons path paths ih =>
    rw [← List.singleton_append, findings_append, ih, Findings.append_eq, List.singleton_append, List.any_cons,
      List.map_cons, String.join_cons]

theorem toList_errors_check : ((check paths).outcome host).errors.toList =
    unlines (paths.map fun path => (path ++ ": " ++ said (host.file path)).toList) := by
  rw [outcome, checkOutcome, findings_eq, String.toList_join, unlines, List.flatMap_map, List.flatMap_map]
  refine List.flatMap_congr fun path _ => ?_
  rw [(findings_file host path).2, remark, String.toList_append]
  rfl

theorem code_check :
    (∀ path ∈ paths, HoldsProgram (host.file path)) ∧ ((check paths).outcome host).status.code = 0 ∨
    (∃ path ∈ paths, ¬ HoldsProgram (host.file path)) ∧ ((check paths).outcome host).status.code = 1 := by
  have hfailed : (findings host paths).failed = true ↔ ∃ path ∈ paths, ¬ HoldsProgram (host.file path) := by
    rw [findings_eq, List.any_eq_true]
    exact exists_congr fun path => and_congr_right fun _ => (findings_file host path).1
  rw [outcome, checkOutcome]
  dsimp only
  split
  next h => exact Or.inr ⟨hfailed.mp h, rfl⟩
  next h =>
    rw [hfailed] at h
    exact Or.inl ⟨by simpa using h, rfl⟩

theorem outcome_check_congr {other : Host} (h : ∀ path ∈ paths, other.file path = host.file path) :
    (check paths).outcome other = (check paths).outcome host := by
  have hfindings : findings other paths = findings host paths :=
    List.foldl_ext _ _ _ fun before path hpath => by rw [checkNext, checkNext, h path hpath]
  rw [outcome, outcome, checkOutcome, checkOutcome, hfindings]

end

/-- `check` says one line of every file, in the order of the arguments and on standard error alone. The line depends on
    what reading that file gives and on nothing else, and the exit code is 0 when every file holds a program. -/
theorem check_reports (host : Host) (paths : List String) (hnames : ∀ path ∈ paths, OneLine path)
    (hfaults : ∀ path ∈ paths, ∀ e, host.file path = .error e → OneLine e.message) :
    let report := (check paths).outcome host
    report.output = "" ∧
    report.errors.toList.splitOn '\n' =
      paths.map (fun path => (path ++ ": " ++ said (host.file path)).toList) ++ [[]] ∧
    (∀ ps qs, paths = ps ++ qs →
      report.errors = ((check ps).outcome host).errors ++ ((check qs).outcome host).errors) ∧
    (∀ other : Host, (∀ path ∈ paths, other.file path = host.file path) → (check paths).outcome other = report) ∧
    ((∀ path ∈ paths, HoldsProgram (host.file path)) ∧ report.status.code = 0 ∨
      (∃ path ∈ paths, ¬ HoldsProgram (host.file path)) ∧ report.status.code = 1) ∧
    ∀ text e, parse text = .error e → OneLine e.message := by
  refine ⟨rfl, ?_, ?_, fun other => outcome_check_congr host paths, code_check host paths,
    fun text e => oneLine_message_of_parse⟩
  · rw [toList_errors_check, splitOn_unlines]
    rw [List.forall_mem_map]
    exact fun path hpath => oneLine_quoting (hnames path hpath) (by decide +kernel) (oneLine_said (hfaults path hpath))
  · rintro ps qs rfl
    exact errors_check_append host ps qs

-- The first file cannot be read, the second ends in a carriage return, and the last is a repeat.
theorem check_reports_repeated :
    let host : Host := ⟨fun path => if path = "a" then .error (.system .notFound) else
      .ok (if path = "b" then "FORW 1.\n\r" else "REP 2 \"UP. LEFT 1.\""), .error .notText, some .noSpace,
      fun _ => ""⟩
    let paths := ["a", "b", "c", "a"]
    (∀ path ∈ paths, OneLine path) ∧ (∀ path ∈ paths, ∀ e, host.file path = .error e → OneLine e.message) ∧
    ((check paths).outcome host).errors.toList.splitOn '\n' =
      ["a: No such file or directory (os error 2)".toList, "b: unexpected character: \\r at line 2, column 1".toList,
        "c: valid (3 statement(s))".toList, "a: No such file or directory (os error 2)".toList, []] ∧
    ((check paths).outcome host).status.code = 1 ∧ ((check ["c", "c"]).outcome host).status.code = 0 := by
  intro host paths
  have hbad : Token.kinds (upperCase "FORW 1.\n\r") =
      [.keyword .forw, .number 1, .period, .error (.unexpectedCharacter '\r')] := by decide +kernel
  have hgood : Token.kinds (upperCase "REP 2 \"UP. LEFT 1.\"") =
      [.keyword .rep, .number 2, .quote, .keyword .up, .period, .keyword .left, .number 1, .period, .quote] := by
    decide +kernel
  have hb : parse "FORW 1.\n\r" = .error ⟨.lexical (.unexpectedCharacter '\r'), ⟨8, 2, 1⟩⟩ :=
    parse_eq_error_iff.mpr ⟨3, by rw [hbad]; rfl, by decide +kernel⟩
  have hc : parse "REP 2 \"UP. LEFT 1.\"" = .ok ⟨[.loop 2 [.pen false, .turn .left 1]]⟩ :=
    parse_eq_verdict_ok_iff.mpr (by rw [hgood]; rfl)
  have hfile : host.file "a" = .error (.system .notFound) ∧ host.file "b" = .ok "FORW 1.\n\r" ∧
      host.file "c" = .ok "REP 2 \"UP. LEFT 1.\"" := by simp [host]
  have hnames : ∀ path ∈ paths, OneLine path := by decide +kernel
  have hfaults : ∀ path ∈ paths, ∀ e, host.file path = .error e → OneLine e.message := by
    intro path _ e he
    simp only [host] at he
    split at he
    · cases he
      decide +kernel
    · cases he
  obtain ⟨-, hlines, -, -, hcode, -⟩ := check_reports host paths hnames hfaults
  refine ⟨hnames, hfaults, hlines.trans ?_, ?_, ?_⟩
  · simp only [paths, List.map_cons, List.map_nil, hfile]
    rw [said_of_parse hc, said_of_error hb]
    decide +kernel
  · rcases hcode with ⟨hall, -⟩ | ⟨-, hcode⟩
    · obtain ⟨text, p, htext, -⟩ := hall "a" (by decide +kernel)
      cases hfile.1.symm.trans htext
    · exact hcode
  · rcases code_check host ["c", "c"] with ⟨-, hcode⟩ | ⟨⟨path, hpath, hnot⟩, -⟩
    · exact hcode
    · obtain rfl : path = "c" := by simpa using hpath
      exact absurd ⟨_, _, hfile.2.2, hc⟩ hnot

end Command

end TurtleGraphics
