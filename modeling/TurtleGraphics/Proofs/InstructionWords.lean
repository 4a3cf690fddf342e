import TurtleGraphics.Proofs.Agreement
import TurtleGraphics.Proofs.Listing

/-! # One statement for each instruction word

Every statement of a program, at whatever depth, is written with one keyword, and the listing of the program names the
statements in the order of their keywords. So the words of a text that was read can be found in three places in the same
order: in the listing (`Entry.keyword`), among the tokens (`Derives.words`), and in the text itself, once its comments
are left out (`Spells.words`). A period ends every statement that is no loop. -/

namespace TurtleGraphics

/-- The word that a token is, if it is one. -/
def Token.Kind.keyword? : Kind → Option Keyword
  | keyword word => some word
  | _ => none

/-! ### Tokens -/

namespace Program
open Statement

mutual

theorem Derives.words {kinds : List Token.Kind} {s : Statement} :
    Derives kinds s → kinds.filterMap Token.Kind.keyword? = s.words
  | .move _ _ | .turn _ _ | .pen _ | .color _ => by
    rw [Statement.words, entries]
    rfl
  | .bare n h => by
    rw [words_loop, wordsAll_cons, wordsAll_nil, List.append_nil, ← h.words]
    rfl
  | .quoted n h _ => by
    rw [words_loop, ← h.words]
    exact congrArg (Keyword.rep :: ·) (List.filterMap_append.trans (List.append_nil _))

theorem DerivesAll.words {kinds : List Token.Kind} {ss : List Statement} :
    DerivesAll kinds ss → kinds.filterMap Token.Kind.keyword? = wordsAll ss
  | .nil => by rw [wordsAll_nil]; rfl
  | .cons h hr => by rw [List.filterMap_append, h.words, hr.words, wordsAll_cons]

end

-- A loop has no period of its own; its body ends with one, or with a quote behind one.
mutual

theorem Derives.periods {kinds : List Token.Kind} {s : Statement} :
    Derives kinds s → kinds.count .period + s.loops = s.size
  | .move _ _ | .turn _ _ | .pen _ | .color _ => by
    rw [loops, size]
    rfl
  | .bare n h => by
    rw [List.count_cons_of_ne (by simp), List.count_cons_of_ne (by simp), loops, loopsAll, loopsAll, size, sizeAll,
      sizeAll, ← h.periods]
    omega
  | .quoted n h _ => by
    have hquote : List.count Token.Kind.period [.quote] = 0 := by decide
    rw [List.count_cons_of_ne (by simp), List.count_cons_of_ne (by simp), List.count_cons_of_ne (by simp),
      List.count_append, hquote, loops, size, ← h.periods]
    omega

theorem DerivesAll.periods {kinds : List Token.Kind} {ss : List Statement} :
    DerivesAll kinds ss → kinds.count .period + loopsAll ss = sizeAll ss
  | .nil => by rw [loopsAll, sizeAll]; rfl
  | .cons h hr => by
    rw [List.count_append, loopsAll, sizeAll, ← h.periods, ← hr.periods]
    omega

end

end Program

/-! ### Words of a text -/

namespace Text
open Token

/-- The text without its comments. -/
def withoutComments : List Char → List Char
  | [] => []
  | c :: rest => if c = '%' then withoutComments (rest.dropWhile (· != '\n')) else c :: withoutComments rest
termination_by text => text.length
decreasing_by
  · exact Nat.lt_succ_of_le (List.dropWhile_suffix _).length_le
  · exact Nat.lt_succ_self _

/-- The keywords among the words of a text. A word is a run of letters that no letter stands next to. -/
def keywords (text : List Char) : List Keyword :=
  (text.splitOnP (!isAlphabetic ·)).filterMap fun word => Keyword.ofText? (String.ofList word)

/-- The keywords of a text, outside of comments. -/
def instructionWords (text : List Char) : List Keyword := keywords (withoutComments text)

theorem keywords_nil : keywords [] = [] := by
  rw [keywords, List.splitOnP_nil]
  rfl

/-- Words end where there is no letter. -/
theorem keywords_append_cons {c : Char} (h : isAlphabetic c = false) (a b : List Char) :
    keywords (a ++ c :: b) = keywords a ++ keywords b := by
  rw [keywords, List.splitOnP_append_cons a b (by rw [h]; rfl), List.filterMap_append]
  rfl

theorem keywords_cons {c : Char} (h : isAlphabetic c = false) (rest : List Char) :
    keywords (c :: rest) = keywords rest := by
  have hsplit := keywords_append_cons h [] rest
  rwa [List.nil_append, keywords_nil, List.nil_append] at hsplit

theorem keywords_append {b : List Char} (h : Stops isAlphabetic b) (a : List Char) :
    keywords (a ++ b) = keywords a ++ keywords b := by
  cases b with
  | nil => rw [List.append_nil, keywords_nil, List.append_nil]
  | cons c b => rw [keywords_append_cons (h c rfl), keywords_cons (h c rfl)]

theorem keywords_text (k : Keyword) : keywords k.text.toList = [k] := by
  rw [keywords, List.splitOnP_eq_singleton fun c hc => by rw [Keyword.isAlphabetic_text k c hc]; rfl]
  simp [Keyword.ofText?_text]

/-- The words of a text are made of its characters. -/
theorem mem_of_mem_splitOnP {p : Char → Bool} {text word : List Char} (h : word ∈ text.splitOnP p) :
    ∀ c ∈ word, c ∈ text := by
  induction text generalizing word with
  | nil =>
    rw [List.splitOnP_nil, List.mem_singleton] at h
    simp [h]
  | cons d text ih =>
    obtain ⟨first, others, hsplit⟩ := List.exists_cons_of_ne_nil (List.splitOnP_ne_nil p text)
    rw [List.splitOnP_cons_eq_if_modifyHead, hsplit] at h
    rw [hsplit] at ih
    intro c hc
    split at h
    · rcases List.mem_cons.mp h with rfl | h
      · cases hc
      · exact List.mem_cons_of_mem _ (ih h c hc)
    · rcases List.mem_cons.mp h with rfl | h
      · exact List.cons_subset_cons d (ih List.mem_cons_self) hc
      · exact List.mem_cons_of_mem _ (ih (List.mem_cons_of_mem _ h) c hc)

/-- There is no keyword in the digits of a color. -/
theorem keywords_digits {digits : List Char} (h : ∀ d ∈ digits, d ∈ Color.upperDigits) : keywords digits = [] := by
  have hother : ∀ k : Keyword, k.text.toList.all (Color.upperDigits.contains ·) = false := by
    intro k
    cases k <;> decide
  rw [keywords, List.filterMap_eq_nil_iff]
  intro word hword
  rw [Option.eq_none_iff_forall_ne_some]
  intro k hk
  obtain ⟨c, hc, hno⟩ := List.all_eq_false.mp (hother k)
  rw [Keyword.text_of_ofText? hk, String.toList_ofList] at hc
  exact hno (List.contains_iff_mem.mpr (h c (mem_of_mem_splitOnP hword c hc)))

theorem withoutComments_append {a : List Char} (h : '%' ∉ a) (b : List Char) :
    withoutComments (a ++ b) = a ++ withoutComments b := by
  induction a with
  | nil => rfl
  | cons c a ih =>
    obtain ⟨hc, ha⟩ := List.ne_and_not_mem_of_not_mem_cons h
    rw [List.cons_append, withoutComments, if_neg (Ne.symm hc), ih ha, List.cons_append]

theorem withoutComments_comment {body rest : List Char} (hb : '\n' ∉ body) (hstop : Stops (· != '\n') rest) :
    withoutComments ('%' :: (body ++ rest)) = withoutComments rest := by
  have hrun : ∀ c ∈ body, (c != '\n') = true := fun c hc => bne_iff_ne.mpr fun h => hb (h ▸ hc)
  rw [withoutComments, if_pos rfl, dropWhile_run hrun hstop]

theorem stops_withoutComments {text : List Char} (h : Delimited text) : Stops isAlphabetic (withoutComments text) := by
  -- A comment leaves the newline behind it, or nothing.
  have hcomment : ∀ rest : List Char, Stops isAlphabetic (withoutComments (rest.dropWhile (· != '\n'))) := by
    intro rest
    have hstop := stops_dropWhile (· != '\n') rest
    cases hrest : rest.dropWhile (· != '\n') with
    | nil =>
      rw [withoutComments]
      intro c hc
      cases hc
    | cons d more =>
      rw [hrest] at hstop
      obtain rfl : d = '\n' := by simpa using hstop d rfl
      rw [withoutComments, if_neg (by decide)]
      intro c hc
      cases hc
      decide
  cases text with
  | nil => rcases h with h | h <;> cases h
  | cons c rest =>
    by_cases hc : c = '%'
    · rw [withoutComments, if_pos hc]
      exact hcomment rest
    · have hstop := h.stops (p := isAlphabetic) (by decide)
      rw [withoutComments, if_neg hc]
      intro d hd
      cases hd
      exact hstop c rfl

theorem instructionWords_append {a b : List Char} (ha : '%' ∉ a) (hb : Delimited b) :
    instructionWords (a ++ b) = keywords a ++ instructionWords b := by
  rw [instructionWords, withoutComments_append ha, keywords_append (stops_withoutComments hb)]
  rfl

theorem instructionWords_cons {c : Char} (hletter : isAlphabetic c = false) (hc : c ≠ '%') (rest : List Char) :
    instructionWords (c :: rest) = instructionWords rest := by
  rw [instructionWords, withoutComments, if_neg hc, keywords_cons hletter]
  rfl

theorem instructionWords_gap {gap : List Char} (h : Gap gap) (rest : List Char) :
    instructionWords (gap ++ rest) = instructionWords rest := by
  induction h with
  | nil => rfl
  | @blank c gap hc h ih =>
    have hblank : [' ', '\t', '\n'].all (fun d => !isAlphabetic d && d != '%') = true := by decide
    have hc := List.all_eq_true.mp hblank c hc
    rw [Bool.and_eq_true, Bool.not_eq_true', bne_iff_ne] at hc
    rw [List.cons_append, instructionWords_cons hc.1 hc.2, ih]
  | @comment body gap hb h ih =>
    have hstop : Stops (· != '\n') ('\n' :: gap ++ rest) := stops_newline _
    rw [List.cons_append, List.append_assoc, instructionWords, withoutComments_comment hb hstop]
    exact ih

theorem instructionWords_keyword {k : Keyword} {word : String} (hw : k.text = word) {rest : List Char}
    (hd : Delimited rest) : instructionWords (word.toList ++ rest) = k :: instructionWords rest := by
  have hpercent : '%' ∉ k.text.toList := by cases k <;> decide
  rw [← hw, instructionWords_append hpercent hd, keywords_text]
  rfl

theorem instructionWords_digits {digits : List Char} (h : ∀ d ∈ digits, d.isDigit = true) (rest : List Char) :
    instructionWords (digits ++ rest) = instructionWords rest := by
  induction digits with
  | nil => rfl
  | cons d digits ih =>
    rw [List.forall_mem_cons] at h
    have hpercent : d ≠ '%' := by
      rintro rfl
      cases h.1
    rw [List.cons_append, instructionWords_cons (isAlphabetic_of_isDigit h.1) hpercent, ih h.2]

theorem instructionWords_numbered {k : Keyword} {word : String} (hw : k.text = word) {gap digits : List Char}
    {n : UInt32} (hg : Gap gap) (hne : gap ≠ []) (hn : Numeral digits n) (rest : List Char) :
    instructionWords (word.toList ++ (gap ++ (digits ++ rest))) = k :: instructionWords rest := by
  rw [instructionWords_keyword hw (Or.inl (hg.startsSeparator hne _)), instructionWords_gap hg,
    instructionWords_digits hn.isDigit]

theorem instructionWords_color {digits rest : List Char} (h : ∀ d ∈ digits, d ∈ Color.upperDigits)
    (hd : Delimited rest) : instructionWords ('#' :: (digits ++ rest)) = instructionWords rest := by
  have hpercent : '%' ∉ digits := fun hmem => absurd (h _ hmem) (by decide)
  rw [instructionWords_cons (by decide) (by decide), instructionWords_append hpercent hd, keywords_digits h]
  rfl

theorem instructionWords_period (rest : List Char) : instructionWords ('.' :: rest) = instructionWords rest :=
  instructionWords_cons (by decide) (by decide) rest

theorem instructionWords_quote (rest : List Char) : instructionWords ('"' :: rest) = instructionWords rest :=
  instructionWords_cons (by decide) (by decide) rest

theorem instructionWords_lastComment {comment : List Char} (h : LastComment comment) :
    instructionWords comment = [] := by
  rcases h with rfl | ⟨body, rfl, hb⟩
  · rw [instructionWords, withoutComments, keywords_nil]
  · have hstop : Stops (· != '\n') [] := fun c hc => by cases hc
    rw [← List.append_nil body, instructionWords, withoutComments_comment hb hstop, withoutComments, keywords_nil]

end Text

namespace Program
open Text Statement

-- Along the spelling, with whatever text comes behind it: a statement ends with a period or a quote, so no word goes on
-- behind it.
mutual

theorem Spells.words {word : List Char} {s : Statement} :
    Spells word s → ∀ rest, instructionWords (word ++ rest) = s.words ++ instructionWords rest
  | .move direction hg hne hn he, rest => by
    simp only [List.append_assoc, List.cons_append, List.nil_append]
    rw [instructionWords_numbered direction.text_keyword hg hne hn, instructionWords_gap he, instructionWords_period,
      words_eq]
    rfl
  | .turn side hg hne hn he, rest => by
    simp only [List.append_assoc, List.cons_append, List.nil_append]
    rw [instructionWords_numbered side.text_keyword hg hne hn, instructionWords_gap he, instructionWords_period,
      words_eq]
    rfl
  | .pen down he, rest => by
    simp only [List.append_assoc, List.cons_append, List.nil_append]
    rw [instructionWords_keyword (text_penKeyword down) (he.delimited rest), instructionWords_gap he,
      instructionWords_period, words_eq]
    rfl
  | .color hg hne _ hd _ he, rest => by
    simp only [List.append_assoc, List.cons_append, List.nil_append]
    rw [instructionWords_keyword Keyword.text_color (Or.inl (hg.startsSeparator hne _)), instructionWords_gap hg,
      instructionWords_color hd (he.delimited rest), instructionWords_gap he, instructionWords_period, words_eq]
    rfl
  | .bare hg hne hn hg' _ h, rest => by
    simp only [List.append_assoc]
    rw [instructionWords_numbered Keyword.text_rep hg hne hn, instructionWords_gap hg', h.words, words_loop,
      wordsAll_cons, wordsAll_nil, List.append_nil, List.cons_append]
  | .quoted hg hne hn hg' _ h _, rest => by
    simp only [List.append_assoc, List.cons_append, List.nil_append]
    rw [instructionWords_numbered Keyword.text_rep hg hne hn, instructionWords_gap hg', instructionWords_quote, h.words,
      instructionWords_quote, words_loop, List.cons_append]

theorem SpellsAll.words {text : List Char} {ss : List Statement} :
    SpellsAll text ss → ∀ rest, instructionWords (text ++ rest) = wordsAll ss ++ instructionWords rest
  | .nil hg, rest => by rw [instructionWords_gap hg, wordsAll_nil, List.nil_append]
  | .cons hg h hr, rest => by
    rw [List.append_assoc, List.append_assoc, instructionWords_gap hg, h.words, hr.words, wordsAll_cons,
      List.append_assoc]

end

/-! ### Programs that were read -/

/-- How many loops a program has, at every depth. -/
def loopCount (p : Program) : Nat := loopsAll p.statements

section
variable {text : String} {p : Program} (h : parse text = .ok p)
include h

theorem errors_check_of_parse {host : Host} {path : String} (hfile : host.file path = .ok text) :
    ((Command.check [path]).outcome host).errors =
      path ++ ": valid (" ++ p.statementCount.repr ++ " statement(s))\n" := by
  simp [Command.outcome, Command.checkOutcome, Command.findings, Command.checkNext, hfile, h, Command.remark,
    ← String.toList_inj]

theorem instructionWords_of_parse : instructionWords (upperCase text) = wordsAll p.statements := by
  obtain ⟨inner, rest, hsource, hinner, hrest⟩ := exists_spellsAll_of_parse h
  obtain ⟨gap, comment, rfl, hgap, hlast⟩ := Token.exists_gap_of_kinds_eq_nil hrest
  rw [hsource, hinner.words, instructionWords_gap hgap, instructionWords_lastComment hlast, List.append_nil]

theorem filterMap_scan_of_parse : (Token.scan text).filterMap (·.kind.keyword?) = wordsAll p.statements := by
  have hkinds : ((Token.scan text).map Token.kind).filterMap Token.Kind.keyword? = wordsAll p.statements := by
    rw [Token.kind_scan, List.filterMap_append, (derivesAll_of_parse h).words]
    exact List.append_nil _
  rwa [List.filterMap_map] at hkinds

theorem periods_of_parse : (Token.scan text).countP (·.kind = .period) + p.loopCount = p.statementCount := by
  have hkinds : ((Token.scan text).map Token.kind).count .period + loopsAll p.statements = sizeAll p.statements := by
    rw [Token.kind_scan, List.count_append, ← (derivesAll_of_parse h).periods]
    rfl
  rw [List.count_eq_countP, List.countP_map] at hkinds
  rw [statementCount_eq, length_wordsAll, ← hkinds]
  rfl

end

/-- Every statement of a program that was read, at whatever depth, has a word in the text that is its own, and each one
    that is no loop has a period. So `check` tells how many such words a file has outside its comments. -/
theorem statementCount_of_parse {text : String} {p : Program} (h : parse text = .ok p) :
    let tokens := Token.scan text
    let words := instructionWords (upperCase text)
    p.listing.toList.map Entry.keyword = words ∧ tokens.filterMap (·.kind.keyword?) = words ∧
    p.statementCount = tokens.countP (·.kind.keyword?.isSome) ∧
    p.loopCount = tokens.countP (·.kind = .keyword .rep) ∧
    tokens.countP (·.kind = .period) = p.statementCount - p.loopCount ∧ p.loopCount ≤ p.statementCount ∧
    ∀ (host : Host) (path : String) (before behind : List String), host.file path = .ok text →
      ((Command.check (before ++ path :: behind)).outcome host).errors =
        ((Command.check before).outcome host).errors ++
          (path ++ ": valid (" ++ words.length.repr ++ " statement(s))\n") ++
        ((Command.check behind).outcome host).errors := by
  intro tokens words
  have hwords : words = wordsAll p.statements := instructionWords_of_parse h
  have htokens : tokens.filterMap (·.kind.keyword?) = wordsAll p.statements := filterMap_scan_of_parse h
  have hperiods := periods_of_parse h
  refine ⟨?_, htokens.trans hwords.symm, ?_, ?_, ?_, ?_, fun host path before behind hfile => ?_⟩
  · rw [toList_listing, hwords, wordsAll]
  · rw [statementCount_eq, ← htokens, List.length_filterMap_eq_countP]
  · rw [loopCount, ← count_rep_wordsAll, ← htokens, List.count_filterMap]
    refine List.countP_congr fun t _ => ?_
    cases t.kind <;> simp [Token.Kind.keyword?]
  · exact Nat.eq_sub_of_add_eq hperiods
  · exact hperiods ▸ Nat.le_add_left _ _
  · rw [← List.singleton_append, Command.errors_check_append, Command.errors_check_append,
      errors_check_of_parse h hfile, hwords, ← statementCount_eq, ← String.append_assoc]

theorem statementCount_of_parse_nested :
    let text := "rep 2 \" Forw 1. % down. up.\nREP 3 color #decade. \" %RIGHT 5."
    let p : Program := ⟨[.loop 2 [.move .forward 1, .loop 3 [.color ⟨0xDE, 0xCA, 0xDE⟩]]]⟩
    parse text = .ok p ∧ instructionWords (upperCase text) = [.rep, .forw, .rep, .color] ∧ p.statementCount = 4 ∧
    p.loopCount = 2 ∧ (Token.scan text).countP (·.kind = .period) = 2 ∧
    ((Command.check ["a", "b"]).outcome ⟨fun path => if path = "b" then .ok text else .error .notText,
      .error .notText, none, fun _ => ""⟩).errors =
      "a: stream did not contain valid UTF-8\nb: valid (4 statement(s))\n" := by
  intro text p
  have hkinds : Token.kinds (upperCase text) = [.keyword .rep, .number 2, .quote, .keyword .forw, .number 1, .period,
      .keyword .rep, .number 3, .keyword .color, .hex "#DECADE", .period, .quote] := by decide +kernel
  have hparse : parse text = .ok p := parse_eq_verdict_ok_iff.mpr (by rw [hkinds]; rfl)
  obtain ⟨-, hwords, hcount, hloops, hperiods, -, hsaid⟩ := statementCount_of_parse hparse
  have htokens : (Token.scan text).filterMap (·.kind.keyword?) = [.rep, .forw, .rep, .color] := by decide +kernel
  have hwords := hwords.symm.trans htokens
  have hcount : p.statementCount = 4 := hcount.trans (by decide +kernel)
  have hloops : p.loopCount = 2 := hloops.trans (by decide +kernel)
  refine ⟨hparse, hwords, hcount, hloops, hperiods.trans (by rw [hcount, hloops]), ?_⟩
  refine (hsaid _ "b" ["a"] [] rfl).trans ?_
  rw [hwords]
  decide +kernel

end Program

end TurtleGraphics
