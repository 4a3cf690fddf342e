import Mathlib.Data.List.TakeWhile
import TurtleGraphics.Proofs.UpperCase
import TurtleGraphics.Token.Scan

/-! # The lexemes of a text

`scanFrom` carries positions and the tokens so far through its steps. `lexemes` lists the steps themselves, and `kinds`
the kinds of the tokens they give, which depend on the text alone (`kind_scan`). `Written` says how each proper
token is written and what may come behind it; `Written.kinds_append` and `written_of_lexeme` say that the scanner
reads just that. -/

namespace TurtleGraphics.Token

/-- The steps that a text is read in. -/
def lexemes : List Char → List Lexeme
  | [] => []
  | c :: rest => lexeme c rest :: lexemes (lexeme c rest).rest
termination_by text => text.length
decreasing_by exact Nat.lt_succ_of_le (length_rest_lexeme_le c rest)

/-- The kinds of the tokens of a text. -/
def kinds (text : List Char) : List Kind := (lexemes text).flatMap Lexeme.kinds

@[simp] theorem kinds_nil : kinds [] = [] := by
  simp [kinds, lexemes]

theorem kinds_cons (c : Char) (rest : List Char) :
    kinds (c :: rest) = (lexeme c rest).kinds ++ kinds (lexeme c rest).rest := by
  rw [kinds, lexemes, List.flatMap_cons]
  rfl

theorem kind_scanFrom (position : Position) (before : List Token) (text : List Char) :
    (scanFrom position before text).1.map Token.kind = before.reverse.map Token.kind ++ kinds text := by
  fun_induction scanFrom position before text with
  | case1 position before => simp
  | case2 position before c rest piece stop tokens ih =>
    rw [ih, kinds_cons]
    simp [tokens, piece, Function.comp_def]

theorem kind_scan (text : String) : (scan text).map Token.kind = kinds (Text.upperCase text) ++ [.eof] := by
  have h := kind_scanFrom .start [] (Text.upperCase text)
  simp only [List.reverse_nil, List.map_nil, List.nil_append] at h
  rw [scan, List.map_append, h]
  rfl

theorem eof_notMem_lexeme (c : Char) (rest : List Char) : Kind.eof ∉ (lexeme c rest).kinds := by
  unfold lexeme
  repeat' split
  all_goals simp [colorKinds, numberKind, wordKind]
  all_goals repeat' split
  all_goals simp

theorem eof_notMem_kinds (text : List Char) : Kind.eof ∉ kinds text := by
  fun_induction lexemes text with
  | case1 => simp
  | case2 c rest ih =>
    rw [kinds_cons, List.mem_append, not_or]
    exact ⟨eof_notMem_lexeme c rest, ih⟩

/-! ### Runs of characters -/

/-- A run of characters of a class ends here. -/
def Stops (p : Char → Bool) (rest : List Char) : Prop := ∀ c, rest.head? = some c → p c = false

theorem stops_dropWhile (p : Char → Bool) (text : List Char) : Stops p (text.dropWhile p) := by
  intro c hc
  have h := List.head?_dropWhile_not p text
  rw [hc] at h
  simpa using h

theorem stops_newline (rest : List Char) : Stops (· != '\n') ('\n' :: rest) := by
  intro c hc
  cases hc
  rfl

section
variable {p : Char → Bool} {run rest : List Char} (hrun : ∀ c ∈ run, p c = true) (hstop : Stops p rest)
include hrun hstop

theorem takeWhile_run : (run ++ rest).takeWhile p = run := by
  rw [List.takeWhile_append_of_pos hrun]
  cases rest with
  | nil => simp
  | cons c rest => simp [hstop c rfl]

theorem dropWhile_run : (run ++ rest).dropWhile p = rest := by
  rw [List.dropWhile_append_of_pos hrun]
  cases rest with
  | nil => simp
  | cons c rest => simp [hstop c rfl]

end

/-- What may stand behind a number: a blank, a comment or a period. -/
def Delimited (rest : List Char) : Prop := startsSeparator rest = true ∨ rest.head? = some '.'

theorem Delimited.stops {rest : List Char} (h : Delimited rest) {p : Char → Bool}
    (hp : [' ', '\t', '\n', '%', '.'].all (!p ·) = true) : Stops p rest := by
  intro c hc
  obtain ⟨tail, rfl⟩ := List.head?_eq_some_iff.mp hc
  have hmem : c ∈ [' ', '\t', '\n', '%', '.'] := by
    simpa [Delimited, startsSeparator, isBlank, or_assoc] using h
  simpa using List.all_eq_true.mp hp c hmem

/-! ### The step by its first character -/

theorem isAlphabetic_of_isDigit {c : Char} (h : c.isDigit = true) : Text.isAlphabetic c = false := by
  have hascii : c.toNat < 0x80 := Nat.lt_of_le_of_lt (Char.isDigit_iff_toNat.mp h).2 (by decide)
  exact Text.of_ascii (P := fun c => c.isDigit = true → Text.isAlphabetic c = false) (by decide) hascii h

theorem lexeme_word {c : Char} (h : Text.isAlphabetic c = true) (rest : List Char) :
    lexeme c rest = ⟨[wordKind (c :: rest.takeWhile Text.isAlphabetic) (rest.dropWhile Text.isAlphabetic)],
      c :: rest.takeWhile Text.isAlphabetic, rest.dropWhile Text.isAlphabetic⟩ := by
  have hne : ∀ d, Text.isAlphabetic d = false → c ≠ d := fun d hd hcd => by simp [← hcd, h] at hd
  have hblank : isBlank c = false := by
    simp [isBlank, hne ' ' (by decide), hne '\t' (by decide), hne '\n' (by decide)]
  have hdigit : c.isDigit = false := by
    cases hd : c.isDigit
    · rfl
    · simp [isAlphabetic_of_isDigit hd] at h
  simp [lexeme, hblank, hdigit, h, hne '%' (by decide), hne '.' (by decide), hne '"' (by decide), hne '#' (by decide)]

theorem lexeme_number {c : Char} (h : c.isDigit = true) (rest : List Char) :
    lexeme c rest = ⟨[numberKind (c :: rest.takeWhile Char.isDigit) (rest.dropWhile Char.isDigit)],
      c :: rest.takeWhile Char.isDigit, rest.dropWhile Char.isDigit⟩ := by
  have hne : ∀ d : Char, d.isDigit = false → c ≠ d := fun d hd hcd => by simp [← hcd, h] at hd
  have hblank : isBlank c = false := by
    simp [isBlank, hne ' ' (by decide), hne '\t' (by decide), hne '\n' (by decide)]
  simp [lexeme, hblank, h, hne '%' (by decide), hne '.' (by decide), hne '"' (by decide), hne '#' (by decide)]

theorem lexeme_color (rest : List Char) :
    lexeme '#' rest = ⟨colorKinds (rest.takeWhile Color.isHexDigit), '#' :: rest.takeWhile Color.isHexDigit,
      rest.dropWhile Color.isHexDigit⟩ := by
  simp [lexeme, isBlank]

theorem lexeme_period (rest : List Char) : lexeme '.' rest = ⟨[.period], ['.'], rest⟩ := by
  simp [lexeme, isBlank]

theorem lexeme_quote (rest : List Char) : lexeme '"' rest = ⟨[.quote], ['"'], rest⟩ := by
  simp [lexeme, isBlank]

theorem lexeme_blank {c : Char} (h : isBlank c = true) (rest : List Char) : lexeme c rest = ⟨[], [c], rest⟩ := by
  simp [lexeme, h]

theorem lexeme_comment (rest : List Char) :
    lexeme '%' rest = ⟨[], '%' :: rest.takeWhile (· != '\n'), rest.dropWhile (· != '\n')⟩ := by
  simp [lexeme, isBlank]

/-- A character that starts nothing. -/
def Stray (c : Char) : Prop :=
  isBlank c = false ∧ c ∉ ['%', '.', '"', '#'] ∧ c.isDigit = false ∧ Text.isAlphabetic c = false

theorem lexeme_stray {c : Char} (h : Stray c) (rest : List Char) :
    lexeme c rest = ⟨[.error (.unexpectedCharacter c)], [c], rest⟩ := by
  obtain ⟨hblank, hmark, hdigit, hword⟩ := h
  simp only [List.mem_cons, List.not_mem_nil, or_false, not_or] at hmark
  simp [lexeme, hblank, hmark, hdigit, hword]

/-- The stretch `c :: run` before `rest` is taken in one step and gives `kinds`. -/
inductive Stretch : Char → List Char → List Char → List Kind → Prop where
  | blank {c : Char} {rest : List Char} (hc : isBlank c = true) : Stretch c [] rest []
  | comment {body rest : List Char} (hb : '\n' ∉ body) (hstop : Stops (· != '\n') rest) : Stretch '%' body rest []
  | period {rest : List Char} : Stretch '.' [] rest [.period]
  | quote {rest : List Char} : Stretch '"' [] rest [.quote]
  | color {digits rest : List Char} (hd : ∀ d ∈ digits, Color.isHexDigit d = true)
    (hstop : Stops Color.isHexDigit rest) : Stretch '#' digits rest (colorKinds digits)
  | number {c : Char} {digits rest : List Char} (hd : ∀ d ∈ c :: digits, d.isDigit = true)
    (hstop : Stops Char.isDigit rest) : Stretch c digits rest [numberKind (c :: digits) rest]
  | word {c : Char} {letters rest : List Char} (hw : ∀ d ∈ c :: letters, Text.isAlphabetic d = true)
    (hstop : Stops Text.isAlphabetic rest) : Stretch c letters rest [wordKind (c :: letters) rest]
  | stray {c : Char} {rest : List Char} (h : Stray c) : Stretch c [] rest [.error (.unexpectedCharacter c)]

theorem Stretch.lexeme_eq {c : Char} {run rest : List Char} {ks : List Kind} (h : Stretch c run rest ks) :
    lexeme c (run ++ rest) = ⟨ks, c :: run, rest⟩ := by
  cases h with
  | blank hc => exact lexeme_blank hc rest
  | comment hb hstop =>
    have hrun : ∀ d ∈ run, (d != '\n') = true := fun d hd => bne_iff_ne.mpr fun h => hb (h ▸ hd)
    rw [lexeme_comment, takeWhile_run hrun hstop, dropWhile_run hrun hstop]
  | period => exact lexeme_period rest
  | quote => exact lexeme_quote rest
  | color hd hstop => rw [lexeme_color, takeWhile_run hd hstop, dropWhile_run hd hstop]
  | number hd hstop =>
    rw [List.forall_mem_cons] at hd
    rw [lexeme_number hd.1, takeWhile_run hd.2 hstop, dropWhile_run hd.2 hstop]
  | word hw hstop =>
    rw [List.forall_mem_cons] at hw
    rw [lexeme_word hw.1, takeWhile_run hw.2 hstop, dropWhile_run hw.2 hstop]
  | stray h => exact lexeme_stray h rest

/-- Every text starts with a stretch. -/
theorem exists_stretch (c : Char) (tail : List Char) : ∃ run rest ks, tail = run ++ rest ∧ Stretch c run rest ks := by
  -- The cases are those of `lexeme`, in its order.
  have split (p : Char → Bool) : tail = tail.takeWhile p ++ tail.dropWhile p := List.takeWhile_append_dropWhile.symm
  by_cases hblank : isBlank c = true
  · exact ⟨[], tail, _, rfl, .blank hblank⟩
  by_cases hmark : c ∈ ['%', '.', '"', '#']
  · simp only [List.mem_cons, List.not_mem_nil, or_false] at hmark
    rcases hmark with rfl | rfl | rfl | rfl
    · exact ⟨_, _, _, split _, .comment (fun h => by simpa using List.mem_takeWhile_imp h) (stops_dropWhile _ _)⟩
    · exact ⟨[], tail, _, rfl, .period⟩
    · exact ⟨[], tail, _, rfl, .quote⟩
    · exact ⟨_, _, _, split _, .color (fun _ => List.mem_takeWhile_imp) (stops_dropWhile _ _)⟩
  by_cases hdigit : c.isDigit = true
  · exact ⟨_, _, _, split _, .number (List.forall_mem_cons.mpr ⟨hdigit, fun _ => List.mem_takeWhile_imp⟩)
      (stops_dropWhile _ _)⟩
  by_cases hword : Text.isAlphabetic c = true
  · exact ⟨_, _, _, split _, .word (List.forall_mem_cons.mpr ⟨hword, fun _ => List.mem_takeWhile_imp⟩)
      (stops_dropWhile _ _)⟩
  · exact ⟨[], tail, _, rfl, .stray ⟨Bool.eq_false_iff.mpr hblank, hmark, Bool.eq_false_iff.mpr hdigit,
      Bool.eq_false_iff.mpr hword⟩⟩

theorem Stretch.kinds_append {c : Char} {run rest : List Char} {ks : List Kind} (h : Stretch c run rest ks) :
    kinds (c :: (run ++ rest)) = ks ++ kinds rest := by
  rw [kinds_cons, h.lexeme_eq]

/-- A text is read one stretch after the other. -/
@[elab_as_elim]
theorem stretchInduction {motive : List Char → Prop} (nil : motive [])
    (stretch : ∀ {c run rest ks}, Stretch c run rest ks → motive rest → motive (c :: (run ++ rest)))
    (text : List Char) : motive text := by
  fun_induction lexemes text with
  | case1 => exact nil
  | case2 c tail ih =>
    obtain ⟨run, rest, ks, rfl, h⟩ := exists_stretch c tail
    rw [h.lexeme_eq] at ih
    exact stretch h ih

theorem colorKinds_ne_nil (digits : List Char) : colorKinds digits ≠ [] := by
  dsimp only [colorKinds]
  split
  · exact List.cons_ne_nil _ _
  · exact List.cons_ne_nil _ _

theorem numberKind_ne_malformedColor (digits rest : List Char) (literal : String) :
    numberKind digits rest ≠ .error (.malformedColor literal) := by
  dsimp only [numberKind]
  repeat' split
  all_goals simp

theorem wordKind_ne_malformedColor (word rest : List Char) (literal : String) :
    wordKind word rest ≠ .error (.malformedColor literal) := by
  unfold wordKind
  repeat' split
  all_goals simp

/-- A stretch is a blank or a comment, one token, or a malformed color, which is two. -/
theorem Stretch.kinds_cases {c : Char} {run rest : List Char} {ks : List Kind} (h : Stretch c run rest ks) :
    ks = [] ∨ (∃ kind, ks = [kind] ∧ ∀ literal, kind ≠ .error (.malformedColor literal)) ∨
      ∃ literal, ks = [.error (.malformedColor literal), .hex literal] := by
  cases h with
  | blank | comment => exact Or.inl rfl
  | period | quote | stray => exact Or.inr (Or.inl ⟨_, rfl, by simp⟩)
  | color hd hstop =>
    right
    unfold colorKinds
    split
    · exact Or.inl ⟨_, rfl, by simp⟩
    · exact Or.inr ⟨_, rfl⟩
  | number => exact Or.inr (Or.inl ⟨_, rfl, numberKind_ne_malformedColor _ _⟩)
  | word => exact Or.inr (Or.inl ⟨_, rfl, wordKind_ne_malformedColor _ _⟩)

/-! ### How tokens are written -/

/-- A decimal numeral of a positive number of 32 bits, with any number of leading zeros. -/
structure Numeral (digits : List Char) (n : UInt32) : Prop where
  nonempty : digits ≠ []
  isDigit : ∀ d ∈ digits, d.isDigit = true
  value : Nat.ofDigitChars 10 digits 0 = n.toNat
  positive : 0 < n

/-- How a proper token is written, and what has to come behind it. -/
inductive Written : Kind → List Char → List Char → Prop where
  | keyword {rest : List Char} (k : Keyword) (hs : k.needsSeparator = true → startsSeparator rest = true)
    (hstop : Stops Text.isAlphabetic rest) : Written (.keyword k) k.text.toList rest
  | number {digits rest : List Char} {n : UInt32} (hn : Numeral digits n) (hd : Delimited rest) :
    Written (.number n) digits rest
  | hex {digits rest : List Char} (hlen : digits.length = 6) (hd : ∀ d ∈ digits, Color.isHexDigit d = true)
    (hstop : Stops Color.isHexDigit rest) : Written (.hex (String.ofList ('#' :: digits))) ('#' :: digits) rest
  | period {rest : List Char} : Written .period ['.'] rest
  | quote {rest : List Char} : Written .quote ['"'] rest

theorem Keyword.isAlphabetic_text (k : Keyword) : ∀ c ∈ k.text.toList, Text.isAlphabetic c = true := by
  apply List.all_eq_true.mp
  cases k <;> decide

theorem kinds_word {word rest : List Char} (hne : word ≠ []) (hw : ∀ c ∈ word, Text.isAlphabetic c = true)
    (hstop : Stops Text.isAlphabetic rest) : kinds (word ++ rest) = wordKind word rest :: kinds rest := by
  obtain ⟨c, letters, rfl⟩ := List.exists_cons_of_ne_nil hne
  exact (Stretch.word hw hstop).kinds_append

theorem kinds_digits {digits rest : List Char} (hne : digits ≠ []) (hd : ∀ d ∈ digits, d.isDigit = true)
    (hstop : Stops Char.isDigit rest) : kinds (digits ++ rest) = numberKind digits rest :: kinds rest := by
  obtain ⟨c, more, rfl⟩ := List.exists_cons_of_ne_nil hne
  exact (Stretch.number hd hstop).kinds_append

theorem numberKind_of_numeral {digits rest : List Char} {n : UInt32} (hn : Numeral digits n) (hd : Delimited rest) :
    numberKind digits rest = .number n := by
  have hpos : n.toNat ≠ 0 := fun h => absurd hn.positive (by simp [UInt32.lt_iff_toNat_lt, h])
  have hend : (!startsSeparator rest && rest.head? != some '.') = false := by
    rcases hd with h | h <;> simp [h]
  simp [numberKind, hn.value, hpos, hend, n.toNat_lt]

/-- A token that is written as it should is read as such. -/
theorem Written.kinds_append {kind : Kind} {text rest : List Char} (h : Written kind text rest) :
    kinds (text ++ rest) = kind :: kinds rest := by
  cases h with
  | keyword k hs hstop =>
    rw [kinds_word (by cases k <;> decide) (Keyword.isAlphabetic_text k) hstop, wordKind, String.ofList_toList,
      Keyword.ofText?_text]
    cases hk : k.needsSeparator <;> simp_all
  | number hn hd =>
    rw [kinds_digits hn.nonempty hn.isDigit (hd.stops (by decide)), numberKind_of_numeral hn hd]
  | hex hlen hd hstop =>
    rw [List.cons_append, (Stretch.color hd hstop).kinds_append, colorKinds, if_pos hlen]
    rfl
  | period => exact Stretch.period.kinds_append
  | quote => exact Stretch.quote.kinds_append

theorem written_of_numberKind {digits rest : List Char} {kind : Kind} (hne : digits ≠ [])
    (hd : ∀ d ∈ digits, d.isDigit = true) (h : numberKind digits rest = kind) (hk : kind.error? = none) :
    Written kind digits rest := by
  dsimp only [numberKind] at h
  split at h
  · subst h; cases hk
  · next hzero =>
    split at h
    · subst h; cases hk
    · next hend =>
      split at h
      · next hsize =>
        subst h
        have hvalue : Nat.ofDigitChars 10 digits 0 = (Nat.ofDigitChars 10 digits 0).toUInt32.toNat := by
          rw [Nat.toUInt32_eq, UInt32.toNat_ofNat_of_lt' hsize]
        refine .number ⟨hne, hd, hvalue, ?_⟩ ?_
        · rw [UInt32.lt_iff_toNat_lt, ← hvalue]
          exact Nat.pos_of_ne_zero hzero
        · simpa [Delimited, Decidable.or_iff_not_imp_left] using hend
      · subst h; cases hk

theorem written_of_wordKind {word rest : List Char} {kind : Kind} (hstop : Stops Text.isAlphabetic rest)
    (h : wordKind word rest = kind) (hk : kind.error? = none) : Written kind word rest := by
  unfold wordKind at h
  split at h
  · next k hword =>
    split at h
    · next hs =>
      subst h
      have htext : word = k.text.toList := by
        rw [Keyword.text_of_ofText? hword, String.toList_ofList]
      rw [htext]
      exact .keyword k (by simpa [Decidable.or_iff_not_imp_left] using hs) hstop
    · subst h; cases hk
  · subst h; cases hk

/-- Whatever is read as a proper token is written as it should. -/
theorem Stretch.written {c : Char} {run rest : List Char} {ks : List Kind} {kind : Kind} (h : Stretch c run rest ks)
    (hks : ks = [kind]) (hk : kind.error? = none) : Written kind (c :: run) rest := by
  cases h with
  | blank | comment => cases hks
  | period =>
    cases hks
    exact .period
  | quote =>
    cases hks
    exact .quote
  | color hd hstop =>
    unfold colorKinds at hks
    split at hks
    · next hlen =>
      cases hks
      exact .hex hlen hd hstop
    · cases hks
  | number hd hstop => exact written_of_numberKind (List.cons_ne_nil _ _) hd (List.cons.inj hks).1 hk
  | word hw hstop => exact written_of_wordKind hstop (List.cons.inj hks).1 hk
  | stray h =>
    cases hks
    cases hk

end TurtleGraphics.Token
