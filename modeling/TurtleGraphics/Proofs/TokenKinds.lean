import TurtleGraphics.Proofs.Tiling

/-! # What the text of a token says of its kind

The first character of a token says what family it is of, and its text and the character behind it say which kind of
that family (`Family.Rules`). Words and numbers are as long as they can be to the right. A color with a wrong number of
digits is the only text that is two tokens. -/

namespace TurtleGraphics.Token

/-! ### Families -/

inductive Family where
  | word
  | number
  | color
  | period
  | quote
  | stray
deriving DecidableEq

/-- The family of a token. The end marker is of none. -/
def Kind.family? : Kind → Option Family
  | keyword _ | error (.missingSeparator _) | error (.unknownKeyword _) => some .word
  | number _ | error .zeroNumber | error (.malformedNumber _) | error (.numberTooLarge _) => some .number
  | hex _ | error (.malformedColor _) => some .color
  | period => some .period
  | quote => some .quote
  | error (.unexpectedCharacter _) => some .stray
  | eof => none

def Family.Starts : Family → Char → Prop
  | word, c => Text.isAlphabetic c = true
  | number, c => c.isDigit = true
  | color, c => c = '#'
  | period, c => c = '.'
  | quote, c => c = '"'
  | stray, c => Stray c

theorem family?_wordKind (word rest : List Char) : (wordKind word rest).family? = some .word := by
  unfold wordKind
  split
  · split <;> rfl
  · rfl

theorem family?_numberKind (digits rest : List Char) : (numberKind digits rest).family? = some .number := by
  dsimp only [numberKind]
  repeat' split
  all_goals rfl

theorem family?_of_mem_colorKinds {digits : List Char} {kind : Kind} (h : kind ∈ colorKinds digits) :
    kind.family? = some .color := by
  dsimp only [colorKinds] at h
  split at h
  · rw [List.mem_singleton.mp h]
    rfl
  · rcases List.mem_pair.mp h with rfl | rfl <;> rfl

theorem family?_of_starts {f : Family} {c : Char} (hf : f.Starts c) {rest : List Char} {kind : Kind}
    (h : kind ∈ (lexeme c rest).kinds) : kind.family? = some f := by
  cases f with
  | word =>
    rw [lexeme_word hf] at h
    rw [List.mem_singleton.mp h, family?_wordKind]
  | number =>
    rw [lexeme_number hf] at h
    rw [List.mem_singleton.mp h, family?_numberKind]
  | color =>
    rw [Family.Starts] at hf
    rw [hf, lexeme_color] at h
    exact family?_of_mem_colorKinds h
  | period =>
    rw [Family.Starts] at hf
    rw [hf, lexeme_period] at h
    rw [List.mem_singleton.mp h]
    rfl
  | quote =>
    rw [Family.Starts] at hf
    rw [hf, lexeme_quote] at h
    rw [List.mem_singleton.mp h]
    rfl
  | stray =>
    rw [lexeme_stray hf] at h
    rw [List.mem_singleton.mp h]
    rfl

/-! ### Kinds of a family -/

/-- The word is made of characters of a class, and the character behind it is not one of them. -/
def Maximal (p : Char → Bool) (word : List Char) (next : Option Char) : Prop :=
  (∀ c ∈ word, p c = true) ∧ ∀ c, next = some c → p c = false

/-- A gap follows. -/
def Separated (next : Option Char) : Prop := ∃ c ∈ [' ', '\t', '\n', '%'], next = some c

/-- A gap or a period follows. -/
def Terminated (next : Option Char) : Prop := ∃ c ∈ [' ', '\t', '\n', '%', '.'], next = some c

/-- Which words are keywords, and what may be wrong with others. -/
structure WordRules (word : List Char) (next : Option Char) (kind : Kind) : Prop where
  maximal : Maximal Text.isAlphabetic word next
  keyword : ∀ k, kind = .keyword k ↔ word = k.text.toList ∧ (k ∈ [.down, .up] ∨ Separated next)
  missingSeparator : ∀ k, kind = .error (.missingSeparator k) ↔
    word = k.text.toList ∧ ¬(k ∈ [.down, .up] ∨ Separated next)
  unknownKeyword : ∀ w, kind = .error (.unknownKeyword w) ↔ w = String.ofList word ∧ ∀ k : Keyword, word ≠ k.text.toList

/-- Which digits are numbers, and what may be wrong with others. A zero is told first and a large number last. -/
structure NumberRules (word : List Char) (next : Option Char) (kind : Kind) : Prop where
  maximal : Maximal Char.isDigit word next
  zeroNumber : kind = .error .zeroNumber ↔ Nat.ofDigitChars 10 word 0 = 0
  malformedNumber : ∀ digits, kind = .error (.malformedNumber digits) ↔
    digits = String.ofList word ∧ Nat.ofDigitChars 10 word 0 ≠ 0 ∧ ¬Terminated next
  number : ∀ n, kind = .number n ↔ Nat.ofDigitChars 10 word 0 ≠ 0 ∧ Terminated next ∧
    Nat.ofDigitChars 10 word 0 ≤ 4294967295 ∧ n.toNat = Nat.ofDigitChars 10 word 0
  numberTooLarge : ∀ digits, kind = .error (.numberTooLarge digits) ↔ digits = String.ofList word ∧
    Nat.ofDigitChars 10 word 0 ≠ 0 ∧ Terminated next ∧ 4294967295 < Nat.ofDigitChars 10 word 0

/-- Which colors are well-formed. The literal follows also if it is not. -/
structure ColorRules (word : List Char) (next : Option Char) (kind : Kind) : Prop where
  maximal : ∃ digits, word = '#' :: digits ∧ Maximal Color.isHexDigit digits next
  hex : ∀ literal, kind = .hex literal → literal = String.ofList word
  malformedColor : ∀ literal, kind = .error (.malformedColor literal) → literal = String.ofList word ∧ word.length ≠ 7

/-- How a word of a family and the character behind it decide on the kind of a token. -/
def Family.Rules : Family → List Char → Option Char → Kind → Prop
  | word => WordRules
  | number => NumberRules
  | color => ColorRules
  | period => fun word _ kind => word = ['.'] ∧ kind = .period
  | quote => fun word _ kind => word = ['"'] ∧ kind = .quote
  | stray => fun word _ kind => ∃ c, word = [c] ∧ kind = .error (.unexpectedCharacter c)

theorem startsSeparator_iff {rest : List Char} : startsSeparator rest = true ↔ Separated rest.head? := by
  cases rest <;> simp [startsSeparator, Separated, isBlank, or_assoc]

theorem delimited_iff {rest : List Char} : Delimited rest ↔ Terminated rest.head? := by
  cases rest <;> simp [Delimited, startsSeparator, Terminated, isBlank, or_assoc]

theorem Keyword.needsSeparator_eq_false_iff {k : Keyword} : k.needsSeparator = false ↔ k ∈ [.down, .up] := by
  cases k <;> decide

theorem Keyword.ofText?_ofList_iff {word : List Char} {k : Keyword} :
    Keyword.ofText? (String.ofList word) = some k ↔ word = k.text.toList := by
  constructor
  · intro h
    rw [Keyword.text_of_ofText? h, String.toList_ofList]
  · rintro rfl
    rw [String.ofList_toList, Keyword.ofText?_text]

theorem wordRules {word rest : List Char} (hw : ∀ c ∈ word, Text.isAlphabetic c = true)
    (hstop : Stops Text.isAlphabetic rest) : WordRules word rest.head? (wordKind word rest) := by
  cases hword : Keyword.ofText? (String.ofList word) with
  | none =>
    have hkind : wordKind word rest = .error (.unknownKeyword (String.ofList word)) := by rw [wordKind, hword]
    have hno : ∀ k : Keyword, word ≠ k.text.toList := by
      intro k hk
      rw [Keyword.ofText?_ofList_iff.mpr hk] at hword
      cases hword
    rw [hkind]
    exact ⟨⟨hw, hstop⟩, by simp [hno], by simp [hno], by simp [hno, eq_comm]⟩
  | some k =>
    have hk : ∀ k' : Keyword, word = k'.text.toList ↔ k = k' := by
      intro k'
      rw [← Keyword.ofText?_ofList_iff, hword, Option.some_inj]
    have hknown : ∀ w : String, ¬(w = String.ofList word ∧ ∀ k' : Keyword, word ≠ k'.text.toList) :=
      fun w h => h.2 k ((hk k).mpr rfl)
    have hends : (!k.needsSeparator || startsSeparator rest) = true ↔ k ∈ [.down, .up] ∨ Separated rest.head? := by
      rw [Bool.or_eq_true, Bool.not_eq_true', Keyword.needsSeparator_eq_false_iff, startsSeparator_iff]
    by_cases hend : k ∈ [.down, .up] ∨ Separated rest.head?
    · have hkind : wordKind word rest = .keyword k := by
        rw [wordKind, hword]
        exact if_pos (hends.mpr hend)
      rw [hkind]
      refine ⟨⟨hw, hstop⟩, fun k' => ?_, fun k' => ?_, by simp [hknown]⟩
      · rw [hk, Kind.keyword.injEq]
        exact ⟨fun h => ⟨h, h ▸ hend⟩, And.left⟩
      · rw [hk]
        constructor
        · intro h
          cases h
        · rintro ⟨rfl, hno⟩
          exact absurd hend hno
    · have hkind : wordKind word rest = .error (.missingSeparator k) := by
        rw [wordKind, hword]
        exact if_neg (mt hends.mp hend)
      rw [hkind]
      refine ⟨⟨hw, hstop⟩, fun k' => ?_, fun k' => ?_, by simp [hknown]⟩
      · rw [hk]
        constructor
        · intro h
          cases h
        · rintro ⟨rfl, hyes⟩
          exact absurd hyes hend
      · rw [hk, Kind.error.injEq, LexicalError.missingSeparator.injEq]
        exact ⟨fun h => ⟨h, h ▸ hend⟩, And.left⟩

theorem numberRules {digits rest : List Char} (hd : ∀ d ∈ digits, d.isDigit = true) (hstop : Stops Char.isDigit rest) :
    NumberRules digits rest.head? (numberKind digits rest) := by
  have hends : (!startsSeparator rest && rest.head? != some '.') = true ↔ ¬Terminated rest.head? := by
    rw [← delimited_iff, Delimited, not_or]
    simp
  by_cases hzero : Nat.ofDigitChars 10 digits 0 = 0
  · have hkind : numberKind digits rest = .error .zeroNumber := if_pos hzero
    rw [hkind]
    exact ⟨⟨hd, hstop⟩, by simp [hzero], by simp [hzero], by simp [hzero], by simp [hzero]⟩
  by_cases hend : Terminated rest.head?
  · have hrest := mt hends.mp (not_not.mpr hend)
    by_cases hsize : Nat.ofDigitChars 10 digits 0 < UInt32.size
    · have hkind : numberKind digits rest = .number (Nat.ofDigitChars 10 digits 0).toUInt32 := by
        simp only [numberKind, if_neg hzero, if_neg hrest, if_pos hsize]
      have hle : Nat.ofDigitChars 10 digits 0 ≤ 4294967295 := Nat.le_of_lt_succ hsize
      rw [hkind]
      refine ⟨⟨hd, hstop⟩, by simp [hzero], by simp [hend], fun n => ?_, by simp [Nat.not_lt.mpr hle]⟩
      rw [Kind.number.injEq, ← UInt32.toNat_inj, Nat.toUInt32_eq, UInt32.toNat_ofNat_of_lt' hsize]
      exact ⟨fun h => ⟨hzero, hend, hle, h.symm⟩, fun h => h.2.2.2.symm⟩
    · have hkind : numberKind digits rest = .error (.numberTooLarge (String.ofList digits)) := by
        simp only [numberKind, if_neg hzero, if_neg hrest, if_neg hsize]
      have hlt : 4294967295 < Nat.ofDigitChars 10 digits 0 := Nat.not_lt.mp hsize
      rw [hkind]
      exact ⟨⟨hd, hstop⟩, by simp [hzero], by simp [hend], by simp [Nat.not_le.mpr hlt],
        by simp [hzero, hend, hlt, eq_comm]⟩
  · have hkind : numberKind digits rest = .error (.malformedNumber (String.ofList digits)) := by
      simp only [numberKind, if_neg hzero, if_pos (hends.mpr hend)]
    rw [hkind]
    exact ⟨⟨hd, hstop⟩, by simp [hzero], by simp [hzero, hend, eq_comm], by simp [hend], by simp [hend]⟩

theorem colorRules {digits rest : List Char} {kind : Kind} (hd : ∀ d ∈ digits, Color.isHexDigit d = true)
    (hstop : Stops Color.isHexDigit rest) (hk : kind ∈ colorKinds digits) :
    ColorRules ('#' :: digits) rest.head? kind := by
  dsimp only [colorKinds] at hk
  split at hk
  · rw [List.mem_singleton.mp hk]
    exact ⟨⟨digits, rfl, hd, hstop⟩, by simp, by simp⟩
  · next hlen =>
    rcases List.mem_pair.mp hk with rfl | rfl
    · exact ⟨⟨digits, rfl, hd, hstop⟩, by simp, by simp [hlen]⟩
    · exact ⟨⟨digits, rfl, hd, hstop⟩, by simp, by simp⟩

section
variable {c : Char} {run rest : List Char} {ks : List Kind} {kind : Kind} (h : Stretch c run rest ks) (hk : kind ∈ ks)
include h hk

theorem Stretch.exists_rules : ∃ f : Family, f.Starts c ∧ f.Rules (c :: run) rest.head? kind := by
  cases h with
  | blank | comment => cases hk
  | period => exact ⟨.period, rfl, rfl, List.mem_singleton.mp hk⟩
  | quote => exact ⟨.quote, rfl, rfl, List.mem_singleton.mp hk⟩
  | color hd hstop => exact ⟨.color, rfl, colorRules hd hstop hk⟩
  | number hd hstop =>
    rw [List.mem_singleton.mp hk]
    exact ⟨.number, hd c List.mem_cons_self, numberRules hd hstop⟩
  | word hw hstop =>
    rw [List.mem_singleton.mp hk]
    exact ⟨.word, hw c List.mem_cons_self, wordRules hw hstop⟩
  | stray h => exact ⟨.stray, h, c, rfl, List.mem_singleton.mp hk⟩

theorem Stretch.family?_of_starts {f : Family} (hf : f.Starts c) : kind.family? = some f := by
  have hkinds : kind ∈ (lexeme c (run ++ rest)).kinds := by rwa [h.lexeme_eq]
  exact Token.family?_of_starts hf hkinds

/-- No character starts tokens of two families, so the kind says which character a token starts with. -/
theorem Stretch.starts_and_rules {f : Family} (hf : kind.family? = some f) :
    f.Starts c ∧ f.Rules (c :: run) rest.head? kind := by
  obtain ⟨g, hg, hrules⟩ := h.exists_rules hk
  cases hf.symm.trans (h.family?_of_starts hk hg)
  exact ⟨hg, hrules⟩

end

theorem Stretch.colorKinds_of_starts {c : Char} {run rest : List Char} {ks : List Kind} (h : Stretch c run rest ks)
    (hc : c = '#') : ks = colorKinds run := by
  have hlexeme := h.lexeme_eq
  rw [hc, lexeme_color, Lexeme.mk.injEq, List.cons.injEq] at hlexeme
  obtain ⟨hks, ⟨-, hrun⟩, -⟩ := hlexeme
  rw [← hks, hrun]

/-- The text of a token and the character behind it decide on its kind. Only a color with more or fewer than six digits
    is two tokens, first the error and then the literal. -/
theorem kind_of_mem_scan (text : String) (t : Token) (h : t ∈ scan text) (hend : t.kind ≠ .eof) :
    let source := Text.upperCase text
    let word := between source t.start.index t.stop.index
    let next := source[t.stop.index]?
    (∀ f : Family, t.kind.family? = some f ↔ ∃ c, word.head? = some c ∧ f.Starts c) ∧
    (∀ f : Family, t.kind.family? = some f → f.Rules word next t.kind) ∧
    (t.kind.family? = some .color → word.length ≠ 7 →
      [⟨.error (.malformedColor (String.ofList word)), t.start, t.stop⟩,
        ⟨.hex (String.ofList word), t.start, t.stop⟩] <:+: scan text) := by
  intro source word next
  have hscan := scan_eq text
  have hmem : t ∈ tokensFrom .start source := by
    rw [hscan, List.mem_append, List.mem_singleton] at h
    rcases h with h | rfl
    · exact h
    · exact absurd rfl hend
  obtain ⟨front, c, run, rest, ks, hsource, hstretch, ⟨kind, hkind, rfl⟩, hinfix⟩ := exists_stretch_of_mem [] hmem
  have hsource : source = front ++ (c :: run ++ rest) := hsource
  have hword : word = c :: run := by
    simp only [word, hsource, placed, Position.index_start_after]
    exact between_append front (c :: run) rest
  have hnext : next = rest.head? := by
    simp only [next, hsource, placed, Position.index_start_after, ← List.append_assoc]
    rw [List.getElem?_append_right (Nat.le_refl _), Nat.sub_self, ← List.head?_eq_getElem?]
  rw [hword, hnext]
  refine ⟨fun f => ⟨fun hf => ⟨c, rfl, (hstretch.starts_and_rules hkind hf).1⟩, ?_⟩,
    fun f hf => (hstretch.starts_and_rules hkind hf).2, fun hf hlen => ?_⟩
  · rintro ⟨d, hd, hf⟩
    cases hd
    exact hstretch.family?_of_starts hkind hf
  · -- The stretch starts with a number sign, so it is the whole color.
    have hcolor : c = '#' := (hstretch.starts_and_rules hkind hf).1
    have htwo : run.length ≠ 6 := fun h6 => hlen (by rw [List.length_cons, h6])
    rw [hstretch.colorKinds_of_starts hcolor, hcolor, colorKinds, if_neg htwo] at hinfix
    rw [hcolor, hscan]
    exact hinfix.trans (List.prefix_append _ _).isInfix

/-- A number that is too large by one, with a leading zero, and a color that a letter ends before it is complete. -/
theorem kind_of_mem_scan_color :
    let text := "rep 04294967296 #abg"
    let number : Token := ⟨.error (.numberTooLarge "04294967296"), ⟨4, 1, 5⟩, ⟨15, 1, 16⟩⟩
    let color : Token := ⟨.hex "#AB", ⟨16, 1, 17⟩, ⟨19, 1, 20⟩⟩
    number ∈ scan text ∧ NumberRules "04294967296".toList (some ' ') number.kind ∧
    color ∈ scan text ∧ ColorRules "#AB".toList (some 'G') color.kind ∧
      [⟨.error (.malformedColor "#AB"), color.start, color.stop⟩, color] <:+: scan text := by
  intro text number color
  have hsource : Text.upperCase text = "REP 04294967296 #ABG".toList := by decide +kernel
  have hnumber : number ∈ scan text := by decide +kernel
  have hcolor : color ∈ scan text := by decide +kernel
  obtain ⟨-, hnumberRules, -⟩ := kind_of_mem_scan text number hnumber nofun
  obtain ⟨-, hcolorRules, hpair⟩ := kind_of_mem_scan text color hcolor nofun
  rw [hsource] at hnumberRules hcolorRules hpair
  exact ⟨hnumber, hnumberRules .number rfl, hcolor, hcolorRules .color rfl, hpair rfl (by decide)⟩

end TurtleGraphics.Token
