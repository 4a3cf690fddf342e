import TurtleGraphics.Proofs.Layout

/-! # What a step sees of the text behind it

A step looks at one character behind its stretch, and not for more than whether a gap or a period starts there
(`Stretch.of_sameAhead`). At the end of the text, whatever is read without error is read alike before a newline
(`Stretch.before_newline`), and a stretch that the text ends in is read as it was, gives no token or gives an error
(`Stretch.cut`). -/

namespace TurtleGraphics.Token

/-! ### The same look-ahead -/

/-- From before them, two texts look alike: both start with a blank or a comment, or with the same character, if
    any. -/
def SameAhead (a b : List Char) : Prop :=
  (startsSeparator a = true ∧ startsSeparator b = true) ∨ a.head? = b.head?

section
variable {a b : List Char}

theorem startsSeparator_of_head?_eq (h : a.head? = b.head?) : startsSeparator a = startsSeparator b := by
  cases a with
  | nil =>
    rw [List.head?_eq_none_iff.mp h.symm]
  | cons c a =>
    obtain ⟨tail, rfl⟩ := List.head?_eq_some_iff.mp h.symm
    rfl

theorem SameAhead.startsSeparator_eq (h : SameAhead a b) : startsSeparator a = startsSeparator b := by
  rcases h with ⟨ha, hb⟩ | h
  · rw [ha, hb]
  · exact startsSeparator_of_head?_eq h

theorem Stops.of_head?_eq {p : Char → Bool} (hs : Stops p a) (h : a.head? = b.head?) : Stops p b :=
  fun c hc => hs c (h.trans hc)

theorem Stops.of_sameAhead {p : Char → Bool} (hs : Stops p a) (h : SameAhead a b)
    (hp : [' ', '\t', '\n', '%', '.'].all (!p ·) = true) : Stops p b := by
  rcases h with ⟨-, hb⟩ | h
  · exact Delimited.stops (Or.inl hb) hp
  · exact hs.of_head?_eq h

theorem SameAhead.numberKind_eq (h : SameAhead a b) (digits : List Char) :
    numberKind digits a = numberKind digits b := by
  have hend : (!startsSeparator a && a.head? != some '.') = (!startsSeparator b && b.head? != some '.') := by
    rcases h with ⟨ha, hb⟩ | h
    · rw [ha, hb]
      rfl
    · rw [startsSeparator_of_head?_eq h, h]
  rw [numberKind, numberKind, hend]

theorem SameAhead.wordKind_eq (h : SameAhead a b) (word : List Char) : wordKind word a = wordKind word b := by
  rw [wordKind, wordKind, h.startsSeparator_eq]

end

section
variable {c : Char} {run rest : List Char} {ks : List Kind}

/-- What is read does not change with the text behind it as long as that looks alike. A comment goes on to a newline,
    so there the next character has to be the same. -/
theorem Stretch.of_sameAhead {rest' : List Char} (h : Stretch c run rest ks) (ha : SameAhead rest rest')
    (hblank : ks = [] → rest.head? = rest'.head?) : Stretch c run rest' ks := by
  cases h with
  | blank hc => exact .blank hc
  | comment hb hstop => exact .comment hb (hstop.of_head?_eq (hblank rfl))
  | period => exact .period
  | quote => exact .quote
  | color hd hstop => exact .color hd (hstop.of_sameAhead ha (by decide))
  | number hd hstop =>
    rw [ha.numberKind_eq]
    exact .number hd (hstop.of_sameAhead ha (by decide))
  | word hw hstop =>
    rw [ha.wordKind_eq]
    exact .word hw (hstop.of_sameAhead ha (by decide))
  | stray h => exact .stray h

/-! ### The end of the text -/

theorem exists_error_of_numberKind_nil (digits : List Char) : ∃ cause, numberKind digits [] = .error cause := by
  dsimp only [numberKind]
  split
  · exact ⟨_, rfl⟩
  · exact ⟨_, rfl⟩

/-- At the end of the text, only a word that takes no argument is no error. -/
theorem wordKind_nil_cases (word : List Char) : (∃ cause, wordKind word [] = .error cause) ∨
    ∃ k : Keyword, k.needsSeparator = false ∧ word = k.text.toList := by
  unfold wordKind
  split
  · next k hword =>
    by_cases hk : k.needsSeparator = true
    · exact Or.inl ⟨.missingSeparator k, by simp [hk, startsSeparator]⟩
    · exact Or.inr ⟨k, Bool.eq_false_iff.mpr hk, by rw [Keyword.text_of_ofText? hword, String.toList_ofList]⟩
  · exact Or.inl ⟨_, rfl⟩

theorem exists_keyword_of_wordKind {word rest : List Char} (h : (wordKind word rest).error? = none) :
    ∃ k : Keyword, wordKind word rest = .keyword k ∧ word = k.text.toList := by
  unfold wordKind at h ⊢
  split at h
  · next k hword =>
    split at h
    · next hs => exact ⟨k, if_pos hs, by rw [Keyword.text_of_ofText? hword, String.toList_ofList]⟩
    · cases h
  · cases h

theorem wordKind_of_needsSeparator {k : Keyword} (hk : k.needsSeparator = false) (rest : List Char) :
    wordKind k.text.toList rest = .keyword k := by
  rw [wordKind, String.ofList_toList, Keyword.ofText?_text]
  simp [hk]

/-- Whatever is read without error at the end of the text is read alike before a newline. -/
theorem Stretch.before_newline (h : Stretch c run [] ks) (hok : ∀ kind ∈ ks, kind.error? = none) (more : List Char) :
    Stretch c run ('\n' :: more) ks := by
  have hnewline : ∀ {p : Char → Bool}, p '\n' = false → Stops p ('\n' :: more) := by
    intro p hp c hc
    cases hc
    exact hp
  cases h with
  | blank hc => exact .blank hc
  | comment hb => exact .comment hb (hnewline rfl)
  | period => exact .period
  | quote => exact .quote
  | color hd => exact .color hd (hnewline (by decide))
  | number =>
    obtain ⟨cause, hk⟩ := exists_error_of_numberKind_nil (c :: run)
    cases hk ▸ hok _ (List.mem_singleton_self _)
  | word hw =>
    rcases wordKind_nil_cases (c :: run) with ⟨cause, hk⟩ | ⟨k, hk, hword⟩
    · cases hk ▸ hok _ (List.mem_singleton_self _)
    · have hsame : wordKind (c :: run) [] = wordKind (c :: run) ('\n' :: more) := by
        rw [hword, wordKind_of_needsSeparator hk, wordKind_of_needsSeparator hk]
      rw [hsame]
      exact .word hw (hnewline (by decide))
  | stray h => exact .stray h

theorem Keyword.eq_of_text_starts {k k' : Keyword} (h : k.text.toList <+: k'.text.toList) : k = k' := by
  have every : ∀ k ∈ Keyword.all, ∀ k' ∈ Keyword.all, k.text.toList <+: k'.text.toList → k = k' := by decide
  exact every k k.mem_all k' k'.mem_all h

/-- A proper stretch that the text is cut off in is read as it was, gives no token or gives an error. -/
theorem Stretch.cut {part : List Char} (h : Stretch c run rest ks) (hok : ∀ kind ∈ ks, kind.error? = none)
    (hpart : part <+: run) : ∃ ks', Stretch c part [] ks' ∧
      ((part = run ∧ ks' = ks) ∨ ks' = [] ∨ ∃ cause more, ks' = .error cause :: more) := by
  have hnil : ∀ p : Char → Bool, Stops p [] := fun p c hc => by cases hc
  cases h with
  | blank hc =>
    rw [List.prefix_nil.mp hpart]
    exact ⟨_, .blank hc, Or.inr (Or.inl rfl)⟩
  | comment hb => exact ⟨_, .comment (fun h => hb (hpart.subset h)) (hnil _), Or.inr (Or.inl rfl)⟩
  | period =>
    rw [List.prefix_nil.mp hpart]
    exact ⟨_, .period, Or.inl ⟨rfl, rfl⟩⟩
  | quote =>
    rw [List.prefix_nil.mp hpart]
    exact ⟨_, .quote, Or.inl ⟨rfl, rfl⟩⟩
  | color hd =>
    refine ⟨_, .color (fun d h => hd d (hpart.subset h)) (hnil _), ?_⟩
    by_cases hlen : part.length = 6
    · -- All six digits are there, and the whole color has no more of them.
      have hrun : run.length = 6 := by
        by_cases hrun : run.length = 6
        · exact hrun
        · rw [colorKinds, if_neg hrun] at hok
          cases hok _ List.mem_cons_self
      have heq := hpart.eq_of_length (hlen.trans hrun.symm)
      exact Or.inl ⟨heq, by rw [heq]⟩
    · exact Or.inr (Or.inr ⟨_, _, if_neg hlen⟩)
  | number hd =>
    obtain ⟨cause, hk⟩ := exists_error_of_numberKind_nil (c :: part)
    have hdigits : ∀ d ∈ c :: part, d.isDigit = true := fun d h =>
      hd d ((List.prefix_cons_inj c).mpr hpart |>.subset h)
    exact ⟨_, .number hdigits (hnil _), Or.inr (Or.inr ⟨cause, [], by rw [hk]⟩)⟩
  | word hw =>
    have hstarts : c :: part <+: c :: run := (List.prefix_cons_inj c).mpr hpart
    refine ⟨_, .word (fun d h => hw d (hstarts.subset h)) (hnil _), ?_⟩
    rcases wordKind_nil_cases (c :: part) with ⟨cause, hk⟩ | ⟨k, hk, hword⟩
    · exact Or.inr (Or.inr ⟨cause, [], by rw [hk]⟩)
    · -- The part is a keyword and starts one, so it is the whole of it.
      obtain ⟨k', hk', hword'⟩ := exists_keyword_of_wordKind (hok _ (List.mem_singleton_self _))
      rw [hword, hword'] at hstarts
      cases Keyword.eq_of_text_starts hstarts
      have heq : c :: part = c :: run := hword.trans hword'.symm
      refine Or.inl ⟨(List.cons.inj heq).2, ?_⟩
      rw [hk', hword, wordKind_of_needsSeparator hk]
  | stray h => cases hok _ (List.mem_singleton_self _)

end

end TurtleGraphics.Token
