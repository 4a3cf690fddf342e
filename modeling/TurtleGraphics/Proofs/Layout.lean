import TurtleGraphics.Proofs.Lexemes

/-! # Gaps between tokens

Blanks and comments may stand before every token and at the end of the text. They give no token (`Gap.kinds_append`),
and before the first token of a text there is nothing else (`trailing_or_stretch`). -/

namespace TurtleGraphics.Token

/-- Blanks and comments before a token. A comment goes on to a newline, and the newline is part of the gap. -/
inductive Gap : List Char → Prop where
  | nil : Gap []
  | blank {c : Char} {rest : List Char} (hc : c ∈ [' ', '\t', '\n']) (h : Gap rest) : Gap (c :: rest)
  | comment {body rest : List Char} (hb : '\n' ∉ body) (h : Gap ('\n' :: rest)) : Gap ('%' :: (body ++ '\n' :: rest))

/-- What may stand behind the last gap: a comment that the text ends in. -/
def LastComment (text : List Char) : Prop := text = [] ∨ ∃ body, text = '%' :: body ∧ '\n' ∉ body

/-- What may stand behind the last token. -/
def Trailing (text : List Char) : Prop := ∃ gap comment, text = gap ++ comment ∧ Gap gap ∧ LastComment comment

theorem isBlank_iff {c : Char} : isBlank c = true ↔ c ∈ [' ', '\t', '\n'] := by
  simp [isBlank, or_assoc]

theorem Gap.append {a b : List Char} (ha : Gap a) (hb : Gap b) : Gap (a ++ b) := by
  induction ha with
  | nil => exact hb
  | blank hc h ih => exact .blank hc ih
  | @comment body rest hbody h ih =>
    rw [List.cons_append, List.append_assoc]
    exact .comment hbody ih

theorem kinds_comment {body rest : List Char} (hb : '\n' ∉ body) (hstop : Stops (· != '\n') rest) :
    kinds ('%' :: (body ++ rest)) = kinds rest :=
  (Stretch.comment hb hstop).kinds_append

theorem kinds_blank {c : Char} (h : isBlank c = true) (rest : List Char) : kinds (c :: rest) = kinds rest :=
  (Stretch.blank h).kinds_append

theorem Gap.kinds_append {gap rest : List Char} (h : Gap gap) : kinds (gap ++ rest) = kinds rest := by
  induction h with
  | nil => rfl
  | blank hc h ih => rw [List.cons_append, kinds_blank (isBlank_iff.mpr hc), ih]
  | @comment body tail hb h ih =>
    have hstop : Stops (· != '\n') ('\n' :: tail ++ rest) := stops_newline _
    rw [List.cons_append, List.append_assoc, kinds_comment hb hstop, ih]

theorem LastComment.kinds_eq {text : List Char} (h : LastComment text) : kinds text = [] := by
  rcases h with rfl | ⟨body, rfl, hb⟩
  · exact kinds_nil
  · have hstop : Stops (· != '\n') [] := fun c hc => by cases hc
    simpa using kinds_comment hb hstop

theorem Trailing.kinds_eq {text : List Char} (h : Trailing text) : kinds text = [] := by
  obtain ⟨gap, comment, rfl, hgap, hlast⟩ := h
  rw [hgap.kinds_append, hlast.kinds_eq]

theorem Gap.startsSeparator {gap : List Char} (h : Gap gap) (hne : gap ≠ []) (rest : List Char) :
    startsSeparator (gap ++ rest) = true := by
  cases h with
  | nil => exact absurd rfl hne
  | blank hc h => simp [Token.startsSeparator, isBlank_iff.mpr hc]
  | comment hb h => simp [Token.startsSeparator]

theorem Gap.delimited {gap : List Char} (h : Gap gap) (rest : List Char) : Delimited (gap ++ '.' :: rest) := by
  by_cases hne : gap = []
  · subst hne
    exact Or.inr rfl
  · exact Or.inl (h.startsSeparator hne _)

theorem gap_ne_nil {gap text : List Char} (h : startsSeparator (gap ++ text) = true)
    (ht : startsSeparator text = false) : gap ≠ [] := by
  rintro rfl
  rw [List.nil_append, ht] at h
  cases h

/-! ### The next token -/

theorem Stretch.startsSeparator_eq_false {c : Char} {run rest : List Char} {ks : List Kind} (h : Stretch c run rest ks)
    (hne : ks ≠ []) (more : List Char) : Token.startsSeparator (c :: more) = false := by
  have hkinds : (lexeme c (run ++ rest)).kinds = ks := by rw [h.lexeme_eq]
  have hblank : isBlank c = false := by
    cases hb : isBlank c with
    | false => rfl
    | true => exact absurd (by rw [← hkinds, lexeme_blank hb]) hne
  have hcomment : c ≠ '%' := by
    rintro rfl
    exact hne (by rw [← hkinds, lexeme_comment])
  simp [Token.startsSeparator, hblank, hcomment]

/-- There are no blanks and no percent signs in a token. -/
theorem Stretch.separator_notMem {c : Char} {run rest : List Char} {ks : List Kind} (h : Stretch c run rest ks)
    (hne : ks ≠ []) {d : Char} (hd : Token.startsSeparator [d] = true) : d ∉ c :: run := by
  intro hmem
  have hstops {p : Char → Bool} (hp : [' ', '\t', '\n', '%', '.'].all (!p ·) = true) : ¬p d = true :=
    Bool.eq_false_iff.mp (Delimited.stops (Or.inl hd) hp d rfl)
  rcases List.mem_cons.mp hmem with rfl | hrun
  · rw [h.startsSeparator_eq_false hne []] at hd
    cases hd
  · cases h with
    | comment => exact hne rfl
    | color hdigit => exact hstops (by decide) (hdigit d hrun)
    | number hdigit => exact hstops (by decide) (hdigit d hmem)
    | word hletter => exact hstops (by decide) (hletter d hmem)
    | _ => cases hrun

/-- A token is on one line. -/
theorem Stretch.newline_notMem {c : Char} {run rest : List Char} {ks : List Kind} (h : Stretch c run rest ks)
    (hne : ks ≠ []) : '\n' ∉ c :: run :=
  h.separator_notMem hne rfl

theorem LastComment.head?_ne_newline {text : List Char} (h : LastComment text) : text.head? ≠ some '\n' := by
  rcases h with rfl | ⟨body, rfl, -⟩ <;> simp

/-- The newline behind a comment belongs to the gap around the comment. -/
theorem gap_of_comment {body gap text : List Char} (hb : '\n' ∉ body) (hstop : Stops (· != '\n') (gap ++ text))
    (hgap : Gap gap) (hne : gap ++ text ≠ []) (ht : text.head? ≠ some '\n') : Gap ('%' :: (body ++ gap)) := by
  cases gap with
  | nil =>
    obtain ⟨c, tail, rfl⟩ := List.exists_cons_of_ne_nil hne
    have hc : c = '\n' := by simpa using hstop c rfl
    exact absurd (congrArg some hc) ht
  | cons c gap =>
    have hc : c = '\n' := by simpa using hstop c rfl
    rw [hc] at hgap ⊢
    exact .comment hb hgap

theorem Trailing.comment {body rest : List Char} (hb : '\n' ∉ body) (hstop : Stops (· != '\n') rest)
    (h : Trailing rest) : Trailing ('%' :: (body ++ rest)) := by
  by_cases hend : rest = []
  · subst hend
    rw [List.append_nil]
    exact ⟨[], _, rfl, .nil, Or.inr ⟨body, rfl, hb⟩⟩
  · obtain ⟨gap, comment, rfl, hgap, hlast⟩ := h
    refine ⟨_, comment, ?_, gap_of_comment hb hstop hgap hend hlast.head?_ne_newline, hlast⟩
    rw [List.cons_append, List.append_assoc]

/-- Before the first token there is a gap and nothing else. A text without tokens is a gap, up to a comment that it
    ends in. -/
theorem trailing_or_stretch (text : List Char) : Trailing text ∨
    ∃ gap c run rest ks, text = gap ++ c :: (run ++ rest) ∧ Gap gap ∧ Stretch c run rest ks ∧ ks ≠ [] := by
  induction text using stretchInduction with
  | nil => exact Or.inl ⟨[], [], rfl, .nil, Or.inl rfl⟩
  | @stretch c run rest ks h ih =>
    by_cases hne : ks = []
    · cases h with
      | blank hc =>
        rcases ih with ⟨gap, comment, rfl, hgap, hlast⟩ | ⟨gap, c', run', rest', ks', rfl, hgap, h', hne'⟩
        · exact Or.inl ⟨c :: gap, comment, rfl, .blank (isBlank_iff.mp hc) hgap, hlast⟩
        · exact Or.inr ⟨c :: gap, c', run', rest', ks', rfl, .blank (isBlank_iff.mp hc) hgap, h', hne'⟩
      | comment hb hstop =>
        rcases ih with hlast | ⟨gap, c', run', rest', ks', rfl, hgap, h', hne'⟩
        · exact Or.inl (hlast.comment hb hstop)
        · -- The rest starts with the newline of the comment, and the token does not, so the newline is in the gap.
          have hhead : (c' :: (run' ++ rest')).head? ≠ some '\n' := by
            intro hc
            cases Option.some.inj hc
            cases h'.startsSeparator_eq_false hne' []
          refine Or.inr ⟨_, c', run', rest', ks', ?_, gap_of_comment hb hstop hgap (by simp) hhead, h', hne'⟩
          rw [List.cons_append, List.append_assoc]
      | color => exact absurd hne (colorKinds_ne_nil _)
      | _ => cases hne
    · exact Or.inr ⟨[], c, run, rest, ks, rfl, .nil, h, hne⟩

/-- A text is read one gap and one token after the other. -/
@[elab_as_elim]
theorem tokenInduction {motive : List Char → Prop} (trailing : ∀ {text}, Trailing text → motive text)
    (token : ∀ {gap c run rest ks}, Gap gap → Stretch c run rest ks → ks ≠ [] → motive rest →
      motive (gap ++ c :: (run ++ rest)))
    (text : List Char) : motive text := by
  induction hlen : text.length using Nat.strongRecOn generalizing text with
  | ind n ih =>
    rcases trailing_or_stretch text with h | ⟨gap, c, run, rest, ks, rfl, hgap, h, hne⟩
    · exact trailing h
    · refine token hgap h hne (ih rest.length ?_ rest rfl)
      simp only [List.length_append, List.length_cons] at hlen
      omega

/-- A proper token is written behind the gap before it. -/
theorem exists_written {text : List Char} {kind : Kind} {more : List Kind} (h : kinds text = kind :: more)
    (hk : kind.error? = none) :
    ∃ gap word rest, text = gap ++ (word ++ rest) ∧ Gap gap ∧ Written kind word rest ∧
      startsSeparator (word ++ rest) = false ∧ kinds rest = more := by
  rcases trailing_or_stretch text with htrail | ⟨gap, c, run, rest, ks, rfl, hgap, hs, hne⟩
  · rw [htrail.kinds_eq] at h
    cases h
  · rw [hgap.kinds_append, hs.kinds_append] at h
    have hsep := hs.startsSeparator_eq_false hne (run ++ rest)
    rcases hs.kinds_cases with rfl | ⟨kind', rfl, -⟩ | ⟨literal, rfl⟩
    · exact absurd rfl hne
    · obtain ⟨rfl, hmore⟩ := List.cons.inj h
      exact ⟨gap, c :: run, rest, rfl, hgap, hs.written rfl hk, hsep, hmore⟩
    · rw [← (List.cons.inj h).1] at hk
      cases hk

theorem exists_gap_of_kinds_eq_nil {text : List Char} (h : kinds text = []) :
    ∃ gap comment, text = gap ++ comment ∧ Gap gap ∧ LastComment comment := by
  rcases trailing_or_stretch text with htrail | ⟨gap, c, run, rest, ks, rfl, hgap, hs, hne⟩
  · exact htrail
  · rw [hgap.kinds_append, hs.kinds_append] at h
    exact absurd (List.append_eq_nil_iff.mp h).1 hne

end TurtleGraphics.Token
