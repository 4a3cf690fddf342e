import TurtleGraphics.Drawing
import TurtleGraphics.Proofs.Lookahead
import TurtleGraphics.Proofs.Tiling
import TurtleGraphics.Proofs.Verdict

/-! # Layout and letter case do not matter

The layout of a text is its words, each with the gap before it, and what trails; it is cut out of the text at the
indices of its tokens. A text with other gaps, empty where they were empty, gives the same kinds of tokens, errors among
them (`Relaid.kinds_eq`): from the end of a word the two texts look alike. Since the kinds decide what reading comes to,
both texts are the same program or go wrong at the same token. -/

namespace TurtleGraphics

namespace Token

/-! ### The layout of a text -/

/-- Words, each with the gap before it, and what comes behind the last. -/
structure Layout where
  words : List (List Char × List Char)
  last : List Char
deriving Repr, DecidableEq

/-- The layout of `source` from index `i` on. A token that starts before `i` is one more token of the last word. -/
def layoutFrom (source : List Char) (i : Nat) : List Token → Layout
  | [] => ⟨[], source.drop i⟩
  | t :: tokens =>
    if t.start.index < i then layoutFrom source i tokens
    else
      let behind := layoutFrom source t.stop.index tokens
      ⟨(between source i t.start.index, between source t.start.index t.stop.index) :: behind.words, behind.last⟩

/-- The layout of a text in upper case, by its tokens without the end marker. -/
def layout (text : String) : Layout := layoutFrom (Text.upperCase text) 0 (scan text).dropLast

/-- The layout of `text`, which comes behind `before`. -/
def layoutBehind (before text : List Char) : Layout :=
  layoutFrom (before ++ text) before.length (tokensFrom (Position.start.after before) text)

theorem layout_eq (text : String) : layout text = layoutBehind [] (Text.upperCase text) := by
  rw [layout, scan_eq, List.dropLast_concat]
  rfl

theorem Trailing.layoutBehind_eq {text : List Char} (h : Trailing text) (before : List Char) :
    layoutBehind before text = ⟨[], text⟩ := by
  rw [layoutBehind, h.tokensFrom_eq, layoutFrom, List.drop_left]

theorem layoutFrom_of_lt {source : List Char} {i : Nat} {t : Token} {tokens : List Token} (h : t.start.index < i) :
    layoutFrom source i (t :: tokens) = layoutFrom source i tokens :=
  if_pos h

theorem layoutFrom_placed {gap word rest : List Char} (before : List Char) (kind : Kind) (tokens : List Token) :
    layoutFrom (before ++ (gap ++ (word ++ rest))) before.length (placed (before ++ gap) word kind :: tokens) =
      ⟨(gap, word) :: (layoutFrom (before ++ (gap ++ (word ++ rest))) (before ++ (gap ++ word)).length tokens).words,
        (layoutFrom (before ++ (gap ++ (word ++ rest))) (before ++ (gap ++ word)).length tokens).last⟩ := by
  have hgap := between_append before gap (word ++ rest)
  have hword := between_append (before ++ gap) word rest
  rw [List.append_assoc, List.append_assoc] at hword
  have hle : ¬(before ++ gap).length < before.length := by simp
  simp only [layoutFrom, placed, Position.index_start_after, hle, ↓reduceIte, List.append_assoc, hgap, hword]

theorem layoutBehind_gap_stretch {gap run rest : List Char} {c : Char} {ks : List Kind} (hg : Gap gap)
    (h : Stretch c run rest ks) (hne : ks ≠ []) (before : List Char) :
    layoutBehind before (gap ++ c :: (run ++ rest)) =
      ⟨(gap, c :: run) :: (layoutBehind (before ++ (gap ++ c :: run)) rest).words,
        (layoutBehind (before ++ (gap ++ c :: run)) rest).last⟩ := by
  have hwhole : before ++ (gap ++ c :: run) ++ rest = before ++ (gap ++ (c :: run ++ rest)) := by simp
  rw [layoutBehind, layoutBehind, tokensFrom_gap_stretch hg h, hwhole]
  rcases h.kinds_cases with rfl | ⟨kind, rfl, -⟩ | ⟨literal, rfl⟩
  · exact absurd rfl hne
  · exact layoutFrom_placed before kind _
  · -- The second token starts where the first one does, before the end of the word.
    have hlt : (placed (before ++ gap) (c :: run) (.hex literal)).start.index <
        (before ++ (gap ++ c :: run)).length := by
      simp [placed]
    rw [← layoutFrom_of_lt hlt]
    exact layoutFrom_placed before _ _

/-! ### Other gaps -/

/-- A text with the words of a layout and other gaps. A gap is empty just when it was. -/
inductive Relaid : Layout → List Char → Prop where
  | last {last text : List Char} (h : Trailing text) (he : text = [] ↔ last = []) : Relaid ⟨[], last⟩ text
  | word {gap gap' word last text : List Char} {words : List (List Char × List Char)} (hg : Gap gap')
    (he : gap' = [] ↔ gap = []) (h : Relaid ⟨words, last⟩ text) :
    Relaid ⟨(gap, word) :: words, last⟩ (gap' ++ (word ++ text))

theorem Trailing.startsSeparator {text : List Char} (h : Trailing text) (hne : text ≠ []) :
    startsSeparator text = true := by
  obtain ⟨gap, comment, rfl, hg, hlast⟩ := h
  by_cases hgap : gap = []
  · subst hgap
    rcases hlast with rfl | ⟨body, rfl, -⟩
    · exact absurd rfl hne
    · rfl
  · exact hg.startsSeparator hgap comment

/-- Two gaps before the same word, both empty or neither, look alike from before. -/
theorem sameAhead_of_gaps {gap gap' : List Char} (hg : Gap gap) (hg' : Gap gap') (he : gap' = [] ↔ gap = []) {c : Char}
    (rest rest' : List Char) : SameAhead (gap ++ c :: rest) (gap' ++ c :: rest') := by
  by_cases hgap : gap = []
  · right
    rw [hgap, he.mpr hgap]
    rfl
  · left
    exact ⟨hg.startsSeparator hgap _, hg'.startsSeparator (fun h => hgap (he.mp h)) _⟩

theorem Relaid.sameAhead {before text text' : List Char} (h : Relaid (layoutBehind before text) text') :
    SameAhead text text' := by
  rcases trailing_or_stretch text with htrail | ⟨gap, c, run, rest, ks, rfl, hg, hs, hne⟩
  · rw [htrail.layoutBehind_eq] at h
    cases h with
    | last h he =>
      by_cases hnil : text = []
      · right
        rw [hnil, he.mpr hnil]
      · left
        exact ⟨htrail.startsSeparator hnil, h.startsSeparator fun h' => hnil (he.mp h')⟩
  · rw [layoutBehind_gap_stretch hg hs hne] at h
    cases h with
    | word hg' he h => exact sameAhead_of_gaps hg hg' he _ _

/-- The gaps of a text have no part in the kinds of its tokens. -/
theorem Relaid.kinds_eq {text : List Char} : ∀ {before text' : List Char}, Relaid (layoutBehind before text) text' →
    kinds text' = kinds text := by
  induction text using tokenInduction with
  | trailing htrail =>
    intro before text' h
    rw [htrail.layoutBehind_eq] at h
    cases h with
    | last h he => rw [h.kinds_eq, htrail.kinds_eq]
  | @token gap c run rest ks hg hs hne ih =>
    intro before text' h
    rw [layoutBehind_gap_stretch hg hs hne] at h
    cases h with
    | @word _ gap' _ _ rest' _ hg' he h =>
      have hs' := hs.of_sameAhead h.sameAhead fun hnil => absurd hnil hne
      rw [hg.kinds_append, hg'.kinds_append, List.cons_append, hs.kinds_append, hs'.kinds_append, ih h]

end Token

namespace Program
open Token

theorem ReadAlike.segments {a b : String} (h : ReadAlike a b) (segments : List Segment) :
    (parse b).map Program.segments = .ok segments ↔ (parse a).map Program.segments = .ok segments := by
  rcases h with ⟨p, ha, hb⟩ | ⟨e, e', _, _, _, ha, hb, -⟩
  · rw [ha, hb]
  · rw [ha, hb]
    constructor <;> intro h <;> cases h

/-- Texts with the same words, and gaps that are empty in both or in neither, have the same kinds of tokens, read alike
    and draw the same. Texts that differ in the case of ASCII letters have the same tokens, positions included. -/
theorem readAlike_of_relaid :
    (∀ text other : String, Relaid (layout text) (Text.upperCase other) →
      (scan other).map Token.kind = (scan text).map Token.kind ∧ ReadAlike text other ∧
      ∀ segments, (parse other).map Program.segments = .ok segments ↔
        (parse text).map Program.segments = .ok segments) ∧
    ∀ text other : String, List.Forall₂ Text.SameLetter text.toList other.toList →
      scan other = scan text ∧ parse other = parse text := by
  constructor
  · intro text other h
    rw [layout_eq] at h
    have hkinds := h.kinds_eq
    have halike := readAlike_of_kinds_eq hkinds
    refine ⟨?_, halike, halike.segments⟩
    rw [kind_scan, kind_scan, hkinds]
  · intro text other h
    have hupper := Text.upperCase_eq_of_sameLetter h
    have hscan : scan other = scan text := by rw [scan, scan, hupper]
    exact ⟨hscan, by rw [parse, parse, hscan]⟩

/-- A loop with a zero and a malformed color in it, in two layouts and in other letters. -/
theorem readAlike_of_relaid_loop :
    let text := "rep 2 % twice\n\"FORW 0#12.\" "
    let other := "REP%\n2\t\"FORW\n\n0#12.\"%"
    let loud := "Rep 2 % TWICE\n\"forw 0#12.\" "
    (scan other).map Token.kind = (scan text).map Token.kind ∧ ReadAlike text other ∧ scan loud = scan text := by
  intro text other loud
  have hlayout : layout text = ⟨[([], "REP".toList), ([' '], ['2']), (" % TWICE\n".toList, ['"']), ([], "FORW".toList),
      ([' '], ['0']), ([], "#12".toList), ([], ['.']), ([], ['"'])], [' ']⟩ := by decide +kernel
  have hother : Text.upperCase other = [] ++ ("REP".toList ++ (('%' :: ([] ++ ['\n'])) ++ (['2'] ++ (['\t'] ++ (['"'] ++
      ([] ++ ("FORW".toList ++ (['\n', '\n'] ++ (['0'] ++ ([] ++ ("#12".toList ++ ([] ++ (['.'] ++ ([] ++ (['"'] ++
      ['%'])))))))))))))))  := by decide
  have hrelaid : Relaid (layout text) (Text.upperCase other) := by
    rw [hlayout, hother]
    have hnil : ([] : List Char) = [] ↔ ([] : List Char) = [] := Iff.rfl
    have hblank {c : Char} (h : isBlank c = true) {rest : List Char} (hg : Gap rest) : Gap (c :: rest) :=
      .blank (isBlank_iff.mp h) hg
    exact .word .nil hnil (.word (.comment (by simp) (hblank rfl .nil)) (by simp) (.word (hblank rfl .nil) (by simp)
      (.word .nil hnil (.word (hblank rfl (hblank rfl .nil)) (by simp)
      (.word .nil hnil (.word .nil hnil (.word .nil hnil
      (.last ⟨[], ['%'], rfl, .nil, Or.inr ⟨[], rfl, by simp⟩⟩ (by simp)))))))))
  have hletters : List.Forall₂ Text.SameLetter text.toList loud.toList := by decide
  obtain ⟨hkinds, halike, -⟩ := readAlike_of_relaid.1 text other hrelaid
  exact ⟨hkinds, halike, (readAlike_of_relaid.2 text loud hletters).1⟩

end Program

end TurtleGraphics
