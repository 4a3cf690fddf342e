import TurtleGraphics.Proofs.Lookahead
import TurtleGraphics.Proofs.Tiling
import TurtleGraphics.Proofs.Verdict

/-! # Programs that are cut off

Where a text without errors is cut off, the tokens before the cut stay as they are. What is left of a token that the cut
goes through is no token or an error, never another token (`tokensFrom_cut`). So the reader takes the tokens that it
took before, and then it stands at the end of a program or stops at the last token. -/

namespace TurtleGraphics

namespace Token

/-! ### The tokens before the cut -/

/-- What a token that is cut off leaves: nothing, or an error with what else is read of the same text. -/
def Broken (tokens : List Token) : Prop :=
  tokens = [] ∨ ∃ t more, tokens = t :: more ∧ (∃ cause, t.kind = .error cause) ∧ ∀ u ∈ more, u.start = t.start

/-- The first ones of `tokens`, up to a broken one. -/
def CutOff (part tokens : List Token) : Prop :=
  ∃ taken broken, part = taken ++ broken ∧ taken <+: tokens ∧ Broken broken

theorem CutOff.append {part tokens : List Token} (h : CutOff part tokens) (front : List Token) :
    CutOff (front ++ part) (front ++ tokens) := by
  obtain ⟨taken, broken, rfl, htaken, hbroken⟩ := h
  exact ⟨front ++ taken, broken, (List.append_assoc _ _ _).symm, (List.prefix_append_right_inj front).mpr htaken,
    hbroken⟩

theorem cutOff_nil (tokens : List Token) : CutOff [] tokens := ⟨[], [], rfl, List.nil_prefix, Or.inl rfl⟩

/-- The start of a stretch and more text is a part of the stretch, or all of it with the start of the text. -/
theorem part_cases {part run rest : List Char} (h : part <+: run ++ rest) :
    part <+: run ∨ ∃ d tail, part = run ++ d :: tail ∧ d :: tail <+: rest := by
  rcases List.prefix_or_prefix_of_prefix h (List.prefix_append run rest) with hpart | ⟨tail, rfl⟩
  · exact Or.inl hpart
  · cases tail with
    | nil =>
      rw [List.append_nil]
      exact Or.inl (List.prefix_refl run)
    | cons d tail => exact Or.inr ⟨d, tail, rfl, (List.prefix_append_right_inj run).mp h⟩

theorem Stretch.tokensFrom_cut {c : Char} {run rest part : List Char} {ks : List Kind} (h : Stretch c run rest ks)
    (hok : ∀ kind ∈ ks, kind.error? = none) (hpart : part <+: run) (position : Position) :
    CutOff (tokensFrom position (c :: part)) (tokensFrom position (c :: (run ++ rest))) := by
  obtain ⟨ks', hcut, hks⟩ := h.cut hok hpart
  have htokens := hcut.tokensFrom_append position
  rw [List.append_nil, tokensFrom_nil, List.append_nil] at htokens
  rw [htokens]
  rcases hks with ⟨rfl, rfl⟩ | rfl | ⟨cause, more, rfl⟩
  · rw [h.tokensFrom_append]
    exact ⟨_, [], (List.append_nil _).symm, List.prefix_append _ _, Or.inl rfl⟩
  · exact cutOff_nil _
  · refine ⟨[], _, rfl, List.nil_prefix, Or.inr ⟨_, _, rfl, ⟨cause, rfl⟩, ?_⟩⟩
    intro u hu
    obtain ⟨kind, -, rfl⟩ := List.mem_map.mp hu
    rfl

theorem tokensFrom_cut {text : List Char} : ∀ {cut : List Char} (position : Position), cut <+: text →
    (∀ kind ∈ kinds text, kind.error? = none) → CutOff (tokensFrom position cut) (tokensFrom position text) := by
  induction text using stretchInduction with
  | nil =>
    intro cut position hcut hok
    rw [List.prefix_nil.mp hcut, tokensFrom_nil]
    exact cutOff_nil _
  | @stretch c run rest ks h ih =>
    intro cut position hcut hok
    rw [h.kinds_append, List.forall_mem_append] at hok
    rcases List.prefix_cons_iff.mp hcut with rfl | ⟨part, rfl, hpart⟩
    · rw [tokensFrom_nil]
      exact cutOff_nil _
    · rcases part_cases hpart with hpart | ⟨d, tail, rfl, htail⟩
      · exact h.tokensFrom_cut hok.1 hpart position
      · -- The character behind the stretch is there, so the stretch is read as it was.
        have hhead : rest.head? = (d :: tail).head? := by
          obtain ⟨more, rfl⟩ := htail
          rfl
        have hsame := h.of_sameAhead (Or.inr hhead) fun _ => hhead
        rw [h.tokensFrom_append, hsame.tokensFrom_append]
        exact (ih _ htail hok.2).append _

/-! ### The last line -/

section
variable {source : List Char} {s t : Token}

theorem line_of_mem (h : t ∈ tokensFrom .start source) : t.stop.line = t.start.line := by
  obtain ⟨front, word, back, -, -, hword, ht⟩ := exists_placed_of_mem [] h
  rw [ht, placed, Position.after_append, Position.line_after _ word, List.count_eq_zero.mpr hword, Nat.add_zero]

theorem Separate.line_le (h : Separate source s t) : s.stop.line ≤ t.stop.line := by
  obtain ⟨front, word, gap, word', back, -, -, hs, ht⟩ := h
  have hbehind : front ++ (word ++ gap) ++ word' = front ++ word ++ (gap ++ word') := by simp
  rw [hs, ht, placed, placed, hbehind, Position.after_append _ (front ++ word), Position.line_after _ (gap ++ word')]
  exact Nat.le_add_right _ _

/-- No token stands on a line below the last one. -/
theorem line_le_of_getLast? (hlast : (tokensFrom .start source).getLast? = some t) (hs : s ∈ tokensFrom .start source) :
    s.stop.line ≤ t.start.line := by
  have hchain : (tokensFrom .start source).IsChain fun s t => s.stop.line ≤ t.stop.line := by
    refine (isChain_tokensFrom source []).imp fun s t hst => ?_
    rcases hst with hst | ⟨-, -, -, -, hstop⟩
    · exact hst.line_le
    · exact Nat.le_of_eq (congrArg Position.line hstop)
  have hpairwise := List.isChain_iff_pairwise.mp hchain
  rw [← line_of_mem (List.mem_of_mem_getLast? hlast)]
  obtain ⟨before, hbefore⟩ := List.getLast?_eq_some_iff.mp hlast
  rw [hbefore, List.pairwise_append] at hpairwise
  rw [hbefore, List.mem_append, List.mem_singleton] at hs
  rcases hs with hs | rfl
  · exact hpairwise.2.2 s hs t (List.mem_singleton_self t)
  · exact Nat.le_refl _

end

theorem line_le_of_mem_scan {text : String} {t : Token}
    (h : (tokensFrom .start (Text.upperCase text)).getLast? = some t) :
    ∀ s ∈ scan text, s.stop.line ≤ t.start.line := by
  intro s hs
  rw [scan_eq, List.mem_append, List.mem_singleton] at hs
  rcases hs with hs | rfl
  · exact line_le_of_getLast? h hs
  · rw [finish, h]
    exact Nat.le_refl _

theorem filter_scan (text : String) : (scan text).filter (!·.isEof) = tokensFrom .start (Text.upperCase text) := by
  rw [scan_eq, List.filter_append, List.filter_eq_self.mpr]
  · simp [isEof]
  · intro t ht
    simpa [isEof] using kind_ne_eof_of_mem ht

end Token

namespace Program
open Token

/-! ### Reading up to the cut -/

/-- What is a program by itself is the first statements of every program that it starts. -/
theorem Reader.statements_starts {taken rest : List Kind} {mid : Reader} {p q : Program}
    (hmid : start.takeAll? taken = some mid) (hq : mid.result? = some q)
    (hp : start.verdict (taken ++ rest) = .ok p) : q.statements <+: p.statements := by
  rw [verdict_of_takeAll? hmid, eq_of_result? hq, verdict_since] at hp
  cases hv : start.verdict rest with
  | error f =>
    rw [hv] at hp
    cases hp
  | ok more =>
    rw [hv] at hp
    cases hp
    rw [List.reverse_reverse]
    exact List.prefix_append _ _

section
variable {text : String} {mid : Reader}

theorem parse_of_unfinished (hmid : Reader.start.takeAll? (kinds (Text.upperCase text)) = some mid)
    (hnone : mid.result? = none) : parse text = .error ⟨mid.unfinished, finish (Text.upperCase text)⟩ := by
  have hverdict : Reader.start.verdict (kinds (Text.upperCase text) ++ []) = _ := Reader.verdict_of_takeAll? hmid
  rw [List.append_nil, Reader.verdict, hnone] at hverdict
  refine parse_eq_error_iff.mpr ⟨_, hverdict, ?_⟩
  rw [scan_eq, ← kind_tokensFrom .start]
  simp

theorem parse_of_refused {taken more : List Token} {t : Token}
    (htokens : tokensFrom .start (Text.upperCase text) = taken ++ t :: more)
    (hmid : Reader.start.takeAll? (taken.map Token.kind) = some mid) (ht : mid.take? t.kind = none) :
    parse text = .error ⟨mid.refuse t.kind, t.start⟩ := by
  have hverdict : Reader.start.verdict (kinds (Text.upperCase text)) = .error ⟨taken.length, mid.refuse t.kind⟩ := by
    rw [← kind_tokensFrom .start, htokens, List.map_append, Reader.verdict_of_takeAll? hmid, List.map_cons,
      Reader.verdict_of_refused ht]
    simp [Except.mapError, Fault.behind]
  refine parse_eq_error_iff.mpr ⟨_, hverdict, ?_⟩
  rw [scan_eq, htokens]
  simp

end

theorem getLast?_start_of_broken {taken more : List Token} {t : Token} (h : ∀ u ∈ more, u.start = t.start) :
    ∃ u, (taken ++ t :: more).getLast? = some u ∧ u.start = t.start := by
  refine ⟨_, List.getLast?_eq_some_getLast (by simp), ?_⟩
  rw [List.getLast_append_of_ne_nil _ (List.cons_ne_nil t more)]
  rcases List.mem_cons.mp (List.getLast_mem (List.cons_ne_nil t more)) with hlast | hlast
  · rw [hlast]
  · exact h _ hlast

/-- Where the tokens of a program are cut off, they are the first statements of it, or there is an error at the last
    one. -/
theorem parse_of_cutOff {text cut : String} {p : Program} (h : parse text = .ok p)
    (hcut : CutOff (tokensFrom .start (Text.upperCase cut)) (tokensFrom .start (Text.upperCase text))) :
    (∃ q, parse cut = .ok q ∧ q.statements <+: p.statements) ∨
    ∃ e t, parse cut = .error e ∧ (tokensFrom .start (Text.upperCase cut)).getLast? = some t ∧
      t.start = e.position := by
  obtain ⟨last, hlast, -⟩ := parse_eq_ok_iff.mp h
  obtain ⟨taken, broken, hpart, ⟨rest, htokens⟩, hbroken⟩ := hcut
  have hkinds : kinds (Text.upperCase text) = taken.map Token.kind ++ rest.map Token.kind := by
    rw [← kind_tokensFrom .start, ← htokens, List.map_append]
  rw [hkinds, Reader.takeAll?_append] at hlast
  obtain ⟨mid, hmid, -⟩ := Option.bind_eq_some_iff.mp hlast
  rcases hbroken with rfl | ⟨t, more, rfl, ⟨cause, hcause⟩, hmore⟩
  · -- All tokens are taken, as they were before the cut.
    rw [List.append_nil] at hpart
    have hmid' : Reader.start.takeAll? (kinds (Text.upperCase cut)) = some mid := by
      rw [← kind_tokensFrom .start, hpart, hmid]
    cases hq : mid.result? with
    | some q =>
      have hp := parse_eq_verdict_ok_iff.mp h
      rw [hkinds] at hp
      exact Or.inl ⟨q, parse_eq_ok_iff.mpr ⟨mid, hmid', hq⟩, Reader.statements_starts hmid hq hp⟩
    | none =>
      have hne : tokensFrom .start (Text.upperCase cut) ≠ [] := by
        intro hnil
        rw [← kind_tokensFrom .start, hnil] at hmid'
        cases hmid'
        cases hq
      have hend := List.getLast?_eq_some_getLast hne
      refine Or.inr ⟨_, _, parse_of_unfinished hmid' hq, hend, ?_⟩
      rw [finish, hend]
      rfl
  · -- The broken token is an error, and no reader takes it.
    have hrefused : mid.take? t.kind = none := hcause ▸ mid.take?_error cause
    obtain ⟨u, hu, hstart⟩ := getLast?_start_of_broken hmore
    exact Or.inr ⟨_, u, parse_of_refused hpart hmid hrefused, hpart ▸ hu, hstart⟩

/-- However a program is cut off, what is left is its first statements, or it has an error at the last token, and there
    is no code below the line of the error. -/
theorem parse_cut (text cut : String) (p : Program) (h : parse text = .ok p) (hcut : cut.toList <+: text.toList) :
    (∃ q, parse cut = .ok q ∧ q.statements <+: p.statements) ∨
    ∃ e, parse cut = .error e ∧ ((scan cut).filter (!·.isEof)).getLast?.map Token.start = some e.position ∧
      ∀ t ∈ scan cut, t.stop.line ≤ e.position.line := by
  obtain ⟨last, hlast, -⟩ := parse_eq_ok_iff.mp h
  have hcutOff := tokensFrom_cut .start (Text.upperCase_starts hcut) (Reader.error?_of_takeAll? hlast)
  rcases parse_of_cutOff h hcutOff with hok | ⟨e, t, herror, ht, hposition⟩
  · exact Or.inl hok
  · refine Or.inr ⟨e, herror, ?_, ?_⟩
    · rw [filter_scan, ht, ← hposition]
      rfl
    · rw [← hposition]
      exact line_le_of_mem_scan ht

/-- A program that is cut off in a color, and before it. -/
theorem parse_cut_color :
    let text := "UP.\nCOLOR #00FF00."
    let p : Program := ⟨[.pen false, .color ⟨0, 255, 0⟩]⟩
    let inside := "UP.\nCOLOR #00F"
    let before := "UP.\n"
    parse text = .ok p ∧ inside.toList <+: text.toList ∧ before.toList <+: text.toList ∧
    (∃ e, parse inside = .error e ∧ ((scan inside).filter (!·.isEof)).getLast?.map Token.start = some e.position ∧
      ∀ t ∈ scan inside, t.stop.line ≤ e.position.line) ∧
    ∃ q, parse before = .ok q ∧ q.statements <+: p.statements := by
  intro text p inside before
  have hkinds : kinds (Text.upperCase text) = [.keyword .up, .period, .keyword .color, .hex "#00FF00", .period] := by
    decide +kernel
  have h : parse text = .ok p := parse_eq_verdict_ok_iff.mpr (by rw [hkinds]; rfl)
  have hinside : kinds (Text.upperCase inside) = [.keyword .up, .period, .keyword .color,
      .error (.malformedColor "#00F"), .hex "#00F"] := by decide +kernel
  have hbefore : kinds (Text.upperCase before) = [.keyword .up, .period] := by decide +kernel
  have hcut : inside.toList <+: text.toList := by decide
  have hcut' : before.toList <+: text.toList := by decide
  refine ⟨h, hcut, hcut', ?_, ?_⟩
  · rcases parse_cut text inside p h hcut with ⟨q, hok, -⟩ | herror
    · rw [parse_eq_verdict_ok_iff, hinside] at hok
      cases hok
    · exact herror
  · rcases parse_cut text before p h hcut' with hok | ⟨e, herror, -⟩
    · exact hok
    · obtain ⟨k, hfault, -⟩ := parse_eq_error_iff.mp herror
      rw [hbefore] at hfault
      cases hfault

end Program

end TurtleGraphics
