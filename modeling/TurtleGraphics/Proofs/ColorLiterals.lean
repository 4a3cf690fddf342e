import TurtleGraphics.Proofs.ErrorCause
import TurtleGraphics.Proofs.InstructionWords
import TurtleGraphics.Proofs.TokenKinds

/-! # Color literals

A color literal is judged twice: the scanner counts its digits and puts an error before a literal that has more or fewer
than six, and the reader asks `Color.ofText?` for the color. Both agree on every text (`literal_of_split`). An error
token is never taken, so the reader comes to no literal that is no color, and a color that it does come to is written in
the program as it stands in the text, in upper case. -/

namespace TurtleGraphics

namespace Color

theorem ofText?_eq_none {word : List Char} (h : word.length ≠ 7) : ofText? (String.ofList word) = none := by
  unfold ofText?
  split
  · next hword =>
    rw [String.toList_ofList] at hword
    rw [hword] at h
    exact absurd rfl h
  · rfl

theorem exists_byteOfDigits? {high low : Char} (hh : isHexDigit high = true) (hl : isHexDigit low = true) :
    ∃ b, byteOfDigits? high low = some b := by
  obtain ⟨x, hx⟩ := Option.isSome_iff_exists.mp hh
  obtain ⟨y, hy⟩ := Option.isSome_iff_exists.mp hl
  exact ⟨_, by rw [byteOfDigits?, hx, hy]; rfl⟩

theorem exists_ofText? {digits : List Char} (hd : ∀ d ∈ digits, isHexDigit d = true) (hlen : digits.length = 6) :
    ∃ c, ofText? (String.ofList ('#' :: digits)) = some c := by
  match digits, hlen with
  | [r₁, r₀, g₁, g₀, b₁, b₀], _ =>
    simp only [List.forall_mem_cons] at hd
    obtain ⟨hr₁, hr₀, hg₁, hg₀, hb₁, hb₀, -⟩ := hd
    obtain ⟨r, hr⟩ := exists_byteOfDigits? hr₁ hr₀
    obtain ⟨g, hg⟩ := exists_byteOfDigits? hg₁ hg₀
    obtain ⟨b, hb⟩ := exists_byteOfDigits? hb₁ hb₀
    exact ⟨⟨r, g, b⟩, by simp [ofText?, hr, hg, hb]⟩

end Color

/-! ### The scanner -/

namespace Token

/-- Before a literal with more or fewer than six digits there is the error. -/
theorem eq_error_of_colorKinds {digits : List Char} {literal : String} {as bs : List Kind} (hlen : digits.length ≠ 6)
    (h : as ++ .hex literal :: bs = colorKinds digits) :
    as = [.error (.malformedColor (String.ofList ('#' :: digits)))] := by
  rw [colorKinds, if_neg hlen] at h
  cases as with
  | nil => cases h
  | cons a as =>
    obtain ⟨rfl, htail⟩ := List.cons.inj h
    cases as with
    | nil => rfl
    | cons b as => simp at htail

section
variable {text : String} {t : Token}

/-- A malformed color is no color. -/
theorem ofText?_of_malformed {literal : String} (h : t ∈ scan text) (hk : t.kind = .error (.malformedColor literal)) :
    Color.ofText? literal = none := by
  have hmem := mem_tokensFrom_of_mem_scan h (by rw [hk]; intro heof; cases heof)
  obtain ⟨front, c, run, rest, ks, -, hstretch, ⟨kind, hkind, rfl⟩, -⟩ := exists_stretch_of_mem [] hmem
  obtain rfl : kind = .error (.malformedColor literal) := hk
  obtain ⟨-, hrules⟩ := hstretch.starts_and_rules (f := .color) hkind rfl
  obtain ⟨rfl, hlen⟩ := hrules.malformedColor literal rfl
  exact Color.ofText?_eq_none hlen

variable {front back : List Token} {literal : String} (h : scan text = front ++ t :: back) (hk : t.kind = .hex literal)
include h hk

theorem literal_of_split : literal = String.ofList (between (Text.upperCase text) t.start.index t.stop.index) ∧
    (front.getLast? = some ⟨.error (.malformedColor literal), t.start, t.stop⟩ ↔ Color.ofText? literal = none) ∧
    ∀ c, Color.ofText? literal = some c → c.text = literal := by
  obtain ⟨inner, hsplit⟩ := exists_tokensFrom_eq h (by rw [hk]; intro heof; cases heof)
  obtain ⟨head, c, run, rest, as, kind, bs, hsource, hstretch, rfl, hfront, -⟩ := exists_stretch_of_split [] hsplit
  have hsource : Text.upperCase text = head ++ (c :: run ++ rest) := hsource
  obtain rfl : kind = .hex literal := hk
  obtain ⟨hstart, hrules⟩ := hstretch.starts_and_rules (f := .color) (List.mem_append_right as List.mem_cons_self) rfl
  obtain rfl : c = '#' := hstart
  obtain rfl := hrules.hex literal rfl
  obtain ⟨_, hrun, hdigits, -⟩ := hrules.maximal
  cases hrun
  refine ⟨by rw [between_placed hsource], ⟨fun hlast => ?_, fun hnone => ?_⟩, fun c hc => ?_⟩
  · exact ofText?_of_malformed (h ▸ List.mem_append_left _ (List.mem_of_mem_getLast? hlast)) rfl
  · have hlen : run.length ≠ 6 := by
      intro hlen
      obtain ⟨c, hc⟩ := Color.exists_ofText? hdigits hlen
      rw [hnone] at hc
      cases hc
    obtain rfl := eq_error_of_colorKinds hlen (hstretch.colorKinds_of_starts rfl)
    obtain ⟨before, rfl⟩ := hfront
    exact List.getLast?_concat
  · refine Color.text_of_ofText? (fun d hd => Color.mem_of_isHexDigit (hdigits d hd) ?_) hc
    have hmem : d ∈ Text.upperCase text := by simp [hsource, hd]
    exact Text.isLower_of_mem_upperCase hmem

end

/-- The color that a token names. -/
def Kind.color? : Kind → Option Color
  | hex literal => Color.ofText? literal
  | _ => none

end Token

/-! ### The reader -/

namespace Program

theorem ne_invalidColor {text : String} {e : SyntaxError} (h : parse text = .error e) (literal : String) :
    e.kind ≠ .invalidColor literal := by
  intro hkind
  rcases ofTokens_error_cases h with ⟨taken, t, rest, next, htokens, hend, hn, ht, rfl⟩ | ⟨last, -, -, rfl⟩
  · have hblame : next.blame t.kind = .invalidColor literal := (next.blame_of_ne hend).trans hkind
    obtain ⟨hhex, hcolor⟩ := ((next.blame_iff t.kind).2.2.1 literal).mp hblame
    have hnone : Color.ofText? literal = none := by
      obtain ⟨awaited, loops, done⟩ := next
      cases hcolor
      rw [hhex] at ht
      refine Option.eq_none_iff_forall_ne_some.mpr fun c hc => ?_
      rw [Reader.take?_eq_some_iff.mpr (.color hc)] at ht
      cases ht
    -- An error stands before the literal, but the reader has just taken the keyword for a color.
    obtain ⟨-, hshield, -⟩ := Token.literal_of_split htokens hhex
    have herror := congrArg (Option.map Token.kind) (hshield.mpr hnone)
    obtain ⟨front, hfront⟩ := Reader.color_of_awaited hn hcolor
    rw [← List.getLast?_map, ← hfront, List.getLast?_concat] at herror
    cases herror
  · obtain ⟨heof, -⟩ := ((last.blame_iff .eof).2.2.1 literal).mp hkind
    cases heof

end Program

/-! ### Colors of a program -/

/-- The elements that stand right behind one of a class. -/
def behind {α : Type} (p : α → Bool) : List α → List α
  | [] => []
  | a :: rest => (if p a then rest.take 1 else []) ++ behind p rest

theorem map_behind {α β : Type} (f : α → β) (p : β → Bool) (l : List α) :
    (behind (fun a => p (f a)) l).map f = behind p (l.map f) := by
  induction l with
  | nil => rfl
  | cons a rest ih =>
    rw [behind, List.map_append, ih, List.map_cons, behind, ← List.map_take]
    split <;> rfl

theorem mem_of_mem_behind {α : Type} {p : α → Bool} {l : List α} {a : α} (h : a ∈ behind p l) : a ∈ l := by
  induction l with
  | nil => exact h
  | cons b rest ih =>
    rcases List.mem_append.mp h with h | h
    · split at h
      · exact List.mem_cons_of_mem b (List.mem_of_mem_take h)
      · cases h
    · exact List.mem_cons_of_mem b (ih h)

/-- The color that an entry names. -/
def Entry.color? : Entry → Option Color
  | color c => some c
  | _ => none

namespace Statement

/-- The colors that a statement and those inside it name. -/
def colors (s : Statement) : List Color := s.entries.filterMap Entry.color?

def colorsAll (ss : List Statement) : List Color := (entriesAll ss).filterMap Entry.color?

theorem colorsAll_cons (s : Statement) (rest : List Statement) :
    colorsAll (s :: rest) = s.colors ++ colorsAll rest := by
  rw [colorsAll, entriesAll, List.filterMap_append, colors, colorsAll]

theorem colors_loop (count : UInt32) (body : List Statement) : (loop count body).colors = colorsAll body := by
  rw [colors, entries, List.filterMap_cons_none rfl, colorsAll]

end Statement

namespace Token.Kind

/-- What the tokens behind the word for a color name. -/
def colorsNamed (kinds : List Kind) : List (Option Color) := (behind (· = .keyword .color) kinds).map color?

theorem exists_hex_of_color? {kind : Kind} {c : Color} (h : kind.color? = some c) :
    ∃ literal, kind = .hex literal ∧ Color.ofText? literal = some c := by
  cases kind with
  | hex literal => exact ⟨literal, rfl, h⟩
  | _ => cases h

theorem colorsNamed_cons_of_ne {kind : Kind} (h : kind ≠ .keyword .color) (rest : List Kind) :
    colorsNamed (kind :: rest) = colorsNamed rest := by
  simp [colorsNamed, behind, h]

end Token.Kind

namespace Program
open Statement Token.Kind

mutual

theorem Derives.colors {kinds : List Token.Kind} {s : Statement} :
    Derives kinds s → ∀ rest, colorsNamed (kinds ++ rest) = s.colors.map some ++ colorsNamed rest
  | .move direction _, rest => by
    cases direction <;> simp [colorsNamed, behind, Statement.colors, entries, Entry.color?, Direction.keyword]
  | .turn side _, rest => by
    cases side <;> simp [colorsNamed, behind, Statement.colors, entries, Entry.color?, Side.keyword]
  | .pen down, rest => by
    cases down <;> simp [colorsNamed, behind, Statement.colors, entries, Entry.color?, penKeyword]
  | .color h, rest => by
    simp [colorsNamed, behind, Statement.colors, entries, Entry.color?, color?, h]
  | .bare n h, rest => by
    rw [colors_loop, colorsAll_cons, List.cons_append, colorsNamed_cons_of_ne (by simp), List.cons_append,
      colorsNamed_cons_of_ne (by simp), h.colors, colorsAll, entriesAll, List.filterMap_nil, List.append_nil]
  | .quoted n h _, rest => by
    rw [colors_loop]
    simp only [List.cons_append, List.append_assoc, List.nil_append]
    rw [colorsNamed_cons_of_ne (by simp), colorsNamed_cons_of_ne (by simp), colorsNamed_cons_of_ne (by simp), h.colors,
      colorsNamed_cons_of_ne (by simp)]

theorem DerivesAll.colors {kinds : List Token.Kind} {ss : List Statement} :
    DerivesAll kinds ss → ∀ rest, colorsNamed (kinds ++ rest) = (colorsAll ss).map some ++ colorsNamed rest
  | .nil, rest => by
    rw [colorsAll, entriesAll]
    rfl
  | .cons h hr, rest => by
    rw [List.append_assoc, h.colors, hr.colors, colorsAll_cons, List.map_append, List.append_assoc]

end

/-- The colors of a program are written in it as in its text. -/
theorem colors_of_parse {text : String} {p : Program} (h : parse text = .ok p) :
    (colorsAll p.statements).map Color.text = (behind (·.kind = .keyword .color) (Token.scan text)).map fun t =>
      String.ofList (Token.between (Text.upperCase text) t.start.index t.stop.index) := by
  let literals := behind (·.kind = .keyword .color) (Token.scan text)
  have hnamed : literals.map (·.kind.color?) = (colorsAll p.statements).map some := by
    have hkinds : colorsNamed ((Token.scan text).map Token.kind) = (colorsAll p.statements).map some := by
      rw [Token.kind_scan, (derivesAll_of_parse h).colors]
      exact List.append_nil _
    rwa [colorsNamed, ← map_behind Token.kind, List.map_map] at hkinds
  have hword : ∀ t ∈ literals, String.ofList (Token.between (Text.upperCase text) t.start.index t.stop.index) =
      (t.kind.color?.getD default).text := by
    intro t ht
    have hmem := List.mem_map_of_mem (f := (·.kind.color?)) ht
    rw [hnamed] at hmem
    obtain ⟨c, -, hc⟩ := List.mem_map.mp hmem
    obtain ⟨literal, hhex, hliteral⟩ := exists_hex_of_color? hc.symm
    obtain ⟨front, back, hsplit⟩ := List.append_of_mem (mem_of_mem_behind ht)
    obtain ⟨hsource, -, htext⟩ := Token.literal_of_split hsplit hhex
    rw [← hsource, ← hc, Option.getD_some, htext c hliteral]
  have hgiven := congrArg (List.map fun c? => (c?.getD default).text) hnamed
  rw [List.map_map, List.map_map] at hgiven
  exact hgiven.symm.trans (List.map_congr_left hword).symm

/-- The scanner and the reader agree on colors. A literal that is no color has an error before it, so the reader never
    comes to refuse it, and a color is written in the program as in the text, in upper case. -/
theorem literals_agree (text : String) :
    let source := Text.upperCase text
    (∀ front t back literal, Token.scan text = front ++ t :: back → t.kind = .hex literal →
      literal = String.ofList (Token.between source t.start.index t.stop.index) ∧
      (front.getLast? = some ⟨.error (.malformedColor literal), t.start, t.stop⟩ ↔ Color.ofText? literal = none) ∧
      ∀ c, Color.ofText? literal = some c → c.text = literal) ∧
    (∀ e, parse text = .error e → ∀ literal, e.kind ≠ .invalidColor literal) ∧
    ∀ p, parse text = .ok p →
      (p.listing.toList.filterMap Entry.color?).map Color.text =
        (behind (·.kind = .keyword .color) (Token.scan text)).map fun t =>
          String.ofList (Token.between source t.start.index t.stop.index) := by
  intro source
  refine ⟨fun front t back literal hsplit hk => Token.literal_of_split hsplit hk,
    fun e he literal => ne_invalidColor he literal, fun p hp => ?_⟩
  rw [toList_listing]
  exact colors_of_parse hp

/-- A literal that a letter cuts short, and two colors at different depths. -/
theorem literals_agree_cut_short :
    let text := "color #aß."
    let shield : Token := ⟨.error (.malformedColor "#A"), ⟨6, 1, 7⟩, ⟨8, 1, 9⟩⟩
    let nested := "color #0a1b2c. rep 2 \"up. rep 3 Color #DecAde.\""
    let p : Program := ⟨[.color ⟨0x0A, 0x1B, 0x2C⟩, .loop 2 [.pen false, .loop 3 [.color ⟨0xDE, 0xCA, 0xDE⟩]]]⟩
    [shield, ⟨.hex "#A", shield.start, shield.stop⟩] <:+: Token.scan text ∧ Color.ofText? "#A" = none ∧
    (∃ e, parse text = .error e ∧ e.kind ≠ .invalidColor "#A") ∧
    parse nested = .ok p ∧ (p.listing.toList.filterMap Entry.color?).map Color.text = ["#0A1B2C", "#DECADE"] := by
  intro text shield nested p
  have hscan : Token.scan text = [⟨.keyword .color, ⟨0, 1, 1⟩, ⟨5, 1, 6⟩⟩, shield] ++
      ⟨.hex "#A", shield.start, shield.stop⟩ :: [⟨.error (.unknownKeyword "SS"), ⟨8, 1, 9⟩, ⟨10, 1, 11⟩⟩,
        ⟨.period, ⟨10, 1, 11⟩, ⟨11, 1, 12⟩⟩, ⟨.eof, ⟨10, 1, 11⟩, ⟨10, 1, 11⟩⟩] := by decide +kernel
  have hkinds : Token.kinds (Text.upperCase nested) = [.keyword .color, .hex "#0A1B2C", .period, .keyword .rep,
      .number 2, .quote, .keyword .up, .period, .keyword .rep, .number 3, .keyword .color, .hex "#DECADE", .period,
      .quote] := by decide +kernel
  have hparse : parse nested = .ok p := parse_eq_verdict_ok_iff.mpr (by rw [hkinds]; rfl)
  have herror : parse text = .error ⟨.lexical (.malformedColor "#A"), ⟨6, 1, 7⟩⟩ := by
    rw [parse, hscan, ofTokens_eq_run]
    rfl
  obtain ⟨hliteral, hinvalid, -⟩ := literals_agree text
  obtain ⟨-, -, hcolors⟩ := literals_agree nested
  obtain ⟨-, hshield, -⟩ := hliteral _ _ _ "#A" hscan rfl
  refine ⟨⟨[_], [_, _, _], hscan.symm⟩, hshield.mp rfl, ⟨_, herror, hinvalid _ herror "#A"⟩, hparse,
    (hcolors p hparse).trans ?_⟩
  decide +kernel

end Program

end TurtleGraphics
