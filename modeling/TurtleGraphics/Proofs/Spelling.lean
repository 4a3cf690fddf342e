import TurtleGraphics.Proofs.Layout
import TurtleGraphics.Proofs.TokenGrammar
import TurtleGraphics.Proofs.Verdict

/-! # The grammar of texts

How programs are spelled, character by character, in upper case. A gap has to stand behind a word that takes an
argument and behind the count of a loop; before a period and around statements a gap may be empty. `parse` reads
exactly the texts whose upper case is a spelling. One direction follows a spelling through the scanner; the other
takes a derivation over the tokens of the text and finds the text of each token, with the gap before it. -/

namespace TurtleGraphics

/-! ### Words and colors -/

def Direction.word : Direction → String
  | forward => "FORW"
  | backward => "BACK"

def Side.word : Side → String
  | left => "LEFT"
  | right => "RIGHT"

def penWord (down : Bool) : String := if down then "DOWN" else "UP"

theorem Direction.text_keyword (direction : Direction) : direction.keyword.text = direction.word := by
  cases direction <;> rfl

theorem Side.text_keyword (side : Side) : side.keyword.text = side.word := by
  cases side <;> rfl

theorem text_penKeyword (down : Bool) : (penKeyword down).text = penWord down := by
  cases down <;> rfl

theorem Keyword.text_color : color.text = "COLOR" := rfl

theorem Keyword.text_rep : rep.text = "REP" := rfl

namespace Color

/-- The hexadecimal digits that colors are spelled with. -/
def upperDigits : List Char := "0123456789ABCDEF".toList

theorem isHexDigit_of_mem : ∀ d ∈ upperDigits, isHexDigit d = true :=
  List.all_eq_true.mp (by decide)

theorem toNat_of_isHexDigit {d : Char} (h : isHexDigit d = true) : d.toNat < 0x80 := by
  have hle : ∀ {a b : Char}, a ≤ b → a.toNat ≤ b.toNat := fun h => UInt32.le_iff_toNat_le.mp h
  unfold isHexDigit digitValue? at h
  split at h
  · next hr => exact Nat.lt_of_le_of_lt (hle hr.2) (by decide)
  split at h
  · next hr => exact Nat.lt_of_le_of_lt (hle hr.2) (by decide)
  split at h
  · next hr => exact Nat.lt_of_le_of_lt (hle hr.2) (by decide)
  · cases h

theorem mem_of_isHexDigit {d : Char} (h : isHexDigit d = true) (hup : d.isLower = false) : d ∈ upperDigits :=
  Text.of_ascii (P := fun d => isHexDigit d = true → d.isLower = false → d ∈ upperDigits) (by decide)
    (toNat_of_isHexDigit h) h hup

theorem byteDigits_of_byteOfDigits? {high low : Char} {b : UInt8} (hh : high ∈ upperDigits) (hl : low ∈ upperDigits)
    (h : byteOfDigits? high low = some b) : byteDigits b = [high, low] := by
  have every : (upperDigits.all fun high => upperDigits.all fun low =>
      (byteOfDigits? high low).map byteDigits == some [high, low]) = true := by decide +kernel
  have hpair := List.all_eq_true.mp (List.all_eq_true.mp every high hh) low hl
  simpa [h] using hpair

theorem text_of_ofText? {digits : List Char} {c : Color} (hd : ∀ d ∈ digits, d ∈ upperDigits)
    (h : ofText? (String.ofList ('#' :: digits)) = some c) : c.text = String.ofList ('#' :: digits) := by
  unfold ofText? at h
  split at h
  · next r₁ r₀ g₁ g₀ b₁ b₀ hliteral =>
    rw [String.toList_ofList] at hliteral
    obtain ⟨-, rfl⟩ := List.cons.inj hliteral
    simp only [List.forall_mem_cons] at hd
    obtain ⟨hr₁, hr₀, hg₁, hg₀, hb₁, hb₀, -⟩ := hd
    simp only [Option.bind_eq_bind, Option.bind_eq_some_iff, Option.pure_def, Option.some.injEq] at h
    obtain ⟨r, hr, g, hg, b, hb, rfl⟩ := h
    simp [text, byteDigits_of_byteOfDigits? hr₁ hr₀ hr, byteDigits_of_byteOfDigits? hg₁ hg₀ hg,
      byteDigits_of_byteOfDigits? hb₁ hb₀ hb]
  · cases h

end Color

namespace Program
open Token

mutual

/-- The spellings of a statement. -/
inductive Spells : List Char → Statement → Prop where
  | move {gap digits ending : List Char} {n : UInt32} (direction : Direction) (hg : Gap gap) (hne : gap ≠ [])
    (hn : Numeral digits n) (he : Gap ending) :
    Spells (direction.word.toList ++ (gap ++ (digits ++ (ending ++ ['.'])))) (.move direction n)
  | turn {gap digits ending : List Char} {n : UInt32} (side : Side) (hg : Gap gap) (hne : gap ≠ [])
    (hn : Numeral digits n) (he : Gap ending) :
    Spells (side.word.toList ++ (gap ++ (digits ++ (ending ++ ['.'])))) (.turn side n)
  | pen {ending : List Char} (down : Bool) (he : Gap ending) :
    Spells ((penWord down).toList ++ (ending ++ ['.'])) (.pen down)
  | color {gap digits ending : List Char} {c : Color} (hg : Gap gap) (hne : gap ≠ []) (hlen : digits.length = 6)
    (hd : ∀ d ∈ digits, d ∈ Color.upperDigits) (hc : c.text = String.ofList ('#' :: digits))
    (he : Gap ending) :
    Spells ("COLOR".toList ++ (gap ++ ('#' :: digits ++ (ending ++ ['.'])))) (.color c)
  | bare {gap digits gap' word : List Char} {n : UInt32} {s : Statement} (hg : Gap gap) (hne : gap ≠ [])
    (hn : Numeral digits n) (hg' : Gap gap') (hne' : gap' ≠ []) (h : Spells word s) :
    Spells ("REP".toList ++ (gap ++ (digits ++ (gap' ++ word)))) (.loop n [s])
  | quoted {gap digits gap' inner : List Char} {n : UInt32} {body : List Statement} (hg : Gap gap) (hne : gap ≠ [])
    (hn : Numeral digits n) (hg' : Gap gap') (hne' : gap' ≠ []) (h : SpellsAll inner body) (hb : body ≠ []) :
    Spells ("REP".toList ++ (gap ++ (digits ++ (gap' ++ '"' :: (inner ++ ['"']))))) (.loop n body)

/-- The spellings of several statements, with gaps before, between and behind them. -/
inductive SpellsAll : List Char → List Statement → Prop where
  | nil {gap : List Char} (hg : Gap gap) : SpellsAll gap []
  | cons {gap word more : List Char} {s : Statement} {rest : List Statement} (hg : Gap gap) (h : Spells word s)
    (hr : SpellsAll more rest) : SpellsAll (gap ++ (word ++ more)) (s :: rest)

end

/-- The spellings of a program. In the last gap, a comment may go on to the end of the text. -/
def Spelling (text : List Char) (p : Program) : Prop :=
  ∃ body comment, text = body ++ comment ∧ SpellsAll body p.statements ∧ LastComment comment

/-! ### Spellings are read -/

theorem kinds_keyword {k : Keyword} {word : String} (hw : k.text = word) {gap : List Char} (hg : Gap gap)
    (hne : gap ≠ []) (rest : List Char) : kinds (word.toList ++ (gap ++ rest)) = .keyword k :: kinds rest := by
  have hs := hg.startsSeparator hne rest
  have hstop : Stops Text.isAlphabetic (gap ++ rest) := Delimited.stops (Or.inl hs) (by decide)
  rw [← hw, (Written.keyword k (fun _ => hs) hstop).kinds_append, hg.kinds_append]

theorem kinds_numeral {digits gap : List Char} {n : UInt32} (hn : Numeral digits n) (hg : Gap gap) {rest : List Char}
    (hd : Delimited (gap ++ rest)) : kinds (digits ++ (gap ++ rest)) = .number n :: kinds rest := by
  rw [(Written.number hn hd).kinds_append, hg.kinds_append]

theorem kinds_period (rest : List Char) : kinds ('.' :: rest) = .period :: kinds rest :=
  Written.period.kinds_append

theorem kinds_quote (rest : List Char) : kinds ('"' :: rest) = .quote :: kinds rest :=
  Written.quote.kinds_append

theorem kinds_pen (down : Bool) {ending : List Char} (he : Gap ending) (rest : List Char) :
    kinds ((penWord down).toList ++ (ending ++ '.' :: rest)) = .keyword (penKeyword down) :: .period :: kinds rest := by
  have hs : (penKeyword down).needsSeparator = true → startsSeparator (ending ++ '.' :: rest) = true := by
    cases down <;> intro h <;> cases h
  rw [← text_penKeyword, (Written.keyword _ hs ((he.delimited rest).stops (by decide))).kinds_append, he.kinds_append,
    kinds_period]

theorem kinds_hex {digits ending : List Char} (hlen : digits.length = 6)
    (hd : ∀ d ∈ digits, d ∈ Color.upperDigits) (he : Gap ending) (rest : List Char) :
    kinds ('#' :: (digits ++ (ending ++ '.' :: rest))) =
      .hex (String.ofList ('#' :: digits)) :: .period :: kinds rest := by
  have hstop : Stops Color.isHexDigit (ending ++ '.' :: rest) := (he.delimited rest).stops (by decide)
  have hhex := (Written.hex hlen (fun d h => Color.isHexDigit_of_mem d (hd d h)) hstop).kinds_append
  rw [List.cons_append] at hhex
  rw [hhex, he.kinds_append, kinds_period]

mutual

theorem Spells.derives {word : List Char} {s : Statement} :
    Spells word s → ∃ ks, Derives ks s ∧ ∀ rest, kinds (word ++ rest) = ks ++ kinds rest
  | .move direction hg hne hn he => by
    refine ⟨_, .move direction _, fun rest => ?_⟩
    simp only [List.append_assoc, List.cons_append, List.nil_append]
    rw [kinds_keyword direction.text_keyword hg hne, kinds_numeral hn he (he.delimited rest), kinds_period]
  | .turn side hg hne hn he => by
    refine ⟨_, .turn side _, fun rest => ?_⟩
    simp only [List.append_assoc, List.cons_append, List.nil_append]
    rw [kinds_keyword side.text_keyword hg hne, kinds_numeral hn he (he.delimited rest), kinds_period]
  | .pen down he => by
    refine ⟨_, .pen down, fun rest => ?_⟩
    simp only [List.append_assoc, List.cons_append, List.nil_append]
    rw [kinds_pen down he]
  | .color (c := c) hg hne hlen hd hc he => by
    refine ⟨_, .color (hc ▸ Color.ofText?_text c), fun rest => ?_⟩
    simp only [List.append_assoc, List.cons_append, List.nil_append]
    rw [kinds_keyword Keyword.text_color hg hne, kinds_hex hlen hd he]
  | .bare hg hne hn hg' hne' h => by
    obtain ⟨ks, hks, hk⟩ := h.derives
    refine ⟨_, .bare _ hks, fun rest => ?_⟩
    simp only [List.append_assoc, List.cons_append]
    rw [kinds_keyword Keyword.text_rep hg hne, kinds_numeral hn hg' (Or.inl (hg'.startsSeparator hne' _)), hk]
  | .quoted hg hne hn hg' hne' h hb => by
    obtain ⟨ks, hks, hk⟩ := h.derivesAll
    refine ⟨_, .quoted _ hks hb, fun rest => ?_⟩
    simp only [List.append_assoc, List.cons_append, List.nil_append]
    rw [kinds_keyword Keyword.text_rep hg hne, kinds_numeral hn hg' (Or.inl (hg'.startsSeparator hne' _)), kinds_quote,
      hk, kinds_quote]

theorem SpellsAll.derivesAll {text : List Char} {ss : List Statement} :
    SpellsAll text ss → ∃ ks, DerivesAll ks ss ∧ ∀ rest, kinds (text ++ rest) = ks ++ kinds rest
  | .nil hg => ⟨[], .nil, fun _ => hg.kinds_append⟩
  | .cons hg h hr => by
    obtain ⟨ks, hks, hk⟩ := h.derives
    obtain ⟨ks', hks', hk'⟩ := hr.derivesAll
    refine ⟨ks ++ ks', .cons hks hks', fun rest => ?_⟩
    simp only [List.append_assoc]
    rw [hg.kinds_append, hk, hk']

end

/-! ### What is read is a spelling -/

section
variable {text : List Char} {more : List Kind}

theorem exists_keyword {k : Keyword} {word : String} (hw : k.text = word) (h : kinds text = .keyword k :: more) :
    ∃ gap rest, text = gap ++ (word.toList ++ rest) ∧ Gap gap ∧ startsSeparator (word.toList ++ rest) = false ∧
      (k.needsSeparator = true → startsSeparator rest = true) ∧ kinds rest = more := by
  subst hw
  obtain ⟨gap, word, rest, rfl, hgap, hwritten, hs, hm⟩ := exists_written h rfl
  cases hwritten with
  | keyword k hsep hstop => exact ⟨gap, rest, rfl, hgap, hs, hsep, hm⟩

theorem exists_numeral {n : UInt32} (hsep : startsSeparator text = true) (h : kinds text = .number n :: more) :
    ∃ gap digits rest, text = gap ++ (digits ++ rest) ∧ Gap gap ∧ gap ≠ [] ∧ Numeral digits n ∧ Delimited rest ∧
      kinds rest = more := by
  obtain ⟨gap, word, rest, rfl, hgap, hwritten, hs, hm⟩ := exists_written h rfl
  cases hwritten with
  | number hn hd => exact ⟨gap, word, rest, rfl, hgap, gap_ne_nil hsep hs, hn, hd, hm⟩

theorem exists_hex {literal : String} (hsep : startsSeparator text = true) (h : kinds text = .hex literal :: more) :
    ∃ gap digits rest, text = gap ++ ('#' :: digits ++ rest) ∧ literal = String.ofList ('#' :: digits) ∧ Gap gap ∧
      gap ≠ [] ∧ digits.length = 6 ∧ (∀ d ∈ digits, Color.isHexDigit d = true) ∧ kinds rest = more := by
  obtain ⟨gap, word, rest, rfl, hgap, hwritten, hs, hm⟩ := exists_written h rfl
  cases hwritten with
  | hex hlen hd hstop => exact ⟨gap, _, rest, rfl, rfl, hgap, gap_ne_nil hsep hs, hlen, hd, hm⟩

theorem exists_period (h : kinds text = .period :: more) :
    ∃ gap rest, text = gap ++ '.' :: rest ∧ Gap gap ∧ kinds rest = more := by
  obtain ⟨gap, word, rest, rfl, hgap, hwritten, -, hm⟩ := exists_written h rfl
  cases hwritten with
  | period => exact ⟨gap, rest, rfl, hgap, hm⟩

theorem exists_quote (h : kinds text = .quote :: more) :
    ∃ gap rest, text = gap ++ '"' :: rest ∧ Gap gap ∧ startsSeparator ('"' :: rest) = false ∧ kinds rest = more := by
  obtain ⟨gap, word, rest, rfl, hgap, hwritten, hs, hm⟩ := exists_written h rfl
  cases hwritten with
  | quote => exact ⟨gap, rest, rfl, hgap, hs, hm⟩

theorem exists_numbered {k : Keyword} {word : String} (hw : k.text = word) (hk : k.needsSeparator = true) {n : UInt32}
    (h : kinds text = .keyword k :: .number n :: more) :
    ∃ lead gap digits rest, text = lead ++ (word.toList ++ (gap ++ (digits ++ rest))) ∧ Gap lead ∧
      startsSeparator (word.toList ++ (gap ++ (digits ++ rest))) = false ∧ Gap gap ∧ gap ≠ [] ∧ Numeral digits n ∧
      Delimited rest ∧ kinds rest = more := by
  obtain ⟨lead, behind, rfl, hlead, hs, hsep, hm⟩ := exists_keyword hw h
  obtain ⟨gap, digits, rest, rfl, hgap, hne, hn, hd, hm⟩ := exists_numeral (hsep hk) hm
  exact ⟨lead, gap, digits, rest, rfl, hlead, hs, hgap, hne, hn, hd, hm⟩

/-- Behind a number there is a gap, unless a period follows. -/
theorem Delimited.startsSeparator {kind : Kind} (hd : Delimited text) (h : kinds text = kind :: more)
    (hk : kind ≠ .period) : startsSeparator text = true := by
  rcases hd with hs | hperiod
  · exact hs
  · obtain ⟨rest, rfl⟩ := List.head?_eq_some_iff.mp hperiod
    rw [kinds_period] at h
    exact absurd (List.cons.inj h).1.symm hk

end

theorem SpellsAll.append_gap {inner gap : List Char} {ss : List Statement} :
    SpellsAll inner ss → Gap gap → SpellsAll (inner ++ gap) ss
  | .nil hg, h => .nil (hg.append h)
  | .cons hg hw hr, h => by
    rw [List.append_assoc, List.append_assoc]
    exact .cons hg hw (hr.append_gap h)

mutual

theorem Derives.exists_spells {text : List Char} {ks more : List Kind} {s : Statement} :
    Derives ks s → kinds text = ks ++ more → (∀ c ∈ text, c.isLower = false) →
      ∃ gap word rest, text = gap ++ (word ++ rest) ∧ Gap gap ∧ Spells word s ∧
        startsSeparator (word ++ rest) = false ∧ kinds rest = more
  | .move direction n, h, _ => by
    obtain ⟨lead, gap, digits, behind, rfl, hlead, hs, hgap, hne, hn, -, hm⟩ :=
      exists_numbered direction.text_keyword (by cases direction <;> rfl) h
    obtain ⟨ending, rest, rfl, he, hm⟩ := exists_period hm
    exact ⟨lead, _, rest, by simp, hlead, .move direction hgap hne hn he, by simpa using hs, hm⟩
  | .turn side n, h, _ => by
    obtain ⟨lead, gap, digits, behind, rfl, hlead, hs, hgap, hne, hn, -, hm⟩ :=
      exists_numbered side.text_keyword (by cases side <;> rfl) h
    obtain ⟨ending, rest, rfl, he, hm⟩ := exists_period hm
    exact ⟨lead, _, rest, by simp, hlead, .turn side hgap hne hn he, by simpa using hs, hm⟩
  | .pen down, h, _ => by
    obtain ⟨lead, behind, rfl, hlead, hs, -, hm⟩ := exists_keyword (text_penKeyword down) h
    obtain ⟨ending, rest, rfl, he, hm⟩ := exists_period hm
    exact ⟨lead, _, rest, by simp, hlead, .pen down he, by simpa using hs, hm⟩
  | .color hc, h, hup => by
    obtain ⟨lead, behind, rfl, hlead, hs, hsep, hm⟩ := exists_keyword Keyword.text_color h
    obtain ⟨gap, digits, behind, rfl, rfl, hgap, hne, hlen, hd, hm⟩ := exists_hex (hsep rfl) hm
    obtain ⟨ending, rest, rfl, he, hm⟩ := exists_period hm
    -- The scanner takes digits of either case, but the text has none in lower case.
    have hupper : ∀ d ∈ digits, d ∈ Color.upperDigits := fun d hdigit =>
      Color.mem_of_isHexDigit (hd d hdigit) (hup d (by simp [hdigit]))
    have hcolor := Color.text_of_ofText? hupper hc
    exact ⟨lead, _, rest, by simp, hlead, .color hgap hne hlen hupper hcolor he, by simpa using hs, hm⟩
  | .bare n hbody, h, hup => by
    obtain ⟨lead, gap, digits, behind, rfl, hlead, hs, hgap, hne, hn, hd, hm⟩ :=
      exists_numbered Keyword.text_rep rfl h
    obtain ⟨gap', word, rest, rfl, hgap', hword, hs', hm'⟩ :=
      hbody.exists_spells hm (fun c hc => hup c (by simp [hc]))
    obtain ⟨k, others, rfl⟩ := hbody.starts
    -- A period may stand right behind a number, but no body starts with one.
    have hne' := gap_ne_nil (Delimited.startsSeparator hd hm (by simp)) hs'
    exact ⟨lead, _, rest, by simp, hlead, .bare hgap hne hn hgap' hne' hword, by simpa using hs, hm'⟩
  | .quoted n hbody hb, h, hup => by
    simp only [List.cons_append, List.append_assoc, List.nil_append] at h
    obtain ⟨lead, gap, digits, behind, rfl, hlead, hs, hgap, hne, hn, hd, hm⟩ :=
      exists_numbered Keyword.text_rep rfl h
    have hsep := Delimited.startsSeparator hd hm (by simp)
    obtain ⟨gap', behind, rfl, hgap', hs', hm⟩ := exists_quote hm
    obtain ⟨inner, behind, rfl, hinner, hm⟩ := hbody.exists_spellsAll hm (fun c hc => hup c (by simp [hc]))
    obtain ⟨last, rest, rfl, hlast, -, hm⟩ := exists_quote hm
    exact ⟨lead, _, rest, by simp, hlead,
      .quoted hgap hne hn hgap' (gap_ne_nil hsep hs') (hinner.append_gap hlast) hb, by simpa using hs, hm⟩

theorem DerivesAll.exists_spellsAll {text : List Char} {ks more : List Kind} {ss : List Statement} :
    DerivesAll ks ss → kinds text = ks ++ more → (∀ c ∈ text, c.isLower = false) →
      ∃ inner rest, text = inner ++ rest ∧ SpellsAll inner ss ∧ kinds rest = more
  | .nil, h, _ => ⟨[], text, rfl, .nil .nil, h⟩
  | .cons hfirst hothers, h, hup => by
    rw [List.append_assoc] at h
    obtain ⟨gap, word, behind, rfl, hgap, hword, -, hm⟩ := hfirst.exists_spells h hup
    obtain ⟨inner, rest, rfl, hinner, hm⟩ := hothers.exists_spellsAll hm (fun c hc => hup c (by simp [hc]))
    exact ⟨gap ++ (word ++ inner), rest, by simp, .cons hgap hword hinner, hm⟩

end

/-! ### Parsing -/

/-- A text is read as a program just when its upper case spells the program. -/
theorem parse_eq_ok_iff_spelling (text : String) (p : Program) :
    parse text = .ok p ↔ Spelling (Text.upperCase text) p := by
  rw [parse_eq_ok_iff, takeAll?_result?_iff]
  constructor
  · intro h
    have hkinds := (List.append_nil (kinds (Text.upperCase text))).symm
    obtain ⟨inner, rest, hsource, hinner, hrest⟩ :=
      h.exists_spellsAll hkinds fun c hc => Text.isLower_of_mem_upperCase hc
    obtain ⟨gap, comment, rfl, hgap, hlast⟩ := exists_gap_of_kinds_eq_nil hrest
    exact ⟨inner ++ gap, comment, by rw [hsource, List.append_assoc], hinner.append_gap hgap, hlast⟩
  · rintro ⟨body, comment, hsource, hbody, hlast⟩
    obtain ⟨ks, hks, hk⟩ := hbody.derivesAll
    rw [hsource, hk, hlast.kinds_eq, List.append_nil]
    exact hks

end Program

end TurtleGraphics
