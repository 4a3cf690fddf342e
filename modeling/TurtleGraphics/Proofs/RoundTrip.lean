import TurtleGraphics.Program.Format
import TurtleGraphics.Proofs.Listing
import TurtleGraphics.Proofs.Spelling

/-! # Reading what was written

A program is read back from its canonical text if its numbers are positive and its loops have bodies. The canonical text
of any other program is not read as a program at all. A number zero is an error to the scanner, and two quotes without a
statement between them are an error to the reader; both are met wherever in the program they stand. -/

namespace TurtleGraphics

theorem Color.mem_byteDigits (b : UInt8) : ∀ d ∈ byteDigits b, d ∈ upperDigits := by
  have every : ∀ n : Fin 256, (byteDigits (UInt8.ofFin n)).all (upperDigits.contains ·) = true := by decide +kernel
  intro d hd
  exact List.contains_iff_mem.mp (List.all_eq_true.mp (every b.toFin) d hd)

theorem Color.exists_upperDigits (c : Color) :
    ∃ digits, c.text = String.ofList ('#' :: digits) ∧ digits.length = 6 ∧ ∀ d ∈ digits, d ∈ upperDigits := by
  refine ⟨_, rfl, rfl, fun d hd => ?_⟩
  simp only [List.mem_append] at hd
  rcases hd with (hd | hd) | hd <;> exact mem_byteDigits _ d hd

namespace Statement
open Token

mutual

/-- Whether the language can express a statement: the numbers in it are positive and the loops have bodies. -/
def WellFormed : Statement → Prop
  | move _ n | turn _ n => 0 < n
  | pen _ | color _ => True
  | loop n body => 0 < n ∧ body ≠ [] ∧ AllWellFormed body

def AllWellFormed : List Statement → Prop
  | [] => True
  | s :: rest => s.WellFormed ∧ AllWellFormed rest

end

mutual

def decideWellFormed : (s : Statement) → Decidable s.WellFormed
  | move _ n | turn _ n => inferInstanceAs (Decidable (0 < n))
  | pen _ | color _ => inferInstanceAs (Decidable True)
  | loop n body =>
    have := decideAllWellFormed body
    inferInstanceAs (Decidable (0 < n ∧ body ≠ [] ∧ AllWellFormed body))

def decideAllWellFormed : (ss : List Statement) → Decidable (AllWellFormed ss)
  | [] => inferInstanceAs (Decidable True)
  | s :: rest =>
    have := s.decideWellFormed
    have := decideAllWellFormed rest
    inferInstanceAs (Decidable (s.WellFormed ∧ AllWellFormed rest))

end

/-! ### The text of a statement -/

theorem write_append (done : String) (a b : List Piece) : write done (a ++ b) = write (write done a) b := by
  fun_induction write done a with
  | case1 done => rfl
  | case2 done words rest ih => rw [List.cons_append, write, ih]
  | case3 done s rest ih => rw [List.cons_append, write, ← List.append_assoc, ih]

theorem write_append_done (before done : String) (work : List Piece) :
    write (before ++ done) work = before ++ write done work := by
  fun_induction write done work with
  | case1 done => rw [write]
  | case2 done words rest ih => rw [write, String.append_assoc, ih]
  | case3 done s rest ih => rw [write, ih]

/-- The characters of a statement as it is written. -/
def chars (s : Statement) : List Char := (write "" s.pieces).toList

def Piece.chars : Piece → List Char
  | text words => words.toList
  | statement s => s.chars

theorem toList_write (work : List Piece) : (write "" work).toList = work.flatMap Piece.chars := by
  induction work with
  | nil => simp [write]
  | cons piece work ih =>
    have hmore : ∀ done, (write done work).toList = done.toList ++ work.flatMap Piece.chars := fun done => by
      rw [← String.append_empty (s := done), write_append_done, String.toList_append, ih, String.append_empty]
    cases piece with
    | text words => simp [write, hmore, Piece.chars]
    | statement s => simp [write, write_append, hmore, Piece.chars, Statement.chars]

theorem chars_eq (s : Statement) : s.chars = s.pieces.flatMap Piece.chars :=
  toList_write s.pieces

/-- The characters of the body of a loop. -/
def bodyChars (body : List Statement) : List Char := (bodyPieces body).flatMap Piece.chars

/-- The characters of the statements of a body behind the first. -/
def moreChars (ss : List Statement) : List Char := ss.flatMap fun s => ' ' :: s.chars

theorem bodyChars_nil : bodyChars [] = ['"', '"'] := by
  simp [bodyChars, bodyPieces, Piece.chars]

theorem bodyChars_singleton (s : Statement) : bodyChars [s] = s.chars := by
  simp [bodyChars, bodyPieces, Piece.chars]

theorem bodyChars_cons_cons (s t : Statement) (rest : List Statement) :
    bodyChars (s :: t :: rest) = '"' :: (s.chars ++ (moreChars (t :: rest) ++ ['"'])) := by
  simp [bodyChars, bodyPieces, Piece.chars, moreChars, List.flatMap_assoc]

theorem chars_move (direction : Direction) (n : UInt32) :
    (move direction n).chars = (withNumber direction.keyword n).toList ++ ['.'] := by
  cases direction <;> simp [chars_eq, pieces, Piece.chars, Direction.keyword]

theorem chars_turn (side : Side) (n : UInt32) :
    (turn side n).chars = (withNumber side.keyword n).toList ++ ['.'] := by
  cases side <;> simp [chars_eq, pieces, Piece.chars, Side.keyword]

theorem chars_pen (down : Bool) : (pen down).chars = (penWord down).toList ++ ['.'] := by
  cases down <;> simp [chars_eq, pieces, Piece.chars, penWord, Keyword.text]

theorem chars_color (c : Color) : (color c).chars = "COLOR".toList ++ ([' '] ++ (c.text.toList ++ ['.'])) := by
  simp [chars_eq, pieces, Piece.chars, Keyword.text]

theorem chars_loop (n : UInt32) (body : List Statement) :
    (loop n body).chars = (withNumber .rep n).toList ++ ' ' :: bodyChars body := by
  simp [chars_eq, pieces, bodyChars, Piece.chars]

/-! ### The tokens of a statement -/

/-- The token that a number is written as. -/
def numberToken (n : UInt32) : Kind := if 0 < n then .number n else .error .zeroNumber

theorem gap_space : Gap [' '] := .blank (by decide) .nil

theorem numberKind_toDigits (n : UInt32) {rest : List Char} (hd : Delimited rest) :
    numberKind (Nat.toDigits 10 n.toNat) rest = numberToken n := by
  by_cases hn : 0 < n
  · have hnumeral : Numeral (Nat.toDigits 10 n.toNat) n :=
      ⟨Nat.toDigits_ne_nil, fun d h => Nat.isDigit_of_mem_toDigits (by decide) (by decide) h,
        Nat.ofDigitChars_ten_toDigits, hn⟩
    rw [numberKind_of_numeral hnumeral hd, numberToken, if_pos hn]
  · obtain rfl : n = 0 := UInt32.le_zero_iff.mp (UInt32.not_lt.mp hn)
    rfl

theorem kinds_withNumber (k : Keyword) (n : UInt32) {rest : List Char} (hd : Delimited rest) :
    kinds ((withNumber k n).toList ++ rest) = .keyword k :: numberToken n :: kinds rest := by
  have htext : (withNumber k n).toList = k.text.toList ++ ([' '] ++ Nat.toDigits 10 n.toNat) := by
    simp [withNumber]
  rw [htext, List.append_assoc, List.append_assoc, Program.kinds_keyword rfl gap_space (List.cons_ne_nil _ _),
    kinds_digits Nat.toDigits_ne_nil (fun d h => Nat.isDigit_of_mem_toDigits (by decide) (by decide) h)
      (hd.stops (by decide)), numberKind_toDigits n hd]

theorem kinds_withNumber_period (k : Keyword) (n : UInt32) (rest : List Char) :
    kinds ((withNumber k n).toList ++ ['.'] ++ rest) = .keyword k :: numberToken n :: .period :: kinds rest := by
  rw [List.append_assoc, kinds_withNumber k n (Or.inr rfl), List.singleton_append, Program.kinds_period]

theorem kinds_chars_move (direction : Direction) (n : UInt32) (rest : List Char) :
    kinds ((move direction n).chars ++ rest) =
      .keyword direction.keyword :: numberToken n :: .period :: kinds rest := by
  rw [chars_move, kinds_withNumber_period]

theorem kinds_chars_turn (side : Side) (n : UInt32) (rest : List Char) :
    kinds ((turn side n).chars ++ rest) = .keyword side.keyword :: numberToken n :: .period :: kinds rest := by
  rw [chars_turn, kinds_withNumber_period]

theorem kinds_chars_pen (down : Bool) (rest : List Char) :
    kinds ((pen down).chars ++ rest) = .keyword (penKeyword down) :: .period :: kinds rest := by
  rw [chars_pen, List.append_assoc]
  exact Program.kinds_pen down .nil rest

theorem kinds_chars_color (c : Color) (rest : List Char) :
    kinds ((color c).chars ++ rest) = .keyword .color :: .hex c.text :: .period :: kinds rest := by
  obtain ⟨digits, hc, hlen, hd⟩ := c.exists_upperDigits
  rw [chars_color, List.append_assoc, List.append_assoc, List.append_assoc,
    Program.kinds_keyword Keyword.text_color gap_space (List.cons_ne_nil _ _), hc, String.toList_ofList]
  exact congrArg _ (Program.kinds_hex hlen hd .nil rest)

theorem kinds_chars_loop (n : UInt32) (body : List Statement) (rest : List Char) :
    kinds ((loop n body).chars ++ rest) = .keyword .rep :: numberToken n :: kinds (bodyChars body ++ rest) := by
  rw [chars_loop, List.append_assoc, kinds_withNumber _ _ (Or.inl rfl), List.cons_append, kinds_blank rfl]

theorem starts_kinds_chars (s : Statement) (rest : List Char) :
    ∃ more, kinds (s.chars ++ rest) = .keyword s.entry.keyword :: more := by
  cases s with
  | move direction n => exact ⟨_, kinds_chars_move direction n rest⟩
  | turn side n => exact ⟨_, kinds_chars_turn side n rest⟩
  | pen down => exact ⟨_, kinds_chars_pen down rest⟩
  | color c => exact ⟨_, kinds_chars_color c rest⟩
  | loop n body => exact ⟨_, kinds_chars_loop n body rest⟩

end Statement

/-! ### Reading the text of a statement -/

namespace Program.Reader
open Token Statement

section
variable {loops : List OpenLoop} {done : List Statement} {last : Reader}

theorem takeAll?_number_period {make : UInt32 → Statement} {n : UInt32} {more : List Kind} :
    takeAll? ⟨.number make, loops, done⟩ (numberToken n :: .period :: more) = some last ↔
      0 < n ∧ takeAll? (put done (make n) loops) more = some last := by
  by_cases hn : 0 < n
  · rw [numberToken, if_pos hn, takeAll?_cons_of_takes (.number n), takeAll?_cons_of_takes .period]
    simp [hn]
  · rw [numberToken, if_neg hn]
    simp [hn, takeAll?_cons, take?]

theorem takeAll?_count {n : UInt32} {more : List Kind} :
    takeAll? ⟨.count, loops, done⟩ (numberToken n :: more) = some last ↔
      0 < n ∧ takeAll? ⟨.body n, loops, done⟩ more = some last := by
  by_cases hn : 0 < n
  · rw [numberToken, if_pos hn, takeAll?_cons_of_takes (.count n)]
    simp [hn]
  · rw [numberToken, if_neg hn]
    simp [hn, takeAll?_cons, take?]

end

-- By recursion on the statement. Whatever comes behind the statement is left to the reader that has put it, so the
-- statement inside a loop is read in the same way as one outside.
mutual

theorem takeAll?_chars {loops : List OpenLoop} {done : List Statement} {last : Reader} {rest : List Char} :
    (s : Statement) → (takeAll? ⟨.statement, loops, done⟩ (kinds (s.chars ++ rest)) = some last ↔
      s.WellFormed ∧ takeAll? (put done s loops) (kinds rest) = some last)
  | .move direction n => by
    have hword : awaitedAfter direction.keyword = .number (.move direction) := by cases direction <;> rfl
    rw [kinds_chars_move, takeAll?_cons_of_takes (.word _), hword, takeAll?_number_period, WellFormed]
  | .turn side n => by
    have hword : awaitedAfter side.keyword = .number (.turn side) := by cases side <;> rfl
    rw [kinds_chars_turn, takeAll?_cons_of_takes (.word _), hword, takeAll?_number_period, WellFormed]
  | .pen down => by
    have hword : awaitedAfter (penKeyword down) = .period (.pen down) := by cases down <;> rfl
    rw [kinds_chars_pen, takeAll?_cons_of_takes (.word _), hword, takeAll?_cons_of_takes .period, WellFormed, true_and]
  | .color c => by
    rw [kinds_chars_color, takeAll?_cons_of_takes (.word .color), awaitedAfter,
      takeAll?_cons_of_takes (.color c.ofText?_text), takeAll?_cons_of_takes .period, WellFormed, true_and]
  | .loop n body => by
    rw [kinds_chars_loop, takeAll?_cons_of_takes (.word .rep), awaitedAfter, takeAll?_count, takeAll?_bodyChars body,
      WellFormed]
    simp only [and_assoc]

theorem takeAll?_bodyChars {n : UInt32} {loops : List OpenLoop} {done : List Statement} {last : Reader}
    {rest : List Char} :
    (body : List Statement) → (takeAll? ⟨.body n, loops, done⟩ (kinds (bodyChars body ++ rest)) = some last ↔
      body ≠ [] ∧ AllWellFormed body ∧ takeAll? (put done (.loop n body) loops) (kinds rest) = some last)
  | [] => by
    -- The second quote would close a loop without a body.
    rw [bodyChars_nil, List.cons_append, kinds_quote, List.cons_append, kinds_quote, takeAll?_cons_of_takes .quote]
    simp [takeAll?_cons, take?]
  | [s] => by
    obtain ⟨more, hs⟩ := s.starts_kinds_chars rest
    rw [bodyChars_singleton, hs, takeAll?_body, ← hs, takeAll?_chars s, put_bare]
    simp [AllWellFormed]
  | s :: t :: more => by
    rw [bodyChars_cons_cons, List.cons_append, kinds_quote, takeAll?_cons_of_takes .quote, List.append_assoc,
      List.append_assoc, takeAll?_chars s, put_quoted, takeAll?_moreChars (t :: more), List.singleton_append,
      kinds_quote, takeAll?_cons_of_takes (.close (by simp))]
    simp [AllWellFormed, and_assoc]

theorem takeAll?_moreChars {n : UInt32} {body : List Statement} {outer : List OpenLoop} {done : List Statement}
    {last : Reader} {rest : List Char} :
    (ss : List Statement) →
      (takeAll? ⟨.statement, .quoted n body :: outer, done⟩ (kinds (moreChars ss ++ rest)) = some last ↔
        AllWellFormed ss ∧
          takeAll? ⟨.statement, .quoted n (ss.reverse ++ body) :: outer, done⟩ (kinds rest) = some last)
  | [] => by simp [moreChars, AllWellFormed]
  | s :: ss => by
    have hchars : moreChars (s :: ss) ++ rest = ' ' :: (s.chars ++ (moreChars ss ++ rest)) := by simp [moreChars]
    rw [hchars, kinds_blank rfl, takeAll?_chars s, put_quoted, takeAll?_moreChars ss, AllWellFormed]
    simp [and_assoc]

end

theorem takeAll?_lines {done : List Statement} {last : Reader} (ss : List Statement) :
    takeAll? ⟨.statement, [], done⟩ (kinds (ss.flatMap fun s => s.chars ++ ['\n'])) = some last ↔
      AllWellFormed ss ∧ last = ⟨.statement, [], ss.reverse ++ done⟩ := by
  induction ss generalizing done with
  | nil => simp [AllWellFormed, eq_comm]
  | cons s ss ih =>
    rw [List.flatMap_cons, List.append_assoc, takeAll?_chars, put_nil, List.singleton_append, kinds_blank rfl, ih,
      AllWellFormed]
    simp [and_assoc]

end Program.Reader

/-! ### The characters of the canonical text -/

namespace Statement

/-- The characters that statements are written with. -/
def ink : List Char := "ABCDEFGHIJKLMNOPQRSTUVWXYZ0123456789#.\" ".toList

theorem subset_ink {text : List Char} (h : text.all (ink.contains ·) = true) : text ⊆ ink :=
  fun c hc => List.contains_iff_mem.mp (List.all_eq_true.mp h c hc)

theorem keyword_subset_ink (k : Keyword) : k.text.toList ⊆ ink := by
  cases k <;> exact subset_ink (by decide)

theorem withNumber_subset_ink (k : Keyword) (n : UInt32) : (withNumber k n).toList ⊆ ink := by
  have hdigits : Nat.toDigits 10 n.toNat ⊆ ink := fun c hc => by
    have hdigit := Nat.isDigit_of_mem_toDigits (by decide) (by decide) hc
    have hascii : c.toNat < 0x80 := Nat.lt_of_le_of_lt (Char.isDigit_iff_toNat.mp hdigit).2 (by decide)
    exact Text.of_ascii (P := fun c => c.isDigit = true → c ∈ ink) (by decide) hascii hdigit
  simp only [withNumber, String.toList_append, Nat.toList_repr, List.append_subset]
  exact ⟨⟨keyword_subset_ink k, subset_ink (by decide)⟩, hdigits⟩

theorem color_subset_ink (c : Color) : c.text.toList ⊆ ink := by
  obtain ⟨digits, hc, -, hd⟩ := c.exists_upperDigits
  rw [hc, String.toList_ofList]
  exact List.Subset.trans (List.cons_subset_cons _ hd) (subset_ink (by decide))

mutual

theorem chars_subset_ink : (s : Statement) → s.chars ⊆ ink
  | move direction n => by
    rw [chars_move, List.append_subset]
    exact ⟨withNumber_subset_ink _ n, subset_ink (by decide)⟩
  | turn side n => by
    rw [chars_turn, List.append_subset]
    exact ⟨withNumber_subset_ink _ n, subset_ink (by decide)⟩
  | pen down => by
    rw [chars_pen]
    cases down <;> exact subset_ink (by decide)
  | color c => by
    rw [chars_color, List.append_subset, List.append_subset, List.append_subset]
    exact ⟨subset_ink (by decide), subset_ink (by decide), color_subset_ink c, subset_ink (by decide)⟩
  | loop n body => by
    rw [chars_loop, List.append_subset, List.cons_subset]
    exact ⟨withNumber_subset_ink _ n, by decide, bodyChars_subset_ink body⟩

theorem bodyChars_subset_ink : (body : List Statement) → bodyChars body ⊆ ink
  | [] => by
    rw [bodyChars_nil]
    exact subset_ink (by decide)
  | [s] => by
    rw [bodyChars_singleton]
    exact chars_subset_ink s
  | s :: t :: rest => by
    rw [bodyChars_cons_cons, List.cons_subset, List.append_subset, List.append_subset]
    exact ⟨by decide, chars_subset_ink s, moreChars_subset_ink (t :: rest), subset_ink (by decide)⟩

theorem moreChars_subset_ink : (ss : List Statement) → moreChars ss ⊆ ink
  | [] => List.nil_subset ink
  | s :: rest => by
    rw [moreChars, List.flatMap_cons, List.append_subset, List.cons_subset]
    exact ⟨⟨by decide, chars_subset_ink s⟩, moreChars_subset_ink rest⟩

end

end Statement

namespace Program

/-- Whether the language can express a program. -/
def WellFormed (p : Program) : Prop := Statement.AllWellFormed p.statements

instance (p : Program) : Decidable p.WellFormed := Statement.decideAllWellFormed p.statements

theorem toList_format (p : Program) : p.format.toList = p.statements.flatMap fun s => s.chars ++ ['\n'] := by
  rw [format, Statement.toList_write, List.flatMap_assoc]
  simp [Statement.Piece.chars]

theorem of_mem_format {P : Char → Bool} (h : ('\n' :: Statement.ink).all P = true) {p : Program} {c : Char}
    (hc : c ∈ p.format.toList) : P c = true := by
  apply List.all_eq_true.mp h
  rw [toList_format] at hc
  obtain ⟨s, -, hs⟩ := List.mem_flatMap.mp hc
  rcases List.mem_append.mp hs with hs | hs
  · exact List.mem_cons_of_mem _ (s.chars_subset_ink hs)
  · rw [List.mem_singleton.mp hs]
    exact List.mem_cons_self

theorem upperCase_format (p : Program) : Text.upperCase p.format = p.format.toList := by
  refine Text.upperCase_eq_self fun c hc => ?_
  have hplain := of_mem_format (P := fun c => c.toNat < 0x80 && !c.isLower) (by decide) hc
  simpa using hplain

/-- The canonical text of a program is read as that program if the language can express it, and else not at all. -/
theorem parse_format_eq_ok_iff (p q : Program) : parse p.format = .ok q ↔ p.WellFormed ∧ q = p := by
  rw [parse_eq_ok_iff, upperCase_format, toList_format]
  constructor
  · rintro ⟨last, hlast, hq⟩
    obtain ⟨hwell, rfl⟩ := (Reader.takeAll?_lines _).mp hlast
    refine ⟨hwell, ?_⟩
    simpa [Reader.result?] using hq.symm
  · rintro ⟨hwell, rfl⟩
    exact ⟨_, (Reader.takeAll?_lines _).mpr ⟨hwell, rfl⟩, by simp [Reader.result?]⟩

example : WellFormed ⟨[.loop 2 [.loop 3 [.pen true, .move .forward 1]]]⟩ := by decide

example : ¬WellFormed ⟨[.loop 2 [.loop 3 [.pen true, .loop 4 []]]]⟩ := by decide

end Program

end TurtleGraphics
