import Mathlib.Data.List.Forall2
import TurtleGraphics.Text.UpperCase

/-! # Upper-cased text

Upper-cased text has no lower-case ASCII letters in it, and ASCII text without them is its own upper case. Upper-casing
neither makes nor removes newlines, and it does not tell texts apart that differ in the case of ASCII letters. -/

namespace TurtleGraphics.Text

theorem isLower_iff_toNat {c : Char} : c.isLower = true ↔ 97 ≤ c.toNat ∧ c.toNat ≤ 122 := by
  have hlower : c.isLower = (decide (97 ≤ c.val) && decide (c.val ≤ 122)) := rfl
  simp [hlower, UInt32.le_iff_toNat_le]

theorem toNat_ofNat_cases (n : Nat) : (Char.ofNat n).toNat = n ∨ (Char.ofNat n).toNat = 0 := by
  by_cases hvalid : n.isValidChar
  · exact Or.inl (congrArg Char.toNat (dif_pos hvalid))
  · exact Or.inr (congrArg Char.toNat (dif_neg hvalid))

theorem isLower_ofNat {n : Nat} (h : n < 97 ∨ 122 < n) : (Char.ofNat n).isLower = false := by
  have hcode := toNat_ofNat_cases n
  rw [Bool.eq_false_iff, ne_eq, isLower_iff_toNat]
  omega

theorem ofNat_ne_newline {n : Nat} (h : 10 < n) : Char.ofNat n ≠ '\n' := by
  intro heq
  have hcode := toNat_ofNat_cases n
  have hnewline : (Char.ofNat n).toNat = 10 := by
    rw [heq]
    rfl
  omega

/-- What is checked for the ASCII codes one by one holds of the ASCII characters. -/
theorem of_ascii {P : Char → Prop} (h : ∀ code < 0x80, P (Char.ofNat code)) {c : Char} (hascii : c.toNat < 0x80) :
    P c :=
  Char.ofNat_toNat c ▸ h c.toNat hascii

theorem positive_of_mem_upperRuns : ∀ run ∈ upperRuns, 10 < run.first + run.shift := by
  decide +kernel

/-- Where the characters of an upper case come from: from ASCII, from one of the tables, or from the character
    itself. -/
theorem mem_upper_cases {c d : Char} (h : d ∈ upper c) :
    (c.toNat < 0x80 ∧ d = c.toUpper) ∨ 0x80 ≤ c.toNat ∧
      ((∃ entry ∈ upperExpansions, ∃ code ∈ entry.2, d = Char.ofNat code) ∨
        (∃ run ∈ upperRuns, ∃ n : Nat, run.first + run.shift ≤ n ∧ n ≤ run.last + run.shift ∧ d = Char.ofNat n) ∨
        d = c) := by
  unfold upper at h
  split at h
  · next hascii => exact Or.inl ⟨hascii, List.mem_singleton.mp h⟩
  · next hascii =>
    refine Or.inr ⟨Nat.le_of_not_lt hascii, ?_⟩
    split at h
    · next codes hfound =>
      obtain ⟨code, hcode, rfl⟩ := List.mem_map.mp h
      exact Or.inl ⟨_, List.mem_of_find?_eq_some hfound, code, hcode, rfl⟩
    · split at h
      · next run hfound =>
        have hmem := List.mem_of_find?_eq_some hfound
        have hcovers := List.find?_some hfound
        simp only [CaseRun.covers, Bool.and_eq_true, decide_eq_true_eq] at hcovers
        have hshift := positive_of_mem_upperRuns run hmem
        exact Or.inr (Or.inl ⟨run, hmem, _, by omega, by omega, List.mem_singleton.mp h⟩)
      · exact Or.inr (Or.inr (List.mem_singleton.mp h))

theorem of_mem_upperExpansions : ∀ entry ∈ upperExpansions, ∀ code ∈ entry.2,
    10 < code ∧ (Char.ofNat code).isLower = false := by
  decide +kernel

/-- No run of the table reaches the lower-case ASCII letters. -/
theorem shift_of_mem_upperRuns : ∀ run ∈ upperRuns, run.last + run.shift < 97 ∨ 122 < run.first + run.shift := by
  decide +kernel

theorem isLower_of_mem_upper {c d : Char} (h : d ∈ upper c) : d.isLower = false := by
  rcases mem_upper_cases h with ⟨hascii, rfl⟩ | ⟨hascii, ⟨entry, hentry, code, hcode, rfl⟩ | ⟨run, hrun, n, hfirst,
    hlast, rfl⟩ | rfl⟩
  · exact of_ascii (P := fun c => c.toUpper.isLower = false) (by decide) hascii
  · exact (of_mem_upperExpansions entry hentry code hcode).2
  · have hshift := shift_of_mem_upperRuns run hrun
    apply isLower_ofNat
    omega
  · rw [Bool.eq_false_iff, ne_eq, isLower_iff_toNat]
    omega

theorem isLower_of_mem_upperCase {text : String} {c : Char} (h : c ∈ upperCase text) : c.isLower = false := by
  obtain ⟨d, -, hd⟩ := List.mem_flatMap.mp h
  exact isLower_of_mem_upper hd

theorem upper_eq_self {c : Char} (hascii : c.toNat < 0x80) (hlower : c.isLower = false) : upper c = [c] := by
  have h : c.isLower = false → c.toUpper = c :=
    of_ascii (P := fun c => c.isLower = false → c.toUpper = c) (by decide) hascii
  simp [upper, hascii, h hlower]

theorem upperCase_eq_self {text : String} (h : ∀ c ∈ text.toList, c.toNat < 0x80 ∧ c.isLower = false) :
    upperCase text = text.toList := by
  have hall : ∀ chars : List Char, (∀ c ∈ chars, c.toNat < 0x80 ∧ c.isLower = false) → chars.flatMap upper = chars := by
    intro chars hchars
    induction chars with
    | nil => rfl
    | cons c rest ih =>
      rw [List.forall_mem_cons] at hchars
      rw [List.flatMap_cons, upper_eq_self hchars.1.1 hchars.1.2, ih hchars.2]
      rfl
  exact hall text.toList h

@[simp] theorem upperCase_append (a b : String) : upperCase (a ++ b) = upperCase a ++ upperCase b := by
  rw [upperCase, String.toList_append, List.flatMap_append]
  rfl

/-- Characters are put in upper case one by one, so the start of a text gives the start of its upper case. -/
theorem upperCase_starts {cut text : String} (h : cut.toList <+: text.toList) : upperCase cut <+: upperCase text := by
  obtain ⟨rest, h⟩ := h
  rw [upperCase, upperCase, ← h, List.flatMap_append]
  exact List.prefix_append _ _

/-! ### Newlines -/

theorem newline_mem_upper {c : Char} (h : '\n' ∈ upper c) : c = '\n' := by
  rcases mem_upper_cases h with ⟨hascii, heq⟩ | ⟨hascii, ⟨entry, hentry, code, hcode, heq⟩ | ⟨run, hrun, n, hfirst,
    hlast, heq⟩ | heq⟩
  · exact of_ascii (P := fun c => '\n' = c.toUpper → c = '\n') (by decide) hascii heq
  · exact absurd heq.symm (ofNat_ne_newline (of_mem_upperExpansions entry hentry code hcode).1)
  · have hshift := positive_of_mem_upperRuns run hrun
    exact absurd heq.symm (ofNat_ne_newline (by omega))
  · exact heq.symm

/-- Upper-casing keeps the number of newlines. -/
theorem count_newline_upperCase (text : String) : (upperCase text).count '\n' = text.toList.count '\n' := by
  have hall : ∀ chars : List Char, (chars.flatMap upper).count '\n' = chars.count '\n' := by
    intro chars
    induction chars with
    | nil => rfl
    | cons c chars ih =>
      rw [List.flatMap_cons, List.count_append, ih, List.count_cons]
      by_cases hc : c = '\n'
      · subst hc
        have hupper : upper '\n' = ['\n'] := by decide
        rw [hupper]
        simp [Nat.add_comm]
      · have hcount : (upper c).count '\n' = 0 := List.count_eq_zero.mpr fun h => hc (newline_mem_upper h)
        simp [hcount, hc]
  exact hall text.toList

/-! ### Letter case -/

/-- The same character, up to the case of an ASCII letter. -/
def SameLetter (c d : Char) : Prop := d = c ∨ (c.isAlpha = true ∧ (d = c.toUpper ∨ d = c.toLower))

instance : DecidableRel SameLetter := fun c d =>
  inferInstanceAs (Decidable (d = c ∨ (c.isAlpha = true ∧ (d = c.toUpper ∨ d = c.toLower))))

theorem toNat_of_isAlpha {c : Char} (h : c.isAlpha = true) : c.toNat < 0x80 := by
  have halpha : c.isAlpha = (decide (65 ≤ c.val ∧ c.val ≤ 90) || c.isLower) := rfl
  rw [halpha, Bool.or_eq_true, decide_eq_true_eq, isLower_iff_toNat] at h
  rcases h with ⟨-, h⟩ | ⟨-, h⟩
  · exact Nat.lt_of_le_of_lt (UInt32.le_iff_toNat_le.mp h) (by decide)
  · omega

theorem upper_eq_of_sameLetter {c d : Char} (h : SameLetter c d) : upper d = upper c := by
  rcases h with rfl | ⟨hc, hd⟩
  · rfl
  · have hboth := of_ascii (P := fun c => c.isAlpha = true → upper c.toUpper = upper c ∧ upper c.toLower = upper c)
      (by decide) (toNat_of_isAlpha hc) hc
    rcases hd with rfl | rfl
    · exact hboth.1
    · exact hboth.2

theorem upperCase_eq_of_sameLetter {a b : String} (h : List.Forall₂ SameLetter a.toList b.toList) :
    upperCase b = upperCase a := by
  have hall : ∀ {xs ys : List Char}, List.Forall₂ SameLetter xs ys → ys.flatMap upper = xs.flatMap upper := by
    intro xs ys h
    induction h with
    | nil => rfl
    | cons hc h ih => rw [List.flatMap_cons, List.flatMap_cons, upper_eq_of_sameLetter hc, ih]
  exact hall h

end TurtleGraphics.Text
