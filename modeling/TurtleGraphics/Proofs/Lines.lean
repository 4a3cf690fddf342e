import TurtleGraphics.CommandLine
import TurtleGraphics.Proofs.RoundTrip

/-! # Lines

What the commands write is lines, each with a newline at its end. Lines without newlines of their own can be read back
from such a text (`splitOn_unlines`), and where anything is written at all, a newline is written last. -/

namespace TurtleGraphics

namespace Text

/-- Lines with a newline behind each. -/
def unlines (lines : List (List Char)) : List Char := lines.flatMap (· ++ ['\n'])

theorem unlines_cons (line : List Char) (lines : List (List Char)) :
    unlines (line :: lines) = line ++ '\n' :: unlines lines := by
  simp [unlines]

theorem unlines_append (a b : List (List Char)) : unlines (a ++ b) = unlines a ++ unlines b := List.flatMap_append

theorem splitOn_unlines {lines : List (List Char)} (h : ∀ line ∈ lines, '\n' ∉ line) :
    (unlines lines).splitOn '\n' = lines ++ [[]] := by
  induction lines with
  | nil => exact List.splitOn_nil _
  | cons line lines ih =>
    rw [List.forall_mem_cons] at h
    rw [unlines_cons, List.splitOn_append_cons_self_of_not_mem h.1, ih h.2, List.cons_append]

theorem unlines_eq_nil_or (lines : List (List Char)) :
    unlines lines = [] ∨ ∃ front, unlines lines = front ++ ['\n'] := by
  rcases List.eq_nil_or_concat lines with rfl | ⟨front, line, rfl⟩
  · exact Or.inl rfl
  · rw [List.concat_eq_append, unlines_append]
    exact Or.inr ⟨unlines front ++ line, by simp [unlines]⟩

/-- A text without newlines. -/
def OneLine (text : String) : Prop := '\n' ∉ text.toList

instance : DecidablePred OneLine := fun text => inferInstanceAs (Decidable ('\n' ∉ text.toList))

theorem oneLine_append {a b : String} : OneLine (a ++ b) ↔ OneLine a ∧ OneLine b := by
  rw [OneLine, String.toList_append, List.mem_append, not_or]
  rfl

theorem oneLine_quoting {a b c : String} (ha : OneLine a) (hb : OneLine b) (hc : OneLine c) : OneLine (a ++ b ++ c) :=
  oneLine_append.mpr ⟨oneLine_append.mpr ⟨ha, hb⟩, hc⟩

theorem oneLine_repr (n : Nat) : OneLine n.repr := by
  rw [OneLine, Nat.toList_repr]
  intro h
  cases Nat.isDigit_of_mem_toDigits (by decide) (by decide) h

end Text

open Text

theorem Segment.toList_render (segments : List Segment) :
    (render segments).toList = unlines (segments.map (·.text.toList)) := by
  have hall : ∀ before : String, (segments.foldl (fun lines s => lines ++ s.text ++ "\n") before).toList =
      before.toList ++ unlines (segments.map (·.text.toList)) := by
    induction segments with
    | nil => simp [unlines]
    | cons s segments ih =>
      intro before
      rw [List.foldl_cons, ih, List.map_cons, unlines_cons]
      simp
  exact hall ""

theorem Program.toList_format_unlines (p : Program) : p.format.toList = unlines (p.statements.map Statement.chars) := by
  rw [toList_format, unlines, List.flatMap_map]

end TurtleGraphics
