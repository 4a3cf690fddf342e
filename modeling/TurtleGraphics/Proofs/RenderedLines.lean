import TurtleGraphics.Proofs.Lines
import TurtleGraphics.Proofs.RoundedDecimals

/-! # Rendered lines

A drawing is rendered segment by segment, one on a line, and a line can be taken apart again: no field of it has a space
or a newline in it. So two renderings are equal exactly when the segments have the same colors and the same rounded
coordinates (`render_faithful`). -/

namespace TurtleGraphics.Segment
open Decimal Text

/-- A field that tells a coordinate with four decimals. -/
def Tells (field : List Char) (x : Float) : Prop := ∃ r, RoundsTo 4 x r ∧ Written 4 field r

/-- A line that tells a segment: five fields with one space between them. -/
def LineOf (line : List Char) (s : Segment) : Prop :=
  ∃ x₁ y₁ x₂ y₂, line.splitOn ' ' = [s.color.text.toList, x₁, y₁, x₂, y₂] ∧
    Tells x₁ s.source.x ∧ Tells y₁ s.source.y ∧ Tells x₂ s.target.x ∧ Tells y₂ s.target.y

/-- Numbers that are the same with four decimals. -/
def SameRounded (x y : Float) : Prop := ∀ r, RoundsTo 4 x r ↔ RoundsTo 4 y r

/-- Segments of one color with the same rounded coordinates. -/
structure Alike (s t : Segment) : Prop where
  color : s.color = t.color
  sourceX : SameRounded s.source.x t.source.x
  sourceY : SameRounded s.source.y t.source.y
  targetX : SameRounded s.target.x t.target.x
  targetY : SameRounded s.target.y t.target.y

/-! ### Fields -/

theorem tells_fixed (x : Float) : Tells (fixed 4 x).toList x := by
  obtain ⟨r, hr, -⟩ := existsUnique_roundsTo 4 x
  rw [toList_fixed hr]
  exact ⟨r, hr, written_text (by decide) r⟩

theorem fixed_eq_iff {x y : Float} : fixed 4 x = fixed 4 y ↔ SameRounded x y := by
  obtain ⟨a, hx, ha⟩ := existsUnique_roundsTo 4 x
  obtain ⟨b, hy, hb⟩ := existsUnique_roundsTo 4 y
  rw [← String.toList_inj, toList_fixed hx, toList_fixed hy, Rounded.text_inj (by decide)]
  constructor
  · rintro rfl r
    exact ⟨fun h => ha r h ▸ hy, fun h => hb r h ▸ hx⟩
  · exact fun h => hb a ((h a).mp hx)

/-- The fields of the line of a segment. -/
def fields (s : Segment) : List (List Char) :=
  [s.color.text.toList, (fixed 4 s.source.x).toList, (fixed 4 s.source.y).toList, (fixed 4 s.target.x).toList,
    (fixed 4 s.target.y).toList]

theorem toList_text (s : Segment) : s.text.toList = [' '].intercalate s.fields := by
  simp [text, fields, List.intercalate, places]

section
variable {blank : Char} (hblank : blank = ' ' ∨ blank = '\n')
include hblank

theorem blank_notMem_color (c : Color) : blank ∉ c.text.toList := by
  obtain ⟨digits, hc, -, hdigits⟩ := c.exists_upperDigits
  rw [hc, String.toList_ofList, List.mem_cons, not_or]
  rcases hblank with rfl | rfl
  · exact ⟨by decide, fun h => absurd (hdigits _ h) (by decide)⟩
  · exact ⟨by decide, fun h => absurd (hdigits _ h) (by decide)⟩

theorem blank_notMem_fixed (x : Float) : blank ∉ (fixed 4 x).toList := by
  obtain ⟨r, -, h⟩ := tells_fixed x
  rcases hblank with rfl | rfl
  · exact h.notMem (by decide) (by decide)
  · exact h.notMem (by decide) (by decide)

theorem blank_notMem_fields (s : Segment) : ∀ field ∈ s.fields, blank ∉ field := by
  simp [fields, blank_notMem_color hblank, blank_notMem_fixed hblank]

end

theorem splitOn_text (s : Segment) : s.text.toList.splitOn ' ' = s.fields := by
  rw [toList_text]
  exact List.splitOn_intercalate ' ' (blank_notMem_fields (Or.inl rfl) s) (List.cons_ne_nil _ _)

theorem newline_notMem_text (s : Segment) : '\n' ∉ s.text.toList := by
  have hfields := blank_notMem_fields (Or.inr rfl) s
  simp only [fields, List.forall_mem_cons] at hfields
  simp [text, places, hfields]

theorem lineOf_text (s : Segment) : LineOf s.text.toList s :=
  ⟨_, _, _, _, s.splitOn_text, tells_fixed _, tells_fixed _, tells_fixed _, tells_fixed _⟩

theorem text_eq_iff {s t : Segment} : s.text = t.text ↔ Alike s t := by
  constructor
  · intro h
    have hfields : s.fields = t.fields := by rw [← splitOn_text, h, splitOn_text]
    simp only [fields, List.cons.injEq, String.toList_inj, and_true] at hfields
    obtain ⟨hcolor, h₁, h₂, h₃, h₄⟩ := hfields
    refine ⟨?_, fixed_eq_iff.mp h₁, fixed_eq_iff.mp h₂, fixed_eq_iff.mp h₃, fixed_eq_iff.mp h₄⟩
    have hread := s.color.ofText?_text
    rw [hcolor, Color.ofText?_text] at hread
    exact (Option.some.inj hread).symm
  · intro h
    simp only [text, places, h.color, fixed_eq_iff.mpr h.sourceX, fixed_eq_iff.mpr h.sourceY,
      fixed_eq_iff.mpr h.targetX, fixed_eq_iff.mpr h.targetY]

/-! ### Renderings -/

theorem splitOn_render (segments : List Segment) :
    (render segments).toList.splitOn '\n' = segments.map (·.text.toList) ++ [[]] := by
  rw [toList_render, splitOn_unlines]
  rw [List.forall_mem_map]
  exact fun s _ => s.newline_notMem_text

theorem render_append (segments others : List Segment) :
    render (segments ++ others) = render segments ++ render others := by
  rw [← String.toList_inj, String.toList_append, toList_render, toList_render, toList_render, List.map_append,
    unlines_append]

theorem render_eq_iff {segments others : List Segment} :
    render segments = render others ↔ List.Forall₂ Alike segments others := by
  have htexts : render segments = render others ↔ segments.map (·.text.toList) = others.map (·.text.toList) := by
    constructor
    · intro h
      have hlines := congrArg (fun rendered : String => rendered.toList.splitOn '\n') h
      simp only [splitOn_render] at hlines
      exact List.append_cancel_right hlines
    · intro h
      rw [← String.toList_inj, toList_render, toList_render, h]
  rw [htexts, ← List.forall₂_eq_eq_eq, List.forall₂_map_left_iff, List.forall₂_map_right_iff]
  simp only [String.toList_inj, text_eq_iff]

/-- Every segment is rendered on a line of its own, which tells its color and its coordinates rounded to four
    decimals. Equal renderings tell segments that are alike, and a finite coordinate is told to within half a unit of
    the last decimal. -/
theorem render_faithful (segments others : List Segment) :
    render (segments ++ others) = render segments ++ render others ∧
    (∃ lines, (render segments).toList.splitOn '\n' = lines ++ [[]] ∧ List.Forall₂ LineOf lines segments) ∧
    (render segments = render others ↔ List.Forall₂ Alike segments others) ∧
    (∀ x, ∃! r, RoundsTo 4 x r) ∧
    ∀ x r v, RoundsTo 4 x r → value? x = some v → ∃ w, r.value? 4 = some w ∧ |w - v| ≤ 5 / 10 ^ 5 := by
  refine ⟨render_append segments others, ⟨_, splitOn_render segments, ?_⟩, render_eq_iff, existsUnique_roundsTo 4, ?_⟩
  · rw [List.forall₂_map_left_iff, List.forall₂_same]
    exact fun s _ => s.lineOf_text
  · intro x r v h hv
    obtain ⟨w, hw, hnear⟩ := h.near hv
    exact ⟨w, hw, hnear.trans_eq (by norm_num)⟩

end TurtleGraphics.Segment
