import Mathlib.Data.String.Basic
import TemplateEngine.Proofs.Markup.Positions

/-! # Positions and offsets

The positions in a text are in the order of its offsets, and a position leads back to the offset:
past the line feeds of all lines before its own, and then along its line. -/

namespace TemplateEngine.Position

open String (utf8Len)

theorem takeBytes?_eq_some_iff {text front : List Char} {offset : Nat} :
    takeBytes? text offset = some front ↔ front <+: text ∧ utf8Len front = offset := by
  fun_induction takeBytes? text offset generalizing front with
  | case1 text =>
    constructor
    · rintro h
      obtain rfl := Option.some.inj h
      exact ⟨List.nil_prefix, rfl⟩
    · rintro ⟨-, hlength⟩
      rw [String.utf8Len_eq_zero.mp hlength]
  | case2 offset =>
    simp only [reduceCtorEq, List.prefix_nil, false_iff, not_and]
    rintro rfl
    exact (Nat.succ_ne_zero offset).symm
  | case3 c text offset hsize ih =>
    constructor
    · intro h
      obtain ⟨inner, hinner, rfl⟩ := Option.map_eq_some_iff.mp h
      obtain ⟨hstarts, hlength⟩ := ih.mp hinner
      refine ⟨(List.prefix_cons_inj c).mpr hstarts, ?_⟩
      rw [String.utf8Len_cons, hlength]
      omega
    · rintro ⟨hstarts, hlength⟩
      cases front with
      | nil => cases hlength
      | cons d front =>
        obtain ⟨rfl, hinner⟩ := List.cons_prefix_cons.mp hstarts
        rw [String.utf8Len_cons] at hlength
        rw [ih.mpr ⟨hinner, by omega⟩, Option.map_some]
  | case4 c text offset hsize =>
    simp only [reduceCtorEq, false_iff, not_and]
    intro hstarts hlength
    cases front with
    | nil => cases hlength
    | cons d front =>
      obtain ⟨rfl, -⟩ := List.cons_prefix_cons.mp hstarts
      rw [String.utf8Len_cons] at hlength
      omega

/-- Exactly the offsets at the boundaries of characters have characters before them. -/
theorem isValid_iff_exists_takeBytes? {source : String} {offset : Nat} :
    (⟨offset⟩ : String.Pos.Raw).IsValid source ↔
      ∃ front, takeBytes? source.toList offset = some front := by
  simp only [takeBytes?_eq_some_iff, String.Pos.Raw.isValid_iff_exists_append]
  constructor
  · rintro ⟨front, back, rfl, hoffset⟩
    have hlength : utf8Len front.toList = offset := by
      rw [← String.utf8ByteSize_ofList, String.ofList_toList]
      exact (congrArg String.Pos.Raw.byteIdx hoffset).symm
    exact ⟨front.toList, by simp, hlength⟩
  · rintro ⟨front, ⟨back, hsplit⟩, rfl⟩
    refine ⟨String.ofList front, String.ofList back, ?_, ?_⟩
    · rw [← String.ofList_append, hsplit, String.ofList_toList]
    · rw [← String.utf8ByteSize_ofList]
      rfl

theorem locate?_eq_some_iff {source : String} {offset : Nat} {position : Position} :
    locate? source offset = some position ↔
      ∃ front, front <+: source.toList ∧ utf8Len front = offset ∧ after front = position := by
  rw [locate?, Option.map_eq_some_iff]
  simp only [takeBytes?_eq_some_iff, and_assoc]

/-- The position lies on an earlier line, or further to the left on the same line. -/
def Precedes (position later : Position) : Prop :=
  position.line < later.line ∨ position.line = later.line ∧ position.column < later.column

theorem Precedes.trans {first second third : Position} (h : first.Precedes second)
    (h' : second.Precedes third) : first.Precedes third := by
  unfold Precedes at *
  omega

theorem precedes_advance (position : Position) (c : Char) :
    position.Precedes (position.advance c) := by
  unfold advance
  split
  · exact Or.inl (Nat.lt_succ_self _)
  · exact Or.inr ⟨rfl, Nat.lt_succ_self _⟩

/-- Every character moves the position on. -/
theorem after_precedes (front : List Char) {more : List Char} (h : more ≠ []) :
    (after front).Precedes (after (front ++ more)) := by
  induction more using List.reverseRecOn with
  | nil => exact absurd rfl h
  | append_singleton more c ih =>
    have hlast := precedes_advance (after (front ++ more)) c
    rw [← List.append_assoc, after_append_singleton]
    by_cases hmore : more = []
    · rwa [hmore, List.append_nil] at hlast ⊢
    · exact (ih hmore).trans hlast

/-- The text after so many line feeds. -/
def passLines? : (count : Nat) → (text : List Char) → Option (List Char)
  | 0, text => some text
  | _ + 1, [] => none
  | count + 1, c :: text =>
    if c = '\n' then passLines? count text else passLines? (count + 1) text

/-- The text after so many characters of a line. -/
def passColumns? : (count : Nat) → (text : List Char) → Option (List Char)
  | 0, text => some text
  | _ + 1, [] => none
  | count + 1, c :: text => if c = '\n' then none else passColumns? count text

/-- What is still to come at a position. -/
def walk? (position : Position) (text : List Char) : Option (List Char) :=
  (passLines? (position.line - 1) text).bind (passColumns? (position.column - 1))

/-- The offset that is reached by walking to a position. -/
def offset? (source : String) (position : Position) : Option Nat :=
  (position.walk? source.toList).map fun rest => source.utf8ByteSize - utf8Len rest

theorem passLines?_zero (text : List Char) : passLines? 0 text = some text := by
  rw [passLines?]

theorem passColumns?_zero (text : List Char) : passColumns? 0 text = some text := by
  rw [passColumns?]

theorem passLines?_add (count more : Nat) (text : List Char) :
    passLines? (count + more) text = (passLines? count text).bind (passLines? more) := by
  fun_induction passLines? count text with
  | case1 text => rw [Nat.zero_add, Option.bind_some]
  | case2 count => rw [Nat.succ_add, passLines?, Option.bind_none]
  | case3 count text ih => rw [Nat.succ_add, passLines?, if_pos rfl, ih]
  | case4 count c text hc ih =>
    rw [Nat.succ_add] at ih ⊢
    rw [passLines?, if_neg hc, ih]

/-- Along a line and then over its line feed the next line is reached. -/
theorem passLines?_one_of_passColumns? {count : Nat} {text rest : List Char}
    (h : passColumns? count text = some ('\n' :: rest)) : passLines? 1 text = some rest := by
  fun_induction passColumns? count text with
  | case1 text =>
    obtain rfl := Option.some.inj h
    rw [passLines?, if_pos rfl, passLines?_zero]
  | case2 => cases h
  | case3 => cases h
  | case4 count c text hc ih => rw [passLines?, if_neg hc, ih h]

theorem passColumns?_succ {count : Nat} {text rest : List Char} {c : Char} (hc : c ≠ '\n')
    (h : passColumns? count text = some (c :: rest)) :
    passColumns? (count + 1) text = some rest := by
  fun_induction passColumns? count text with
  | case1 text =>
    obtain rfl := Option.some.inj h
    rw [passColumns?, if_neg hc, passColumns?_zero]
  | case2 => cases h
  | case3 => cases h
  | case4 count d text hd ih => rw [passColumns?, if_neg hd, ih h]

theorem walk?_advance {position : Position} (hline : 1 ≤ position.line)
    (hcolumn : 1 ≤ position.column) {text rest : List Char} {c : Char}
    (h : position.walk? text = some (c :: rest)) :
    (position.advance c).walk? text = some rest := by
  obtain ⟨inner, hlines, hcolumns⟩ := Option.bind_eq_some_iff.mp h
  by_cases hc : c = '\n'
  · subst hc
    have hcount : position.line + 1 - 1 = position.line - 1 + 1 := by omega
    rw [advance, if_pos rfl, walk?, hcount, passLines?_add, hlines, Option.bind_some,
      passLines?_one_of_passColumns? hcolumns]
    rfl
  · have hcount : position.column + 1 - 1 = position.column - 1 + 1 := by omega
    rw [advance, if_neg hc, walk?, hlines, hcount, Option.bind_some,
      passColumns?_succ hc hcolumns]

/-- Walking to the position after a text leads past that text. -/
theorem walk?_after (front rest : List Char) : (after front).walk? (front ++ rest) = some rest := by
  induction front using List.reverseRecOn generalizing rest with
  | nil =>
    have hstart : start.walk? rest = (passLines? 0 rest).bind (passColumns? 0) := rfl
    rw [passLines?_zero, Option.bind_some, passColumns?_zero] at hstart
    exact hstart
  | append_singleton front c ih =>
    obtain ⟨hline, hcolumn⟩ := one_le_after front
    rw [after_append_singleton, List.append_assoc]
    exact walk?_advance hline hcolumn (ih (c :: rest))

theorem offset?_of_locate? {source : String} {offset : Nat} {position : Position}
    (h : locate? source offset = some position) : offset? source position = some offset := by
  obtain ⟨front, ⟨rest, hsplit⟩, rfl, rfl⟩ := locate?_eq_some_iff.mp h
  have hsize : source.utf8ByteSize = utf8Len front + utf8Len rest := by
    rw [← String.utf8Len_append, hsplit, ← String.utf8ByteSize_ofList, String.ofList_toList]
  rw [offset?, ← hsplit, walk?_after, Option.map_some, hsize, Nat.add_sub_cancel]

theorem precedes_of_locate? {source : String} {offset later : Nat} {position position' : Position}
    (hlt : offset < later) (h : locate? source offset = some position)
    (h' : locate? source later = some position') : position.Precedes position' := by
  obtain ⟨front, hfront, rfl, rfl⟩ := locate?_eq_some_iff.mp h
  obtain ⟨front', hfront', rfl, rfl⟩ := locate?_eq_some_iff.mp h'
  rcases List.prefix_or_prefix_of_prefix hfront hfront' with ⟨more, rfl⟩ | ⟨more, rfl⟩
  · refine after_precedes front fun hnil => ?_
    rw [hnil, List.append_nil] at hlt
    exact absurd hlt (Nat.lt_irrefl _)
  · rw [String.utf8Len_append] at hlt
    omega

/-- Exactly the offsets between characters have a position, and walking to the position leads to the
offset. Of two offsets the later has the later position, so that no two offsets share one. -/
theorem locate?_embeds (source : String) :
    (∀ offset, (⟨offset⟩ : String.Pos.Raw).IsValid source ↔
        ∃ position, locate? source offset = some position) ∧
      (∀ offset position, locate? source offset = some position →
        offset? source position = some offset) ∧
      (∀ offset later position position', offset < later →
        locate? source offset = some position → locate? source later = some position' →
          position.line < position'.line ∨
            position.line = position'.line ∧ position.column < position'.column) ∧
      ∀ offset other position, locate? source offset = some position →
        locate? source other = some position → offset = other := by
  refine ⟨fun offset => ?_, fun _ _ => offset?_of_locate?, fun _ _ _ _ => precedes_of_locate?,
    fun offset other position h h' => ?_⟩
  · rw [isValid_iff_exists_takeBytes?]
    simp only [locate?, Option.map_eq_some_iff]
    exact ⟨fun ⟨front, hfront⟩ => ⟨_, front, hfront, rfl⟩,
      fun ⟨_, front, hfront, _⟩ => ⟨front, hfront⟩⟩
  · exact Option.some.inj ((offset?_of_locate? h).symm.trans (offset?_of_locate? h'))

/-- The line feed is the third character of its line, and a letter of two bytes takes up one column
of the next. -/
theorem locate?_embeds_cedilla :
    locate? "ab\nçd" 2 = some ⟨1, 3⟩ ∧ locate? "ab\nçd" 5 = some ⟨2, 2⟩ ∧
      (⟨5⟩ : String.Pos.Raw).IsValid "ab\nçd" ∧ ¬(⟨4⟩ : String.Pos.Raw).IsValid "ab\nçd" ∧
      offset? "ab\nçd" ⟨2, 2⟩ = some 5 ∧ ((1 < 2) ∨ (1 = 2 ∧ 3 < 2)) := by
  obtain ⟨hvalid, hoffset, hlt, -⟩ := locate?_embeds "ab\nçd"
  have hfeed : locate? "ab\nçd" 2 = some ⟨1, 3⟩ := rfl
  have hletter : locate? "ab\nçd" 5 = some ⟨2, 2⟩ := rfl
  refine ⟨hfeed, hletter, (hvalid 5).mpr ⟨_, hletter⟩, fun hinside => ?_, hoffset _ _ hletter,
    hlt _ _ _ _ (by decide) hfeed hletter⟩
  obtain ⟨position, hposition⟩ := (hvalid 4).mp hinside
  cases hposition

end TemplateEngine.Position
