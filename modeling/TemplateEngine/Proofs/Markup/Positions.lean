import Mathlib.Data.List.Induction
import TemplateEngine.Markup.Position

/-! # Positions in concatenated texts

A text that stands after another has its first line moved along by the last line before it, and all
its lines moved down. -/

namespace TemplateEngine.Position

theorem after_append_singleton (text : List Char) (c : Char) :
    after (text ++ [c]) = (after text).advance c := by
  rw [after, after, List.foldl_append]
  rfl

/-- The line is counted by the line feeds, and the column by the characters after the last one. -/
theorem after_eq_count (text : List Char) :
    after text = ⟨text.count '\n' + 1, (text.reverse.takeWhile (· ≠ '\n')).length + 1⟩ := by
  induction text using List.reverseRecOn with
  | nil => rfl
  | append_singleton text c ih =>
    rw [after_append_singleton, ih, advance, List.count_append, List.reverse_append]
    by_cases hc : c = '\n'
    · simp [hc]
    · simp [hc]

theorem one_le_after (text : List Char) : 1 ≤ (after text).line ∧ 1 ≤ (after text).column := by
  rw [after_eq_count]
  exact ⟨Nat.succ_pos _, Nat.succ_pos _⟩

/-- A position in a text that starts at `origin`. Only its first line is moved along. -/
def moved (origin position : Position) : Position :=
  ⟨origin.line + position.line - 1,
    if position.line = 1 then origin.column + position.column - 1 else position.column⟩

theorem moved_start (origin : Position) : origin.moved start = origin := by
  simp [moved, start]

theorem moved_advance (origin : Position) {position : Position} (hline : 1 ≤ position.line)
    (hcolumn : 1 ≤ position.column) (c : Char) :
    origin.moved (position.advance c) = (origin.moved position).advance c := by
  by_cases hc : c = '\n'
  · have hnext : position.line + 1 ≠ 1 := by omega
    simp only [advance, if_pos hc, moved, if_neg hnext, mk.injEq, and_true]
    omega
  · by_cases hfirst : position.line = 1
    · simp only [advance, if_neg hc, moved, if_pos hfirst, mk.injEq, true_and]
      omega
    · simp only [advance, if_neg hc, moved, if_neg hfirst]

theorem after_append (text more : List Char) :
    after (text ++ more) = (after text).moved (after more) := by
  induction more using List.reverseRecOn with
  | nil =>
    rw [List.append_nil]
    exact (moved_start (after text)).symm
  | append_singleton more c ih =>
    obtain ⟨hline, hcolumn⟩ := one_le_after more
    rw [← List.append_assoc, after_append_singleton, after_append_singleton, ih,
      moved_advance _ hline hcolumn]

theorem before_append {text more rest : List Char} (h : rest.length ≤ more.length) :
    before (text ++ more) rest = (after text).moved (before more rest) := by
  have hlength : (text ++ more).length - rest.length =
      text.length + (more.length - rest.length) := by
    rw [List.length_append]
    omega
  rw [before, before, hlength, List.take_length_add_append, after_append]

end TemplateEngine.Position
