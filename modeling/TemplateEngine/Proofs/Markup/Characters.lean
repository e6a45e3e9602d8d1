import Mathlib.Data.List.Basic
import TemplateEngine.Markup.Expression

/-! # Classes of characters in markup

Blanks, the characters of names and the signs of the expression language exclude one another. This
is why the longest run of a class is the only way to read a text. -/

namespace TemplateEngine

namespace Unicode

theorem Ranges.exists_of_covers {ranges : Ranges} {code : Nat} (h : ranges.covers code = true) :
    ∃ range ∈ ranges, range.1 ≤ code ∧ code ≤ range.2 := by
  induction ranges with
  | nil => simp [Ranges.covers] at h
  | cons range ranges ih =>
    simp only [Ranges.covers] at h
    split_ifs at h with hfirst hlast
    · exact ⟨range, by simp, by omega, hlast⟩
    · obtain ⟨found, hmem, hbounds⟩ := ih h
      exact ⟨found, by simp [hmem], hbounds⟩

/-- No range of one table overlaps a range of the other. -/
def Ranges.apart (ranges others : Ranges) : Bool :=
  ranges.all fun range => others.all fun other =>
    decide (range.2 < other.1) || decide (other.2 < range.1)

theorem Ranges.not_contains_of_apart {ranges others : Ranges} (hapart : ranges.apart others = true)
    {c : Char} (h : ranges.contains c = true) : others.contains c = false := by
  by_contra hc
  have hother : others.covers c.toNat = true := by simpa [Ranges.contains] using hc
  obtain ⟨range, hrange, hlow, hhigh⟩ := Ranges.exists_of_covers h
  obtain ⟨other, hmem, hlow', hhigh'⟩ := Ranges.exists_of_covers hother
  have hpair := List.all_eq_true.mp (List.all_eq_true.mp hapart range hrange) other hmem
  simp only [Bool.or_eq_true, decide_eq_true_eq] at hpair
  omega

theorem whiteSpace_apart_alphabetic : whiteSpace.apart alphabetic = true := by decide +kernel

theorem whiteSpace_apart_numeric : whiteSpace.apart numeric = true := by decide +kernel

end Unicode

namespace Markup

theorem isIdentContinue_of_isIdentStart {c : Char} (h : isIdentStart c = true) :
    isIdentContinue c = true := by
  simp only [isIdentStart, isIdentContinue, Bool.or_eq_true] at h ⊢
  exact Or.inl h

/-- A blank never belongs to a name. -/
theorem isIdentContinue_of_isWhiteSpace {c : Char} (h : Unicode.isWhiteSpace c = true) :
    isIdentContinue c = false := by
  have hletter : Unicode.isAlphabetic c = false :=
    Unicode.Ranges.not_contains_of_apart Unicode.whiteSpace_apart_alphabetic h
  have hdigit : Unicode.isNumeric c = false :=
    Unicode.Ranges.not_contains_of_apart Unicode.whiteSpace_apart_numeric h
  have hbar : c ≠ '_' := by
    rintro rfl
    exact absurd h (by decide)
  simp [isIdentContinue, hletter, hdigit, hbar]

/-- The signs that may follow a name or an expression, and the quotes. -/
def signs : List Char := ['.', '(', ')', ',', '|', '=', '\x7d', '"', '\'']

theorem not_isIdentContinue_of_mem_signs {c : Char} (h : c ∈ signs) :
    isIdentContinue c = false := by
  have hall : signs.all (fun c => !isIdentContinue c) = true := by decide +kernel
  simpa using List.all_eq_true.mp hall c h

theorem not_isWhiteSpace_of_mem_signs {c : Char} (h : c ∈ signs) :
    Unicode.isWhiteSpace c = false := by
  have hall : signs.all (fun c => !Unicode.isWhiteSpace c) = true := by decide +kernel
  simpa using List.all_eq_true.mp hall c h

end Markup

end TemplateEngine
