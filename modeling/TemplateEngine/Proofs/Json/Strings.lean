import Mathlib.Data.List.TakeWhile
import TemplateEngine.Json.Reader
import TemplateEngine.Json.Writer

/-! # Strings in JSON

A string that is written is read again. Control characters without an escape of their own are
written as code units, which are joined to the same characters. -/

namespace TemplateEngine.Json

theorem hexValue?_hexDigits : ∀ code < 0x20,
    hexValue? ['0', '0', hexDigit (code / 16), hexDigit (code % 16)] = some code := by
  decide

/-- A code unit below the surrogates is a character by itself. -/
theorem joinPieces_unit {c : Char} (h : c.toNat < 0x20) (pieces : List Piece) :
    joinPieces (.unit c.toNat :: pieces) = (joinPieces pieces).map (c :: ·) := by
  have hhigh : isHighSurrogate c.toNat = false := by
    simp only [isHighSurrogate, Bool.and_eq_false_iff, decide_eq_false_iff_not]
    omega
  have hlow : isLowSurrogate c.toNat = false := by
    simp only [isLowSurrogate, Bool.and_eq_false_iff, decide_eq_false_iff_not]
    omega
  rw [joinPieces.eq_def]
  dsimp only
  rw [hhigh, hlow, if_neg Bool.false_ne_true, if_neg Bool.false_ne_true, Char.ofNat_toNat]

/-- What is written for a character stands for it: it is read as one piece, which is joined to
that character. -/
def StandsFor (text : List Char) (c : Char) : Prop :=
  ∃ piece, (∀ s, readPieces (text ++ s) =
      (readPieces s).map fun (pieces, rest) => (piece :: pieces, rest)) ∧
    ∀ pieces, joinPieces (piece :: pieces) = (joinPieces pieces).map (c :: ·)

theorem standsFor_escape {letter c : Char} (hletter : letter ≠ 'u')
    (h : escaped? letter = some c) : StandsFor ['\\', letter] c := by
  refine ⟨.char c, fun s => ?_, fun pieces => rfl⟩
  rw [List.cons_append, List.cons_append, List.nil_append, readPieces, h]
  · cases readPieces s <;> rfl
  · intro a b c d rest heq
    exact absurd heq hletter

theorem standsFor_unit {c : Char} (h : c.toNat < 0x20) :
    StandsFor ['\\', 'u', '0', '0', hexDigit (c.toNat / 16), hexDigit (c.toNat % 16)] c := by
  refine ⟨.unit c.toNat, fun s => ?_, joinPieces_unit h⟩
  rw [List.cons_append, List.cons_append, List.cons_append, List.cons_append, List.cons_append,
    List.cons_append, List.nil_append, readPieces, hexValue?_hexDigits c.toNat h]
  cases readPieces s <;> rfl

theorem standsFor_self {c : Char} (hquote : c ≠ '"') (hslash : c ≠ '\\')
    (h : ¬c.toNat < 0x20) : StandsFor [c] c := by
  refine ⟨.char c, fun s => ?_, fun pieces => rfl⟩
  rw [List.cons_append, List.nil_append, readPieces]
  · rw [if_neg (by simp [h, hslash])]
    cases readPieces s <;> rfl
  · exact hquote
  · intro a b c d rest heq
    exact absurd heq hslash
  · intro letter rest heq
    exact absurd heq hslash

theorem standsFor_writeChar (c : Char) : StandsFor (writeChar c) c := by
  unfold writeChar
  split_ifs with hquote hslash hb hf hn hr ht hunit
  · subst hquote
    exact standsFor_escape (by decide) rfl
  · subst hslash
    exact standsFor_escape (by decide) rfl
  · exact hb ▸ standsFor_escape (by decide) rfl
  · exact hf ▸ standsFor_escape (by decide) rfl
  · exact hn ▸ standsFor_escape (by decide) rfl
  · exact hr ▸ standsFor_escape (by decide) rfl
  · exact ht ▸ standsFor_escape (by decide) rfl
  · exact standsFor_unit hunit
  · exact standsFor_self hquote hslash hunit

theorem exists_pieces (text rest : List Char) :
    ∃ pieces, readPieces (text.flatMap writeChar ++ '"' :: rest) = some (pieces, rest) ∧
      joinPieces pieces = some text := by
  induction text with
  | nil => exact ⟨[], rfl, rfl⟩
  | cons c text ih =>
    obtain ⟨pieces, hread, hjoin⟩ := ih
    obtain ⟨piece, hpiece, hchar⟩ := standsFor_writeChar c
    refine ⟨piece :: pieces, ?_, ?_⟩
    · rw [List.flatMap_cons, List.append_assoc, hpiece, hread, Option.map_some]
    · rw [hchar, hjoin, Option.map_some]

/-- A string that was written is read back, whatever follows it. -/
theorem readString_writeString (text : String) (rest : List Char) :
    ∃ s, writeString text ++ rest = '"' :: s ∧ readString s = some (some text, rest) := by
  obtain ⟨pieces, hread, hjoin⟩ := exists_pieces text.toList rest
  refine ⟨text.toList.flatMap writeChar ++ '"' :: rest, ?_, ?_⟩
  · rw [writeString, List.append_assoc, List.cons_append, List.cons_append, List.nil_append]
  · rw [readString, hread]
    show some ((joinPieces pieces).map String.ofList, rest) = _
    rw [hjoin, Option.map_some, String.ofList_toList]

end TemplateEngine.Json
