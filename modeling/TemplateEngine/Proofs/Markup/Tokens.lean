import Mathlib.Data.List.TakeWhile
import TemplateEngine.Proofs.Markup.Grammar

/-! # Blanks, names and strings in a text

What the scanners of single tokens take from the front of a text, and what they leave. -/

namespace TemplateEngine.Markup

theorem Blanks.nil : Blanks [] := by
  intro c hc
  simp at hc

theorem Blanks.append {s t : List Char} (hs : Blanks s) (ht : Blanks t) : Blanks (s ++ t) := by
  intro c hc
  rcases List.mem_append.mp hc with hc | hc
  · exact hs c hc
  · exact ht c hc

theorem skipBlanks_append {blanks : List Char} (h : Blanks blanks) (s : List Char) :
    skipBlanks (blanks ++ s) = skipBlanks s :=
  List.dropWhile_append_of_pos h

theorem skipBlanks_cons {c : Char} (h : Unicode.isWhiteSpace c = false) (s : List Char) :
    skipBlanks (c :: s) = c :: s :=
  List.dropWhile_cons_of_neg (by simp [h])

theorem exists_blanks (s : List Char) : ∃ blanks, Blanks blanks ∧ s = blanks ++ skipBlanks s :=
  ⟨s.takeWhile Unicode.isWhiteSpace, fun _ hc => List.mem_takeWhile_imp hc,
    List.takeWhile_append_dropWhile.symm⟩

/-- The text neither goes on with a name nor glues anything to it. -/
def Ends (rest : List Char) : Prop :=
  ∀ c ∈ rest.head?, isIdentContinue c = false ∧ c ≠ '.' ∧ c ≠ '('

/-- The text goes on with what may stand after an expression with its filters. -/
def Closes (rest : List Char) : Prop :=
  ∃ c tail, rest = c :: tail ∧ (c = '\x7d' ∨ c = ')' ∨ c = ',')

theorem ends_cons {c : Char} (h : c ∈ signs) (hdot : c ≠ '.') (hparen : c ≠ '(')
    (s : List Char) : Ends (c :: s) := by
  rintro d hd
  obtain rfl : c = d := by simpa using hd
  exact ⟨not_isIdentContinue_of_mem_signs h, hdot, hparen⟩

theorem Ends.append_blanks {blanks s : List Char} (hb : Blanks blanks) (hs : Ends s) :
    Ends (blanks ++ s) := by
  cases blanks with
  | nil => exact hs
  | cons b blanks =>
    rintro d hd
    obtain rfl : b = d := by simpa using hd
    have hblank := hb b (by simp)
    refine ⟨isIdentContinue_of_isWhiteSpace hblank, ?_, ?_⟩
    · rintro rfl
      exact absurd hblank (by decide)
    · rintro rfl
      exact absurd hblank (by decide)

theorem Closes.ends {s : List Char} (h : Closes s) : Ends s := by
  rcases h with ⟨c, tail, rfl, rfl | rfl | rfl⟩
  all_goals exact ends_cons (by decide) (by decide) (by decide) tail

theorem Closes.skipBlanks_eq {s : List Char} (h : Closes s) : skipBlanks s = s := by
  rcases h with ⟨c, tail, rfl, rfl | rfl | rfl⟩
  all_goals exact skipBlanks_cons (by decide) tail

theorem IsIdent.isField {name : List Char} (h : IsIdent name) : IsField name := by
  obtain ⟨c, rest, rfl, hstart, hrest⟩ := h
  refine ⟨by simp, fun d hd => ?_⟩
  rcases List.mem_cons.mp hd with rfl | hd
  · exact isIdentContinue_of_isIdentStart hstart
  · exact hrest d hd

theorem takeIdent_append {name rest : List Char} (hname : IsField name)
    (hrest : ∀ c ∈ rest.head?, isIdentContinue c = false) :
    takeIdent (name ++ rest) = (String.ofList name, rest) := by
  have htake : rest.takeWhile isIdentContinue = [] := by
    cases rest with
    | nil => rfl
    | cons c rest => exact List.takeWhile_cons_of_neg (by simp [hrest c rfl])
  have hdrop : rest.dropWhile isIdentContinue = rest := by
    cases rest with
    | nil => rfl
    | cons c rest => exact List.dropWhile_cons_of_neg (by simp [hrest c rfl])
  simp only [takeIdent, List.takeWhile_append_of_pos hname.2, List.dropWhile_append_of_pos hname.2,
    htake, hdrop, List.append_nil]

/-- What is taken as a name is one, provided that its first character belongs to names. -/
theorem exists_takeIdent {c : Char} (hc : isIdentContinue c = true) (s : List Char) :
    ∃ chars, IsField (c :: chars) ∧ (takeIdent (c :: s)).1 = String.ofList (c :: chars) ∧
      c :: s = c :: chars ++ (takeIdent (c :: s)).2 := by
  simp only [takeIdent, List.takeWhile_cons_of_pos hc, List.dropWhile_cons_of_pos hc]
  refine ⟨s.takeWhile isIdentContinue, ⟨by simp, fun d hd => ?_⟩, rfl, by simp⟩
  rcases List.mem_cons.mp hd with rfl | hd
  · exact hc
  · exact List.mem_takeWhile_imp hd

theorem isIdent_of_isField {c : Char} {chars : List Char} (hc : isIdentStart c = true)
    (h : IsField (c :: chars)) : IsIdent (c :: chars) :=
  ⟨c, chars, rfl, hc, fun d hd => h.2 d (by simp [hd])⟩

theorem takeLabel?_append {name blanks : List Char} (hname : IsIdent name)
    (hblanks : Blanks blanks) (rest : List Char) :
    takeLabel? (name ++ (blanks ++ '=' :: rest)) = some (String.ofList name, rest) := by
  have hends : Ends (blanks ++ '=' :: rest) :=
    Ends.append_blanks hblanks (ends_cons (by decide) (by decide) (by decide) rest)
  have htake := takeIdent_append hname.isField fun c hc => (hends c hc).1
  obtain ⟨c, chars, rfl, hstart, -⟩ := hname
  simp only [List.cons_append] at htake
  simp only [takeLabel?, List.cons_append, hstart, if_true, htake, skipBlanks_append hblanks,
    skipBlanks_cons (c := '=') (by decide)]

theorem exists_of_takeLabel? {s rest : List Char} {name : String}
    (h : takeLabel? s = some (name, rest)) :
    ∃ chars blanks, IsIdent chars ∧ Blanks blanks ∧ name = String.ofList chars ∧
      s = chars ++ (blanks ++ '=' :: rest) := by
  cases s with
  | nil => simp [takeLabel?] at h
  | cons c s =>
    simp only [takeLabel?] at h
    split_ifs at h with hstart
    obtain ⟨chars, hfield, hname, hs⟩ :=
      exists_takeIdent (isIdentContinue_of_isIdentStart hstart) s
    obtain ⟨blanks, hblanks, hskip⟩ := exists_blanks (takeIdent (c :: s)).2
    split at h
    · next rest' heq =>
      simp only [Option.some.injEq, Prod.mk.injEq] at h
      obtain ⟨rfl, rfl⟩ := h
      rw [heq] at hskip
      refine ⟨c :: chars, blanks, isIdent_of_isField hstart hfield, hblanks, hname, ?_⟩
      rw [← hskip]
      exact hs
    · simp at h

theorem scanString_append {quote : Char} {text rest : List Char} (hmem : quote ∉ text) :
    scanString quote (text ++ quote :: rest) = .ok (.content (String.ofList text), rest) := by
  have hall : ∀ c ∈ text, decide (c ≠ quote) = true := by
    intro c hc
    simp only [decide_eq_true_eq]
    rintro rfl
    exact hmem hc
  simp only [scanString, List.dropWhile_append_of_pos hall, List.takeWhile_append_of_pos hall,
    List.dropWhile_cons, List.takeWhile_cons]
  simp

theorem exists_of_scanString {quote : Char} {s rest : List Char} {expr : Expr}
    (h : scanString quote s = .ok (expr, rest)) :
    ∃ text, quote ∉ text ∧ expr = .content (String.ofList text) ∧ s = text ++ quote :: rest := by
  simp only [scanString] at h
  split at h
  · simp at h
  · next c rest' heq =>
    simp only [Except.ok.injEq, Prod.mk.injEq] at h
    obtain ⟨rfl, rfl⟩ := h
    have hc : c = quote := by
      have hnot := List.head?_dropWhile_not (fun c => decide (c ≠ quote)) s
      rw [heq] at hnot
      simpa using hnot
    subst hc
    refine ⟨s.takeWhile (· ≠ c), fun hmem => ?_, rfl, ?_⟩
    · simpa using List.mem_takeWhile_imp hmem
    · rw [← heq]
      exact List.takeWhile_append_dropWhile.symm

end TemplateEngine.Markup
