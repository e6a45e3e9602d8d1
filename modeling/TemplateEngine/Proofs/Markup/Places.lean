import TemplateEngine.Proofs.Markup.Parsing

/-! # Places in markup

While markup is read, places are the texts from there on. Whatever a scanner leaves, and wherever it
finds an error, is a rest of the text that it was given or else the tag that it is in. -/

namespace TemplateEngine

namespace MarkupError

variable {Place Other : Type}

def places : MarkupError Place → List Place
  | .unclosedTag opened _ place => [opened, place]
  | error => [error.place]

theorem map_congr {f g : Place → Other} {error : MarkupError Place}
    (h : ∀ place ∈ error.places, f place = g place) : error.map f = error.map g := by
  cases error with
  | unclosedTag opened found place =>
    have hopened : f opened = g opened := h opened (by simp [places])
    have hplace : f place = g place := h place (by simp [places])
    rw [map, map, hopened, hplace]
  | _ =>
    have hplace := h _ (List.mem_singleton_self _)
    simp only [place] at hplace
    simp only [map, hplace]

theorem map_map {Third : Type} (f : Place → Other) (g : Other → Third)
    (error : MarkupError Place) : (error.map f).map g = error.map fun place => g (f place) := by
  cases error <;> rfl

end MarkupError

namespace Markup

/-- Every place of the error is a rest of the text, or the tag that was opened before it. -/
def Within (opened s : List Char) (error : MarkupError (List Char)) : Prop :=
  ∀ place ∈ error.places, place = opened ∨ place <:+ s

/-- What a scanner comes to on a text: it leaves a rest of it, or finds an error within it. -/
inductive Stays {α : Type} (opened s : List Char) :
    Except (MarkupError (List Char)) (α × List Char) → Prop
  | ok {a : α} {rest : List Char} (h : rest <:+ s) : Stays opened s (.ok (a, rest))
  | error {error : MarkupError (List Char)} (h : Within opened s error) :
      Stays opened s (.error error)

section

variable {opened s t : List Char} {α β : Type}

theorem within_of_places {error : MarkupError (List Char)} (hplaces : error.places = [t])
    (h : t <:+ s) : Within opened s error := by
  intro place hmem
  rw [hplaces] at hmem
  exact Or.inr (List.mem_singleton.mp hmem ▸ h)

theorem within_unclosed (h : t <:+ s) : Within opened s (unclosed opened t) := by
  intro place hmem
  rcases List.mem_cons.mp hmem with rfl | hmem
  · exact Or.inl rfl
  · exact Or.inr (List.mem_singleton.mp hmem ▸ h)

theorem Within.mono {error : MarkupError (List Char)} (h : Within opened t error) (ht : t <:+ s) :
    Within opened s error :=
  fun place hmem => (h place hmem).imp_right (·.trans ht)

namespace Stays

theorem mono {result : Except (MarkupError (List Char)) (α × List Char)}
    (h : Stays opened t result) (ht : t <:+ s) : Stays opened s result := by
  cases h with
  | ok hrest => exact .ok (hrest.trans ht)
  | error hwithin => exact .error (hwithin.mono ht)

/-- What follows a scanner may stay in the text that it leaves. -/
theorem bind {result : Except (MarkupError (List Char)) (α × List Char)}
    {next : α × List Char → Except (MarkupError (List Char)) (β × List Char)}
    (h : Stays opened s result)
    (hnext : ∀ a rest, rest <:+ s → Stays opened s (next (a, rest))) :
    Stays opened s (result >>= next) := by
  cases h with
  | ok hrest => exact hnext _ _ hrest
  | error hwithin => exact .error hwithin

theorem of_leaves {result : Except (MarkupError (List Char)) (α × List Char)} {a : α}
    {rest : List Char} (h : Stays opened s result) (hresult : result = .ok (a, rest)) :
    rest <:+ s := by
  subst hresult
  cases h with
  | ok hrest => exact hrest

theorem of_fails {result : Except (MarkupError (List Char)) (α × List Char)}
    {error : MarkupError (List Char)} (h : Stays opened s result)
    (hresult : result = .error error) : Within opened s error := by
  subst hresult
  cases h with
  | error hwithin => exact hwithin

end Stays

theorem skipBlanks_suffix (s : List Char) : skipBlanks s <:+ s :=
  List.dropWhile_suffix _

theorem suffix_of_skipBlanks_eq_cons {c : Char} (h : skipBlanks s = c :: t) : t <:+ s :=
  (List.suffix_cons c t).trans (h ▸ skipBlanks_suffix s)

theorem takeIdent_suffix (s : List Char) : (takeIdent s).2 <:+ s :=
  List.dropWhile_suffix _

theorem takeLabel?_suffix {name : String} (h : takeLabel? s = some (name, t)) : t <:+ s := by
  obtain ⟨chars, blanks, -, -, -, rfl⟩ := exists_of_takeLabel? h
  exact ⟨chars ++ (blanks ++ ['=']), by simp⟩

end

def Reads {α : Type} (opened : List Char) (scan : Scanner α) : Prop :=
  ∀ s, Stays opened s (scan s)

section

variable {opened : List Char}

theorem stays_scanString (quote : Char) (s : List Char) :
    Stays opened (quote :: s) (scanString quote s) := by
  unfold scanString
  split
  · exact .error (within_of_places rfl List.suffix_rfl)
  · next c rest heq =>
    have hrest : c :: rest <:+ s := heq ▸ List.dropWhile_suffix _
    exact .ok ((List.suffix_cons c rest).trans (hrest.trans (List.suffix_cons quote s)))

theorem reads_scanPrimary {glued : String → Scanner Expr} (h : ∀ name, Reads opened (glued name)) :
    Reads opened (scanPrimary opened glued) := by
  intro s
  have hblanks := skipBlanks_suffix s
  unfold scanPrimary
  split
  · exact .error (within_unclosed List.nil_suffix)
  · next c tail heq =>
    rw [heq] at hblanks
    split_ifs
    · exact (h _ _).mono ((takeIdent_suffix (c :: tail)).trans hblanks)
    · exact (stays_scanString c tail).mono hblanks
    · exact .error (within_of_places rfl hblanks)

theorem reads_scanFilters {primary : Scanner Expr} (h : Reads opened primary) (fuel : Nat)
    (expr : Expr) : Reads opened (scanFilters primary fuel expr) := by
  induction fuel generalizing expr with
  | zero => exact fun s => .ok (skipBlanks_suffix s)
  | succ fuel ih =>
    intro s
    unfold scanFilters
    split
    · next tail heq =>
      have hstart : skipBlanks tail <:+ s :=
        (skipBlanks_suffix tail).trans (suffix_of_skipBlanks_eq_cons heq)
      refine ((h _).mono hstart).bind fun filter rest hrest => ?_
      cases filter with
      | var name => exact (ih _ rest).mono hrest
      | _ => exact .error (within_of_places rfl hstart)
    · exact .ok (skipBlanks_suffix s)

theorem reads_scanChain {primary : Scanner Expr} (h : Reads opened primary) :
    Reads opened (scanChain primary) := fun s =>
  (h s).bind fun expr rest hrest => (reads_scanFilters h rest.length expr rest).mono hrest

theorem reads_scanArgument {chain : Scanner Expr} (h : Reads opened chain) :
    Reads opened (scanArgument chain) := by
  intro s
  unfold scanArgument
  cases hlabel : takeLabel? s with
  | none => exact (h s).bind fun expr rest hrest => .ok hrest
  | some label =>
    obtain ⟨name, tail⟩ := label
    exact ((h tail).mono (takeLabel?_suffix hlabel)).bind fun expr rest hrest => .ok hrest

theorem reads_scanArguments {chain : Scanner Expr} (h : Reads opened chain) (fuel : Nat)
    (prior : List Argument) : Reads opened (scanArguments opened chain fuel prior) := by
  induction fuel generalizing prior with
  | zero => exact fun s => .error (within_unclosed List.suffix_rfl)
  | succ fuel ih =>
    intro s
    have hstart := skipBlanks_suffix s
    refine ((reads_scanArgument h _).mono hstart).bind fun arg rest hrest => ?_
    dsimp only
    split
    · exact .error (within_of_places rfl hstart)
    · have hblanks := (skipBlanks_suffix rest).trans hrest
      split
      · next heq => exact .ok ((suffix_of_skipBlanks_eq_cons heq).trans hrest)
      · next heq => exact (ih _ _).mono ((suffix_of_skipBlanks_eq_cons heq).trans hrest)
      · exact .error (within_unclosed List.nil_suffix)
      · next heq => exact .error (within_of_places rfl (heq ▸ hblanks))

theorem reads_scanCall {chain : Scanner Expr} (h : Reads opened chain) :
    Reads opened (scanCall opened chain) := by
  intro s
  unfold scanCall
  split
  · next heq => exact .ok (suffix_of_skipBlanks_eq_cons heq)
  · exact (reads_scanArguments h _ [] _).mono (skipBlanks_suffix s)

theorem reads_scanGlued (levels : Nat) (name : String) :
    Reads opened (scanGlued opened levels name) := by
  induction levels generalizing name with
  | zero =>
    intro s
    unfold scanGlued
    split
    · exact .error (within_of_places rfl (List.suffix_cons _ _))
    · exact .error (within_of_places rfl (List.suffix_cons _ _))
    · next heq => simp at heq
    · next heq => simp at heq
    · exact .ok List.suffix_rfl
  | succ levels ih =>
    intro s
    unfold scanGlued
    split
    · exact .error (within_of_places rfl (List.suffix_cons _ _))
    · exact .error (within_of_places rfl (List.suffix_cons _ _))
    · next inner tail heq =>
      obtain rfl : levels = inner := by simpa using heq
      split
      · exact .error (within_unclosed List.nil_suffix)
      · next c tail =>
        have hfield := (takeIdent_suffix (c :: tail)).trans (List.suffix_cons '.' (c :: tail))
        split_ifs
        · exact ((ih _ _).mono hfield).bind fun accessor rest hrest => .ok hrest
        · exact .error (within_of_places rfl (List.suffix_cons _ _))
    · next inner tail heq =>
      obtain rfl : levels = inner := by simpa using heq
      have hcall := reads_scanCall (reads_scanChain (reads_scanPrimary ih))
      exact ((hcall tail).mono (List.suffix_cons _ _)).bind fun args rest hrest => .ok hrest
    · exact .ok List.suffix_rfl

theorem reads_scanExpression : Reads opened (scanExpression opened) :=
  reads_scanChain (reads_scanPrimary (reads_scanGlued maxNesting))

end

theorem reads_scanDisplay (opened : List Char) : Reads opened (scanDisplay opened) := by
  intro s
  refine (reads_scanExpression s).bind fun expr rest hrest => ?_
  have hblanks := (skipBlanks_suffix rest).trans hrest
  dsimp only
  split
  · next tail heq =>
    rw [heq] at hblanks
    exact .ok (List.IsSuffix.trans ⟨['\x7d', '\x7d'], rfl⟩ hblanks)
  · exact .error (within_unclosed hblanks)

theorem reads_scanTag (opened : List Char) : Reads opened (scanTag opened) := by
  have hopened : ∀ {s : List Char} {error : MarkupError (List Char)}, error.places = [opened] →
      Within opened s error := by
    intro s error hplaces place hmem
    rw [hplaces] at hmem
    exact Or.inl (List.mem_singleton.mp hmem)
  intro s
  unfold scanTag
  split
  · next c rest => exact (reads_scanDisplay opened rest).mono ⟨[c, '\x7b'], rfl⟩
  · next c rest =>
    split
    · next text tail heq =>
      obtain ⟨rfl, -⟩ := takeComment?_eq_some_iff.mp heq
      exact .ok ⟨c :: '#' :: (text ++ ['#', '\x7d']), by simp⟩
    · exact .error (hopened rfl)
  · exact .error (hopened rfl)

theorem scanNodes_within {fuel : Nat} {s : List Char} {error : MarkupError (List Char)}
    (h : scanNodes fuel s = .error error) : ∀ place ∈ error.places, place <:+ s := by
  induction fuel generalizing s with
  | zero =>
    rw [scanNodes_zero] at h
    cases h
  | succ fuel ih =>
    obtain ⟨hcut, -⟩ | ⟨raw, tag, hcut, rfl, -, htag⟩ := takeRaw_cases s
    · rw [scanNodes_of_nil hcut] at h
      cases h
    · have hsuffix : tag <:+ raw ++ tag := List.suffix_append raw tag
      rw [scanNodes_of_tag hcut htag.ne_nil] at h
      intro place hmem
      obtain hscan | ⟨⟨node, rest⟩, hscan, h⟩ := bind_eq_error h
      · rcases (reads_scanTag tag tag).of_fails hscan place hmem with rfl | hplace
        · exact hsuffix
        · exact hplace.trans hsuffix
      · obtain hnodes | ⟨nodes, -, h⟩ := bind_eq_error h
        · have hrest := (reads_scanTag tag tag).of_leaves hscan
          exact (ih hnodes place hmem).trans (hrest.trans hsuffix)
        · cases h

end Markup

end TemplateEngine
