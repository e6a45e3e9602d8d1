import TemplateEngine.Files.Tree
import TemplateEngine.Proofs.Dict
import TemplateEngine.Proofs.Except

/-! # Laws of trees of files

What is put into a tree is found where it was put, and nothing else changes. A file that was written
is read again, and all other files are still there. -/

namespace TemplateEngine.FileTree

def file? (tree : FileTree) (names : List String) : Option ByteArray :=
  match tree.find? names with
  | some (.file content) => some content
  | _ => none

/-- The second tree holds the files that the first holds. -/
def SameFiles (tree tree' : FileTree) : Prop :=
  ∀ names, tree'.file? names = tree.file? names

theorem SameFiles.refl (tree : FileTree) : SameFiles tree tree := fun _ => rfl

theorem SameFiles.trans {tree tree' tree'' : FileTree} (h : SameFiles tree tree')
    (h' : SameFiles tree' tree'') : SameFiles tree tree'' :=
  fun names => (h' names).trans (h names)

section

variable {tree : FileTree}

theorem find?_append (tree : FileTree) (names others : List String) :
    tree.find? (names ++ others) = (tree.find? names).bind (·.find? others) := by
  induction names generalizing tree with
  | nil => rfl
  | cons name names ih =>
    cases tree with
    | file content => rfl
    | directory entries =>
      rw [List.cons_append, find?, find?]
      cases Dict.find? entries name with
      | none => rfl
      | some tree => exact ih tree

theorem isDirectoryAt_iff {names : List String} :
    tree.isDirectoryAt names = true ↔ ∃ entries, tree.find? names = some (.directory entries) := by
  unfold isDirectoryAt
  constructor
  · intro h
    split at h
    · next entries hfind => exact ⟨entries, hfind⟩
    · cases h
  · rintro ⟨entries, hfind⟩
    rw [hfind]

theorem isDirectoryAt_nil (h : tree.isDirectoryAt [] = true) :
    ∃ entries, tree = .directory entries := by
  obtain ⟨entries, hfind⟩ := isDirectoryAt_iff.mp h
  exact ⟨entries, Option.some.inj hfind⟩

/-- A directory below a name lies in a directory with that name. -/
theorem isDirectoryAt_cons {name : String} {names : List String}
    (h : tree.isDirectoryAt (name :: names) = true) :
    ∃ entries inner, tree = .directory entries ∧ Dict.find? entries name = some inner ∧
      inner.isDirectoryAt names = true := by
  obtain ⟨found, hfind⟩ := isDirectoryAt_iff.mp h
  cases tree with
  | file content => cases hfind
  | directory entries =>
    rw [find?] at hfind
    cases hinner : Dict.find? entries name with
    | none =>
      rw [hinner] at hfind
      cases hfind
    | some inner =>
      rw [hinner] at hfind
      exact ⟨entries, inner, rfl, hinner, isDirectoryAt_iff.mpr ⟨found, hfind⟩⟩

theorem file?_of_isDirectoryAt {names : List String} (h : tree.isDirectoryAt names = true) :
    tree.file? names = none := by
  obtain ⟨entries, hfind⟩ := isDirectoryAt_iff.mp h
  rw [file?, hfind]

end

theorem find?_put_cons (new : FileTree) (entries : List (String × FileTree)) (name other : String)
    (names others : List String) :
    (put new (name :: names) (.directory entries)).find? (other :: others) =
      if other = name then
        (put new names ((Dict.find? entries name).getD empty)).find? others
      else (directory entries).find? (other :: others) := by
  rw [put, find?, find?]
  split_ifs with heq
  · subst heq
    rw [Dict.find?_insert_self]
  · rw [Dict.find?_insert_of_ne heq]

section

variable {new tree : FileTree} {names : List String} {name : String}

/-- What is put into a directory is found there. -/
theorem find?_put_append (h : tree.isDirectoryAt names = true) (others : List String) :
    (put new (names ++ [name]) tree).find? (names ++ name :: others) = new.find? others := by
  induction names generalizing tree with
  | nil =>
    obtain ⟨entries, rfl⟩ := isDirectoryAt_nil h
    rw [List.nil_append, List.nil_append, find?_put_cons, if_pos rfl]
    rfl
  | cons first names ih =>
    obtain ⟨entries, inner, rfl, hfind, hinner⟩ := isDirectoryAt_cons h
    rw [List.cons_append, List.cons_append, find?_put_cons, if_pos rfl, hfind]
    exact ih hinner

/-- Elsewhere there is what was there before, unless it is a directory, which stays one. -/
theorem find?_put_of_not_prefix (h : tree.isDirectoryAt names = true) {others : List String}
    (hothers : ¬names ++ [name] <+: others) :
    (tree.isDirectoryAt others = true ∧
        (put new (names ++ [name]) tree).isDirectoryAt others = true) ∨
      (put new (names ++ [name]) tree).find? others = tree.find? others := by
  induction names generalizing tree others with
  | nil =>
    obtain ⟨entries, rfl⟩ := isDirectoryAt_nil h
    cases others with
    | nil => exact .inl ⟨rfl, rfl⟩
    | cons other others =>
      have hne : other ≠ name := by
        rintro rfl
        exact hothers (List.prefix_append [other] others)
      rw [List.nil_append, find?_put_cons, if_neg hne]
      exact .inr rfl
  | cons first names ih =>
    obtain ⟨entries, inner, rfl, hfind, hinner⟩ := isDirectoryAt_cons h
    cases others with
    | nil => exact .inl ⟨rfl, rfl⟩
    | cons other others =>
      rw [List.cons_append] at hothers ⊢
      by_cases heq : other = first
      · subst heq
        have hrest : ¬names ++ [name] <+: others :=
          fun hprefix => hothers (List.cons_prefix_cons.mpr ⟨rfl, hprefix⟩)
        have hbefore : (directory entries).find? (other :: others) = inner.find? others := by
          rw [find?, hfind]
        have hafter : (put new (other :: (names ++ [name])) (.directory entries)).find?
            (other :: others) = (put new (names ++ [name]) inner).find? others := by
          rw [find?_put_cons, if_pos rfl, hfind]
          rfl
        rw [isDirectoryAt, isDirectoryAt, hbefore, hafter]
        exact ih hinner hrest
      · rw [find?_put_cons, if_neg heq]
        exact .inr rfl

/-- The names lead to a directory, in which no directory has the name. -/
structure IsVacant (tree : FileTree) (names : List String) (name : String) : Prop where
  inside : tree.isDirectoryAt names = true
  free : tree.isDirectoryAt (names ++ [name]) = false

/-- Below a place without a directory there is nothing. -/
theorem IsVacant.find?_eq_none (h : tree.IsVacant names name) (other : String)
    (others : List String) : tree.find? (names ++ name :: other :: others) = none := by
  have hplace : names ++ name :: other :: others = names ++ [name] ++ other :: others := by simp
  rw [hplace, find?_append]
  cases hfind : tree.find? (names ++ [name]) with
  | none => rfl
  | some found =>
    cases found with
    | file content => rfl
    | directory entries =>
      have hdirectory := isDirectoryAt_iff.mpr ⟨entries, hfind⟩
      rw [h.free] at hdirectory
      cases hdirectory

/-- What can be put in place of a file: a file, or a directory without entries. -/
def IsBare (new : FileTree) : Prop :=
  ∀ name names, new.find? (name :: names) = none

theorem isBare_file (content : ByteArray) : IsBare (.file content) := fun _ _ => rfl

theorem isBare_empty : IsBare empty := fun _ _ => rfl

/-- What is found once something bare was put where no directory is: what was put, or what was there
before, be it as a directory that has one entry more. -/
inductive IsVacant.FoundAfterPut (new tree after : FileTree) (place others : List String) : Prop
  | here (hplace : others = place) (hfind : after.find? others = some new)
  | directory (hplace : others ≠ place) (hbefore : tree.isDirectoryAt others = true)
      (hafter : after.isDirectoryAt others = true)
  | same (hplace : others ≠ place) (hfind : after.find? others = tree.find? others)

theorem IsVacant.find?_put (h : tree.IsVacant names name) (hnew : new.IsBare)
    (others : List String) :
    FoundAfterPut new tree (put new (names ++ [name]) tree) (names ++ [name]) others := by
  by_cases hprefix : names ++ [name] <+: others
  · obtain ⟨below, rfl⟩ := hprefix
    rw [List.append_assoc, List.singleton_append]
    cases below with
    | nil => exact .here rfl (find?_put_append h.inside [])
    | cons other below =>
      have hne : names ++ name :: other :: below ≠ names ++ [name] := by simp
      exact .same hne (by rw [find?_put_append h.inside, hnew, h.find?_eq_none])
  · have hne : others ≠ names ++ [name] := fun heq => hprefix (heq ▸ List.prefix_rfl)
    obtain ⟨hbefore, hafter⟩ | hsame := find?_put_of_not_prefix h.inside hprefix
    · exact .directory hne hbefore hafter
    · exact .same hne hsame

/-- A put changes the files at its place alone. -/
theorem IsVacant.file?_put (h : tree.IsVacant names name) (hnew : new.IsBare)
    (others : List String) :
    (put new (names ++ [name]) tree).file? others =
      if others = names ++ [name] then new.file? [] else tree.file? others := by
  cases h.find?_put hnew others with
  | here hplace hfind => rw [if_pos hplace, file?, hfind, file?, find?]
  | directory hplace hbefore hafter =>
    rw [if_neg hplace, file?_of_isDirectoryAt hbefore, file?_of_isDirectoryAt hafter]
  | same hplace hfind => rw [if_neg hplace, file?, file?, hfind]

/-- All that was there is still there, and directories are directories. -/
structure Extends (tree tree' : FileTree) : Prop where
  directory : ∀ names, tree.isDirectoryAt names = true → tree'.isDirectoryAt names = true
  isSome : ∀ names, (tree.find? names).isSome → (tree'.find? names).isSome

theorem IsVacant.extends_put (h : tree.IsVacant names name) (hnew : new.IsBare) :
    tree.Extends (put new (names ++ [name]) tree) where
  directory others hothers := by
    cases h.find?_put hnew others with
    | here hplace _ =>
      rw [hplace, h.free] at hothers
      cases hothers
    | directory _ _ hafter => exact hafter
    | same _ hfind => rwa [isDirectoryAt, hfind]
  isSome others hothers := by
    cases h.find?_put hnew others with
    | here _ hfind => rw [hfind, Option.isSome_some]
    | directory _ _ hafter =>
      obtain ⟨entries, hfind⟩ := isDirectoryAt_iff.mp hafter
      rw [hfind, Option.isSome_some]
    | same _ hfind => rwa [hfind]

end

theorem enter_of_isDirectoryAt {tree : FileTree} {names : List String}
    (h : tree.isDirectoryAt names = true) (step : String) :
    tree.enter names step =
      if step = "." then .ok names
      else if step = ".." then .ok names.dropLast
      else if nameLimit < step.utf8ByteSize then .error .nameTooLong
      else if (tree.find? (names ++ [step])).isSome then .ok (names ++ [step])
      else .error .notFound := by
  rw [enter, h]
  rfl

/-- Steps lead on from directories alone. -/
theorem isDirectoryAt_of_enter {tree : FileTree} {names reached : List String} {step : String}
    (h : tree.enter names step = .ok reached) : tree.isDirectoryAt names = true := by
  unfold enter at h
  cases hdirectory : tree.isDirectoryAt names with
  | true => rfl
  | false =>
    rw [hdirectory] at h
    cases h

namespace Extends

variable {tree tree' : FileTree} {names reached : List String}

theorem enter (h : tree.Extends tree') {step : String}
    (henter : tree.enter names step = .ok reached) : tree'.enter names step = .ok reached := by
  have hdirectory := isDirectoryAt_of_enter henter
  rw [enter_of_isDirectoryAt hdirectory] at henter
  rw [enter_of_isDirectoryAt (h.directory names hdirectory), ← henter]
  split_ifs at henter with hpoint hback hlong hfound
  · rw [if_pos hpoint, if_pos hpoint]
  · rw [if_neg hpoint, if_neg hpoint, if_pos hback, if_pos hback]
  · simp only [if_neg hpoint, if_neg hback, if_neg hlong, if_pos hfound,
      if_pos (h.isSome _ hfound)]

/-- Every way that leads somewhere still leads there. -/
theorem walk (h : tree.Extends tree') {steps : List String}
    (hwalk : tree.walk names steps = .ok reached) : tree'.walk names steps = .ok reached := by
  induction steps generalizing names with
  | nil => exact hwalk
  | cons step steps ih =>
    rw [FileTree.walk, List.foldlM_cons] at hwalk ⊢
    obtain ⟨between, henter, hwalk⟩ := exists_of_bind_eq_ok hwalk
    rw [h.enter henter, ok_bind]
    exact ih hwalk

/-- A place stays where it is. -/
theorem place (h : tree.Extends tree') {here : List String} {path : String}
    {placed : List String × Option String} (hplace : tree.place here path = .ok placed) :
    tree'.place here path = .ok placed := by
  rw [FileTree.place] at hplace ⊢
  obtain ⟨⟨start, steps⟩, hstart, hplace⟩ := exists_of_bind_eq_ok hplace
  obtain ⟨reached, hwalk, hplace⟩ := exists_of_bind_eq_ok hplace
  split_ifs at hplace with hdirectory
  have hreached := h.directory reached (by simpa using hdirectory)
  rw [hstart, ok_bind]
  dsimp only
  rw [h.walk hwalk, ok_bind, hreached, ← hplace]
  rfl

end Extends

section

variable {here : List String} {path : String} {tree tree' : FileTree}

/-- Where a path leads, its steps but the last lead into a directory. -/
theorem place_eq_ok {names : List String} {name : String}
    (h : tree.place here path = .ok (names, some name)) :
    ∃ start steps, FileTree.start here path = .ok (start, steps ++ [name]) ∧
      tree.walk start steps = .ok names ∧ tree.isDirectoryAt names = true ∧
      name ≠ "." ∧ name ≠ ".." := by
  rw [place] at h
  obtain ⟨⟨start, steps⟩, hstart, h⟩ := exists_of_bind_eq_ok h
  obtain ⟨reached, hwalk, h⟩ := exists_of_bind_eq_ok h
  split_ifs at h with hdirectory
  obtain ⟨rfl, hname⟩ := Prod.mk.inj (Except.ok.inj h)
  obtain ⟨hlast, hplain⟩ := Option.filter_eq_some_iff.mp hname
  have hsteps : steps.dropLast ++ [name] = steps := by
    obtain ⟨before, rfl⟩ := List.getLast?_eq_some_iff.mp hlast
    rw [List.dropLast_concat]
  refine ⟨start, steps.dropLast, hsteps.symm ▸ hstart, hwalk, ?_, ?_⟩
  · simpa using hdirectory
  · simpa using hplain

/-- The names of a place that a path leads to, where there is a file or nothing yet. -/
def LeadsTo (here : List String) (path : String) (tree : FileTree) (names : List String) : Prop :=
  ∃ directory name, tree.place here path = .ok (directory, some name) ∧
    names = directory ++ [name]

theorem write_eq_ok {content : ByteArray} (h : tree.write here path content = .ok tree') :
    ∃ names name, tree.place here path = .ok (names, some name) ∧
      Path.asksDirectory path = false ∧ name.utf8ByteSize ≤ nameLimit ∧
      tree.isDirectoryAt (names ++ [name]) = false ∧
      tree' = put (.file content) (names ++ [name]) tree := by
  rw [write] at h
  obtain ⟨⟨names, name⟩, hplace, h⟩ := exists_of_bind_eq_ok h
  cases name with
  | none => cases h
  | some name =>
    dsimp only at h
    split_ifs at h with hasks hlong hdirectory
    exact ⟨names, name, hplace, by simpa using hasks, Nat.not_lt.mp hlong,
      by simpa using hdirectory, (Except.ok.inj h).symm⟩

/-- A file is read where a path leads to it. -/
theorem read_of_place {content : ByteArray} {names : List String} {name : String}
    (hplace : tree.place here path = .ok (names, some name))
    (hasks : Path.asksDirectory path = false) (hlong : name.utf8ByteSize ≤ nameLimit)
    (hfind : tree.find? (names ++ [name]) = some (.file content)) :
    tree.read here path = .ok content := by
  obtain ⟨start, steps, hstart, hwalk, hinside, hpoint, hback⟩ := place_eq_ok hplace
  have henter : tree.enter names name = .ok (names ++ [name]) := by
    rw [enter_of_isDirectoryAt hinside, if_neg hpoint, if_neg hback,
      if_neg (Nat.not_lt.mpr hlong), hfind]
    rfl
  have hwalk' : tree.walk start (steps ++ [name]) = .ok (names ++ [name]) := by
    rw [walk] at hwalk ⊢
    rw [List.foldlM_append, hwalk, ok_bind, List.foldlM_cons, henter]
    rfl
  rw [read, hstart, ok_bind]
  dsimp only
  rw [hwalk', ok_bind, hfind]
  simp only [hasks, Bool.false_eq_true, if_false]

/-- A file that was written is read again, and all other files are as they were. -/
theorem of_write_eq_ok {content : ByteArray} (h : tree.write here path content = .ok tree') :
    tree'.read here path = .ok content ∧
      ∃ names, LeadsTo here path tree' names ∧ tree'.file? names = some content ∧
        ∀ others, others ≠ names → tree'.file? others = tree.file? others := by
  obtain ⟨names, name, hplace, hasks, hlong, hdirectory, rfl⟩ := write_eq_ok h
  obtain ⟨-, -, -, -, hinside, -⟩ := place_eq_ok hplace
  have hvacant : tree.IsVacant names name := ⟨hinside, hdirectory⟩
  have hplace' := (hvacant.extends_put (isBare_file content)).place hplace
  have hfind : (put (.file content) (names ++ [name]) tree).find? (names ++ [name]) =
      some (.file content) := find?_put_append hinside []
  refine ⟨read_of_place hplace' hasks hlong hfind, names ++ [name], ⟨names, name, hplace', rfl⟩,
    by rw [file?, hfind], fun others hne => ?_⟩
  rw [hvacant.file?_put (isBare_file content), if_neg hne]

/-- A directory that is created adds no file. -/
theorem sameFiles_of_createDirectory (h : tree.createDirectory here path = .ok tree') :
    SameFiles tree tree' := by
  rw [createDirectory] at h
  obtain ⟨⟨names, name⟩, hplace, h⟩ := exists_of_bind_eq_ok h
  cases name with
  | none => cases h
  | some name =>
    dsimp only at h
    split_ifs at h with hlong hsome
    obtain rfl := Except.ok.inj h
    obtain ⟨-, -, -, -, hinside, -⟩ := place_eq_ok hplace
    have hnone : tree.find? (names ++ [name]) = none := by simpa using hsome
    have hfree : tree.isDirectoryAt (names ++ [name]) = false := by
      rw [isDirectoryAt, hnone]
    intro others
    rw [(IsVacant.mk hinside hfree).file?_put isBare_empty]
    split_ifs with heq
    · subst heq
      rw [file?, file?, hnone]
      rfl
    · rfl

end

end TemplateEngine.FileTree
