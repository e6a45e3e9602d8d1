import Mathlib.Logic.Basic

/-! # Computations that may fail -/

namespace TemplateEngine

variable {ε α β : Type}

theorem ok_bind (a : α) (f : α → Except ε β) : (Except.ok a >>= f) = f a := rfl

theorem exists_of_bind_eq_ok {x : Except ε α} {f : α → Except ε β} {b : β}
    (h : x >>= f = .ok b) : ∃ a, x = .ok a ∧ f a = .ok b := by
  cases x with
  | error error => cases h
  | ok a => exact ⟨a, rfl, h⟩

theorem bind_eq_error {x : Except ε α} {f : α → Except ε β} {error : ε}
    (h : x >>= f = .error error) : x = .error error ∨ ∃ a, x = .ok a ∧ f a = .error error := by
  cases x with
  | error other => exact Or.inl (congrArg Except.error (Except.error.inj h))
  | ok a => exact Or.inr ⟨a, rfl, h⟩

theorem exists_of_mapError_eq_error {δ : Type} {x : Except δ α} {f : δ → ε} {error : ε}
    (h : x.mapError f = .error error) : ∃ d, x = .error d ∧ error = f d := by
  cases x with
  | error d => exact ⟨d, rfl, (Except.error.inj h).symm⟩
  | ok a => cases h

theorem bind_ne_error {x : Except ε α} {f : α → Except ε β} {error : ε} (hx : x ≠ .error error)
    (hf : ∀ a, f a ≠ .error error) : x >>= f ≠ .error error := by
  cases x with
  | error other => exact fun h => hx (congrArg Except.error (Except.error.inj h))
  | ok a => exact hf a

theorem mapError_ne_error {δ : Type} {x : Except δ α} {f : δ → ε} {error : ε}
    (hf : ∀ d, f d ≠ error) : x.mapError f ≠ .error error := by
  cases x with
  | error other => exact fun h => hf other (Except.error.inj h)
  | ok a => exact nofun

/-- Steps in turn fail where one of them fails after those before it have succeeded. -/
theorem foldlM_eq_error_iff {f : β → α → Except ε β} {as : List α} {b : β} {error : ε} :
    as.foldlM f b = .error error ↔ ∃ before a after reached, as = before ++ a :: after ∧
      before.foldlM f b = .ok reached ∧ f reached a = .error error := by
  constructor
  · intro h
    induction as generalizing b with
    | nil => cases h
    | cons a as ih =>
      rw [List.foldlM_cons] at h
      rcases bind_eq_error h with hfirst | ⟨next, hfirst, hrest⟩
      · exact ⟨[], a, as, b, rfl, rfl, hfirst⟩
      · obtain ⟨before, later, after, reached, rfl, hbefore, hlater⟩ := ih hrest
        refine ⟨a :: before, later, after, reached, rfl, ?_, hlater⟩
        rw [List.foldlM_cons, hfirst]
        exact hbefore
  · rintro ⟨before, a, after, reached, rfl, hbefore, hfails⟩
    rw [List.foldlM_append, hbefore, ok_bind, List.foldlM_cons, hfails]
    rfl

/-- A step that fails ends a sequence, and the state stays as it was reached. -/
theorem run_bind {σ : Type} (steps : ExceptT ε (StateM σ) α) (next : α → ExceptT ε (StateM σ) β)
    (state : σ) :
    (steps >>= next).run.run state =
      match steps.run.run state with
      | (.ok a, reached) => (next a).run.run reached
      | (.error error, reached) => (.error error, reached) := by
  rw [ExceptT.run_bind, StateT.run_bind]
  cases steps.run.run state with
  | mk result reached => cases result <;> rfl

/-- Both computations fail alike, or they succeed with related results. -/
inductive ExceptRel {α' : Type} (r : α → α' → Prop) : Except ε α → Except ε α' → Prop
  | ok {a : α} {a' : α'} (h : r a a') : ExceptRel r (.ok a) (.ok a')
  | error {error : ε} : ExceptRel r (.error error) (.error error)

theorem ExceptRel.bind {α' β' : Type} {r : α → α' → Prop} {s : β → β' → Prop} {x : Except ε α}
    {x' : Except ε α'} {f : α → Except ε β} {f' : α' → Except ε β'} (hx : ExceptRel r x x')
    (hf : ∀ a a', r a a' → ExceptRel s (f a) (f' a')) : ExceptRel s (x >>= f) (x' >>= f') := by
  cases hx with
  | ok h => exact hf _ _ h
  | error => exact .error

end TemplateEngine
