import TemplateEngine.Proofs.Render.Traces

/-! # Paths are walked from left to right

A path of names goes from a value to one of its fields, from there to a field of that, and so on.
In an expression the names can be grouped in many ways, which all come to the same walk. -/

namespace TemplateEngine

namespace Value

/-- A decimal numeral, which a plus sign may precede, of a number that fits into 64 bits. -/
def IsIndex (name : String) (index : Nat) : Prop :=
  ∃ sign digits : List Char, name.toList = sign ++ digits ∧ (sign = [] ∨ sign = ['+']) ∧
    digits ≠ [] ∧ (∀ c ∈ digits, c.isDigit) ∧ index = Nat.ofDigitChars 10 digits 0 ∧
    index < Number.wordBound

/-- The second value is the field of that name of the first. -/
inductive Step : Value → String → Value → Prop
  | entry {fields : Dict Value} {name : String} {value : Value}
      (hvalue : Dict.find? fields name = some value) : Step (.object fields) name value
  | element {items : List Value} {name : String} {index : Nat} {value : Value}
      (hindex : IsIndex name index) (hvalue : items[index]? = some value) :
      Step (.array items) name value

/-- Steps lead from the first value to the second, one for each name in turn. -/
inductive Walks : Value → List String → Value → Prop
  | here {value : Value} : Walks value [] value
  | step {value next target : Value} {name : String} {names : List String}
      (hstep : value.Step name next) (hwalk : Walks next names target) :
      Walks value (name :: names) target

theorem index?_eq_some_iff {name : String} {index : Nat} :
    index? name = some index ↔ IsIndex name index := by
  have hread : ∀ digits : List Char, Number.natOfDigits digits = Nat.ofDigitChars 10 digits 0 :=
    fun _ => rfl
  unfold index? IsIndex
  simp only [hread, List.all_eq_true]
  constructor
  · intro h
    split at h
    · rename_i digits htext
      obtain ⟨⟨hne, hall, hfits⟩, rfl⟩ := Option.ite_some_none_eq_some.mp h
      exact ⟨['+'], digits, htext, .inr rfl, hne, hall, rfl, hfits⟩
    · obtain ⟨⟨hne, hall, hfits⟩, rfl⟩ := Option.ite_some_none_eq_some.mp h
      exact ⟨[], name.toList, rfl, .inl rfl, hne, hall, rfl, hfits⟩
  · rintro ⟨sign, digits, htext, rfl | rfl, hne, hall, rfl, hfits⟩
    · rw [htext, List.nil_append]
      split
      · exact absurd (hall '+' List.mem_cons_self) (by decide)
      · exact if_pos ⟨hne, hall, hfits⟩
    · rw [htext, List.singleton_append]
      exact if_pos ⟨hne, hall, hfits⟩

theorem field?_eq_some_iff {value next : Value} {name : String} :
    value.field? name = some next ↔ value.Step name next := by
  constructor
  · intro h
    cases value with
    | object fields => exact .entry h
    | array items =>
      obtain ⟨index, hindex, hvalue⟩ := Option.bind_eq_some_iff.mp h
      exact .element (index?_eq_some_iff.mp hindex) hvalue
    | _ => cases h
  · intro h
    cases h with
    | entry hvalue => exact hvalue
    | element hindex hvalue =>
      exact Option.bind_eq_some_iff.mpr ⟨_, index?_eq_some_iff.mpr hindex, hvalue⟩

theorem field_eq_ok_iff {value next : Value} {name : String} :
    value.field name = .ok next ↔ value.Step name next := by
  rw [← field?_eq_some_iff, field]
  cases value.field? name with
  | none => exact ⟨nofun, nofun⟩
  | some found => exact ⟨fun h => congrArg some (Except.ok.inj h), fun h =>
      congrArg Except.ok (Option.some.inj h)⟩

theorem field_eq_error_iff {value : Value} {name : String} {error : RenderError} :
    value.field name = .error error ↔
      (∀ next, ¬value.Step name next) ∧ error = .unknownField name := by
  simp only [← field?_eq_some_iff, field]
  cases value.field? name with
  | none => simp [eq_comm]
  | some found => simp

theorem foldlM_field_eq_ok_iff {names : List String} {value target : Value} :
    names.foldlM field value = .ok target ↔ value.Walks names target := by
  constructor
  · intro h
    induction names generalizing value with
    | nil =>
      cases h
      exact .here
    | cons name names ih =>
      obtain ⟨next, hnext, hrest⟩ := exists_of_bind_eq_ok h
      exact .step (field_eq_ok_iff.mp hnext) (ih hrest)
  · intro h
    induction h with
    | here => rfl
    | step hstep _ ih => rw [List.foldlM_cons, field_eq_ok_iff.mpr hstep, ok_bind, ih]

theorem foldlM_field_eq_error_iff {names : List String} {value : Value} {error : RenderError} :
    names.foldlM field value = .error error ↔ ∃ before name after reached,
      names = before ++ name :: after ∧ value.Walks before reached ∧
        (∀ next, ¬reached.Step name next) ∧ error = .unknownField name := by
  simp only [foldlM_eq_error_iff, foldlM_field_eq_ok_iff, field_eq_error_iff]

end Value

namespace Expr

/-- The accessor that consists of names in turn. -/
def path (name : String) : List String → Expr
  | [] => .var name
  | next :: names => .selector (.var name) (path next names)

/-- Names in turn are selected from the base, in groups of one name or more. -/
inductive Groups (base : Expr) : List String → Expr → Prop
  | base : Groups base [] base
  | select {names : List String} {expr : Expr} (hexpr : Groups base names expr) (name : String)
      (rest : List String) : Groups base (names ++ name :: rest) (.selector expr (path name rest))

/-- After names in turn the accessor comes to a node that is not a variable, where another name
should stand. It cannot be followed further, for which there are two messages. -/
inductive Breaks (node : Expr) : List String → Expr → RenderError → Prop
  | last (hvar : ∀ name, node ≠ .var name)
      (hselector : ∀ base accessor, node ≠ .selector base accessor) :
      Breaks node [] node (.notAnAccessor node.kind)
  | base (hvar : ∀ name, node ≠ .var name) (accessor : Expr) :
      Breaks node [] (.selector node accessor) (.notAField node.kind)
  | field {names : List String} {accessor : Expr} {error : RenderError} (name : String)
      (h : Breaks node names accessor error) :
      Breaks node (name :: names) (.selector (.var name) accessor) error

end Expr

namespace Value

theorem select_path (value : Value) (name : String) (names : List String) :
    value.select (.path name names) = (name :: names).foldlM field value := by
  induction names generalizing value name with
  | nil =>
    rw [Expr.path, select, List.foldlM_cons]
    exact (bind_pure _).symm
  | cons next names ih =>
    rw [Expr.path, select, List.foldlM_cons]
    exact bind_congr fun value => ih value next

theorem select_of_breaks {node : Expr} {names : List String} {accessor : Expr}
    {error : RenderError} (h : node.Breaks names accessor error) {value reached : Value}
    (hwalks : value.Walks names reached) : value.select accessor = .error error := by
  induction h generalizing value with
  | last hvar hselector =>
    cases node with
    | var name => exact absurd rfl (hvar name)
    | selector base accessor => exact absurd rfl (hselector base accessor)
    | _ => rfl
  | base hvar accessor =>
    cases node with
    | var name => exact absurd rfl (hvar name)
    | _ => rfl
  | field name _ ih =>
    cases hwalks with
    | step hstep hwalk =>
      rw [select, field_eq_ok_iff.mpr hstep, ok_bind]
      exact ih hwalk

end Value

namespace Expr

variable {context : Context} {base expr : Expr} {names : List String}

/-- Whatever the groups, the names are followed one by one from the value of the base. -/
theorem Groups.eval_eq (h : Groups base names expr) :
    context.eval expr = context.eval base >>= fun value => names.foldlM Value.field value := by
  induction h with
  | base => exact (bind_pure _).symm
  | @select names expr _ name rest ih =>
    rw [Context.eval, ih, bind_assoc]
    refine bind_congr fun value => ?_
    rw [List.foldlM_append]
    exact bind_congr fun reached => reached.select_path name rest

/-- A path is walked from left to right from the value of its base, however its names are grouped,
and the first name that leads nowhere is the error. An error of the base stays what it is. Where an
accessor comes to a node that is not a variable, selecting is an error, and of the accessor nothing
is evaluated. -/
theorem Groups.eval_walks (context : Context) (base : Expr) :
    (∀ names expr, Groups base names expr →
      (∀ error, context.eval base = .error error → context.eval expr = .error error) ∧
      (∀ value, context.eval base = .ok value →
        (∀ target, context.eval expr = .ok target ↔ value.Walks names target) ∧
        ∀ error, context.eval expr = .error error ↔ ∃ before name after reached,
          names = before ++ name :: after ∧ value.Walks before reached ∧
            (∀ next, ¬reached.Step name next) ∧ error = .unknownField name) ∧
      ∀ other, Groups base names other → context.eval other = context.eval expr) ∧
    ∀ node names accessor error, Breaks node names accessor error →
      ∀ value reached, context.eval base = .ok value → value.Walks names reached →
        context.eval (.selector base accessor) = .error error ∧
          (context.trace (.selector base accessor)).events =
            .evaluates (.selector base accessor) :: (context.trace base).events := by
  refine ⟨fun names expr hexpr =>
      ⟨fun error herror => ?_, fun value hvalue => ?_, fun other hother => ?_⟩,
    fun node names accessor error hbreaks value reached hvalue hwalks => ?_⟩
  · rw [hexpr.eval_eq, herror]
    rfl
  · rw [hexpr.eval_eq, hvalue, ok_bind]
    exact ⟨fun target => Value.foldlM_field_eq_ok_iff, fun error =>
      Value.foldlM_field_eq_error_iff⟩
  · rw [hother.eval_eq, hexpr.eval_eq]
  · refine ⟨?_, context.events_trace_selector base accessor⟩
    rw [Context.eval, hvalue, ok_bind]
    exact Value.select_of_breaks hbreaks hwalks

def teamMembers : Value :=
  .array [.string "Ada", .string "Ben"]

def teamContext : Context where
  data := [("team", .object [("members", teamMembers)])]
  blocks := []
  registry := {}
  store := {}
  entry := "page"

theorem Groups.eval_walks_team :
    teamContext.eval (.selector (.selector (.var "team") (.var "members")) (.var "+1")) =
        .ok (.string "Ben") ∧
      teamContext.eval (.selector (.var "team") (.selector (.var "members") (.var "+1"))) =
        .ok (.string "Ben") ∧
      teamContext.eval (.selector (.var "crew") (.var "members")) =
        .error (.unknownVariable "crew") ∧
      teamContext.eval (.selector (.var "team") (.selector (.var "leaders") (.var "0"))) =
        .error (.unknownField "leaders") ∧
      teamContext.eval (.selector (.var "team") (.selector (.var "members") (.content "0"))) =
        .error (.notAnAccessor .content) := by
  have hindex : Value.IsIndex "+1" 1 :=
    ⟨['+'], ['1'], rfl, .inr rfl, by decide, List.forall_mem_singleton.mpr rfl, rfl, by decide⟩
  have hmembers : Value.Walks (.object [("members", teamMembers)]) ["members"] teamMembers :=
    .step (.entry rfl) .here
  have hben : Value.Walks (.object [("members", teamMembers)]) ["members", "+1"]
      (.string "Ben") :=
    .step (.entry rfl) (.step (.element hindex rfl) .here)
  obtain ⟨hteam, hbreaks⟩ := eval_walks teamContext (.var "team")
  obtain ⟨hcrew, -⟩ := eval_walks teamContext (.var "crew")
  have hleft : Groups (.var "team") ["members", "+1"]
      (.selector (.selector (.var "team") (.var "members")) (.var "+1")) :=
    .select (.select .base "members" []) "+1" []
  have hright : Groups (.var "team") ["members", "+1"]
      (.selector (.var "team") (.selector (.var "members") (.var "+1"))) :=
    .select .base "members" ["+1"]
  have hleaders : Groups (.var "team") ["leaders", "0"]
      (.selector (.var "team") (.selector (.var "leaders") (.var "0"))) :=
    .select .base "leaders" ["0"]
  refine ⟨?_, ?_, ?_, ?_, ?_⟩
  · exact (((hteam _ _ hleft).2.1 _ rfl).1 _).mpr hben
  · exact ((hteam _ _ hleft).2.2 _ hright).trans ((((hteam _ _ hleft).2.1 _ rfl).1 _).mpr hben)
  · exact (hcrew _ _ (.select .base "members" [])).1 _ rfl
  · refine (((hteam _ _ hleaders).2.1 _ rfl).2 _).mpr
      ⟨[], "leaders", ["0"], _, rfl, .here, fun next hstep => ?_, rfl⟩
    cases hstep with
    | entry hvalue => cases hvalue
  · exact (hbreaks (.content "0") ["members"] _ _ (.field "members" (.last nofun nofun)) _ _ rfl
      hmembers).1

end Expr

end TemplateEngine
