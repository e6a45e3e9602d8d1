import Mathlib.Data.List.Nodup
import TemplateEngine.Proofs.Dict
import TemplateEngine.Proofs.Node.Valid
import TemplateEngine.Render.Expression

/-! # Arguments that are handed over

A call with names hands its values over under keys. Every value has a place of its own there unless
an argument has the index of another one as its name. -/

namespace TemplateEngine

theorem eq_of_repr_eq {m n : Nat} (h : m.repr = n.repr) : m = n := by
  have hdigits : Nat.toDigits 10 m = Nat.toDigits 10 n := String.ofList_injective h
  rw [← Nat.ofDigitChars_ten_toDigits (n := m), hdigits, Nat.ofDigitChars_ten_toDigits]

namespace Argument

/-- What an argument is found by: its name, or its index in the call. -/
def key (index : Nat) (arg : Argument) : String :=
  arg.name.getD index.repr

def keys (args : List Argument) : List String :=
  args.mapIdx key

/-- An argument is named by the index of an argument without name. -/
def Clash (args : List Argument) : Prop :=
  ∃ i j : Nat, ∃ arg other : Argument, args[i]? = some arg ∧ args[j]? = some other ∧
    arg.name = some j.repr ∧ other.name = none

variable {args : List Argument}

theorem names_eq_nil_iff : names args = [] ↔ ∀ arg ∈ args, arg.name = none :=
  List.filterMap_eq_nil_iff

theorem Clash.names_ne_nil (h : Clash args) : names args ≠ [] := by
  obtain ⟨i, j, arg, other, hi, -, hname, -⟩ := h
  intro hnil
  rw [names_eq_nil_iff.mp hnil arg (List.mem_of_getElem? hi)] at hname
  cases hname

theorem getElem?_keys {i : Nat} {arg : Argument} (h : args[i]? = some arg) :
    (keys args)[i]? = some (arg.key i) := by
  rw [keys, List.getElem?_mapIdx, h, Option.map_some]

/-- Two arguments of a call with different names have one key only if they clash. -/
theorem clash_of_key_eq (hnames : (names args).Nodup) {i j : Nat} {arg other : Argument}
    (hi : args[i]? = some arg) (hj : args[j]? = some other) (hij : i < j)
    (hkey : arg.key i = other.key j) : Clash args := by
  cases hname : arg.name with
  | none =>
    cases hother : other.name with
    | none =>
      rw [key, key, hname, hother] at hkey
      exact absurd (eq_of_repr_eq hkey) (Nat.ne_of_lt hij)
    | some name =>
      rw [key, key, hname, hother] at hkey
      exact ⟨j, i, other, arg, hj, hi, hother.trans (congrArg some hkey.symm), hname⟩
  | some name =>
    cases hother : other.name with
    | none =>
      rw [key, key, hname, hother] at hkey
      exact ⟨i, j, arg, other, hi, hj, hname.trans (congrArg some hkey), hother⟩
    | some name' =>
      rw [key, key, hname, hother] at hkey
      obtain ⟨hilt, hi⟩ := List.getElem?_eq_some_iff.mp hi
      obtain ⟨hjlt, hj⟩ := List.getElem?_eq_some_iff.mp hj
      have hapart := List.pairwise_iff_getElem.mp (List.pairwise_filterMap.mp hnames) i j hilt hjlt
        hij name (hi ▸ hname) name' (hj ▸ hother)
      exact absurd hkey hapart

theorem nodup_keys_iff (hnames : (names args).Nodup) : (keys args).Nodup ↔ ¬Clash args := by
  constructor
  · rintro hnodup ⟨i, j, arg, other, hi, hj, hname, hother⟩
    have hkeys : (keys args)[i]? = (keys args)[j]? := by
      rw [getElem?_keys hi, getElem?_keys hj, key, key, hname, hother]
      rfl
    have hlt : i < (keys args).length := (List.getElem?_eq_some_iff.mp (getElem?_keys hi)).1
    obtain rfl := (List.getElem?_inj hlt hnodup).mp hkeys
    obtain rfl : arg = other := Option.some.inj (hi.symm.trans hj)
    rw [hname] at hother
    cases hother
  · intro hclash
    refine List.nodup_iff_getElem?_ne_getElem?.mpr fun i j hij hj hkeys => hclash ?_
    have hjlt : j < args.length := by simpa [keys] using hj
    have hi' := List.getElem?_eq_getElem (Nat.lt_trans hij hjlt)
    have hj' := List.getElem?_eq_getElem hjlt
    rw [getElem?_keys hi', getElem?_keys hj'] at hkeys
    exact clash_of_key_eq hnames hi' hj' hij (Option.some.inj hkeys)

end Argument

namespace Arguments

variable {args : List Argument} {values : List Value}

theorem collect_of_unnamed (h : Argument.names args = []) (values : List Value) :
    collect (args.map Argument.name) values =
      match values with
      | [value] => .scalar value
      | values => .list values := by
  have hnone : (args.map Argument.name).any Option.isSome = false := by
    rw [List.any_map, List.any_eq_false]
    intro arg harg
    simp [Argument.names_eq_nil_iff.mp h arg harg]
  unfold collect
  rw [hnone]
  rfl

theorem collect_of_named (h : Argument.names args ≠ []) (values : List Value) :
    collect (args.map Argument.name) values =
      .named (Dict.ofEntries ((Argument.keys args).zip values)) := by
  have hsome : (args.map Argument.name).any Option.isSome = true := by
    by_contra hnone
    refine h (Argument.names_eq_nil_iff.mpr fun arg harg => ?_)
    rw [Bool.not_eq_true, List.any_eq_false] at hnone
    simpa using hnone arg.name (List.mem_map_of_mem harg)
  unfold collect
  rw [hsome, if_pos rfl]
  refine congrArg (fun entries => named (Dict.ofEntries entries)) (List.ext_getElem? fun i => ?_)
  simp only [Argument.keys, List.zip, List.getElem?_map, List.getElem?_zipIdx,
    List.getElem?_zipWith, List.getElem?_mapIdx]
  cases args[i]? <;> cases values[i]? <;> simp [Argument.key]

/-- Every argument of a call is handed over in a place of its own. -/
structure Carries (args : List Argument) (values : List Value) (given : Arguments) : Prop where
  unnamed : Argument.names args = [] →
    given = match values with
      | [value] => .scalar value
      | values => .list values
  named : Argument.names args ≠ [] → ∃ entries, given = .named entries ∧
    entries.length = args.length ∧ ∀ (index : Nat) (arg : Argument) (value : Value),
      args[index]? = some arg → values[index]? = some value →
        Dict.find? entries (arg.key index) = some value

theorem carries_collect_iff (hnames : (Argument.names args).Nodup)
    (hlength : values.length = args.length) :
    Carries args values (collect (args.map Argument.name) values) ↔ ¬Argument.Clash args := by
  have hkeys : ((Argument.keys args).zip values).map Prod.fst = Argument.keys args :=
    List.map_fst_zip (by simp [Argument.keys, hlength])
  have hzip : ((Argument.keys args).zip values).length = args.length := by
    simp [Argument.keys, hlength]
  rw [← Argument.nodup_keys_iff hnames]
  constructor
  · intro hcarries
    rw [Argument.nodup_keys_iff hnames]
    intro hclash
    obtain ⟨entries, hentries, hcount, -⟩ := hcarries.named hclash.names_ne_nil
    rw [collect_of_named hclash.names_ne_nil] at hentries
    rw [← Arguments.named.inj hentries, ← hzip, Dict.length_ofEntries_eq_iff, hkeys] at hcount
    exact (Argument.nodup_keys_iff hnames).mp hcount hclash
  · intro hnodup
    refine ⟨fun h => collect_of_unnamed h values, fun h => ⟨_, collect_of_named h values, ?_, ?_⟩⟩
    · rw [← hzip, Dict.length_ofEntries_eq_iff, hkeys]
      exact hnodup
    · intro index arg value harg hvalue
      refine Dict.find?_ofEntries_of_mem (hkeys.symm ▸ hnodup) ?_
      exact List.mem_of_getElem? (i := index)
        (List.getElem?_zip_eq_some.mpr ⟨Argument.getElem?_keys harg, hvalue⟩)

end Arguments

namespace Context

variable {context : Context} {args : List Argument} {values : List Value}

theorem length_of_evalAll : ∀ {args : List Argument} {values : List Value},
    context.evalAll args = .ok values → values.length = args.length
  | [], _, h => by
    cases h
    rfl
  | arg :: args, _, h => by
    rw [evalAll] at h
    obtain ⟨value, -, h⟩ := exists_of_bind_eq_ok h
    obtain ⟨values, hvalues, h⟩ := exists_of_bind_eq_ok h
    cases h
    rw [List.length_cons, List.length_cons, length_of_evalAll hvalues]

theorem arguments_of_evalAll (h : context.evalAll args = .ok values) :
    context.arguments args = .ok (.collect (args.map Argument.name) values) := by
  rw [arguments, h]
  rfl

theorem eval_function {name : String} {function : Function}
    (h : context.registry.resolve? name args.length = some function) :
    context.eval (.function name args) =
      context.arguments args >>= fun given => (function given).mapError (.functionFailed name) := by
  rw [eval, h, arguments]
  cases context.evalAll args <;> rfl

end Context

end TemplateEngine
