import TemplateEngine.Proofs.Except
import TemplateEngine.Proofs.Node.Paths
import TemplateEngine.Render.Expression

/-! # Errors of expressions

The value of an expression fails to exist where a name is unknown or a callback fails. Where every
selector follows a path, the only other reason is a call that stands for the name of a field. -/

namespace TemplateEngine

/-- The errors of an expression, given whether its selectors follow paths and whether one of the
paths ends in a call. -/
inductive RenderError.OfValue (selects calls : Prop) : RenderError → Prop
  | unknownVariable (name : String) : OfValue selects calls (.unknownVariable name)
  | unknownField (name : String) : OfValue selects calls (.unknownField name)
  | unknownFilter (name : String) : OfValue selects calls (.unknownFilter name)
  | unknownFunction (name : String) : OfValue selects calls (.unknownFunction name)
  | filterFailed (name reason : String) : OfValue selects calls (.filterFailed name reason)
  | functionFailed (name reason : String) : OfValue selects calls (.functionFailed name reason)
  | notAField (kind : NodeKind) (h : ¬selects) : OfValue selects calls (.notAField kind)
  | notAnAccessor (kind : NodeKind) (h : selects → kind = .function ∧ calls) :
      OfValue selects calls (.notAnAccessor kind)

theorem RenderError.OfValue.imp {selects calls selects' calls' : Prop} {error : RenderError}
    (h : error.OfValue selects calls) (hselects : selects' → selects) (hcalls : calls → calls') :
    error.OfValue selects' calls' := by
  cases h with
  | unknownVariable name => exact .unknownVariable name
  | unknownField name => exact .unknownField name
  | unknownFilter name => exact .unknownFilter name
  | unknownFunction name => exact .unknownFunction name
  | filterFailed name reason => exact .filterFailed name reason
  | functionFailed name reason => exact .functionFailed name reason
  | notAField kind h => exact .notAField kind (h ∘ hselects)
  | notAnAccessor kind h =>
    exact .notAnAccessor kind fun hselects' => (h (hselects hselects')).imp_right hcalls

namespace Value

variable {error : RenderError}

theorem field_ofValue {selects calls : Prop} {value : Value} {name : String}
    (h : value.field name = .error error) : error.OfValue selects calls := by
  unfold field at h
  split at h
  · cases h
  · cases h
    exact .unknownField name

theorem select_ofValue {value : Value} {path : Expr} (h : value.select path = .error error) :
    error.OfValue path.IsPath path.EndsInCall := by
  fun_induction select value path with
  | case1 value name => exact field_ofValue h
  | case2 value name path ih =>
    obtain hfield | ⟨found, -, hpath⟩ := bind_eq_error h
    · exact field_ofValue hfield
    · refine (ih found hpath).imp (fun hstep => ?_) id
      cases hstep with
      | step _ hpath => exact hpath
  | case3 value base path hbase =>
    cases h
    refine .notAField _ fun hstep => ?_
    cases hstep with
    | step name _ => exact hbase name rfl
  | case4 value path hvar hstep hbase =>
    cases h
    refine .notAnAccessor _ fun hpath => ?_
    cases hpath with
    | field name => exact absurd rfl (hvar name)
    | call name args => exact ⟨rfl, trivial⟩
    | step name _ => exact absurd rfl (hstep name _)

end Value

namespace Context

variable {context : Context} {error : RenderError}

mutual

theorem eval_ofValue : ∀ {expr : Expr}, context.eval expr = .error error →
    error.OfValue expr.Selects expr.HasCallStep
  | .content _, h => nomatch h
  | .var name, h => by
    unfold eval at h
    split at h
    · cases h
    · cases h
      exact .unknownVariable name
  | .selector base path, h => by
    obtain hbase | ⟨value, -, hpath⟩ := bind_eq_error h
    · exact (eval_ofValue hbase).imp And.left Or.inl
    · exact (Value.select_ofValue hpath).imp And.right Or.inr
  | .filter name input, h => by
    unfold eval at h
    split at h
    · cases h
      exact .unknownFilter name
    · obtain hinput | ⟨value, -, hfilter⟩ := bind_eq_error h
      · exact (eval_ofValue hinput).imp id id
      · obtain ⟨reason, -, rfl⟩ := exists_of_mapError_eq_error hfilter
        exact .filterFailed name reason
  | .function name args, h => by
    unfold eval at h
    split at h
    · cases h
      exact .unknownFunction name
    · obtain hargs | ⟨values, -, hfunction⟩ := bind_eq_error h
      · exact (evalAll_ofValue hargs).imp id id
      · obtain ⟨reason, -, rfl⟩ := exists_of_mapError_eq_error hfunction
        exact .functionFailed name reason

theorem evalAll_ofValue : ∀ {args : List Argument}, context.evalAll args = .error error →
    error.OfValue (Argument.AllSelect args) (Argument.AnyCallStep args)
  | [], h => nomatch h
  | arg :: args, h => by
    obtain harg | ⟨value, -, hargs⟩ := bind_eq_error h
    · exact (evalArgument_ofValue harg).imp And.left Or.inl
    · obtain hargs | ⟨values, -, hvalues⟩ := bind_eq_error hargs
      · exact (evalAll_ofValue hargs).imp And.right Or.inr
      · cases hvalues

theorem evalArgument_ofValue : ∀ {arg : Argument}, context.evalArgument arg = .error error →
    error.OfValue arg.Selects arg.HasCallStep
  | .literal _ _, h => nomatch h
  | .value _ _, h => (eval_ofValue h).imp id id

end

end Context

end TemplateEngine
