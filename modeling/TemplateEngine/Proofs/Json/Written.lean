import TemplateEngine.Proofs.Json.Lists

/-! # Written documents

A document that is written, without blanks or over several lines, is read again if it has no numbers
and all its strings can be read. -/

namespace TemplateEngine.Json

theorem compactItems_eq_separated (items : List Json) :
    compactItems items = separated [] compact items := by
  induction items with
  | nil => rfl
  | cons first others ih =>
    cases others with
    | nil => rfl
    | cons second others =>
      rw [separated_cons_cons, ← ih]
      rfl

theorem compactFields_eq_separated (fields : List (Option String × Json)) :
    compactFields fields = separated [] (writeField [] compact) fields := by
  induction fields with
  | nil => rfl
  | cons first others ih =>
    cases others with
    | nil => rfl
    | cons second others =>
      rw [separated_cons_cons, ← ih, compactFields, writeField]
      · simp only [List.nil_append, List.append_assoc, List.cons_append]
      · simp

theorem isText_compact {json : Json} (h : IsTextual json) : IsText json (compact json) := by
  induction h with
  | null => exact isText_null
  | bool value => exact isText_bool value
  | string text => exact isText_string text
  | @array items hitems ih =>
    cases items with
    | nil => exact isText_emptyArray
    | cons first others =>
      rw [compact, compactItems_eq_separated]
      exact isText_array .nil .nil (List.cons_ne_nil first others) ih
  | @object fields hkeys hvalues ih =>
    cases fields with
    | nil => exact isText_emptyObject
    | cons first others =>
      rw [compact, compactFields_eq_separated]
      exact isText_object .nil .nil .nil (List.cons_ne_nil first others) hkeys ih

theorem prettyItems_eq_separated (level : Nat) (items : List Json) :
    prettyItems level items = separated (newLine level) (pretty level) items := by
  induction items with
  | nil => rfl
  | cons first others ih =>
    cases others with
    | nil => rfl
    | cons second others =>
      rw [separated_cons_cons, ← ih, ← List.append_assoc]
      rfl

theorem prettyFields_eq_separated (level : Nat) (fields : List (Option String × Json)) :
    prettyFields level fields =
      separated (newLine level) (writeField [' '] (pretty level)) fields := by
  induction fields with
  | nil => rfl
  | cons first others ih =>
    cases others with
    | nil => exact List.append_assoc ..
    | cons second others =>
      rw [separated_cons_cons, ← ih, prettyFields, writeField]
      · simp only [List.append_assoc, List.cons_append, List.nil_append]
      · simp

theorem isText_pretty {json : Json} (h : IsTextual json) (level : Nat) :
    IsText json (pretty level json) := by
  induction h generalizing level with
  | null => exact isText_null
  | bool value => exact isText_bool value
  | string text => exact isText_string text
  | @array items hitems ih =>
    cases items with
    | nil => exact isText_emptyArray
    | cons first others =>
      rw [pretty, prettyItems_eq_separated, List.cons_append, List.cons_append, List.append_assoc]
      · exact isText_array (isGap_newLine _) (isGap_newLine level) (List.cons_ne_nil first others)
          fun item hmem => ih item hmem (level + 1)
      · simp
  | @object fields hkeys hvalues ih =>
    cases fields with
    | nil => exact isText_emptyObject
    | cons first others =>
      rw [pretty, prettyFields_eq_separated, List.cons_append, List.cons_append, List.append_assoc]
      · exact isText_object (isGap_newLine _) .blank (isGap_newLine level)
          (List.cons_ne_nil first others) hkeys fun field hmem => ih field hmem (level + 1)
      · simp

inductive Layout where
  | dense
  | indented

def Layout.write : Layout → Json → String
  | .dense => toCompact
  | .indented => toPretty

/-- A document is read back from its text, also where blanks follow. -/
theorem Layout.read?_write_append (layout : Layout) {json : Json} (h : IsTextual json)
    {gap : List Char} (hgap : IsGap gap) :
    read? (layout.write json ++ String.ofList gap) = some json := by
  obtain ⟨text, hwrite, htext⟩ : ∃ text, layout.write json = String.ofList text ∧
      IsText json text := by
    cases layout with
    | dense => exact ⟨compact json, rfl, isText_compact h⟩
    | indented => exact ⟨pretty 0 json, rfl, isText_pretty h 0⟩
  rw [hwrite, ← String.ofList_append]
  exact htext.read?_append hgap

theorem Layout.read?_write (layout : Layout) {json : Json} (h : IsTextual json) :
    read? (layout.write json) = some json := by
  have hread := layout.read?_write_append h .nil
  rwa [String.ofList_nil, String.append_empty] at hread

/-- A document written over several lines, with a line break at its end, is read back. -/
theorem read?_toPretty {json : Json} (h : IsTextual json) :
    read? (json.toPretty ++ "\n") = some json := by
  have hgap : IsGap ['\n'] := by simp [IsGap, isBlank]
  exact Layout.indented.read?_write_append h hgap

end TemplateEngine.Json
