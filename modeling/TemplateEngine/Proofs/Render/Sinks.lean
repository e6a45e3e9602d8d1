import TemplateEngine.Engine
import TemplateEngine.Proofs.Render.Limit
import TemplateEngine.Proofs.Render.Writes

/-! # One render in all sinks

A text that grows, the bytes that a writer takes and a list of values are three views of one render.
What one sink holds when a render ends, also by an error, determines what the others hold. -/

namespace TemplateEngine

theorem utf8_append (front back : String) : utf8 (front ++ back) = utf8 front ++ utf8 back := by
  rw [utf8, String.toList_append, List.flatMap_append]
  rfl

/-- The writer never fails, and takes one byte at least of those that it is given. -/
def Writer.TakesAll {σ : Type} (writer : Writer σ) (taken : σ → List UInt8) : Prop :=
  ∀ bytes state, bytes ≠ [] → ∃ count state', writer.write bytes state = (.ok count, state') ∧
    0 < count ∧ count ≤ bytes.length ∧ taken state' = taken state ++ bytes.take count

/-- Takes at most `portion` bytes at a time. -/
def Writer.inPortions (portion : Nat) : Writer (List UInt8) where
  write bytes written := (.ok (min bytes.length portion), written ++ bytes.take portion)

theorem Writer.takesAll_inPortions {portion : Nat} (h : 0 < portion) :
    (inPortions portion).TakesAll id := by
  intro bytes written hbytes
  have hlength := List.length_pos_iff.mpr hbytes
  refine ⟨min bytes.length portion, written ++ bytes.take portion, rfl, by omega, by omega, ?_⟩
  rw [id_eq, List.take_eq_take_min, Nat.min_comm]
  rfl

section

variable {σ : Type} {writer : Writer σ} {taken : σ → List UInt8}

theorem Writer.TakesAll.writeAll_eq (h : writer.TakesAll taken) (bytes : List UInt8) (state : σ) :
    (writer.writeAll bytes state).1 = .ok () ∧
      taken (writer.writeAll bytes state).2 = taken state ++ bytes := by
  fun_induction Writer.writeAll writer bytes state with
  | case1 state => exact ⟨rfl, (List.append_nil _).symm⟩
  | case2 byte bytes state state' hwrite =>
    obtain ⟨count, _, hwrite', hpos, -⟩ := h (byte :: bytes) state (List.cons_ne_nil byte bytes)
    cases hwrite.symm.trans hwrite'
    cases hpos
  | case3 byte bytes state count state' hwrite ih =>
    obtain ⟨_, _, hwrite', -, -, htaken⟩ := h (byte :: bytes) state (List.cons_ne_nil byte bytes)
    cases hwrite.symm.trans hwrite'
    obtain ⟨hresult, hrest⟩ := ih
    refine ⟨hresult, ?_⟩
    rw [hrest, htaken, List.take_succ_cons, List.append_assoc, List.cons_append,
      List.take_append_drop]
  | case4 byte bytes state reason state' hwrite =>
    obtain ⟨_, _, hwrite', -⟩ := h (byte :: bytes) state (List.cons_ne_nil byte bytes)
    cases hwrite.symm.trans hwrite'

end

/-- The value that a sink is handed where it does not tell text from strings. -/
def Write.asValue : Write → Value
  | .text written => .string written
  | .value written => written

theorem Write.display_asValue (write : Write) : write.asValue.display = write.display := by
  cases write <;> rfl

namespace Sink

theorem neverFails_recorder : recorder.NeverFails := fun write _ => by cases write <;> rfl

theorem after_recorder (writes : List Write) (recorded : List Value) :
    recorder.after writes recorded = recorded ++ writes.map Write.asValue := by
  induction writes using List.reverseRecOn with
  | nil => exact (List.append_nil recorded).symm
  | append_singleton writes write ih =>
    have hput : (recorder.put write (recorder.after writes recorded)).2 =
        recorder.after writes recorded ++ [write.asValue] := by cases write <;> rfl
    rw [after_append_singleton, hput, ih, List.map_append, List.append_assoc]
    rfl

variable {σ : Type} {writer : Writer σ} {taken : σ → List UInt8}

theorem put_ofWriter (writer : Writer σ) (write : Write) (target : σ) :
    (ofWriter writer).put write target = writer.writeAll (utf8 write.display) target := by
  cases write <;> rfl

theorem neverFails_ofWriter (h : writer.TakesAll taken) : (ofWriter writer).NeverFails :=
  fun write target => by rw [put_ofWriter, (h.writeAll_eq _ target).1]

theorem after_ofWriter (h : writer.TakesAll taken) (writes : List Write) (target : σ) :
    taken ((ofWriter writer).after writes target) =
      taken target ++ utf8 (String.join (writes.map Write.display)) := by
  induction writes using List.reverseRecOn with
  | nil => exact (List.append_nil _).symm
  | append_singleton writes write ih =>
    rw [after_append_singleton, put_ofWriter, (h.writeAll_eq _ _).2, ih, List.append_assoc,
      ← utf8_append, List.map_append, List.map_singleton]
    simp only [String.join_append, String.join_cons, String.join_nil, String.append_empty]

end Sink

namespace Store

variable (store : Store) (registry : Registry) (name : String) (data : Dict Value)

/-- The text of all that a render writes, where no write fails. -/
def loggedText : String :=
  String.join ((store.logged registry name data).2.map Write.display)

theorem render_text (before : String) :
    store.render registry .text name data before =
      ((store.logged registry name data).1, before ++ store.loggedText registry name data) := by
  rw [store.render_eq_logged registry name data Sink.neverFails_text, Sink.after_text]
  rfl

theorem render_ofWriter {σ : Type} {writer : Writer σ} {taken : σ → List UInt8}
    (h : writer.TakesAll taken) (target : σ) :
    (store.render registry (.ofWriter writer) name data target).1 =
        (store.logged registry name data).1 ∧
      taken (store.render registry (.ofWriter writer) name data target).2 =
        taken target ++ utf8 (store.loggedText registry name data) := by
  rw [store.render_eq_logged registry name data (Sink.neverFails_ofWriter h)]
  exact ⟨rfl, Sink.after_ofWriter h _ target⟩

theorem render_recorder :
    store.render registry .recorder name data [] =
        ((store.logged registry name data).1,
          (store.logged registry name data).2.map Write.asValue) ∧
      String.join ((store.render registry .recorder name data []).2.map Value.display) =
        store.loggedText registry name data := by
  have hrecorded := store.render_eq_logged registry name data Sink.neverFails_recorder []
  rw [Sink.after_recorder, List.nil_append] at hrecorded
  refine ⟨hrecorded, ?_⟩
  rw [hrecorded, List.map_map]
  exact congrArg String.join (List.map_congr_left fun write _ => write.display_asValue)

end Store

theorem Engine.render_eq_map_logged (engine : Engine) (name : String) (data : Dict Value) :
    engine.render name data =
      (engine.store.logged engine.registry name data).1.map fun () =>
        engine.store.loggedText engine.registry name data := by
  rw [render, renderTo, Store.render_text]
  exact congrArg (Except.map · _) (funext fun () => String.empty_append)

/-- A sink that only takes values records a render, and its list of values gives what all other
sinks are left with: the text is that of the values, and a writer that never fails has taken the
bytes of that text, in whatever portions. The result is the same in all of them, and where it is an
error so is what was written before. -/
theorem Store.render_sinks {σ : Type} {writer : Writer σ} {taken : σ → List UInt8}
    (hwriter : writer.TakesAll taken) (store : Store) (registry : Registry) (name : String)
    (data : Dict Value) :
    let recorded := store.render registry .recorder name data []
    let text := String.join (recorded.2.map Value.display)
    (∀ before, store.render registry .text name data before = (recorded.1, before ++ text)) ∧
      (∀ target,
        let streamed := store.render registry (.ofWriter writer) name data target
        streamed.1 = recorded.1 ∧ taken streamed.2 = taken target ++ utf8 text) ∧
      ({ store, registry : Engine }).render name data = recorded.1.map fun () => text := by
  intro recorded text
  obtain ⟨hrecorded, htext⟩ := store.render_recorder registry name data
  have hresult : recorded.1 = (store.logged registry name data).1 := congrArg Prod.fst hrecorded
  have htext : text = store.loggedText registry name data := htext
  rw [hresult, htext]
  exact ⟨store.render_text registry name data, store.render_ofWriter registry name data hwriter,
    Engine.render_eq_map_logged ⟨store, registry⟩ name data⟩

/-- The label fails after a text and a number. A writer that takes two bytes at a time has both, and
so does the text. -/
theorem Store.render_sinks_label :
    (Writer.inPortions 2).TakesAll id ∧
      let data := [("n", Value.ofInt 12)]
      let streamed := label.render {} (.ofWriter (.inPortions 2)) "label" data []
      label.render {} .recorder "label" data [] =
        (.error (.unknownVariable "missing"), [.string "no. ", .ofInt 12]) ∧
      label.render {} .text "label" data "" = (.error (.unknownVariable "missing"), "no. 12") ∧
      streamed.1 = .error (.unknownVariable "missing") ∧ streamed.2 = utf8 "no. 12" := by
  have hwriter : (Writer.inPortions 2).TakesAll id := Writer.takesAll_inPortions (by decide)
  have hrecorded : label.render {} .recorder "label" [("n", Value.ofInt 12)] [] =
      (.error (.unknownVariable "missing"), [.string "no. ", .ofInt 12]) := rfl
  obtain ⟨htext, hstreamed, -⟩ :=
    Store.render_sinks hwriter label {} "label" [("n", Value.ofInt 12)]
  rw [hrecorded] at htext hstreamed
  obtain ⟨hresult, hbytes⟩ := hstreamed []
  exact ⟨hwriter, hrecorded, htext "", hresult, hbytes⟩

end TemplateEngine
