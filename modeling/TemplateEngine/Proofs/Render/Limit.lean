import TemplateEngine.Proofs.Render.Replay

/-! # Sinks that run full

A sink or a writer that takes only so much cuts the output of a render at a prefix. Where nothing is
cut off the result is that of the render, and else it is the failure to write. -/

namespace TemplateEngine

/-- All items are taken if they fit below the limit. Otherwise those are taken that fit, and it
fails. -/
inductive Delivers {α σ : Type} (limit : Nat) (taken : σ → List α) (state : σ) (items : List α) :
    Except String Unit × σ → Prop
  | all {state' : σ} (hfits : (taken state).length + items.length ≤ limit)
      (htaken : taken state' = taken state ++ items) :
      Delivers limit taken state items (.ok (), state')
  | part {reason : String} {state' : σ} (hfull : limit < (taken state).length + items.length)
      (htaken : taken state' = (taken state ++ items).take limit) :
      Delivers limit taken state items (.error reason, state')

/-- The sink takes values up to the limit and then fails. -/
structure Sink.TakesUpTo {σ : Type} (sink : Sink σ) (limit : Nat) (taken : σ → List Value) :
    Prop where
  text : sink.TextAsValues
  takes : ∀ value state, (taken state).length < limit →
    ∃ state', sink.write value state = (.ok (), state') ∧ taken state' = taken state ++ [value]
  fails : ∀ value state, limit ≤ (taken state).length →
    ∃ reason state', sink.write value state = (.error reason, state') ∧ taken state' = taken state

/-- The writer takes bytes up to the limit, at least one at a time, and then fails. -/
structure Writer.TakesUpTo {σ : Type} (writer : Writer σ) (limit : Nat) (taken : σ → List UInt8) :
    Prop where
  takes : ∀ bytes state, bytes ≠ [] → (taken state).length < limit →
    ∃ count state', writer.write bytes state = (.ok count, state') ∧ 0 < count ∧
      count ≤ bytes.length ∧ (taken state).length + count ≤ limit ∧
      taken state' = taken state ++ bytes.take count
  fails : ∀ bytes state, bytes ≠ [] → limit ≤ (taken state).length →
    ∃ reason state', writer.write bytes state = (.error reason, state') ∧ taken state' = taken state

theorem Sink.takesUpTo_values (limit : Nat) : (Sink.values (some limit)).TakesUpTo limit id where
  text _ := rfl
  takes value written h := by
    refine ⟨written ++ [value], ?_, rfl⟩
    simp only [Sink.values, Option.all_some]
    exact if_pos (decide_eq_true h)
  fails value written h := by
    refine ⟨sinkFull, written, ?_, rfl⟩
    simp only [Sink.values, Option.all_some]
    exact if_neg (by simpa using h)

theorem Writer.takesUpTo_upTo (limit : Nat) : (Writer.upTo (some limit)).TakesUpTo limit id where
  takes bytes written hbytes h := by
    have hlength : 0 < bytes.length := List.length_pos_iff.mpr hbytes
    have hroom : ¬limit - written.length = 0 := by
      simp only [id_eq] at h
      omega
    refine ⟨min bytes.length (limit - written.length), _, if_neg hroom, ?_, ?_, ?_, ?_⟩
    · omega
    · omega
    · simp only [id_eq] at h ⊢
      omega
    · simp only [id_eq]
      rw [List.take_eq_take_min, Nat.min_comm]
  fails bytes written _ h := by
    have hroom : limit - written.length = 0 := by
      simp only [id_eq] at h
      omega
    exact ⟨sinkFull, written, if_pos hroom, rfl⟩

section

variable {α σ : Type} {limit : Nat} {taken : σ → List α} {state state' : σ} {items others : List α}

theorem Delivers.append_of_ok {outcome : Except String Unit × σ}
    (h : Delivers limit taken state items (.ok (), state'))
    (h' : Delivers limit taken state' others outcome) :
    Delivers limit taken state (items ++ others) outcome := by
  cases h with
  | all hfits htaken =>
    cases h' with
    | all hfits' htaken' =>
      rw [htaken, List.length_append] at hfits'
      refine .all (by rw [List.length_append]; omega) ?_
      rw [htaken', htaken, List.append_assoc]
    | part hfull htaken' =>
      rw [htaken, List.length_append] at hfull
      refine .part (by rw [List.length_append]; omega) ?_
      rw [htaken', htaken, List.append_assoc]

theorem Delivers.append_of_error {reason : String}
    (h : Delivers limit taken state items (.error reason, state')) :
    Delivers limit taken state (items ++ others) (.error reason, state') := by
  cases h with
  | part hfull htaken =>
    refine .part (by rw [List.length_append]; omega) ?_
    rw [htaken, ← List.append_assoc]
    exact (List.take_append_of_le_length (by rw [List.length_append]; omega)).symm

theorem Delivers.length_le (h : Delivers limit taken state items (.ok (), state')) :
    (taken state').length ≤ limit := by
  cases h with
  | all hfits htaken =>
    rw [htaken, List.length_append]
    exact hfits

/-- A sink that delivers each value delivers all of them. -/
theorem Sink.replay_delivers {sink : Sink σ} {parts : Value → List α}
    (h : ∀ value state, (taken state).length ≤ limit →
      Delivers limit taken state (parts value) (sink.write value state))
    (values : List Value) (hroom : (taken state).length ≤ limit) :
    Delivers limit taken state (values.flatMap parts) (sink.replay values state) := by
  induction values generalizing state with
  | nil => exact .all hroom (List.append_nil _).symm
  | cons value values ih =>
    have hvalue := h value state hroom
    rw [List.flatMap_cons, Sink.replay]
    cases hwrite : sink.write value state with
    | mk result state' =>
      rw [hwrite] at hvalue
      cases result with
      | error reason => exact hvalue.append_of_error
      | ok _ => exact hvalue.append_of_ok (ih hvalue.length_le)

theorem Sink.TakesUpTo.write_delivers {sink : Sink σ} {taken : σ → List Value}
    (h : sink.TakesUpTo limit taken) (value : Value) (state : σ)
    (hroom : (taken state).length ≤ limit) :
    Delivers limit taken state [value] (sink.write value state) := by
  rcases Nat.lt_or_eq_of_le hroom with hless | hfull
  · obtain ⟨state', hwrite, htaken⟩ := h.takes value state hless
    rw [hwrite]
    exact .all hless htaken
  · obtain ⟨reason, state', hwrite, htaken⟩ := h.fails value state (Nat.le_of_eq hfull.symm)
    rw [hwrite]
    refine .part (by rw [hfull]; exact Nat.lt_succ_self limit) ?_
    rw [htaken, ← hfull, List.take_left]

theorem Writer.TakesUpTo.write_cases {writer : Writer σ} {taken : σ → List UInt8}
    (h : writer.TakesUpTo limit taken) {bytes : List UInt8} (hbytes : bytes ≠ []) (state : σ)
    (hroom : (taken state).length ≤ limit) :
    (∃ count state', writer.write bytes state = (.ok (count + 1), state') ∧
      Delivers limit taken state (bytes.take (count + 1)) (.ok (), state')) ∨
    ∃ reason state', writer.write bytes state = (.error reason, state') ∧
      Delivers limit taken state bytes (.error reason, state') := by
  rcases Nat.lt_or_eq_of_le hroom with hless | hfull
  · obtain ⟨count, state', hwrite, hpos, hle, hfits, htaken⟩ := h.takes bytes state hbytes hless
    obtain ⟨count, rfl⟩ := Nat.exists_eq_add_one.mpr hpos
    refine .inl ⟨count, state', hwrite, .all ?_ htaken⟩
    rw [List.length_take_of_le hle]
    exact hfits
  · obtain ⟨reason, state', hwrite, htaken⟩ := h.fails bytes state hbytes
      (Nat.le_of_eq hfull.symm)
    have hlength := List.length_pos_iff.mpr hbytes
    refine .inr ⟨reason, state', hwrite, .part (by omega) ?_⟩
    rw [htaken, ← hfull, List.take_left]

/-- A writer that takes bytes in portions is handed all that it has room for. -/
theorem Writer.TakesUpTo.writeAll_delivers {writer : Writer σ} {taken : σ → List UInt8}
    (h : writer.TakesUpTo limit taken) (bytes : List UInt8) (state : σ)
    (hroom : (taken state).length ≤ limit) :
    Delivers limit taken state bytes (writer.writeAll bytes state) := by
  fun_induction Writer.writeAll writer bytes state with
  | case1 state => exact .all hroom (List.append_nil _).symm
  | case2 byte bytes state state' hwrite =>
    rcases h.write_cases (List.cons_ne_nil byte bytes) state hroom with
      ⟨count, _, hwrite', -⟩ | ⟨reason, _, hwrite', -⟩
    · cases hwrite.symm.trans hwrite'
    · cases hwrite.symm.trans hwrite'
  | case3 byte bytes state count state' hwrite ih =>
    rcases h.write_cases (List.cons_ne_nil byte bytes) state hroom with
      ⟨count', _, hwrite', hdelivers⟩ | ⟨reason, _, hwrite', -⟩
    · cases hwrite.symm.trans hwrite'
      have hboth := hdelivers.append_of_ok (ih hdelivers.length_le)
      rwa [List.take_succ_cons, List.cons_append, List.take_append_drop] at hboth
    · cases hwrite.symm.trans hwrite'
  | case4 byte bytes state reason state' hwrite =>
    rcases h.write_cases (List.cons_ne_nil byte bytes) state hroom with
      ⟨count, _, hwrite', -⟩ | ⟨reason', _, hwrite', hdelivers⟩
    · cases hwrite.symm.trans hwrite'
    · cases hwrite.symm.trans hwrite'
      exact hdelivers

end

/-- The output of a render is cut at a limit: with all of it goes its result, and with a shorter
part the failure to write. -/
def CutAt {α : Type} (limit : Nat) (all taken : List α) (result ended : Except RenderError Unit) :
    Prop :=
  taken = all.take limit ∧ (all.length ≤ limit → ended = result) ∧
    (limit < all.length → ∃ reason, ended = .error (.writeFailed reason))

namespace Store

variable {σ : Type} {sink : Sink σ}

/-- Where a sink delivers what it has room for, the output of a render is cut at its limit. -/
theorem cutAt_render {α : Type} {limit : Nat} {taken : σ → List α} {parts : Value → List α}
    (htext : sink.TextAsValues)
    (hwrite : ∀ value state, (taken state).length ≤ limit →
      Delivers limit taken state (parts value) (sink.write value state))
    {out : σ} (hout : taken out = []) (store : Store) (registry : Registry) (name : String)
    (data : Dict Value) :
    let recorded := store.render registry .recorder name data []
    let ended := store.render registry sink name data out
    CutAt limit (recorded.2.flatMap parts) (taken ended.2) recorded.1 ended.1 := by
  dsimp only
  rw [store.render_eq_replay htext registry name data out]
  generalize store.render registry .recorder name data [] = recorded
  obtain ⟨result, written⟩ := recorded
  have hroom : (taken out).length ≤ limit := by
    rw [hout]
    exact Nat.zero_le limit
  have hdelivers := Sink.replay_delivers hwrite written hroom
  dsimp only
  generalize sink.replay written out = replayed at hdelivers ⊢
  cases hdelivers with
  | all hfits htaken =>
    rw [hout] at hfits htaken
    simp only [List.length_nil, Nat.zero_add, List.nil_append] at hfits htaken
    refine ⟨?_, fun _ => rfl, fun hfull => by omega⟩
    exact htaken.trans (List.take_of_length_le hfits).symm
  | part hfull htaken =>
    rw [hout] at hfull htaken
    simp only [List.length_nil, Nat.zero_add, List.nil_append] at hfull htaken
    exact ⟨htaken, fun hfits => by omega, fun _ => ⟨_, rfl⟩⟩

/-- A sink that takes `limit` values is given the first values of a render, and a writer that takes
`room` bytes the first bytes of its text. If something is cut off, the result is the failure to
write, and otherwise it is that of the render into a sink that never fails. -/
theorem render_cutAt {limit : Nat} {taken : σ → List Value} (hsink : sink.TakesUpTo limit taken)
    {τ : Type} {writer : Writer τ} {room : Nat} {bytes : τ → List UInt8}
    (hwriter : writer.TakesUpTo room bytes) {out : σ} (hout : taken out = []) {target : τ}
    (htarget : bytes target = []) (store : Store) (registry : Registry) (name : String)
    (data : Dict Value) :
    let recorded := store.render registry .recorder name data []
    let limited := store.render registry sink name data out
    let streamed := store.render registry (.ofWriter writer) name data target
    CutAt limit recorded.2 (taken limited.2) recorded.1 limited.1 ∧
      CutAt room (recorded.2.flatMap (utf8 ·.display)) (bytes streamed.2) recorded.1
        streamed.1 := by
  intro recorded limited streamed
  have hvalues := cutAt_render hsink.text hsink.write_delivers hout store registry name data
  have htext : (Sink.ofWriter writer).TextAsValues := fun _ => rfl
  have hbytes := cutAt_render htext
    (fun value state => hwriter.writeAll_delivers (utf8 value.display) state) htarget store
    registry name data
  dsimp only at hvalues
  rw [List.flatMap_singleton'] at hvalues
  exact ⟨hvalues, hbytes⟩

def label : Store :=
  { templates := [("label", ⟨"label", "1", .source [.content "no. ", .display (.var "n"),
      .display (.var "missing")], []⟩)] }

/-- One value or five bytes of the label are less than it writes before it fails. -/
theorem render_cutAt_label :
    (Sink.values (some 1)).TakesUpTo 1 id ∧ (Writer.upTo (some 5)).TakesUpTo 5 id ∧
      let data := [("n", Value.ofInt 12)]
      let limited := label.render {} (.values (some 1)) "label" data []
      let streamed := label.render {} (.ofWriter (.upTo (some 5))) "label" data []
      (label.render {} .recorder "label" data []).1 = .error (.unknownVariable "missing") ∧
      (limited.2 = [.string "no. "] ∧ ∃ reason, limited.1 = .error (.writeFailed reason)) ∧
      streamed.2 = utf8 "no. 1" ∧ ∃ reason, streamed.1 = .error (.writeFailed reason) := by
  have hsink := Sink.takesUpTo_values 1
  have hwriter := Writer.takesUpTo_upTo 5
  have hcut := render_cutAt hsink hwriter (Eq.refl (id [])) (Eq.refl (id [])) label {} "label"
    [("n", Value.ofInt 12)]
  have hrecorded : label.render {} .recorder "label" [("n", Value.ofInt 12)] [] =
      (.error (.unknownVariable "missing"), [.string "no. ", .ofInt 12]) := rfl
  rw [hrecorded] at hcut
  obtain ⟨⟨hvalues, -, hfull⟩, hbytes, -, hfull'⟩ := hcut
  exact ⟨hsink, hwriter, rfl, ⟨hvalues, hfull (by decide)⟩, hbytes.trans (by decide),
    hfull' (by decide)⟩

end Store

end TemplateEngine
