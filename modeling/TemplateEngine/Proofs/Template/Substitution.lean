import TemplateEngine.Proofs.Markup.Pieces
import TemplateEngine.Proofs.Render.Failures
import TemplateEngine.Proofs.Render.Sequence
import TemplateEngine.Proofs.Render.Static
import TemplateEngine.Proofs.Render.Termination
import TemplateEngine.Proofs.Render.Writes
import TemplateEngine.Proofs.Template.Compile

/-! # Markup is rendered by substitution

The pieces of markup are written in turn: text as it is, comments not at all, and for every display
tag its value. What is written is not read again. -/

namespace TemplateEngine

/-- A context with data and callbacks alone. -/
def Context.ofData (registry : Registry) (data : Dict Value) : Context :=
  { data, blocks := [], registry, store := {}, entry := "" }

namespace Markup.Piece

variable (valueOf : Expr → Except RenderError Value)

/-- What a piece writes, given what expressions come to. -/
def writes : Piece → Except RenderError (List Write)
  | .raw text => .ok [.text (String.ofList text)]
  | .comment _ => .ok []
  | .display _ expr => (valueOf expr).map fun value => [.value value]

/-- What pieces write in turn, up to the first that fails. -/
def allWrites : List Piece → Except RenderError Unit × List Write
  | [] => (.ok (), [])
  | piece :: pieces =>
    match piece.writes valueOf with
    | .ok written => ((allWrites pieces).1, written ++ (allWrites pieces).2)
    | .error error => (.error error, [])

/-- The text that stands for a piece in the output. -/
def replaced : Piece → Except RenderError String
  | .raw text => .ok (String.ofList text)
  | .comment _ => .ok ""
  | .display _ expr => (valueOf expr).map Value.display

theorem replaced_eq_map_writes (piece : Piece) :
    piece.replaced valueOf =
      (piece.writes valueOf).map fun written => String.join (written.map Write.display) := by
  cases piece with
  | raw text => simp [replaced, writes, Except.map, Write.display]
  | comment text => rfl
  | display inside expr =>
    cases hvalue : valueOf expr with
    | error error => simp only [replaced, writes, hvalue, Except.map]
    | ok value => simp [replaced, writes, hvalue, Except.map, Write.display]

/-- The text of the writes is that of the pieces, each replaced by what it writes. -/
theorem map_allWrites (pieces : List Piece) :
    (allWrites valueOf pieces).1.map
        (fun () => String.join ((allWrites valueOf pieces).2.map Write.display)) =
      (pieces.mapM (replaced valueOf)).map String.join := by
  induction pieces with
  | nil => rfl
  | cons piece pieces ih =>
    rw [List.mapM_cons, replaced_eq_map_writes, allWrites]
    cases piece.writes valueOf with
    | error error => rfl
    | ok written =>
      dsimp only
      generalize allWrites valueOf pieces = all at ih ⊢
      generalize pieces.mapM (replaced valueOf) = texts at ih ⊢
      obtain ⟨result, others⟩ := all
      cases result with
      | error error =>
        cases texts with
        | error other => exact ih
        | ok texts => cases ih
      | ok _ =>
        cases texts with
        | error other => cases ih
        | ok texts =>
          have hothers : String.join (others.map Write.display) = String.join texts :=
            Except.ok.inj ih
          have hboth : String.join ((written ++ others).map Write.display) =
              String.join (String.join (written.map Write.display) :: texts) := by
            rw [List.map_append, String.join_append, String.join_cons, hothers]
          exact congrArg Except.ok hboth

theorem join_replaced_rawPieces (raw : List Char) :
    ((rawPieces raw).mapM (replaced valueOf)).map String.join = .ok (String.ofList raw) := by
  unfold rawPieces
  split
  · next h =>
    rw [h]
    rfl
  · have hjoin : String.join [String.ofList raw] = String.ofList raw := by simp
    exact congrArg Except.ok hjoin

theorem exists_of_allWrites {pieces : List Piece} {error : RenderError}
    (h : (allWrites valueOf pieces).1 = .error error) :
    ∃ inside expr, .display inside expr ∈ pieces ∧ valueOf expr = .error error := by
  induction pieces with
  | nil => cases h
  | cons piece pieces ih =>
    rw [allWrites] at h
    split at h
    · obtain ⟨inside, expr, hmem, hexpr⟩ := ih h
      exact ⟨inside, expr, List.mem_cons_of_mem _ hmem, hexpr⟩
    · next heq =>
      obtain rfl := Except.error.inj h
      cases piece with
      | raw text => cases heq
      | comment text => cases heq
      | display inside expr =>
        refine ⟨inside, expr, List.mem_cons_self, ?_⟩
        cases hvalue : valueOf expr with
        | ok value => simp [writes, hvalue, Except.map] at heq
        | error other => simpa [writes, hvalue, Except.map] using heq

end Markup.Piece

open Markup (Piece)

theorem evaluateNode_piece (expand : List Node → Action (List Write)) (piece : Piece)
    (context : Context) (written : List Write) :
    evaluateNode .log expand piece.node context written =
      match piece.writes context.eval with
      | .ok writes => ⟨.ok (), context, written ++ writes⟩
      | .error error => ⟨.error error, context, written⟩ := by
  cases piece with
  | raw text => rfl
  | comment text => simp [Piece.node, Piece.writes, evaluateNode, Action.skip]
  | display inside expr =>
    cases hvalue : context.eval expr with
    | ok value =>
      simp only [Piece.node, Piece.writes, evaluateNode, Action.withValue, hvalue, Except.map]
      rfl
    | error error =>
      simp only [Piece.node, Piece.writes, evaluateNode, Action.withValue, hvalue, Except.map]
      rfl

/-- The nodes of pieces write what the pieces do and leave the context as it is. -/
theorem evaluateNodes_pieces (expand : List Node → Action (List Write)) (pieces : List Piece)
    (context : Context) (written : List Write) :
    evaluateNodes .log expand (pieces.map Piece.node) context written =
      ⟨(Piece.allWrites context.eval pieces).1, context,
        written ++ (Piece.allWrites context.eval pieces).2⟩ := by
  induction pieces generalizing written with
  | nil =>
    rw [Piece.allWrites, List.append_nil]
    rfl
  | cons piece pieces ih =>
    have hpiece := evaluateNode_piece expand piece context written
    rw [List.map_cons, evaluateNodes, Piece.allWrites]
    cases hwrites : piece.writes context.eval with
    | ok writes =>
      rw [hwrites] at hpiece
      rw [Action.andThen_of_ok hpiece, ih, List.append_assoc]
    | error error =>
      rw [hwrites] at hpiece
      unfold Action.andThen
      rw [hpiece, List.append_nil]

namespace Store

/-- A template of pieces writes what the pieces do. Data and callbacks decide what that is, and the
other templates do not. -/
theorem logged_pieces (store : Store) (registry : Registry) (data : Dict Value)
    {template : Template} {pieces : List Piece} {name : String}
    (hfind : store.find? name = some template)
    (hroot : template.root = .source (pieces.map Piece.node)) :
    store.logged registry name data =
      Piece.allWrites (Context.ofData registry data).eval pieces := by
  let start := store.start registry name template data
  have heval : start.eval = (Context.ofData registry data).eval := by
    funext expr
    exact (Context.ofData registry data).eval_moveTo start expr
  rw [logged, store.render_of_find?_eq_some registry .log name data [] hfind,
    isRecursive_evaluateAll .log _ start [] (store.hasRoom_start registry name data template).1,
    evaluateNodes_singleton, hroot, evaluateNode, evaluateNodes_pieces, heval, List.nil_append]

end Store

namespace Engine

variable {engine loaded : Engine} {name source : String} {pieces : List Piece}

theorem logged_holding (engine : Engine) (name : String) (pieces : List Piece)
    (data : Dict Value) :
    (engine.holding (.ofMarkup name (.source (pieces.map Piece.node)))).store.logged
        engine.registry name data =
      Piece.allWrites (Context.ofData engine.registry data).eval pieces :=
  Store.logged_pieces _ engine.registry data (engine.find?_holding _) rfl

theorem renderTo_holding (engine : Engine) (name : String) (pieces : List Piece)
    (data : Dict Value) {σ : Type} {sink : Sink σ} (hsink : sink.NeverFails) (out : σ) :
    (engine.holding (.ofMarkup name (.source (pieces.map Piece.node)))).renderTo sink name data
        out =
      ((Piece.allWrites (Context.ofData engine.registry data).eval pieces).1,
        sink.after (Piece.allWrites (Context.ofData engine.registry data).eval pieces).2 out) := by
  rw [renderTo, Store.render_eq_logged _ _ _ _ hsink, ← engine.logged_holding name pieces data]
  rfl

theorem render_holding (engine : Engine) (name : String) (pieces : List Piece)
    (data : Dict Value) :
    (engine.holding (.ofMarkup name (.source (pieces.map Piece.node)))).render name data =
      (pieces.mapM (Piece.replaced (Context.ofData engine.registry data).eval)).map
        String.join := by
  rw [render, engine.renderTo_holding name pieces data Sink.neverFails_text,
    ← Piece.map_allWrites, Sink.after_text, String.empty_append]

/-- Rendering markup is substitution. The markup is cut into text between tags, comments and display
tags, and a sink that never fails is given the text and the values of the tags in turn, up to the
first tag without a value. So the output is the markup with comments left out and tags replaced by
what their values display, and markup without tags is its own output. A render fails only with the
error of a tag: a name is unknown, a callback fails, or a call ends a dotted path. -/
theorem addSource_substitution (engine : Engine) (name source : String) :
    (∀ tree, Markup.parse source = .ok tree → ∃ pieces loaded,
      Markup.IsCut pieces ∧ source.toList = pieces.flatMap Piece.source ∧
      engine.addSource name source = .ok loaded ∧
      ∀ data,
        let valueOf := (Context.ofData engine.registry data).eval
        let written := Piece.allWrites valueOf pieces
        (∀ {σ : Type} (sink : Sink σ), sink.NeverFails → ∀ out,
            loaded.renderTo sink name data out = (written.1, sink.after written.2 out)) ∧
          loaded.render name data = (pieces.mapM (Piece.replaced valueOf)).map String.join ∧
          ∀ error, written.1 = .error error → ∃ inside expr,
            .display inside expr ∈ pieces ∧ valueOf expr = .error error ∧
              error.OfValue True expr.HasCallStep) ∧
    ((∀ c ∈ ['\x7b', '%', '#'], ¬['\x7b', c] <:+: source.toList) →
      ∃ loaded, engine.addSource name source = .ok loaded ∧
        ∀ data, loaded.render name data = .ok source) := by
  constructor
  · intro tree hparse
    obtain ⟨pieces, hcut, hsource, rfl⟩ := Markup.exists_isCut_of_parse hparse
    refine ⟨pieces, _, hcut, hsource, engine.addSource_of_parse name hparse, fun data => ?_⟩
    intro valueOf written
    refine ⟨fun sink hsink out => engine.renderTo_holding name pieces data hsink out,
      engine.render_holding name pieces data, fun error herror => ?_⟩
    obtain ⟨inside, expr, hmem, hexpr⟩ := Piece.exists_of_allWrites valueOf herror
    have hselects : expr.Selects := hcut.selects hmem
    exact ⟨inside, expr, hmem, hexpr,
      (Context.eval_ofValue hexpr).imp (fun _ => hselects) id⟩
  · intro htags
    have hraw : Markup.RawBefore source.toList [] := Markup.rawBefore_nil_iff.mpr htags
    have hparse := Markup.parse_of_rawBefore hraw
    refine ⟨_, engine.addSource_of_parse name hparse, fun data => ?_⟩
    rw [engine.render_holding, Piece.join_replaced_rawPieces, String.ofList_toList]

/-- Markup with a comment between its tags. -/
def invitation : String :=
  "Dear \x7b\x7b guest \x7d\x7d\x7b# draft #\x7d, yours \x7b\x7b host \x7d\x7d."

/-- The guest looks like a tag and is written as it is. The comment is left out, and the render ends
at the tag that has no value. -/
theorem addSource_substitution_invitation :
    let data : Dict Value := [("guest", .string "\x7b\x7b x \x7d\x7d")]
    Sink.log.NeverFails ∧
      (∃ pieces loaded, Markup.IsCut pieces ∧ invitation.toList = pieces.flatMap Piece.source ∧
        ({} : Engine).addSource "card" invitation = .ok loaded ∧
        loaded.renderTo .log "card" data [] =
          (.error (.unknownVariable "host"),
            [.text "Dear ", .value (.string "\x7b\x7b x \x7d\x7d"), .text ", yours "]) ∧
        loaded.render "card" data = .error (.unknownVariable "host") ∧
        ∃ inside expr, .display inside expr ∈ pieces ∧
          (Context.ofData {} data).eval expr = .error (.unknownVariable "host")) ∧
      (∀ c ∈ ['\x7b', '%', '#'], ¬['\x7b', c] <:+: "a \x7b b \x7d\x7d".toList) ∧
      ∃ loaded, ({} : Engine).addSource "card" "a \x7b b \x7d\x7d" = .ok loaded ∧
        loaded.render "card" data = .ok "a \x7b b \x7d\x7d" := by
  intro data
  have hnever : Sink.log.NeverFails := fun write _ => by cases write <;> rfl
  have hplain : ∀ c ∈ ['\x7b', '%', '#'], ¬['\x7b', c] <:+: "a \x7b b \x7d\x7d".toList :=
    Markup.rawBefore_nil_iff.mp (Markup.takeRaw_sound "a \x7b b \x7d\x7d".toList).2.1
  have hparse : Markup.parse invitation = .ok (.source [.content "Dear ", .display (.var "guest"),
      .comment " draft ", .content ", yours ", .display (.var "host"), .content "."]) := by
    cbv
  obtain ⟨hparsed, -⟩ := addSource_substitution {} "card" invitation
  obtain ⟨pieces, loaded, hcut, hsource, hadd, hdata⟩ := hparsed _ hparse
  obtain rfl := Except.ok.inj ((addSource_of_parse {} "card" hparse).symm.trans hadd)
  obtain ⟨hwrites, -, hfails⟩ := hdata data
  have hlog := hwrites .log hnever []
  have hwritten : (Piece.allWrites (Context.ofData {} data).eval pieces).1 =
      .error (.unknownVariable "host") := (congrArg Prod.fst hlog).symm
  obtain ⟨inside, expr, hmem, hexpr, -⟩ := hfails _ hwritten
  obtain ⟨loaded, hload, hsame⟩ :=
    (addSource_substitution {} "card" "a \x7b b \x7d\x7d").2 hplain
  exact ⟨hnever, ⟨pieces, _, hcut, hsource, hadd, rfl, rfl, inside, expr, hmem, hexpr⟩, hplain,
    loaded, hload, hsame data⟩

end Engine

end TemplateEngine
