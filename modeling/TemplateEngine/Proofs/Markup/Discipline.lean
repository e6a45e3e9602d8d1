import TemplateEngine.Proofs.Markup.Cursor

/-! # How a cursor may be used

Which acts are allowed depends on the cursor, and on the argument that was begun last. From the acts
that are allowed one by one follows what holds all along: the cursor stands between characters, no
more levels are entered than may be, and it never goes back to the same offset twice. -/

namespace TemplateEngine.Markup.Cursor

variable {source : String}

/-- The offset is in the source, between two of its characters or at an end. -/
def IsBoundary (source : String) (offset : Nat) : Prop :=
  (⟨offset⟩ : String.Pos.Raw).IsValid source

theorem IsBoundary.le {offset : Nat} (h : IsBoundary source offset) :
    offset ≤ source.utf8ByteSize :=
  h.le_utf8ByteSize

structure Stage where
  cursor : Cursor
  /-- Where the last argument starts. -/
  begun : Option Nat
  /-- Whether the cursor has gone back in that argument. -/
  retreated : Bool

namespace Stage

def start : Stage := ⟨⟨0, 0⟩, none, false⟩

def next (stage : Stage) (act : Act) : Stage where
  cursor := act.move stage.cursor
  begun := match act with
    | .begins start => some start
    | _ => stage.begun
  retreated := match act with
    | .begins _ => false
    | .retreats _ => true
    | _ => stage.retreated

def after (stage : Stage) (acts : List Act) : Stage :=
  acts.foldl next stage

end Stage

/-- What is asked of an act at a stage. -/
def Allowed (source : String) (stage : Stage) : Act → Prop
  | .cuts start stop => start ≤ stop ∧ IsBoundary source start ∧ IsBoundary source stop
  | .advances stop => stage.cursor.offset < stop ∧ IsBoundary source stop
  | .retreats stop => stop < stage.cursor.offset ∧ stage.begun = some stop ∧
      stage.retreated = false
  | .nests => stage.cursor.depth < maxNesting
  | .unnests => 0 < stage.cursor.depth
  | .begins start => start = stage.cursor.offset ∧ ∀ earlier ∈ stage.begun, earlier < start
  | .repeats _ start => start < stage.cursor.offset
  | .returns routine entry succeeds => stage.cursor.depth = entry.depth ∧
      (succeeds → routine.Advances → entry.offset < stage.cursor.offset)

/-- Every act is allowed at the stage that the acts before it lead to. -/
inductive Run (source : String) : Stage → List Act → Prop
  | nil {stage : Stage} : Run source stage []
  | cons {stage : Stage} {act : Act} {acts : List Act} (h : Allowed source stage act)
      (hrest : Run source (stage.next act) acts) : Run source stage (act :: acts)

variable {stage : Stage} {act : Act} {acts more : List Act}

namespace Stage

theorem after_nil : stage.after [] = stage := rfl

theorem after_cons : stage.after (act :: acts) = (stage.next act).after acts := rfl

theorem after_append : stage.after (acts ++ more) = (stage.after acts).after more :=
  List.foldl_append

end Stage

theorem Run.append (h : Run source stage acts) (hmore : Run source (stage.after acts) more) :
    Run source stage (acts ++ more) := by
  induction h with
  | nil => exact hmore
  | cons hact _ ih => exact .cons hact (ih hmore)

theorem Run.of_append (h : Run source stage (acts ++ more)) :
    Run source stage acts ∧ Run source (stage.after acts) more := by
  induction acts generalizing stage with
  | nil => exact ⟨.nil, h⟩
  | cons act acts ih =>
    cases h with
    | cons hact hrest => exact ⟨.cons hact (ih hrest).1, (ih hrest).2⟩

theorem Run.allowed (h : Run source stage (acts ++ act :: more)) :
    Allowed source (stage.after acts) act := by
  cases h.of_append.2 with
  | cons hact => exact hact

structure Sound (source : String) (stage : Stage) : Prop where
  boundary : IsBoundary source stage.cursor.offset
  depth_le : stage.cursor.depth ≤ maxNesting
  begun : ∀ start ∈ stage.begun, IsBoundary source start

theorem sound_start : Sound source .start where
  boundary := String.Pos.Raw.isValid_zero
  depth_le := Nat.zero_le _
  begun := nofun

theorem Sound.next (h : Sound source stage) (hact : Allowed source stage act) :
    Sound source (stage.next act) := by
  cases act with
  | cuts start stop => exact ⟨h.boundary, h.depth_le, h.begun⟩
  | advances stop => exact ⟨hact.2, h.depth_le, h.begun⟩
  | retreats stop => exact ⟨h.begun stop hact.2.1, h.depth_le, h.begun⟩
  | nests => exact ⟨h.boundary, hact, h.begun⟩
  | unnests => exact ⟨h.boundary, (Nat.sub_le _ _).trans h.depth_le, h.begun⟩
  | begins start =>
    obtain ⟨rfl, -⟩ := hact
    refine ⟨h.boundary, h.depth_le, fun start hstart => ?_⟩
    exact Option.some.inj hstart ▸ h.boundary
  | repeats loop start => exact ⟨h.boundary, h.depth_le, h.begun⟩
  | returns routine entry succeeds => exact ⟨h.boundary, h.depth_le, h.begun⟩

theorem Run.sound (h : Run source stage acts) (hstage : Sound source stage) :
    Sound source (stage.after acts) := by
  induction h with
  | nil => exact hstage
  | cons hact _ ih => exact ih (hstage.next hact)

def retreats (acts : List Act) : List Nat :=
  acts.filterMap fun
    | .retreats stop => some stop
    | _ => none

/-- Steps back lead to where an argument starts that is begun later, or to the start of the last one
if there was none in that argument yet. -/
def Stage.MayRetreat (stage : Stage) (stop : Nat) : Prop :=
  ∀ start ∈ stage.begun, start < stop ∨ start = stop ∧ stage.retreated = false

/-- After any act fewer steps back are left. -/
theorem mayRetreat_of_next (hact : Allowed source stage act) {stop : Nat}
    (h : (stage.next act).MayRetreat stop) : stage.MayRetreat stop := by
  intro start hstart
  cases act with
  | retreats stop' =>
    exact (h start hstart).imp_right fun hsame => absurd hsame.2 Bool.true_eq_false.mp
  | begins start' =>
    have hlt := hact.2 start hstart
    rcases h start' rfl with hlater | ⟨rfl, -⟩
    · exact Or.inl (hlt.trans hlater)
    · exact Or.inl hlt
  | _ => exact h start hstart

theorem Run.mayRetreat (h : Run source stage acts) :
    ∀ stop ∈ retreats acts, stage.MayRetreat stop := by
  induction h with
  | nil => nofun
  | @cons stage act acts hact hrest ih =>
    intro stop hstop
    rcases List.mem_filterMap.mp hstop with ⟨act', hmem, hact'⟩
    rcases List.mem_cons.mp hmem with rfl | hmem
    · cases act' with
      | retreats stop' =>
        obtain rfl := Option.some.inj hact'
        intro start hstart
        obtain rfl : stop' = start := Option.some.inj (hact.2.1.symm.trans hstart)
        exact Or.inr ⟨rfl, hact.2.2⟩
      | _ => cases hact'
    · exact mayRetreat_of_next hact (ih stop (List.mem_filterMap.mpr ⟨act', hmem, hact'⟩))

/-- The cursor goes back to later and later offsets. -/
theorem Run.pairwise_retreats (h : Run source stage acts) :
    (retreats acts).Pairwise (· < ·) := by
  induction h with
  | nil => exact .nil
  | @cons stage act acts hact hrest ih =>
    cases act with
    | retreats stop =>
      refine List.pairwise_cons.mpr ⟨fun later hlater => ?_, ih⟩
      rcases hrest.mayRetreat later hlater stop hact.2.1 with hlt | ⟨-, hsame⟩
      · exact hlt
      · cases hsame
    | _ => exact ih

end TemplateEngine.Markup.Cursor
