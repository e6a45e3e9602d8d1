import TemplateEngine.CommandLine.Program
import TemplateEngine.Proofs.Files.Programs
import TemplateEngine.Proofs.Render.Sinks

/-! # Renders to files and to the standard output

A render to a file and one to the standard output load the same templates and data and write the
same bytes. A file is not touched before all else has succeeded. -/

namespace TemplateEngine

theorem utf8_eq_toUTF8 (text : String) : utf8 text = text.toUTF8.data.toList := by
  have hbytes : text.toUTF8 = text.toList.utf8Encode := by
    rw [← String.toByteArray_ofList, String.ofList_toList]
    rfl
  rw [hbytes]
  exact List.toList_data_toByteArray.symm

theorem Writer.takesAll_printer : printer.TakesAll (·.data.toList) := by
  intro bytes printed hbytes
  refine ⟨bytes.length, printed ++ ⟨bytes.toArray⟩, rfl, List.length_pos_iff.mpr hbytes,
    Nat.le_refl _, ?_⟩
  rw [List.take_length]
  dsimp only
  rw [ByteArray.data_append, Array.toList_append]

/-- What is printed are the bytes of the text, also before an error. -/
theorem Engine.renderTo_printer (engine : Engine) (name : String) (data : Dict Value) :
    engine.renderTo (.ofWriter .printer) name data .empty =
      ((engine.store.logged engine.registry name data).1,
        (engine.store.loggedText engine.registry name data).toUTF8) := by
  obtain ⟨hresult, hbytes⟩ := engine.store.render_ofWriter engine.registry name data
    Writer.takesAll_printer .empty
  refine Prod.ext hresult (ByteArray.ext (Array.toList_inj.mp ?_))
  rw [utf8_eq_toUTF8] at hbytes
  exact hbytes

namespace CommandLine

section

variable {α β : Type}

/-- The command leaves all as it is, and where it fails it has printed nothing. -/
def Inspects (command : Run (StateM FileTree) α) : Prop :=
  ∀ tree, (∃ a, command.run.run tree = (.ok a, tree)) ∨
    ∃ messages, command.run.run tree = (.error ⟨messages, .empty⟩, tree)

namespace Inspects

theorem pure (a : α) : Inspects (Pure.pure a) := fun _ => .inl ⟨a, rfl⟩

theorem failWith (messages : List String) :
    Inspects (failWith messages : Run (StateM FileTree) α) := fun _ => .inr ⟨messages, rfl⟩

theorem bind {command : Run (StateM FileTree) α} {next : α → Run (StateM FileTree) β}
    (h : Inspects command) (hnext : ∀ a, Inspects (next a)) : Inspects (command >>= next) := by
  intro tree
  obtain ⟨a, hrun⟩ | ⟨messages, hrun⟩ := h tree
  · rw [run_bind, hrun]
    exact hnext a tree
  · exact .inr ⟨messages, by rw [run_bind, hrun]⟩

theorem foldlM {step : β → α → Run (StateM FileTree) β}
    (h : ∀ state item, Inspects (step state item)) (items : List α) (state : β) :
    Inspects (items.foldlM step state) := by
  induction items generalizing state with
  | nil => exact pure state
  | cons item items ih =>
    rw [List.foldlM_cons]
    exact (h state item).bind ih

variable (here : List String)

theorem read (path : String) :
    Inspects (liftM ((FileTree.fileSystem here).read path) : Run (StateM FileTree) _) :=
  fun tree => .inl ⟨tree.read here path, rfl⟩

theorem readText (path context : String) :
    Inspects (readText (FileTree.fileSystem here) path context) := by
  refine (read here path).bind fun result => ?_
  split
  · exact failWith _
  · split
    · exact pure _
    · exact failWith _

theorem registered (result : Except RenderError Engine) (context : String) :
    Inspects (registered result context : Run (StateM FileTree) Engine) := by
  unfold CommandLine.registered
  split
  · exact pure _
  · exact failWith _

theorem templateName (path : String) :
    Inspects (templateName path : Run (StateM FileTree) String) := by
  unfold CommandLine.templateName
  split
  · exact pure _
  · exact failWith _

theorem addTemplateFile (engine : Engine) (path : String) :
    Inspects (addTemplateFile (FileTree.fileSystem here) engine path) := by
  refine (readText here path _).bind fun text => ?_
  split
  · exact registered _ _
  · exact (templateName path).bind fun name => registered _ _

theorem loadEngine (options : RenderOptions) :
    Inspects (loadEngine (FileTree.fileSystem here) options) :=
  (foldlM (addTemplateFile here) options.templates _).bind fun engine =>
    foldlM (fun _ _ => registered _ _) options.documents.zipIdx engine

theorem parseData (path text : String) :
    Inspects (parseData path text : Run (StateM FileTree) Value) := by
  unfold CommandLine.parseData
  split
  · split
    · exact pure _
    · exact failWith _
  · split
    · exact pure _
    · exact failWith _

theorem loadData (path : Option String) :
    Inspects (loadData (FileTree.fileSystem here) path) := by
  cases path with
  | none => exact pure _
  | some path =>
    refine (readText here path _).bind fun text => (parseData path text).bind fun value => ?_
    split
    · exact pure _
    · exact pure _
    · exact failWith _

/-- Everything that a render needs is read before it writes anything. -/
theorem prepare (options : RenderOptions) :
    Inspects (prepare (FileTree.fileSystem here) options) := by
  unfold CommandLine.prepare
  split
  · exact failWith _
  · exact (loadEngine here options).bind fun engine =>
      (loadData here options.data).bind fun data => pure _

end Inspects

end

/-- How a run that writes a file ends: the file is written and all others are as they were, or the
directory around it cannot be created, or the file cannot be written. -/
inductive SavesTo (here : List String) (path : String) (content : ByteArray) (tree : FileTree) :
    Exit → FileTree → Prop
  | saved {after : FileTree} {names : List String} (hread : after.read here path = .ok content)
      (hplace : after.LeadsTo here path names) (hfile : after.file? names = some content)
      (hothers : ∀ others, others ≠ names → after.file? others = tree.file? others) :
      SavesTo here path content tree ⟨0, (savedText path).toUTF8, ""⟩ after
  | notCreated {parent : String} {error : FileError} {after : FileTree}
      (hparent : Path.parent? path = some parent)
      (hcreate : ((FileTree.fileSystem here).createDirectories parent).run tree =
        (.error error, after)) (hfiles : tree.SameFiles after) :
      SavesTo here path content tree
        (.ofResult (.error ⟨["failed to create " ++ parent, error.message], .empty⟩)) after
  | notWritten {error : FileError} {after : FileTree} (hfiles : tree.SameFiles after)
      (hwrite : after.write here path content = .error error) :
      SavesTo here path content tree
        (.ofResult (.error ⟨["failed to write " ++ path, error.message], .empty⟩)) after

section

variable (here : List String) (path : String) (tree : FileTree)

theorem createParent_cases :
    (∃ after, (createParent (FileTree.fileSystem here) path).run.run tree = (.ok (), after) ∧
      tree.SameFiles after) ∨
    ∃ parent error after, Path.parent? path = some parent ∧
      ((FileTree.fileSystem here).createDirectories parent).run tree = (.error error, after) ∧
      (createParent (FileTree.fileSystem here) path).run.run tree =
        (.error ⟨["failed to create " ++ parent, error.message], .empty⟩, after) := by
  unfold createParent
  split
  · exact .inl ⟨tree, rfl, .refl tree⟩
  · exact .inl ⟨tree, rfl, .refl tree⟩
  · next parent _ hparent =>
    have hfiles := FileTree.KeepsFiles.createDirectories here parent tree
    have hlift : (liftM ((FileTree.fileSystem here).createDirectories parent) :
        Run (StateM FileTree) _).run.run tree =
        (.ok (((FileTree.fileSystem here).createDirectories parent).run tree).1,
          (((FileTree.fileSystem here).createDirectories parent).run tree).2) := rfl
    rw [run_bind, hlift]
    cases hcreate : ((FileTree.fileSystem here).createDirectories parent).run tree with
    | mk result after =>
      rw [hcreate] at hfiles
      cases result with
      | ok _ => exact .inl ⟨after, rfl, hfiles⟩
      | error error => exact .inr ⟨parent, error, after, hparent, hcreate, rfl⟩

theorem run_save (text : String) :
    (save (FileTree.fileSystem here) path text).run.run tree =
      match tree.write here path text.toUTF8 with
      | .ok after => (.ok (savedText path).toUTF8, after)
      | .error error => (.error ⟨["failed to write " ++ path, error.message], .empty⟩, tree) := by
  have hlift : (liftM ((FileTree.fileSystem here).write path text.toUTF8) :
      Run (StateM FileTree) _).run.run tree =
      (.ok (FileTree.update (FileTree.write here path text.toUTF8) tree).1,
        (FileTree.update (FileTree.write here path text.toUTF8) tree).2) := rfl
  unfold save
  rw [run_bind, hlift, FileTree.update]
  cases tree.write here path text.toUTF8 <;> rfl

/-- Once a render has succeeded only the file can fail. -/
theorem savesTo_of_render {engine : Engine} {name text : String} {data : Dict Value}
    (h : engine.render name data = .ok text) :
    let saved := (renderToFile (FileTree.fileSystem here) engine name data path).run.run tree
    SavesTo here path text.toUTF8 tree (.ofResult saved.1) saved.2 := by
  intro saved
  have hsaved : saved = (createParent (FileTree.fileSystem here) path >>= fun _ =>
      save (FileTree.fileSystem here) path text).run.run tree := by
    simp only [saved, renderToFile, h]
  rw [hsaved, run_bind]
  obtain ⟨between, hcreate, hfiles⟩ | ⟨parent, error, after, hparent, hfails, hcreate⟩ :=
    createParent_cases here path tree
  · rw [hcreate]
    dsimp only
    rw [run_save]
    cases hwrite : between.write here path text.toUTF8 with
    | error error => exact .notWritten hfiles hwrite
    | ok after =>
      obtain ⟨hread, names, hplace, hfile, hothers⟩ := FileTree.of_write_eq_ok hwrite
      refine .saved hread hplace hfile fun others hne => ?_
      rw [hothers others hne, hfiles others]
  · rw [hcreate]
    have hfiles := FileTree.KeepsFiles.createDirectories here parent tree
    rw [hfails] at hfiles
    exact .notCreated hparent hfails hfiles

end

section

variable (here : List String) (tree : FileTree)

theorem run_renderToOutput (engine : Engine) (name : String) (data : Dict Value) :
    (renderToOutput engine name data : Run (StateM FileTree) ByteArray).run.run tree =
      (match (engine.store.logged engine.registry name data).1 with
        | .ok () => .ok (engine.store.loggedText engine.registry name data).toUTF8
        | .error error => .error ⟨renderMessages name error,
            (engine.store.loggedText engine.registry name data).toUTF8⟩, tree) := by
  rw [renderToOutput, engine.renderTo_printer name data]
  cases (engine.store.logged engine.registry name data).1 <;> rfl

theorem run_eq_of_command? {args : List String} {options : RenderOptions}
    (h : command? args = some (.render options)) :
    (run (FileTree.fileSystem here) args).run tree =
      (.ofResult ((render (FileTree.fileSystem here) options).run.run tree).1,
        ((render (FileTree.fileSystem here) options).run.run tree).2) := by
  rw [run, h]
  rfl

/-- A render to a file and the same render to the standard output. What the latter prints the former
writes, and unless that fails all other files are as they were. Where the latter fails the former
fails in the same way, having printed nothing and changed no file, whatever had been printed. -/
theorem run_render_output {args args' : List String} {options : RenderOptions}
    (hargs : command? args = some (.render options)) (houtput : options.output ≠ standardOutput)
    (hargs' : command? args' = some (.render { options with output := standardOutput })) :
    let toFile := (run (FileTree.fileSystem here) args).run tree
    let toOutput := (run (FileTree.fileSystem here) args').run tree
    toOutput.2 = tree ∧
      (toOutput.1.code = 0 →
        SavesTo here options.output toOutput.1.printed tree toFile.1 toFile.2) ∧
      (toOutput.1.code ≠ 0 → toFile = (⟨toOutput.1.code, .empty, toOutput.1.errors⟩, tree)) := by
  intro toFile toOutput
  have hprepare : prepare (FileTree.fileSystem here) { options with output := standardOutput } =
      prepare (FileTree.fileSystem here) options := rfl
  have hfile : toFile = _ := run_eq_of_command? here tree hargs
  have houtput' : toOutput = _ := run_eq_of_command? here tree hargs'
  rw [hfile, houtput', render, render, run_bind, run_bind, hprepare]
  obtain ⟨⟨engine, data⟩, hrun⟩ | ⟨messages, hrun⟩ := Inspects.prepare here options tree
  · rw [hrun]
    dsimp only
    rw [if_neg houtput, if_pos rfl, run_renderToOutput]
    have hrender := engine.render_eq_map_logged options.name data
    cases hlogged : (engine.store.logged engine.registry options.name data).1 with
    | ok _ =>
      rw [hlogged] at hrender
      exact ⟨rfl, fun _ => savesTo_of_render here options.output tree hrender,
        fun hcode => absurd rfl hcode⟩
    | error error =>
      rw [hlogged] at hrender
      have hfails : (renderToFile (FileTree.fileSystem here) engine options.name data
          options.output).run.run tree =
          (.error ⟨renderMessages options.name error, .empty⟩, tree) := by
        rw [renderToFile, hrender]
        rfl
      rw [hfails]
      exact ⟨rfl, nofun, fun _ => rfl⟩
  · rw [hrun]
    exact ⟨rfl, nofun, fun _ => rfl⟩

end

def greetingFiles : FileTree :=
  .directory [("hi.txt", .file "Hi \x7b\x7b name \x7d\x7d".toUTF8),
    ("who.json", .file "\x7b\"name\": \"you\"\x7d".toUTF8)]

def greetingArgs (data : Option String) (output : String) : List String :=
  ["render", "--template", "hi.txt", "--name", "hi", "--output", output] ++
    data.elim [] fun path => ["--data", path]

def greetingOptions (data : Option String) (output : String) : RenderOptions where
  templates := ["hi.txt"]
  documents := []
  data := data
  name := "hi"
  output := output
  maxIncludeDepth := defaultIncludeDepth

theorem command?_greetingArgs : ∀ data ∈ [none, some "who.json"], ∀ output ∈ ["out/hi", "stdout"],
    command? (greetingArgs data output) = some (.render (greetingOptions data output)) := by
  have hwords : ∀ data ∈ [none, some "who.json"], ∀ output ∈ ["out/hi", "stdout"],
      words? renderSpecs (greetingArgs data output).tail =
        some { words := [.option "template" "hi.txt", .option "name" "hi",
          .option "output" output] ++ (data.map (.option "data")).toList } := by
    decide +kernel
  intro data hdata output houtput
  have hrender : command? (greetingArgs data output) =
      renderCommand? (greetingArgs data output).tail := rfl
  rw [hrender, renderCommand?, hwords data hdata output houtput]
  simp only [List.mem_cons, List.not_mem_nil, or_false] at hdata houtput
  obtain rfl | rfl := hdata <;> obtain rfl | rfl := houtput <;> rfl

def greet (data : Option String) (output : String) : Exit × FileTree :=
  (run (FileTree.fileSystem []) (greetingArgs data output)).run greetingFiles

theorem greet_stdout {data : Option String} (hdata : data ∈ [none, some "who.json"]) :
    (greet data "stdout").1 = .ofResult
      ((render (FileTree.fileSystem []) (greetingOptions data "stdout")).run.run greetingFiles).1 :=
  congrArg Prod.fst
    (run_eq_of_command? [] greetingFiles (command?_greetingArgs data hdata "stdout" (by decide)))

/-- With its data the greeting is saved. Without them the standard output has the text before the
variable, and a file is not even created. -/
theorem run_render_output_greeting :
    SavesTo [] "out/hi" "Hi you".toUTF8 greetingFiles (greet (some "who.json") "out/hi").1
        (greet (some "who.json") "out/hi").2 ∧
      (greet none "stdout").1.printed = "Hi ".toUTF8 ∧
      greet none "out/hi" = (⟨1, .empty, (greet none "stdout").1.errors⟩, greetingFiles) := by
  have hsaved : (greet (some "who.json") "stdout").1.code = 0 ∧
      (greet (some "who.json") "stdout").1.printed = "Hi you".toUTF8 := by
    rw [greet_stdout (by decide)]
    decide +kernel
  have hfailed : (greet none "stdout").1.code = 1 ∧
      (greet none "stdout").1.printed = "Hi ".toUTF8 := by
    rw [greet_stdout (by decide)]
    decide +kernel
  have hoptions (data : Option String) : (greetingOptions data "out/hi").output ≠ standardOutput :=
    (by decide : "out/hi" ≠ "stdout")
  obtain ⟨-, hsaves, -⟩ := run_render_output [] greetingFiles
    (command?_greetingArgs (some "who.json") (by decide) "out/hi" (by decide)) (hoptions _)
    (command?_greetingArgs (some "who.json") (by decide) "stdout" (by decide))
  obtain ⟨-, -, hfails⟩ := run_render_output [] greetingFiles
    (command?_greetingArgs none (by decide) "out/hi" (by decide)) (hoptions _)
    (command?_greetingArgs none (by decide) "stdout" (by decide))
  have hgreet (data : Option String) (output : String) :
      (run (FileTree.fileSystem []) (greetingArgs data output)).run greetingFiles =
        greet data output := rfl
  rw [hgreet, hgreet, hsaved.1, hsaved.2] at hsaves
  rw [hgreet, hgreet, hfailed.1] at hfails
  exact ⟨hsaves rfl, hfailed.2, hfails (by decide)⟩

end CommandLine

end TemplateEngine
