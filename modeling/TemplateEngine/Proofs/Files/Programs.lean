import TemplateEngine.Proofs.Files.Tree

/-! # Programs on trees of files

Creating directories, also a whole way of them, leaves all files as they are, whether it succeeds or
fails. -/

namespace TemplateEngine.FileTree

variable {α β : Type}

/-- The program adds, changes and removes no file. -/
def KeepsFiles (program : StateM FileTree α) : Prop :=
  ∀ tree : FileTree, tree.SameFiles (program.run tree).2

namespace KeepsFiles

theorem pure (a : α) : KeepsFiles (Pure.pure a) := fun tree => .refl tree

theorem bind {program : StateM FileTree α} {next : α → StateM FileTree β}
    (h : KeepsFiles program) (hnext : ∀ a, KeepsFiles (next a)) :
    KeepsFiles (program >>= next) := by
  intro tree
  rw [StateT.run_bind]
  exact (h tree).trans (hnext _ _)

variable (here : List String)

theorem read (path : String) : KeepsFiles ((fileSystem here).read path) := fun tree => .refl tree

theorem createDirectory (path : String) : KeepsFiles ((fileSystem here).createDirectory path) := by
  intro tree
  have hcreate : ((fileSystem here).createDirectory path).run tree =
      update (FileTree.createDirectory here path) tree := rfl
  rw [hcreate, update]
  split
  · next tree' heq => exact sameFiles_of_createDirectory heq
  · exact .refl tree

theorem isDirectory (path : String) : KeepsFiles ((fileSystem here).isDirectory path) := by
  refine (read here path).bind fun result => ?_
  split <;> exact pure _

theorem ensureDirectory (path : String) : KeepsFiles ((fileSystem here).ensureDirectory path) := by
  refine (createDirectory here path).bind fun result => ?_
  split
  · refine (isDirectory here path).bind fun found => ?_
    split <;> exact pure _
  · exact pure _

theorem ensureDirectories (paths : List String) :
    KeepsFiles ((fileSystem here).ensureDirectories paths) := by
  induction paths with
  | nil => exact pure _
  | cons path outer ih =>
    refine (ensureDirectory here path).bind fun result => ?_
    split
    · refine ih.bind fun created => ?_
      split
      · exact ensureDirectory here path
      · exact pure _
    · exact pure _

theorem createDirectories (path : String) : KeepsFiles ((fileSystem here).createDirectories path) :=
  ensureDirectories here (Path.ancestors path)

end KeepsFiles

end TemplateEngine.FileTree
