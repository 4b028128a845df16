import ModelStore.Config.Location
import ModelStore.Proofs.Files.Joining

/-!
# Paths from the home directory

A text that starts at a tilde is resolved whatever the home directory is, and wherever it is said.
What stands behind the slash of the tilde is put into the home directory: the path has the home
directory in front, and leads on from its place.  A second slash makes a path from the root of what
stands behind the first one.  Such a path takes nothing from the home directory, and has it in front
only if it says so itself.

## Main definitions

* `Text.FromHome`: texts that start at a tilde.
* `Config.storeText`: what is said of the path of the store.

## Main results

* `Environment.exists_resolvePath`: what a text that starts at a tilde is resolved to.
* `Environment.within_home_iff`: which of these paths have the home directory in front.
-/

namespace ModelStore

/-! ## Texts -/

/-- Texts that start at a tilde, blanks around them apart, with what stands behind its slash. -/
inductive Text.FromHome (text : String) : String → Prop
  | home (hText : Text.trim text = "~") : FromHome text ""
  | inside {rest : String} (hText : Text.trim text = "~/" ++ rest) : FromHome text rest

/-- What is said of the path of the store: the environment has the first word, then the
configuration. -/
def Config.storeText (env : Environment) (config : Config) : String :=
  (env.storeFile.or config.dbPath).getD env.defaultStorePath

/-- The path of a store is the one that is meant by what is said of it, unless that asks for a store
in memory. -/
theorem Config.storePath_eq_resolvePath {env : Environment} {config : Config}
    (hFile : config.storeText env ≠ inMemoryPath) :
    config.storePath env = env.resolvePath (config.storeText env) := by
  unfold storeText at hFile ⊢
  unfold storePath
  cases hSaid : env.storeFile with
  | some text => rfl
  | none =>
      cases hPath : config.dbPath with
      | none => rfl
      | some text =>
          rw [hSaid, hPath] at hFile
          exact if_neg hFile

namespace Environment

/-! ## Resolving -/

variable (env : Environment) {text rest : String}

theorem resolvePath_home (hText : Text.trim text = "~") :
    env.resolvePath text = .ok env.homeDirectory := by
  rw [resolvePath, hText]
  rfl

/-- What stands behind a tilde is put into the home directory. -/
theorem resolvePath_inside (hText : Text.trim text = "~/" ++ rest) :
    env.resolvePath text = .ok (Path.join env.homeDirectory rest) := by
  have hChars : ("~/" ++ rest).toList = '~' :: '/' :: rest.toList := by simp
  rw [resolvePath, hText, hChars]
  show Except.ok (Path.join env.homeDirectory (String.ofList rest.toList)) = _
  rw [String.ofList_toList]

theorem ne_inMemoryPath_of_fromHome (hText : Text.FromHome text rest) :
    text ≠ Config.inMemoryPath := by
  rintro rfl
  have hTrim : Text.trim Config.inMemoryPath = ":memory:" := by decide
  cases hText with
  | home hText => exact absurd (hTrim.symm.trans hText) (by decide)
  | inside hText =>
      have hFirst := congrArg (·.toList.head?) (hTrim.symm.trans hText)
      simp at hFirst

/-- What a text that starts at a tilde is resolved to: what stands behind the slash, if that starts
at the root, and else a path that leads along it from the home directory. -/
theorem exists_resolvePath (hText : Text.FromHome text rest) :
    ∃ path : Path, env.resolvePath text = .ok path ∧
      (Path.isAbsolute rest = true → path = rest) ∧
      (Path.isAbsolute rest = false → Path.Within env.homeDirectory path ∧
        ∀ tree : FileTree, tree.nominalPlace path =
          (tree.nominalPlace env.homeDirectory).bind (tree.follow · (Path.parts rest))) := by
  cases hText with
  | home hText =>
      exact ⟨env.homeDirectory, env.resolvePath_home hText, nofun,
        fun _ => ⟨Path.Within.refl _, fun _ => (Option.bind_fun_some _).symm⟩⟩
  | inside hText =>
      exact ⟨Path.join env.homeDirectory rest, env.resolvePath_inside hText,
        fun hRoot => Path.join_of_isAbsolute hRoot _,
        fun hInside => ⟨Path.within_join hInside _, fun tree => tree.nominalPlace_join hInside⟩⟩

/-! ## Homes -/

/-- **Homes**: a text that starts at a tilde is always resolved, wherever it is said of the store.
The path has the home directory in front just if what stands behind the slash of the tilde does not
start at the root, or has the home directory in front itself.  If it starts at the root, it is the
path.  Otherwise the path leads along it from the place of the home directory, and to a place inside
unless a part goes back up. -/
theorem within_home_iff (hText : Text.FromHome text rest) :
    ∃ path : Path, env.resolvePath text = .ok path ∧
      (∀ config : Config, config.storeText env = text → config.storePath env = .ok path) ∧
      (Path.Within env.homeDirectory path ↔
        (Path.isAbsolute rest = true → Path.Within env.homeDirectory rest)) ∧
      (Path.isAbsolute rest = true → path = rest) ∧
      (Path.isAbsolute rest = false → ∀ tree : FileTree,
        tree.nominalPlace path =
          (tree.nominalPlace env.homeDirectory).bind (tree.follow · (Path.parts rest)) ∧
        (".." ∉ Path.parts rest → ∀ place, tree.nominalPlace path = some place →
          ∃ home, tree.nominalPlace env.homeDirectory = some home ∧ home <+: place)) := by
  obtain ⟨path, hPath, hRoot, hInside⟩ := env.exists_resolvePath hText
  refine ⟨path, hPath, fun config hSaid => ?said, ?within, hRoot, fun hRest tree =>
    ⟨(hInside hRest).2 tree, fun hUp place hPlace => ?place⟩⟩
  case said =>
    -- A text that starts at a tilde does not ask for a store in memory.
    have hFile := hSaid ▸ ne_inMemoryPath_of_fromHome hText
    rw [Config.storePath_eq_resolvePath hFile, hSaid, hPath]
  case within =>
    cases hRest : Path.isAbsolute rest with
    | false => exact iff_of_true (hInside hRest).1 nofun
    | true => rw [hRoot hRest, forall_prop_of_true rfl]
  case place =>
    rw [(hInside hRest).2 tree] at hPlace
    obtain ⟨home, hHome, hFollow⟩ := Option.bind_eq_some_iff.mp hPlace
    exact ⟨home, hHome, FileTree.prefix_of_follow hUp hFollow⟩

/-- With one slash behind the tilde the store is in the home directory, with two it is not. -/
theorem within_home_iff_doubledSlash :
    let env : Environment := ⟨some "/home/u1", none, none, none, none⟩
    (Text.FromHome "~/db/prod.db" "db/prod.db" ∧
      ∃ path, Config.storePath env ⟨some "~/db/prod.db", none, none⟩ = .ok path ∧
        Path.Within env.homeDirectory path ∧
        FileTree.nominalPlace ⟨[], []⟩ path = some ["home", "u1", "db", "prod.db"]) ∧
    (Text.FromHome " ~//db/prod.db" "/db/prod.db" ∧
      env.resolvePath " ~//db/prod.db" = .ok "/db/prod.db" ∧
      Config.storePath env ⟨some " ~//db/prod.db", none, none⟩ = .ok "/db/prod.db" ∧
      ¬ Path.Within env.homeDirectory "/db/prod.db") := by
  intro env
  have hOne : Text.FromHome "~/db/prod.db" "db/prod.db" := .inside (by decide)
  have hTwo : Text.FromHome " ~//db/prod.db" "/db/prod.db" := .inside (by decide)
  refine ⟨⟨hOne, ?_⟩, hTwo, ?_⟩
  · obtain ⟨path, -, hStore, hWithin, -, hLeads⟩ := within_home_iff env hOne
    exact ⟨path, hStore _ rfl, hWithin.mpr (by decide),
      ((hLeads (by decide) ⟨[], []⟩).1).trans (by decide)⟩
  · obtain ⟨path, hPath, hStore, hWithin, hRoot, -⟩ := within_home_iff env hTwo
    obtain rfl := hRoot (by decide)
    exact ⟨hPath, hStore _ rfl, by decide⟩

end Environment

end ModelStore
