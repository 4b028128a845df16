import ModelStore.Config.File
import ModelStore.Proofs.Files.Writing
import ModelStore.Proofs.Toml.Pairs

/-!
# Configurations are kept

A configuration is written as a document that says it, whatever the path of its store is, and is
read from the document as it was.  What a configuration leaves open is filled in at two places, when
a file is loaded and when a setting is asked for, and both fill in the same: a configuration that
was saved and loaded means what it meant before.

## Main definitions

* `Config.pairs`: what a configuration says, by keys.

## Main results

* `Config.ofToml_toToml`: a configuration is read from its document.
* `Config.load_of_save`: a configuration is loaded from the file it was saved in.
* `Config.storePath_resolve`: gaps that are filled mean what they meant before.
* `Config.meaning_kept`: all of this, for every configuration and environment.
-/

namespace ModelStore.Config

open Toml (IsKey document said)

/-! ## The document -/

/-- What a configuration says, by keys. -/
def pairs (config : Config) : List (String × String) :=
  (config.dbPath.toList.map (Prod.mk "db_path")) ++
    ((config.journalMode.toList.map fun mode => ("journal_mode", mode.name)) ++
      config.bulkMutation.toList.map fun policy => ("bulk_mutation", policy.name))

theorem toToml_eq (config : Config) : config.toToml = document config.pairs := by
  obtain ⟨dbPath, journalMode, bulkMutation⟩ := config
  cases dbPath <;> cases journalMode <;> cases bulkMutation <;>
    simp [toToml, document, pairs, String.join_cons, String.append_assoc]

/-- Whether a key is said. -/
theorem mem_names_pairs (config : Config) :
    ("db_path" ∈ config.pairs.map (·.1) ↔ config.dbPath ≠ none) ∧
      ("journal_mode" ∈ config.pairs.map (·.1) ↔ config.journalMode ≠ none) ∧
      ("bulk_mutation" ∈ config.pairs.map (·.1) ↔ config.bulkMutation ≠ none) := by
  obtain ⟨dbPath, journalMode, bulkMutation⟩ := config
  cases dbPath <;> cases journalMode <;> cases bulkMutation <;> simp [pairs]

theorem nodup_pairs (config : Config) : (config.pairs.map (·.1)).Nodup := by
  obtain ⟨dbPath, journalMode, bulkMutation⟩ := config
  cases dbPath <;> cases journalMode <;> cases bulkMutation <;> simp [pairs]

theorem isKey_of_mem_pairs {config : Config} {entry : String × String}
    (hEntry : entry ∈ config.pairs) : IsKey entry.1 := by
  have hNames : entry.1 = "db_path" ∨ entry.1 = "journal_mode" ∨ entry.1 = "bulk_mutation" := by
    simp only [pairs, List.mem_append, List.mem_map] at hEntry
    rcases hEntry with ⟨_, _, rfl⟩ | ⟨_, _, rfl⟩ | ⟨_, _, rfl⟩ <;> simp
  rcases hNames with hName | hName | hName <;> rw [hName] <;> decide

/-! ## Reading -/

/-- A configuration that takes the setting of a key from another one. -/
def adopt (config : Config) (draft : Config) (key : String) : Config :=
  { dbPath := if key = "db_path" then config.dbPath else draft.dbPath
    journalMode := if key = "journal_mode" then config.journalMode else draft.journalMode
    bulkMutation := if key = "bulk_mutation" then config.bulkMutation else draft.bulkMutation }

theorem ofName?_journal (mode : JournalMode) : JournalMode.ofName? mode.name = some mode := by
  cases mode <;> rfl

theorem ofName?_bulk (policy : BulkPolicy) : BulkPolicy.ofName? policy.name = some policy := by
  cases policy <;> rfl

/-- What a configuration says under a key is read as its setting. -/
theorem readEntry_pair {config : Config} {key text : String} (hPair : (key, text) ∈ config.pairs)
    (draft : Config) (spot : Toml.Spot) :
    readEntry draft (key, spot, .scalar (.text text)) = .ok (config.adopt draft key) := by
  simp only [pairs, List.mem_append, List.mem_map, Option.mem_toList] at hPair
  rcases hPair with ⟨path, hSaid, hSame⟩ | ⟨mode, hSaid, hSame⟩ | ⟨policy, hSaid, hSame⟩
  · cases hSame
    simp [adopt, hSaid, readEntry, textOf]
  · cases hSame
    simp [adopt, hSaid, readEntry, choiceOf, ofName?_journal]
  · cases hSame
    simp [adopt, hSaid, readEntry, choiceOf, ofName?_bulk]

/-- Settings of keys that are taken one after another. -/
theorem foldl_adopt (config : Config) (keys : List String) (draft : Config) :
    keys.foldl config.adopt draft =
      { dbPath := if "db_path" ∈ keys then config.dbPath else draft.dbPath
        journalMode := if "journal_mode" ∈ keys then config.journalMode else draft.journalMode
        bulkMutation :=
          if "bulk_mutation" ∈ keys then config.bulkMutation else draft.bulkMutation } := by
  induction keys generalizing draft with
  | nil => simp
  | cons key keys ih =>
      have hSame : ∀ {α : Type} (name : String) (new old : α),
          (if name ∈ keys then new else if key = name then new else old) =
            if name ∈ key :: keys then new else old := by
        intro α name new old
        by_cases hRest : name ∈ keys
        · simp [hRest]
        · simp [hRest, eq_comm]
      rw [List.foldl_cons, ih, adopt]
      simp only [hSame]

/-- Entries that a configuration says are read as its settings. -/
theorem foldlM_readEntry {config : Config} {entries : Toml.Entries}
    (hSaid : ∀ entry ∈ said entries,
      ∃ text, entry.2 = .scalar (.text text) ∧ (entry.1, text) ∈ config.pairs) (draft : Config) :
    entries.foldlM readEntry draft =
      .ok (((said entries).map (·.1)).foldl config.adopt draft) := by
  induction entries generalizing draft with
  | nil => rfl
  | cons entry entries ih =>
      obtain ⟨key, spot, item⟩ := entry
      obtain ⟨hFirst, hRest⟩ := List.forall_mem_cons.mp hSaid
      obtain ⟨text, hItem, hPair⟩ := hFirst
      have hText : item = .scalar (.text text) := hItem
      rw [List.foldlM_cons, hText, readEntry_pair hPair]
      exact ih hRest _

/-- **Reading**: a configuration is read from its document. -/
theorem ofToml_toToml (config : Config) : ofToml config.toToml = .ok config := by
  obtain ⟨entries, hParse, hPerm⟩ := Toml.parse_document
    (fun entry hEntry => isKey_of_mem_pairs hEntry) (nodup_pairs config)
  have hSaid : ∀ entry ∈ said entries,
      ∃ text, entry.2 = .scalar (.text text) ∧ (entry.1, text) ∈ config.pairs := by
    intro entry hEntry
    obtain ⟨pair, hPair, rfl⟩ := List.mem_map.mp (hPerm.mem_iff.mp hEntry)
    exact ⟨pair.2, rfl, hPair⟩
  have hNames : ∀ key, key ∈ (said entries).map (·.1) ↔ key ∈ config.pairs.map (·.1) := by
    intro key
    have hKeys := hPerm.map (·.1)
    rw [List.map_map] at hKeys
    exact hKeys.mem_iff
  have hSettings : ((said entries).map (·.1)).foldl config.adopt ⟨none, none, none⟩ = config := by
    obtain ⟨hPath, hJournal, hBulk⟩ := mem_names_pairs config
    have hOpen : ∀ {α : Type} (setting : Option α),
        (if setting ≠ none then setting else none) = setting := by
      intro α setting
      cases setting <;> simp
    rw [foldl_adopt]
    simp only [hNames, hPath, hJournal, hBulk, hOpen]
  unfold ofToml
  rw [toToml_eq, hParse, ok_bind, foldlM_readEntry hSaid, hSettings]

/-! ## Gaps -/

/-- The path of the store by default does not ask for a store in memory. -/
theorem defaultStorePath_ne (env : Environment) : env.defaultStorePath ≠ inMemoryPath := by
  have hEnd : ∀ directory : Path, ∃ front : String,
      Path.join directory "prod.db" = front ++ "prod.db" := by
    intro directory
    unfold Path.join
    rw [if_neg (by decide)]
    split
    · exact ⟨directory, rfl⟩
    · exact ⟨directory ++ "/", rfl⟩
  obtain ⟨front, hFront⟩ := hEnd (Path.join (Path.join env.dataDirectory "tally") "db")
  intro hSame
  have hLast := congrArg (fun path => path.toList.getLast?) (hFront.symm.trans hSame)
  simp [inMemoryPath] at hLast

/-- The place of the store is the same with the gaps filled. -/
theorem storePath_resolve (config : Config) (env : Environment) :
    (config.resolve env).storePath env = config.storePath env := by
  unfold storePath
  cases env.storeFile with
  | some text => rfl
  | none =>
      cases hPath : config.dbPath with
      | some text => simp [resolve, hPath]
      | none => simp [resolve, initial, hPath, defaultStorePath_ne]

/-- Nothing is left to be filled. -/
theorem resolve_resolve (config : Config) (env : Environment) :
    (config.resolve env).resolve env = config.resolve env := by
  unfold resolve
  cases config.dbPath <;> rfl

/-! ## Files -/

/-- Steps that succeed end with the last one. -/
theorem exists_run_of_bind {first : FileAction} {next : Unit → FileAction} {tree after : FileTree}
    (hRun : (first >>= next).run.run tree = (.ok (), after)) :
    ∃ between, (next ()).run.run between = (.ok (), after) := by
  rw [ExceptT.run_bind, StateT.run_bind] at hRun
  rcases hFirst : first.run.run tree with ⟨result, between⟩
  rw [hFirst] at hRun
  cases result with
  | error e => cases hRun
  | ok _ => exact ⟨between, hRun⟩

/-- A text is put into a file by writing it. -/
theorem putText_run (path : Path) (text : String) (tree : FileTree) :
    (FileTree.putText path text).run.run tree =
      match tree.writeText path text with
      | .ok written => (.ok (), written)
      | .error e => (.error e, tree) := by
  have hRun : (FileTree.putText path text).run.run tree =
      (match tree.writeText path text with
        | .ok written => (set written : FileAction)
        | .error e => throw e).run.run tree := rfl
  rw [hRun]
  cases tree.writeText path text <;> rfl

theorem writeText_of_putText {path : Path} {text : String} {tree after : FileTree}
    (hPut : (FileTree.putText path text).run.run tree = (.ok (), after)) :
    tree.writeText path text = .ok after := by
  rw [putText_run] at hPut
  cases hWrite : tree.writeText path text with
  | error e =>
      rw [hWrite] at hPut
      cases hPut
  | ok written =>
      rw [hWrite] at hPut
      cases hPut
      rfl

/-- **Files**: a configuration is loaded from the file it was saved in, with its gaps filled. -/
theorem load_of_save {config : Config} {path : Path} {tree after : FileTree}
    (hSave : (config.save path).run.run tree = (.ok (), after)) (env : Environment) :
    load env after path = .ok (config.resolve env) := by
  obtain ⟨between, hPut⟩ := exists_run_of_bind hSave
  have hParse : parse config.toToml = .ok config := by
    rw [parse, ofToml_toToml]
    rfl
  unfold load
  rw [FileTree.readText_of_writeText (writeText_of_putText hPut)]
  dsimp only
  rw [hParse]
  rfl

/-! ## Keeping -/

/-- **Keeping**: a configuration is read from its document as it was, and loaded from its file with
its gaps filled; filled, it means what it meant before, and there is nothing more to fill. -/
theorem meaning_kept (config : Config) (env : Environment) :
    parse config.toToml = .ok config ∧
      (∀ (tree after : FileTree) (path : Path),
        (config.save path).run.run tree = (.ok (), after) →
          load env after path = .ok (config.resolve env)) ∧
      (config.resolve env).storePath env = config.storePath env ∧
      (config.resolve env).journal = config.journal ∧
      (config.resolve env).bulkPolicy = config.bulkPolicy ∧
      (config.resolve env).isInMemory env = config.isInMemory env ∧
      (config.resolve env).resolve env = config.resolve env := by
  have hPath := storePath_resolve config env
  refine ⟨?_, fun tree after path hSave => load_of_save hSave env, hPath, rfl, rfl, ?_,
    resolve_resolve config env⟩
  · rw [parse, ofToml_toToml]
    rfl
  · rw [isInMemory, isInMemory, hPath]

/-- A path with quotes, a backslash, a line break and a control character is kept, and so is what was
left open. -/
theorem meaning_kept_odd_path :
    let config : Config := ⟨some "~/it's \"odd\"\\\n\x01.db", none, some .deny⟩
    let env : Environment := ⟨some "/home/u1", none, none, none, none⟩
    let after : FileTree := FileTree.setNode ⟨[], []⟩ ["config.toml"]
      (.file (.bytes config.toToml.toUTF8.toList))
    (config.save "config.toml").run.run ⟨[], []⟩ = (.ok (), after) ∧
      load env after "config.toml" = .ok (config.resolve env) := by
  intro config env after
  have hNul : Path.nulAt? "config.toml" = none := by
    rw [Path.nulAt?, ByteArray.toList, toList_loop]
    decide
  have hLocate : FileTree.locate ⟨[], []⟩ "config.toml" = .ok ["config.toml"] := by
    rw [FileTree.locate, hNul]
    decide
  have hParent : (Path.parent? "config.toml").getD "" = "" := by decide
  have hSlash : Path.withoutSlash "config.toml" = "config.toml" := by decide
  have hWrite : FileTree.writeText ⟨[], []⟩ "config.toml" config.toToml = .ok after := by
    rw [FileTree.writeText, FileTree.write, hSlash, hLocate]
    rfl
  have hSave : (config.save "config.toml").run.run ⟨[], []⟩ = (.ok (), after) := by
    have hPut : (config.save "config.toml").run.run ⟨[], []⟩ =
        (FileTree.putText "config.toml" config.toToml).run.run ⟨[], []⟩ := by
      rw [save, hParent]
      rfl
    rw [hPut, putText_run, hWrite]
  exact ⟨hSave, (meaning_kept config env).2.1 _ _ _ hSave⟩

end ModelStore.Config
