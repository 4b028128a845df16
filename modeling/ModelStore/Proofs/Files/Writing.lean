import ModelStore.Files.Tree
import ModelStore.Proofs.Store.Holding

/-!
# Files that are written are read

A file that was written holds what was written.  Writing changes what stands at one place, which is
no directory, so every path leads where it led before.

## Main results

* `FileTree.readText_of_writeText`: the text in a file is the one that was written.
-/

namespace ModelStore

/-! ## Bytes -/

/-- The bytes from a place on go behind those before it. -/
theorem toList_loop (bytes : ByteArray) (start : Nat) (before : List UInt8) :
    ByteArray.toList.loop bytes start before =
      before.reverse ++ bytes.data.toList.drop start := by
  induction start, before using ByteArray.toList.loop.induct bytes with
  | case1 start before hMore ih =>
      have hLength : start < bytes.data.toList.length := by
        rw [Array.length_toList]
        exact hMore
      have hByte : bytes.get! start = bytes.data.toList[start] := by
        rw [Array.getElem_toList]
        exact getElem!_pos bytes.data start hMore
      rw [ByteArray.toList.loop, if_pos hMore, ih, List.drop_eq_getElem_cons hLength, hByte]
      simp
  | case2 start before hDone =>
      have hLength : bytes.data.toList.length ≤ start := by
        rw [Array.length_toList]
        exact Nat.le_of_not_lt hDone
      rw [ByteArray.toList.loop, if_neg hDone, List.drop_eq_nil_of_le hLength, List.append_nil]

/-- The bytes of a text denote it. -/
theorem Text.ofBytes?_toUTF8 (text : String) : ofBytes? text.toUTF8.toList = some text := by
  have hBytes : (⟨text.toUTF8.toList.toArray⟩ : ByteArray) = text.toUTF8 := by
    rw [ByteArray.toList, toList_loop]
    simp
  rw [ofBytes?, hBytes, String.fromUTF8?]
  exact dif_pos text.isValidUTF8

/-! ## Paths -/

/-- A path that asks for no directory has no slash at its end. -/
theorem Path.withoutSlash_of_file {path : Path} (hFile : Path.asksForDirectory path = false) :
    Path.withoutSlash path = path := by
  have hLast : path.toList.reverse.dropWhile (· == '/') = path.toList.reverse := by
    rw [Path.asksForDirectory, beq_eq_false_iff_ne, ← List.head?_reverse] at hFile
    cases hReverse : path.toList.reverse with
    | nil => rfl
    | cons c cs =>
        have hOther : c ≠ '/' := by
          rintro rfl
          exact hFile (by rw [hReverse]; rfl)
        rw [List.dropWhile_cons_of_neg (by simpa using hOther)]
  unfold withoutSlash
  rw [hLast]
  cases hReverse : path.toList.reverse with
  | nil => rfl
  | cons c cs =>
      dsimp only
      rw [← hReverse, List.reverse_reverse, String.ofList_toList]

namespace FileTree

/-! ## What stands at a place -/

theorem lookup_filter_ne {place other : Place} (hOther : other ≠ place)
    (nodes : List (Place × FileNode)) :
    (nodes.filter (·.1 != place)).lookup other = nodes.lookup other := by
  induction nodes with
  | nil => rfl
  | cons entry nodes ih =>
      obtain ⟨key, node⟩ := entry
      by_cases hKey : key = place
      · subst hKey
        have hMiss : (other == key) = false := by simpa using hOther
        rw [List.filter_cons_of_neg (by simp), ih, List.lookup_cons, hMiss]
      · rw [List.filter_cons_of_pos (by simpa using hKey), List.lookup_cons, List.lookup_cons, ih]

theorem node?_setNode_self {place : Place} (hPlace : place ≠ []) (tree : FileTree)
    (node : FileNode) : (tree.setNode place node).node? place = some node := by
  have hNone : (tree.nodes.filter (·.1 != place)).lookup place = none := by
    rw [List.lookup_eq_none_iff]
    intro entry hEntry
    have hOther := (List.mem_filter.mp hEntry).2
    rwa [bne_comm] at hOther
  have hSome : place.isEmpty = false := by
    simpa using hPlace
  rw [node?, hSome, setNode]
  simp only [Bool.false_eq_true, if_false, List.lookup_append, hNone]
  simp

theorem node?_setNode_of_ne {place other : Place} (hOther : other ≠ place) (tree : FileTree)
    (node : FileNode) : (tree.setNode place node).node? other = tree.node? other := by
  have hMiss : (other == place) = false := by
    simpa using hOther
  rw [node?, node?, setNode]
  simp only [List.lookup_append, lookup_filter_ne hOther, List.lookup_cons, hMiss, List.lookup_nil,
    Option.or_none]

/-! ## Where paths lead -/

section Written

variable {tree : FileTree} {place : Place} {node : FileNode}
  (hNode : tree.node? place ≠ some .directory)

include hNode

/-- A directory is still there after something was written at a place that is none. -/
theorem requireDirectory_setNode {other : Place} (hThere : tree.requireDirectory other = .ok ()) :
    (tree.setNode place node).requireDirectory other = .ok () := by
  have hOther : other ≠ place := by
    rintro rfl
    unfold requireDirectory at hThere
    split at hThere
    · cases hThere
    · cases hThere
    · exact hNode ‹_›
  rw [requireDirectory, node?_setNode_of_ne hOther]
  exact hThere

/-- Steps lead where they led before. -/
theorem walk_setNode {steps : List String} : ∀ {start stop : Place},
    tree.walk start steps = .ok stop → (tree.setNode place node).walk start steps = .ok stop := by
  induction steps with
  | nil => exact fun hWalk => hWalk
  | cons step steps ih =>
      intro start stop hWalk
      rw [walk] at hWalk ⊢
      cases hThere : tree.requireDirectory start with
      | error e =>
          rw [hThere] at hWalk
          cases hWalk
      | ok _ =>
          rw [hThere] at hWalk
          rw [requireDirectory_setNode hNode hThere]
          dsimp only [bind, Except.bind] at hWalk ⊢
          split_ifs at hWalk ⊢
          · exact ih hWalk
          · exact ih hWalk
          · exact ih hWalk

/-- A path leads where it led before. -/
theorem locate_setNode {path : Path} {stop : Place} (hLocate : tree.locate path = .ok stop) :
    (tree.setNode place node).locate path = .ok stop := by
  unfold locate at hLocate ⊢
  split at hLocate
  · cases hLocate
  split at hLocate
  · cases hLocate
  split at hLocate
  · cases hLocate
  · rename_i hNul hLong hSome
    rw [if_neg hNul, if_neg hLong, if_neg hSome]
    exact walk_setNode hNode hLocate

end Written

/-! ## Files -/

/-- What was written into the file of a path is what the file holds. -/
theorem read_of_write {tree after : FileTree} {path : Path} {content : FileContent}
    (hWrite : tree.write path content = .ok after) : after.read path = .ok content := by
  obtain ⟨place, hLocate, hInside⟩ := bind_eq_ok.mp hWrite
  obtain ⟨_, hAround, hFile⟩ := bind_eq_ok.mp hInside
  cases hAsks : Path.asksForDirectory path with
  | true =>
      rw [hAsks] at hFile
      cases hFile
  | false =>
      rw [hAsks] at hFile
      rw [Path.withoutSlash_of_file hAsks] at hLocate
      obtain ⟨_, -, hSet⟩ := bind_eq_ok.mp hFile
      have hNode : tree.node? place ≠ some .directory := by
        intro hDirectory
        rw [hDirectory] at hSet
        cases hSet
      have hAfter : tree.setNode place (.file content) = after := by
        split at hSet
        · cases hSet
        · exact Except.ok.inj hSet
      have hPlace : place ≠ [] := by
        rintro rfl
        exact hNode rfl
      rw [← hAfter, read, locate_setNode hNode hLocate, ok_bind, readAt,
        requireDirectory_setNode hNode hAround, ok_bind, node?_setNode_self hPlace]

/-- **Files**: the text in a file is the one that was written. -/
theorem readText_of_writeText {tree after : FileTree} {path : Path} {text : String}
    (hWrite : tree.writeText path text = .ok after) : after.readText path = .ok text := by
  rw [readText, read_of_write hWrite, ok_bind]
  dsimp only
  rw [Text.ofBytes?_toUTF8]

end FileTree

end ModelStore
