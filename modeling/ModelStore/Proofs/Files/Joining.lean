import Mathlib.Data.List.Basic
import ModelStore.Opening

/-!
# Paths inside directories

A path that does not start at the root goes on from the directory that it is put into: the
components of the directory stand in front of it, and it leads along its own parts from the place of
the directory.  As long as no part goes back up, this is a place inside the directory.  A path that
starts at the root takes nothing from the directory.

All of this follows from how a path inside a directory is cut at its slashes.

## Main definitions

* `Path.components`: what a path consists of.
* `Path.Within`: paths that have the components of a directory in front.
* `FileTree.follow`: where parts of a path lead from a place.

## Main results

* `Path.parts_join`: the parts of a path inside a directory.
* `Path.within_join`: a path inside a directory has the directory in front.
* `FileTree.nominalPlace_join`: where a path inside a directory leads.
* `FileTree.prefix_of_follow`: without a part that goes back up, it stays inside.
-/

namespace ModelStore

namespace Path

variable {directory path : Path}

/-! ## Parts -/

theorem split_eq_splitOnP (cs : List Char) : split cs = cs.splitOnP (· == '/') := by
  induction cs with
  | nil => rfl
  | cons c cs ih =>
      rw [split, List.splitOnP_cons_eq_if_modifyHead, ih]
      by_cases hSlash : c = '/'
      · simp [hSlash]
      · obtain ⟨part, parts, hParts⟩ :=
          List.exists_cons_of_ne_nil (List.splitOnP_ne_nil (· == '/') cs)
        simp [hSlash, hParts]

/-- A slash ends a part. -/
theorem parts_append_slash (front back : Path) :
    parts (front ++ "/" ++ back) = parts front ++ parts back := by
  have hChars : (front ++ "/" ++ back).toList = front.toList ++ '/' :: back.toList := by simp
  rw [parts, parts, parts, hChars]
  simp only [split_eq_splitOnP]
  rw [List.splitOnP_append_cons _ _ rfl, List.map_append]

theorem parts_ne_nil (path : Path) : parts path ≠ [] := by
  rw [parts, split_eq_splitOnP, Ne, List.map_eq_nil_iff]
  exact List.splitOnP_ne_nil _ _

theorem isAbsolute_append {front : Path} (hFront : front ≠ "") (back : Path) :
    isAbsolute (front ++ back) = isAbsolute front := by
  have hSome : front.toList ≠ [] := by simpa using hFront
  rw [isAbsolute, isAbsolute, String.toList_append, List.head?_append_of_ne_nil _ hSome]

/-! ## Joining -/

theorem join_of_isAbsolute (hRoot : isAbsolute path = true) (directory : Path) :
    join directory path = path :=
  if_pos hRoot

theorem join_empty (hInside : isAbsolute path = false) : join "" path = path := by
  simp [join, hInside]

/-- A path inside a directory has a slash in front, which may be the last one of the directory. -/
theorem exists_join_eq (hInside : isAbsolute path = false) (hDirectory : directory ≠ "") :
    ∃ front, join directory path = front ++ "/" ++ path ∧
      (directory = front ∨ directory = front ++ "/") := by
  have hSome : directory.isEmpty = false := by simpa using hDirectory
  unfold join
  rw [if_neg (by simp [hInside]), hSome, Bool.false_or]
  cases hAsks : asksForDirectory directory with
  | false => exact ⟨directory, rfl, .inl rfl⟩
  | true =>
      rw [asksForDirectory, beq_iff_eq, List.getLast?_eq_some_iff] at hAsks
      obtain ⟨front, hFront⟩ := hAsks
      have hSlash : directory = String.ofList front ++ "/" := by
        rw [← String.toList_inj, hFront]
        simp
      exact ⟨String.ofList front, by rw [if_pos rfl, ← hSlash], .inr hSlash⟩

/-- A path inside a directory starts at the root if the directory does. -/
theorem isAbsolute_join (hInside : isAbsolute path = false) :
    isAbsolute (join directory path) = isAbsolute directory := by
  by_cases hDirectory : directory = ""
  · rw [hDirectory, join_empty hInside, hInside]
    rfl
  · obtain ⟨front, hJoin, rfl | rfl⟩ := exists_join_eq hInside hDirectory
    · rw [hJoin, String.append_assoc, isAbsolute_append hDirectory]
    · rw [hJoin, isAbsolute_append hDirectory]

/-- The parts of a path inside a directory are those of the directory, without the empty one behind
a slash at its end, and those of the path. -/
theorem parts_join (hInside : isAbsolute path = false) (hDirectory : directory ≠ "") :
    ∃ before, before ≠ [] ∧ parts (join directory path) = before ++ parts path ∧
      (parts directory = before ∨ parts directory = before ++ [""]) := by
  obtain ⟨front, hJoin, hFront⟩ := exists_join_eq hInside hDirectory
  refine ⟨parts front, parts_ne_nil front, by rw [hJoin, parts_append_slash], ?_⟩
  rcases hFront with rfl | rfl
  · exact .inl rfl
  · refine .inr ?_
    have hEnd := parts_append_slash front ""
    rwa [String.append_empty] at hEnd

/-! ## Components -/

/-- What a path consists of: the root, if it starts there, and the segments that count. -/
def components (path : Path) : List String :=
  (if isAbsolute path then ["/"] else []) ++ segments path

/-- Whether a path has the components of a directory in front.  Where it goes from there is left
open. -/
def Within (directory path : Path) : Prop := components directory <+: components path

instance (directory path : Path) : Decidable (Within directory path) :=
  inferInstanceAs (Decidable (_ <+: _))

theorem Within.refl (path : Path) : Within path path := List.prefix_rfl

/-- **Joining**: a path inside a directory has the directory in front, unless it starts at the
root. -/
theorem within_join (hInside : isAbsolute path = false) (directory : Path) :
    Within directory (join directory path) := by
  by_cases hDirectory : directory = ""
  · subst hDirectory
    exact List.nil_prefix
  · obtain ⟨before, hBefore, hParts, hAround⟩ := parts_join hInside hDirectory
    -- A point in front counts in a path that does not start at the root, so the first part matters.
    have hHead : (before ++ parts path).head? = (parts directory).head? := by
      rcases hAround with hAround | hAround <;>
        simp [hAround, List.head?_append_of_ne_nil _ hBefore]
    have hKept : (parts directory).filter (· != "") = before.filter (· != "") := by
      rcases hAround with hAround | hAround <;> simp [hAround]
    rw [Within, components, components, isAbsolute_join hInside, List.prefix_append_right_inj,
      segments, segments, isAbsolute_join hInside, hParts, hHead, List.filter_append,
      List.filter_append, hKept]
    split_ifs
    · exact List.cons_prefix_cons.mpr ⟨rfl, List.prefix_append _ _⟩
    · exact List.prefix_append _ _

end Path

/-! ## Places -/

namespace FileTree

variable (tree : FileTree) {directory path : Path}

/-- The place to which a part of a path leads from a place. -/
def enter (place : Place) (part : String) : Option Place :=
  if part = "" ∨ part = "." then some place
  else if part = ".." then some place.dropLast
  else
    match tree.node? place with
    | some (.file _) => none
    | some .directory =>
      if Path.nameLimit < part.utf8ByteSize then none else some (place ++ [part])
    | none => some (place ++ [part])

/-- The place to which parts of a path lead from a place. -/
def follow (place : Place) (parts : List String) : Option Place := parts.foldlM tree.enter place

theorem nominalPlace_eq_follow (path : Path) :
    tree.nominalPlace path = tree.follow (tree.base path) (Path.parts path) :=
  rfl

theorem follow_append (place : Place) (front back : List String) :
    tree.follow place (front ++ back) =
      (tree.follow place front).bind (tree.follow · back) :=
  List.foldlM_append

theorem follow_empty (place : Place) : tree.follow place [""] = some place := rfl

/-- **Places**: a path inside a directory leads along its parts from the place of the directory. -/
theorem nominalPlace_join (hInside : Path.isAbsolute path = false) :
    tree.nominalPlace (Path.join directory path) =
      (tree.nominalPlace directory).bind (tree.follow · (Path.parts path)) := by
  have hBase : tree.base (Path.join directory path) = tree.base directory := by
    rw [base, base, Path.isAbsolute_join hInside]
  rw [nominalPlace_eq_follow, nominalPlace_eq_follow, hBase]
  -- The empty directory has one empty part, which leads nowhere else.
  by_cases hDirectory : directory = ""
  · rw [hDirectory, Path.join_empty hInside]
    rfl
  · obtain ⟨before, -, hParts, hAround | hAround⟩ := Path.parts_join hInside hDirectory
    · rw [hParts, hAround, follow_append]
    · rw [hParts, hAround, follow_append, follow_append]
      simp only [follow_empty, Option.bind_fun_some]

variable {tree}

theorem prefix_of_enter {place next : Place} {part : String} (hUp : part ≠ "..")
    (hEnter : tree.enter place part = some next) : place <+: next := by
  by_cases hStay : part = "" ∨ part = "."
  · rw [enter, if_pos hStay] at hEnter
    exact Option.some.inj hEnter ▸ List.prefix_rfl
  · rw [enter, if_neg hStay, if_neg hUp] at hEnter
    split at hEnter
    · cases hEnter
    · split_ifs at hEnter
      exact Option.some.inj hEnter ▸ List.prefix_append _ _
    · exact Option.some.inj hEnter ▸ List.prefix_append _ _

/-- Parts that do not go back up lead further inside. -/
theorem prefix_of_follow {parts : List String} (hUp : ".." ∉ parts) {place stop : Place}
    (hFollow : tree.follow place parts = some stop) : place <+: stop := by
  induction parts generalizing place with
  | nil => exact Option.some.inj hFollow ▸ List.prefix_rfl
  | cons part parts ih =>
      rw [List.mem_cons, not_or] at hUp
      obtain ⟨next, hEnter, hRest⟩ := Option.bind_eq_some_iff.mp hFollow
      exact (prefix_of_enter (Ne.symm hUp.1) hEnter).trans (ih hUp.2 hRest)

end FileTree

end ModelStore
