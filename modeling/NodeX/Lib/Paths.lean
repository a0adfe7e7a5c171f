/-
Paths of a POSIX file system: names between slashes, where a path leads over the directories that there are, and what it
takes for the file of a path to lie directly in one of some directories.
-/
import Mathlib.Data.List.TakeWhile

namespace NodeX.Lib

/-! ## Folder and name -/

/-- The names from the root on. -/
abbrev Folder := List (List Char)

/-- A path up to its last slash. -/
def dirPart (path : List Char) : List Char := (path.reverse.dropWhile (· ≠ '/')).reverse

/-- What comes after the last slash. -/
def namePart (path : List Char) : List Char := (path.reverse.takeWhile (· ≠ '/')).reverse

variable {path suffix : List Char}

theorem reverse_ne_slash (h : '/' ∉ suffix) : ∀ c ∈ suffix.reverse, decide (c ≠ '/') = true := by
  intro c hc
  rw [decide_eq_true_eq]
  rintro rfl
  exact h (List.mem_reverse.1 hc)

theorem dirPart_append (h : '/' ∉ suffix) : dirPart (path ++ suffix) = dirPart path := by
  unfold dirPart
  rw [List.reverse_append, List.dropWhile_append_of_pos (reverse_ne_slash h)]

theorem namePart_append (h : '/' ∉ suffix) : namePart (path ++ suffix) = namePart path ++ suffix := by
  unfold namePart
  rw [List.reverse_append, List.takeWhile_append_of_pos (reverse_ne_slash h), List.reverse_append, List.reverse_reverse]

/-! ## Where a path leads -/

section Walk

variable (isDir : Folder → Bool)

/-- From a directory to the one that a name in it stands for. -/
def enter (dir : Folder) (name : List Char) : Option Folder :=
  if name = [] ∨ name = ['.'] then some dir
  else if name = ['.', '.'] then some dir.dropLast
  else if isDir (dir ++ [name]) then some (dir ++ [name]) else none

/-- The directory that the file of a path is in; no path has the character zero in it. -/
def directoryOf (path : List Char) : Option Folder :=
  if '\x00' ∈ path then none else ((dirPart path).splitOn '/').foldlM (enter isDir) []

/-- The names that no file has. -/
def isNoName (name : List Char) : Bool := name == [] || name == ['.'] || name == ['.', '.']

/-- The place of the file of a path. -/
def placeOf (path : List Char) : Option Folder :=
  if isNoName (namePart path) then none else (directoryOf isDir path).map (· ++ [namePart path])

/-- The file of a path, wherever the path leads, lies directly in one of these directories. -/
def LiesIn (dirs : List Folder) (path : List Char) : Prop :=
  ∀ place, placeOf isDir path = some place → ∃ dir ∈ dirs, ∃ name, place = dir ++ [name]

variable {isDir}

theorem directoryOf_append (hslash : '/' ∉ suffix) (hzero : '\x00' ∉ suffix) :
    directoryOf isDir (path ++ suffix) = directoryOf isDir path := by
  unfold directoryOf
  rw [dirPart_append hslash]
  simp only [List.mem_append, hzero, or_false]

/-- No such name has a character other than a dot. -/
theorem isNoName_append (h : ∃ c ∈ suffix, c ≠ '.') (name : List Char) : isNoName (name ++ suffix) = false := by
  obtain ⟨c, hc, hdot⟩ := h
  have hmem : c ∈ name ++ suffix := List.mem_append_right _ hc
  unfold isNoName
  rw [Bool.or_eq_false_iff, Bool.or_eq_false_iff]
  refine ⟨⟨?_, ?_⟩, ?_⟩
  all_goals
    rw [beq_eq_false_iff_ne]
    intro heq
    rw [heq] at hmem
    simp [hdot] at hmem

/-- Where a file lies is decided by the part of its path up to the last slash. -/
theorem liesIn_append_iff {dirs : List Folder} (hslash : '/' ∉ suffix) (hzero : '\x00' ∉ suffix)
    (hname : ∃ c ∈ suffix, c ≠ '.') :
    LiesIn isDir dirs (path ++ suffix) ↔ ∀ dir, directoryOf isDir path = some dir → dir ∈ dirs := by
  have hplaceOf : placeOf isDir (path ++ suffix) = (directoryOf isDir path).map (· ++ [namePart path ++ suffix]) := by
    unfold placeOf
    rw [namePart_append hslash, isNoName_append hname, directoryOf_append hslash hzero]
    rfl
  unfold LiesIn
  rw [hplaceOf]
  constructor
  · intro h dir hdir
    obtain ⟨own, hown, name, heq⟩ := h (dir ++ [namePart path ++ suffix]) (by rw [hdir, Option.map_some])
    obtain ⟨rfl, -⟩ := List.append_inj' heq rfl
    exact hown
  · rintro h place hplace
    obtain ⟨dir, hdir, rfl⟩ := Option.map_eq_some_iff.1 hplace
    exact ⟨dir, h dir hdir, _, rfl⟩

end Walk

end NodeX.Lib
