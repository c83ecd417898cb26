import PageBridge.File.Disk
import PageBridge.Proofs.File.Path

/-!
# What lies at a path

A path is followed through the tree of a file system part by part.  One without parts that go up is
followed from a directory without regard to what lies above (`Tree.walk_congr`), so the walk along a
path may be cut in front of it (`Tree.walk_append`).  For joined paths this means that what lies at such
a path from a directory is found in the tree of that directory, and nothing else of the file system
counts (`Disk.find_join_congr`).
-/

namespace PageBridge.File

open PageBridge.File.Path (point)

namespace Tree

/-- A walk that never goes up does not look at what lies above. -/
theorem walk_congr {parts : List (List UInt8)} (h : [point, point] ∉ parts)
    (above above' : List Tree) (place : Tree) : walk above place parts = walk above' place parts := by
  -- for every place, as the walk goes down, and for whatever lies above it
  induction parts generalizing above above' place with
  | nil => rfl
  | cons part parts ih =>
      have hlater : [point, point] ∉ parts := fun hmem => h (List.mem_cons_of_mem part hmem)
      have hup : part ≠ [point, point] := fun e => h (e ▸ List.mem_cons_self)
      cases place with
      | file bytes => rfl
      | directory entries =>
          simp only [walk, hup, if_false]
          rw [ih hlater above above' (.directory entries)]
          cases child? part entries with
          | none => rfl
          | some next => simp only [ih hlater (.directory entries :: above) (.directory entries :: above')]

/-- The walk along a path goes on from where its first parts lead. -/
theorem walk_append {back : List (List UInt8)} (h : [point, point] ∉ back)
    (front : List (List UInt8)) (above : List Tree) (place : Tree) :
    walk above place (front ++ back) = (walk above place front).bind (walk [] · back) := by
  induction front generalizing above place with
  | nil => exact walk_congr h above [] place
  | cons part front ih =>
      cases place with
      | file bytes => rfl
      | directory entries =>
          simp only [List.cons_append, walk]
          split_ifs
          · exact ih above (.directory entries)
          · cases above with
            | nil => exact ih [] (.directory entries)
            | cons up above => exact ih above up
          · rfl
          · cases child? part entries with
            | none => rfl
            | some next => exact ih (.directory entries :: above) next

/-- In front of other parts an empty one counts for nothing. -/
theorem walk_empty_bind {parts : List (List UInt8)} (h : parts ≠ []) (place : Tree) :
    (walk [] place [[]]).bind (walk [] · parts) = walk [] place parts := by
  cases place with
  | directory entries => rfl
  | file bytes =>
      cases parts with
      | nil => exact absurd rfl h
      | cons part parts => rfl

end Tree

namespace Disk

/-- What lies at a path, were there no bounds on the text of a path. -/
def place (disk : Disk) (p : Path) : Except Error Tree :=
  Tree.walk [] disk.root (disk.workingDirectory.join p).parts

/-- What lies at a joined path is what the second path leads to from where the first one leads. -/
theorem place_join (disk : Disk) (base : Path) {p : Path} (habsolute : p.isAbsolute = false)
    (hup : [point, point] ∉ p.parts) :
    disk.place (base.join p) = (disk.place base).bind (Tree.walk [] · p.parts) := by
  obtain ⟨front, hparts, hbase⟩ :=
    Path.exists_parts_join habsolute (disk.workingDirectory.join base)
  rw [place, place, ← Path.join_assoc, hparts, Tree.walk_append hup]
  rcases hbase with hbase | hbase
  · rw [hbase]
  · -- the first path ends in a slash
    rw [hbase, Tree.walk_append (by simp)]
    cases Tree.walk [] disk.root front with
    | error e => rfl
    | ok found => exact (Tree.walk_empty_bind (Path.parts_ne_nil p) found).symm

/-- Two file systems that have the same at a path have the same at every path that leads on from
there without going up. -/
theorem find_join_congr {disk disk' : Disk} {base : Path} (h : disk.place base = disk'.place base)
    {p : Path} (habsolute : p.isAbsolute = false) (hup : [point, point] ∉ p.parts) :
    disk.find (base.join p) = disk'.find (base.join p) := by
  have hplace : disk.place (base.join p) = disk'.place (base.join p) := by
    rw [place_join disk base habsolute hup, place_join disk' base habsolute hup, h]
  rw [place, place] at hplace
  rw [find, find, hplace]

end Disk

end PageBridge.File
