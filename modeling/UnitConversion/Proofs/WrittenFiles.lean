import UnitConversion.Files.Tree
import UnitConversion.Proofs.Outcomes

/-!
# Files that are written

A file that is written is found at its place, and every other place holds what it held before. No
directory comes or goes with it, so every path that could be followed leads where it led.
-/

namespace UnitConversion.FileTree

variable {tree after : FileTree} {location other place : Location} {path name : String}
  {bytes : List UInt8} {entry : FileEntry}

/-- What is put into a place is found there. -/
theorem entryAt?_insert_self (h : alwaysDirectory location = false) :
    (tree.insert location entry).entryAt? location = some entry := by
  unfold entryAt? insert
  rw [if_neg (by simp [h])]
  simp

/-- What is put into a place changes nothing about the others. -/
theorem entryAt?_insert_of_ne (h : other ≠ location) :
    (tree.insert location entry).entryAt? other = tree.entryAt? other := by
  have hfirst : (other == location) = false := by simpa using h
  have hlookup : ∀ entries : List (Location × FileEntry),
      (entries.filter fun old => old.1 != location).lookup other = entries.lookup other := by
    intro entries
    induction entries with
    | nil => rfl
    | cons old rest ih =>
      by_cases hold : old.1 = location
      · rw [List.filter_cons_of_neg (by simp [hold]), ih, List.lookup_cons, hold, hfirst]
      · rw [List.filter_cons_of_pos (by simp [hold]), List.lookup_cons, List.lookup_cons, ih]
  unfold entryAt? insert
  split
  · rfl
  · rw [List.lookup_cons, hfirst, hlookup]

/-- A place that holds no directory is none of those that are one in every tree. -/
theorem alwaysDirectory_eq_false (h : tree.entryAt? location ≠ some .directory) :
    alwaysDirectory location = false := by
  rw [← Bool.not_eq_true]
  intro hdirectory
  exact h (if_pos hdirectory)

/-- The places of directories are the same in both trees. -/
def SameDirectories (tree after : FileTree) : Prop :=
  ∀ place, after.entryAt? place = some .directory ↔ tree.entryAt? place = some .directory

/-- A file that is put into a place without a directory leaves the directories alone. -/
theorem sameDirectories_insert (h : tree.entryAt? location ≠ some .directory)
    (bytes : List UInt8) : tree.SameDirectories (tree.insert location (.file bytes)) := by
  intro place
  by_cases hplace : place = location
  · rw [hplace, entryAt?_insert_self (alwaysDirectory_eq_false h)]
    exact iff_of_false (by simp) h
  · rw [entryAt?_insert_of_ne hplace]

/-- A place is required to be a directory. -/
theorem requireDirectory_eq_ok {done : Unit} :
    tree.requireDirectory location = .ok done ↔ tree.entryAt? location = some .directory := by
  unfold requireDirectory
  cases tree.entryAt? location with
  | none => simp
  | some entry => cases entry <;> simp

namespace SameDirectories

/-- The same steps can be gone where the same directories are. -/
theorem step_iff (same : tree.SameDirectories after) :
    after.step location name = .ok other ↔ tree.step location name = .ok other := by
  unfold step
  rw [Outcome.bind_eq_ok, Outcome.bind_eq_ok]
  refine exists_congr fun _ => and_congr_left fun _ => ?_
  rw [requireDirectory_eq_ok, requireDirectory_eq_ok, same location]

/-- The same names can be followed. -/
theorem follow_iff (same : tree.SameDirectories after) (names : List String) :
    after.follow location names = .ok other ↔ tree.follow location names = .ok other := by
  induction names generalizing location with
  | nil => rfl
  | cons name rest ih =>
    unfold follow
    rw [Outcome.bind_eq_ok, Outcome.bind_eq_ok]
    exact exists_congr fun next => and_congr same.step_iff ih

/-- The same paths lead somewhere, and to the same places. -/
theorem locate_iff (same : tree.SameDirectories after) :
    after.locate path = .ok place ↔ tree.locate path = .ok place := by
  unfold locate
  rw [Outcome.bind_eq_ok, Outcome.bind_eq_ok]
  exact exists_congr fun names => and_congr_right fun _ => same.follow_iff names

end SameDirectories

/-- A file is read where its path leads to one. -/
theorem read_eq_ok :
    tree.read path = .ok bytes ↔
      ∃ place, tree.locate path = .ok place ∧ tree.entryAt? place = some (.file bytes) := by
  unfold read status
  rw [Outcome.bind_eq_ok]
  constructor
  · rintro ⟨entry, hentry, hbytes⟩
    obtain ⟨place, hplace, hfound⟩ := Outcome.bind_eq_ok.mp hentry
    refine ⟨place, hplace, ?_⟩
    cases hheld : tree.entryAt? place with
    | none =>
      rw [hheld] at hfound
      exact absurd hfound Outcome.throw_ne_ok
    | some held =>
      rw [hheld] at hfound
      rw [Outcome.pure_eq_ok.mp hfound]
      cases entry with
      | directory => exact absurd hbytes Outcome.throw_ne_ok
      | file content => rw [Outcome.pure_eq_ok.mp hbytes]
  · rintro ⟨place, hplace, hfile⟩
    refine ⟨.file bytes, ?_, rfl⟩
    rw [Outcome.bind_eq_ok]
    refine ⟨place, hplace, ?_⟩
    rw [hfile]
    rfl

/-- A path that ends in a separator is never written. -/
theorem refuseDirectory_ne_ok (tree : FileTree) (path : String) (after : FileTree) :
    tree.refuseDirectory path ≠ .ok after := by
  intro h
  unfold refuseDirectory at h
  obtain ⟨names, -, hfollow⟩ := Outcome.bind_eq_ok.mp h
  obtain ⟨place, -, hrequire⟩ := Outcome.bind_eq_ok.mp hfollow
  obtain ⟨_, -, hthrow⟩ := Outcome.bind_eq_ok.mp hrequire
  exact Outcome.throw_ne_ok hthrow

/-- A file is written to the place that its path leads to, unless that is a directory or the path
ends in a separator. -/
theorem write_eq_ok :
    tree.write path bytes = .ok after ↔
      path.endsWith "/" = false ∧ ∃ place, tree.locate path = .ok place ∧
        tree.entryAt? place ≠ some .directory ∧ after = tree.insert place (.file bytes) := by
  unfold write
  cases hends : path.endsWith "/" with
  | true => simpa using refuseDirectory_ne_ok tree path after
  | false =>
    rw [if_neg Bool.false_ne_true, Outcome.bind_eq_ok]
    refine ⟨?_, ?_⟩
    · rintro ⟨place, hplace, hwrite⟩
      refine ⟨rfl, place, hplace, ?_⟩
      cases hheld : tree.entryAt? place with
      | none =>
        rw [hheld] at hwrite
        exact ⟨by simp, (Outcome.pure_eq_ok.mp hwrite).symm⟩
      | some held =>
        rw [hheld] at hwrite
        cases held with
        | directory => exact absurd hwrite Outcome.throw_ne_ok
        | file content => exact ⟨by simp, (Outcome.pure_eq_ok.mp hwrite).symm⟩
    · rintro ⟨-, place, hplace, hheld, rfl⟩
      refine ⟨place, hplace, ?_⟩
      cases hfound : tree.entryAt? place with
      | none => rfl
      | some held =>
        cases held with
        | directory => exact absurd hfound hheld
        | file content => rfl

/-- What was written can be read, by every path that leads there. -/
theorem read_insert_self (hheld : tree.entryAt? place ≠ some .directory)
    (hplace : tree.locate path = .ok place) (bytes : List UInt8) :
    (tree.insert place (.file bytes)).read path = .ok bytes := by
  have hsame := sameDirectories_insert hheld bytes
  rw [read_eq_ok]
  exact ⟨place, hsame.locate_iff.mpr hplace,
    entryAt?_insert_self (alwaysDirectory_eq_false hheld)⟩

/-- What a path reads that leads elsewhere has not changed. -/
theorem read_insert_of_ne (hheld : tree.entryAt? place ≠ some .directory)
    (hother : tree.locate path ≠ .ok place) (hread : tree.read path = .ok bytes)
    (written : List UInt8) : (tree.insert place (.file written)).read path = .ok bytes := by
  have hsame := sameDirectories_insert hheld written
  obtain ⟨other, hlocate, hfile⟩ := read_eq_ok.mp hread
  have hne : other ≠ place := by
    rintro rfl
    exact hother hlocate
  rw [read_eq_ok]
  exact ⟨other, hsame.locate_iff.mpr hlocate, (entryAt?_insert_of_ne hne).trans hfile⟩

/-- A file that is written can be written again, and the last contents stay. -/
theorem write_insert_self (hends : path.endsWith "/" = false)
    (hheld : tree.entryAt? place ≠ some .directory) (hplace : tree.locate path = .ok place)
    (first last : List UInt8) :
    (tree.insert place (.file first)).write path last =
      .ok ((tree.insert place (.file first)).insert place (.file last)) := by
  have hsame := sameDirectories_insert hheld first
  rw [write_eq_ok]
  refine ⟨hends, place, hsame.locate_iff.mpr hplace, ?_, rfl⟩
  rw [entryAt?_insert_self (alwaysDirectory_eq_false hheld)]
  simp

end UnitConversion.FileTree
