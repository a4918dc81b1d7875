import UnitConversion.Proofs.HeaderScope
import UnitConversion.Proofs.LineRuns

/-!
# What names units have

A units file gives a unit the names that stand in its header and behind its aliases, without the
blanks around them. Empty names are dropped and lines end at line breaks, so a name holds something
and keeps to one line.
-/

namespace UnitConversion.UnitsFile

open Text MeasureUnit

/-- The text can be a name in a units file: there is something, without blanks at its ends, and it
stands on one line. -/
structure IsName (name : String) : Prop where
  /-- There is something. -/
  nonempty : name ≠ ""
  /-- No blanks stand at the ends. -/
  trimmed : trim name = name
  /-- No line ends in the name. -/
  oneLine : Line.OneLine name

instance (name : String) : Decidable (IsName name) :=
  decidable_of_iff (name ≠ "" ∧ trim name = name ∧ Line.OneLine name)
    ⟨fun h => ⟨h.1, h.2.1, h.2.2⟩, fun h => ⟨h.nonempty, h.trimmed, h.oneLine⟩⟩

/-- What stands on one line is a name without the blanks at its ends, unless nothing is left. -/
theorem isName_trim {text : String} (hline : Line.OneLine text)
    (hleft : (trim text).isEmpty = false) : IsName (trim text) where
  nonempty := by simpa using hleft
  trimmed := trim_trim text
  oneLine := by
    intro c hc
    rw [trim, String.toList_ofList] at hc
    exact hline c (mem_of_mem_trimChars hc)

/-- Names that are read as values stay as they are, and none of them is dropped. -/
theorem filter_map_trim_of_isName {names : List String} (h : ∀ name ∈ names, IsName name) :
    (names.map trim).filter (fun name => !name.isEmpty) = names := by
  have htrim : names.map trim = names :=
    (List.map_congr_left fun name hin => (h name hin).trimmed).trans (List.map_id names)
  rw [htrim, List.filter_eq_self]
  exact fun name hin => by simpa using (h name hin).nonempty

/-- No line ends in a token of a line. -/
theorem oneLine_of_tokenize {line : String} {tokens : List Token}
    (h : Line.tokenize isDelimiter false line = .ok tokens) :
    ∀ token ∈ tokens, Line.OneLine token.text :=
  Line.oneLine_of_scan h (by simp)

/-- What stands in a header is a name. -/
theorem isName_of_headerName? {line name : String} (h : headerName? line = some name) :
    IsName name := by
  unfold headerName? at h
  split at h
  · rename_i before opening text closing after hscan
    split at h
    · rename_i hshape
      cases h
      simp only [Bool.and_eq_true, Bool.not_eq_true'] at hshape
      exact isName_trim (oneLine_of_tokenize hscan text (by simp)) hshape.2
    · contradiction
  · contradiction

/-- What stands behind aliases are names. -/
theorem isName_of_settingOn? {limit : DigitLimit} {line : String} {names : List String}
    (h : settingOn? limit .aliases line = some (.aliases names)) :
    ∀ name ∈ names, IsName name := by
  unfold settingOn? at h
  split at h
  · rename_i key sign rest hscan
    split at h
    · simp only [Field.read, Option.some.injEq, Setting.aliases.injEq] at h
      subst h
      intro name hname
      obtain ⟨hvalue, hleft⟩ := List.mem_filter.mp hname
      obtain ⟨token, htoken, rfl⟩ := List.mem_map.mp hvalue
      have hin : token ∈ key :: sign :: rest := by simp [(List.mem_filter.mp htoken).1]
      exact isName_trim (oneLine_of_tokenize hscan token hin) (by simpa using hleft)
    · contradiction
  · contradiction

/-- The names in a description are its name and the aliases that are set. -/
theorem names_of_describe {name : String} {setting? : Field → Option Setting}
    {whole : Description} (h : describe name setting? = some whole) :
    ∀ other ∈ whole.names, other = name ∨
      ∃ names, setting? .aliases = some (.aliases names) ∧ other ∈ names := by
  unfold describe at h
  split at h
  · cases h
    intro other hother
    dsimp only at hother
    rw [List.mem_eraseDups, List.mem_cons] at hother
    refine hother.imp_right fun hin => ?_
    split at hin
    · rename_i names haliases
      exact ⟨names, haliases, hin⟩
    · simp at hin
  · contradiction

/-- All names in the registry of a file can be names. -/
theorem isName_of_load {limit : DigitLimit} {lines : List String} {loaded : Loaded}
    {unit : MeasureUnit} {name : String} (h : load limit lines = .ok loaded)
    (hunit : unit ∈ loaded.registry.units) (hname : name ∈ unit.names) : IsName name := by
  obtain ⟨before, header, below, primary, whole, -, hheader, hdescribe, -, hsublist⟩ :=
    hasOwnFields_of_load h hunit
  rcases names_of_describe hdescribe name (hsublist.subset hname) with rfl | ⟨names, hset, hin⟩
  · exact isName_of_headerName? hheader
  · obtain ⟨line, -, hline⟩ := List.exists_of_findSome?_eq_some hset
    exact isName_of_settingOn? hline name hin

end UnitConversion.UnitsFile
