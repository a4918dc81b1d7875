import UnitConversion.Proofs.UnitsFileAppend
import UnitConversion.Proofs.UnitsFileMeaning

/-!
# The scope of a header

The fields of a unit are set by the lines below its header, down to the next line that ends the
declaration. Which lines end it is the question here. A line that begins with a bracket does when it
scans, be the header whole or broken. One that ends inside an escape is skipped before it is looked
at, and what stands below it still belongs to the unit above it.
-/

namespace UnitConversion.UnitsFile

open Text MeasureUnit

/-- The unit has a header among the lines, and its fields are those that the lines below it set,
none of them behind a line that closes. It may have lost names to earlier units. -/
def HasOwnFields (closes : String → Bool) (limit : DigitLimit) (lines : List String)
    (unit : MeasureUnit) : Prop :=
  ∃ before header below name whole, lines = before ++ header :: below ∧
    headerName? header = some name ∧
    describe name (fun field =>
      (below.takeWhile fun line => !closes line).findSome? (settingOn? limit field)) = some whole ∧
    unit.description = { whole with names := unit.names } ∧ unit.names.Sublist whole.names

/-- Whatever stands above the line and below it, the units above it are complete when the line
comes, and what the line and those below it declare is added to them. -/
def EndsDeclarations (line : String) : Prop :=
  ∀ limit before after, (load limit (before ++ line :: after)).map Loaded.registry =
    (load limit before).bind fun first =>
      (load limit (line :: after)).map fun second => first.registry.addAll second.registry.units

/-- The lines before the first group reach to the first line that opens one. -/
theorem cut_fst (lines : List String) :
    (cut lines).1 = lines.takeWhile fun line => !opensGroup line := by
  induction lines with
  | nil => rfl
  | cons line rest ih =>
    cases hopens : opensGroup line with
    | true => simp [cut_cons_of_opensGroup hopens, hopens]
    | false => simp [cut_cons_of_not_opensGroup hopens, hopens, ih]

/-- A group stands among the lines: its header, and its body from there to the next group. -/
theorem exists_of_mem_cut {lines : List String} {group : Group} (h : group ∈ (cut lines).2) :
    ∃ before below, lines = before ++ group.header :: below ∧
      group.body = below.takeWhile fun line => !opensGroup line := by
  induction lines with
  | nil => simp [cut] at h
  | cons line rest ih =>
    have hlater : group ∈ (cut rest).2 → ∃ before below,
        line :: rest = before ++ group.header :: below ∧
          group.body = below.takeWhile fun line => !opensGroup line := by
      intro hin
      obtain ⟨before, below, hrest, hbody⟩ := ih hin
      exact ⟨line :: before, below, by rw [hrest, List.cons_append], hbody⟩
    cases hopens : opensGroup line with
    | true =>
      rw [cut_cons_of_opensGroup hopens] at h
      rcases List.mem_cons.mp h with rfl | hin
      · exact ⟨[], rest, rfl, cut_fst rest⟩
      · exact hlater hin
    | false =>
      rw [cut_cons_of_not_opensGroup hopens] at h
      exact hlater h

/-- The fields of a unit come from the lines between its header and the next line that opens a
group. -/
theorem hasOwnFields_of_load {limit : DigitLimit} {lines : List String} {loaded : Loaded}
    (h : load limit lines = .ok loaded) {unit : MeasureUnit} (hin : unit ∈ loaded.registry.units) :
    HasOwnFields opensGroup limit lines unit := by
  have hmeaning : unit.description ∈ meaning limit lines := by
    rw [← description_load h]
    exact List.mem_map_of_mem hin
  obtain ⟨whole, hwhole, hsame, -, hnames⟩ := exists_of_mem_distribute hmeaning
  obtain ⟨group, hgroup, hdescription⟩ := List.mem_filterMap.mp hwhole
  obtain ⟨before, below, hlines, hbody⟩ := exists_of_mem_cut hgroup
  obtain ⟨name, hname, hdescribe⟩ := Option.bind_eq_some_iff.mp hdescription
  rw [hbody] at hdescribe
  exact ⟨before, group.header, below, name, whole, hlines, hname, hdescribe, hsame, hnames⟩

/-- Lines that declare the same behind whatever is open declare the same behind the same lines. -/
theorem declared_append_congr {limit : DigitLimit} {left right : List String}
    (h : ∀ current, declared limit current left = declared limit current right)
    (current : Option Declaration) (before : List String) :
    declared limit current (before ++ left) = declared limit current (before ++ right) := by
  induction before generalizing current with
  | nil => exact h current
  | cons line rest ih =>
    rw [List.cons_append, List.cons_append, declared, declared]
    cases Entry.ofLine line with
    | blank => exact ih current
    | faulty problem => exact ih current
    | brokenHeader problem =>
      dsimp only
      rw [ih]
    | header name =>
      dsimp only
      rw [ih]
    | assignment key values =>
      dsimp only
      cases Declaration.assignOpen limit current key values with
      | error failure => rfl
      | ok next => exact ih next

/-- A line that does not scan might as well not be there. -/
theorem registry_load_of_not_scans {line : String} (h : scans line = false) (limit : DigitLimit)
    (before after : List String) :
    (load limit (before ++ line :: after)).map Loaded.registry =
      (load limit (before ++ after)).map Loaded.registry := by
  have hskipped : ∀ current, declared limit current (line :: after) =
      declared limit current after := by
    intro current
    rw [declared]
    unfold Entry.ofLine
    unfold scans at h
    cases hscan : Line.tokenize isDelimiter false line with
    | error failure => rfl
    | ok tokens => simp [hscan, Except.isOk, Except.toBool] at h
  rw [load_registry, load_registry, declared_append_congr hskipped]

/-- A line that opens a group ends the open declaration. -/
theorem endsDeclarations_of_opensGroup {line : String} (h : opensGroup line = true) :
    EndsDeclarations line := by
  intro limit before after
  apply registry_load_append
  have hblank : isBlankLine line = false := by
    by_contra hblank
    have hentry := ofLine_of_isBlankLine (by simpa using hblank)
    rw [← closes_ofLine, hentry] at h
    contradiction
  rw [opensGroup_eq] at h
  simpa [startsWithHeader, hblank] using h

/-- A line that does not scan leaves the declaration above it open. -/
theorem not_endsDeclarations_of_not_scans {line : String} (h : scans line = false) :
    ¬EndsDeclarations line := by
  intro hends
  -- A unit that lacks its zero point above the line, and one below it, tell the readings apart.
  have hsame := hends digitLimit ["[a]", "type = length", "conv_factor = 1"] ["zero_point = 5"]
  have halone := registry_load_of_not_scans h digitLimit [] ["zero_point = 5"]
  rw [List.nil_append, List.nil_append] at halone
  rw [bind_map_registry, registry_load_of_not_scans h, halone] at hsame
  have hoffsets := congrArg
    (fun registry => registry.map fun registry => registry.units.map fun unit => unit.offset.toBits)
    hsame
  revert hoffsets
  decide +kernel

/-- Lines close alike where they are asked. -/
theorem HasOwnFields.congr {closes other : String → Bool} {limit : DigitLimit}
    {lines : List String} {unit : MeasureUnit} (h : HasOwnFields closes limit lines unit)
    (hsame : ∀ line ∈ lines, closes line = other line) : HasOwnFields other limit lines unit := by
  obtain ⟨before, header, below, name, whole, hlines, hname, hdescribe, hrest⟩ := h
  have hbelow : (below.takeWhile fun line => !other line) =
      below.takeWhile fun line => !closes line := by
    have hmem : ∀ line ∈ below, closes line = other line := by
      intro line hin
      exact hsame line (by simp [hlines, hin])
    clear hlines hdescribe
    induction below with
    | nil => rfl
    | cons line rest ih =>
      simp only [List.takeWhile_cons, hmem line List.mem_cons_self,
        ih fun other hin => hmem other (List.mem_cons_of_mem _ hin)]
  exact ⟨before, header, below, name, whole, hlines, hname, by rw [hbelow]; exact hdescribe, hrest⟩

/-- The fields of a unit come from the lines between its header and the next line that scans and
begins with a bracket. In a file where all lines that begin with a bracket scan, those are the lines
down to the next bracket. A line that begins with a bracket ends the declaration above it in all
files exactly when it scans. -/
theorem header_scope (limit : DigitLimit) (lines : List String) :
    (∀ loaded, load limit lines = .ok loaded → ∀ unit ∈ loaded.registry.units,
      HasOwnFields (fun line => scans line && beginsWithBracket line.toList) limit lines unit) ∧
    ((∀ line ∈ lines, beginsWithBracket line.toList = true → scans line = true) →
      ∀ loaded, load limit lines = .ok loaded → ∀ unit ∈ loaded.registry.units,
        HasOwnFields (fun line => beginsWithBracket line.toList) limit lines unit) ∧
    ∀ line, beginsWithBracket line.toList = true →
      (EndsDeclarations line ↔ scans line = true) := by
  refine ⟨fun loaded h unit hin => ?_, fun hscan loaded h unit hin => ?_, fun line hbracket => ?_⟩
  · exact (hasOwnFields_of_load h hin).congr fun line _ => opensGroup_eq line
  · refine (hasOwnFields_of_load h hin).congr fun line hline => ?_
    rw [opensGroup_eq]
    cases hbracket : beginsWithBracket line.toList with
    | false => rw [Bool.and_false]
    | true => rw [hscan line hline hbracket, Bool.and_true]
  · constructor
    · intro hends
      by_contra hscan
      exact not_endsDeclarations_of_not_scans (by simpa using hscan) hends
    · intro hscan
      apply endsDeclarations_of_opensGroup
      rw [opensGroup_eq, hscan, hbracket]
      rfl

/-- A unit whose zero point is not set has it at zero. -/
theorem offset_of_describe {name : String} {setting? : Field → Option Setting}
    {whole : Description} (h : describe name setting? = some whole)
    (hnone : setting? .zeroPoint = none) : whole.offset = 0.0 := by
  unfold describe at h
  split at h
  · cases h
    simp [hnone]
  · contradiction

/-- A zero point below a header that ends inside an escape goes to the unit above it. -/
theorem zero_point_below_dangling_header :
    ∃ loaded, load digitLimit
        ["[a]", "type = length", "conv_factor = 1", "[b\\", "zero_point = 5"] = .ok loaded ∧
      ∃ unit ∈ loaded.registry.units,
        ¬HasOwnFields (fun line => beginsWithBracket line.toList) digitLimit
          ["[a]", "type = length", "conv_factor = 1", "[b\\", "zero_point = 5"] unit := by
  have hbits : (load digitLimit
      ["[a]", "type = length", "conv_factor = 1", "[b\\", "zero_point = 5"]).map
        (fun loaded => loaded.registry.units.map fun unit => unit.offset.toBits) =
      .ok [0x4014000000000000] := by decide +kernel
  obtain ⟨loaded, hloaded, hunits⟩ := Outcome.map_eq_ok.mp hbits
  obtain ⟨unit, rest, hregistry, hoffset, -⟩ := List.map_eq_cons_iff.mp hunits
  refine ⟨loaded, hloaded, unit, by simp [hregistry], ?_⟩
  rintro ⟨before, header, below, name, whole, hlines, hname, hdescribe, hsame, -⟩
  have hwhole : unit.offset = whole.offset := congrArg Description.offset hsame
  -- The first line is the only one that is a whole header.
  have hfirst : below = ["type = length", "conv_factor = 1", "[b\\", "zero_point = 5"] := by
    have hothers : ∀ line ∈ ["type = length", "conv_factor = 1", "[b\\", "zero_point = 5"],
        headerName? line = none := by decide +kernel
    cases before with
    | nil =>
      rw [List.nil_append, List.cons.injEq] at hlines
      exact hlines.2.symm
    | cons first before =>
      rw [List.cons_append, List.cons.injEq] at hlines
      have hheader := hothers header (by simp [hlines.2])
      simp [hheader] at hname
  have hscope : (below.takeWhile fun line => !beginsWithBracket line.toList) =
      ["type = length", "conv_factor = 1"] := by
    rw [hfirst]
    decide +kernel
  have hnone : (below.takeWhile fun line => !beginsWithBracket line.toList).findSome?
      (settingOn? digitLimit .zeroPoint) = none := by
    have hunset : ∀ line ∈ ["type = length", "conv_factor = 1"],
        (settingOn? digitLimit .zeroPoint line).isNone = true := by decide +kernel
    rw [hscope, List.findSome?_eq_none_iff]
    intro line hin
    exact Option.isNone_iff_eq_none.mp (hunset line hin)
  rw [hwhole, offset_of_describe hdescribe hnone] at hoffset
  revert hoffset
  decide +kernel

end UnitConversion.UnitsFile
