import UnitConversion.Proofs.Escapes
import UnitConversion.Proofs.ScanSteps

/-!
# Where a line is cut

Scanning stops at the first line break, or before it at the first sign of a comment that has its
meaning. The delimiters that have their meaning before that position cut the line into runs. The
scan gives exactly these pieces, the same ones whether backslashes are kept or not, and what stands
behind the position where it stops plays no part.
-/

namespace UnitConversion.Line

/-- Scanning stops at the position. A character that has its meaning stops it when it starts a
comment or ends the line, and one without when it ends the line. -/
def endsAt (chars : List Char) (position : Nat) : Bool :=
  match chars[position]? with
  | some c => if isEscaped chars position then isBreak c else c == comment || isBreak c
  | none => false

/-- The first position at which scanning stops, or the length of the line. -/
def stop (chars : List Char) : Nat := (List.range chars.length).findIdx (endsAt chars)

/-- A delimiter that has its meaning stands at the position. A backslash that has its meaning is no
delimiter. -/
def isCut (isDelimiter : Char → Bool) (chars : List Char) (position : Nat) : Bool :=
  match chars[position]? with
  | some c => isDelimiter c && c != escape && !isEscaped chars position
  | none => false

/-- The positions between two others at which the line is cut. -/
def cutsBetween (isDelimiter : Char → Bool) (chars : List Char) (start stop : Nat) : List Nat :=
  (List.range' start (stop - start)).filter (isCut isDelimiter chars)

/-- The runs and delimiters of a line between two positions, given where it is cut. -/
def pieces (keepEscapes : Bool) (chars : List Char) (stop : Nat) : Nat → List Nat → List Token
  | start, [] => [⟨String.ofList (textBetween keepEscapes chars start stop), false, start⟩]
  | start, cut :: cuts =>
    ⟨String.ofList (textBetween keepEscapes chars start cut), false, start⟩ ::
      ⟨String.ofList (textBetween keepEscapes chars cut (cut + 1)), true, cut⟩ ::
      pieces keepEscapes chars stop (cut + 1) cuts

/-- The piece without the backslashes that take a meaning away. -/
def withoutEscapes (chars : List Char) (token : Token) : Token :=
  { token with
    text := String.ofList
      (textBetween false chars token.column (token.column + token.text.length)) }

variable {isDelimiter : Char → Bool} {chars : List Char} {position start last : Nat}

section Stop

/-- Scanning stops at the end of the line at the latest. -/
theorem stop_le (chars : List Char) : stop chars ≤ chars.length := by
  have hle := @List.findIdx_le_length _ (endsAt chars) (List.range chars.length)
  rwa [List.length_range] at hle

/-- Scanning does not stop before it stops. -/
theorem endsAt_of_lt_stop (h : position < stop chars) : endsAt chars position = false := by
  have hbefore := List.not_of_lt_findIdx h
  rwa [List.getElem_range] at hbefore

/-- Scanning stops at a character that stops it, unless it is at the end of the line. -/
theorem endsAt_stop (h : stop chars < chars.length) : endsAt chars (stop chars) = true := by
  have hrange : (List.range chars.length).findIdx (endsAt chars) <
      (List.range chars.length).length := by
    rwa [List.length_range]
  have hstop := @List.findIdx_getElem _ (endsAt chars) _ hrange
  rwa [List.getElem_range] at hstop

/-- The position where scanning stops is the only one at which it could. -/
theorem stop_eq_of (hbefore : ∀ position < last, endsAt chars position = false)
    (hle : last ≤ chars.length) (hends : last = chars.length ∨ endsAt chars last = true) :
    stop chars = last := by
  have hstop := stop_le chars
  rcases Nat.lt_trichotomy (stop chars) last with hlt | heq | hgt
  · have hfound : endsAt chars (stop chars) = true := endsAt_stop (by omega)
    rw [hbefore _ hlt] at hfound
    contradiction
  · exact heq
  · rcases hends with hend | hend
    · omega
    · rw [endsAt_of_lt_stop hgt] at hend
      contradiction

end Stop

section Reaching

/-- Scanning reaches the position, the character there has its meaning, and this is what is left of
the line. -/
structure Reaches (chars : List Char) (position : Nat) (rest : List Char) : Prop where
  /-- What is left of the line. -/
  rest : chars.drop position = rest
  /-- The character has its meaning. -/
  plain : isEscaped chars position = false
  /-- Scanning did not stop before. -/
  le : position ≤ stop chars

variable {c escaped : Char} {rest : List Char}

/-- At the start all of the line is left. -/
theorem reaches_zero (chars : List Char) : Reaches chars 0 chars :=
  ⟨List.drop_zero, isEscaped_zero chars, Nat.zero_le _⟩

/-- Scanning goes on behind a position at which it does not stop. -/
theorem succ_le_stop (hle : position ≤ stop chars) (hfound : chars[position]? = some c)
    (hgoes : endsAt chars position = false) : position + 1 ≤ stop chars := by
  have hlt := (List.getElem?_eq_some_iff.mp hfound).1
  rcases Nat.lt_or_eq_of_le hle with hbefore | rfl
  · exact hbefore
  · rw [endsAt_stop hlt] at hgoes
    contradiction

/-- Where nothing is left scanning stops. -/
theorem Reaches.stop_of_nil (h : Reaches chars position []) : stop chars = position := by
  have hlength := List.drop_eq_nil_iff.mp h.rest
  have hstop := stop_le chars
  have hle := h.le
  omega

/-- At a comment and at a line break scanning stops. -/
theorem Reaches.stop_of_ends (h : Reaches chars position (c :: rest))
    (hends : (decide (c = comment) || isBreak c) = true) : stop chars = position := by
  have hfound := (getElem?_of_drop h.rest).1
  have hlt := (List.getElem?_eq_some_iff.mp hfound).1
  apply stop_eq_of (fun before hbefore => endsAt_of_lt_stop (Nat.lt_of_lt_of_le hbefore h.le))
  · omega
  · right
    simp only [endsAt, hfound, h.plain, Bool.false_eq_true, if_false]
    simpa using hends

/-- Scanning goes on behind any other character, and behind one without a meaning for the line the
next one has its meaning. -/
theorem Reaches.next (h : Reaches chars position (c :: rest)) (hescape : c ≠ escape)
    (hgoes : (decide (c = comment) || isBreak c) = false) : Reaches chars (position + 1) rest := by
  obtain ⟨hfound, hlater⟩ := getElem?_of_drop h.rest
  refine ⟨hlater, ?_, succ_le_stop h.le hfound ?_⟩
  · rw [isEscaped_succ hfound]
    simp [hescape]
  · simp only [endsAt, hfound, h.plain, Bool.false_eq_true, if_false]
    simpa using hgoes

/-- Behind a backslash scanning goes on, and the next character has no meaning. -/
theorem Reaches.escape (h : Reaches chars position (escape :: rest)) :
    position + 1 ≤ stop chars ∧ isEscaped chars (position + 1) = true := by
  have hfound := (getElem?_of_drop h.rest).1
  constructor
  · apply succ_le_stop h.le hfound
    simp only [endsAt, hfound, h.plain, Bool.false_eq_true, if_false]
    decide
  · rw [isEscaped_succ hfound, h.plain]
    decide

/-- Behind a backslash scanning stops at the end of the line. -/
theorem Reaches.stop_of_dangling (h : Reaches chars position [Line.escape]) :
    stop chars = position + 1 := by
  have hlater := List.drop_eq_nil_iff.mp (getElem?_of_drop h.rest).2
  have hstop := stop_le chars
  have hle := h.escape.1
  omega

/-- Behind a backslash scanning stops at a line break. -/
theorem Reaches.stop_of_break (h : Reaches chars position (Line.escape :: escaped :: rest))
    (hbreak : isBreak escaped = true) : stop chars = position + 1 := by
  obtain ⟨hle, hescaped⟩ := h.escape
  have hnext := (getElem?_of_drop (getElem?_of_drop h.rest).2).1
  have hlt := (List.getElem?_eq_some_iff.mp hnext).1
  apply stop_eq_of (fun before hbefore => endsAt_of_lt_stop (Nat.lt_of_lt_of_le hbefore hle))
  · omega
  · right
    simp only [endsAt, hnext, hescaped, if_true]
    exact hbreak

/-- Behind a backslash and a character scanning goes on. -/
theorem Reaches.pair (h : Reaches chars position (Line.escape :: escaped :: rest))
    (hbreak : isBreak escaped = false) : Reaches chars (position + 2) rest := by
  obtain ⟨hle, hescaped⟩ := h.escape
  obtain ⟨hnext, hlater⟩ := getElem?_of_drop (getElem?_of_drop h.rest).2
  refine ⟨hlater, ?_, succ_le_stop hle hnext ?_⟩
  · rw [isEscaped_succ hnext, hescaped]
    simp
  · simp only [endsAt, hnext, hescaped, if_true]
    exact hbreak

end Reaching

section Cuts

variable {c : Char}

/-- A position at which the line is cut is the first cut from there on. -/
theorem cutsBetween_of_cut (h : start < last) (hcut : isCut isDelimiter chars start = true) :
    cutsBetween isDelimiter chars start last =
      start :: cutsBetween isDelimiter chars (start + 1) last := by
  have hlength : last - start = last - (start + 1) + 1 := by omega
  unfold cutsBetween
  rw [hlength, List.range'_succ, List.filter_cons, if_pos hcut]

/-- From a position at which the line is not cut, the cuts are those behind it. -/
theorem cutsBetween_of_no_cut (h : start < last) (hcut : isCut isDelimiter chars start = false) :
    cutsBetween isDelimiter chars start last = cutsBetween isDelimiter chars (start + 1) last := by
  have hlength : last - start = last - (start + 1) + 1 := by omega
  unfold cutsBetween
  rw [hlength, List.range'_succ, List.filter_cons, if_neg (by simp [hcut])]

/-- The line is not cut between a position and itself. -/
@[simp]
theorem cutsBetween_self (isDelimiter : Char → Bool) (chars : List Char) (start : Nat) :
    cutsBetween isDelimiter chars start start = [] := by
  simp [cutsBetween]

/-- The line is cut where a delimiter has its meaning. -/
theorem isCut_of_plain (hfound : chars[position]? = some c) (hescape : c ≠ escape)
    (hplain : isEscaped chars position = false) :
    isCut isDelimiter chars position = isDelimiter c := by
  simp [isCut, hfound, hescape, hplain]

/-- The line is not cut where the meaning of a character is taken away. -/
theorem isCut_of_isEscaped (h : isEscaped chars position = true) :
    isCut isDelimiter chars position = false := by
  unfold isCut
  cases chars[position]? <;> simp [h]

/-- The line is not cut at a backslash that has its meaning. -/
theorem isCut_of_escape (h : chars[position]? = some escape) :
    isCut isDelimiter chars position = false := by
  simp [isCut, h]

end Cuts

/-- These are the cuts between two positions, in order. -/
inductive CutAt (isDelimiter : Char → Bool) (chars : List Char) (last : Nat) : Nat → List Nat → Prop
  /-- There are none. -/
  | none {start : Nat} (hle : start ≤ last)
    (hplain : ∀ position, start ≤ position → position < last →
      isCut isDelimiter chars position = false) : CutAt isDelimiter chars last start []
  /-- There is a first one, and there are those behind it. -/
  | cons {start cut : Nat} {cuts : List Nat} (hle : start ≤ cut) (hlt : cut < last)
    (hplain : ∀ position, start ≤ position → position < cut →
      isCut isDelimiter chars position = false) (hcut : isCut isDelimiter chars cut = true)
    (later : CutAt isDelimiter chars last (cut + 1) cuts) :
    CutAt isDelimiter chars last start (cut :: cuts)

/-- The positions at which a line is cut are its cuts. -/
theorem cutAt_cutsBetween (isDelimiter : Char → Bool) (chars : List Char) (hle : start ≤ last) :
    CutAt isDelimiter chars last start (cutsBetween isDelimiter chars start last) := by
  generalize hcuts : cutsBetween isDelimiter chars start last = cuts
  induction cuts generalizing start with
  | nil =>
    refine .none hle fun position hstart hlast => ?_
    have hnone := List.filter_eq_nil_iff.mp hcuts position
      (List.mem_range'_1.mpr ⟨hstart, by omega⟩)
    simpa using hnone
  | cons cut cuts ih =>
    obtain ⟨before, after, hrange, hbefore, hcut, hafter⟩ := List.filter_eq_cons_iff.mp hcuts
    obtain ⟨count, hcount, hfirst, hlater⟩ := List.range'_eq_append_iff.mp hrange
    obtain ⟨hposition, hpositive, hrest⟩ := List.range'_eq_cons_iff.mp hlater.symm
    have hstart : start + count = cut := by omega
    have hlast : last - start - count - 1 = last - (cut + 1) := by omega
    refine .cons (by omega) (by omega) (fun position hlow hhigh => ?_) hcut (ih (by omega) ?_)
    · have hmem : position ∈ before := by
        rw [hfirst, List.mem_range'_1]
        omega
      simpa using hbefore position hmem
    · rw [← hafter, hrest, hlast]
      rfl

/-- Where scanning stops at a character that has its meaning, the run so far is the last piece. -/
theorem Reaches.pieces_last {keepEscapes : Bool} {rest reversed : List Char}
    (hreaches : Reaches chars position rest)
    (hrun : reversed.reverse = textBetween keepEscapes chars start position)
    (hstop : stop chars = position) :
    (.ok [run start reversed] : Except DanglingEscape (List Token)) =
      if isEscaped chars (stop chars) then .error ⟨stop chars⟩
      else .ok (pieces keepEscapes chars (stop chars) start
        (cutsBetween isDelimiter chars position (stop chars))) := by
  rw [hstop, if_neg (by simp [hreaches.plain]), cutsBetween_self, pieces, run, hrun]

/-- The scan gives the pieces of the line: from a position that it reaches inside a run, whose
characters so far it holds, up to the position where it stops. -/
theorem scan_eq_pieces {keepEscapes : Bool} {column start : Nat} {reversed rest : List Char}
    (hreaches : Reaches chars column rest) (hstart : start ≤ column)
    (hrun : reversed.reverse = textBetween keepEscapes chars start column) :
    scan isDelimiter keepEscapes column start reversed rest =
      if isEscaped chars (stop chars) then .error ⟨stop chars⟩
      else .ok (pieces keepEscapes chars (stop chars) start
        (cutsBetween isDelimiter chars column (stop chars))) := by
  induction column, start, reversed, rest using scan.induct isDelimiter keepEscapes with
  | case1 column start reversed =>
    rw [scan]
    exact hreaches.pieces_last hrun hreaches.stop_of_nil
  | case2 column start reversed =>
    rw [scan_dangling (by simp), hreaches.stop_of_dangling, hreaches.escape.2, if_pos rfl]
  | case3 column start reversed escaped rest hbreak =>
    rw [scan_dangling (by simpa using hbreak), hreaches.stop_of_break hbreak, hreaches.escape.2,
      if_pos rfl]
  | @case4 column start reversed escaped rest hbreak kept ih =>
    have hplain : isBreak escaped = false := by simpa using hbreak
    obtain ⟨hfound, hrest⟩ := getElem?_of_drop hreaches.rest
    have hnext := (getElem?_of_drop hrest).1
    have hescaped := hreaches.escape.2
    have hpair := hreaches.pair hplain
    have hle := hpair.le
    have hcuts : cutsBetween isDelimiter chars column (stop chars) =
        cutsBetween isDelimiter chars (column + 2) (stop chars) := by
      rw [cutsBetween_of_no_cut (by omega) (isCut_of_escape hfound),
        cutsBetween_of_no_cut (by omega) (isCut_of_isEscaped hescaped)]
    rw [scan_escaped hplain, hcuts]
    refine ih hpair (by omega) ?_
    have hfirst : isEscape chars column = true := by rw [isEscape_eq hfound, hescaped]
    have hsecond : isEscape chars (column + 1) = false := by simp [isEscape, hescaped]
    rw [textBetween_succ keepEscapes hnext (by omega), textBetween_succ keepEscapes hfound hstart,
      ← hrun, hfirst, hsecond]
    cases keepEscapes <;> simp [kept]
  | case5 column start reversed c rest hescape hends =>
    rw [scan_end hescape hends]
    exact hreaches.pieces_last hrun (hreaches.stop_of_ends hends)
  | case6 column start reversed c rest hescape hends hdelimiter ih =>
    have hgoes : (decide (c = comment) || isBreak c) = false := by simpa using hends
    have hfound := (getElem?_of_drop hreaches.rest).1
    have hnext := hreaches.next hescape hgoes
    have hle := hnext.le
    have hcut : isCut isDelimiter chars column = true := by
      rw [isCut_of_plain hfound hescape hreaches.plain, hdelimiter]
    have htext : textBetween keepEscapes chars column (column + 1) = [c] := by
      have hkept : isEscape chars column = false := by simp [isEscape, hfound, hescape]
      rw [textBetween_succ keepEscapes hfound (Nat.le_refl _), textBetween_self, hkept]
      simp
    rw [scan_delimiter hdelimiter hescape hgoes, ih hnext (Nat.le_refl _) (by simp),
      cutsBetween_of_cut hle hcut, pieces, htext, ← hrun, String.singleton_eq_ofList]
    split <;> rfl
  | case7 column start reversed c rest hescape hends hdelimiter ih =>
    have hgoes : (decide (c = comment) || isBreak c) = false := by simpa using hends
    have hdelimiter : isDelimiter c = false := by simpa using hdelimiter
    have hfound := (getElem?_of_drop hreaches.rest).1
    have hnext := hreaches.next hescape hgoes
    have hle := hnext.le
    have hcut : isCut isDelimiter chars column = false := by
      rw [isCut_of_plain hfound hescape hreaches.plain, hdelimiter]
    have hkept : isEscape chars column = false := by simp [isEscape, hfound, hescape]
    rw [scan_plain hdelimiter hescape hgoes, cutsBetween_of_no_cut hle hcut]
    refine ih hnext (by omega) ?_
    rw [textBetween_succ keepEscapes hfound hstart, ← hrun, hkept]
    simp

/-- A line is cut at all delimiters that have their meaning before scanning stops. It is refused
when scanning stops inside an escape. -/
theorem tokenize_eq_pieces (isDelimiter : Char → Bool) (keepEscapes : Bool) (line : String) :
    tokenize isDelimiter keepEscapes line =
      if isEscaped line.toList (stop line.toList) then .error ⟨stop line.toList⟩
      else .ok (pieces keepEscapes line.toList (stop line.toList) 0
        (cutsBetween isDelimiter line.toList 0 (stop line.toList))) :=
  scan_eq_pieces (reaches_zero line.toList) (Nat.le_refl 0) (by simp)

/-- The tokens are the pieces of a line between two positions, one behind the other and without a
gap: runs of text with one delimiter between neighbours. -/
structure Tiles (isDelimiter : Char → Bool) (chars : List Char) (start last : Nat)
    (tokens : List Token) : Prop where
  /-- There is one run more than there are delimiters. -/
  odd : tokens.length % 2 = 1
  /-- Runs and delimiters alternate, from a run on. -/
  alternate : ∀ index token, tokens[index]? = some token →
    token.isDelimiter = (index % 2 == 1)
  /-- The first token starts at the first position. -/
  first : ∀ token, tokens.head? = some token → token.column = start
  /-- Each token starts where the one before it ends. -/
  next : ∀ index token later, tokens[index]? = some token → tokens[index + 1]? = some later →
    later.column = token.column + token.text.length
  /-- The last token ends at the last position. -/
  final : ∀ token, tokens.getLast? = some token → token.column + token.text.length = last
  /-- The text of a token is the slice of the line that starts at its column. -/
  slice : ∀ token ∈ tokens, token.text.toList = (chars.drop token.column).take token.text.length
  /-- A delimiter is one that has its meaning. -/
  delimiter : ∀ token ∈ tokens, token.isDelimiter = true →
    ∃ c, token.text = String.singleton c ∧ isDelimiter c = true ∧ c ≠ escape ∧
      isEscaped chars token.column = false
  /-- A delimiter in a run has no meaning, or it is a backslash that takes one away. -/
  run : ∀ token ∈ tokens, token.isDelimiter = false → ∀ position c, token.column ≤ position →
    position < token.column + token.text.length → chars[position]? = some c →
      isDelimiter c = true → isEscaped chars position = true ∨ isEscape chars position = true

section Tiling

variable {c : Char} {tokens : List Token}

/-- At a cut stands a delimiter that has its meaning. -/
theorem exists_of_isCut (h : isCut isDelimiter chars position = true) :
    ∃ c, chars[position]? = some c ∧ isDelimiter c = true ∧ c ≠ escape ∧
      isEscaped chars position = false := by
  unfold isCut at h
  split at h
  · rename_i c hfound
    simp only [Bool.and_eq_true, bne_iff_ne, Bool.not_eq_true'] at h
    exact ⟨c, hfound, h.1.1, h.1.2, h.2⟩
  · contradiction

/-- Where the line is not cut, a delimiter has no meaning or is a backslash that takes one away. -/
theorem isEscaped_or_isEscape (h : isCut isDelimiter chars position = false)
    (hfound : chars[position]? = some c) (hdelimiter : isDelimiter c = true) :
    isEscaped chars position = true ∨ isEscape chars position = true := by
  cases hescaped : isEscaped chars position with
  | true => exact .inl rfl
  | false =>
    by_cases hescape : c = escape
    · right
      rw [isEscape, hfound, hescape, hescaped]
      rfl
    · rw [isCut_of_plain hfound hescape hescaped, hdelimiter] at h
      contradiction

/-- The run between two positions of the line. -/
def runBetween (chars : List Char) (start last : Nat) : Token :=
  ⟨String.ofList (textBetween true chars start last), false, start⟩

/-- A run is as long as the line is between its positions. -/
theorem length_runBetween (hle : last ≤ chars.length) :
    (runBetween chars start last).text.length = last - start := by
  rw [runBetween, String.length_ofList, length_textBetween_true hle]

/-- The text of a run is the slice of the line between its positions. -/
theorem slice_runBetween (hle : last ≤ chars.length) :
    (runBetween chars start last).text.toList =
      (chars.drop start).take (runBetween chars start last).text.length := by
  rw [length_runBetween hle, runBetween, String.toList_ofList, textBetween_true]

/-- One run without a cut in it. -/
theorem tiles_singleton (hle : start ≤ last) (hlength : last ≤ chars.length)
    (hplain : ∀ position, start ≤ position → position < last →
      isCut isDelimiter chars position = false) :
    Tiles isDelimiter chars start last [runBetween chars start last] where
  odd := rfl
  alternate := by
    intro index token htoken
    cases index with
    | zero =>
      cases htoken
      rfl
    | succ index => simp at htoken
  first := by
    rintro token ⟨⟩
    rfl
  next := by simp
  final := by
    rintro token ⟨⟩
    change start + (runBetween chars start last).text.length = last
    rw [length_runBetween hlength]
    omega
  slice := by
    intro token hin
    rw [List.mem_singleton.mp hin]
    exact slice_runBetween hlength
  delimiter := by
    intro token hin hkind
    rw [List.mem_singleton.mp hin] at hkind
    contradiction
  run := by
    intro token hin _ position c hlow hhigh hfound hdelimiter
    rw [List.mem_singleton.mp hin] at hlow hhigh
    rw [length_runBetween hlength] at hhigh
    have hstart : start ≤ position := hlow
    have hlast : position < start + (last - start) := hhigh
    exact isEscaped_or_isEscape (hplain position hstart (by omega)) hfound hdelimiter

/-- A run, the delimiter behind it, and tokens from there on. -/
theorem Tiles.cons {cut : Nat} (tiles : Tiles isDelimiter chars (cut + 1) last tokens)
    (hle : start ≤ cut) (hcut : isCut isDelimiter chars cut = true)
    (hplain : ∀ position, start ≤ position → position < cut →
      isCut isDelimiter chars position = false)
    (hfound : chars[cut]? = some c) :
    Tiles isDelimiter chars start last
      (runBetween chars start cut :: ⟨String.singleton c, true, cut⟩ :: tokens) := by
  have hlength := (List.getElem?_eq_some_iff.mp hfound).1
  have alone := tiles_singleton hle (Nat.le_of_lt hlength) hplain
  have hrun : (runBetween chars start cut).text.length = cut - start :=
    length_runBetween (Nat.le_of_lt hlength)
  have hnonempty : tokens ≠ [] := by
    rintro rfl
    exact absurd tiles.odd (by simp)
  have hmem : ∀ {token},
      token ∈ runBetween chars start cut :: ⟨String.singleton c, true, cut⟩ :: tokens →
        token = runBetween chars start cut ∨ token = ⟨String.singleton c, true, cut⟩ ∨
          token ∈ tokens := by
    intro token hin
    simpa using hin
  constructor
  case odd =>
    have hodd := tiles.odd
    simp only [List.length_cons]
    omega
  case alternate =>
    intro index token htoken
    match index with
    | 0 =>
      cases htoken
      rfl
    | 1 =>
      cases htoken
      rfl
    | index + 2 =>
      have hkind := tiles.alternate index token htoken
      rw [hkind, Nat.add_mod_right]
  case first =>
    rintro token ⟨⟩
    rfl
  case next =>
    intro index token later htoken hlater
    match index with
    | 0 =>
      cases htoken
      cases hlater
      change cut = start + (runBetween chars start cut).text.length
      rw [hrun]
      omega
    | 1 =>
      cases htoken
      rw [String.length_singleton]
      exact tiles.first later (by rw [List.head?_eq_getElem?]; exact hlater)
    | index + 2 => exact tiles.next index token later htoken hlater
  case final =>
    intro token htoken
    rw [List.getLast?_cons_cons, List.getLast?_cons_of_ne_nil hnonempty] at htoken
    exact tiles.final token htoken
  case slice =>
    intro token hin
    rcases hmem hin with rfl | rfl | hin
    · exact slice_runBetween (Nat.le_of_lt hlength)
    · have hdrop := List.drop_eq_getElem_cons hlength
      have hsame := (List.getElem?_eq_some_iff.mp hfound).2
      dsimp only
      rw [hdrop, hsame, String.toList_singleton, String.length_singleton]
      rfl
    · exact tiles.slice token hin
  case delimiter =>
    intro token hin hkind
    rcases hmem hin with rfl | rfl | hin
    · contradiction
    · obtain ⟨other, hother, hdelimiter, hescape, hescaped⟩ := exists_of_isCut hcut
      rw [hfound, Option.some.injEq] at hother
      subst hother
      exact ⟨c, rfl, hdelimiter, hescape, hescaped⟩
    · exact tiles.delimiter token hin hkind
  case run =>
    intro token hin hkind
    rcases hmem hin with rfl | rfl | hin
    · exact alone.run _ (List.mem_singleton_self _) rfl
    · contradiction
    · exact tiles.run token hin hkind

end Tiling

/-- The pieces of a line tile it, from the position where they start to the one where they end. -/
theorem tiles_pieces {cuts : List Nat} (hlength : last ≤ chars.length)
    (h : CutAt isDelimiter chars last start cuts) :
    Tiles isDelimiter chars start last (pieces true chars last start cuts) := by
  induction h with
  | none hle hplain => exact tiles_singleton hle hlength hplain
  | @cons start cut cuts hle hlt hplain hcut later ih =>
    obtain ⟨c, hfound, -, -, -⟩ := exists_of_isCut hcut
    have htext : String.ofList (textBetween true chars cut (cut + 1)) = String.singleton c := by
      rw [textBetween_succ true hfound (Nat.le_refl cut), textBetween_self,
        String.singleton_eq_ofList]
      rfl
    rw [pieces, htext]
    exact ih.cons hle hcut hplain hfound

/-- A piece between two positions without its escapes' backslashes. -/
theorem withoutEscapes_mk (isDelimiter : Bool) (hle : start ≤ last)
    (hlength : last ≤ chars.length) :
    withoutEscapes chars ⟨String.ofList (textBetween true chars start last), isDelimiter, start⟩ =
      ⟨String.ofList (textBetween false chars start last), isDelimiter, start⟩ := by
  have hend : start + (last - start) = last := by omega
  unfold withoutEscapes
  dsimp only
  rw [String.length_ofList, length_textBetween_true hlength, hend]

/-- Where backslashes are dropped the pieces are the same, without those backslashes. -/
theorem pieces_false {cuts : List Nat} (hlength : last ≤ chars.length)
    (h : CutAt isDelimiter chars last start cuts) :
    pieces false chars last start cuts =
      (pieces true chars last start cuts).map (withoutEscapes chars) := by
  induction h with
  | none hle hplain => simp [pieces, withoutEscapes_mk false hle hlength]
  | @cons start cut cuts hle hlt hplain hcut later ih =>
    have hrun := @withoutEscapes_mk chars start cut false hle (by omega)
    have hdelimiter := @withoutEscapes_mk chars cut (cut + 1) true (Nat.le_succ cut) (by omega)
    simp only [pieces, List.map_cons, hrun, hdelimiter, ih]

/-- A delimiter of the line is the same without backslashes. -/
theorem Tiles.withoutEscapes_delimiter {tokens : List Token}
    (tiles : Tiles isDelimiter chars start last tokens) {token : Token} (hin : token ∈ tokens)
    (hkind : token.isDelimiter = true) : withoutEscapes chars token = token := by
  obtain ⟨c, htext, -, hescape, -⟩ := tiles.delimiter token hin hkind
  have hslice := tiles.slice token hin
  rw [htext, String.toList_singleton, String.length_singleton] at hslice
  have hfound : chars[token.column]? = some c := by
    have hfirst := congrArg (·[0]?) hslice
    simpa [List.getElem?_take, List.getElem?_drop] using hfirst.symm
  have hkept : isEscape chars token.column = false := by simp [isEscape, hfound, hescape]
  have hsame : textBetween false chars token.column (token.column + 1) = [c] := by
    rw [textBetween_succ false hfound (Nat.le_refl _), textBetween_self, hkept]
    rfl
  unfold withoutEscapes
  rw [htext, String.length_singleton, hsame, ← String.singleton_eq_ofList, ← htext]

section Agreement

variable {other : List Char} {count : Nat}

/-- Texts that begin alike stop scanning alike there. -/
theorem endsAt_of_take_eq (h : other.take count = chars.take count) (hlt : position < count) :
    endsAt other position = endsAt chars position := by
  unfold endsAt
  rw [getElem?_of_take_eq h hlt, isEscaped_of_take_eq h (Nat.le_of_lt hlt)]

/-- Texts that begin alike are cut alike there. -/
theorem isCut_of_take_eq (h : other.take count = chars.take count) (hlt : position < count) :
    isCut isDelimiter other position = isCut isDelimiter chars position := by
  unfold isCut
  rw [getElem?_of_take_eq h hlt, isEscaped_of_take_eq h (Nat.le_of_lt hlt)]

/-- Lines that are alike up to the character at which scanning stops in one of them stop scanning at
the same position. -/
theorem stop_of_take_eq (h : other.take (stop chars + 1) = chars.take (stop chars + 1)) :
    stop other = stop chars := by
  have hstop := stop_le chars
  have hlengths := congrArg List.length h
  rw [List.length_take, List.length_take] at hlengths
  apply stop_eq_of
  · intro position hlt
    rw [endsAt_of_take_eq h (by omega)]
    exact endsAt_of_lt_stop hlt
  · omega
  · by_cases hend : stop chars < chars.length
    · right
      rw [endsAt_of_take_eq h (Nat.lt_succ_self _)]
      exact endsAt_stop hend
    · left
      omega

/-- Lines that are alike up to a position have the same cuts up to it. -/
theorem cutsBetween_of_take_eq (isDelimiter : Char → Bool)
    (h : other.take count = chars.take count) (start : Nat) (hlast : last ≤ count) :
    cutsBetween isDelimiter other start last = cutsBetween isDelimiter chars start last :=
  List.filter_congr fun position hposition => by
    rw [List.mem_range'_1] at hposition
    exact isCut_of_take_eq h (by omega)

/-- Lines that are alike up to a position have the same pieces up to it. -/
theorem pieces_of_take_eq (keepEscapes : Bool) {cuts : List Nat}
    (h : other.take count = chars.take count) (hlast : last ≤ count)
    (hcuts : CutAt isDelimiter chars last start cuts) :
    pieces keepEscapes other last start cuts = pieces keepEscapes chars last start cuts := by
  induction hcuts with
  | none hle hplain => simp only [pieces, textBetween_of_take_eq keepEscapes h _ hlast]
  | @cons start cut cuts hle hlt hplain hcut later ih =>
    have hrun : textBetween keepEscapes other start cut = textBetween keepEscapes chars start cut :=
      textBetween_of_take_eq keepEscapes h start (by omega)
    have hdelimiter : textBetween keepEscapes other cut (cut + 1) =
        textBetween keepEscapes chars cut (cut + 1) :=
      textBetween_of_take_eq keepEscapes h cut (by omega)
    simp only [pieces, hrun, hdelimiter, ih]

end Agreement

/-- A line whose scan stops inside an escape is refused at that position. Any other line is cut into
tokens that tile it up to the position where the scan stops, and dropping the backslashes of escapes
changes nothing but the texts of runs. What stands behind that position plays no part. -/
theorem tokenize_tiles (isDelimiter : Char → Bool) (line : String) :
    (isEscaped line.toList (stop line.toList) = true → ∀ keepEscapes,
      tokenize isDelimiter keepEscapes line = .error ⟨stop line.toList⟩) ∧
    (isEscaped line.toList (stop line.toList) = false →
      ∃ tokens, tokenize isDelimiter true line = .ok tokens ∧
        Tiles isDelimiter line.toList 0 (stop line.toList) tokens ∧
        tokenize isDelimiter false line = .ok (tokens.map (withoutEscapes line.toList)) ∧
        ∀ token ∈ tokens, token.isDelimiter = true → withoutEscapes line.toList token = token) ∧
    ∀ other : String,
      other.toList.take (stop line.toList + 1) = line.toList.take (stop line.toList + 1) →
        ∀ keepEscapes,
          tokenize isDelimiter keepEscapes other = tokenize isDelimiter keepEscapes line := by
  have hlength := stop_le line.toList
  have hcuts := cutAt_cutsBetween isDelimiter line.toList (Nat.zero_le (stop line.toList))
  refine ⟨?_, ?_, ?_⟩
  · intro hescaped keepEscapes
    rw [tokenize_eq_pieces, if_pos hescaped]
  · intro hplain
    have hpieces : ∀ keepEscapes, tokenize isDelimiter keepEscapes line =
        .ok (pieces keepEscapes line.toList (stop line.toList) 0
          (cutsBetween isDelimiter line.toList 0 (stop line.toList))) := by
      intro keepEscapes
      rw [tokenize_eq_pieces, if_neg (by simp [hplain])]
    have tiles := tiles_pieces hlength hcuts
    refine ⟨_, hpieces true, tiles, ?_, fun token => tiles.withoutEscapes_delimiter⟩
    rw [hpieces false, pieces_false hlength hcuts]
  · intro other hsame keepEscapes
    rw [tokenize_eq_pieces, tokenize_eq_pieces, stop_of_take_eq hsame,
      isEscaped_of_take_eq hsame (Nat.le_succ _),
      cutsBetween_of_take_eq isDelimiter hsame 0 (Nat.le_succ _),
      pieces_of_take_eq keepEscapes hsame (Nat.le_succ _) hcuts]

end UnitConversion.Line
