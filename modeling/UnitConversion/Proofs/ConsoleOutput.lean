import Mathlib.Logic.Basic
import UnitConversion.Console.Interpreter

/-!
# The output of a console

The output is made of pieces, one after another. Log lines are no part of it, so a line of
conversions writes its results and nothing else.
-/

namespace UnitConversion

namespace Transcript

/-- Pieces are written one behind the other. -/
theorem out_append (quiet : Bool) (first second : Transcript) :
    out quiet (first ++ second) = out quiet first ++ out quiet second := by
  simp [out]

/-- Pieces that add nothing add nothing together. -/
theorem join_map_eq_empty {part : Event → String} {transcript : Transcript}
    (h : ∀ event ∈ transcript, part event = "") : String.join (transcript.map part) = "" := by
  induction transcript with
  | nil => rfl
  | cons event events ih =>
    rw [List.map_cons, String.join_cons, h event List.mem_cons_self, String.empty_append]
    exact ih fun other hin => h other (List.mem_cons_of_mem _ hin)

/-- Pieces that write nothing write nothing together. -/
theorem out_eq_empty {quiet : Bool} {transcript : Transcript}
    (h : ∀ event ∈ transcript, event.out quiet = "") : transcript.out quiet = "" :=
  join_map_eq_empty h

end Transcript

namespace Console

/-- The log line about a line of conversions is no output. -/
theorem out_summary (quiet : Bool) (words : List String) : (summary words).out quiet = "" := by
  apply Transcript.out_eq_empty
  intro event hin
  unfold summary at hin
  split at hin
  · simp only [List.mem_singleton] at hin
    subst hin
    rfl
  · simp at hin

/-- A line of conversions that succeeds writes log lines and then the results, in the style and with
the precision of the session. -/
theorem convert_of_ok {console : Console} {words : List String}
    {conversions : List FinishedConversion}
    (h : (console.session.perform (Request.convertLine console.session.registry words)).1 =
      .ok conversions) :
    ∃ session, ∃ resolutions : List Resolution, console.convert words =
      ⟨{ console with session }, true,
        (resolutions.map fun resolution => Event.log .debug resolution.message) ++ summary words ++
          conversions.map fun conversion => .result (console.session.format conversion)⟩ := by
  unfold convert
  cases hrun : console.session.perform
      (Request.convertLine console.session.registry words) with
  | mk outcome result =>
    obtain ⟨session, resolutions⟩ := result
    rw [hrun] at h
    have houtcome : outcome = .ok conversions := h
    have hsession : session = (console.session.perform
        (Request.convertLine console.session.registry words)).2.1 := by rw [hrun]
    have hformat : session.format = console.session.format := by
      rw [hsession]
      rfl
    rw [houtcome]
    dsimp only
    rw [hformat]
    exact ⟨session, resolutions, rfl⟩

/-- The output of a line of conversions that succeeds are its results. -/
theorem out_convert {console : Console} {words : List String}
    {conversions : List FinishedConversion}
    (h : (console.session.perform (Request.convertLine console.session.registry words)).1 =
      .ok conversions) (quiet : Bool) :
    (console.convert words).transcript.out quiet =
      Transcript.out quiet
        (conversions.map fun conversion => .result (console.session.format conversion)) := by
  obtain ⟨session, resolutions, hconvert⟩ := convert_of_ok h
  have hlog : Transcript.out quiet
      (resolutions.map fun resolution => Event.log .debug resolution.message) = "" := by
    apply Transcript.out_eq_empty
    intro event hin
    obtain ⟨resolution, -, rfl⟩ := List.mem_map.mp hin
    rfl
  rw [hconvert]
  dsimp only
  rw [Transcript.out_append, Transcript.out_append, hlog, out_summary, String.empty_append,
    String.empty_append]

end Console

end UnitConversion
