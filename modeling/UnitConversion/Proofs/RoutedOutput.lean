import UnitConversion.Proofs.ConsoleRuns

/-!
# Where answers go

Commands are answered by replies and conversions by results. A console that is quiet keeps the
results from its output, and a console that has a record writes the results there. Neither changes
anything else: what the console is left as, what it returns and what it writes to the errors are the
same.
-/

namespace UnitConversion

namespace Event

/-- The text of the piece. -/
def text : Event → String
  | prompt text | reply text | result text | failure text | log _ text => text

/-- The piece is a prompt. -/
def isPrompt : Event → Bool
  | prompt _ => true
  | _ => false

/-- The piece answers a command or a conversion. -/
def isAnswer : Event → Bool
  | reply _ | result _ => true
  | _ => false

/-- The piece is the result of a conversion. -/
def isResult : Event → Bool
  | result _ => true
  | _ => false

end Event

namespace Transcript

/-- The answers among the pieces. -/
def answers (transcript : Transcript) : Transcript := transcript.filter Event.isAnswer

/-- Texts, each on a line. -/
def lined (texts : List String) : String := String.join (texts.map (· ++ "\n"))

/-- The answers are the replies and the results, each of them in their order, and nothing else. -/
inductive Merges : List String → List String → Transcript → Prop
  /-- There are no answers. -/
  | nil : Merges [] [] []
  /-- The next answer is the next reply. -/
  | reply {replies results : List String} {answers : Transcript} (text : String)
      (rest : Merges replies results answers) :
      Merges (text :: replies) results (.reply text :: answers)
  /-- The next answer is the next result. -/
  | result {replies results : List String} {answers : Transcript} (text : String)
      (rest : Merges replies results answers) :
      Merges replies (text :: results) (.result text :: answers)

namespace Merges

variable {replies results moreReplies moreResults : List String} {first second : Transcript}

/-- Answers behind answers. -/
theorem append (hfirst : Merges replies results first)
    (hsecond : Merges moreReplies moreResults second) :
    Merges (replies ++ moreReplies) (results ++ moreResults) (first ++ second) := by
  induction hfirst with
  | nil => exact hsecond
  | reply text _ ih => exact .reply text ih
  | result text _ ih => exact .result text ih

/-- The results are what is left of the answers without the replies. -/
theorem filter_isResult (h : Merges replies results first) :
    first.filter Event.isResult = results.map .result := by
  induction h with
  | nil => rfl
  | reply text _ ih => exact ih
  | result text _ ih => rw [List.filter_cons_of_pos rfl, ih, List.map_cons]

/-- The replies are what is left of the answers without the results. -/
theorem filter_not_isResult (h : Merges replies results first) :
    (first.filter fun event => !event.isResult) = replies.map .reply := by
  induction h with
  | nil => rfl
  | reply text _ ih => rw [List.filter_cons_of_pos rfl, ih, List.map_cons]
  | result text _ ih => exact ih

end Merges

/-- Texts on lines of their own, a first one and the others. -/
theorem lined_cons (text : String) (texts : List String) :
    lined (text :: texts) = text ++ "\n" ++ lined texts := by
  unfold lined
  rw [List.map_cons, String.join_cons]

/-- The output consists of the answers, each on a line; those of a quiet program without the
results. -/
theorem out_eq_lined {transcript : Transcript}
    (h : ∀ event ∈ transcript, event.isPrompt = false) (quiet : Bool) :
    transcript.out quiet =
      lined ((transcript.answers.filter fun event => !(quiet && event.isResult)).map
        Event.text) := by
  induction transcript with
  | nil => rfl
  | cons event rest ih =>
    obtain ⟨hfirst, hrest⟩ := List.forall_mem_cons.mp h
    have hout : out quiet (event :: rest) = event.out quiet ++ out quiet rest := by
      unfold out
      rw [List.map_cons, String.join_cons]
    rw [hout, ih hrest]
    cases event with
    | prompt text => contradiction
    | reply text =>
      have hkept : answers (.reply text :: rest) = .reply text :: answers rest := rfl
      rw [hkept, List.filter_cons_of_pos (by simp [Event.isResult]), List.map_cons, lined_cons]
      rfl
    | result text =>
      have hkept : answers (.result text :: rest) = .result text :: answers rest := rfl
      rw [hkept]
      cases quiet with
      | true =>
        rw [List.filter_cons_of_neg (by simp [Event.isResult])]
        exact String.empty_append
      | false =>
        rw [List.filter_cons_of_pos rfl, List.map_cons, lined_cons]
        rfl
    | failure text => exact String.empty_append
    | log level text => exact String.empty_append

/-- The record consists of the results, each on a line. -/
theorem record_eq_lined (transcript : Transcript) :
    transcript.record =
      lined ((transcript.answers.filter Event.isResult).map Event.text) := by
  induction transcript with
  | nil => rfl
  | cons event rest ih =>
    have hrecord : record (event :: rest) = event.record ++ record rest := by
      unfold record
      rw [List.map_cons, String.join_cons]
    rw [hrecord, ih]
    cases event with
    | result text =>
      have hkept : (answers (.result text :: rest)).filter Event.isResult =
          .result text :: (answers rest).filter Event.isResult := rfl
      rw [hkept, List.map_cons, lined_cons]
      rfl
    | prompt text => exact String.empty_append
    | reply text => exact String.empty_append
    | failure text => exact String.empty_append
    | log level text => exact String.empty_append

/-- Pieces without a prompt, in which the replies and the results are the given ones. -/
structure AnsweredBy (transcript : Transcript) (replies results : List String) : Prop where
  /-- There is no prompt. -/
  unprompted : ∀ event ∈ transcript, event.isPrompt = false
  /-- The answers are the replies and the results. -/
  merges : Merges replies results transcript.answers

namespace AnsweredBy

variable {first second : Transcript} {replies results moreReplies moreResults : List String}

/-- Pieces behind pieces. -/
theorem append (hfirst : AnsweredBy first replies results)
    (hsecond : AnsweredBy second moreReplies moreResults) :
    AnsweredBy (first ++ second) (replies ++ moreReplies) (results ++ moreResults) where
  unprompted := List.forall_mem_append.mpr ⟨hfirst.unprompted, hsecond.unprompted⟩
  merges := by
    unfold answers
    rw [List.filter_append]
    exact hfirst.merges.append hsecond.merges

/-- Nothing at all answers nothing. -/
theorem nil : AnsweredBy [] [] [] := ⟨by simp, .nil⟩

/-- Log lines answer nothing. -/
theorem of_onlyLog (h : first.OnlyLog) : AnsweredBy first [] [] := by
  have hnone : first.answers = [] := by
    refine List.filter_eq_nil_iff.mpr fun event hin => ?_
    have hlog := h event hin
    cases event <;> first | contradiction | exact Bool.false_ne_true
  refine ⟨h.forall fun _ _ => rfl, ?_⟩
  rw [hnone]
  exact .nil

/-- A message answers nothing. -/
theorem failure (text : String) : AnsweredBy [.failure text] [] [] :=
  ⟨List.forall_mem_singleton.mpr rfl, .nil⟩

/-- A reply is an answer. -/
theorem reply (text : String) : AnsweredBy [.reply text] [text] [] :=
  ⟨List.forall_mem_singleton.mpr rfl, .reply text .nil⟩

/-- A result is an answer. -/
theorem result (text : String) : AnsweredBy [.result text] [] [text] :=
  ⟨List.forall_mem_singleton.mpr rfl, .result text .nil⟩

/-- Results are answers, each of them. -/
theorem of_results (results : List String) : AnsweredBy (results.map .result) [] results := by
  induction results with
  | nil => exact .nil
  | cons text texts ih => exact (result text).append ih

/-- What a program that is not quiet writes is a merge of the replies and the results. -/
theorem out_loud (h : AnsweredBy first replies results) :
    first.out false = lined (first.answers.map Event.text) := by
  rw [out_eq_lined h.unprompted]
  simp

/-- What a quiet program writes are the replies. -/
theorem out_quiet (h : AnsweredBy first replies results) : first.out true = lined replies := by
  rw [out_eq_lined h.unprompted]
  simp only [Bool.true_and]
  rw [h.merges.filter_not_isResult, List.map_map]
  exact congrArg lined (List.map_id' _)

/-- What is recorded are the results. -/
theorem record (h : AnsweredBy first replies results) : first.record = lined results := by
  rw [record_eq_lined, h.merges.filter_isResult, List.map_map]
  exact congrArg lined (List.map_id' _)

end AnsweredBy

end Transcript

namespace Console

/-- What the console replies to an input: the answer of a command that succeeds, unless it is
empty. -/
def repliesTo (console : Console) (input : Input) : List String :=
  match input.words? with
  | .error _ => []
  | .ok [] => []
  | .ok (word :: arguments) =>
    if leavingWords.contains word then []
    else
      match Command.ofWord? word with
      | none => []
      | some found =>
        match found.run console.session arguments with
        | .error _ => []
        | .ok (_, reply) => if reply.isEmpty then [] else [reply]

/-- What an input comes to that asks for conversions: all that it asks for, when none of them
fails. -/
def resultsTo (console : Console) (input : Input) : List String :=
  match input.words? with
  | .error _ => []
  | .ok words =>
    if isConversion words then
      match (console.session.perform
        (Request.convertLine console.session.registry words)).1 with
      | .error _ => []
      | .ok conversions => conversions.map console.session.format
    else []

/-- The replies to inputs, in order. -/
def repliesOf (console : Console) (inputs : List Input) : List String :=
  (console.steps inputs).flatMap fun step => step.1.repliesTo step.2

/-- The results of inputs, in order. -/
def resultsOf (console : Console) (inputs : List Input) : List String :=
  (console.steps inputs).flatMap fun step => step.1.resultsTo step.2

/-- What inputs write, one behind the other. -/
def written (console : Console) (inputs : List Input) : Transcript :=
  (console.steps inputs).flatMap fun step => (step.1.respond step.2).transcript

open Transcript

/-- What fails is not answered. -/
theorem answered_fail (console : Console) {before : Transcript} (h : before.OnlyLog)
    (message : String) : AnsweredBy (console.fail before message).transcript [] [] :=
  (AnsweredBy.of_onlyLog h).append (.failure _)

/-- Leaving the console is not answered. -/
theorem answered_leave (console : Console) (words arguments : List String) :
    AnsweredBy (console.leave words arguments).transcript [] [] := by
  unfold leave
  cases Command.checkArguments (some 0) arguments with
  | ok _ => exact .nil
  | error error => exact answered_fail console (onlyLog_failedWords words) _

/-- A command is answered by its reply. -/
theorem answered_command (console : Console) (words : List String) (found : Command)
    (arguments : List String) :
    AnsweredBy (console.command words found arguments).transcript
      (match found.run console.session arguments with
      | .error _ => []
      | .ok (_, reply) => if reply.isEmpty then [] else [reply]) [] := by
  unfold command
  cases found.run console.session arguments with
  | error error => exact answered_fail console (onlyLog_failedWords words) _
  | ok result =>
    dsimp only
    unfold replyEvents
    by_cases hempty : result.2.isEmpty = true
    · rw [if_pos hempty, if_pos hempty]
      exact .nil
    · rw [if_neg hempty, if_neg hempty]
      exact .reply _

/-- A line of conversions is answered by its results, or by nothing when one of them fails. -/
theorem answered_convert (console : Console) (words : List String) :
    AnsweredBy (console.convert words).transcript []
      (match (console.session.perform
        (Request.convertLine console.session.registry words)).1 with
      | .error _ => []
      | .ok conversions => conversions.map console.session.format) := by
  cases houtcome : (console.session.perform
      (Request.convertLine console.session.registry words)).1 with
  | error error =>
    unfold convert
    cases hrun : console.session.perform
        (Request.convertLine console.session.registry words) with
    | mk outcome result =>
      obtain ⟨session, resolutions⟩ := result
      rw [hrun] at houtcome
      have hfailed : outcome = .error error := houtcome
      rw [hfailed]
      exact answered_fail _
        ((onlyLog_resolutions resolutions).append (onlyLog_failedWords words)) _
  | ok conversions =>
    obtain ⟨session, resolutions, hconvert⟩ := convert_of_ok houtcome
    have hlog := (onlyLog_resolutions resolutions).append (onlyLog_summary words)
    have hresults := AnsweredBy.of_results (conversions.map console.session.format)
    rw [List.map_map] at hresults
    rw [hconvert]
    exact (AnsweredBy.of_onlyLog hlog).append hresults

/-- An input is answered by its replies and its results. -/
theorem answered_respond (console : Console) (input : Input) :
    AnsweredBy (console.respond input).transcript (console.repliesTo input)
      (console.resultsTo input) := by
  rw [respond_eq]
  unfold repliesTo resultsTo
  cases input.words? with
  | error failure => exact answered_fail console onlyLog_nil _
  | ok words =>
    cases words with
    | nil => exact .nil
    | cons word arguments =>
      unfold executeWords isConversion
      dsimp only
      by_cases hleaves : leavingWords.contains word = true
      · simp only [hleaves, ↓reduceIte, Bool.not_true, Bool.false_and, Bool.false_eq_true]
        exact answered_leave console _ _
      · simp only [hleaves, ↓reduceIte, Bool.not_false, Bool.true_and, Bool.false_eq_true]
        cases Command.ofWord? word with
        | some found => exact answered_command console _ found arguments
        | none => exact answered_convert console _

/-- Inputs are answered by their replies and their results. -/
theorem answered_written (console : Console) (inputs : List Input) :
    AnsweredBy (console.written inputs) (console.repliesOf inputs) (console.resultsOf inputs) := by
  induction inputs generalizing console with
  | nil => exact .nil
  | cons input rest ih =>
    have hfirst := answered_respond console input
    have hrest := ih (console.take input)
    unfold repliesOf resultsOf written at hrest ⊢
    simp only [steps, List.flatMap_cons]
    exact hfirst.append hrest

/-- A run of lines writes what those write that are executed. -/
theorem transcript_run (console : Console) (lines : List String) :
    (console.run none lines).transcript = console.written (executed (linesOf lines)) := by
  rw [(isFoldOf_run console lines).fold, transcript_foldl_take]
  rfl

end Console

/-- A console with the streams that it writes to. -/
structure Terminal where
  /-- The console. -/
  console : Console
  /-- Results are kept from the output. -/
  quiet : Bool
  /-- What was written to the output. -/
  out : String
  /-- What was written to the errors, log lines apart. -/
  err : String
  /-- What was recorded, when there is a record. -/
  record : Option String
  /-- Whether the console went on behind each input. -/
  returned : List Bool

namespace Terminal

/-- Write a piece: to the output and the errors, and to the record when there is one. -/
def write (terminal : Terminal) (event : Event) : Terminal :=
  { terminal with
    out := terminal.out ++ event.out terminal.quiet
    err := terminal.err ++ event.err
    record := terminal.record.map (· ++ event.record) }

/-- Give the console an input, and write what comes of it. -/
def take (terminal : Terminal) (input : Console.Input) : Terminal :=
  let turn := terminal.console.respond input
  { turn.transcript.foldl write terminal with
    console := turn.console
    returned := terminal.returned ++ [turn.goesOn] }

/-- Give the console one input after the other. -/
def takeAll (terminal : Terminal) (inputs : List Console.Input) : Terminal :=
  inputs.foldl take terminal

/-- The terminal when the console is left so, has returned these and has written these pieces. -/
def after (terminal : Terminal) (console : Console) (transcript : Transcript)
    (returned : List Bool) : Terminal where
  console := console
  quiet := terminal.quiet
  out := terminal.out ++ transcript.out terminal.quiet
  err := terminal.err ++ transcript.err
  record := terminal.record.map (· ++ transcript.record)
  returned := terminal.returned ++ returned

/-- What was written first and what was written then. -/
theorem after_after (terminal : Terminal) (one other : Console) (first second : Transcript)
    (before later : List Bool) :
    (terminal.after one first before).after other second later =
      terminal.after other (first ++ second) (before ++ later) := by
  unfold after
  rw [Transcript.out_append, Transcript.err_append, Transcript.record_append]
  cases terminal.record <;> simp only [Option.map_some, Option.map_none, String.append_assoc,
    List.append_assoc]

/-- Nothing is written without a piece. -/
theorem after_nil (terminal : Terminal) : terminal.after terminal.console [] [] = terminal := by
  obtain ⟨console, quiet, out, err, record, returned⟩ := terminal
  cases record <;> simp [after, Transcript.out, Transcript.err, Transcript.record]

/-- A piece is written behind what was written before. -/
theorem write_eq (terminal : Terminal) (event : Event) :
    terminal.write event = terminal.after terminal.console [event] [] := by
  obtain ⟨console, quiet, out, err, record, returned⟩ := terminal
  cases record <;> simp [write, after, Transcript.out, Transcript.err, Transcript.record]

/-- The streams are written to piece by piece. -/
theorem foldl_write (terminal : Terminal) (transcript : Transcript) :
    transcript.foldl write terminal = terminal.after terminal.console transcript [] := by
  induction transcript generalizing terminal with
  | nil => exact (after_nil terminal).symm
  | cons event rest ih =>
    rw [List.foldl_cons, ih, write_eq]
    exact after_after terminal _ _ [event] rest [] []

/-- What an input leaves behind. -/
theorem take_eq (terminal : Terminal) (input : Console.Input) :
    terminal.take input =
      let turn := terminal.console.respond input
      terminal.after turn.console turn.transcript [turn.goesOn] := by
  unfold take
  dsimp only
  rw [foldl_write]
  rfl

/-- What inputs leave behind. -/
theorem takeAll_eq (terminal : Terminal) (inputs : List Console.Input) :
    terminal.takeAll inputs =
      terminal.after (terminal.console.takeAll inputs) (terminal.console.written inputs)
        ((terminal.console.steps inputs).map fun step => (step.1.respond step.2).goesOn) := by
  induction inputs generalizing terminal with
  | nil => exact (after_nil terminal).symm
  | cons input rest ih =>
    have hrest := ih (terminal.take input)
    rw [take_eq] at hrest
    have hconsole : (terminal.console.respond input).console = terminal.console.take input :=
      (Console.take_eq terminal.console input).symm
    have htake : terminal.takeAll (input :: rest) = (terminal.take input).takeAll rest := rfl
    rw [htake, take_eq, hrest]
    dsimp only
    rw [after_after, hconsole]
    rfl

/-- Two terminals are alike but for what goes to the output and the record: the consoles are left
with the same session, so with the same style and recalls, and the same count of failures, and have
returned the same. -/
structure Alike (one other : Terminal) : Prop where
  /-- The consoles are the same. -/
  console : one.console = other.console
  /-- The messages are the same. -/
  err : one.err = other.err
  /-- The inputs returned the same. -/
  returned : one.returned = other.returned

/-- The answers go where the terminal says: those that are given are written behind what was there
before. -/
structure Routes (before after : Terminal) (replies results : List String)
    (answers : Transcript) : Prop where
  /-- The answers are the replies and the results, both in their order. -/
  merges : Transcript.Merges replies results answers
  /-- All of them are written to the output, each on a line, when nothing is kept from it. -/
  loud : before.quiet = false →
    after.out = before.out ++ Transcript.lined (answers.map Event.text)
  /-- The answers without the results, which are the replies, are written to a quiet output. -/
  quiet : before.quiet = true → after.out = before.out ++ Transcript.lined replies
  /-- The results and nothing else are written to the record. -/
  recorded : ∀ recorded, before.record = some recorded →
    after.record = some (recorded ++ Transcript.lined results)
  /-- There is no record when there was none. -/
  unrecorded : before.record = none → after.record = none

/-- Inputs are answered at any terminal, and the answers go where it says. -/
theorem routes_takeAll (terminal : Terminal) (inputs : List Console.Input) :
    Routes terminal (terminal.takeAll inputs) (terminal.console.repliesOf inputs)
      (terminal.console.resultsOf inputs) (terminal.console.written inputs).answers := by
  have hanswered := Console.answered_written terminal.console inputs
  rw [takeAll_eq]
  constructor
  · exact hanswered.merges
  · intro hloud
    rw [← hanswered.out_loud, ← hloud]
    rfl
  · intro hquiet
    rw [← hanswered.out_quiet, ← hquiet]
    rfl
  · intro recorded hrecorded
    rw [← hanswered.record]
    unfold after
    rw [hrecorded]
    rfl
  · intro hnone
    unfold after
    rw [hnone]
    rfl

end Terminal

/-- Whether results are kept from the output and whether they are recorded changes nothing but where
they go. Of two consoles that differ in this alone and are given the same inputs, both are left the
same, return the same and write the same messages. The answers are the same too: to the output go
all of them, or all but the results, and to the record go the results, however quiet the output. The
lines of a run are inputs as any others. -/
theorem quiet_and_record_route_results (terminal : Terminal) (quiet : Bool)
    (record : Option String) :
    let other : Terminal := { terminal with quiet, record }
    (∀ inputs, (terminal.takeAll inputs).Alike (other.takeAll inputs) ∧
      (record = terminal.record →
        (other.takeAll inputs).record = (terminal.takeAll inputs).record) ∧
      ∃ answers,
        Terminal.Routes terminal (terminal.takeAll inputs) (terminal.console.repliesOf inputs)
          (terminal.console.resultsOf inputs) answers ∧
        Terminal.Routes other (other.takeAll inputs) (terminal.console.repliesOf inputs)
          (terminal.console.resultsOf inputs) answers) ∧
    ∀ lines,
      let inputs := Console.executed (Console.linesOf lines)
      terminal.takeAll inputs =
        terminal.after (terminal.console.run none lines).console
          (terminal.console.run none lines).transcript
          ((terminal.console.steps inputs).map fun step => (step.1.respond step.2).goesOn) := by
  dsimp only
  constructor
  · intro inputs
    refine ⟨?_, ?_, (terminal.console.written inputs).answers, ?_, ?_⟩
    · rw [Terminal.takeAll_eq, Terminal.takeAll_eq]
      exact ⟨rfl, rfl, rfl⟩
    · rintro rfl
      rw [Terminal.takeAll_eq, Terminal.takeAll_eq]
      rfl
    · exact Terminal.routes_takeAll terminal inputs
    · exact Terminal.routes_takeAll { terminal with quiet, record } inputs
  · intro lines
    have hconsole := (Console.isFoldOf_run terminal.console lines).console
    rw [Terminal.takeAll_eq, hconsole, Console.transcript_run]

end UnitConversion
