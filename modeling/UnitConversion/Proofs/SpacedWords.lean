import UnitConversion.CommandLine.Program
import UnitConversion.Proofs.LineRuns

/-!
# Words with blanks between them

The words of a line keep their escapes, so they may be written on a line again: with blanks between
them, and any number of blanks before and behind, they are the words of that line. The texts that
are words of some line are told by their characters. A console does with such a line what it does
with the words, and so does the program with a batch of this one line.
-/

namespace UnitConversion

namespace Line

/-- The text may be a word: it holds something, it stands on one line, and outside of escapes, which
it does not end in, it has neither blanks that separate words nor the sign of a comment. -/
structure IsWhole (text : String) : Prop where
  /-- It holds something. -/
  nonempty : text ≠ ""
  /-- It stands on one line. -/
  oneLine : OneLine text
  /-- It does not end in an escape. -/
  closed : endsInEscape text.toList = false
  /-- A character with its meaning neither separates words nor starts a comment. -/
  plain : ∀ position c, text.toList[position]? = some c →
    isEscaped text.toList position = false → separatesWords c = false ∧ c ≠ comment

/-- The line holds the words in this order, with blanks between them, and perhaps before the first
one and behind the last one. It may be over behind them. -/
inductive Spaced : List String → List Char → Prop
  /-- Nothing is left. -/
  | nil : Spaced [] []
  /-- The line is over. -/
  | ended {c : Char} {rest : List Char} (h : isBreak c = true) : Spaced [] (c :: rest)
  /-- A blank. -/
  | blank {c : Char} {words : List String} {rest : List Char} (h : separatesWords c = true)
    (later : Spaced words rest) : Spaced words (c :: rest)
  /-- A word, with a blank or the end of the line behind it. -/
  | word {word : String} {words : List String} {rest : List Char}
    (apart : ∀ c ∈ rest.head?, (separatesWords c || isBreak c) = true)
    (later : Spaced words rest) : Spaced (word :: words) (word.toList ++ rest)

variable {text : String} {words : List String} {chars : List Char}

/-- What may be a word is what holds something and is taken as a whole. -/
theorem isWhole_iff_taken :
    IsWhole text ↔ text ≠ "" ∧ Taken separatesWords true text.toList text.toList := by
  constructor
  · intro whole
    exact ⟨whole.nonempty, taken_of_whole whole.oneLine whole.closed whole.plain⟩
  · rintro ⟨hnonempty, htaken⟩
    obtain ⟨hbreaks, hcloses, hplain⟩ := htaken.whole rfl
    exact ⟨hnonempty, hbreaks, hcloses, hplain⟩

section Spacing

/-- Words with one blank between two of them. -/
theorem spaced_intercalate (words : List String) :
    Spaced words (" ".intercalate words).toList := by
  rw [String.toList_intercalate]
  induction words with
  | nil => exact .nil
  | cons word words ih =>
    cases words with
    | nil =>
      rw [List.map_cons, List.map_nil, List.intercalate_singleton, ← List.append_nil word.toList]
      exact .word (by simp) .nil
    | cons second words =>
      rw [List.map_cons, List.map_cons, List.intercalate_cons_cons, List.append_assoc]
      exact .word (by simp [separatesWords]) (.blank rfl ih)

/-- Behind a run comes a delimiter or the end of the line, so the run is all of the first token, and
what comes after it is scanned as it is without the run. -/
theorem scan_of_apart {column first : Nat} {tokens : List Token}
    (apart : ∀ c ∈ chars.head?, (separatesWords c || isBreak c) = true)
    (h : scan separatesWords true column first [] chars = .ok tokens) (start : Nat)
    (reversed : List Char) :
    ∃ later, tokens = run first [] :: later ∧
      scan separatesWords true column start reversed chars = .ok (run start reversed :: later) := by
  cases chars with
  | nil =>
    cases h
    exact ⟨[], rfl, rfl⟩
  | cons c rest =>
    have hc : (separatesWords c || isBreak c) = true := apart c rfl
    have hescape : c ≠ escape := by
      rintro rfl
      contradiction
    cases hbreak : isBreak c with
    | true =>
      have hends : (decide (c = comment) || isBreak c) = true := by simp [hbreak]
      rw [scan_end hescape hends] at h
      cases h
      exact ⟨[], rfl, scan_end hescape hends ..⟩
    | false =>
      have hdelimiter : separatesWords c = true := by simpa [hbreak] using hc
      have hcomment : c ≠ comment := by
        rintro rfl
        contradiction
      have hgoes : (decide (c = comment) || isBreak c) = false := by simp [hcomment, hbreak]
      rw [scan_delimiter hdelimiter hescape hgoes] at h
      obtain ⟨later, hlater, rfl⟩ := Outcome.map_eq_ok.mp h
      rw [scan_delimiter hdelimiter hescape hgoes, hlater]
      exact ⟨_, rfl, rfl⟩

/-- A line with words that may be words is scanned into them. -/
theorem Spaced.scan (spaced : Spaced words chars) (whole : ∀ word ∈ words, IsWhole word)
    (column : Nat) :
    ∃ tokens, scan separatesWords true column column [] chars = .ok tokens ∧
      (runs tokens).filter (fun text => !text.isEmpty) = words := by
  induction spaced generalizing column with
  | nil => exact ⟨[run column []], rfl, rfl⟩
  | @ended c rest h =>
    refine ⟨[run column []], ?_, rfl⟩
    have hescape : c ≠ escape := by
      rintro rfl
      contradiction
    rw [scan_end hescape (by simp [h])]
  | @blank c words rest h later ih =>
    obtain ⟨tokens, hscan, hwords⟩ := ih whole (column + 1)
    have hplain : c ≠ escape ∧ (decide (c = comment) || isBreak c) = false := by
      simp only [separatesWords, Bool.or_eq_true, decide_eq_true_eq] at h
      rcases h with rfl | rfl <;> exact ⟨by decide, rfl⟩
    rw [scan_delimiter h hplain.1 hplain.2, hscan]
    exact ⟨_, rfl, hwords⟩
  | @word word words rest apart later ih =>
    obtain ⟨hwhole, hothers⟩ := List.forall_mem_cons.mp whole
    obtain ⟨hnonempty, htaken⟩ := isWhole_iff_taken.mp hwhole
    obtain ⟨tokens, hscan, hwords⟩ := ih hothers (column + word.toList.length)
    obtain ⟨after, rfl, hword⟩ := scan_of_apart apart hscan column word.toList.reverse
    refine ⟨run column word.toList.reverse :: after, ?_, ?_⟩
    · rw [htaken.scan_append, List.append_nil, hword]
    · have hkept : (runs (run column word.toList.reverse :: after)).filter
          (fun text => !text.isEmpty) =
          word :: (runs (run (column + word.toList.length) [] :: after)).filter
            fun text => !text.isEmpty := by
        simp [runs, run, hnonempty]
      rw [hkept, hwords]

/-- The words of a line with blanks between words are these words. -/
theorem Spaced.words_eq {line : String} (spaced : Spaced words line.toList)
    (whole : ∀ word ∈ words, IsWhole word) : Line.words line = .ok words := by
  obtain ⟨tokens, hscan, hwords⟩ := spaced.scan whole 0
  rw [Line.words_eq, tokenize, hscan]
  exact congrArg Except.ok hwords

/-- The words of a line are texts that may be words, and any such texts are the words of a line. -/
theorem exists_words_eq_iff :
    (∃ line, Line.words line = .ok words) ↔ ∀ word ∈ words, IsWhole word := by
  constructor
  · rintro ⟨line, hwords⟩ word hin
    exact isWhole_iff_taken.mpr (IsWord.taken ⟨line, words, hwords, hin⟩)
  · intro whole
    exact ⟨_, (spaced_intercalate words).words_eq whole⟩

end Spacing

end Line

namespace Console

/-- A run of one line is its turn. -/
theorem run_singleton (console : Console) (line : String) :
    (console.run none [line]).console = (console.execute line).console ∧
      (console.run none [line]).transcript = (console.execute line).transcript := by
  simp only [run]
  split <;> simp

end Console

namespace CommandLine

/-- The arguments with words to be taken and no lines. -/
def Arguments.withWords (arguments : Arguments) (words : List String) : Arguments :=
  { arguments with conversion := words, batch := none }

/-- The arguments with a file of lines to be taken and no words. -/
def Arguments.withBatch (arguments : Arguments) (file : String) : Arguments :=
  { arguments with conversion := [], batch := some file }

/-- The arguments with neither words nor lines to be taken. -/
def Arguments.idle (arguments : Arguments) : Arguments :=
  { arguments with conversion := [], batch := none }

/-- What a run with arguments comes to, given the lines of the input. -/
def Arguments.finish (arguments : Arguments) (environment : Environment) (tree : FileTree)
    (input : List String) : Finish :=
  match arguments.launch environment tree with
  | .error finish => finish
  | .ok job => job.finish tree input

/-- The job with another task. -/
def Job.withTask (job : Job) (task : Task) : Job := { job with task }

/-- What is to be taken plays no part in the launch but for the task of the job. -/
theorem launch_eq_map_withTask {arguments : Arguments}
    (h : arguments.conversion = [] ∨ arguments.batch = none) (environment : Environment)
    (tree : FileTree) :
    arguments.launch environment tree =
      (arguments.idle.launch environment tree).map (·.withTask arguments.task) := by
  have hdisplay : arguments.idle.display = arguments.display := rfl
  have hstartup : Startup.all environment tree arguments.idle =
      Startup.all environment tree arguments := rfl
  have hlisting : arguments.idle.listUnits = arguments.listUnits := rfl
  have hsession : arguments.idle.session = arguments.session := rfl
  have hidle : (!arguments.idle.conversion.isEmpty && arguments.idle.batch.isSome) = false := rfl
  have hexclusive : (!arguments.conversion.isEmpty && arguments.batch.isSome) = false := by
    rcases h with h | h <;> simp [h]
  unfold Arguments.launch Arguments.launchOn
  rw [hdisplay, hstartup, hlisting, hsession, hidle, hexclusive]
  cases arguments.display with
  | error breakdown => rfl
  | ok display =>
    cases (Startup.all environment tree arguments).run.run [] with
    | mk outcome log =>
      cases outcome with
      | error failure => rfl
      | ok loaded =>
        cases arguments.listUnits with
        | some name => rfl
        | none =>
          dsimp only
          cases arguments.session loaded.1 loaded.2 <;> rfl

/-- A run that does not end with its launch ends with a job whose task is what is to be taken. -/
theorem Arguments.finish_eq {arguments : Arguments}
    (h : arguments.conversion = [] ∨ arguments.batch = none) (environment : Environment)
    (tree : FileTree) (input : List String) :
    arguments.finish environment tree input =
      match arguments.idle.launch environment tree with
      | .error finish => finish
      | .ok job => (job.withTask arguments.task).finish tree input := by
  unfold Arguments.finish
  rw [launch_eq_map_withTask h]
  cases arguments.idle.launch environment tree <;> rfl

/-- Lines from a file come to the turn of the line when there is one. -/
theorem batchWork_singleton (console : Console) (line : String) :
    batchWork console [line] none =
      ⟨.ok (exitCode (console.execute line).console.failures),
        (console.execute line).transcript⟩ := by
  obtain ⟨hconsole, htranscript⟩ := console.run_singleton line
  unfold batchWork
  simp only [ite_self, hconsole, htranscript]

/-- Tasks that come to the same work come to the same end. -/
theorem Job.finish_congr (job : Job) {task other : Task} {input typed : List String}
    (h : ∀ tree, (job.withTask task).work tree input = (job.withTask other).work tree typed)
    (tree : FileTree) :
    (job.withTask task).finish tree input = (job.withTask other).finish tree typed := by
  have hrecord : (job.withTask task).record = (job.withTask other).record := rfl
  unfold Job.finish
  rw [hrecord]
  cases (job.withTask other).record with
  | none =>
    dsimp only
    rw [h]
    rfl
  | some path =>
    dsimp only
    cases tree.write path [] with
    | error fault => rfl
    | ok emptied =>
      dsimp only
      rw [h]
      rfl

end CommandLine

/-- Taking the line is taking the words: on every console, and in every run of the program, where
the words stand on the command line or the line is all of a batch. -/
structure SameEffect (words : List String) (line : String) : Prop where
  /-- A console takes the line as it takes the words. -/
  console : ∀ console : Console, console.execute line = console.executeWords words
  /-- A command line with the words ends as one with a batch whose input is the line. -/
  program : words ≠ [] → ∀ (arguments : CommandLine.Arguments) environment tree typed,
    (arguments.withWords words).finish environment tree typed =
      (arguments.withBatch "-").finish environment tree [line]
  /-- So does the job of a batch whose file holds the line. -/
  file : ∀ (job : CommandLine.Job) (tree : FileTree) file bytes typed, file ≠ "-" →
    tree.read file = .ok bytes → (Text.decode false bytes).lines = [line] →
      (Text.decode false bytes).failure = none →
        (job.withTask (.single words)).work tree typed =
          (job.withTask (.batch file)).work tree typed

/-- A line that is split into the words has the effect of the words. -/
theorem sameEffect_of_words {words : List String} {line : String}
    (h : Line.words line = .ok words) : SameEffect words line := by
  have hconsole : ∀ console : Console, console.execute line = console.executeWords words := by
    intro console
    unfold Console.execute
    rw [h]
  have hwork : ∀ console : Console, CommandLine.batchWork console [line] none =
      ⟨.ok (CommandLine.exitCode (console.executeWords words).console.failures),
        (console.executeWords words).transcript⟩ := by
    intro console
    rw [CommandLine.batchWork_singleton, hconsole]
  refine ⟨hconsole, ?_, ?_⟩
  · intro some_word arguments environment tree typed
    have hwords : (arguments.withWords words).task = .single words := by
      simp [CommandLine.Arguments.task, CommandLine.Arguments.withWords, some_word]
    have hbatch : (arguments.withBatch "-").task = .batch "-" := rfl
    have hidle : (arguments.withWords words).idle = (arguments.withBatch "-").idle := rfl
    rw [CommandLine.Arguments.finish_eq (.inr rfl), CommandLine.Arguments.finish_eq (.inl rfl),
      hwords, hbatch, hidle]
    cases (arguments.withBatch "-").idle.launch environment tree with
    | error finish => rfl
    | ok job =>
      refine CommandLine.Job.finish_congr job (fun tree => ?_) tree
      exact (hwork job.console).symm
  · intro job tree file bytes typed hfile hread hlines hfailure
    unfold CommandLine.Job.work CommandLine.Job.withTask
    simp only [hfile, if_false, hread, hlines, hfailure, hwork]

/-- The words of a line are texts that may be words, and any such texts are the words of a line. On
every line that holds them with blanks between, such as the one with a single blank between two of
them, they are the words again, and the line has the effect of the words. -/
theorem words_rejoined :
    (∀ line words, Line.words line = .ok words → ∀ other : String,
      Line.Spaced words other.toList → Line.words other = .ok words) ∧
    (∀ words, (∃ line, Line.words line = .ok words) ↔ ∀ word ∈ words, Line.IsWhole word) ∧
    (∀ words, Line.Spaced words (" ".intercalate words).toList) ∧
    ∀ words, (∀ word ∈ words, Line.IsWhole word) → ∀ line : String,
      Line.Spaced words line.toList → SameEffect words line := by
  refine ⟨?_, fun words => Line.exists_words_eq_iff, Line.spaced_intercalate, ?_⟩
  · intro line words hwords other spaced
    exact spaced.words_eq (Line.exists_words_eq_iff.mp ⟨line, hwords⟩)
  · intro words whole line spaced
    exact sameEffect_of_words (spaced.words_eq whole)

end UnitConversion
