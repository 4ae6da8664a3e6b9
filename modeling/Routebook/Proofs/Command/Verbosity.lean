import Mathlib.Logic.Relation
import Routebook.Proofs.Command.Telling
import Routebook.Proofs.Text.Search

/-!
# Verbosity

The flags that silence information and that ask for lines for debugging may be given anywhere among
the options before the name of a command, as words of their own or within a word of short options.
Wherever they are given, the command line asks for the same command (`CommandLine.toneless_parse`).
The command runs with an output that has the flags, and every line that it notes is written or not
by them; as commands tell lines, it does the same and prints the same all the same
(`Program.verbosity_spares_data`).
-/

namespace Routebook

set_option autoImplicit false

namespace CommandLine

/-! ## Flags of verbosity -/

/-- The words that are flags of verbosity. -/
def verbosityWords : List String := ["--quiet", "-q", "--verbose", "-v"]

/-- The letters that are flags of verbosity in a word of short options. -/
def verbosityLetters : List Char := ['q', 'v']

/-- Whether an option that is given says how much the diagnostics are to show. -/
def Given.isVerbosity (given : Given) : Bool := given.name == "--quiet" || given.name == "--verbose"

/-- One command line is another one with a flag of verbosity put in. -/
inductive Voiced : List String → List String → Prop
  /-- A word among the options before the name of a command. -/
  | word (front rest : List String) {flag : String} (listed : flag ∈ verbosityWords)
      (options : ∀ word ∈ front, givesOptions word = true ∧ word ≠ "--")
      (present : front ++ rest ≠ []) : Voiced (front ++ rest) (front ++ flag :: rest)
  /-- A letter in a word of short options there. -/
  | letter (front rest : List String) {word changed : String} (before after : List Char)
      {letter : Char} (listed : letter ∈ verbosityLetters)
      (options : ∀ word ∈ front, givesOptions word = true ∧ word ≠ "--")
      (given : word.toList = '-' :: (before ++ after)) (short : (before ++ after).head? ≠ some '-')
      (filled : before ++ after ≠ [])
      (inserted : changed.toList = '-' :: (before ++ letter :: after)) :
      Voiced (front ++ word :: rest) (front ++ changed :: rest)

/-- Options that are given without those of verbosity. -/
def toneless (given : List Given) : List Given := given.filter (!·.isVerbosity)

/-- What a scan finds without the flags of verbosity. -/
def Scan.toneless (found : Scan) : Scan := { found with given := CommandLine.toneless found.given }

/-- What a command line asks for without the flags of verbosity. -/
def Invocation.toneless : Invocation → Invocation
  | .run switches command => .run { switches with quiet := false, verbose := false } command
  | other => other

theorem toneless_append (first second : List Given) :
    toneless (first ++ second) = toneless first ++ toneless second := by
  simp [toneless]

/-! ## Reading words -/

/-- The options before the name of a command take no values. -/
theorem takesValue_of_mem_commonFlags : ∀ flag ∈ commonFlags, flag.takesValue = false := by
  decide

theorem readShort_cons (letter : Char) (rest : List Char) :
    readShort commonFlags (letter :: rest)
      = (commonFlags.find? fun flag => flag.short == some letter).bind fun flag =>
          (readShort commonFlags rest).map fun found =>
            (⟨flag.long, none⟩ :: found.1, found.2) := by
  rw [readShort]
  cases found : commonFlags.find? fun flag => flag.short == some letter with
  | none => rfl
  | some flag =>
      have plain := takesValue_of_mem_commonFlags flag (List.mem_of_find?_eq_some found)
      simp [plain]

theorem eq_none_of_readShort {letters : List Char} {given : List Given} {pending : Option String}
    (read : readShort commonFlags letters = some (given, pending)) : pending = none := by
  induction letters generalizing given with
  | nil =>
      cases read
      rfl
  | cons letter rest inductionHypothesis =>
      simp only [readShort_cons, Option.bind_eq_some_iff, Option.map_eq_some_iff] at read
      obtain ⟨flag, -, found, later, same⟩ := read
      cases same
      exact inductionHypothesis later

/-- No option before the name of a command waits for its value in the next word. -/
theorem eq_none_of_readWord {word : String} {given : List Given} {pending : Option String}
    (read : readWord commonFlags word = some (given, pending)) : pending = none := by
  simp only [readWord] at read
  split at read
  · rename_i flag found
    rw [takesValue_of_mem_commonFlags flag (List.mem_of_find?_eq_some found)] at read
    split at read <;> simp_all
  · split at read
    · cases read
    · exact eq_none_of_readShort read
    · cases read

theorem scan_cons {word : String} (options : givesOptions word = true) (other : word ≠ "--")
    (rest : List String) :
    scan commonFlags true (word :: rest)
      = (readWord commonFlags word).bind fun read =>
          (scan commonFlags true rest).map fun found =>
            ⟨read.1 ++ found.given, found.others⟩ := by
  rw [scan]
  simp only [beq_iff_eq, other, if_false, options, if_true]
  cases read : readWord commonFlags word with
  | none => rfl
  | some pair =>
      obtain ⟨given, pending⟩ := pair
      rw [eq_none_of_readWord read]
      rfl

/-! ## Scanning -/

/-- The options of a word up to verbosity. -/
def tonelessWord (word : String) : Option (List Given) :=
  (readWord commonFlags word).map fun read => toneless read.1

/-- What a scan finds up to verbosity. -/
def tonelessScan (words : List String) : Option Scan :=
  (scan commonFlags true words).map Scan.toneless

theorem tonelessScan_cons {word : String} (options : givesOptions word = true)
    (apart : word ≠ "--") (rest : List String) :
    tonelessScan (word :: rest)
      = (tonelessWord word).bind fun given =>
          (tonelessScan rest).map fun found => ⟨given ++ found.given, found.others⟩ := by
  rw [tonelessScan, scan_cons options apart, tonelessWord, tonelessScan]
  cases readWord commonFlags word with
  | none => rfl
  | some read =>
      cases scan commonFlags true rest with
      | none => rfl
      | some found => simp [Scan.toneless, toneless_append]

theorem tonelessScan_append {front rest others : List String}
    (options : ∀ word ∈ front, givesOptions word = true ∧ word ≠ "--")
    (same : tonelessScan rest = tonelessScan others) :
    tonelessScan (front ++ rest) = tonelessScan (front ++ others) := by
  induction front with
  | nil => exact same
  | cons word front inductionHypothesis =>
      obtain ⟨⟨gives, apart⟩, later⟩ := List.forall_mem_cons.mp options
      rw [List.cons_append, List.cons_append, tonelessScan_cons gives apart,
        tonelessScan_cons gives apart, inductionHypothesis later]

/-- A flag of verbosity gives nothing else. -/
theorem tonelessWord_of_mem {flag : String} (listed : flag ∈ verbosityWords) :
    givesOptions flag = true ∧ flag ≠ "--" ∧ tonelessWord flag = some [] := by
  revert flag
  decide

theorem toneless_cons_of_isVerbosity {given : Given} (verbosity : given.isVerbosity = true)
    (others : List Given) : toneless (given :: others) = toneless others := by
  simp [toneless, verbosity]

/-- The letters of verbosity are those of the flags. -/
theorem exists_flag_of_mem {letter : Char} (listed : letter ∈ verbosityLetters) :
    ∃ flag, commonFlags.find? (fun flag => flag.short == some letter) = some flag ∧
      Given.isVerbosity ⟨flag.long, none⟩ = true := by
  simp only [verbosityLetters, List.mem_cons, List.not_mem_nil, or_false] at listed
  rcases listed with rfl | rfl
  · exact ⟨⟨"--quiet", some 'q', false⟩, by decide, by decide⟩
  · exact ⟨⟨"--verbose", some 'v', false⟩, by decide, by decide⟩

/-- A letter of verbosity adds nothing else to a word of short options. -/
theorem toneless_readShort {letter : Char} (listed : letter ∈ verbosityLetters)
    (before after : List Char) :
    (readShort commonFlags (before ++ letter :: after)).map (fun read => toneless read.1)
      = (readShort commonFlags (before ++ after)).map fun read => toneless read.1 := by
  induction before with
  | nil =>
      obtain ⟨flag, found, verbosity⟩ := exists_flag_of_mem listed
      simp [readShort_cons, found, Function.comp_def, toneless_cons_of_isVerbosity verbosity]
  | cons first rest inductionHypothesis =>
      simp only [List.cons_append, readShort_cons]
      cases commonFlags.find? fun flag => flag.short == some first with
      | none => rfl
      | some flag =>
          have step : ∀ letters, ((readShort commonFlags letters).map fun read =>
              ((⟨flag.long, none⟩ :: read.1, read.2) : List Given × Option String)).map
                (fun read => toneless read.1)
              = ((readShort commonFlags letters).map fun read => toneless read.1).map
                  fun given => toneless [⟨flag.long, none⟩] ++ given := by
            intro letters
            simp only [Option.map_map, Function.comp_def, ← toneless_append, List.singleton_append]
          simp only [Option.bind_some, step, inductionHypothesis]

theorem head_of_mem_commonFlags :
    ∀ flag ∈ commonFlags, flag.long.toList.take 2 = ['-', '-'] := by
  decide

/-- A word of short options is read letter by letter. -/
theorem readWord_of_short {word : String} {letters : List Char}
    (given : word.toList = '-' :: letters) (short : letters.head? ≠ some '-') :
    readWord commonFlags word = readShort commonFlags letters := by
  have unnamed : commonFlags.find? (fun flag => flag.long.toList == (Text.cut '=' word.toList).1)
      = none := by
    rw [List.find?_eq_none]
    intro flag listed same
    obtain ⟨rest, whole⟩ := Text.cut_fst_prefix '=' word.toList
    have long := head_of_mem_commonFlags flag listed
    rw [beq_iff_eq] at same
    rw [← same, given] at whole
    obtain ⟨first, second, others, spelled⟩ : ∃ first second others,
        flag.long.toList = first :: second :: others := by
      match flag.long.toList, long with
      | first :: second :: others, _ => exact ⟨first, second, others, rfl⟩
    rw [spelled] at whole long
    simp only [List.take_succ_cons, List.take_zero, List.cons.injEq, and_true] at long
    simp only [List.cons_append, List.cons.injEq] at whole
    rw [whole.2, long.2] at short
    exact short rfl
  simp only [readWord, unnamed]
  rw [given]
  cases letters with
  | nil => rfl
  | cons letter others =>
      have other : letter ≠ '-' := fun same => short (congrArg some same)
      split
      · rename_i same
        simp only [List.cons.injEq, true_and] at same
        exact absurd same.1 other
      · rename_i same
        simp only [List.cons.injEq, true_and] at same
        rw [same]
      · rename_i different
        exact absurd rfl (different _)

theorem short_insert {letter : Char} (listed : letter ∈ verbosityLetters) {before after : List Char}
    (short : (before ++ after).head? ≠ some '-') :
    (before ++ letter :: after).head? ≠ some '-' := by
  cases before with
  | nil =>
      revert letter
      simp [verbosityLetters]
  | cons first rest => exact short

theorem givesOptions_of_short {word : String} {letters : List Char}
    (given : word.toList = '-' :: letters) (filled : letters ≠ [])
    (short : letters.head? ≠ some '-') : givesOptions word = true ∧ word ≠ "--" := by
  cases letters with
  | nil => exact absurd rfl filled
  | cons letter others =>
      constructor
      · simp [givesOptions, given]
      · rintro rfl
        cases given
        exact short rfl

/-- **A flag of verbosity does not change what a scan finds besides.** -/
theorem tonelessScan_of_voiced {words others : List String} (voiced : Voiced words others) :
    tonelessScan words = tonelessScan others := by
  cases voiced with
  | @word front rest flag listed options present =>
      obtain ⟨gives, apart, nothing⟩ := tonelessWord_of_mem listed
      apply tonelessScan_append options
      rw [tonelessScan_cons gives apart, nothing]
      cases tonelessScan rest <;> rfl
  | @letter front rest word changed before after letter listed options given short filled inserted =>
      have alsoShort := short_insert listed short
      have alsoFilled : before ++ letter :: after ≠ [] := by simp
      obtain ⟨gives, apart⟩ := givesOptions_of_short given filled short
      obtain ⟨alsoGives, alsoApart⟩ := givesOptions_of_short inserted alsoFilled alsoShort
      have same : tonelessWord word = tonelessWord changed := by
        rw [tonelessWord, tonelessWord, readWord_of_short given short,
          readWord_of_short inserted alsoShort, toneless_readShort listed]
      apply tonelessScan_append options
      rw [tonelessScan_cons gives apart, tonelessScan_cons alsoGives alsoApart, same]

/-! ## What a command line asks for -/

theorem eager?_toneless (found : Scan) : eager? found.toneless = eager? found := by
  obtain ⟨given, others⟩ := found
  simp only [eager?, Scan.toneless]
  induction given with
  | nil => rfl
  | cons option rest inductionHypothesis =>
      by_cases verbosity : option.isVerbosity = true
      · have other : (option.name == "--version") = false ∧ (option.name == "--help") = false := by
          simp only [Given.isVerbosity, Bool.or_eq_true, beq_iff_eq] at verbosity
          rcases verbosity with named | named <;> simp [named]
        rw [toneless_cons_of_isVerbosity verbosity, inductionHypothesis, List.findSome?_cons]
        simp [other.1, other.2]
      · have kept : toneless (option :: rest) = option :: toneless rest := by
          simp [toneless, verbosity]
        rw [kept, List.findSome?_cons, List.findSome?_cons, inductionHypothesis]

/-- What counts before all else is no command. -/
theorem toneless_of_eager? {found : Scan} {invocation : Invocation}
    (eager : eager? found = some invocation) : invocation.toneless = invocation := by
  obtain ⟨given, -, asked⟩ := List.exists_of_findSome?_eq_some eager
  split at asked
  · cases asked
    rfl
  · split at asked
    · cases asked
      rfl
    · cases asked

theorem has_toneless (found : Scan) {name : String}
    (apart : Given.isVerbosity ⟨name, none⟩ = false) : found.toneless.has name = found.has name := by
  simp only [Scan.has, Scan.toneless, toneless, List.any_filter]
  congr 1
  funext given
  by_cases named : given.name = name
  · have silent : given.isVerbosity = false := by
      rw [← apart, Given.isVerbosity, Given.isVerbosity, named]
    simp [silent]
  · simp [named]

theorem has_toneless_eq_false (found : Scan) {name : String}
    (verbosity : Given.isVerbosity ⟨name, none⟩ = true) : found.toneless.has name = false := by
  simp only [Scan.has, Scan.toneless, toneless, List.any_filter, List.any_eq_false, Bool.and_eq_true,
    not_and, beq_iff_eq]
  intro given _ other named
  rw [Given.isVerbosity, named] at other
  rw [Given.isVerbosity] at verbosity
  simp [verbosity] at other

/-- The switches besides verbosity. -/
theorem switchesOf_toneless (found : Scan) :
    switchesOf found.toneless = { switchesOf found with quiet := false, verbose := false } := by
  simp only [switchesOf, has_toneless found (rfl : Given.isVerbosity ⟨"--json", none⟩ = false),
    has_toneless found (rfl : Given.isVerbosity ⟨"--plain", none⟩ = false),
    has_toneless found (rfl : Given.isVerbosity ⟨"--no-color", none⟩ = false),
    has_toneless found (rfl : Given.isVerbosity ⟨"--dry-run", none⟩ = false),
    has_toneless_eq_false found (rfl : Given.isVerbosity ⟨"--quiet", none⟩ = true),
    has_toneless_eq_false found (rfl : Given.isVerbosity ⟨"--verbose", none⟩ = true)]

/-- The words of a command are read without regard to the switches. -/
theorem toneless_parseCommand (switches : Switches) (name : String) (words : List String) :
    (parseCommand switches name words).toneless
      = parseCommand { switches with quiet := false, verbose := false } name words := by
  unfold parseCommand
  cases flagsOf? name with
  | none =>
      dsimp only
      split
      · split
        · rename_i found _
          cases eager : eager? found with
          | none => rfl
          | some invocation => exact toneless_of_eager? eager
        · rfl
      · rfl
  | some flags =>
      dsimp only
      split
      · rfl
      · rename_i found _
        cases eager : eager? found with
        | some invocation => exact toneless_of_eager? eager
        | none =>
            dsimp only
            split <;> rfl

/-- **What a command line asks for, up to verbosity, depends only on what is found up to
verbosity.** -/
theorem toneless_parse {words others : List String} (present : words ≠ []) (also : others ≠ [])
    (same : tonelessScan words = tonelessScan others) :
    (parse words).toneless = (parse others).toneless := by
  simp only [parse, List.isEmpty_iff, present, also, if_false]
  rw [tonelessScan, tonelessScan] at same
  cases first : scan commonFlags true words with
  | none =>
      cases second : scan commonFlags true others with
      | none => rfl
      | some other =>
          rw [first, second] at same
          cases same
  | some found =>
      cases second : scan commonFlags true others with
      | none =>
          rw [first, second] at same
          cases same
      | some other =>
          rw [first, second] at same
          have equal : found.toneless = other.toneless := Option.some.inj same
          have eager : eager? found = eager? other := by
            rw [← eager?_toneless, equal, eager?_toneless]
          have rest : found.others = other.others :=
            (congrArg Scan.others equal : found.toneless.others = other.toneless.others)
          dsimp only
          rw [eager, rest]
          cases eager? other with
          | some invocation => rfl
          | none =>
              cases other.others with
              | nil => rfl
              | cons name words =>
                  dsimp only
                  rw [toneless_parseCommand, toneless_parseCommand, ← switchesOf_toneless,
                    ← switchesOf_toneless, equal]

theorem toneless_parse_of_voiced {words others : List String} (voiced : Voiced words others) :
    (parse words).toneless = (parse others).toneless := by
  have same := tonelessScan_of_voiced voiced
  cases voiced with
  | word front rest listed options present => exact toneless_parse present (by simp) same
  | letter front rest before after listed options given short filled inserted =>
      exact toneless_parse (by simp) (by simp) same

end CommandLine

namespace Program

open CommandLine Routebook.Action

section Runtimes

variable [Runtime]

/-- Two runs that differ alone in which diagnostics are written: they end with the same status,
write the same data, note the same lines and leave the same session behind but for its voice, so
that they sent the same requests. -/
structure SameData (first second : Ending × Session) : Prop where
  exitCode : first.1.exitCode = second.1.exitCode
  stdout : first.1.stdout = second.1.stdout
  notices : first.2.notices = second.2.notices
  session : ∀ voice, first.2.withVoice voice = second.2.withVoice voice

namespace SameData

variable {first second third : Ending × Session}

omit [Runtime] in
theorem refl (run : Ending × Session) : SameData run run := ⟨rfl, rfl, rfl, fun _ => rfl⟩

omit [Runtime] in
theorem symm (same : SameData first second) : SameData second first :=
  ⟨same.exitCode.symm, same.stdout.symm, same.notices.symm, fun voice => (same.session voice).symm⟩

omit [Runtime] in
theorem trans (same : SameData first second) (further : SameData second third) :
    SameData first third :=
  ⟨same.exitCode.trans further.exitCode, same.stdout.trans further.stdout,
    same.notices.trans further.notices,
    fun voice => (same.session voice).trans (further.session voice)⟩

end SameData

/-- **With every verbosity a command comes to the same status, leaves the same behind and notes the
same lines**; what is written of these is what the output with its switches writes. -/
theorem exists_runCommand (surroundings : Surroundings) (switches : Switches) (command : Command)
    (session : Session) :
    ∃ (exitCode : Int) (after : Session) (lines : List Notice), ∀ quiet verbose,
      let output := outputFor surroundings { switches with quiet, verbose }
      let final := after.withVoice ⟨quiet, verbose, session.notices ++ lines,
        session.written ++ lines.map output.writeNotice⟩
      runCommand surroundings { switches with quiet, verbose } command session
        = (.of exitCode final, final) := by
  obtain ⟨result, after, lines, same, run⟩ :=
    (tells_perform surroundings switches.dryRun command).exists_run_withVoice
      { session with output := outputFor surroundings switches }
  -- The session that a command starts in has the switches in its voice.
  have start : ∀ quiet verbose,
      (perform surroundings switches.dryRun command).run
          { session with output := outputFor surroundings { switches with quiet, verbose } }
        = (result, after.withVoice ⟨quiet, verbose, session.notices ++ lines, session.written
            ++ lines.map (outputFor surroundings { switches with quiet, verbose }).writeNotice⟩) :=
    fun quiet verbose => run ⟨quiet, verbose, session.notices, session.written⟩
  cases result with
  | ok done =>
      refine ⟨0, after, lines, fun quiet verbose => ?_⟩
      simp only [runCommand, start]
  | error failure =>
      refine ⟨(failureEnding failure).1, after, lines ++ [(failureEnding failure).2],
        fun quiet verbose => ?_⟩
      have last : ((Action.note (failureEnding failure).2).run (after.withVoice ⟨quiet, verbose,
            session.notices ++ lines, session.written
              ++ lines.map (outputFor surroundings { switches with quiet, verbose }).writeNotice⟩)).2
          = after.withVoice ⟨quiet, verbose, session.notices ++ (lines ++ [(failureEnding failure).2]),
            session.written ++ (lines ++ [(failureEnding failure).2]).map
              (outputFor surroundings { switches with quiet, verbose }).writeNotice⟩ := by
        rw [run_note, Session.noting_withVoice, same]
        simp [Voice.adding, outputFor, Output.make]
      simp only [runCommand, start, last]

/-- What a command does does not depend on verbosity, nor does what it prints. -/
theorem sameData_runCommand (surroundings : Surroundings) (switches : Switches) (command : Command)
    (session : Session) :
    SameData (runCommand surroundings switches command session)
      (runCommand surroundings { switches with quiet := false, verbose := false } command session) := by
  obtain ⟨exitCode, after, lines, run⟩ := exists_runCommand surroundings switches command session
  have own := run switches.quiet switches.verbose
  dsimp only at own
  rw [own, run]
  exact ⟨rfl, rfl, rfl, fun _ => rfl⟩

/-- Runs of command lines that ask for the same up to verbosity differ in the diagnostics alone. -/
theorem sameData_run {words others : List String}
    (same : (parse words).toneless = (parse others).toneless) (surroundings : Surroundings)
    (session : Session) :
    SameData (run surroundings words session) (run surroundings others session) := by
  unfold run
  cases first : parse words with
  | run switches command =>
      cases second : parse others with
      | run otherSwitches otherCommand =>
          rw [first, second] at same
          simp only [Invocation.toneless, Invocation.run.injEq] at same
          obtain ⟨switched, rfl⟩ := same
          have left := sameData_runCommand surroundings switches command session
          have right := sameData_runCommand surroundings otherSwitches command session
          rw [switched] at left
          exact left.trans right.symm
      | _ =>
          rw [first, second] at same
          cases same
  | _ =>
      cases second : parse others with
      | run otherSwitches otherCommand =>
          rw [first, second] at same
          cases same
      | _ =>
          rw [first, second] at same
          cases same <;> exact SameData.refl _

/-- **Flags of verbosity affect the diagnostics alone.**  Command lines that become one another when
such flags are put in or taken out, in any number and order, end with the same status, write the
same data, send the same requests and note the same lines.  And for every output and every sequence
of operations, whether it goes on after a failure or ends with it: lines for the diagnostics are no
data, data is no line for the diagnostics, and the data of the sequence is that of its data
operations alone, for every output with the same format and width. -/
theorem verbosity_spares_data :
    (∀ surroundings words others session, Relation.EqvGen Voiced words others →
      SameData (run surroundings words session) (run surroundings others session)) ∧
    (∀ (operation : Output.Operation) (session : Session),
      (operation.isData = false →
        ((Output.perform operation).run session).2.printed = session.printed) ∧
      (operation.isData = true →
        ((Output.perform operation).run session).2.notices = session.notices ∧
          ((Output.perform operation).run session).2.written = session.written)) ∧
    ∀ (session start : Session), session.output.format = start.output.format →
      session.output.width = start.output.width → session.printed = start.printed →
      ∀ operations : List Output.Operation,
        (Output.performAll operations session).printed
          = (Output.performAll (Output.dataOf operations) start).printed ∧
        ((∀ operation ∈ operations, operation.Stated) →
          ((Output.performUntilFailure operations).run session).1
              = ((Output.performUntilFailure (Output.dataOf operations)).run start).1 ∧
            ((Output.performUntilFailure operations).run session).2.printed
              = ((Output.performUntilFailure (Output.dataOf operations)).run start).2.printed) := by
  refine ⟨fun surroundings words others session voiced => ?_,
    fun operation session => ⟨fun diagnostic => ?_, fun data => ?_⟩,
    fun session start format width printed operations => ⟨?_, fun stated => ?_⟩⟩
  · induction voiced with
    | rel _ _ step => exact sameData_run (toneless_parse_of_voiced step) surroundings session
    | refl _ => exact SameData.refl _
    | symm _ _ _ inductionHypothesis => exact inductionHypothesis.symm
    | trans _ _ _ _ _ first second => exact first.trans second
  · rw [Output.writes_perform session.output operation session rfl]
    exact (congrArg (session.printed ++ ·) (Output.written_of_diagnostic _ diagnostic)).trans
      (List.append_nil _)
  · rw [Output.writes_perform session.output operation session rfl, Output.noted_of_data _ data]
    exact ⟨List.append_nil _, List.append_nil _⟩
  · exact Output.printed_performAll format width printed operations
  · exact Output.printed_performUntilFailure format width printed operations stated

end Runtimes

/-! ## A list of routes -/

attribute [local instance] Runtime.usual

/-- Surroundings with a configuration on standard input. -/
def pipedSurroundings : Surroundings where
  files := ⟨"/work", "/work", [], []⟩
  environment := []
  input := "\x7b\"root\":\"http://h\",\"get\":\x7b\"page\":\"/page\"\x7d\x7d"
  terminal := false
  width := 80

/-- The list of routes in silence, and with lines for debugging. -/
def quietWords : List String := ["-q", "routes", "-c", "-"]

@[inherit_doc quietWords]
def verboseWords : List String := ["--verbose", "routes", "-c", "-"]

/-- A session that writes plain lines, in silence or with lines for debugging. -/
def plainSession (quiet verbose : Bool) : Session :=
  { Session.empty with output := ⟨.plain, false, quiet, verbose, 80⟩ }

/-- The routes are listed in the same way in silence and with lines for debugging, and between lines
for the diagnostics data is printed as without them. -/
theorem verbosity_spares_data_listing :
    Relation.EqvGen Voiced quietWords verboseWords ∧
    SameData (run pipedSurroundings quietWords Session.empty)
      (run pipedSurroundings verboseWords Session.empty) ∧
    (run pipedSurroundings quietWords Session.empty).1.exitCode = 0 ∧
    (Output.performAll [.announce .debug (.text "a"), .printData "b", .announce .info (.int 1)]
        (plainSession false true)).printed
      = (Output.performAll [.printData "b"] (plainSession true false)).printed ∧
    ((Output.performUntilFailure [.announce .debug (.text "a"), .printData "b"]).run
        (plainSession false true)).2.printed
      = ((Output.performUntilFailure [.printData "b"]).run (plainSession true false)).2.printed := by
  have plain : ["routes", "-c", "-"] ≠ [] := nofun
  have quiet : Voiced ["routes", "-c", "-"] quietWords :=
    .word [] ["routes", "-c", "-"] (by decide) nofun plain
  have verbose : Voiced ["routes", "-c", "-"] verboseWords :=
    .word [] ["routes", "-c", "-"] (by decide) nofun plain
  have voiced : Relation.EqvGen Voiced quietWords verboseWords :=
    .trans _ _ _ (.symm _ _ (.rel _ _ quiet)) (.rel _ _ verbose)
  obtain ⟨runs, -, sequences⟩ := verbosity_spares_data
  have stated : ∀ operation ∈ [Output.Operation.announce .debug (.text "a"), .printData "b"],
      operation.Stated := by
    simp [Output.Operation.Stated]
  refine ⟨voiced, runs _ _ _ _ voiced, by decide +kernel, ?_, ?_⟩
  · exact (sequences _ _ rfl rfl rfl _).1
  · exact ((sequences _ _ rfl rfl rfl _).2 stated).2

example : (run pipedSurroundings quietWords Session.empty).1.stderr = "" ∧
    (run pipedSurroundings verboseWords Session.empty).1.stderr
      = "[debug] Loading configuration from -\n" := by
  decide +kernel

end Program

end Routebook
