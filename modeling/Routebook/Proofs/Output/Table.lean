import Mathlib.Data.List.TakeWhile
import Routebook.Output
import Routebook.Proofs.Session.Action
import Routebook.Proofs.Terminal.Table

/-!
# Tables of texts

A table of texts is printed as JSON with a mapping for each row, as plain lines, or laid out for a
terminal from its texts, which are read as marked texts.
-/

namespace Routebook

set_option autoImplicit false

open Routebook.Action

section Printing

variable [Runtime]

/-- What comes of printing texts one after the other: those in front of the first that holds a lone
half are printed. -/
def Session.printing (session : Session) (texts : List String) :
    Except Failure Unit × Session :=
  (if texts.all fun text => Text.isWhole text.toList then .ok () else .error .unencodable,
    { session with
      printed := session.printed
        ++ (texts.takeWhile fun text => Text.isWhole text.toList).map (· ++ "\n") })

theorem Session.printing_nil (session : Session) : session.printing [] = (.ok (), session) := by
  simp [Session.printing]

/-- A text without lone halves is printed before all that follow. -/
theorem Session.printing_cons {text : String} (whole : Text.isWhole text.toList = true)
    (rest : List String) (session : Session) :
    session.printing (text :: rest)
      = { session with printed := session.printed ++ [text ++ "\n"] }.printing rest := by
  simp [Session.printing, whole]

/-- Nothing is printed from a text with a lone half on. -/
theorem Session.printing_cons_of_not_whole {text : String}
    (halved : ¬Text.isWhole text.toList = true) (rest : List String) (session : Session) :
    session.printing (text :: rest) = (.error .unencodable, session) := by
  simp [Session.printing, halved]

theorem Action.run_print_eq (text : String) (session : Session) :
    (Action.print text).run session = session.printing [text] := by
  by_cases whole : Text.isWhole text.toList = true
  · rw [run_print whole, Session.printing_cons whole, Session.printing_nil]
  · rw [run_print_of_not_whole whole, Session.printing_cons_of_not_whole whole]

end Printing

namespace Output

/-! ## Tables of texts -/

/-- A list of texts as a value. -/
def textList (texts : List String) : Value := .list (texts.map .text)

/-- A table whose title, headings and cells are texts. -/
def textTable (title : String) (headings : List String) (rows : List (List String)) : TableData where
  title := .text title
  headings := textList headings
  rows := .list (rows.map textList)

theorem parts_list (items : List Value) : parts (.list items) = .ok items := rfl

theorem parts_textList (texts : List String) : parts (textList texts) = .ok (texts.map .text) := rfl

/-- The line of a row of texts. -/
def textLine (texts : List String) : String := "\t".intercalate texts

theorem rowLine_textList (texts : List String) :
    rowLine (textList texts) = .ok (textLine texts) := by
  have cells : (texts.map Value.text).mapM textPart = .ok texts := by
    rw [List.mapM_map]
    exact (Outcome.mapM_eq_ok fun _ _ => rfl).trans (congrArg Except.ok (List.map_id texts))
  rw [rowLine, parts_textList]
  change (do return "\t".intercalate (← (texts.map Value.text).mapM textPart)) = _
  rw [cells]
  rfl

/-- A row of texts as a mapping from headings to texts. -/
def textRecord (headings row : List String) : Value :=
  .mapping (Value.ofPairs ((headings.map .text).zip (row.map .text)))

theorem record_textList (headings row : List String) :
    record (textList headings) (textList row) = .ok (textRecord headings row) := by
  have hashable : ((headings.map Value.text).zip (row.map Value.text)).all
      (fun pair => pair.1.isHashable) = true := by
    rw [List.all_eq_true]
    intro pair present
    obtain ⟨heading, -, same⟩ := List.mem_map.mp (List.of_mem_zip present).1
    rw [← same]
    rfl
  rw [record, parts_textList, parts_textList]
  change (if (((headings.map Value.text).zip (row.map Value.text)).all
      fun pair => pair.1.isHashable) = true then _ else _) = _
  rw [if_pos hashable]
  rfl

/-- Rows of texts as mappings. -/
theorem mapM_record_textList (headings : List String) (rows : List (List String)) :
    (rows.map textList).mapM (record (textList headings))
      = .ok (rows.map (textRecord headings)) := by
  rw [List.mapM_map]
  exact Outcome.mapM_eq_ok fun row _ => record_textList headings row

/-- Entries with texts only. -/
def TextEntries (entries : Entries) : Prop :=
  ∀ entry ∈ entries, (∃ name, entry.1 = .text name) ∧ ∃ text, entry.2 = .text text

theorem TextEntries.insert {entries : Entries} (texts : TextEntries entries) (name text : String) :
    TextEntries (Value.insert (.text name) (.text text) entries) := by
  induction entries with
  | nil =>
      intro entry present
      rw [List.mem_singleton.mp present]
      exact ⟨⟨name, rfl⟩, text, rfl⟩
  | cons first rest inductionHypothesis =>
      have here := texts first List.mem_cons_self
      have there : TextEntries rest := fun entry present => texts entry (.tail _ present)
      rw [Value.insert]
      split
      · intro entry present
        rcases List.mem_cons.mp present with rfl | later
        · exact ⟨here.1, text, rfl⟩
        · exact there entry later
      · intro entry present
        rcases List.mem_cons.mp present with rfl | later
        · exact here
        · exact inductionHypothesis there entry later

theorem TextEntries.overlay {base : Entries} (texts : TextEntries base)
    (headings row : List String) :
    TextEntries (Value.overlay base ((headings.map .text).zip (row.map .text))) := by
  induction headings generalizing base row with
  | nil => exact texts
  | cons heading headings inductionHypothesis =>
      cases row with
      | nil => exact texts
      | cons cell cells => exact inductionHypothesis (texts.insert heading cell) cells

/-- The cells of rows of texts are the texts. -/
theorem mapM_cellText (rows : List (List String)) :
    (rows.map textList).mapM (fun row => do (← parts row).mapM cellText) = .ok rows := by
  have cells : ∀ row : List String, (row.map Value.text).mapM cellText = .ok row := by
    intro row
    rw [List.mapM_map]
    exact (Outcome.mapM_eq_ok fun _ _ => rfl).trans (congrArg Except.ok (List.map_id row))
  rw [List.mapM_map]
  exact (Outcome.mapM_eq_ok fun row _ => cells row).trans (congrArg Except.ok (List.map_id rows))

/-- The headings that are texts are all of them. -/
theorem filterMap_textPart (headings : List String) :
    ((headings.map Value.text).takeWhile (textPart · |>.isOk)).filterMap (textPart · |>.toOption)
      = headings := by
  induction headings with
  | nil => rfl
  | cons heading rest inductionHypothesis => exact congrArg (heading :: ·) inductionHypothesis

/-- A table of texts, with a title or without. -/
def titledTable (title : Option String) (headings : List String) (rows : List (List String)) :
    TableData where
  title := title.elim .null .text
  headings := textList headings
  rows := .list (rows.map textList)

variable [Runtime]

/-! ## Tables as JSON -/

/-- Members with texts only can be rendered. -/
theorem exists_renderMembers (layout : Json.Layout) (depth : Nat) {entries : Entries}
    (texts : TextEntries entries) :
    ∃ members, Json.renderMembers layout depth entries = .ok members := by
  induction entries with
  | nil => exact ⟨[], rfl⟩
  | cons entry rest inductionHypothesis =>
      obtain ⟨⟨name, named⟩, text, valued⟩ := texts entry List.mem_cons_self
      obtain ⟨members, rendered⟩ :=
        inductionHypothesis fun other present => texts other (.tail _ present)
      obtain ⟨key, value⟩ := entry
      cases named
      cases valued
      refine ⟨(Json.quote name ++ layout.keySeparator ++ Json.quote text) :: members, ?_⟩
      rw [Json.renderMembers, rendered, Json.renderAt, Json.memberName]
      rfl

theorem exists_renderAt_textRecord (layout : Json.Layout) (depth : Nat) (headings row : List String) :
    ∃ text, Json.renderAt layout depth (textRecord headings row) = .ok text := by
  have texts : TextEntries (Value.ofPairs ((headings.map Value.text).zip (row.map Value.text))) :=
    @TextEntries.overlay [] nofun headings row
  unfold textRecord
  cases entries : Value.ofPairs ((headings.map Value.text).zip (row.map Value.text)) with
  | nil => exact ⟨"\x7b\x7d", by rw [Json.renderAt]⟩
  | cons first rest =>
      rw [entries] at texts
      obtain ⟨members, rendered⟩ := exists_renderMembers layout (depth + 1) texts
      refine ⟨Json.enclose layout depth "\x7b" "\x7d" members, ?_⟩
      rw [Json.renderAt, rendered]
      · rfl
      · nofun

/-- Records with texts only can be rendered. -/
theorem exists_render_textRecords (headings : List String) (rows : List (List String)) :
    ∃ text, Json.render .records (.list (rows.map (textRecord headings))) = .ok text := by
  have items : ∀ depth, ∃ texts,
      Json.renderItems .records depth (rows.map (textRecord headings)) = .ok texts := by
    intro depth
    induction rows with
    | nil => exact ⟨[], rfl⟩
    | cons row rest inductionHypothesis =>
        obtain ⟨text, first⟩ := exists_renderAt_textRecord .records depth headings row
        obtain ⟨texts, later⟩ := inductionHypothesis
        refine ⟨text :: texts, ?_⟩
        rw [List.map_cons, Json.renderItems, first, later]
        rfl
  obtain ⟨texts, rendered⟩ := items 1
  rw [Json.render]
  cases records : rows.map (textRecord headings) with
  | nil => exact ⟨"[]", by rw [Json.renderAt]⟩
  | cons first rest =>
      rw [records] at rendered
      refine ⟨Json.enclose .records 0 "[" "]" texts, ?_⟩
      rw [Json.renderAt, rendered]
      · rfl
      · nofun

/-! ## Tables for a terminal -/

/-- A table for a terminal is laid out from its texts, which are read as marked texts. -/
theorem tableLines_titledTable (title : Option String) (headings : List String)
    (rows : List (List String)) (width : Nat) :
    tableLines width (titledTable title headings rows)
      = Terminal.Table.lines ⟨title.getD "", headings, rows⟩ width := by
  have complete : ¬headings.length < (headings.map Value.text).length := by
    rw [List.length_map]
    exact Nat.lt_irrefl _
  have cells := mapM_cellText rows
  dsimp only [bind, Except.bind] at cells
  unfold tableLines titledTable
  dsimp only [bind, Except.bind]
  rw [parts_textList, parts_list]
  dsimp only
  rw [filterMap_textPart, cells]
  refine (if_neg complete).trans ?_
  cases title with
  | none =>
      change (Terminal.Table.lines ⟨"", headings, rows⟩ width).bind Except.ok = _
      rw [Option.getD_none]
      cases Terminal.Table.lines ⟨"", headings, rows⟩ width <;> rfl
  | some title => rfl

theorem tableLines_textTable (title : String) (headings : List String) (rows : List (List String))
    (width : Nat) :
    tableLines width (textTable title headings rows)
      = Terminal.Table.lines ⟨title, headings, rows⟩ width :=
  tableLines_titledTable (some title) headings rows width

/-! ## Printing -/

/-- The texts that a table of texts is printed as in a format. -/
def tableTexts (format : Format) (width : Nat) (title : String) (headings : List String)
    (rows : List (List String)) : Except Failure (List String) :=
  match format with
  | .plain => .ok ((headings :: rows).map textLine)
  | .json =>
      (Json.render .records (.list (rows.map (textRecord headings)))).map fun text => [text]
  | .rich =>
      (Terminal.Table.lines ⟨title, headings, rows⟩ width).map fun lines =>
        [String.ofList (['\n'].intercalate lines)]

/-- Rows are printed one after another. -/
theorem run_forIn_print (rows : List (List String)) (session : Session) :
    (forIn (rows.map textList) PUnit.unit fun row _ => do
      Action.print (← Action.ofExcept (rowLine row))
      pure (ForInStep.yield PUnit.unit) : Action PUnit).run session
      = session.printing (rows.map textLine) := by
  induction rows generalizing session with
  | nil => exact session.printing_nil.symm
  | cons first rest inductionHypothesis =>
      rw [List.map_cons, List.forIn_cons, rowLine_textList, List.map_cons]
      by_cases whole : Text.isWhole (textLine first).toList = true
      · rw [Session.printing_cons whole, ← inductionHypothesis]
        have printed : (do
            Action.print (← Action.ofExcept (.ok (textLine first)))
            pure (ForInStep.yield PUnit.unit) : Action (ForInStep PUnit)).run session
              = (.ok (.yield ⟨⟩),
                { session with printed := session.printed ++ [textLine first ++ "\n"] }) := by
          rw [run_bind_ok (run_ofExcept _ _)]
          exact run_bind_ok (run_print whole session)
        exact run_bind_ok printed
      · rw [Session.printing_cons_of_not_whole whole]
        refine run_bind_error ?_
        rw [run_bind_ok (run_ofExcept _ _)]
        exact run_bind_error (run_print_of_not_whole whole session)

/-- **A table of texts is printed in the format of the session**, if it can be laid out. -/
theorem run_printTable (title : String) (headings : List String) (rows : List (List String))
    (session : Session) :
    (printTable (textTable title headings rows)).run session
      = match tableTexts session.output.format session.output.width title headings rows with
        | .ok texts => session.printing texts
        | .error failure => (.error failure, session) := by
  unfold printTable
  rw [run_bind_ok (run_get session)]
  dsimp only
  cases session.output.format with
  | plain =>
      have heading : rowLine (textTable title headings rows).headings = .ok (textLine headings) :=
        rowLine_textList headings
      have loop : ∀ after : Session, (do
          for row in ← Action.ofExcept (parts (textTable title headings rows).rows) do
            Action.print (← Action.ofExcept (rowLine row)) : Action Unit).run after
            = after.printing (rows.map textLine) := by
        intro after
        have printed := run_forIn_print rows after
        have listed : parts (textTable title headings rows).rows = .ok (rows.map textList) := rfl
        rw [listed, run_bind_ok (run_ofExcept _ _)]
        rcases lines : after.printing (rows.map textLine) with ⟨failure | done, last⟩
        · rw [lines] at printed
          exact run_bind_error printed
        · rw [lines] at printed
          exact run_bind_ok printed
      dsimp only [tableTexts]
      rw [heading, run_bind_ok (run_ofExcept _ _), List.map_cons]
      by_cases whole : Text.isWhole (textLine headings).toList = true
      · rw [Session.printing_cons whole, run_bind_ok (run_print whole session)]
        exact loop _
      · rw [Session.printing_cons_of_not_whole whole, run_bind_error (run_print_of_not_whole whole _)]
  | json =>
      obtain ⟨text, rendered⟩ := exists_render_textRecords headings rows
      have records : (do
          (← parts (textTable title headings rows).rows).mapM
            (record (textTable title headings rows).headings)) = .ok (rows.map (textRecord headings)) :=
        mapM_record_textList headings rows
      dsimp only [tableTexts]
      rw [records, run_bind_ok (run_ofExcept _ _), rendered, run_bind_ok (run_ofExcept _ _)]
      exact run_print_eq text session
  | rich =>
      dsimp only [tableTexts]
      rw [tableLines_textTable]
      cases Terminal.Table.lines ⟨title, headings, rows⟩ session.output.width with
      | error failure => rfl
      | ok lines => exact run_print_eq _ session

end Output

end Routebook
