import Routebook.Proofs.Outcome
import Routebook.Proofs.Uri.Substitution

/-!
# The base of an address

An address starts with its base: the root, ended by a slash.  Where nothing opens in the root, no
placeholder reaches into the base, whatever the path brings and whatever is put in: an occurrence
would have to start with a dollar sign and an opening brace of the base itself.  Resolving arguments
is therefore the same with the base taken off and put back (`Uri.foldlM_onBase`), and every address
that is built starts with the base (`Uri.base_of_build`).
-/

namespace Routebook

set_option autoImplicit false

namespace Uri

/-! ## Base and path -/

/-- The root, ended by a slash. -/
def base (root : List Char) : List Char :=
  if root.getLast? == some '/' then root else root ++ ['/']

/-- A path without the slash that it may start with. -/
def relative : List Char → List Char
  | '/' :: rest => rest
  | path => path

theorem joinCharacters_eq (root path : List Char) :
    joinCharacters root path = base root ++ relative path := by
  unfold joinCharacters
  dsimp only
  split
  · rfl
  · rename_i plain
    rw [relative]
    · rfl
    · exact plain

/-- The base is a part of the root and a slash. -/
theorem exists_base_eq (root : List Char) :
    ∃ before, before <+: root ∧ base root = before ++ ['/'] := by
  unfold base
  split
  · rename_i ends
    obtain ⟨before, rfl⟩ := List.getLast?_eq_some_iff.mp (eq_of_beq ends)
    exact ⟨before, List.prefix_append _ _, rfl⟩
  · exact ⟨root, List.prefix_refl _, rfl⟩

/-- **Where nothing opens in the root, a substitution leaves the base alone.** -/
theorem substitute_base {root : List Char} (clean : ¬ Template.opening <:+: root) (name : String)
    (replacement path : List Char) :
    substitute name replacement (base root ++ path)
      = base root ++ substitute name replacement path := by
  obtain ⟨before, part, same⟩ := exists_base_eq root
  have nothing : ¬ Template.opening <:+: before := fun opens => clean (opens.trans part.isInfix)
  -- The slash is no dollar sign, so an occurrence cannot begin with the last character of the base.
  have slash : ∀ after, '/' :: path ≠ '$' :: '\x7b' :: (name.toList ++ ['\x7d']) ++ after := by
    intro after same
    cases same
  rw [same, List.append_assoc, List.singleton_append, substitute,
    Template.replaceAll_append_of_clean nothing (by simp), Text.replaceAll_cons slash,
    List.append_assoc, List.singleton_append]
  rfl

/-! ## Resolving on a base -/

/-- The state of a build with a base put before its address. -/
def Progress.onBase (progress : Progress) (start : List Char) : Progress :=
  { progress with address := start ++ progress.address }

/-- The state of a build before any argument is resolved, with the path alone for an address. -/
def Progress.startRelative (pattern : Pattern) : Progress :=
  { Progress.start "" pattern with address := relative pattern.literalPath.toList }

theorem start_eq (root : String) (pattern : Pattern) :
    Progress.start root pattern = (Progress.startRelative pattern).onBase (base root.toList) := by
  simp only [Progress.start, Progress.startRelative, Progress.onBase, joinCharacters_eq]

section Running

variable [Runtime] {pattern : Pattern} {encode : Bool}

/-- Resolving an argument is the same with the base taken off and put back. -/
theorem resolve_onBase {root : List Char} (clean : ¬ Template.opening <:+: root)
    (progress : Progress) (argument : Value × Value) :
    (progress.onBase (base root)).resolve pattern encode argument
      = (progress.resolve pattern encode argument).map (Progress.onBase · (base root)) := by
  obtain ⟨key, value⟩ := argument
  cases key with
  | text name =>
      simp only [Progress.resolve]
      split
      · cases renderValue encode value with
        | error failure => rfl
        | ok text => simp only [Except.map, Progress.fill, Progress.onBase, substitute_base clean]
      · split
        · cases renderValue encode value <;> rfl
        · rfl
  | _ => rfl

/-- Arguments do the same behind a base as without it. -/
theorem foldlM_onBase {root : List Char} (clean : ¬ Template.opening <:+: root)
    (arguments : Entries) (progress : Progress) :
    arguments.foldlM (Progress.resolve pattern encode) (progress.onBase (base root))
      = (arguments.foldlM (Progress.resolve pattern encode) progress).map
          (Progress.onBase · (base root)) := by
  induction arguments generalizing progress with
  | nil => rfl
  | cons argument arguments inductionHypothesis =>
      rw [List.foldlM_cons, List.foldlM_cons, resolve_onBase clean]
      cases progress.resolve pattern encode argument with
      | error failure => rfl
      | ok next => exact inductionHypothesis next

end Running

/-! ## Builds that report -/

/-- A key that can be reported: a text, or bytes that are text. -/
def IsReportable (key : Value) : Prop := ∃ name, keyText key = .ok name

/-- Keys are reported exactly when each of them can be. -/
theorem exists_keyTexts_iff {keys : List Value} :
    (∃ names, keyTexts keys = .ok names) ↔ ∀ key ∈ keys, IsReportable key := by
  constructor
  · rintro ⟨names, reported⟩ key present
    unfold keyTexts at reported
    dsimp only at reported
    split at reported
    · rename_i issues
      rw [List.isEmpty_iff, List.filterMap_eq_nil_iff] at issues
      obtain ⟨index, found⟩ := List.getElem?_of_mem present
      have silent := issues (key, index) (List.mem_zipIdx_iff_getElem?.mpr found)
      unfold IsReportable
      cases readable : keyText key with
      | ok name => exact ⟨name, rfl⟩
      | error violation =>
          dsimp only at silent
          rw [readable] at silent
          cases silent
    · cases reported
  · intro reportable
    exact ⟨_, keyTexts_eq_ok reportable⟩

/-- The keys left out of a run can be reported exactly when all its keys can be. -/
theorem reportable_foldl [Runtime] {pattern : Pattern} {encode : Bool} (arguments : Entries)
    (progress : Progress) :
    (∀ key ∈ (arguments.foldl (Progress.placed pattern encode) progress).ignored,
        IsReportable key)
      ↔ (∀ key ∈ progress.ignored, IsReportable key)
        ∧ ∀ argument ∈ arguments, IsReportable argument.1 := by
  induction arguments generalizing progress with
  | nil => simp
  | cons argument arguments inductionHypothesis =>
      -- Keys that are texts can be reported whether or not they are left out.
      have step : (∀ key ∈ (progress.placed pattern encode argument).ignored, IsReportable key)
          ↔ (∀ key ∈ progress.ignored, IsReportable key) ∧ IsReportable argument.1 := by
        obtain ⟨key, value⟩ := argument
        cases key with
        | text name =>
            have reportable : IsReportable (.text name) := ⟨name, rfl⟩
            simp only [Progress.placed]
            split
            · simp [Progress.fill, reportable]
            · split
              · simp [Progress.ask, reportable]
              · simp [Progress.ignore, reportable, or_imp, forall_and]
        | _ => simp [Progress.placed, Progress.ignore, or_imp, forall_and]
      rw [List.foldl_cons, inductionHypothesis, step, List.forall_mem_cons, and_assoc]

/-! ## The base of what is built -/

section Runtimes

variable [Runtime] {root : String} (pattern : Pattern) (encode : Bool) (arguments : Entries)

/-- Any arguments make the base with what they make of the path alone. -/
theorem run_eq_onBase (clean : ¬ Template.opening <:+: root.toList) :
    Progress.run root pattern encode arguments
      = (arguments.foldlM (Progress.resolve pattern encode) (Progress.startRelative pattern)).map
          (Progress.onBase · (base root.toList)) := by
  rw [Progress.run, start_eq, foldlM_onBase clean]

/-- An address is built exactly when the keys can be reported and the values that are used have a
text.
-/
theorem exists_build_iff :
    (∃ resolution, build root pattern encode (.mapping arguments) = .ok resolution)
      ↔ Usable pattern encode arguments ∧ ∀ argument ∈ arguments, IsReportable argument.1 := by
  have none : ∀ key ∈ (Progress.start root pattern).ignored, IsReportable key :=
    fun _ present => absurd present List.not_mem_nil
  have keys : (∃ names,
        keyTexts (Progress.final root pattern encode arguments).ignored = .ok names)
      ↔ ∀ argument ∈ arguments, IsReportable argument.1 :=
    exists_keyTexts_iff.trans ((reportable_foldl arguments _).trans (and_iff_right none))
  simp only [← keys, build_eq_ok_iff]
  constructor
  · rintro ⟨resolution, usable, finished⟩
    obtain ⟨names, reported, -⟩ := Outcome.exists_of_map finished
    exact ⟨usable, names, reported⟩
  · rintro ⟨usable, names, reported⟩
    exact ⟨_, usable, congrArg (Except.map _) reported⟩

/-- **No argument changes the base of an address.**  Any number of arguments make the base with what
the same arguments make of the path alone, in front of it; so every address that is built starts
with the base.  One is built exactly when the keys can be reported and the values that are used have
a text. -/
theorem base_of_build (clean : Text.occurs Template.opening root.toList = false) :
    (∀ done, done <+: arguments →
      Progress.run root pattern encode done
        = (done.foldlM (Progress.resolve pattern encode) (Progress.startRelative pattern)).map
            (Progress.onBase · (base root.toList))) ∧
    (∀ resolution, build root pattern encode (.mapping arguments) = .ok resolution →
      base root.toList <+: resolution.uri.toList) ∧
    ((∃ resolution, build root pattern encode (.mapping arguments) = .ok resolution)
      ↔ Usable pattern encode arguments ∧ ∀ argument ∈ arguments, IsReportable argument.1) := by
  have nothing : ¬ Template.opening <:+: root.toList := by
    rw [← Text.occurs_iff, clean]
    exact Bool.false_ne_true
  refine ⟨fun done _ => run_eq_onBase pattern encode done nothing, ?_,
    exists_build_iff pattern encode arguments⟩
  intro resolution built
  change Progress.run root pattern encode arguments >>= Progress.finish = .ok resolution at built
  obtain ⟨progress, ran, finished⟩ := Outcome.exists_of_bind built
  rw [run_eq_onBase pattern encode arguments nothing] at ran
  obtain ⟨path, -, rfl⟩ := Outcome.exists_of_map ran
  rw [uri_of_finish finished, String.toList_ofList, Progress.onBase, List.append_assoc]
  exact List.prefix_append _ _

end Runtimes

section Usual

attribute [local instance] Runtime.usual

/-- A root that ends in a dollar sign, a path that goes on with a brace, and values that are
placeholders and steps upwards themselves. -/
theorem base_of_build_dollar :
    Text.occurs Template.opening "http://h/$".toList = false ∧
    ∃ resolution,
      build "http://h/$" ⟨"\x7ba\x7d/$\x7ba\x7d", ["a", "b"], []⟩ false
        (.mapping [(.text "a", .text "$\x7bb\x7d"), (.text "b", .text "../?")])
          = .ok resolution ∧
      "http://h/$/".toList <+: resolution.uri.toList := by
  have clean : Text.occurs Template.opening "http://h/$".toList = false := by decide
  obtain ⟨-, starts, builds⟩ := base_of_build ⟨"\x7ba\x7d/$\x7ba\x7d", ["a", "b"], []⟩ false
    [(.text "a", .text "$\x7bb\x7d"), (.text "b", .text "../?")] clean
  obtain ⟨resolution, built⟩ := builds.mpr <| by
    simp only [Usable, List.forall_mem_cons, List.not_mem_nil, false_implies, implies_true, and_true]
    exact ⟨⟨fun _ => renderable_text _, fun _ => renderable_text _⟩, ⟨"a", rfl⟩, ⟨"b", rfl⟩⟩
  exact ⟨clean, resolution, built, starts resolution built⟩

example : (build "http://h/$" ⟨"\x7ba\x7d/$\x7ba\x7d", ["a", "b"], []⟩ false (.mapping
    [(.text "a", .text "$\x7bb\x7d"), (.text "b", .text "../?")])).toOption.map Resolution.uri
      = some "http://h/$/\x7ba\x7d/../?" := by
  decide +kernel

end Usual

end Uri

end Routebook
