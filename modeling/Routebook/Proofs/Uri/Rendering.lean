import Routebook.Proofs.Text.Whole
import Routebook.Proofs.Value.Text
import Routebook.Uri

/-!
# Arguments that can be used

An argument plays one role, and its key alone decides which: it supplies a path variable, it goes to
the query, or it is left out (`Pattern.role`).  Not every value can be put into an address: one
without a text cannot, and where values are encoded neither can a text with a lone half
(`Uri.Renderable`).  Arguments are resolved exactly when the values of all that are used can be put
in, and then the state is the one that their texts make, one after another
(`Uri.foldlM_resolve_eq_ok_iff`).
-/

namespace Routebook

set_option autoImplicit false

/-! ## Roles -/

/-- What an argument is used for. -/
inductive Role
  /-- Its value replaces the placeholders of a path variable. -/
  | path
  /-- It is an entry of the query. -/
  | query
  /-- It is left out. -/
  | unused
  deriving DecidableEq, Repr

namespace Pattern

/-- The role of a key: a name that is declared twice is a path variable. -/
def role (pattern : Pattern) (name : String) : Role :=
  if pattern.isPathVariable name then .path
  else if pattern.isQueryParameter name then .query
  else .unused

/-- The role of a key that may be any value; only texts are declared. -/
def roleOf (pattern : Pattern) : Value → Role
  | .text name => pattern.role name
  | _ => .unused

/-- The arguments of a role, in their order. -/
def playing (pattern : Pattern) (role : Role) (arguments : List (String × Value)) :
    List (String × Value) :=
  arguments.filter fun argument => pattern.role argument.1 == role

variable (pattern : Pattern)

theorem role_eq_path {name : String} :
    pattern.role name = .path ↔ pattern.isPathVariable name = true := by
  unfold role
  split
  · simp [*]
  · split <;> simp [*]

/-- What goes to the query is declared for it. -/
theorem mem_queryNames_of_role {name : String} (asks : pattern.role name = .query) :
    name ∈ pattern.queryNames := by
  unfold role at asks
  split at asks
  · cases asks
  · split at asks
    · rename_i declared
      exact List.contains_iff_mem.mp declared
    · cases asks

theorem playing_nil (role : Role) : pattern.playing role [] = [] := rfl

theorem playing_cons (role : Role) (argument : String × Value)
    (arguments : List (String × Value)) :
    pattern.playing role (argument :: arguments)
      = if pattern.role argument.1 = role then argument :: pattern.playing role arguments
        else pattern.playing role arguments := by
  simp only [playing, List.filter_cons, beq_iff_eq]

theorem playing_append (role : Role) (earlier later : List (String × Value)) :
    pattern.playing role (earlier ++ later)
      = pattern.playing role earlier ++ pattern.playing role later := List.filter_append _ _

/-- The arguments of a role come in the order of all arguments. -/
theorem playing_of_perm {reordered arguments : List (String × Value)}
    (permuted : reordered.Perm arguments) (role : Role) :
    (pattern.playing role reordered).Perm (pattern.playing role arguments) := permuted.filter _

/-- An argument plays a role when it is given and its key has the role. -/
theorem mem_playing {role : Role} {argument : String × Value} {arguments : List (String × Value)} :
    argument ∈ pattern.playing role arguments
      ↔ argument ∈ arguments ∧ pattern.role argument.1 = role := by
  simp only [playing, List.mem_filter, beq_iff_eq]

/-- **Every argument plays exactly one role.** -/
theorem playing_perm (arguments : List (String × Value)) :
    (pattern.playing .path arguments ++ pattern.playing .query arguments
      ++ pattern.playing .unused arguments).Perm arguments := by
  induction arguments with
  | nil => exact .refl _
  | cons argument arguments inductionHypothesis =>
      -- The argument stands in front of all lists; it moves to the front of the list of its role.
      have extended := inductionHypothesis.cons argument
      simp only [playing_cons]
      cases pattern.role argument.1 with
      | path => simpa using extended
      | query =>
          refine List.Perm.trans ?_ extended
          simp
      | unused =>
          refine List.Perm.trans ?_ extended
          simpa only [if_pos, reduceCtorEq, if_false] using List.perm_middle

/-- A path variable is supplied when its name is among the keys. -/
theorem mem_keys_playing_path {name : String} (declared : name ∈ pattern.pathVariables)
    (arguments : List (String × Value)) :
    name ∈ (pattern.playing .path arguments).map Prod.fst ↔ name ∈ arguments.map Prod.fst := by
  have role : pattern.role name = .path := by
    rw [role_eq_path]
    exact List.contains_iff_mem.mpr declared
  simp only [List.mem_map, mem_playing]
  constructor
  · rintro ⟨argument, ⟨given, -⟩, same⟩
    exact ⟨argument, given, same⟩
  · rintro ⟨argument, given, rfl⟩
    exact ⟨argument, ⟨given, role⟩, rfl⟩

end Pattern

namespace Uri

variable [Runtime]

/-! ## Values -/

/-- A value that has a text in an address. -/
def Renderable (encode : Bool) (value : Value) : Prop := ∃ text, renderValue encode value = .ok text

/-- The text of a value in an address, if it has one. -/
def rendered (encode : Bool) (value : Value) : List Char :=
  (renderValue encode value).toOption.getD []

/-- The text of a value before it is encoded, if it has one. -/
def stringified (value : Value) : String := (stringify value).toOption.getD ""

section Values

variable {encode : Bool} {value : Value}

theorem renderValue_eq_ok_iff {text : List Char} :
    renderValue encode value = .ok text ↔ Renderable encode value ∧ rendered encode value = text := by
  unfold Renderable rendered
  cases renderValue encode value with
  | error failure => exact ⟨nofun, fun both => nomatch both.1⟩
  | ok found =>
      exact ⟨fun same => ⟨⟨found, rfl⟩, Except.ok.inj same⟩, fun both => congrArg Except.ok both.2⟩

theorem Renderable.eq (renderable : Renderable encode value) :
    renderValue encode value = .ok (rendered encode value) :=
  renderValue_eq_ok_iff.mpr ⟨renderable, rfl⟩

theorem renderable_iff_isOk : Renderable encode value ↔ (renderValue encode value).isOk = true := by
  unfold Renderable
  cases renderValue encode value with
  | error failure => exact ⟨nofun, nofun⟩
  | ok text => exact ⟨fun _ => rfl, fun _ => ⟨text, rfl⟩⟩

instance : Decidable (Renderable encode value) := decidable_of_iff' _ renderable_iff_isOk

/-- What shows something has a text. -/
theorem renderable_of_ne_nil (shows : rendered encode value ≠ []) : Renderable encode value := by
  unfold rendered at shows
  cases made : renderValue encode value with
  | ok text => exact ⟨text, made⟩
  | error failure =>
      rw [made] at shows
      exact absurd rfl shows

/-- A value can be put into an address when it has a text, which is whole where values are encoded.
-/
theorem renderable_iff :
    Renderable encode value ↔
      ∃ text, stringify value = .ok text ∧ (encode = true → Text.isWhole text.toList = true) := by
  unfold Renderable renderValue
  cases stringify value with
  | error failure => exact ⟨nofun, nofun⟩
  | ok text =>
      cases encode with
      | false => exact ⟨fun _ => ⟨text, rfl, nofun⟩, fun _ => ⟨_, rfl⟩⟩
      | true =>
          by_cases whole : Text.isWhole text.toList = true
          · refine ⟨fun _ => ⟨text, rfl, fun _ => whole⟩, fun _ => ⟨percentEncode text.toList, ?_⟩⟩
            change (Text.requireWhole text.toList >>= fun _ => _) = _
            rw [Text.requireWhole_eq_ok_iff.mpr whole]
            rfl
          · refine ⟨fun ⟨made, renders⟩ => absurd ?_ whole, fun ⟨other, same, holds⟩ => absurd ?_ whole⟩
            · change (Text.requireWhole text.toList >>= fun _ => _) = _ at renders
              obtain ⟨_, required, -⟩ := Outcome.exists_of_bind renders
              exact Text.requireWhole_eq_ok_iff.mp required
            · rw [Except.ok.inj same]
              exact holds rfl

theorem Renderable.stringify (renderable : Renderable encode value) :
    Uri.stringify value = .ok (stringified value) := by
  obtain ⟨text, made, -⟩ := renderable_iff.mp renderable
  rw [stringified, made]
  rfl

/-- The text of a value in an address, encoded if values are. -/
theorem Renderable.rendered_eq (renderable : Renderable encode value) :
    rendered encode value
      = if encode then percentEncode (stringified value).toList else (stringified value).toList := by
  obtain ⟨text, made⟩ := renderable
  have shows : rendered encode value = text := (renderValue_eq_ok_iff.mp made).2
  rw [shows]
  have stringifies := Renderable.stringify ⟨text, made⟩
  rw [renderValue, stringifies] at made
  cases encode with
  | false => exact (Except.ok.inj made).symm
  | true =>
      change (Text.requireWhole (stringified value).toList >>= fun _ =>
        .ok (percentEncode (stringified value).toList)) = .ok text at made
      obtain ⟨_, -, last⟩ := Outcome.exists_of_bind made
      exact (Except.ok.inj last).symm

theorem stringify_text (text : String) : Uri.stringify (.text text) = .ok text :=
  Value.asText_text text

/-- A text can be put in that is whole where values are encoded. -/
theorem renderable_text_iff {text : String} :
    Renderable encode (.text text) ↔ (encode = true → Text.isWhole text.toList = true) := by
  rw [renderable_iff, stringify_text]
  exact ⟨fun ⟨_, same, holds⟩ => Except.ok.inj same ▸ holds, fun holds => ⟨text, rfl, holds⟩⟩

/-- A text is put in as it is where values are not encoded. -/
theorem renderable_text (text : String) : Renderable false (.text text) := ⟨text.toList, rfl⟩

theorem rendered_text (text : String) : rendered false (.text text) = text.toList := rfl

end Values

/-! ## Arguments -/

/-- The state with an argument resolved, whose value has a text if it is used. -/
def Progress.placed (pattern : Pattern) (encode : Bool) (progress : Progress)
    (argument : Value × Value) : Progress :=
  match argument.1 with
  | .text name =>
      if pattern.isPathVariable name then progress.fill name (rendered encode argument.2)
      else if pattern.isQueryParameter name then progress.ask name (rendered encode argument.2)
      else progress.ignore argument.1
  | _ => progress.ignore argument.1

/-- Arguments whose values can be put into an address where they are used. -/
def Usable (pattern : Pattern) (encode : Bool) (arguments : Entries) : Prop :=
  ∀ argument ∈ arguments, pattern.roleOf argument.1 ≠ .unused → Renderable encode argument.2

section Arguments

variable {pattern : Pattern} {encode : Bool} {progress next : Progress}

/-- A text for a value, if there is one, leads to the state with it. -/
theorem map_renderValue_eq_ok_iff {value : Value} {place : List Char → Progress} :
    (renderValue encode value).map place = .ok next
      ↔ Renderable encode value ∧ place (rendered encode value) = next := by
  constructor
  · intro made
    obtain ⟨text, renders, rfl⟩ := Outcome.exists_of_map made
    obtain ⟨renderable, rfl⟩ := renderValue_eq_ok_iff.mp renders
    exact ⟨renderable, rfl⟩
  · rintro ⟨renderable, rfl⟩
    rw [renderable.eq]
    rfl

/-- An argument is resolved when it is not used or its value can be put in. -/
theorem resolve_eq_ok_iff {argument : Value × Value} :
    progress.resolve pattern encode argument = .ok next
      ↔ (pattern.roleOf argument.1 ≠ .unused → Renderable encode argument.2) ∧
        progress.placed pattern encode argument = next := by
  obtain ⟨key, value⟩ := argument
  cases key with
  | text name =>
      simp only [Progress.resolve, Progress.placed, Pattern.roleOf, Pattern.role]
      split
      · simp [map_renderValue_eq_ok_iff]
      · split
        · simp [map_renderValue_eq_ok_iff]
        · simp
  | _ => simp [Progress.resolve, Progress.placed, Pattern.roleOf]

/-- **Arguments are resolved exactly when the values of all that are used have a text.** -/
theorem foldlM_resolve_eq_ok_iff (arguments : Entries) :
    arguments.foldlM (Progress.resolve pattern encode) progress = .ok next
      ↔ Usable pattern encode arguments ∧
        arguments.foldl (Progress.placed pattern encode) progress = next := by
  induction arguments generalizing progress with
  | nil =>
      rw [List.foldlM_nil, List.foldl_nil]
      exact ⟨fun made => ⟨nofun, Except.ok.inj made⟩, fun both => congrArg Except.ok both.2⟩
  | cons argument arguments inductionHypothesis =>
      rw [List.foldlM_cons, List.foldl_cons, Usable, List.forall_mem_cons]
      constructor
      · intro made
        obtain ⟨middle, here, later⟩ := Outcome.exists_of_bind made
        obtain ⟨usable, rfl⟩ := resolve_eq_ok_iff.mp here
        obtain ⟨others, last⟩ := inductionHypothesis.mp later
        exact ⟨⟨usable, others⟩, last⟩
      · rintro ⟨⟨usable, others⟩, last⟩
        rw [resolve_eq_ok_iff.mpr ⟨usable, rfl⟩]
        exact inductionHypothesis.mpr ⟨others, last⟩

end Arguments

/-- The state after all arguments are resolved, if those that are used have a text. -/
def Progress.final (root : String) (pattern : Pattern) (encode : Bool) (arguments : Entries) :
    Progress :=
  arguments.foldl (Progress.placed pattern encode) (Progress.start root pattern)

section Builds

variable {root : String} {pattern : Pattern} {encode : Bool} {arguments : Entries}
  {resolution : Resolution}

theorem run_eq_ok_iff {progress : Progress} :
    Progress.run root pattern encode arguments = .ok progress
      ↔ Usable pattern encode arguments ∧ Progress.final root pattern encode arguments = progress :=
  foldlM_resolve_eq_ok_iff arguments

/-- **What is built reports the texts of the arguments that are used.** -/
theorem build_eq_ok_iff :
    build root pattern encode (.mapping arguments) = .ok resolution
      ↔ Usable pattern encode arguments ∧
        (Progress.final root pattern encode arguments).finish = .ok resolution := by
  change Progress.run root pattern encode arguments >>= Progress.finish = .ok resolution ↔ _
  constructor
  · intro built
    obtain ⟨progress, ran, finished⟩ := Outcome.exists_of_bind built
    obtain ⟨usable, rfl⟩ := run_eq_ok_iff.mp ran
    exact ⟨usable, finished⟩
  · rintro ⟨usable, finished⟩
    rw [run_eq_ok_iff.mpr ⟨usable, rfl⟩]
    exact finished

end Builds

end Uri

end Routebook
