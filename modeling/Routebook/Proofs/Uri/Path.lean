import Routebook.Proofs.Template.Remaining
import Routebook.Uri

/-!
# The path of a pattern

Before any argument is used the path of an address is the root joined with the path of the pattern.
In a root without dollar signs nothing is captured, so the names of the joined path are those of the
path of the pattern (`Uri.names_joinedPath`), and they are path variables.
-/

namespace Routebook.Uri

set_option autoImplicit false

/-- The path variables of a template are its captured names. -/
theorem isPathVariable_parse {template : String} {name : List Char} :
    (Template.parse template).isPathVariable (String.ofList name) = true
      ↔ name ∈ Template.names template.toList := by
  simp [Pattern.isPathVariable, Template.parse, String.ofList_inj]

theorem isPathVariable_iff {template name : String} :
    (Template.parse template).isPathVariable name = true
      ↔ name.toList ∈ Template.names template.toList := by
  rw [← isPathVariable_parse, String.ofList_toList]

/-- A root without dollar signs and the slash at the seam contribute no names. -/
theorem names_join {root path : List Char} (plainRoot : '$' ∉ root) :
    Template.names (joinCharacters root path) = Template.names path := by
  have plainBase : '$' ∉ if root.getLast? == some '/' then root else root ++ ['/'] := by
    split <;> simp [plainRoot]
  unfold joinCharacters
  generalize (if root.getLast? == some '/' then root else root ++ ['/']) = base at plainBase
  dsimp only
  split
  · rename_i rest
    have slash : '$' ∉ ['/'] := by decide
    exact (Template.names_append plainBase rest).trans (Template.names_append slash rest).symm
  · exact Template.names_append plainBase path

/-- The names captured in the literal path are names of the template. -/
theorem names_literalPath (template : String) :
    Template.names (Template.parse template).literalPath.toList
      ⊆ Template.names template.toList := by
  obtain ⟨rest, whole⟩ := Text.cut_fst_prefix '?' template.toList
  have path : (Template.parse template).literalPath.toList
      = (Text.cut '?' template.toList).1 := String.toList_ofList
  have subset := Template.names_subset_append (Text.cut '?' template.toList).1 rest
  rwa [← whole, ← path] at subset

/-- A path variable of a template is a legal name. -/
theorem legal_of_isPathVariable {template name : String}
    (declared : (Template.parse template).isPathVariable name = true) :
    name.toList ≠ [] ∧ '\x7d' ∉ name.toList :=
  Template.captured_of_mem_names (isPathVariable_iff.mp declared)

/-- The path of an address before any argument is used. -/
def joinedPath (root : String) (pattern : Pattern) : List Char :=
  joinCharacters root.toList pattern.literalPath.toList

/-- The names of the joined path are those of the path of the pattern. -/
theorem names_joinedPath {root : String} (plainRoot : '$' ∉ root.toList) (pattern : Pattern) :
    Template.names (joinedPath root pattern) = Template.names pattern.literalPath.toList :=
  names_join plainRoot

/-- The names of the joined path are path variables. -/
theorem names_joined {root template : String} (plainRoot : '$' ∉ root.toList) :
    Template.names (joinedPath root (Template.parse template))
      ⊆ Template.names template.toList := by
  rw [names_joinedPath plainRoot]
  exact names_literalPath template

/-- In a path without openings in its names a path variable occurs exactly where it is captured. -/
theorem infix_joinedPath_iff {root template : String} (plainRoot : '$' ∉ root.toList)
    (clean : ∀ name ∈ Template.names template.toList, Text.occurs Template.opening name = false)
    {name : List Char} (listed : name ∈ Template.names template.toList) :
    Template.placeholder name <:+: joinedPath root (Template.parse template) ↔
      name ∈ Template.names (Template.parse template).literalPath.toList := by
  obtain ⟨nonempty, unclosed⟩ := Template.captured_of_mem_names listed
  rw [Template.placeholder_infix_iff_exists unclosed nonempty,
    ← names_joinedPath plainRoot]
  constructor
  · rintro ⟨captured, inPath, within⟩
    have isName := names_joined plainRoot inPath
    rw [Template.placeholder_infix_iff (Template.captured_of_mem_names isName).2] at within
    obtain rfl := within.resolve_right (Template.not_nested_of_clean (clean _ isName))
    exact inPath
  · intro inPath
    exact ⟨name, inPath, List.infix_refl _⟩

end Routebook.Uri
