import Conformance.Class
import Conformance.Proofs.Text.Nesting

/-!
# Conformance.Proofs.Class

What the base name of a class is cut from.

A full name is a qualifier, the base name and the arguments (`name_eq`). Where the brackets
of the full name are properly nested, those of the base name are too exactly if no pair of
them is cut apart (`WellNamed.wellNested_baseName_iff`). The name of a function from `Date`
to `Circle` is cut behind its parentheses, the name of a pair of the two within them.
-/

namespace Conformance.Class

open Text (BracketsOutside Nested Straddles WellNested)

variable {c : Class}

/-! ## The parts of a full name -/

/-- A full name without type arguments. -/
def unapplied (c : Class) : List Char := c.name.toList.takeWhile (· ≠ '<')

/-- What stands before the base name. -/
def qualifier (c : Class) : List Char :=
  c.unapplied.take (c.unapplied.length - c.baseName.toList.length)

/-- What stands behind the base name: the type arguments. -/
def arguments (c : Class) : List Char := c.name.toList.dropWhile (· ≠ '<')

/-- Cutting off qualifiers leaves the end of the name. -/
theorem afterLastQualifier_suffix {best cs whole : List Char} (hbest : best <:+ whole)
    (hcs : cs <:+ whole) : afterLastQualifier best cs <:+ whole := by
  induction cs generalizing best with
  | nil => exact hbest
  | cons c rest ih =>
      have hrest : rest <:+ whole := (List.suffix_cons c rest).trans hcs
      rw [afterLastQualifier]
      split_ifs
      · exact ih ((List.tail_suffix rest).trans hrest) hrest
      · exact ih hbest hrest

/-- The base name ends where the arguments begin. -/
theorem baseName_suffix (c : Class) : c.baseName.toList <:+ c.unapplied := by
  rw [baseName, String.toList_ofList]
  exact afterLastQualifier_suffix List.suffix_rfl List.suffix_rfl

/-- A full name is made of a qualifier, the base name and the arguments. -/
theorem name_eq (c : Class) :
    c.name.toList = c.qualifier ++ (c.baseName.toList ++ c.arguments) := by
  rw [← List.append_assoc, qualifier, List.suffix_iff_eq_append.1 c.baseName_suffix]
  exact List.takeWhile_append_dropWhile.symm

/-! ## Brackets in a full name -/

/-- The brackets of the full name are properly nested, and the base name looks like no
string that would hide some of them. -/
structure WellNamed (c : Class) : Prop where
  name : Nested c.name.toList
  baseName : BracketsOutside c.baseName.toList

/-- A pair of brackets of the full name has only one end in the base name. -/
def CutsPair (c : Class) : Prop :=
  Straddles c.qualifier c.baseName.toList ∨ Straddles c.baseName.toList c.arguments

/-- **The base name** of a well-named class is well nested exactly if no pair of brackets
is cut apart. -/
theorem WellNamed.wellNested_baseName_iff (h : c.WellNamed) :
    WellNested c.baseName.toList ↔ ¬c.CutsPair := by
  have hname := h.name
  rw [name_eq] at hname
  rw [CutsPair, not_or, h.baseName.wellNested_iff]
  exact Text.nested_iff_not_straddles hname

/-- A name that is cut outside of its brackets keeps them together. -/
theorem not_cutsPair_of_nested (hqualifier : Nested c.qualifier) (harguments : Nested c.arguments) :
    ¬c.CutsPair := by
  rintro (hleft | hright)
  · exact hqualifier.not_straddles_right _ hleft
  · exact harguments.not_straddles_left _ hright

end Conformance.Class
