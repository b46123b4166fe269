import Mathlib.Data.List.Infix

/-!
# Conformance.Proofs.Text.Reading

When a written item can be read back from the front of a text.

A text says where its first item ends either by itself, as a quoted string does, or by
what follows: a word ends where no letter stands. `Reads` is this property of an item,
given all that may follow it and all other items that could stand in its place.
`intercalate_append_inj` carries it from the items of a list to the list, written with a
separator that may follow an item and does not begin what may follow the list.
-/

namespace Conformance.Text

variable {α : Type} {write : α → List Char} {Kind : α → Prop} {Follow : List Char → Prop}

/-- The item can be read back: no other item of the kind begins the same text, and the
text that follows it is told apart from it. -/
def Reads (write : α → List Char) (Kind : α → Prop) (Follow : List Char → Prop) (a : α) :
    Prop :=
  ∀ ⦃b : α⦄ ⦃rest rest' : List Char⦄, Kind b → Follow rest → Follow rest' →
    write a ++ rest = write b ++ rest' → a = b ∧ rest = rest'

/-- What may follow the last item of a list: it follows an item, but no item follows it. -/
structure Closes (Follow : List Char → Prop) (separator rest : List Char) : Prop where
  follows : Follow rest
  no_further : ¬separator <+: rest

/-- A joined text begins with its first part. -/
theorem prefix_intercalate_cons (separator text : List Char) (texts : List (List Char)) :
    text <+: separator.intercalate (text :: texts) := by
  cases texts with
  | nil => rw [List.intercalate_singleton]
  | cons _ _ =>
      rw [List.intercalate_cons_cons, List.append_assoc]
      exact List.prefix_append _ _

/-- **Lists of items** can be read back if their items can. -/
theorem intercalate_append_inj {separator rest rest' : List Char} {a b : α} {as bs : List α}
    (hreads : ∀ c ∈ a :: as, Reads write Kind Follow c) (hkind : ∀ c ∈ b :: bs, Kind c)
    (hseparator : ∀ more, Follow (separator ++ more))
    (hrest : Closes Follow separator rest) (hrest' : Closes Follow separator rest')
    (h : separator.intercalate ((a :: as).map write) ++ rest =
      separator.intercalate ((b :: bs).map write) ++ rest') :
    a :: as = b :: bs ∧ rest = rest' := by
  induction as generalizing a b bs with
  | nil =>
      have ha := hreads a List.mem_cons_self
      have hb := hkind b List.mem_cons_self
      cases bs with
      | nil =>
          simp only [List.map_cons, List.map_nil, List.intercalate_singleton] at h
          obtain ⟨rfl, rfl⟩ := ha hb hrest.follows hrest'.follows h
          exact ⟨rfl, rfl⟩
      | cons b' bs =>
          -- After the only item of one list the other list would go on.
          simp only [List.map_cons, List.map_nil, List.intercalate_singleton,
            List.intercalate_cons_cons, List.append_assoc] at h
          have hmore := (ha hb hrest.follows (hseparator _) h).2
          exact absurd (hmore ▸ List.prefix_append _ _) hrest.no_further
  | cons a' as ih =>
      have ha := hreads a List.mem_cons_self
      have hb := hkind b List.mem_cons_self
      cases bs with
      | nil =>
          simp only [List.map_cons, List.map_nil, List.intercalate_singleton,
            List.intercalate_cons_cons, List.append_assoc] at h
          have hmore := (ha hb (hseparator _) hrest'.follows h).2
          exact absurd (hmore ▸ List.prefix_append _ _) hrest'.no_further
      | cons b' bs =>
          simp only [List.map_cons, List.intercalate_cons_cons, List.append_assoc] at h
          obtain ⟨rfl, hmore⟩ := ha hb (hseparator _) (hseparator _) h
          obtain ⟨htail, rfl⟩ := ih (List.forall_mem_cons.1 hreads).2
            (List.forall_mem_cons.1 hkind).2 (List.append_cancel_left hmore)
          exact ⟨htail ▸ rfl, rfl⟩

end Conformance.Text
