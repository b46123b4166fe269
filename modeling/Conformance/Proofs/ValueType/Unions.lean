import Conformance.Proofs.ValueType.Equality
import Conformance.Proofs.ValueType.Structure

/-!
# Conformance.Proofs.ValueType.Unions

How a union is put together.

`anyOf` collects the alternatives of some types and leaves out those that are equal to an
earlier one.  What is left are the `choices`, and but for `unknown` they decide the result
(`anyOf_congr`).  As `==` is transitive, leaving out repetitions first in parts of a list
and then in the whole makes no difference (`foldl_addMember_foldl`), so unions can be made
in stages.

* `includes_anyOf_iff` — a value has the union when it has one of the types.
* `normal_anyOf` — unions of normal types are normal.
* `anyOf_map_anyOf` — the union of unions is the union of all their types.
-/

namespace Conformance.ValueType

/-! ## Leaving out repetitions -/

/-- Some types without those that are equal to an earlier one. -/
def distinct (types : List ValueType) : List ValueType := types.foldl addMember []

theorem addMember_of_any {members : List ValueType} {t : ValueType}
    (h : members.any (· == t) = true) : addMember members t = members := if_pos h

theorem addMember_of_not_any {members : List ValueType} {t : ValueType}
    (h : members.any (· == t) = false) : addMember members t = members ++ [t] := by
  rw [addMember, h]
  rfl

/-- A member was there before or has been added. -/
theorem mem_foldl_addMember {types members : List ValueType} {t : ValueType}
    (h : t ∈ types.foldl addMember members) : t ∈ members ∨ t ∈ types := by
  induction types generalizing members with
  | nil => exact .inl h
  | cons u types ih =>
      rcases ih h with hmember | htype
      · cases hu : members.any (· == u) with
        | true => exact .inl (addMember_of_any hu ▸ hmember)
        | false =>
            rw [addMember_of_not_any hu, List.mem_append, List.mem_singleton] at hmember
            rcases hmember with hmember | rfl
            · exact .inl hmember
            · exact .inr List.mem_cons_self
      · exact .inr (List.mem_cons_of_mem u htype)

/-- A type that is added is unequal to all members, in either order of comparison. -/
theorem pairwise_foldl_addMember {types members : List ValueType}
    (h : members.Pairwise Unequal) : (types.foldl addMember members).Pairwise Unequal := by
  induction types generalizing members with
  | nil => exact h
  | cons t types ih =>
      refine ih ?_
      cases ht : members.any (· == t) with
      | true => rwa [addMember_of_any ht]
      | false =>
          rw [addMember_of_not_any ht, List.pairwise_append]
          refine ⟨h, List.pairwise_singleton _ _, fun s hs u hu => ?_⟩
          obtain rfl := List.mem_singleton.1 hu
          have hst : (s == u) = false := Bool.eq_false_iff.2 (List.any_eq_false.1 ht s hs)
          exact ⟨hst, Bool.eq_false_iff.2 fun hus => Bool.eq_false_iff.1 hst (beq_symm hus)⟩

/-- Adding a type that is equal to one of those that are added before makes no difference,
whichever of them are left out. -/
theorem foldl_addMember_addMember (types members : List ValueType) (t : ValueType) :
    (addMember types t).foldl addMember members =
      addMember (types.foldl addMember members) t := by
  cases ht : types.any (· == t) with
  | true =>
      have hpresent : (types.foldl addMember members).any (· == t) = true := by
        rw [any_foldl_addMember (fun hsu hut => beq_trans hsu hut), ht, Bool.or_true]
      rw [addMember_of_any ht, addMember_of_any hpresent]
  | false => rw [addMember_of_not_any ht, List.foldl_append, List.foldl_cons, List.foldl_nil]

/-- **Stages**: repetitions may be left out of some of the types beforehand. -/
theorem foldl_addMember_foldl (types front members : List ValueType) :
    (types.foldl addMember front).foldl addMember members =
      types.foldl addMember (front.foldl addMember members) := by
  induction types generalizing front with
  | nil => rfl
  | cons t types ih => rw [List.foldl_cons, ih, foldl_addMember_addMember, List.foldl_cons]

/-- Repetitions may be left out before types are added. -/
theorem foldl_distinct (types members : List ValueType) :
    (distinct types).foldl addMember members = types.foldl addMember members :=
  foldl_addMember_foldl types [] members

theorem distinct_distinct (types : List ValueType) : distinct (distinct types) = distinct types :=
  foldl_distinct types []

theorem distinct_append_singleton (types : List ValueType) (t : ValueType) :
    distinct (types ++ [t]) = addMember (distinct types) t := by
  rw [distinct, List.foldl_append]
  rfl

/-- Repetitions may be left out of each part before the parts are joined. -/
theorem foldl_flatMap_distinct {α : Type} (f : α → List ValueType) (as : List α)
    (members : List ValueType) :
    (as.flatMap fun a => distinct (f a)).foldl addMember members =
      (as.flatMap f).foldl addMember members := by
  induction as generalizing members with
  | nil => rfl
  | cons a as ih =>
      rw [List.flatMap_cons, List.flatMap_cons, List.foldl_append, List.foldl_append,
        foldl_distinct, ih]

/-! ## What decides a union -/

theorem isUnknown_iff {t : ValueType} : t.isUnknown = true ↔ t = unknown := by
  cases t <;> simp [isUnknown]

/-- What is left of the alternatives of some types when repetitions are left out. -/
def choices (types : List ValueType) : List ValueType := distinct (types.flatMap alternatives)

/-- A union is decided by its choices, unless one of the types is `unknown`. -/
theorem anyOf_congr {types types' : List ValueType}
    (hunknown : types.any isUnknown = types'.any isUnknown)
    (hchoices : choices types = choices types') : anyOf types = anyOf types' := by
  unfold choices distinct at hchoices
  unfold anyOf
  rw [hunknown, hchoices]

/-- One `unknown` makes the union unknown. -/
theorem anyOf_of_unknown {types : List ValueType} (h : types.any isUnknown = true) :
    anyOf types = unknown := if_pos h

/-- Without `unknown`, a union is its only choice, or has all its choices as members. -/
theorem anyOf_cases {types : List ValueType} (h : types.any isUnknown = false) :
    (∃ t, choices types = [t] ∧ anyOf types = t) ∨
      ((choices types).length ≠ 1 ∧ anyOf types = union (choices types)) := by
  have hchoices : (types.flatMap alternatives).foldl addMember [] = choices types := rfl
  rw [anyOf, h, if_neg Bool.false_ne_true, hchoices]
  cases choices types with
  | nil => exact .inr ⟨by simp, rfl⟩
  | cons t members =>
      cases members with
      | nil => exact .inl ⟨t, rfl, rfl⟩
      | cons u members => exact .inr ⟨by simp, rfl⟩

theorem distinct_choices (types : List ValueType) : distinct (choices types) = choices types :=
  distinct_distinct _

/-- Every choice is an alternative of one of the types. -/
theorem mem_choices {types : List ValueType} {t : ValueType} (h : t ∈ choices types) :
    ∃ u ∈ types, t ∈ u.alternatives := by
  rcases mem_foldl_addMember h with hnil | hmem
  · exact (List.not_mem_nil hnil).elim
  · exact List.mem_flatMap.1 hmem

/-! ## Membership -/

/-- **Unions are disjunctions**: a value has the union of some types, nested and repeated as
they may be, exactly when it has one of them. -/
theorem includes_anyOf_iff (types : List ValueType) (value : Value) :
    (anyOf types).includes value = true ↔ ∃ t ∈ types, t.includes value = true := by
  rw [includes_anyOf, List.any_eq_true]

/-! ## Normal unions -/

/-- Apart from `unknown`, what a normal type adds to a union is neither a union nor
`unknown`. -/
theorem NormalUnion.alternatives {t : ValueType} (h : t.NormalUnion)
    (hunknown : t.isUnknown = false) :
    ∀ u ∈ t.alternatives, u.isUnion = false ∧ u.isUnknown = false := by
  cases t with
  | union members => exact fun u hu => ⟨h.isUnion_eq_false u hu, h.isUnknown_eq_false u hu⟩
  | unknown => exact absurd hunknown (by decide)
  | _ => exact List.forall_mem_singleton.2 ⟨rfl, rfl⟩

/-- The choices of normal types need no more flattening. -/
theorem choices_of_normalUnion {types : List ValueType} (h : ∀ t ∈ types, t.NormalUnion)
    (hunknown : types.any isUnknown = false) :
    ∀ u ∈ choices types, u.isUnion = false ∧ u.isUnknown = false := by
  intro u hu
  obtain ⟨t, ht, hut⟩ := mem_choices hu
  exact (h t ht).alternatives (Bool.eq_false_iff.2 (List.any_eq_false.1 hunknown t ht)) u hut

/-- What a normal type adds to a union is normal. -/
theorem Normal.alternatives {t : ValueType} (h : t.Normal) : ∀ u ∈ t.alternatives, u.Normal := by
  cases t with
  | union members => exact h.parts
  | _ => exact List.forall_mem_singleton.2 h

/-- **Normal forms**: a union of normal types is normal. -/
theorem normal_anyOf {types : List ValueType} (h : ∀ t ∈ types, t.Normal) :
    (anyOf types).Normal := by
  cases hunknown : types.any isUnknown with
  | true =>
      rw [anyOf_of_unknown hunknown]
      exact .leaf ⟨trivial, trivial⟩ rfl
  | false =>
      have hnormal : ∀ u ∈ choices types, u.Normal := by
        intro u hu
        obtain ⟨t, ht, hut⟩ := mem_choices hu
        exact (h t ht).alternatives u hut
      have hflat := choices_of_normalUnion (fun t ht => (h t ht).here.1) hunknown
      rcases anyOf_cases hunknown with ⟨t, hsingle, hanyOf⟩ | ⟨hlength, hanyOf⟩
      · rw [hanyOf]
        exact hnormal t (hsingle ▸ List.mem_singleton_self t)
      · rw [hanyOf]
        have hmembers : NormalMembers (choices types) :=
          { length_ne_one := hlength
            isUnion_eq_false := fun u hu => (hflat u hu).1
            isUnknown_eq_false := fun u hu => (hflat u hu).2
            distinct := pairwise_foldl_addMember .nil }
        exact .intro ⟨hmembers, trivial⟩ hnormal

/-! ## Unions in stages -/

/-- A union of types that are no unions of unions adds to a further union what its types
add. -/
theorem alternatives_anyOf {types : List ValueType} (hunknown : types.any isUnknown = false)
    (hflat : ∀ u ∈ choices types, u.isUnion = false) :
    (anyOf types).alternatives = choices types := by
  rcases anyOf_cases hunknown with ⟨t, hsingle, hanyOf⟩ | ⟨-, hanyOf⟩
  · have ht : t.isUnion = false := hflat t (hsingle ▸ List.mem_singleton_self t)
    rw [hanyOf, hsingle]
    cases t with
    | union members => exact absurd ht (by simp [isUnion])
    | _ => rfl
  · rw [hanyOf]
    rfl

/-- A union of normal types is `unknown` only if one of them is. -/
theorem isUnknown_anyOf {types : List ValueType} (h : ∀ t ∈ types, t.NormalUnion) :
    (anyOf types).isUnknown = types.any isUnknown := by
  cases hunknown : types.any isUnknown with
  | true =>
      rw [anyOf_of_unknown hunknown]
      rfl
  | false =>
      rcases anyOf_cases hunknown with ⟨t, hsingle, hanyOf⟩ | ⟨-, hanyOf⟩
      · rw [hanyOf]
        exact (choices_of_normalUnion h hunknown t (hsingle ▸ List.mem_singleton_self t)).2
      · rw [hanyOf]
        rfl

/-- **Stages**: the union of unions of normal types is the union of all the types, with the
same members in the same order. -/
theorem anyOf_map_anyOf {groups : List (List ValueType)}
    (h : ∀ types ∈ groups, ∀ t ∈ types, t.NormalUnion) :
    anyOf (groups.map anyOf) = anyOf groups.flatten := by
  have hany : (groups.map anyOf).any isUnknown = groups.flatten.any isUnknown := by
    rw [List.any_map, List.any_flatten]
    exact any_eq_of_forall₂ (List.forall₂_same.2 fun types htypes =>
      isUnknown_anyOf (h types htypes))
  cases hunknown : groups.flatten.any isUnknown with
  | true => rw [anyOf_of_unknown hunknown, anyOf_of_unknown (hany.trans hunknown)]
  | false =>
      have hgroups : ∀ types ∈ groups, types.any isUnknown = false := by
        rw [List.any_flatten, List.any_eq_false] at hunknown
        exact fun types htypes => Bool.eq_false_iff.2 (hunknown types htypes)
      refine anyOf_congr hany ?_
      have halternatives : (groups.map anyOf).flatMap alternatives = groups.flatMap choices := by
        rw [List.flatMap_map]
        refine List.flatMap_congr fun types htypes => ?_
        have hflat := choices_of_normalUnion (h types htypes) (hgroups types htypes)
        exact alternatives_anyOf (hgroups types htypes) fun u hu => (hflat u hu).1
      calc
        choices (groups.map anyOf) = distinct (groups.flatMap choices) := by
          rw [choices, halternatives]
        _ = distinct (groups.flatMap fun types => types.flatMap alternatives) :=
          foldl_flatMap_distinct _ groups []
        _ = choices groups.flatten := by
          rw [choices, List.flatten_eq_flatMap, List.flatMap_assoc]
          rfl

/-! ## `undefined` twice -/

/-- No other type is equal to that of `undefined`. -/
theorem eq_undefined_of_beq {t : ValueType} (h : (t == literal .undefined) = true) :
    t = literal .undefined := by
  obtain ⟨l, rfl, hl⟩ := literal_beq_iff.1 (beq_symm h)
  cases l with
  | undefined => rfl
  | _ => exact absurd hl (by simp [BEq.beq, Literal.beq])

/-- What has been joined with `undefined` stays as it is when it is joined with it again,
also if it is a union that is not normal. -/
theorem anyOf_anyOf_undefined (t : ValueType) :
    anyOf [anyOf [t, literal .undefined], literal .undefined] =
      anyOf [t, literal .undefined] := by
  have hchoices : ∀ u : ValueType, choices [u, literal .undefined] =
      addMember (distinct u.alternatives) (literal .undefined) := by
    intro u
    rw [← distinct_append_singleton, choices]
    rfl
  have hpresent : (choices [t, literal .undefined]).any (· == literal .undefined) = true := by
    rw [hchoices, any_addMember (fun hst htu => beq_trans hst htu)]
    exact Bool.or_true _
  cases hunknown : t.isUnknown with
  | true =>
      rw [isUnknown_iff.1 hunknown]
      rfl
  | false =>
      have hany : [t, literal .undefined].any isUnknown = false := by
        rw [List.any_cons, hunknown]
        rfl
      rcases anyOf_cases hany with ⟨u, hsingle, hanyOf⟩ | ⟨-, hanyOf⟩
      · rw [hsingle] at hpresent
        have hu : u = literal .undefined := eq_undefined_of_beq (by simpa using hpresent)
        rw [hanyOf, hu]
        rfl
      · have hsame : choices [anyOf [t, literal .undefined], literal .undefined] =
            choices [t, literal .undefined] := by
          rw [hanyOf, hchoices, alternatives, distinct_choices, addMember_of_any hpresent]
        exact anyOf_congr (by rw [hanyOf, hany]; rfl) hsame

end Conformance.ValueType
