import Conformance.Proofs.Lists
import Conformance.Proofs.ValueType.Membership

/-!
# Conformance.Proofs.ValueType.Equality

Equality of types is symmetric and transitive, though it is not reflexive: a type that
holds the literal `nan` differs from itself.

* `literal_beq_iff`, `array_beq_iff` and so on — what is equal to a type of a given form:
  the types of the same form with equal parts.
* `beq_symm`, `beq_trans` — by induction on the first type.
-/

namespace Conformance

namespace Literal

theorem beq_symm {l m : Literal} (h : (l == m) = true) : (m == l) = true := by
  change Literal.beq l m = true at h
  change Literal.beq m l = true
  cases l <;> cases m <;> simp_all [Literal.beq, Binary64.beq_comm]

theorem beq_trans {l m n : Literal} (hlm : (l == m) = true) (hmn : (m == n) = true) :
    (l == n) = true := by
  change Literal.beq l m = true at hlm
  change Literal.beq m n = true at hmn
  change Literal.beq l n = true
  cases l with
  | number x =>
      cases m with
      | number y =>
          cases n with
          | number z => exact Binary64.beq_trans hlm hmn
          | _ => simp [Literal.beq] at hmn
      | _ => simp [Literal.beq] at hlm
  | _ => cases m <;> cases n <;> simp_all [Literal.beq]

end Literal

namespace ValueType

variable {t : ValueType}

/-! ## Types equal to a given one -/

/-- Only the literals of equal values are equal to a literal type. -/
theorem literal_beq_iff {l : Literal} :
    (literal l == t) = true ↔ ∃ m, t = literal m ∧ (l == m) = true := by
  constructor
  · intro h
    cases t with
    | literal m => exact ⟨m, rfl, h⟩
    -- The comparison with a type of another kind computes to `false`.
    | _ => exact absurd h Bool.false_ne_true
  · rintro ⟨m, rfl, hlm⟩
    exact hlm

/-- Only the types of arrays with equal elements are equal to an array type. -/
theorem array_beq_iff {element : ValueType} :
    (array element == t) = true ↔
      ∃ element', t = array element' ∧ (element == element') = true := by
  constructor
  · intro h
    cases t with
    | array element' => exact ⟨element', rfl, h⟩
    | _ => exact absurd h Bool.false_ne_true
  · rintro ⟨element', rfl, helements⟩
    exact helements

/-- Tuple types are compared position by position. -/
theorem tuple_beq_iff {elements : List ValueType} :
    (tuple elements == t) = true ↔
      ∃ elements', t = tuple elements' ∧
        List.Forall₂ (fun s u => (s == u) = true) elements elements' := by
  constructor
  · intro h
    cases t with
    | tuple elements' => exact ⟨elements', rfl, beqAll_iff.1 h⟩
    | _ => exact absurd h Bool.false_ne_true
  · rintro ⟨elements', rfl, helements⟩
    exact beqAll_iff.2 helements

/-- Unions are compared member by member, in their order. -/
theorem union_beq_iff {members : List ValueType} :
    (union members == t) = true ↔
      ∃ members', t = union members' ∧
        List.Forall₂ (fun s u => (s == u) = true) members members' := by
  constructor
  · intro h
    cases t with
    | union members' => exact ⟨members', rfl, beqAll_iff.1 h⟩
    | _ => exact absurd h Bool.false_ne_true
  · rintro ⟨members', rfl, hmembers⟩
    exact beqAll_iff.2 hmembers

/-- The same name with equal types. -/
def EqualField (f g : String × ValueType) : Prop := f.1 = g.1 ∧ (f.2 == g.2) = true

/-- Object types are compared group by group. A property that is required in one of them and
optional in the other tells them apart. -/
theorem object_beq_iff {o : PropertyTypes ValueType} :
    (object o == t) = true ↔
      ∃ o', t = object o' ∧ List.Forall₂ EqualField o.required o'.required ∧
        List.Forall₂ EqualField o.optional o'.optional := by
  constructor
  · intro h
    cases t with
    | object o' =>
        obtain ⟨hrequired, hoptional⟩ := (Bool.and_eq_true _ _).mp h
        exact ⟨o', rfl, beqFields_iff.1 hrequired, beqFields_iff.1 hoptional⟩
    | _ => exact absurd h Bool.false_ne_true
  · rintro ⟨o', rfl, hrequired, hoptional⟩
    exact (Bool.and_eq_true _ _).mpr ⟨beqFields_iff.2 hrequired, beqFields_iff.2 hoptional⟩

theorem ofClass_beq_iff {c : Class} : (ofClass c == t) = true ↔ t = ofClass c := by
  constructor
  · intro h
    cases t with
    | ofClass d =>
        have hcd : c = d := beq_iff_eq.1 h
        rw [hcd]
    | _ => exact absurd h Bool.false_ne_true
  · rintro rfl
    exact beq_self_eq_true c

theorem dictionary_beq_iff {key value : ValueType} :
    (dictionary key value == t) = true ↔
      ∃ key' value', t = dictionary key' value' ∧ (key == key') = true ∧
        (value == value') = true := by
  constructor
  · intro h
    cases t with
    | dictionary key' value' => exact ⟨key', value', rfl, (Bool.and_eq_true _ _).mp h⟩
    | _ => exact absurd h Bool.false_ne_true
  · rintro ⟨key', value', rfl, hboth⟩
    exact (Bool.and_eq_true _ _).mpr hboth

/-! ## Symmetry and transitivity -/

/-- **Symmetry**: it does not matter which of two types is compared with the other one. -/
theorem beq_symm {s t : ValueType} (h : (s == t) = true) : (t == s) = true := by
  induction s using ValueType.induction generalizing t with
  | string | number | boolean | unknown =>
      cases t <;> exact h
  | literal l =>
      obtain ⟨m, rfl, hlm⟩ := literal_beq_iff.1 h
      exact literal_beq_iff.2 ⟨l, rfl, Literal.beq_symm hlm⟩
  | array s ih =>
      obtain ⟨t, rfl, hst⟩ := array_beq_iff.1 h
      exact array_beq_iff.2 ⟨s, rfl, ih hst⟩
  | tuple ss ih =>
      obtain ⟨ts, rfl, hst⟩ := tuple_beq_iff.1 h
      exact tuple_beq_iff.2 ⟨ss, rfl, forall₂_symm_of_mem (fun s hs _ => ih s hs) hst⟩
  | union ss ih =>
      obtain ⟨ts, rfl, hst⟩ := union_beq_iff.1 h
      exact union_beq_iff.2 ⟨ss, rfl, forall₂_symm_of_mem (fun s hs _ => ih s hs) hst⟩
  | object o ih =>
      obtain ⟨o', rfl, hrequired, hoptional⟩ := object_beq_iff.1 h
      have hfield : ∀ f ∈ o.fields, ∀ g, EqualField f g → EqualField g f :=
        fun f hf g hfg => ⟨hfg.1.symm, ih f hf hfg.2⟩
      obtain ⟨hfirst, hsecond⟩ := List.forall_mem_append.1 hfield
      exact object_beq_iff.2 ⟨o, rfl, forall₂_symm_of_mem hfirst hrequired,
        forall₂_symm_of_mem hsecond hoptional⟩
  | ofClass c => exact ofClass_beq_iff.1 h ▸ ofClass_beq_iff.2 rfl
  | dictionary k s ihk ihs =>
      obtain ⟨l, t, rfl, hkl, hst⟩ := dictionary_beq_iff.1 h
      exact dictionary_beq_iff.2 ⟨k, s, rfl, ihk hkl, ihs hst⟩

/-- **Transitivity**: types that are equal to a third one are equal, whether or not any of
them is equal to itself. -/
theorem beq_trans {s t u : ValueType} (hst : (s == t) = true) (htu : (t == u) = true) :
    (s == u) = true := by
  induction s using ValueType.induction generalizing t u with
  | string | number | boolean | unknown =>
      cases t <;> first | exact absurd hst Bool.false_ne_true | exact htu
  | literal l =>
      obtain ⟨m, rfl, hlm⟩ := literal_beq_iff.1 hst
      obtain ⟨n, rfl, hmn⟩ := literal_beq_iff.1 htu
      exact literal_beq_iff.2 ⟨n, rfl, Literal.beq_trans hlm hmn⟩
  | array s ih =>
      obtain ⟨t, rfl, hst'⟩ := array_beq_iff.1 hst
      obtain ⟨u, rfl, htu'⟩ := array_beq_iff.1 htu
      exact array_beq_iff.2 ⟨u, rfl, ih hst' htu'⟩
  | tuple ss ih =>
      obtain ⟨ts, rfl, hst'⟩ := tuple_beq_iff.1 hst
      obtain ⟨us, rfl, htu'⟩ := tuple_beq_iff.1 htu
      exact tuple_beq_iff.2 ⟨us, rfl, forall₂_trans_of_mem (fun s hs _ _ => ih s hs) hst' htu'⟩
  | union ss ih =>
      obtain ⟨ts, rfl, hst'⟩ := union_beq_iff.1 hst
      obtain ⟨us, rfl, htu'⟩ := union_beq_iff.1 htu
      exact union_beq_iff.2 ⟨us, rfl, forall₂_trans_of_mem (fun s hs _ _ => ih s hs) hst' htu'⟩
  | object o ih =>
      obtain ⟨o', rfl, hrequired, hoptional⟩ := object_beq_iff.1 hst
      obtain ⟨o'', rfl, hrequired', hoptional'⟩ := object_beq_iff.1 htu
      have hfield : ∀ f ∈ o.fields, ∀ g h, EqualField f g → EqualField g h → EqualField f h :=
        fun f hf g h hfg hgh => ⟨hfg.1.trans hgh.1, ih f hf hfg.2 hgh.2⟩
      obtain ⟨hfirst, hsecond⟩ := List.forall_mem_append.1 hfield
      exact object_beq_iff.2 ⟨o'', rfl, forall₂_trans_of_mem hfirst hrequired hrequired',
        forall₂_trans_of_mem hsecond hoptional hoptional'⟩
  | ofClass c => exact ofClass_beq_iff.1 hst ▸ htu
  | dictionary k s ihk ihs =>
      obtain ⟨l, t, rfl, hkl, hst'⟩ := dictionary_beq_iff.1 hst
      obtain ⟨m, u, rfl, hlm, htu'⟩ := dictionary_beq_iff.1 htu
      exact dictionary_beq_iff.2 ⟨m, u, rfl, ihk hkl hlm, ihs hst' htu'⟩

end ValueType

end Conformance
