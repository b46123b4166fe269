import Mathlib.Data.List.Forall2
import Conformance.ValueType.Basic

/-!
# Conformance.Proofs.ValueType.Membership

Which values have a type, in terms of lists, and what this means for equal types
and for unions.

* `ValueType.induction` — structural induction on a type.
* `includes_tuple`, `includes_object`, `includes_union` — the lists a type holds
  are read by `List.all₂`, `List.all` and `List.any`.
* `includes_eq_of_beq` — types that are equal for `==` have the same values, though
  they may hold zeros of different signs.
* `includes_anyOf` — a union has the values of its members: neither flattening nor
  leaving out equal members, nor the way out by `unknown` changes that.
-/

namespace Conformance

/-- Two lists agree when their first items do and the others do. -/
theorem all₂_cons {α β : Type} (f : α → β → Bool) (a : α) (as : List α) (b : β)
    (bs : List β) : List.all₂ f (a :: as) (b :: bs) = (f a b && List.all₂ f as bs) := by
  rw [List.all₂]
  cases f a b <;> rfl

theorem all₂_map {α β γ : Type} (f : β → γ → Bool) (k : α → β) (as : List α)
    (cs : List γ) : List.all₂ f (as.map k) cs = List.all₂ (fun a => f (k a)) as cs := by
  induction as generalizing cs with
  | nil => cases cs <;> rfl
  | cons a as ih =>
      cases cs with
      | nil => rfl
      | cons c cs => rw [List.map_cons, all₂_cons, all₂_cons, ih]

/-- All pairs pass, and the lengths agree. -/
theorem all₂_iff_forall₂ {α β : Type} {f : α → β → Bool} {as : List α} {bs : List β} :
    List.all₂ f as bs = true ↔ List.Forall₂ (fun a b => f a b = true) as bs := by
  induction as generalizing bs with
  | nil => cases bs <;> simp [List.all₂]
  | cons a as ih =>
      cases bs with
      | nil => simp [List.all₂]
      | cons b bs => rw [all₂_cons, Bool.and_eq_true, ih, List.forall₂_cons]

/-! ## Literals -/

/-- Equal literals accept the same values. -/
theorem Literal.accepts_eq_of_beq {l m : Literal} (h : (l == m) = true) (value : Value) :
    l.accepts value = m.accepts value := by
  change Literal.beq l m = true at h
  cases l with
  | number x =>
      cases m with
      | number y =>
          have hxy : (x == y) = true := h
          have hyx : (y == x) = true := by rw [Binary64.beq_comm]; exact hxy
          cases value with
          | number z =>
              rw [accepts, accepts, Bool.eq_iff_iff]
              exact ⟨Binary64.beq_trans hyx, Binary64.beq_trans hxy⟩
          | _ => rfl
      | _ => simp [Literal.beq] at h
  | bool a => cases m <;> simp_all [Literal.beq]
  | string s => cases m <;> simp_all [Literal.beq]
  | undefined => cases m <;> simp_all [Literal.beq]
  | null => cases m <;> simp_all [Literal.beq]

namespace ValueType

/-! ## Induction -/

/-- Structural induction: the statement may be assumed of all types that a type holds. -/
@[elab_as_elim]
theorem induction {motive : ValueType → Prop}
    (string : motive .string) (number : motive .number) (boolean : motive .boolean)
    (unknown : motive .unknown) (literal : ∀ l, motive (.literal l))
    (array : ∀ element, motive element → motive (.array element))
    (tuple : ∀ elements, (∀ t ∈ elements, motive t) → motive (.tuple elements))
    (object : ∀ o : PropertyTypes ValueType, (∀ f ∈ o.fields, motive f.2) → motive (.object o))
    (ofClass : ∀ c, motive (.ofClass c))
    (dictionary : ∀ key value, motive key → motive value → motive (.dictionary key value))
    (union : ∀ members, (∀ t ∈ members, motive t) → motive (.union members))
    (t : ValueType) : motive t := by
  refine @ValueType.rec motive (fun ts => ∀ t ∈ ts, motive t)
    (fun o => ∀ f ∈ o.fields, motive f.2) (fun fs => ∀ f ∈ fs, motive f.2)
    (fun f => motive f.2) string number boolean unknown literal array tuple object ofClass
    dictionary union ?_ ?_ ?_ ?_ ?_ ?_ t
  · intro t ht
    exact (List.not_mem_nil ht).elim
  · intro t ts ht hts
    exact List.forall_mem_cons.2 ⟨ht, hts⟩
  · intro required optional hrequired hoptional
    exact List.forall_mem_append.2 ⟨hrequired, hoptional⟩
  · intro f hf
    exact (List.not_mem_nil hf).elim
  · intro f fs hf hfs
    exact List.forall_mem_cons.2 ⟨hf, hfs⟩
  · intro key t ht
    exact ht

/-! ## Membership by lists -/

theorem includesEach_eq_all₂ (ts : List ValueType) (vs : List Value) :
    includesEach ts vs = List.all₂ includes ts vs := by
  induction ts generalizing vs with
  | nil => cases vs <;> rfl
  | cons t ts ih =>
      cases vs with
      | nil => rfl
      | cons v vs => rw [includesEach, all₂_cons, ih]

/-- Each property is read from the value on its own. -/
theorem includesFields_eq_all (fs : List (String × ValueType)) (v : Value) :
    includesFields fs v = fs.all fun f => f.2.includes (v.property f.1) := by
  induction fs with
  | nil => rfl
  | cons f fs ih => rw [includesFields, List.all_cons, ih]

theorem someIncludes_eq_any (ts : List ValueType) (v : Value) :
    someIncludes ts v = ts.any (·.includes v) := by
  induction ts with
  | nil => rfl
  | cons t ts ih => rw [someIncludes, List.any_cons, ih]

/-- A tuple type has arrays of its own length, with the right items. -/
@[simp] theorem includes_tuple (ts : List ValueType) (items : List Value) :
    (tuple ts).includes (.array items) = List.all₂ includes ts items := by
  rw [includes, includesEach_eq_all₂]

/-- For membership the two groups are one: an optional property has its type, too. -/
@[simp] theorem includes_object (o : PropertyTypes ValueType) (v : Value) :
    (object o).includes v =
      (v.hasProperties && o.fields.all fun f => f.2.includes (v.property f.1)) := by
  rw [includes, includesFields_eq_all, includesFields_eq_all, Bool.and_assoc,
    PropertyTypes.fields, List.all_append]

@[simp] theorem includes_union (ts : List ValueType) (v : Value) :
    (union ts).includes v = ts.any (·.includes v) := by
  rw [includes, someIncludes_eq_any]

/-! ## Equal types -/

theorem beq_def (s t : ValueType) : (s == t) = ValueType.beq s t := rfl

/-- Lists of types are equal when they are item by item. -/
theorem beqAll_iff {ss ts : List ValueType} :
    beqAll ss ts = true ↔ List.Forall₂ (fun s t => (s == t) = true) ss ts := by
  induction ss generalizing ts with
  | nil => cases ts <;> simp [beqAll]
  | cons s ss ih => cases ts <;> simp [beqAll, beq_def, ih]

theorem beqFields_iff {fs gs : List (String × ValueType)} :
    beqFields fs gs = true ↔
      List.Forall₂ (fun f g => f.1 = g.1 ∧ (f.2 == g.2) = true) fs gs := by
  induction fs generalizing gs with
  | nil => cases gs <;> simp [beqFields]
  | cons f fs ih => cases gs <;> simp [beqFields, beq_def, ih]

/-- Types that have the same values. -/
def SameValues (s t : ValueType) : Prop := ∀ v : Value, s.includes v = t.includes v

/-- Positions may be given other types with the same values. -/
theorem all₂_includes_congr {ss ts : List ValueType} (h : List.Forall₂ SameValues ss ts)
    (vs : List Value) : List.all₂ includes ss vs = List.all₂ includes ts vs := by
  induction h generalizing vs with
  | nil => rfl
  | cons hst _ ih =>
      cases vs with
      | nil => rfl
      | cons v vs => rw [all₂_cons, all₂_cons, hst v, ih]

/-- Members may be replaced by types with the same values. -/
theorem any_includes_congr {ss ts : List ValueType} (h : List.Forall₂ SameValues ss ts)
    (v : Value) : ss.any (·.includes v) = ts.any (·.includes v) := by
  induction h with
  | nil => rfl
  | cons hst _ ih => rw [List.any_cons, List.any_cons, hst v, ih]

/-- Properties may be given other types with the same values. -/
theorem all_fields_congr {fs gs : List (String × ValueType)}
    (h : List.Forall₂ (fun f g => f.1 = g.1 ∧ SameValues f.2 g.2) fs gs) (v : Value) :
    (fs.all fun f => f.2.includes (v.property f.1)) =
      gs.all fun g => g.2.includes (v.property g.1) := by
  induction h with
  | nil => rfl
  | cons hfg _ ih =>
      obtain ⟨hkey, hvalues⟩ := hfg
      rw [List.all_cons, List.all_cons, hkey, hvalues, ih]

/-- Turns equality of members into the statement that the induction assumes of them. -/
theorem forall₂_sameValues {ss ts : List ValueType}
    (ih : ∀ s ∈ ss, ∀ {t}, (s == t) = true → SameValues s t) (h : beqAll ss ts = true) :
    List.Forall₂ SameValues ss ts := by
  have hboth := (List.forall₂_and_left ss ts).2 ⟨ih, beqAll_iff.1 h⟩
  exact hboth.imp fun s t hst => hst.1 hst.2

/-- Equal properties have types with the same values, if this is known of the types
themselves. -/
theorem forall₂_fields_sameValues {fs gs : List (String × ValueType)}
    (ih : ∀ f ∈ fs, ∀ {t}, (f.2 == t) = true → SameValues f.2 t) (h : beqFields fs gs = true) :
    List.Forall₂ (fun f g => f.1 = g.1 ∧ SameValues f.2 g.2) fs gs := by
  have hboth := (List.forall₂_and_left fs gs).2 ⟨ih, beqFields_iff.1 h⟩
  exact hboth.imp fun f g hfg => ⟨hfg.2.1, hfg.1 hfg.2.2⟩

/-- **Equal types have the same values**, although a type that holds `nan` is not even
equal to itself. -/
theorem includes_eq_of_beq {s t : ValueType} (h : (s == t) = true) (v : Value) :
    s.includes v = t.includes v := by
  induction s using ValueType.induction generalizing t v with
  | string | number | boolean | unknown =>
      cases t <;> simp_all [beq_def, ValueType.beq]
  | literal l =>
      cases t with
      | literal m =>
          rw [includes, includes]
          exact Literal.accepts_eq_of_beq h v
      | _ => simp [beq_def, ValueType.beq] at h
  | array s ih =>
      cases t with
      | array t =>
          have hst := ih h
          cases v with
          | array items =>
              rw [includes, includes]
              exact List.all_congr rfl fun item => hst item
          | _ => rfl
      | _ => simp [beq_def, ValueType.beq] at h
  | tuple ss ih =>
      cases t with
      | tuple ts =>
          cases v with
          | array items =>
              rw [includes_tuple, includes_tuple]
              exact all₂_includes_congr (forall₂_sameValues ih h) items
          | _ => rfl
      | _ => simp [beq_def, ValueType.beq] at h
  | object o ih =>
      obtain ⟨required, optional⟩ := o
      obtain ⟨ihr, iho⟩ := List.forall_mem_append.1 ih
      cases t with
      | object o' =>
          obtain ⟨required', optional'⟩ := o'
          rw [beq_def, ValueType.beq, Bool.and_eq_true] at h
          rw [includes, includes]
          simp only [includesFields_eq_all]
          rw [all_fields_congr (forall₂_fields_sameValues ihr h.1) v,
            all_fields_congr (forall₂_fields_sameValues iho h.2) v]
      | _ => simp [beq_def, ValueType.beq] at h
  | ofClass c =>
      cases t with
      | ofClass d =>
          have hcd : c = d := by simpa [beq_def, ValueType.beq] using h
          rw [hcd]
      | _ => simp [beq_def, ValueType.beq] at h
  | dictionary k s ihk ihs =>
      cases t with
      | dictionary l t =>
          rw [beq_def, ValueType.beq, Bool.and_eq_true] at h
          have hkl := ihk h.1
          have hst := ihs h.2
          cases v with
          | object properties =>
              rw [includes, includes]
              exact List.all_congr rfl fun p => by rw [hkl, hst]
          | _ => rfl
      | _ => simp [beq_def, ValueType.beq] at h
  | union ss ih =>
      cases t with
      | union ts =>
          rw [includes_union, includes_union]
          exact any_includes_congr (forall₂_sameValues ih h) v
      | _ => simp [beq_def, ValueType.beq] at h

/-! ## Unions -/

/-- A member that is left out because an equal one is there adds nothing that equal types
share. -/
theorem any_addMember {p : ValueType → Bool}
    (hp : ∀ {s t}, (s == t) = true → p t = true → p s = true) (members : List ValueType)
    (t : ValueType) : (addMember members t).any p = (members.any p || p t) := by
  unfold addMember
  split
  case isTrue hin =>
    obtain ⟨s, hs, hst⟩ := List.any_eq_true.1 hin
    cases ht : p t with
    | false => rw [Bool.or_false]
    | true =>
        rw [Bool.or_true, List.any_eq_true]
        exact ⟨s, hs, hp hst ht⟩
  case isFalse => rw [List.any_append, List.any_cons, List.any_nil, Bool.or_false]

/-- Left-out repetitions change no answer that equal types share. -/
theorem any_foldl_addMember {p : ValueType → Bool}
    (hp : ∀ {s t}, (s == t) = true → p t = true → p s = true) (ts members : List ValueType) :
    (ts.foldl addMember members).any p = (members.any p || ts.any p) := by
  induction ts generalizing members with
  | nil => rw [List.foldl_nil, List.any_nil, Bool.or_false]
  | cons t ts ih => rw [List.foldl_cons, ih, any_addMember hp, List.any_cons, Bool.or_assoc]

/-- A union is flattened without a loss of values. -/
theorem any_alternatives (t : ValueType) (v : Value) :
    t.alternatives.any (·.includes v) = t.includes v := by
  cases t with
  | union members => rw [alternatives, includes_union]
  | _ => exact Bool.or_false _

/-- **Unions are disjunctions** of the types they are made from, however these look. -/
@[simp] theorem includes_anyOf (ts : List ValueType) (v : Value) :
    (anyOf ts).includes v = ts.any (·.includes v) := by
  unfold anyOf
  split
  case isTrue hunknown =>
    obtain ⟨t, ht, hisUnknown⟩ := List.any_eq_true.1 hunknown
    have hincludes : t.includes v = true := by
      cases t <;> simp_all [isUnknown, includes]
    rw [includes, List.any_eq_true.2 ⟨t, ht, hincludes⟩]
  case isFalse =>
    have hmembers := any_foldl_addMember (fun hst ht => (includes_eq_of_beq hst v).trans ht)
      (ts.flatMap alternatives) []
    rw [List.any_nil, Bool.false_or, List.any_flatMap] at hmembers
    simp only [any_alternatives] at hmembers
    -- A single member stands without the union around it.
    split
    case h_1 t hsingle => rw [← hmembers, hsingle, List.any_cons, List.any_nil, Bool.or_false]
    case h_2 => rw [includes_union, hmembers]

end ValueType

end Conformance
