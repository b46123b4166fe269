import Conformance.Proofs.Binary64.Integers
import Conformance.Proofs.Value.Agreement
import Conformance.Proofs.Value.Structure

/-!
# Conformance.Proofs.Value.Equality

Equal values, and how much alike they are.

Equality looks at the contents of arrays and objects, but of a host object it only looks at
its identity.  Nothing else about two copies of one host object needs to be the same, and
the classes that have been declared on them may well differ.

* `Value.beqItems_iff`, `Value.beqProperties_iff` — equality of contents, part by part.
* `Value.Indistinct` — equal values in which the host objects belong to the same classes
  place by place.  This is a bisimulation on all keys (`bisimulation_indistinct`).
-/

namespace Conformance

/-- Both objects belong to the same classes. -/
def HostObject.SameClasses (i j : HostObject) : Prop := ∀ c, i.belongsTo c = j.belongsTo c

/-- Equal numbers pass the same literals. -/
theorem Literal.accepts_number_eq {x y : Binary64} (h : (x == y) = true) (l : Literal) :
    l.accepts (.number x) = l.accepts (.number y) := by
  cases l with
  | number z =>
      have hback : (y == x) = true := by rw [Binary64.beq_comm, h]
      rw [accepts, accepts, Bool.eq_iff_iff]
      exact ⟨fun hzx => Binary64.beq_trans hzx h, fun hzy => Binary64.beq_trans hzy hback⟩
  | _ => rfl

namespace Value

/-! ## Equality part by part -/

theorem beq_def (v w : Value) : (v == w) = Value.beq v w := rfl

/-- Items are compared one by one. -/
theorem beqItems_iff {vs ws : List Value} :
    beqItems vs ws = true ↔ List.Forall₂ (fun v w => (v == w) = true) vs ws := by
  induction vs generalizing ws with
  | nil => cases ws <;> simp [beqItems]
  | cons v vs ih => cases ws <;> simp [beqItems, beq_def, ih]

/-- Contents are compared one by one, under equal keys. -/
theorem beqProperties_iff {ps qs : List (String × Value)} :
    beqProperties ps qs = true ↔
      List.Forall₂ (fun p q => p.1 = q.1 ∧ (p.2 == q.2) = true) ps qs := by
  induction ps generalizing qs with
  | nil => cases qs <;> simp [beqProperties]
  | cons p ps ih => cases qs <;> simp [beqProperties, beq_def, ih]

/-- Values of different kinds are never equal. -/
theorem kind_eq_of_beq {v w : Value} (h : (v == w) = true) : v.kind = w.kind := by
  cases v <;> cases w <;> simp_all [beq_def, Value.beq, kind]

/-- Equal values have their host objects in the same places. -/
theorem length_hosts_of_beq {v w : Value} (h : (v == w) = true) :
    v.hosts.length = w.hosts.length := by
  induction v using Value.induction generalizing w with
  | undefined | null | bool | string | host =>
      cases w <;> simp_all [beq_def, Value.beq, hosts, leaves, host?]
  | number x =>
      cases w with
      | number y => rfl
      | _ => simp [beq_def, Value.beq] at h
  | array vs ih =>
      cases w with
      | array ws =>
          have hboth := (List.forall₂_and_left vs ws).2 ⟨ih, beqItems_iff.1 h⟩
          rw [hosts_array, hosts_array]
          exact length_flatMap_eq (hboth.imp fun v w hvw => hvw.1 hvw.2)
      | _ => simp [beq_def, Value.beq] at h
  | object ps ih =>
      cases w with
      | object qs =>
          have hboth := (List.forall₂_and_left ps qs).2 ⟨ih, beqProperties_iff.1 h⟩
          rw [hosts_object, hosts_object]
          exact length_flatMap_eq (hboth.imp fun p q hpq => hpq.1 hpq.2.2)
      | _ => simp [beq_def, Value.beq] at h

/-! ## Indistinct values -/

/-- Equal values in which any two host objects in the same place belong to the same
classes. -/
structure Indistinct (v w : Value) : Prop where
  beq : (v == w) = true
  hosts : List.Forall₂ HostObject.SameClasses v.hosts w.hosts

namespace Indistinct

/-- There are no host objects in a number. -/
theorem number {x y : Binary64} (h : (x == y) = true) : Indistinct (.number x) (.number y) :=
  ⟨h, .nil⟩

theorem items {vs ws : List Value} (h : Indistinct (.array vs) (.array ws)) :
    List.Forall₂ Indistinct vs ws := by
  have hequal := beqItems_iff.1 h.beq
  have hhosts := h.hosts
  rw [hosts_array, hosts_array] at hhosts
  have hparts := forall₂_of_flatMap (hequal.imp fun v w => length_hosts_of_beq) hhosts
  exact hequal.mp (fun _ _ hvw hhosts => ⟨hvw, hhosts⟩) hparts

theorem properties {ps qs : List (String × Value)} (h : Indistinct (.object ps) (.object qs)) :
    List.Forall₂ (fun p q => p.1 = q.1 ∧ Indistinct p.2 q.2) ps qs := by
  have hequal := beqProperties_iff.1 h.beq
  have hhosts := h.hosts
  rw [hosts_object, hosts_object] at hhosts
  have hlengths : List.Forall₂
      (fun p q : String × Value => p.2.hosts.length = q.2.hosts.length) ps qs :=
    hequal.imp fun p q hpq => length_hosts_of_beq hpq.2
  have hparts := forall₂_of_flatMap hlengths hhosts
  exact hequal.mp (fun _ _ hpq hhosts => ⟨hpq.1, hpq.2, hhosts⟩) hparts

theorem accepts_eq {v w : Value} (h : Indistinct v w) (l : Literal) :
    l.accepts v = l.accepts w := by
  cases v with
  | number x =>
      cases w with
      | number y => exact Literal.accepts_number_eq h.beq l
      | _ => exact absurd (kind_eq_of_beq h.beq) (by simp [kind])
  | _ =>
      have hbeq := h.beq
      cases w <;> cases l <;> simp_all [beq_def, Value.beq, Literal.accepts]

theorem belongsTo_eq {v w : Value} (h : Indistinct v w) (c : Class) :
    v.belongsTo c = w.belongsTo c := by
  have hkind := kind_eq_of_beq h.beq
  cases v with
  | host i =>
      cases w with
      | host j =>
          have hhosts : List.Forall₂ HostObject.SameClasses [i] [j] := h.hosts
          exact (List.forall₂_cons.1 hhosts).1 c
      | _ => simp [kind] at hkind
  | _ => cases w <;> simp_all [kind, belongsTo]

end Indistinct

/-- No accessor tells indistinct values apart. -/
theorem bisimulation_indistinct : Bisimulation Set.univ Indistinct where
  kind_eq h := kind_eq_of_beq h.beq
  accepts_eq h l := h.accepts_eq l
  belongsTo_eq h c := h.belongsTo_eq c
  items h := h.items
  property {v w} h key _ := by
    have hundefined : Indistinct .undefined .undefined := ⟨rfl, .nil⟩
    have hkind := kind_eq_of_beq h.beq
    by_cases harray : v.kind = .array
    · obtain ⟨vs, rfl⟩ := kind_eq_array_iff.1 harray
      obtain ⟨ws, rfl⟩ := kind_eq_array_iff.1 (hkind ▸ harray)
      exact property_array_related h.items (fun n => .number (Binary64.ofNat_beq_self n))
        hundefined key
    · by_cases hobject : v.kind = .object
      · obtain ⟨ps, rfl⟩ := kind_eq_object_iff.1 hobject
        obtain ⟨qs, rfl⟩ := kind_eq_object_iff.1 (hkind ▸ hobject)
        have hcontents := lookup_related h.properties key
        simp only [property]
        generalize ps.lookup key = content, qs.lookup key = content' at hcontents ⊢
        cases hcontents with
        | none => exact hundefined
        | some hvw => exact hvw
      · rw [property_eq_undefined harray hobject,
          property_eq_undefined (hkind ▸ harray) (hkind ▸ hobject)]
        exact hundefined

end Value

end Conformance
