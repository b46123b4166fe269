import Conformance.Proofs.Schema.Congruence

/-!
# Conformance.Proofs.Schema.Reordering

The order in which an object schema declares its properties is the order in which
their mismatches are reported, and nothing else.

* `Schema.Reordered` — the same schema but for the order of declarations, at any depth
  and also in the schemas that derived predicates are made from.
* `Schema.SameUpToOrder` — the same failures in some order, and a type with the same
  values.  Every way to build schemas keeps this, so reordered schemas have it
  (`Reordered.sameUpToOrder`), although a union may drop another one of two members
  that only differ in order.
-/

namespace Conformance

namespace Schema

/-! ## Reordered schemas -/

/-- The second schema is the first one with the declarations of its objects in another
order, at any depth and also inside of derived predicates.  Predicates of the caller
stay as they are. -/
inductive Reordered : Schema → Schema → Prop where
  | refl (s : Schema) : Reordered s s
  | array {elements elements' : List Schema} (h : List.Forall₂ Reordered elements elements') :
      Reordered (array elements) (array elements')
  | object {fields fields' permuted : List (String × Schema)}
      (hkeys : fields.map (·.1) = fields'.map (·.1))
      (h : List.Forall₂ Reordered (fields.map (·.2)) (fields'.map (·.2)))
      (hpermuted : fields'.Perm permuted) : Reordered (object fields) (object permuted)
  | anyOf {schemas schemas' : List Schema} (h : List.Forall₂ Reordered schemas schemas') :
      Reordered (predicate (.anyOf schemas)) (predicate (.anyOf schemas'))
  | orUndefined {s s' : Schema} (h : Reordered s s') :
      Reordered (predicate (.orUndefined s)) (predicate (.orUndefined s'))
  | dictionary {key key' content content' : Schema} (hkey : Reordered key key')
      (hcontent : Reordered content content') :
      Reordered (predicate (.dictionary key content)) (predicate (.dictionary key' content'))
  | conforming {s s' : Schema} (h : Reordered s s') :
      Reordered (predicate (.conforming s)) (predicate (.conforming s'))

/-- Induction on how a schema is reordered: what holds of the parts may be assumed of all
of them at once. -/
theorem Reordered.induction {motive : Schema → Schema → Prop} (refl : ∀ s, motive s s)
    (array : ∀ {elements elements'}, List.Forall₂ motive elements elements' →
      motive (.array elements) (.array elements'))
    (object : ∀ {fields fields' permuted : List (String × Schema)},
      fields.map (·.1) = fields'.map (·.1) →
      List.Forall₂ motive (fields.map (·.2)) (fields'.map (·.2)) →
      fields'.Perm permuted → motive (.object fields) (.object permuted))
    (anyOf : ∀ {schemas schemas'}, List.Forall₂ motive schemas schemas' →
      motive (.predicate (.anyOf schemas)) (.predicate (.anyOf schemas')))
    (orUndefined : ∀ {s s'}, motive s s' →
      motive (.predicate (.orUndefined s)) (.predicate (.orUndefined s')))
    (dictionary : ∀ {key key' content content'}, motive key key' → motive content content' →
      motive (.predicate (.dictionary key content)) (.predicate (.dictionary key' content')))
    (conforming : ∀ {s s'}, motive s s' →
      motive (.predicate (.conforming s)) (.predicate (.conforming s')))
    {s s' : Schema} (h : s.Reordered s') : motive s s' :=
  @Reordered.rec (fun s s' _ => motive s s') (fun ss ss' _ => List.Forall₂ motive ss ss')
    refl (fun _ => array) (fun hkeys _ hpermuted ih => object hkeys ih hpermuted)
    (fun _ => anyOf) (fun _ => orUndefined) (fun _ _ => dictionary) (fun _ => conforming)
    .nil (fun _ _ => .cons) s s' h

/-! ## The same up to order -/

/-- Two schemas that a value fails at the same places, as often at each, and with types
that have the same values. -/
structure SameUpToOrder (s s' : Schema) : Prop where
  failures_perm : ∀ value path, (s.failures value path).Perm (s'.failures value path)
  sameType : s.SameType s'

namespace SameUpToOrder

theorem refl (s : Schema) : SameUpToOrder s s := ⟨fun _ _ => .refl _, fun _ => rfl⟩

/-- Schemas with the same failures in some order have the same values. -/
theorem accepts_eq {s s' : Schema} (h : SameUpToOrder s s') (value : Value) :
    s.accepts value = s'.accepts value := by
  rw [s.accepts_eq value "", s'.accepts_eq value "", (h.failures_perm value "").isEmpty_eq]

/-- A predicate is reported as a whole, so only its answer counts. -/
theorem predicate {p q : Predicate} (htest : ∀ value, p.test value = q.test value)
    (hclaimed : p.claimed.SameValues q.claimed) : SameUpToOrder (.predicate p) (.predicate q) where
  failures_perm value path := by rw [failures, failures, htest]
  sameType := hclaimed

/-- The order within elements makes no difference outside of them. -/
theorem array {elements elements' : List Schema}
    (h : List.Forall₂ SameUpToOrder elements elements') :
    SameUpToOrder (.array elements) (.array elements') where
  failures_perm value path := by
    cases value with
    | array items =>
        have helements : List.Forall₂ (Failures.Related (· = ·) List.Perm)
            (elements.map failures) (elements'.map failures) := by
          rw [List.forall₂_map_left_iff, List.forall₂_map_right_iff]
          refine h.imp fun e e' he value _ hvalue path => ?_
          exact hvalue ▸ he.failures_perm value path
        rw [failures_array, failures_array]
        exact PathRelation.perm.arrayFailures (fun hvw => by rw [hvw]) helements
          (List.forall₂_refl items) path
    | _ => exact .refl _
  sameType := sameType_array (h.imp fun _ _ he => he.sameType)

/-- Fields are related when their keys are the same and their schemas are related. -/
theorem forall₂_fields {R : Schema → Schema → Prop} {fields fields' : List (String × Schema)}
    (hkeys : fields.map (·.1) = fields'.map (·.1))
    (h : List.Forall₂ R (fields.map (·.2)) (fields'.map (·.2))) :
    List.Forall₂ (fun f g => f.1 = g.1 ∧ R f.2 g.2) fields fields' := by
  induction fields generalizing fields' with
  | nil =>
      cases fields' with
      | nil => exact .nil
      | cons g fields' => cases h
  | cons f fields ih =>
      cases fields' with
      | nil => cases h
      | cons g fields' =>
          obtain ⟨hkey, hkeys⟩ := List.cons.inj hkeys
          cases h with
          | cons hfg h => exact .cons ⟨hkey, hfg⟩ (ih hkeys h)

/-- Fields may change places, and may be reordered within. -/
theorem object {fields fields' permuted : List (String × Schema)}
    (hkeys : fields.map (·.1) = fields'.map (·.1))
    (h : List.Forall₂ SameUpToOrder (fields.map (·.2)) (fields'.map (·.2)))
    (hpermuted : fields'.Perm permuted) : SameUpToOrder (.object fields) (.object permuted) where
  failures_perm value path := by
    cases hvalue : value.hasProperties with
    | true =>
        rw [failures_object _ _ _ hvalue, failures_object _ _ _ hvalue]
        refine .trans ?_ (hpermuted.flatMap_right _)
        refine PathRelation.perm.flatMap ((forall₂_fields hkeys h).imp fun f g hfg => ?_)
        obtain ⟨hkey, hsame⟩ := hfg
        rw [hkey]
        exact hsame.failures_perm _ _
    | false =>
        rw [failures_object_of_no_properties _ _ _ hvalue,
          failures_object_of_no_properties _ _ _ hvalue]
  sameType value := by
    have hfields : SameType (.object fields) (.object fields') :=
      sameType_object ((forall₂_fields hkeys h).imp fun _ _ hfg => ⟨hfg.1, hfg.2.sameType⟩)
    rw [hfields value, sameType_object_of_perm hpermuted value]

/-- A union asks its members for an answer only, and that has no order. -/
theorem anyOf {schemas schemas' : List Schema}
    (h : List.Forall₂ SameUpToOrder schemas schemas') :
    SameUpToOrder (.predicate (.anyOf schemas)) (.predicate (.anyOf schemas')) := by
  refine .predicate (fun value => ?_) (fun value => ?_)
  · rw [Predicate.test_anyOf, Predicate.test_anyOf]
    exact any_eq_of_forall₂ (h.imp fun _ _ hs => hs.accepts_eq value)
  · change (ValueType.anyOf (schemas.map valueType)).includes value =
      (ValueType.anyOf (schemas'.map valueType)).includes value
    rw [ValueType.includes_anyOf, ValueType.includes_anyOf, List.any_map, List.any_map]
    exact any_eq_of_forall₂ (h.imp fun _ _ hs => hs.sameType value)

theorem orUndefined {s s' : Schema} (h : SameUpToOrder s s') :
    SameUpToOrder (.predicate (.orUndefined s)) (.predicate (.orUndefined s')) := by
  have hmembers := anyOf (List.Forall₂.cons h (.cons (refl undefined) .nil))
  exact .predicate (fun value => by rw [Predicate.test_orUndefined, Predicate.test_orUndefined,
    h.accepts_eq]) hmembers.sameType

theorem dictionary {key key' content content' : Schema} (hkey : SameUpToOrder key key')
    (hcontent : SameUpToOrder content content') :
    SameUpToOrder (.predicate (.dictionary key content))
      (.predicate (.dictionary key' content')) := by
  refine .predicate (fun value => ?_) (fun value => ?_)
  · cases value with
    | object properties =>
        rw [Predicate.test_dictionary, Predicate.test_dictionary]
        exact List.all_congr rfl fun p => by rw [hkey.accepts_eq, hcontent.accepts_eq]
    | _ => rfl
  · change (ValueType.dictionary key.valueType content.valueType).includes value =
      (ValueType.dictionary key'.valueType content'.valueType).includes value
    cases value with
    | object properties =>
        rw [ValueType.includes, ValueType.includes]
        exact List.all_congr rfl fun p => by
          rw [hkey.sameType (.string p.1), hcontent.sameType p.2]
    | _ => rfl

theorem conforming {s s' : Schema} (h : SameUpToOrder s s') :
    SameUpToOrder (.predicate (.conforming s)) (.predicate (.conforming s')) :=
  .predicate h.accepts_eq h.sameType

end SameUpToOrder

/-- Reordered schemas are the same up to order, by induction on where they differ. -/
theorem Reordered.sameUpToOrder {s s' : Schema} (h : s.Reordered s') : s.SameUpToOrder s' :=
  Reordered.induction SameUpToOrder.refl SameUpToOrder.array SameUpToOrder.object
    SameUpToOrder.anyOf SameUpToOrder.orUndefined SameUpToOrder.dictionary
    SameUpToOrder.conforming h

end Schema

/-! ## Reordered mismatches -/

namespace Matcher

/-- **Declaration order** only decides the order of the report: a reordered schema has the
same mismatches in some order, the same number of them under every cap, and a type
with the same values. -/
theorem paths_perm_of_reordered {schema reordered : Schema} (h : schema.Reordered reordered)
    (value : Value) :
    (∀ (m : Matcher) (root : String), (m.uncapped.pathsFrom value reordered root).Perm
      (m.uncapped.pathsFrom value schema root)) ∧
    (∀ m : Matcher, m.accepts value reordered = m.accepts value schema) ∧
    (∀ (m : Matcher) (root : String), (m.pathsFrom value reordered root).length =
      (m.pathsFrom value schema root).length) ∧
    reordered.valueType.includes value = schema.valueType.includes value := by
  have hsame := h.sameUpToOrder
  refine ⟨fun m root => ?_, fun m => ?_, fun m root => ?_, (hsame.sameType value).symm⟩
  · rw [pathsFrom_eq_wanted, pathsFrom_eq_wanted]
    exact (hsame.failures_perm value root).symm
  · rw [accepts_eq m value reordered "", accepts_eq m value schema "",
      (hsame.failures_perm value "").isEmpty_eq]
  · have hlength := (hsame.failures_perm value root).length_eq
    rw [pathsFrom_eq_wanted, pathsFrom_eq_wanted, wanted, wanted]
    cases m.maxMismatches with
    | none => exact hlength.symm
    | some n => rw [List.length_take, List.length_take, hlength]

end Matcher

namespace Schema

/-- An object with objects inside of a union and of a dictionary. -/
def invoiceFields (item note : Schema) : List (String × Schema) :=
  [("id", .number), ("items", .predicate (.anyOf [item, .null])),
    ("notes", .predicate (.dictionary .string note))]

theorem keys_invoiceFields (item note item' note' : Schema) :
    (invoiceFields item note).map (·.1) = (invoiceFields item' note').map (·.1) := rfl

def invoice : Schema :=
  .object (invoiceFields (.object [("label", .string), ("price", .number)])
    (.object [("by", .string), ("text", .string)]))

/-- The declarations of `invoice` in another order at every depth. -/
def reorderedInvoice : Schema :=
  .object [
    ("notes", .predicate (.dictionary .string (.object [("text", .string), ("by", .string)]))),
    ("id", .number),
    ("items", .predicate (.anyOf [.object [("price", .number), ("label", .string)], .null]))]

/-- Two fields may change places. -/
theorem reordered_swap (f g : String × Schema) :
    (object [f, g]).Reordered (object [g, f]) :=
  .object rfl (.cons (.refl _) (.cons (.refl _) .nil)) (.swap g f [])

theorem reordered_invoice : invoice.Reordered reorderedInvoice := by
  have hitem := reordered_swap ("label", .string) ("price", .number)
  have hnote := reordered_swap ("by", .string) ("text", .string)
  have hpermuted : (invoiceFields (.object [("price", .number), ("label", .string)])
      (.object [("text", .string), ("by", .string)])).Perm _ :=
    List.perm_append_singleton ("notes", _) [("id", _), ("items", _)]
  exact .object (keys_invoiceFields _ _ _ _)
    (.cons (.refl _) (.cons (.anyOf (.cons hitem (.cons (.refl _) .nil)))
      (.cons (.dictionary (.refl _) hnote) .nil))) hpermuted

end Schema

/-- A value with mismatches of all three properties of an invoice. -/
theorem Matcher.paths_perm_of_reordered_invoice :
    Schema.invoice.Reordered Schema.reorderedInvoice ∧
      (({ root := "i" } : Matcher).uncapped.pathsFrom
          (.object [("items", .object [("label", .null)]), ("notes", .object [("a", .null)])])
          Schema.reorderedInvoice "i").Perm
        (({ root := "i" } : Matcher).uncapped.pathsFrom
          (.object [("items", .object [("label", .null)]), ("notes", .object [("a", .null)])])
          Schema.invoice "i") :=
  ⟨Schema.reordered_invoice, (paths_perm_of_reordered Schema.reordered_invoice _).1 _ "i"⟩

end Conformance
