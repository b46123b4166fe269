import Conformance.Proofs.Schema.Typing
import Conformance.Proofs.ValueType.Unions

/-!
# Conformance.Proofs.Schema.NormalTypes

The form of the types that schemas have.

Types are put together in two places: the derived predicates join the types of their parts
to a union, and object schemas spread the types of their fields over two groups.  Neither
leaves the normal forms, so long as no object declares a key twice.  That is so for all
objects that are built by declaring one property after the other.

* `Built P` — schemas built in this way from predicates with `P`, also inside of derived
  predicates.
* `valueType_normal` — their types are normal if the claimed ones are.
* `anyOf_stages` — unions in stages are unions at once, and `orUndefined` changes nothing
  the second time, whatever the predicates claim.
-/

namespace Conformance

/-! ## Declaring properties -/

namespace Declarations

variable {Q : Schema → Prop}

/-- A declaration brings in no other schema than its own. -/
theorem forall_declare {key : String} {schema : Schema} {fields : List (String × Schema)}
    (hschema : Q schema) (h : ∀ f ∈ fields, Q f.2) : ∀ f ∈ declare key schema fields, Q f.2 := by
  induction fields with
  | nil => exact List.forall_mem_singleton.2 hschema
  | cons f fields ih =>
      obtain ⟨hf, hfields⟩ := List.forall_mem_cons.1 h
      rw [declare]
      split
      · exact List.forall_mem_cons.2 ⟨hschema, hfields⟩
      · exact List.forall_mem_cons.2 ⟨hf, ih hfields⟩

/-- Insertions bring in no other schemas than those inserted. -/
theorem forall_insertAll {o : Declarations} {pairs : List (String × Schema)}
    (hpairs : ∀ p ∈ pairs, Q p.2) (h : ∀ f ∈ o.fields, Q f.2) :
    ∀ f ∈ (o.insertAll pairs).fields, Q f.2 := by
  induction pairs generalizing o with
  | nil => exact h
  | cons p pairs ih =>
      obtain ⟨hp, hpairs⟩ := List.forall_mem_cons.1 hpairs
      exact ih hpairs (forall_declare hp h)

/-- What holds of all schemas that are declared holds of those that are left. -/
theorem forall_ofList {pairs : List (String × Schema)} (h : ∀ p ∈ pairs, Q p.2) :
    ∀ f ∈ (ofList pairs).fields, Q f.2 :=
  forall_insertAll h fun _ hf => (List.not_mem_nil hf).elim

end Declarations

/-- The claimed type is normal. -/
def Predicate.ClaimsNormal (p : Predicate) : Prop := p.claimed.Normal

namespace Schema

open Predicate ValueType

/-! ## Schemas built property by property -/

/-- A schema built up from markers, classes, literals and predicates that have the property,
by way of arrays, of objects that declare one property after the other, and of derived
predicates, nested to any depth. -/
inductive Built (P : Predicate → Prop) : Schema → Prop where
  | string : Built P string
  | number : Built P number
  | boolean : Built P boolean
  | array (elements : List Schema) (h : ∀ e ∈ elements, Built P e) : Built P (array elements)
  | object (o : Declarations) (h : ∀ f ∈ o.fields, Built P f.2) : Built P o.toSchema
  | ofClass (c : Class) : Built P (ofClass c)
  | literal (l : Literal) : Built P (literal l)
  | predicate (p : Predicate) (h : P p) : Built P (predicate p)
  | anyOf (schemas : List Schema) (h : ∀ s ∈ schemas, Built P s) :
      Built P (predicate (.anyOf schemas))
  | orUndefined (s : Schema) (h : Built P s) : Built P (predicate (.orUndefined s))
  | dictionary (key content : Schema) (hkey : Built P key) (hcontent : Built P content) :
      Built P (predicate (.dictionary key content))
  | conforming (s : Schema) (h : Built P s) : Built P (predicate (.conforming s))
  | anything : Built P (predicate .anything)

/-- Any sequence of declarations will do, with keys repeated or not. -/
theorem Built.ofList {P : Predicate → Prop} {pairs : List (String × Schema)}
    (h : ∀ p ∈ pairs, Built P p.2) : Built P (Declarations.ofList pairs).toSchema :=
  .object _ (Declarations.forall_ofList h)

/-! ## Normal types -/

/-- Every field has a name in one of the groups. -/
theorem names_propertyTypes_perm (fields : List (String × Schema)) :
    ((propertyTypes fields).fields.map (·.1)).Perm (fields.map (·.1)) := by
  have hperm := (fields_propertyTypes_perm fields).map (·.1)
  rwa [List.map_map] at hperm

theorem forall_mem_propertyTypes {Q : ValueType → Prop} {fields : List (String × Schema)}
    (h : ∀ f ∈ fields, Q f.2.valueType) : ∀ f ∈ (propertyTypes fields).fields, Q f.2 := by
  intro f hf
  obtain ⟨g, hg, rfl⟩ := List.mem_map.1 ((fields_propertyTypes_perm fields).mem_iff.1 hf)
  exact h g hg

/-- Declared keys are distinct, so an object type is as normal as its fields. -/
theorem normal_object {o : Declarations} (h : ∀ f ∈ o.fields, f.2.valueType.Normal) :
    o.toSchema.valueType.Normal := by
  have hnames : ((propertyTypes o.fields).fields.map (·.1)).Nodup :=
    (names_propertyTypes_perm o.fields).nodup_iff.2 o.nodup_keys
  exact .intro ⟨trivial, hnames⟩ (List.forall_mem_map.2 (forall_mem_propertyTypes h))

/-- An array type is as normal as its elements. -/
theorem normal_array {elements : List Schema} (h : ∀ e ∈ elements, e.valueType.Normal) :
    (array elements).valueType.Normal := by
  match elements, h with
  | [], _ =>
      have hunknown : ValueType.unknown.Normal := .leaf ⟨trivial, trivial⟩ rfl
      exact .intro ⟨trivial, trivial⟩ (List.forall_mem_singleton.2 hunknown)
  | [e], h =>
      exact .intro ⟨trivial, trivial⟩ (List.forall_mem_singleton.2 (h e List.mem_cons_self))
  | e₁ :: e₂ :: es, h =>
      have helements : ∀ t ∈ valueTypes (e₁ :: e₂ :: es), t.Normal := by
        rw [valueTypes_eq_map]
        exact List.forall_mem_map.2 h
      exact .intro ⟨trivial, trivial⟩ helements

/-- **Normal types**: the type of a schema is normal if every predicate of the caller in it
claims a normal type, wherever it stands. -/
theorem valueType_normal {s : Schema} (hs : s.Built ClaimsNormal) : s.valueType.Normal := by
  induction hs with
  | string | number | boolean | ofClass | literal | anything => exact .leaf ⟨trivial, trivial⟩ rfl
  | array elements _ ih => exact normal_array ih
  | object o _ ih => exact normal_object ih
  | predicate p hp => exact hp
  | anyOf schemas _ ih => exact normal_anyOf (List.forall_mem_map.2 ih)
  | orUndefined s _ ih =>
      have hundefined : (ValueType.literal .undefined).Normal := .leaf ⟨trivial, trivial⟩ rfl
      exact normal_anyOf (List.forall_mem_cons.2 ⟨ih, List.forall_mem_singleton.2 hundefined⟩)
  | dictionary key content _ _ ihkey ihcontent =>
      exact .intro ⟨trivial, trivial⟩
        (List.forall_mem_cons.2 ⟨ihkey, List.forall_mem_singleton.2 ihcontent⟩)
  | conforming s _ ih => exact ih

/-- Accepts strings and numbers, and claims that it does. -/
def labels : Predicate :=
  (ofTest fun v => v.kind == .string || v.kind == .number).claiming (.union [.string, .number])

/-- An object that declares a key twice, with unions of unions in it. -/
def ticketFields : List (String × Schema) :=
  [("id", .string), ("label", .predicate (.orUndefined (.predicate labels))),
    ("id", .predicate (.anyOf [.predicate labels, .predicate (.anyOf [.number, .null])]))]

theorem claimsNormal_labels : ClaimsNormal labels := by
  have hmembers : NormalMembers [.string, .number] := by decide
  have hparts : ∀ t ∈ [ValueType.string, .number], t.Normal :=
    List.forall_mem_cons.2 ⟨.leaf ⟨trivial, trivial⟩ rfl,
      List.forall_mem_singleton.2 (.leaf ⟨trivial, trivial⟩ rfl)⟩
  exact .intro ⟨hmembers, trivial⟩ hparts

theorem built_ticketFields : ∀ f ∈ ticketFields, f.2.Built ClaimsNormal := by
  have hlabels : (predicate labels).Built ClaimsNormal := .predicate labels claimsNormal_labels
  have hcodes : (predicate (.anyOf [.number, .null])).Built ClaimsNormal :=
    .anyOf _ (List.forall_mem_cons.2 ⟨.number, List.forall_mem_singleton.2 (.literal .null)⟩)
  have hids : (predicate (.anyOf [.predicate labels, .predicate (.anyOf [.number, .null])])).Built
      ClaimsNormal :=
    .anyOf _ (List.forall_mem_cons.2 ⟨hlabels, List.forall_mem_singleton.2 hcodes⟩)
  exact List.forall_mem_cons.2 ⟨.string, List.forall_mem_cons.2
    ⟨.orUndefined _ hlabels, List.forall_mem_singleton.2 hids⟩⟩

/-- A union of a union and a repeated member, within an object with an optional field. -/
theorem valueType_normal_ticket :
    (Declarations.ofList ticketFields).toSchema.Built ClaimsNormal ∧
      (Declarations.ofList ticketFields).toSchema.valueType.Normal ∧
      (Declarations.ofList ticketFields).toSchema.valueType =
        .object ⟨[("id", .union [.string, .number, .literal .null])],
          [("label", .union [.string, .number, .literal .undefined])]⟩ := by
  have hbuilt : (Declarations.ofList ticketFields).toSchema.Built ClaimsNormal :=
    .ofList built_ticketFields
  exact ⟨hbuilt, valueType_normal hbuilt, rfl⟩

/-! ## Unions in stages -/

/-- **Stages**: a union may be built from unions of parts of its types, if these are normal
as far as unions go.  Joining a schema with `undefined` twice is the same as joining it once,
whatever its type looks like. -/
theorem anyOf_stages :
    (∀ groups : List (List ValueType),
      (∀ types ∈ groups, ∀ t ∈ types, t.Throughout NormalUnion) →
        ValueType.anyOf (groups.map ValueType.anyOf) = ValueType.anyOf groups.flatten) ∧
    (∀ s : Schema,
      (orUndefined (.predicate (orUndefined s))).claimed = (orUndefined s).claimed ∧
      ∀ value : Value, (predicate (orUndefined (.predicate (orUndefined s)))).accepts value =
        (predicate (orUndefined s)).accepts value) := by
  refine ⟨fun groups h => ?_, fun s => ⟨?_, fun value => ?_⟩⟩
  · exact anyOf_map_anyOf fun types htypes t ht => (h types htypes t ht).here
  · exact anyOf_anyOf_undefined s.valueType
  · simp only [accepts_predicate, test_orUndefined, Bool.or_assoc, Bool.or_self]

/-- The parts of a union: of different lengths, with a member twice, and one of them empty. -/
def stagedTypes : List (List ValueType) :=
  [[.string, .union [.number, .literal (.number .nan)]], [], [.literal (.number .nan), .number]]

theorem throughout_stagedTypes :
    ∀ types ∈ stagedTypes, ∀ t ∈ types, t.Throughout NormalUnion := by
  have hnan : (ValueType.literal (.number .nan)).Throughout NormalUnion := .leaf trivial rfl
  have hnumber : ValueType.number.Throughout NormalUnion := .leaf trivial rfl
  have hmembers : NormalMembers [.number, .literal (.number .nan)] := by decide
  have hunion : (ValueType.union [.number, .literal (.number .nan)]).Throughout NormalUnion :=
    .intro hmembers (List.forall_mem_cons.2 ⟨hnumber, List.forall_mem_singleton.2 hnan⟩)
  refine List.forall_mem_cons.2 ⟨?_, List.forall_mem_cons.2 ⟨?_, List.forall_mem_singleton.2 ?_⟩⟩
  · exact List.forall_mem_cons.2 ⟨.leaf trivial rfl, List.forall_mem_singleton.2 hunion⟩
  · exact fun _ ht => (List.not_mem_nil ht).elim
  · exact List.forall_mem_cons.2 ⟨hnan, List.forall_mem_singleton.2 hnumber⟩

/-- The literal `nan` stays twice, as it differs from itself. -/
theorem anyOf_stages_nan :
    (∀ types ∈ stagedTypes, ∀ t ∈ types, t.Throughout NormalUnion) ∧
      ValueType.anyOf (stagedTypes.map ValueType.anyOf) = ValueType.anyOf stagedTypes.flatten ∧
      ValueType.anyOf stagedTypes.flatten =
        .union [.string, .number, .literal (.number .nan), .literal (.number .nan)] :=
  ⟨throughout_stagedTypes, anyOf_stages.1 stagedTypes throughout_stagedTypes, rfl⟩

end Schema

end Conformance
