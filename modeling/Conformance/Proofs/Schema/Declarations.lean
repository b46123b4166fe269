import Mathlib.Data.Finset.Card
import Conformance.Proofs.Lists
import Conformance.Proofs.Schema.Acceptance

/-!
# Conformance.Proofs.Schema.Declarations

Object schemas as the history of their declarations tells them.

A key that is declared for the first time goes to the end, and one that is declared again
stays where it is and gets another schema.  So of all declarations of a key the first one
decides about its place and the last one about its schema:

* `get?_ofList`, `mem_keys_ofList`, `pairwise_keys_ofList` — what is found under a key, which
  keys there are, and in which order they stand.  Each is an induction on the history, with
  the last declaration as the step.
* `latest` — of a history, the declarations that are not replaced.  Up to their order they
  are the fields of the schema (`fields_perm_latest`).
* `first_place_last_schema` — the statement for object schemas that are made at once,
  property by property, or partly in the one way and partly in the other.
-/

namespace Conformance.Declarations

/-! ## One declaration -/

/-- A declaration is found under its key, in place of an earlier one. -/
theorem lookup_declare (key : String) (schema : Schema) (fields : List (String × Schema))
    (k : String) : (declare key schema fields).lookup k =
      if k = key then some schema else fields.lookup k := by
  induction fields with
  | nil => grind [declare]
  | cons f fields ih =>
      obtain ⟨k', s⟩ := f
      grind [declare]

theorem declare_of_notMem {key : String} {schema : Schema} {fields : List (String × Schema)}
    (h : key ∉ fields.map (·.1)) : declare key schema fields = fields ++ [(key, schema)] := by
  induction fields with
  | nil => rfl
  | cons f fields ih =>
      obtain ⟨hne, hfresh⟩ := List.ne_and_not_mem_of_not_mem_cons h
      rw [declare, if_neg hne.symm, ih hfresh, List.cons_append]

theorem fields_insert (o : Declarations) (key : String) (schema : Schema) :
    (o.insert key schema).fields = declare key schema o.fields := rfl

/-- A declaration is found under its own key, and nothing else is changed. -/
theorem get?_insert (o : Declarations) (key : String) (schema : Schema) (k : String) :
    (o.insert key schema).get? k = if k = key then some schema else o.get? k :=
  lookup_declare key schema o.fields k

/-- A key that is declared again keeps its place. -/
theorem keys_insert (o : Declarations) (key : String) (schema : Schema) :
    (o.insert key schema).keys = if key ∈ o.keys then o.keys else o.keys ++ [key] :=
  keys_declare key schema o.fields

theorem mem_keys_insert {o : Declarations} {key : String} {schema : Schema} {k : String} :
    k ∈ (o.insert key schema).keys ↔ k ∈ o.keys ∨ k = key := by
  rw [keys_insert]
  split
  case isTrue hkey =>
    refine ⟨.inl, fun h => h.elim id ?_⟩
    rintro rfl
    exact hkey
  case isFalse => rw [List.mem_append, List.mem_singleton]

/-- Each key stands there once, so what stands there is what is found. -/
theorem mem_fields_iff {o : Declarations} {key : String} {schema : Schema} :
    (key, schema) ∈ o.fields ↔ o.get? key = some schema :=
  mem_iff_lookup o.nodup_keys

theorem get?_eq_none_iff {o : Declarations} {key : String} :
    o.get? key = none ↔ key ∉ o.keys :=
  lookup_eq_none_iff_notMem

/-- Each field is a key with what is found under it. -/
theorem map_fields_eq_map_keys (o : Declarations) :
    (o.fields.map fun f => (f.1, some f.2)) = o.keys.map fun key => (key, o.get? key) := by
  rw [keys, List.map_map]
  refine List.map_congr_left fun f hf => ?_
  exact congrArg (Prod.mk f.1) (mem_fields_iff.1 hf).symm

/-! ## All declarations -/

/-- The last declaration is the last step. -/
theorem ofList_concat (pairs : List (String × Schema)) (p : String × Schema) :
    ofList (pairs ++ [p]) = (ofList pairs).insert p.1 p.2 :=
  List.foldl_concat _ _ _ _

/-- Properties that are declared one by one might have been among those declared at once. -/
theorem insertAll_ofList (collected inserted : List (String × Schema)) :
    (ofList collected).insertAll inserted = ofList (collected ++ inserted) :=
  List.foldl_append.symm

/-- Declarations of different keys are the fields. -/
theorem fields_ofList {pairs : List (String × Schema)} (h : (pairs.map (·.1)).Nodup) :
    (ofList pairs).fields = pairs := by
  induction pairs using List.reverseRecOn with
  | nil => rfl
  | append_singleton pairs p ih =>
      rw [List.map_append, List.map_singleton, ← List.concat_eq_append, List.nodup_concat] at h
      obtain ⟨hfresh, hnodup⟩ := h
      rw [ofList_concat, fields_insert, ih hnodup, declare_of_notMem hfresh]

/-- **Last schema**: under a key stands what was declared last. -/
theorem get?_ofList (pairs : List (String × Schema)) (key : String) :
    (ofList pairs).get? key = pairs.reverse.lookup key := by
  induction pairs using List.reverseRecOn with
  | nil => rfl
  | append_singleton pairs p ih =>
      rw [ofList_concat, get?_insert, ih, List.reverse_concat, List.lookup_cons]
      grind

theorem mem_keys_ofList {pairs : List (String × Schema)} {key : String} :
    key ∈ (ofList pairs).keys ↔ key ∈ pairs.map (·.1) := by
  induction pairs using List.reverseRecOn with
  | nil => exact Iff.rfl
  | append_singleton pairs p ih =>
      rw [ofList_concat, mem_keys_insert, ih, List.map_append, List.mem_append, List.map_singleton,
        List.mem_singleton]

/-- The first key is the first of the two that the list names. -/
def NamedBefore (names : List String) (k l : String) : Prop := names.idxOf k < names.idxOf l

/-- **First place**: the keys stand in the order in which they were named first. -/
theorem pairwise_keys_ofList (pairs : List (String × Schema)) :
    (ofList pairs).keys.Pairwise (NamedBefore (pairs.map (·.1))) := by
  induction pairs using List.reverseRecOn with
  | nil => exact .nil
  | append_singleton pairs p ih =>
      have hnamed : (ofList pairs).keys ⊆ pairs.map (·.1) := fun _ => mem_keys_ofList.1
      rw [ofList_concat, keys_insert, List.map_append, List.map_singleton]
      split
      case isTrue => exact pairwise_idxOf_append hnamed ih [p.1]
      case isFalse hnew =>
        exact pairwise_idxOf_concat hnamed ih fun h => hnew (mem_keys_ofList.2 h)

/-- There are as many fields as there are different keys. -/
theorem length_ofList (pairs : List (String × Schema)) :
    (ofList pairs).length = (pairs.map (·.1)).toFinset.card := by
  have hkeys : (ofList pairs).keys.toFinset = (pairs.map (·.1)).toFinset :=
    List.toFinset.ext fun _ => mem_keys_ofList
  have hnodup : (ofList pairs).keys.Nodup := (ofList pairs).nodup_keys
  rw [← hkeys, List.toFinset_card_of_nodup hnodup, keys, List.length_map, length]

/-! ## Declarations that are not replaced -/

/-- The declarations that no later one of the same key replaces. -/
def latest : List (String × Schema) → List (String × Schema)
  | [] => []
  | p :: pairs => if p.1 ∈ pairs.map (·.1) then latest pairs else p :: latest pairs

/-- A pair goes if its key comes again. -/
theorem latest_cons_of_replaced {p : String × Schema} {pairs : List (String × Schema)}
    (h : p.1 ∈ pairs.map (·.1)) : latest (p :: pairs) = latest pairs := if_pos h

/-- A pair stays if its key does not come again. -/
theorem latest_cons_of_kept {p : String × Schema} {pairs : List (String × Schema)}
    (h : p.1 ∉ pairs.map (·.1)) : latest (p :: pairs) = p :: latest pairs := if_neg h

/-- Pairs are left out, and none is moved. -/
theorem latest_sublist (pairs : List (String × Schema)) : (latest pairs).Sublist pairs := by
  induction pairs with
  | nil => exact .slnil
  | cons p pairs ih =>
      by_cases h : p.1 ∈ pairs.map (·.1)
      · rw [latest_cons_of_replaced h]
        exact ih.cons p
      · rw [latest_cons_of_kept h]
        exact ih.cons_cons p

theorem nodup_keys_latest (pairs : List (String × Schema)) :
    ((latest pairs).map (·.1)).Nodup := by
  induction pairs with
  | nil => exact .nil
  | cons p pairs ih =>
      by_cases h : p.1 ∈ pairs.map (·.1)
      · rwa [latest_cons_of_replaced h]
      · rw [latest_cons_of_kept h]
        exact List.nodup_cons.2 ⟨fun hmem => h (((latest_sublist pairs).map _).subset hmem), ih⟩

/-- The pair that is left is the last one with its key. -/
theorem lookup_latest (pairs : List (String × Schema)) (key : String) :
    (latest pairs).lookup key = pairs.reverse.lookup key := by
  induction pairs with
  | nil => rfl
  | cons p pairs ih =>
      rw [List.reverse_cons, List.lookup_append]
      by_cases h : p.1 ∈ pairs.map (·.1)
      · rw [latest_cons_of_replaced h, ih]
        -- If `p` has the key, a later declaration has it as well.
        cases hlater : pairs.reverse.lookup key with
        | some s => rfl
        | none =>
            rw [lookup_eq_none_iff_notMem, List.map_reverse, List.mem_reverse] at hlater
            have hne : (key == p.1) = false := beq_eq_false_iff_ne.2 fun heq => hlater (heq ▸ h)
            rw [Option.none_or, List.lookup_cons, hne]
            rfl
      · rw [latest_cons_of_kept h, List.lookup_cons, List.lookup_cons]
        cases hkey : key == p.1 with
        | false => rw [ih, List.lookup_nil, Option.or_none]
        | true =>
            have hlater : pairs.reverse.lookup key = none := by
              rw [lookup_eq_none_iff_notMem, List.map_reverse, List.mem_reverse, eq_of_beq hkey]
              exact h
            rw [hlater, Option.none_or]

/-- Collected declarations are the latest ones, though at the places of the first. -/
theorem fields_perm_latest (pairs : List (String × Schema)) :
    (ofList pairs).fields.Perm (latest pairs) :=
  perm_of_lookup (ofList pairs).nodup_keys (nodup_keys_latest pairs) fun key =>
    (get?_ofList pairs key).trans (lookup_latest pairs key).symm

/-! ## Main statement -/

/-- The order of fields makes no difference to what conforms. -/
theorem accepts_object_of_perm {fields fields' : List (String × Schema)}
    (h : fields.Perm fields') (value : Value) :
    (Schema.object fields).accepts value = (Schema.object fields').accepts value := by
  rw [Schema.accepts_object, Schema.accepts_object, h.all_eq]

/-- **First place, last schema**: whatever is declared at once and one by one, there is
exactly one field for each key, in the order in which the keys are declared first, with the
schema that is declared last.  Values conform as if all other declarations had not been
made. -/
theorem first_place_last_schema (collected inserted : List (String × Schema)) :
    let o := (ofList collected).insertAll inserted
    let declared := collected ++ inserted
    (∀ key, key ∈ o.keys ↔ key ∈ declared.map (·.1)) ∧
    o.keys.Nodup ∧
    o.keys.Pairwise (NamedBefore (declared.map (·.1))) ∧
    (∀ key, o.get? key = declared.reverse.lookup key) ∧
    (∀ key, o.get? key = none ↔ key ∉ declared.map (·.1)) ∧
    o.length = (declared.map (·.1)).toFinset.card ∧
    (o.fields.map fun f => (f.1, some f.2)) = o.keys.map (fun key => (key, o.get? key)) ∧
    ∀ (m : Matcher) (value : Value),
      m.accepts value o.toSchema = m.accepts value (.object (latest declared)) := by
  intro o declared
  have ho : o = ofList declared := insertAll_ofList collected inserted
  rw [ho]
  refine ⟨fun _ => mem_keys_ofList, (ofList declared).nodup_keys, pairwise_keys_ofList declared,
    get?_ofList declared, fun key => ?_, length_ofList declared, map_fields_eq_map_keys _,
    fun m value => ?_⟩
  · rw [get?_eq_none_iff, mem_keys_ofList]
  · rw [Schema.accepts_matcher, Schema.accepts_matcher]
    exact accepts_object_of_perm (fields_perm_latest declared) value

end Conformance.Declarations
