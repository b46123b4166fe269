/-!
# Conformance.Properties

Property lists in key order: the contents of object values and of JSON objects.
Keys are compared character by character, so equal contents are equal lists.

- `sorted_insert`, `sorted_ofList`: inserting keeps the keys strictly ascending.
- `lookup_insert`: an inserted property is found, and the others are as before.
- `mem_ofList`, `lookup_ofList`: a list holds the last pair of every key and nothing else.
-/

namespace Conformance.Properties

variable {α : Type}

/-- Sets a property, in place of an earlier one of the same key. -/
def insert (key : String) (a : α) : List (String × α) → List (String × α)
  | [] => [(key, a)]
  | (k, b) :: rest =>
    if key = k then (key, a) :: rest
    else if key < k then (key, a) :: (k, b) :: rest
    else (k, b) :: insert key a rest

/-- The property list of some pairs. Of two with one key the later counts. -/
def ofList (pairs : List (String × α)) : List (String × α) :=
  pairs.foldl (fun ps p => insert p.1 p.2 ps) []

/-- The keys of a property list are strictly ascending. -/
def Sorted (ps : List (String × α)) : Prop := ps.Pairwise fun p q => p.1 < q.1

theorem Sorted.nodup_keys {ps : List (String × α)} (h : Sorted ps) : (ps.map (·.1)).Nodup :=
  List.pairwise_map.2 (h.imp fun hlt => Std.ne_of_lt hlt)

/-- An inserted property is found under its key, and no other key is touched. -/
theorem lookup_insert (key k : String) (a : α) (ps : List (String × α)) :
    (insert key a ps).lookup k = if k = key then some a else ps.lookup k := by
  induction ps with
  | nil => grind [insert]
  | cons p rest ih =>
    obtain ⟨k', b⟩ := p
    grind [insert]

/-- After an insertion there is the inserted property, and what was there before. -/
theorem mem_insert {key : String} {a : α} {ps : List (String × α)} {p : String × α}
    (h : p ∈ insert key a ps) : p = (key, a) ∨ p ∈ ps := by
  induction ps with
  | nil => simpa [insert] using h
  | cons q rest ih =>
    obtain ⟨k', b⟩ := q
    grind [insert]

/-- An insertion finds the place where the order is kept. -/
theorem sorted_insert (key : String) (a : α) {ps : List (String × α)} (h : Sorted ps) :
    Sorted (insert key a ps) := by
  induction ps with
  | nil => simp [insert, Sorted]
  | cons q rest ih =>
    obtain ⟨k, b⟩ := q
    obtain ⟨hk, hrest⟩ := List.pairwise_cons.1 h
    unfold insert
    split
    case isTrue heq => subst heq; exact List.pairwise_cons.2 ⟨hk, hrest⟩
    case isFalse hne =>
      split
      case isTrue hlt =>
        refine List.pairwise_cons.2 ⟨fun p hp => ?_, h⟩
        rcases List.mem_cons.1 hp with rfl | hp
        · exact hlt
        · exact String.lt_trans hlt (hk p hp)
      case isFalse hge =>
        refine List.pairwise_cons.2 ⟨fun p hp => ?_, ih hrest⟩
        rcases mem_insert hp with rfl | hp
        · exact Std.lt_of_le_of_ne (String.not_lt.1 hge) (Ne.symm hne)
        · exact hk p hp

/-- A list is in key order, in whatever order it was filled. -/
theorem sorted_ofList (pairs : List (String × α)) : Sorted (ofList pairs) := by
  suffices h : ∀ ps : List (String × α), Sorted ps →
      Sorted (pairs.foldl (fun ps p => insert p.1 p.2 ps) ps) from h [] List.Pairwise.nil
  induction pairs with
  | nil => exact fun _ h => h
  | cons p rest ih => exact fun ps h => ih _ (sorted_insert p.1 p.2 h)

/-- What is in a list is one of the pairs it was made of. -/
theorem mem_ofList {pairs : List (String × α)} {p : String × α} (h : p ∈ ofList pairs) :
    p ∈ pairs := by
  suffices hmem : ∀ ps : List (String × α),
      p ∈ pairs.foldl (fun ps q => insert q.1 q.2 ps) ps → p ∈ pairs ∨ p ∈ ps by
    simpa using hmem [] h
  clear h
  induction pairs with
  | nil => exact fun _ h => .inr h
  | cons q rest ih =>
    intro ps h
    rcases ih _ h with hrest | hinsert
    · exact .inl (List.mem_cons_of_mem _ hrest)
    · rcases mem_insert hinsert with rfl | hps
      · exact .inl List.mem_cons_self
      · exact .inr hps

/-- Of the pairs with one key the last is found. -/
theorem lookup_ofList (pairs : List (String × α)) (key : String) :
    (ofList pairs).lookup key = pairs.reverse.lookup key := by
  suffices h : ∀ ps : List (String × α),
      (pairs.foldl (fun ps p => insert p.1 p.2 ps) ps).lookup key =
        (pairs.reverse.lookup key).or (ps.lookup key) by
    simpa [ofList] using h []
  induction pairs with
  | nil => exact fun _ => rfl
  | cons p rest ih =>
    intro ps
    have hlast : [p].lookup key = if key = p.1 then some p.2 else none :=
      lookup_insert p.1 key p.2 []
    rw [List.foldl_cons, ih, lookup_insert, List.reverse_cons, List.lookup_append,
      Option.or_assoc, hlast]
    split <;> rfl

end Conformance.Properties
