import Mathlib.Data.List.Forall2
import Mathlib.Data.List.Nodup

/-!
# Conformance.Proofs.Lists

Lists that are related item by item, lists of pairs as tables from keys to contents, lists
with the indices of their items, and lists in the order in which a history names the items.
-/

namespace Conformance

/-! ## Related lists -/

theorem forall₂_getElem? {α β : Type} {R : α → β → Prop} {as : List α} {bs : List β}
    (h : List.Forall₂ R as bs) (i : Nat) : Option.Rel R as[i]? bs[i]? := by
  induction h generalizing i with
  | nil => exact .none
  | cons hab _ ih =>
      cases i with
      | zero => exact .some hab
      | succ i => exact ih i

/-- Related items also stand at the same index. -/
theorem forall₂_zipIdx {α β : Type} {R : α → β → Prop} {as : List α} {bs : List β}
    (h : List.Forall₂ R as bs) (n : Nat) :
    List.Forall₂ (fun a b => R a.1 b.1 ∧ a.2 = b.2) (as.zipIdx n) (bs.zipIdx n) := by
  induction h generalizing n with
  | nil => exact .nil
  | cons hab _ ih => exact .cons ⟨hab, rfl⟩ (ih (n + 1))

/-- If every item has a partner, the list has a partner list. -/
theorem exists_forall₂ {α β : Type} {R : α → β → Prop} {as : List α}
    (h : ∀ a ∈ as, ∃ b, R a b) : ∃ bs, List.Forall₂ R as bs := by
  induction as with
  | nil => exact ⟨[], .nil⟩
  | cons a as ih =>
      obtain ⟨⟨b, hab⟩, has⟩ := List.forall_mem_cons.1 h
      obtain ⟨bs, hbs⟩ := ih has
      exact ⟨b :: bs, .cons hab hbs⟩

/-- Related lists are related the other way round if the items of the first one allow it. -/
theorem forall₂_symm_of_mem {α : Type} {R : α → α → Prop} {as bs : List α}
    (hR : ∀ a ∈ as, ∀ b, R a b → R b a) (h : List.Forall₂ R as bs) : List.Forall₂ R bs as := by
  have hboth := (List.forall₂_and_left as bs).2 ⟨hR, h⟩
  exact List.Forall₂.flip (hboth.imp fun a b hab => hab.1 b hab.2)

/-- Relations item by item can be chained where this is so for the items of the first
list. -/
theorem forall₂_trans_of_mem {α : Type} {R : α → α → Prop} {as bs cs : List α}
    (hR : ∀ a ∈ as, ∀ b c, R a b → R b c → R a c) (hab : List.Forall₂ R as bs)
    (hbc : List.Forall₂ R bs cs) : List.Forall₂ R as cs := by
  induction hab generalizing cs with
  | nil => exact hbc
  | cons hab _ ih =>
      obtain ⟨hhead, htail⟩ := List.forall_mem_cons.1 hR
      cases hbc with
      | cons hbc hcs => exact .cons (hhead _ _ hab hbc) (ih htail hcs)

theorem any_eq_of_forall₂ {α β : Type} {f : α → Bool} {g : β → Bool} {as : List α}
    {bs : List β} (h : List.Forall₂ (fun a b => f a = g b) as bs) : as.any f = bs.any g := by
  induction h with
  | nil => rfl
  | cons hab _ ih => rw [List.any_cons, List.any_cons, hab, ih]

/-- What is put together from related parts is related. -/
theorem forall₂_flatMap {α β : Type} {R : β → β → Prop} {f g : α → List β} {l : List α}
    (h : ∀ a ∈ l, List.Forall₂ R (f a) (g a)) :
    List.Forall₂ R (l.flatMap f) (l.flatMap g) := by
  induction l with
  | nil => exact .nil
  | cons a l ih =>
      obtain ⟨ha, hl⟩ := List.forall_mem_cons.1 h
      exact List.rel_append ha (ih hl)

theorem length_flatMap_eq {α β γ : Type} {f : α → List γ} {g : β → List γ} {as : List α}
    {bs : List β} (h : List.Forall₂ (fun a b => (f a).length = (g b).length) as bs) :
    (as.flatMap f).length = (bs.flatMap g).length := by
  induction h with
  | nil => rfl
  | cons hab _ ih =>
      rw [List.flatMap_cons, List.flatMap_cons, List.length_append, List.length_append, hab, ih]

/-- Related lists that are put together from parts of the same lengths have related
parts. -/
theorem forall₂_of_flatMap {α β γ : Type} {R : γ → γ → Prop} {f : α → List γ}
    {g : β → List γ} {as : List α} {bs : List β}
    (hlengths : List.Forall₂ (fun a b => (f a).length = (g b).length) as bs)
    (h : List.Forall₂ R (as.flatMap f) (bs.flatMap g)) :
    List.Forall₂ (fun a b => List.Forall₂ R (f a) (g b)) as bs := by
  induction hlengths with
  | nil => exact .nil
  | cons hab _ ih =>
      rw [List.flatMap_cons, List.flatMap_cons] at h
      have hfront := List.forall₂_take_append _ _ _ h
      have hback := List.forall₂_drop_append _ _ _ h
      rw [← hab, List.take_left] at hfront
      rw [← hab, List.drop_left] at hback
      exact .cons hfront (ih hback)

/-! ## Tables -/

/-- Tables with the same keys and related contents yield related contents. -/
theorem lookup_related {α β : Type} {R : α → β → Prop} {ps : List (String × α)}
    {qs : List (String × β)} (h : List.Forall₂ (fun p q => p.1 = q.1 ∧ R p.2 q.2) ps qs)
    (key : String) : Option.Rel R (ps.lookup key) (qs.lookup key) := by
  induction h with
  | nil => exact .none
  | @cons p q ps qs hpq _ ih =>
      obtain ⟨hkeys, hcontents⟩ := hpq
      rw [List.lookup_cons, List.lookup_cons, hkeys]
      cases key == q.1 with
      | true => exact .some hcontents
      | false => exact ih

theorem mem_of_lookup {α : Type} {ps : List (String × α)} {key : String} {a : α}
    (h : ps.lookup key = some a) : (key, a) ∈ ps := by
  obtain ⟨front, back, rfl, -⟩ := List.lookup_eq_some_iff.1 h
  exact List.mem_append_right front List.mem_cons_self

/-- Lists with the same keys, all of them distinct, are related if the contents found
under each key are. -/
theorem forall₂_of_lookup {α β : Type} {R : α → β → Prop} {ps : List (String × α)}
    {qs : List (String × β)} (hkeys : List.Forall₂ (fun p q => p.1 = q.1) ps qs)
    (hnodup : (ps.map (·.1)).Nodup)
    (h : ∀ key a b, ps.lookup key = some a → qs.lookup key = some b → R a b) :
    List.Forall₂ (fun p q => R p.2 q.2) ps qs := by
  induction hkeys with
  | nil => exact .nil
  | @cons p q ps qs hpq _ ih =>
      obtain ⟨hfresh, hnodup⟩ := List.nodup_cons.1 hnodup
      have hhead : List.lookup p.1 (q :: qs) = some q.2 := hpq ▸ List.lookup_cons_self
      refine .cons (h p.1 p.2 q.2 List.lookup_cons_self hhead) (ih hnodup ?_)
      intro key a b ha hb
      -- A key with contents further on is not the first one.
      have hne : key ≠ p.1 := by
        rintro rfl
        exact hfresh (List.mem_map.2 ⟨_, mem_of_lookup ha, rfl⟩)
      have hkey : (key == p.1) = false := beq_eq_false_iff_ne.2 hne
      refine h key a b ?_ ?_
      · rw [List.lookup_cons, hkey, ha]
      · rw [List.lookup_cons, ← hpq, hkey, hb]

/-- Nothing is found exactly under the keys that do not occur. -/
theorem lookup_eq_none_iff_notMem {α : Type} {ps : List (String × α)} {key : String} :
    ps.lookup key = none ↔ key ∉ ps.map (·.1) := by
  rw [List.lookup_eq_none_iff, List.mem_map]
  grind

/-- Where all keys are distinct, what stands under a key is what is found there. -/
theorem mem_iff_lookup {α : Type} {ps : List (String × α)} (hnodup : (ps.map (·.1)).Nodup)
    {key : String} {a : α} : (key, a) ∈ ps ↔ ps.lookup key = some a := by
  refine ⟨fun h => ?_, mem_of_lookup⟩
  cases hfound : ps.lookup key with
  | none => exact absurd (List.mem_map_of_mem h) (lookup_eq_none_iff_notMem.1 hfound)
  | some b =>
      have hsame := List.inj_on_of_nodup_map hnodup (mem_of_lookup hfound) h rfl
      rw [(Prod.mk.inj hsame).2]

/-- With distinct keys the order of a table makes no difference to what is found. -/
theorem lookup_eq_of_perm {α : Type} {ps qs : List (String × α)}
    (hnodup : (ps.map (·.1)).Nodup) (h : ps.Perm qs) (key : String) :
    ps.lookup key = qs.lookup key := by
  have hnodup' : (qs.map (·.1)).Nodup := (h.map (·.1)).nodup_iff.1 hnodup
  refine Option.ext fun a => ?_
  rw [← mem_iff_lookup hnodup, ← mem_iff_lookup hnodup', h.mem_iff]

/-- Tables of distinct keys in which the same is found differ in their order only. -/
theorem perm_of_lookup {α : Type} {ps qs : List (String × α)} (hps : (ps.map (·.1)).Nodup)
    (hqs : (qs.map (·.1)).Nodup) (h : ∀ key, ps.lookup key = qs.lookup key) : ps.Perm qs := by
  refine (List.perm_ext_iff_of_nodup hps.of_map hqs.of_map).2 fun p => ?_
  rw [mem_iff_lookup hps, mem_iff_lookup hqs, h]

theorem lookup_map {α β : Type} (f : α → β) (ps : List (String × α)) (key : String) :
    (ps.map fun p => (p.1, f p.2)).lookup key = (ps.lookup key).map f := by
  induction ps with
  | nil => rfl
  | cons p ps ih =>
      rw [List.map_cons, List.lookup_cons, List.lookup_cons, ih]
      cases key == p.1 <;> rfl

/-! ## Lists with their indices -/

theorem map_fst_zipIdx {α β : Type} (f : α → β) (as : List α) (n : Nat) :
    (as.zipIdx n).map (fun a => f a.1) = as.map f := by
  rw [← List.zipIdx_map_fst n as, List.map_map, List.zipIdx_map_fst]
  rfl

theorem flatMap_fst_zipIdx {α β : Type} (f : α → List β) (as : List α) (n : Nat) :
    (as.zipIdx n).flatMap (fun a => f a.1) = as.flatMap f := by
  rw [← List.zipIdx_map_fst n as, List.flatMap_map, List.zipIdx_map_fst]

/-! ## Order of first mention -/

section FirstMention

variable {α : Type} [BEq α] [LawfulBEq α] {names l : List α}

/-- Without repetitions, a list is in the order of its own first mentions. -/
theorem pairwise_idxOf_self (h : l.Nodup) : l.Pairwise fun a b => l.idxOf a < l.idxOf b := by
  refine List.pairwise_iff_getElem.2 fun i j hi hj hij => ?_
  rwa [h.idxOf_getElem i hi, h.idxOf_getElem j hj]

/-- More names make no difference to the order of those that are there. -/
theorem pairwise_idxOf_append (hl : l ⊆ names)
    (h : l.Pairwise fun a b => names.idxOf a < names.idxOf b) (more : List α) :
    l.Pairwise fun a b => (names ++ more).idxOf a < (names ++ more).idxOf b := by
  refine h.imp_of_mem fun ha hb hab => ?_
  rwa [List.idxOf_append_of_mem (hl ha), List.idxOf_append_of_mem (hl hb)]

/-- What is named for the first time goes to the end. -/
theorem pairwise_idxOf_concat (hl : l ⊆ names)
    (h : l.Pairwise fun a b => names.idxOf a < names.idxOf b) {name : α} (hname : name ∉ names) :
    (l ++ [name]).Pairwise fun a b => (names ++ [name]).idxOf a < (names ++ [name]).idxOf b := by
  refine List.pairwise_append.2
    ⟨pairwise_idxOf_append hl h [name], List.pairwise_singleton _ _, fun a ha b hb => ?_⟩
  obtain rfl := List.mem_singleton.1 hb
  rw [List.idxOf_append_of_mem (hl ha), List.idxOf_append_of_notMem hname]
  exact Nat.lt_add_right _ (List.idxOf_lt_length_of_mem (hl ha))

end FirstMention

end Conformance
