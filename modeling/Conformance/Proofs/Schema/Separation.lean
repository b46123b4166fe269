import Mathlib.Data.List.Sigma
import Conformance.Proofs.Schema.Observation

/-!
# Conformance.Proofs.Schema.Separation

No two paths of mismatches name the same place, and none names a place inside of another
one.

A path is a text, so this is a matter of reading it: a step starts with a separator, a
dot or a bracket, and where no key holds one, the next separator is where the next step
starts.  Then the paths of two parts of a value lead to different places however they
go on (`StepFrom.not_within`).

* `Within` — a path is another one, or goes on behind it with a separator.
* `Separate path paths` — all of the paths are within the first one, and no two of
  them are within each other.  The failures of an array or of an object are put
  together from those of its parts, which keeps this (`Separate.flatMap`).
* `Matcher.paths_separate` — the statement for the paths of a matcher.
-/

namespace Conformance

/-! ## Paths within paths -/

/-- Whether a step may start with the character. -/
def isSeparator (c : Char) : Bool := c == '.' || c == '['

/-- What may stand behind the path of a place in that of a place within it: nothing, or
text that starts with a separator. -/
def LeadsOn (rest : List Char) : Prop := ∀ c ∈ rest.head?, isSeparator c = true

theorem LeadsOn.append {rest rest' : List Char} (h : LeadsOn rest) (h' : LeadsOn rest') :
    LeadsOn (rest ++ rest') := by
  cases rest with
  | nil => exact h'
  | cons c rest => exact h

/-- The second path is the first one or that of a place inside. -/
def Within (outer inner : String) : Prop :=
  ∃ rest, inner.toList = outer.toList ++ rest ∧ LeadsOn rest

theorem Within.refl (path : String) : Within path path := ⟨[], by simp, by simp [LeadsOn]⟩

theorem Within.trans {p q r : String} (hpq : Within p q) (hqr : Within q r) : Within p r := by
  obtain ⟨rest, hq, hrest⟩ := hpq
  obtain ⟨rest', hr, hrest'⟩ := hqr
  exact ⟨rest ++ rest', by rw [hr, hq, List.append_assoc], hrest.append hrest'⟩

/-- Whatever stands behind a separator is inside. -/
theorem within_append {separator : Char} (h : isSeparator separator = true)
    (path text : String) : Within path (path ++ String.singleton separator ++ text) := by
  refine ⟨separator :: text.toList, by simp, fun c hc => ?_⟩
  obtain rfl : separator = c := by simpa using hc
  exact h

/-! ## Steps -/

/-- The path of a part: one more step, with a name that holds no separator. -/
def StepFrom (whole part : String) : Prop :=
  ∃ separator name, isSeparator separator = true ∧ (∀ c ∈ name, isSeparator c = false) ∧
    part.toList = whole.toList ++ separator :: name

/-- A part is inside of the whole. -/
theorem StepFrom.within {whole part : String} (h : StepFrom whole part) : Within whole part := by
  obtain ⟨separator, name, hseparator, -, hpart⟩ := h
  refine ⟨separator :: name, hpart, fun c hc => ?_⟩
  obtain rfl : separator = c := by simpa using hc
  exact hseparator

/-- A name ends where the next separator is. -/
theorem name_eq_of_append_eq {name name' rest rest' : List Char}
    (hname : ∀ c ∈ name, isSeparator c = false) (hname' : ∀ c ∈ name', isSeparator c = false)
    (hrest : LeadsOn rest) (hrest' : LeadsOn rest') (h : name ++ rest = name' ++ rest') :
    name = name' := by
  induction name generalizing name' with
  | nil =>
      cases name' with
      | nil => rfl
      | cons c name' =>
          have hseparator := hrest c (by simp [show rest = c :: (name' ++ rest') from h])
          exact absurd hseparator (Bool.eq_false_iff.1 (hname' c List.mem_cons_self))
  | cons c name ih =>
      obtain ⟨hc, hname⟩ := List.forall_mem_cons.1 hname
      cases name' with
      | nil =>
          have hseparator := hrest' c (by simp [show rest' = c :: (name ++ rest) from h.symm])
          exact absurd hseparator (Bool.eq_false_iff.1 hc)
      | cons c' name' =>
          obtain ⟨rfl, htexts⟩ := List.cons.inj h
          rw [ih hname (List.forall_mem_cons.1 hname').2 htexts]

/-- **Steps**: a place within one part is not within another part. -/
theorem StepFrom.not_within {whole part part' p q : String} (hpart : StepFrom whole part)
    (hpart' : StepFrom whole part') (hne : part ≠ part') (hp : Within part p)
    (hq : Within part' q) : ¬Within p q := by
  obtain ⟨separator, name, -, hname, hpart⟩ := hpart
  obtain ⟨separator', name', -, hname', hpart'⟩ := hpart'
  obtain ⟨rest, hp, hrest⟩ := hp
  obtain ⟨rest', hq, hrest'⟩ := hq
  rintro ⟨rest'', hpq, hrest''⟩
  -- The path of the inner place is read along either part.
  have hread : whole.toList ++ (separator' :: (name' ++ rest')) =
      whole.toList ++ (separator :: (name ++ (rest ++ rest''))) := by
    rw [hq, hp, hpart, hpart'] at hpq
    simpa using hpq
  obtain ⟨rfl, htexts⟩ := List.cons.inj (List.append_cancel_left hread)
  obtain rfl := name_eq_of_append_eq hname' hname hrest' (hrest.append hrest'') htexts
  exact hne (String.toList_inj.1 (hpart.trans hpart'.symm))

/-- Neither path is within the other one. -/
def Apart (p q : String) : Prop := ¬Within p q ∧ ¬Within q p

instance : Std.Symm Apart := ⟨fun _ _ => And.symm⟩

theorem isSeparator_eq_false_iff {c : Char} : isSeparator c = false ↔ c ≠ '.' ∧ c ≠ '[' := by
  simp [isSeparator]

/-- An index holds no separators. -/
theorem isSeparator_of_isDigit {c : Char} (h : c.isDigit = true) : isSeparator c = false := by
  refine isSeparator_eq_false_iff.2 ⟨?_, ?_⟩ <;> rintro rfl <;> contradiction

/-- An index is one step. -/
theorem stepFrom_itemPath (path : String) (index : Nat) :
    StepFrom path (itemPath path index) := by
  refine ⟨'[', Nat.toDigits 10 index ++ [']'], rfl, fun c hc => ?_, ?_⟩
  · rcases List.mem_append.1 hc with hdigit | hbracket
    · exact isSeparator_of_isDigit (Nat.isDigit_of_mem_toDigits (by decide) (by decide) hdigit)
    · obtain rfl := List.mem_singleton.1 hbracket
      rfl
  · simp [itemPath]

/-- Different indices have different paths. -/
theorem itemPath_injective (path : String) : Function.Injective (itemPath path) := by
  intro i j h
  have hdigits : Nat.toDigits 10 i = Nat.toDigits 10 j := by
    simpa [itemPath] using congrArg String.toList h
  rw [← @Nat.ofDigitChars_ten_toDigits i, hdigits, Nat.ofDigitChars_ten_toDigits]

/-- A key without separators is one step. -/
theorem stepFrom_propertyPath (path : String) {key : String}
    (h : '.' ∉ key.toList ∧ '[' ∉ key.toList) : StepFrom path (propertyPath path key) := by
  refine ⟨'.', key.toList, rfl, fun c hc => ?_, by simp [propertyPath]⟩
  exact isSeparator_eq_false_iff.2
    ⟨fun hdot => h.1 (hdot ▸ hc), fun hbracket => h.2 (hbracket ▸ hc)⟩

/-- Different keys have different paths. -/
theorem propertyPath_injective (path : String) : Function.Injective (propertyPath path) := by
  intro key key' h
  have htexts := congrArg String.toList h
  simp only [propertyPath, String.toList_append] at htexts
  exact String.toList_inj.1 (List.append_cancel_left htexts)

/-! ## Separate paths -/

/-- All of the paths are within the first one, and no two of them within each other. -/
structure Separate (path : String) (paths : List String) : Prop where
  within : ∀ p ∈ paths, Within path p
  pairwise : paths.Pairwise Apart

/-- Failures whose paths are separate, whatever the value and wherever it is. -/
def Failures.Separate (failures : Failures) : Prop :=
  ∀ value path, Conformance.Separate path (failures value path)

namespace Separate

theorem nil (path : String) : Separate path [] := ⟨by simp, .nil⟩

theorem singleton (path : String) : Separate path [path] :=
  ⟨List.forall_mem_singleton.2 (.refl path), List.pairwise_singleton _ _⟩

theorem failureUnless (passes : Bool) (path : String) :
    Separate path (failureUnless passes path) := by
  cases passes
  · exact singleton path
  · exact nil path

/-- **Parts**: separate paths in different parts are separate paths of the whole. -/
theorem flatMap {α : Type} {path : String} {l : List α} {part : α → String}
    {paths : α → List String} (hsteps : ∀ a ∈ l, StepFrom path (part a))
    (hparts : l.Pairwise fun a b => part a ≠ part b)
    (h : ∀ a ∈ l, Separate (part a) (paths a)) : Separate path (l.flatMap paths) where
  within p hp := by
    obtain ⟨a, ha, hp⟩ := List.mem_flatMap.1 hp
    exact (hsteps a ha).within.trans ((h a ha).within p hp)
  pairwise := by
    refine List.pairwise_flatMap.2 ⟨fun a ha => (h a ha).pairwise, hparts.imp_of_mem ?_⟩
    intro a b ha hb hne p hp q hq
    have hp := (h a ha).within p hp
    have hq := (h b hb).within q hq
    exact ⟨(hsteps a ha).not_within (hsteps b hb) hne hp hq,
      (hsteps b hb).not_within (hsteps a ha) hne.symm hq hp⟩

/-- Items are apart from each other, so separate paths within each are separate together. -/
theorem items {path : String} {items : List Value} {paths : Value × Nat → List String}
    (h : ∀ item, Separate (itemPath path item.2) (paths item)) :
    Separate path (items.zipIdx.flatMap paths) := by
  refine flatMap (fun item _ => stepFrom_itemPath path item.2) ?_ (fun item _ => h item)
  exact (List.pairwise_map.1 (List.nodup_zipIdx_map_snd items)).imp fun hindex hpaths =>
    hindex (itemPath_injective path hpaths)

/-- The path of the tuple itself appears only where none of its items does. -/
theorem tupleFailures {elements : List Failures} (h : ∀ e ∈ elements, e.Separate)
    (items : List Value) (path : String) : Separate path (tupleFailures elements items path) := by
  have hinner : Separate path (items.zipIdx.flatMap (positionFailures elements path)) := by
    refine Separate.items fun item => ?_
    unfold positionFailures
    cases helement : elements[item.2]? with
    | none => exact failureUnless _ _
    | some e => exact h e (List.mem_of_getElem? helement) _ _
  -- The path of the tuple itself comes up only where there is no other one.
  simp only [Conformance.tupleFailures]
  split
  · exact failureUnless _ path
  · exact hinner

/-- The rules of arrays keep paths separate. -/
theorem arrayFailures {elements : List Failures} (h : ∀ e ∈ elements, e.Separate)
    (items : List Value) (path : String) : Separate path (arrayFailures elements items path) := by
  match elements, h with
  | [], _ => exact nil path
  | [e], h => exact Separate.items fun item => h e List.mem_cons_self _ _
  | _ :: _ :: _, h => exact tupleFailures h items path

/-- No path is apart from itself, so separate paths are all different. -/
theorem nodup {path : String} {paths : List String} (h : Separate path paths) :
    paths.Nodup := by
  refine h.pairwise.imp fun {p q} hpq => ?_
  rintro rfl
  exact hpq.1 (.refl p)

/-- Whatever follows a separator behind one of the paths does not make another one. -/
theorem append_notMem {path : String} {paths : List String} (h : Separate path paths)
    {outer : String} (houter : outer ∈ paths) (separator : Char)
    (hseparator : isSeparator separator = true) (text : String) :
    outer ++ String.singleton separator ++ text ∉ paths := by
  intro hinner
  have hlonger : outer ≠ outer ++ String.singleton separator ++ text := by
    intro heq
    have hlengths := congrArg String.length heq
    simp only [String.length_append, String.length_singleton] at hlengths
    omega
  have hapart := h.pairwise.forall houter hinner hlonger
  exact hapart.1 (within_append hseparator outer text)

end Separate

/-! ## Separate failures -/

namespace Schema

/-- **Separation**: where keys hold no separators and objects declare no key twice, the
failures of a value are at separate paths. -/
theorem separate_failures {s : Schema}
    (hkeys : s.EveryKey fun key => '.' ∉ key.toList ∧ '[' ∉ key.toList)
    (hdistinct : s.DistinctKeys) : Failures.Separate s.failures := by
  intro value path
  induction hkeys generalizing value path with
  | string | number | boolean | ofClass | predicate | literal => exact .failureUnless _ path
  | array elements _ ih =>
      cases hdistinct with
      | array _ hdistinct =>
          cases value with
          | array items =>
              rw [failures_array]
              refine .arrayFailures (List.forall_mem_map.2 fun e he => ?_) items path
              exact ih e he (hdistinct e he)
          | _ => exact .singleton path
  | object fields hnames _ ih =>
      cases hdistinct with
      | object _ hnodup hdistinct =>
          cases hvalue : value.hasProperties with
          | true =>
              rw [failures_object _ _ _ hvalue]
              refine .flatMap (fun f hf => stepFrom_propertyPath path (hnames f hf)) ?_
                (fun f hf => ih f hf (hdistinct f hf) _ _)
              exact (List.pairwise_map.1 hnodup).imp fun hkey hpaths =>
                hkey (propertyPath_injective path hpaths)
          | false =>
              rw [failures_object_of_no_properties _ _ _ hvalue]
              exact .singleton path

end Schema

/-! ## Separate mismatches -/

namespace Schema

/-- Keys that are empty or begin like others, with parts of every kind behind them. -/
def parcel : Declarations :=
  .ofList [("", .number), ("a", .array [.string, .arrayOf .number]),
    ("ab", .object [("a", .boolean)])]

theorem distinctKeys_parcel : parcel.toSchema.DistinctKeys := by
  have hpair : (array [.string, .arrayOf .number]).DistinctKeys :=
    .array _ (List.forall_mem_cons.2 ⟨.string, List.forall_mem_singleton.2
      (.array _ (List.forall_mem_singleton.2 .number))⟩)
  have hinner : (object [("a", .boolean)]).DistinctKeys :=
    .object _ (by simp) (List.forall_mem_singleton.2 .boolean)
  exact distinctKeys_toSchema parcel (List.forall_mem_cons.2
    ⟨.number, List.forall_mem_cons.2 ⟨hpair, List.forall_mem_singleton.2 hinner⟩⟩)

theorem everyKey_parcel :
    parcel.toSchema.EveryKey fun key => '.' ∉ key.toList ∧ '[' ∉ key.toList := by
  have hpair : (array [.string, .arrayOf .number]).EveryKey
      fun key => '.' ∉ key.toList ∧ '[' ∉ key.toList :=
    .array _ (List.forall_mem_cons.2 ⟨.string, List.forall_mem_singleton.2
      (.array _ (List.forall_mem_singleton.2 .number))⟩)
  have hinner : (object [("a", .boolean)]).EveryKey
      fun key => '.' ∉ key.toList ∧ '[' ∉ key.toList :=
    .object _ (by decide) (List.forall_mem_singleton.2 .boolean)
  exact .object parcel.fields (by decide) (List.forall_mem_cons.2
    ⟨.number, List.forall_mem_cons.2 ⟨hpair, List.forall_mem_singleton.2 hinner⟩⟩)

end Schema

namespace Matcher

/-- A front of separate paths is separate. -/
theorem separate_wanted {path : String} {paths : List String} (h : Separate path paths)
    (m : Matcher) : Separate path (m.wanted paths) := by
  unfold wanted
  cases m.maxMismatches with
  | none => exact h
  | some n => exact ⟨fun p hp => h.within p (List.mem_of_mem_take hp), h.pairwise.take⟩

/-- **Mismatches are apart**: where keys hold neither dots nor brackets, no path is
reported twice, and none together with one that leads on from it. -/
theorem paths_separate {schema : Schema}
    (hkeys : schema.EveryKey fun key => '.' ∉ key.toList ∧ '[' ∉ key.toList)
    (hdistinct : schema.DistinctKeys) (m : Matcher) (value : Value) :
    (m.paths value schema).Nodup ∧
      ∀ outer ∈ m.paths value schema, ∀ text,
        outer ++ "." ++ text ∉ m.paths value schema ∧
          outer ++ "[" ++ text ∉ m.paths value schema := by
  have hseparate : Separate m.root (m.paths value schema) := by
    rw [paths, pathsFrom_eq_wanted]
    exact separate_wanted (Schema.separate_failures hkeys hdistinct value m.root) m
  refine ⟨hseparate.nodup, fun outer houter text => ⟨?_, ?_⟩⟩
  · exact hseparate.append_notMem houter '.' rfl text
  · exact hseparate.append_notMem houter '[' rfl text

/-- Four mismatches in a value whose own name looks like a path. -/
theorem paths_separate_parcel :
    (Schema.parcel.toSchema.EveryKey fun key => '.' ∉ key.toList ∧ '[' ∉ key.toList) ∧
      Schema.parcel.toSchema.DistinctKeys ∧
      ({ root := "p.a[" } : Matcher).paths
          (.object [("a", .array [.null, .array [.number 1, .null]]), ("ab", .null)])
          Schema.parcel.toSchema = ["p.a[.", "p.a[.a[0]", "p.a[.a[1][1]", "p.a[.ab"] ∧
      (({ root := "p.a[" } : Matcher).paths
          (.object [("a", .array [.null, .array [.number 1, .null]]), ("ab", .null)])
          Schema.parcel.toSchema).Nodup :=
  ⟨Schema.everyKey_parcel, Schema.distinctKeys_parcel, by decide,
    (paths_separate Schema.everyKey_parcel Schema.distinctKeys_parcel _ _).1⟩

end Matcher

end Conformance
