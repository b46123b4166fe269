import Conformance.Proofs.Json.Decoders
import Conformance.Proofs.Matcher.Decoding
import Conformance.Proofs.Schema.Acceptance

/-!
# Conformance.Proofs.Matcher.Narrowing

Decoding what conforms into types of the caller.

What conforms is let through by one reading of the value, and decoded by another: it is
written as JSON, which the decoder reads without a look at the schema.  `Value.ReadAs`
says what comes out of the second reading.  It is put together in the way decoders are, and
so the types of the caller may be nested to any depth.  The decoders may be any that read
what is there (`Decoders.Lawful`):

* `readAs_number` — finite numbers, whether they are written as integers or as floats.
* `readAs_undefined`, `ReadAs.some` — optional contents.
* `readAs_array`, `readAs_object`, `readAs_pair` — items and properties one by one.

`Matcher.decode_narrows` has the types for which there is a schema that fits.
-/

namespace Conformance

namespace Value

variable {α β : Type} {D : Decoders}

/-! ## Reading what was written -/

/-- The value is written as JSON that the decoder reads as `a`. -/
def ReadAs (v : Value) (d : Decoder α) (a : α) : Prop := ∃ j, v.toJson = .ok j ∧ d j = .ok a

theorem readAs_string (hD : D.Lawful) (s : String) : (string s).ReadAs D.string s :=
  ⟨.string s, rfl, hD.string_string s⟩

/-- A number comes back with a positive zero for a negative one. -/
theorem readAs_number (hD : D.Lawful) {x : Binary64} (hx : x.isFinite = true) :
    (number x).ReadAs D.float x.unsignedZero := by
  refine ⟨x.toJson, rfl, ?_⟩
  have hread := ofJson_toJson_number x
  rw [normalize_number hx] at hread
  cases hj : x.toJson with
  | number n =>
      rw [hj] at hread
      exact (hD.float_number n).trans (congrArg Except.ok (number.inj hread))
  | _ =>
      rw [hj] at hread
      contradiction

/-- `undefined` is written as null, which optional contents read as nothing. -/
theorem readAs_undefined (hD : D.Lawful) (d : Decoder α) :
    undefined.ReadAs (D.option d) none :=
  ⟨.null, rfl, hD.option_null d⟩

/-- Contents that are there are read as such, unless they are written as null. -/
theorem ReadAs.some (hD : D.Lawful) {v : Value} {d : Decoder α} {a : α} (h : v.ReadAs d a)
    (hv : v.toJson ≠ .ok .null) : v.ReadAs (D.option d) (some a) := by
  obtain ⟨j, hj, hread⟩ := h
  have hnull : j ≠ .null := fun hnull => hv (hnull ▸ hj)
  exact ⟨j, hj, hD.option_some hnull hread⟩

/-- Items are written and read one by one. -/
theorem readAs_array (hD : D.Lawful) {d : Decoder α} {items : List Value} {as : List α}
    (h : List.Forall₂ (fun v a => v.ReadAs d a) items as) :
    (array items).ReadAs (D.list d) as := by
  suffices hitems : ∃ js, itemsToJson items = .ok js ∧
      List.Forall₂ (fun j a => d j = .ok a) js as by
    obtain ⟨js, hjs, hread⟩ := hitems
    exact ⟨.array js, by rw [toJson, hjs]; rfl, hD.list_array hread⟩
  induction h with
  | nil => exact ⟨[], rfl, .nil⟩
  | cons hv _ ih =>
      obtain ⟨j, hj, ha⟩ := hv
      obtain ⟨js, hjs, has⟩ := ih
      refine ⟨j :: js, ?_, .cons ha has⟩
      rw [itemsToJson, hj, hjs]
      rfl

/-- Properties are written and read one by one, if none of them is left out. -/
theorem readAs_object (hD : D.Lawful) {d : Decoder α} {ps : List (String × Value)}
    {qs : List (String × α)}
    (h : List.Forall₂ (fun p q => p.1 = q.1 ∧ p.2.isUndefined = false ∧ p.2.ReadAs d q.2) ps qs) :
    (object ps).ReadAs (D.map d) qs := by
  suffices hps : ∃ js, propertiesToJson ps = .ok js ∧
      List.Forall₂ (fun p q => p.1 = q.1 ∧ d p.2 = .ok q.2) js qs by
    obtain ⟨js, hjs, hread⟩ := hps
    exact ⟨.object js, by rw [toJson, hjs]; rfl, hD.map_object hread⟩
  induction h with
  | nil => exact ⟨[], rfl, .nil⟩
  | @cons p q ps qs hp _ ih =>
      obtain ⟨hkey, hv, j, hj, ha⟩ := hp
      obtain ⟨js, hjs, has⟩ := ih
      refine ⟨(p.1, j) :: js, ?_, .cons ⟨hkey, ha⟩ has⟩
      rw [propertiesToJson, if_neg (Bool.eq_false_iff.1 hv), hj, hjs]
      rfl

theorem readAs_pair (hD : D.Lawful) {d : Decoder α} {e : Decoder β} {v w : Value} {a : α}
    {b : β} (hv : v.ReadAs d a) (hw : w.ReadAs e b) :
    (array [v, w]).ReadAs (D.pair d e) (a, b) := by
  obtain ⟨j, hj, ha⟩ := hv
  obtain ⟨k, hk, hb⟩ := hw
  refine ⟨.array [j, k], ?_, hD.pair_array ha hb⟩
  rw [toJson, itemsToJson, itemsToJson, itemsToJson, hj, hk]
  rfl

/-- No number in the value is infinite or none at all. -/
def Finite (v : Value) : Prop := ∀ x ∈ v.numbers, x.isFinite = true

theorem Finite.item {items : List Value} (h : (array items).Finite) {v : Value}
    (hv : v ∈ items) : v.Finite := by
  rw [Finite, numbers_array] at h
  exact fun x hx => h x (List.mem_flatMap_of_mem hv hx)

theorem Finite.property {ps : List (String × Value)} (h : (object ps).Finite)
    {p : String × Value} (hp : p ∈ ps) : p.2.Finite := by
  rw [Finite, numbers_object] at h
  exact fun x hx => h x (List.mem_flatMap_of_mem hp hx)

end Value

/-! ## Schemas and decoders that fit -/

namespace Schema

variable {α β : Type} {D : Decoders} {s t : Schema} {d : Decoder α} {e : Decoder β}
  {R : Value → α → Prop} {Q : Value → β → Prop}

/-- A finite value that conforms to the schema is read by the decoder as something that it
is related to. -/
def Narrows (s : Schema) (d : Decoder α) (R : Value → α → Prop) : Prop :=
  ∀ v : Value, v.Finite → s.accepts v = true → ∃ a, v.ReadAs d a ∧ R v a

/-- What conforms to the marker of strings is read as that string. -/
theorem narrows_string (hD : D.Lawful) :
    string.Narrows D.string fun v s => v = .string s := by
  intro v _ h
  rw [accepts_string] at h
  cases v with
  | string s => exact ⟨s, Value.readAs_string hD s, rfl⟩
  | _ => contradiction

/-- A finite number is read as an equal one. The sign of a zero may be lost. -/
theorem narrows_number (hD : D.Lawful) :
    number.Narrows D.float fun v x => (v == .number x) = true := by
  intro v hv h
  rw [accepts_number] at h
  cases v with
  | number x =>
      have hx : x.isFinite = true := hv x List.mem_cons_self
      refine ⟨x.unsignedZero, Value.readAs_number hD hx, ?_⟩
      have hequal := Binary64.unsignedZero_beq (Binary64.ne_nan_of_isFinite hx)
      rwa [Binary64.beq_comm] at hequal
  | _ => contradiction

/-- As many items are read as there are, each as what it is. -/
theorem Narrows.arrayOf (hD : D.Lawful) (h : s.Narrows d R) :
    (arrayOf s).Narrows (D.list d) fun v as =>
      ∃ items, v = .array items ∧ List.Forall₂ R items as := by
  intro v hv hconforms
  cases v with
  | array items =>
      rw [accepts_arrayOf, List.all_eq_true] at hconforms
      obtain ⟨as, has⟩ := exists_forall₂ fun item hitem =>
        h item (hv.item hitem) (hconforms item hitem)
      exact ⟨as, Value.readAs_array hD (has.imp fun _ _ hitem => hitem.1), items, rfl,
        has.imp fun _ _ hitem => hitem.2⟩
  | _ =>
      rw [Schema.arrayOf, accepts_array_of_ne _ _ (by simp)] at hconforms
      contradiction

/-- Properties that are `undefined` would be left out, so none of them may conform. -/
theorem Narrows.dictionary (hD : D.Lawful) (key : Schema) (h : s.Narrows d R)
    (hdefined : ∀ v, s.accepts v = true → v.isUndefined = false) :
    (predicate (.dictionary key s)).Narrows (D.map d) fun v qs =>
      ∃ ps, v = .object ps ∧ List.Forall₂ (fun p q => p.1 = q.1 ∧ R p.2 q.2) ps qs := by
  intro v hv hconforms
  rw [accepts_predicate] at hconforms
  cases v with
  | object ps =>
      rw [Predicate.test_dictionary, List.all_eq_true] at hconforms
      have hp : ∀ p ∈ ps, ∃ q : String × α,
          p.1 = q.1 ∧ p.2.isUndefined = false ∧ p.2.ReadAs d q.2 ∧ R p.2 q.2 := by
        intro p hp
        have hcontent := (Bool.and_eq_true_iff.1 (hconforms p hp)).2
        obtain ⟨a, hread, hrelated⟩ := h p.2 (hv.property hp) hcontent
        exact ⟨(p.1, a), rfl, hdefined p.2 hcontent, hread, hrelated⟩
      obtain ⟨qs, hqs⟩ := exists_forall₂ hp
      exact ⟨qs, Value.readAs_object hD (hqs.imp fun _ _ h => ⟨h.1, h.2.1, h.2.2.1⟩), ps, rfl,
        hqs.imp fun _ _ h => ⟨h.1, h.2.2.2⟩⟩
  | _ =>
      rw [Predicate.test_dictionary_of_ne _ _ _ (by simp)] at hconforms
      contradiction

/-- Of two positions, each is read by its own decoder. -/
theorem Narrows.pair (hD : D.Lawful) (hs : s.Narrows d R) (ht : t.Narrows e Q) :
    (array [s, t]).Narrows (D.pair d e) fun v ab =>
      ∃ a b, v = .array [a, b] ∧ R a ab.1 ∧ Q b ab.2 := by
  intro v hv hconforms
  cases v with
  | array items =>
      rw [accepts_tuple, all₂_iff_forall₂] at hconforms
      match items, hconforms with
      | [v, w], .cons hfirst (.cons hsecond .nil) =>
          obtain ⟨a, hreada, ha⟩ := hs v (hv.item (by simp)) hfirst
          obtain ⟨b, hreadb, hb⟩ := ht w (hv.item (by simp)) hsecond
          exact ⟨(a, b), Value.readAs_pair hD hreada hreadb, v, w, rfl, ha, hb⟩
  | _ =>
      rw [accepts_array_of_ne _ _ (by simp)] at hconforms
      contradiction

/-- Contents that are written as null would be taken for missing ones. -/
theorem Narrows.orUndefined (hD : D.Lawful) (h : s.Narrows d R)
    (hnull : ∀ v, s.accepts v = true → v.toJson ≠ .ok .null) :
    (predicate (.orUndefined s)).Narrows (D.option d) fun v a? =>
      (v = .undefined ∧ a? = none) ∨ ∃ a, a? = some a ∧ R v a := by
  intro v hv hconforms
  rw [accepts_predicate, Predicate.test_orUndefined, Bool.or_eq_true] at hconforms
  rcases hconforms with hthere | hundefined
  · obtain ⟨a, hread, hrelated⟩ := h v hv hthere
    exact ⟨some a, hread.some hD (hnull v hthere), .inr ⟨a, rfl, hrelated⟩⟩
  · rw [Value.isUndefined_iff] at hundefined
    rw [hundefined]
    exact ⟨none, Value.readAs_undefined hD d, .inl ⟨rfl, rfl⟩⟩

end Schema

/-! ## Decoding -/

namespace Matcher

/-- What conforms is decoded to what is read of it. -/
theorem decode_of_readAs {α : Type} {m : Matcher} {v : Value} {s : Schema} {d : Decoder α}
    {a : α} (hconforms : m.accepts v s = true) (h : v.ReadAs d a) : m.decode v s d = .ok a := by
  obtain ⟨j, hj, hread⟩ := h
  have hnone : m.firstPath? v s = none := by
    rwa [accepts_eq_isNone, Option.isNone_iff_eq_none] at hconforms
  have hrequire : m.require v s = .ok () := by rw [require_eq_match, hnone]
  have hdecode := result_decodeValue hj d
  rw [hread] at hdecode
  rw [decode_eq_bind, hrequire]
  exact hdecode

/-- Conforming is all that decoding needs where schema and decoder fit. -/
theorem decode_of_narrows {α : Type} {s : Schema} {d : Decoder α} {R : Value → α → Prop}
    (h : s.Narrows d R) {m : Matcher} {v : Value} (hv : v.Finite)
    (hconforms : m.accepts v s = true) : ∃ a, m.decode v s d = .ok a ∧ R v a := by
  obtain ⟨a, hread, hrelated⟩ := h v hv (Schema.accepts_matcher m s v ▸ hconforms)
  exact ⟨a, decode_of_readAs hconforms hread, hrelated⟩

/-- **Narrowing** neither fails nor loses anything, whatever the decoders are that read what
is there.  Finite values that conform are decoded into as many numbers, each equal to the
one it was, into the same keys with equal numbers, into a pair of equal parts, and into
the string that is there, if it is. -/
theorem decode_narrows (m : Matcher) {v : Value}
    (hv : ∀ x ∈ v.numbers, x.isFinite = true) :
    Decoders.json.Lawful ∧
    ∀ D : Decoders, D.Lawful →
      (m.accepts v (.arrayOf .number) = true →
        ∃ xs, m.decode v (.arrayOf .number) (D.list D.float) = .ok xs ∧
          ∃ items, v = .array items ∧
            List.Forall₂ (fun item x => (item == .number x) = true) items xs) ∧
      (m.accepts v (.predicate (.dictionary .string .number)) = true →
        ∃ xs, m.decode v (.predicate (.dictionary .string .number)) (D.map D.float) = .ok xs ∧
          ∃ properties, v = .object properties ∧
            List.Forall₂ (fun p x => p.1 = x.1 ∧ (p.2 == .number x.2) = true) properties xs) ∧
      (m.accepts v (.array [.string, .number]) = true →
        ∃ pair, m.decode v (.array [.string, .number]) (D.pair D.string D.float) = .ok pair ∧
          ∃ first second, v = .array [first, second] ∧
            first = .string pair.1 ∧ (second == .number pair.2) = true) ∧
      (m.accepts v (.predicate (.orUndefined .string)) = true →
        ∃ s?, m.decode v (.predicate (.orUndefined .string)) (D.option D.string) = .ok s? ∧
          ((v = .undefined ∧ s? = none) ∨ ∃ s, s? = some s ∧ v = .string s)) := by
  refine ⟨Decoders.lawful_json, fun D hD => ?_⟩
  have hdefined (v : Value) (h : Schema.number.accepts v = true) : v.isUndefined = false := by
    rw [Schema.accepts_number] at h
    cases v <;> first | rfl | contradiction
  have hnull (v : Value) (h : Schema.string.accepts v = true) : v.toJson ≠ .ok .null := by
    rw [Schema.accepts_string] at h
    cases v with
    | string s => simp [Value.toJson]
    | _ => contradiction
  have hnumber := Schema.narrows_number hD
  have hstring := Schema.narrows_string hD
  exact ⟨decode_of_narrows (hnumber.arrayOf hD) hv,
    decode_of_narrows (hnumber.dictionary hD .string hdefined) hv,
    decode_of_narrows (hstring.pair hD hnumber) hv,
    decode_of_narrows (hstring.orUndefined hD hnull) hv⟩

/-- A negative zero, a half and a number that is no safe integer. -/
def readings : Value :=
  .array [.number (-0), .number (.ofRatio false 1 2), .number 9007199254740994]

def prices : Value := .object [("apple", .number 2), ("pear", .number (-0))]

def labelled : Value := .array [.string "width", .number 3]

/-- Each narrowing by the decoders of this library. -/
theorem decode_narrows_readings :
    Decoders.json.Lawful ∧
    ((∀ x ∈ readings.numbers, x.isFinite = true) ∧
      ({} : Matcher).accepts readings (.arrayOf .number) = true ∧
      ∃ xs, ({} : Matcher).decode readings (.arrayOf .number) (.list .float) = .ok xs ∧
        ∃ items, readings = .array items ∧
          List.Forall₂ (fun item x => (item == .number x) = true) items xs) ∧
    ((∀ x ∈ prices.numbers, x.isFinite = true) ∧
      ({} : Matcher).accepts prices (.predicate (.dictionary .string .number)) = true ∧
      ∃ xs, ({} : Matcher).decode prices (.predicate (.dictionary .string .number))
          (.map .float) = .ok xs ∧
        ∃ properties, prices = .object properties ∧
          List.Forall₂ (fun p x => p.1 = x.1 ∧ (p.2 == .number x.2) = true) properties xs) ∧
    ((∀ x ∈ labelled.numbers, x.isFinite = true) ∧
      ({} : Matcher).accepts labelled (.array [.string, .number]) = true ∧
      ∃ pair, ({} : Matcher).decode labelled (.array [.string, .number])
          (.pair .string .float) = .ok pair ∧
        ∃ first second, labelled = .array [first, second] ∧
          first = .string pair.1 ∧ (second == .number pair.2) = true) ∧
    (∀ x ∈ Value.undefined.numbers, x.isFinite = true) ∧
      ({} : Matcher).accepts .undefined (.predicate (.orUndefined .string)) = true ∧
      ∃ s?, ({} : Matcher).decode .undefined (.predicate (.orUndefined .string))
          (.option .string) = .ok s? ∧
        ((Value.undefined = .undefined ∧ s? = none) ∨
          ∃ s, s? = some s ∧ Value.undefined = .string s) := by
  have hreadings : ∀ x ∈ readings.numbers, x.isFinite = true := by decide
  have hprices : ∀ x ∈ prices.numbers, x.isFinite = true := by decide
  have hlabelled : ∀ x ∈ labelled.numbers, x.isFinite = true := by decide
  have hundefined : ∀ x ∈ Value.undefined.numbers, x.isFinite = true := by decide
  have hlawful : Decoders.json.Lawful := (decode_narrows {} hreadings).1
  exact ⟨hlawful,
    ⟨hreadings, by decide, ((decode_narrows {} hreadings).2 _ hlawful).1 (by decide)⟩,
    ⟨hprices, by decide, ((decode_narrows {} hprices).2 _ hlawful).2.1 (by decide)⟩,
    ⟨hlabelled, by decide, ((decode_narrows {} hlabelled).2 _ hlawful).2.2.1 (by decide)⟩,
    hundefined, by decide, ((decode_narrows {} hundefined).2 _ hlawful).2.2.2 (by decide)⟩

end Matcher

end Conformance
