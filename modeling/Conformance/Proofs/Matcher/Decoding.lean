import Conformance.Proofs.Schema.Simulation
import Conformance.Proofs.Value.Portable

/-!
# Conformance.Proofs.Matcher.Decoding

Decoding what conforms.

Schemas look at the value, but the caller gets what is read back from its JSON form, a
normal form of that value.  For a portable value the second conforms if the first does:

* `Value.storeAlike_carried` — a normal form stores no more than the value does.  It may
  store less, so a dictionary that refuses a value may well accept its normal form, and
  conforming carries over in this direction only.
* `Matcher.decode_eq_bind` — decoding is a matter of conforming first and of JSON next.
* `Matcher.decode_keeps_conformance` — decoding a portable value never fails because of
  JSON, and its result conforms again.
-/

namespace Conformance

/-! ## Conforming normal forms -/

namespace Value

/-- Whatever passes in a portable object passes in its normal form. -/
theorem storeAlike_carried : StoreAlike (fun a a' => a = true → a' = true) Carried := by
  intro ps qs h f g hfg hall
  obtain ⟨hnormal, ⟨-, hwf⟩, hportable⟩ := h.eq_normalize rfl
  obtain rfl : qs = normalizeProperties ps := object.inj hnormal
  cases hportable with
  | object _ hps =>
      rw [normalizeProperties_eq_map_filter]
      rw [List.all_eq_true] at hall ⊢
      intro q hq
      obtain ⟨p, hp, rfl⟩ := List.mem_map.1 hq
      obtain ⟨hmem, hdefined⟩ := List.mem_filter.1 hp
      rw [Bool.not_eq_true'] at hdefined
      have hcontents : Carried p.2 p.2.normalize :=
        .normalize (propertiesWellFormed_iff.1 hwf p hmem) (hps p hmem hdefined)
      exact hfg p _ rfl hcontents (hall p hmem)

/-- **Normal forms conform** where the portable values do that they are made from. -/
theorem accepts_normalize {s : Schema} (hs : s.SelfContained) {v : Value}
    (hwf : v.WellFormed) (hv : v.Portable) (h : s.accepts v = true) :
    s.accepts v.normalize = true :=
  Schema.related_accepts_of_bisimulation .implied bisimulation_carried
    (hs.everyPredicate (Predicate.inherited_follows .implied bisimulation_carried
      storeAlike_carried))
    (.normalize hwf hv) h

end Value

/-! ## Decoding -/

namespace Matcher

/-- Only a value that conforms is written as JSON at all. -/
theorem decode_eq_bind {α : Type} (m : Matcher) (value : Value) (schema : Schema)
    (decoder : Decoder α) : m.decode value schema decoder =
      (m.require value schema).bind fun _ => (decodeValue value decoder).result := by
  rw [decode, decodeLogged, require, Logged.result_bind]
  cases (m.requireLogged value schema).result <;> rfl

/-- Where a value can be written, only the decoder is left to refuse it. -/
theorem result_decodeValue {α : Type} {v : Value} {j : Json} (h : v.toJson = .ok j)
    (decoder : Decoder α) : (decodeValue v decoder).result =
      (decoder j).mapError fun failure => .json (.undecodable failure) := by
  rw [decodeValue, h]
  dsimp only
  cases decoder j <;> rfl

/-- Read back as a value, whatever can be written comes out in normal form. -/
theorem result_decodeValue_decoder {v : Value} (h : v.hosts = []) :
    (decodeValue v Value.decoder).result = .ok v.normalize := by
  obtain ⟨j, hj, hread⟩ := Value.toJson_eq_ok h
  rw [result_decodeValue hj, ← hread]
  rfl

/-- **Decoding keeps conformance**: a portable value that conforms is decoded to its
normal form, which conforms again, and one that does not is refused with the path of its
first mismatch. -/
theorem decode_keeps_conformance {schema : Schema} (hschema : schema.SelfContained)
    {v : Value} (hwf : v.WellFormed) (hv : v.Portable) (m : Matcher) :
    (m.accepts v schema = true →
      m.decode v schema Value.decoder = .ok v.normalize ∧
        m.accepts v.normalize schema = true) ∧
    (m.accepts v schema = false →
      ∃ path, (m.paths v schema).head? = some path ∧
        m.decode v schema Value.decoder = .error (.mismatch path)) := by
  have hsame (w : Value) : m.accepts w schema = schema.accepts w := by
    rw [m.accepts_eq w schema "", schema.accepts_eq w ""]
  rw [hsame v.normalize, decode_eq_bind, require_eq_match, head?_paths]
  constructor
  · intro h
    have hnone : m.firstPath? v schema = none := by
      rwa [accepts_eq_isNone, Option.isNone_iff_eq_none] at h
    rw [hnone]
    exact ⟨result_decodeValue_decoder hv.hosts_eq_nil,
      Value.accepts_normalize hschema hwf hv (hsame v ▸ h)⟩
  · intro h
    rw [accepts_eq_isNone] at h
    cases hfirst : m.firstPath? v schema with
    | none => simp [hfirst] at h
    | some path => exact ⟨path, rfl, rfl⟩

/-- A form with any number of answers, an optional comment and two scores, the first of
them zero. -/
def survey : Schema :=
  .object [("answers", .predicate (.dictionary .string (.predicate (.orUndefined .number)))),
    ("comment", .predicate (.orUndefined .string)),
    ("scores", .object [("length", .literal (.number 2)), ("0", .literal (.number 0))])]

/-- What a survey looks like when it comes back. -/
def returned (answers comment scores : Value) : Value :=
  .object [("answers", answers), ("comment", comment), ("scores", scores)]

/-- A survey with an answer left open, without a comment and with a negative zero. -/
def filledIn : Value :=
  returned (.object [("age", .number 42), ("height", .undefined)]) .undefined
    (.array [.number (-0), .number 1])

/-- A survey with a comment and scores that are not what is asked for. -/
def scribbled : Value := returned (.object []) .null (.array [])

theorem selfContained_survey : survey.SelfContained := by
  have hanswers : (Schema.predicate (.dictionary .string
      (.predicate (.orUndefined .number)))).SelfContained :=
    .dictionary _ _ .string (.orUndefined _ .number)
  have hscores : (Schema.object [("length", .literal (.number 2)),
      ("0", .literal (.number 0))]).SelfContained :=
    .object _ (List.forall_mem_cons.2 ⟨.literal _, List.forall_mem_singleton.2 (.literal _)⟩)
  exact .object _ (List.forall_mem_cons.2 ⟨hanswers, List.forall_mem_cons.2
    ⟨.orUndefined _ .string, List.forall_mem_singleton.2 hscores⟩⟩)

/-- The keys of a survey are written in their order. -/
theorem wellFormed_returned {answers comment scores : Value} (hanswers : answers.WellFormed)
    (hcomment : comment.WellFormed) (hscores : scores.WellFormed) :
    (returned answers comment scores).WellFormed := by
  have hsorted : Properties.Sorted
      [("answers", answers), ("comment", comment), ("scores", scores)] := by
    have hkeys : ["answers", "comment", "scores"].Pairwise (· < ·) := by decide
    exact List.pairwise_map.1 hkeys
  exact ⟨hsorted, hanswers, hcomment, hscores, trivial⟩

theorem wellFormed_filledIn : filledIn.WellFormed := by
  have hanswers : (Value.object [("age", .number 42), ("height", .undefined)]).WellFormed :=
    ⟨List.pairwise_pair.2 (by decide), trivial, trivial, trivial⟩
  exact wellFormed_returned hanswers trivial ⟨trivial, trivial, trivial⟩

theorem wellFormed_scribbled : scribbled.WellFormed :=
  wellFormed_returned ⟨.nil, trivial⟩ trivial trivial

/-- A missing comment need not be portable. -/
theorem portable_returned {answers comment scores : Value} (hanswers : answers.Portable)
    (hcomment : comment.isUndefined = false → comment.Portable) (hscores : scores.Portable) :
    (returned answers comment scores).Portable :=
  .object _ (List.forall_mem_cons.2 ⟨fun _ => hanswers, List.forall_mem_cons.2
    ⟨hcomment, List.forall_mem_singleton.2 fun _ => hscores⟩⟩)

theorem portable_filledIn : filledIn.Portable := by
  have hanswers : (Value.object [("age", .number 42), ("height", .undefined)]).Portable :=
    .object _ (List.forall_mem_cons.2
      ⟨fun _ => .number _ rfl, List.forall_mem_singleton.2 fun h => by contradiction⟩)
  have hscores : (Value.array [.number (-0), .number 1]).Portable :=
    .array _ (List.forall_mem_cons.2 ⟨.number _ rfl, List.forall_mem_singleton.2 (.number _ rfl)⟩)
  exact portable_returned hanswers (fun h => by contradiction) hscores

theorem portable_scribbled : scribbled.Portable :=
  portable_returned (.object [] (by simp)) (fun _ => .null) (.array [] (by simp))

/-- A survey that conforms, and one that is refused. -/
theorem decode_keeps_conformance_survey :
    survey.SelfContained ∧
      (filledIn.WellFormed ∧ filledIn.Portable ∧ ({} : Matcher).accepts filledIn survey = true ∧
        ({} : Matcher).decode filledIn survey Value.decoder = .ok filledIn.normalize ∧
        ({} : Matcher).accepts filledIn.normalize survey = true) ∧
      scribbled.WellFormed ∧ scribbled.Portable ∧
        ({} : Matcher).accepts scribbled survey = false ∧
        ∃ path, (({} : Matcher).paths scribbled survey).head? = some path ∧
          ({} : Matcher).decode scribbled survey Value.decoder = .error (.mismatch path) := by
  have haccepts : ({} : Matcher).accepts filledIn survey = true := by decide
  have hrefuses : ({} : Matcher).accepts scribbled survey = false := by decide
  exact ⟨selfContained_survey,
    ⟨wellFormed_filledIn, portable_filledIn, haccepts,
      (decode_keeps_conformance selfContained_survey wellFormed_filledIn portable_filledIn {}).1
        haccepts⟩,
    wellFormed_scribbled, portable_scribbled, hrefuses,
    (decode_keeps_conformance selfContained_survey wellFormed_scribbled portable_scribbled {}).2
      hrefuses⟩

end Matcher

end Conformance
