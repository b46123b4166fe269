import Conformance.Proofs.Class
import Conformance.Proofs.ValueType.Reading

/-!
# Conformance.Proofs.ValueType.Nesting

The brackets in the text of a type.

Words, numbers and quoted strings are well nested, whatever they say, and every other type
puts the texts of the types it is made of between brackets that belong together. So the text
of a type is well nested if the base names in it are (`wellNested_chars`). A base name need
not be, even if the full name is: see `CutsPair`. Where full names are well nested, the texts
of all types over some classes are well nested exactly if none of the names is cut between
two brackets that belong together (`wellNested_texts_iff`).
-/

namespace Conformance.ValueType

open Text (WellNested)

/-! ## Words and numbers -/

/-- Identifiers hold no marks at all. -/
theorem wellNested_of_isIdentifier {s : String} (h : Text.isIdentifier s = true) :
    WellNested s.toList :=
  Text.wellNested_of_not_mem_marks fun c hc =>
    Text.not_mem_marks (by decide) (Text.continuesIdentifier_of_mem h c hc)

theorem wellNested_of_isDigit {cs : List Char} (h : ∀ c ∈ cs, c.isDigit = true) :
    WellNested cs :=
  Text.wellNested_of_not_mem_marks fun c hc => Text.not_mem_marks (by decide) (h c hc)

theorem wellNested_zeros (n : Nat) : WellNested (List.replicate n '0') :=
  wellNested_of_isDigit fun _ hc => (List.mem_replicate.1 hc).2 ▸ rfl

/-- The magnitude of a number is written in digits and a point. -/
theorem wellNested_positionalChars (pointZero : Bool) (d : Decimal) :
    WellNested (Decimal.positionalChars pointZero d) := by
  have hdigits : ∀ c ∈ Decimal.digitChars d.digits, c.isDigit = true := by
    intro c hc
    exact Nat.isDigit_of_mem_toDigits (b := 10) (by decide) (by decide) hc
  have hpoint {cs : List Char} (h : WellNested cs) : WellNested ('.' :: cs) :=
    (Text.wellNested_singleton (c := '.') (by decide)).append h
  simp only [Decimal.positionalChars]
  split_ifs
  · exact ((wellNested_of_isDigit hdigits).append (wellNested_zeros _)).append (by decide)
  · exact ((wellNested_of_isDigit hdigits).append (wellNested_zeros _)).append (by decide)
  · exact (wellNested_of_isDigit fun c hc => hdigits c (List.mem_of_mem_take hc)).append
      (hpoint (wellNested_of_isDigit fun c hc => hdigits c (List.mem_of_mem_drop hc)))
  · exact (wellNested_zeros 1).append
      (hpoint ((wellNested_zeros _).append (wellNested_of_isDigit hdigits)))

/-- Numbers that are not finite are spelled in letters. -/
theorem wellNested_number (x : Binary64) :
    WellNested (Literal.numberLayout.format x).toList := by
  cases x with
  | nan => decide
  | infinity negative => cases negative <;> decide
  | finite negative m e h =>
      have hmagnitude := wellNested_positionalChars false (Decimal.shortest .up m e)
      have hminus := (Text.wellNested_singleton (c := '-') (by decide)).append hmagnitude
      simp only [Decimal.Layout.format, Literal.numberLayout, String.toList_ofList]
      cases negative with
      | false => simpa using hmagnitude
      | true => simpa using hminus

/-- Brackets in a string are hidden by its quotes. -/
theorem wellNested_literal (l : Literal) : WellNested l.text.toList := by
  cases l with
  | undefined => decide
  | null => decide
  | bool b => cases b <;> decide
  | number x => exact wellNested_number x
  | string s =>
      rw [Literal.text, Text.quote, String.toList_ofList]
      exact Text.wellNested_quoteChars s.toList

/-- A key is an identifier, or quoted like a string. -/
theorem wellNested_keyText (key : String) : WellNested (keyText key).toList := by
  cases h : Text.isIdentifier key with
  | false =>
      rw [keyText_of_not_isIdentifier h]
      exact Text.wellNested_quoteChars key.toList
  | true =>
      rw [keyText_of_isIdentifier h]
      exact wellNested_of_isIdentifier h

/-! ## Types -/

theorem wellNested_grouped {t : ValueType} (h : WellNested t.chars) : WellNested t.grouped := by
  unfold grouped
  split_ifs
  · exact h.enclose rfl
  · exact h

/-- A property is as well nested as its type. -/
theorem Entry.wellNested_chars {e : Entry} (h : WellNested e.type.chars) :
    WellNested e.chars := by
  have hmark : WellNested e.mark := by
    unfold mark
    cases e.marked <;> decide
  exact (wellNested_keyText e.key).append (hmark.append h)

/-- The last brace closes the first one. -/
theorem wellNested_entriesChars {es : List Entry} (h : ∀ e ∈ es, WellNested e.type.chars) :
    WellNested ('\x7b' :: entriesChars es) := by
  cases es with
  | nil => decide
  | cons e es =>
      have hspace := Text.wellNested_singleton (c := ' ') (by decide)
      have hentries : WellNested ([';', ' '].intercalate ((e :: es).map Entry.chars)) :=
        .intercalate (by decide)
          (List.forall_mem_map.2 fun f hf => Entry.wellNested_chars (h f hf))
      have henclosed :=
        (hspace.append (hentries.append hspace)).enclose (o := '\x7b') (c := '\x7d') rfl
      simpa [entriesChars] using henclosed

/-- The type is no class, or one of the given ones. -/
def ClassIn (S : Class → Prop) : ValueType → Prop
  | ofClass c => S c
  | _ => True

/-- **The text of a type** is well nested if the base names in it are. -/
theorem wellNested_chars {t : ValueType}
    (ht : t.Throughout (ClassIn fun c => WellNested c.baseName.toList)) :
    WellNested t.chars := by
  induction ht with
  | @intro t here parts ih =>
      cases t with
      | string | number | boolean | unknown => decide
      | literal l => exact wellNested_literal l
      | array u =>
          rw [chars_array]
          exact (wellNested_grouped (ih u List.mem_cons_self)).append (by decide)
      | tuple ts =>
          rw [chars_tuple]
          exact (WellNested.intercalate (by decide) (List.forall_mem_map.2 ih)).enclose rfl
      | object o =>
          rw [chars_object]
          exact wellNested_entriesChars (forall_entries ih)
      | ofClass c => exact here
      | dictionary k u =>
          rw [chars_dictionary]
          have hk := ih k (by simp [ValueType.parts])
          have hu := ih u (by simp [ValueType.parts])
          exact .append (by decide) (hk.append (.append (by decide) (hu.append (by decide))))
      | union ts =>
          cases ts with
          | nil => decide
          | cons u us =>
              rw [chars_union]
              exact .intercalate (by decide) (List.forall_mem_map.2 ih)

/-- A pair of a date and a circle. -/
def dateAndCircle : Class := ⟨0, "(app::Date, app::Circle)"⟩

/-- A function from dates to circles. -/
def dateToCircle : Class := ⟨1, "fn(app::Date) -> app::Circle"⟩

theorem dateAndCircle_wellNamed : dateAndCircle.WellNamed :=
  ⟨by decide, Text.bracketsOutside_of_not_mem (by decide)⟩

theorem dateToCircle_wellNamed : dateToCircle.WellNamed :=
  ⟨by decide, Text.bracketsOutside_of_not_mem (by decide)⟩

/-- The base name of a pair is `Circle)`: the parenthesis that opens the name is cut off. -/
theorem not_wellNested_text_of_pair :
    ¬∀ t : ValueType, t.Throughout (ClassIn Class.WellNamed) → WellNested t.text.toList := by
  intro h
  exact absurd (h (ofClass dateAndCircle) (.leaf dateAndCircle_wellNamed rfl)) (by decide)

/-- Where full names are well nested, **the texts of all types over some classes** are well
nested exactly if no name is cut between two brackets that belong together. -/
theorem wellNested_texts_iff {S : Class → Prop} (hS : ∀ c, S c → c.WellNamed) :
    (∀ t : ValueType, t.Throughout (ClassIn S) → WellNested t.text.toList) ↔
      ∀ c, S c → ¬c.CutsPair := by
  constructor
  · intro h c hc
    exact (hS c hc).wellNested_baseName_iff.1 (h (ofClass c) (.leaf hc rfl))
  · intro h t ht
    refine wellNested_chars (ht.mono fun u hu => ?_)
    cases u with
    | ofClass c => exact (hS c hu).wellNested_baseName_iff.2 (h c hu)
    | _ => trivial

/-- Functions can stand at any depth, pairs not even alone. -/
theorem wellNested_texts_functions :
    (∀ t : ValueType, t.Throughout (ClassIn (· = dateToCircle)) → WellNested t.text.toList) ∧
      ¬∀ t : ValueType, t.Throughout (ClassIn (· = dateAndCircle)) →
        WellNested t.text.toList := by
  have hfunction : ∀ c, c = dateToCircle → c.WellNamed := by
    rintro c rfl
    exact dateToCircle_wellNamed
  have hpair : ∀ c, c = dateAndCircle → c.WellNamed := by
    rintro c rfl
    exact dateAndCircle_wellNamed
  constructor
  · refine (wellNested_texts_iff hfunction).2 ?_
    rintro c rfl
    exact Class.not_cutsPair_of_nested (by decide) (by decide)
  · intro h
    have hwhole := (wellNested_texts_iff hpair).1 h dateAndCircle rfl
    exact absurd (dateAndCircle_wellNamed.wellNested_baseName_iff.2 hwhole) (by decide)

end Conformance.ValueType
