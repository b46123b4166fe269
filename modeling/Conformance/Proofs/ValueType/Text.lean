import Mathlib.Logic.Function.Iterate
import Conformance.Proofs.ValueType.Structure
import Conformance.ValueType.Text

/-!
# Conformance.Proofs.ValueType.Text

The grammar of type texts, in characters.

* A type is written as its *summands* with bars between them (`chars_eq_intercalate`):
  a choice by its members, any other type by itself.
* A summand is its *core*, a type that is no array, and a pair of brackets for each time
  an array of it is taken (`grouped_eq_core`). A choice stands in parentheses there.
* The lists in a core are written with their own separators (`chars_tuple`,
  `chars_object`).
-/

namespace Conformance.ValueType

/-! ## The parts of a text -/

/-- The characters of the text of a type. -/
def chars (t : ValueType) : List Char := t.text.toList

/-- A type as it stands before `[]`. -/
def grouped (t : ValueType) : List Char :=
  if t.isChoice then '(' :: (t.chars ++ [')']) else t.chars

/-- The types between the bars of a text. -/
def summands (t : ValueType) : List ValueType := if t.isChoice then t.alternatives else [t]

/-- The type of which a type is an array, an array of arrays and so on. -/
def core : ValueType → ValueType
  | array t => t.core
  | t => t

/-- How many times a type is an array of arrays. -/
def depth : ValueType → Nat
  | array t => t.depth + 1
  | _ => 0

/-- That many times `[]`. -/
def brackets : Nat → List Char
  | 0 => []
  | n + 1 => '[' :: ']' :: brackets n

/-- A property of an object type as it is written. -/
structure Entry where
  /-- Whether the property is marked as one that may be missing. -/
  marked : Bool
  key : String
  type : ValueType

/-- What stands between a property name and its type. -/
def Entry.mark (e : Entry) : List Char := if e.marked then ['?', ':', ' '] else [':', ' ']

def Entry.chars (e : Entry) : List Char := (keyText e.key).toList ++ (e.mark ++ e.type.chars)

/-- The properties of an object type as they are written. -/
def entries (o : PropertyTypes ValueType) : List Entry :=
  o.fields.map fun f => ⟨o.isOptional f.1, f.1, f.2⟩

/-- What is written of an object type after the first brace. -/
def entriesChars : List Entry → List Char
  | [] => ['\x7d']
  | e :: es => ' ' :: ([';', ' '].intercalate ((e :: es).map Entry.chars) ++ [' ', '\x7d'])

/-! ## Texts of lists -/

/-- Joined texts are joined lists of characters. -/
theorem toList_joined (separator : String) (ts : List String) :
    (joined separator ts).toList = separator.toList.intercalate (ts.map String.toList) := by
  fun_induction joined separator ts with
  | case1 => rfl
  | case2 t => rw [List.map_singleton, List.intercalate_singleton]
  | case3 t ts hts ih =>
      obtain ⟨t', ts, rfl⟩ := List.exists_cons_of_ne_nil hts
      simp only [String.toList_append, ih, List.map_cons, List.intercalate_cons_cons]

theorem texts_eq_map (ts : List ValueType) : texts ts = ts.map text := by
  induction ts with
  | nil => rfl
  | cons t ts ih => rw [texts, ih, List.map_cons]

theorem toList_joined_texts (separator : String) (ts : List ValueType) :
    (joined separator (texts ts)).toList = separator.toList.intercalate (ts.map chars) := by
  rw [toList_joined, texts_eq_map, List.map_map]
  rfl

/-- The text of a property is that of its entry. -/
theorem toList_fieldTexts (mark : String → Bool) (fs : List (String × ValueType)) :
    (fieldTexts mark fs).map String.toList =
      fs.map fun f => Entry.chars ⟨mark f.1, f.1, f.2⟩ := by
  induction fs with
  | nil => rfl
  | cons f fs ih =>
      have hmark : (if mark f.1 then "?: " else ": ").toList =
          if mark f.1 then ['?', ':', ' '] else [':', ' '] := by
        cases mark f.1 <;> rfl
      rw [fieldTexts, List.map_cons, List.map_cons, ih, String.toList_append,
        String.toList_append, hmark, List.append_assoc]
      rfl

/-! ## The text of each type -/

/-- An array type is its element and a pair of brackets. -/
theorem chars_array (t : ValueType) : (array t).chars = t.grouped ++ ['[', ']'] := by
  rw [chars, text, grouped]
  cases t.isChoice with
  | true => simp [String.toList_append, chars]
  | false => simp [String.toList_append, chars]

theorem chars_tuple (ts : List ValueType) :
    (tuple ts).chars = '[' :: ([',', ' '].intercalate (ts.map chars) ++ [']']) := by
  rw [chars, text, String.toList_append, String.toList_append, toList_joined_texts]
  rfl

/-- An object type is the list of its entries, in braces. -/
theorem chars_object (o : PropertyTypes ValueType) :
    (object o).chars = '\x7b' :: entriesChars (entries o) := by
  have hentries : (fieldTexts o.isOptional o.required ++
      fieldTexts o.isOptional o.optional).map String.toList = (entries o).map Entry.chars := by
    rw [List.map_append, toList_fieldTexts, toList_fieldTexts, entries, PropertyTypes.fields,
      List.map_append, List.map_append, List.map_map, List.map_map]
    rfl
  change (objectText (fieldTexts o.isOptional o.required ++
    fieldTexts o.isOptional o.optional)).toList = _
  revert hentries
  generalize fieldTexts o.isOptional o.required ++ fieldTexts o.isOptional o.optional = ps
  intro hentries
  cases hes : entries o with
  | nil =>
      rw [hes, List.map_nil, List.map_eq_nil_iff] at hentries
      rw [hentries]
      rfl
  | cons e es =>
      rw [hes] at hentries
      have hps : ps.isEmpty = false := by
        cases ps with
        | nil => cases hentries
        | cons _ _ => rfl
      rw [objectText, hps, if_neg Bool.false_ne_true, String.toList_append,
        String.toList_append, toList_joined, hentries]
      rfl

/-- A dictionary type is written as an application to two types. -/
theorem chars_dictionary (k t : ValueType) :
    (dictionary k t).chars =
      ['R', 'e', 'c', 'o', 'r', 'd', '<'] ++ (k.chars ++ ([',', ' '] ++ (t.chars ++ ['>']))) := by
  simp [chars, text, String.toList_append]

/-- A union is the list of its members, with bars between them. -/
theorem chars_union (t : ValueType) (ts : List ValueType) :
    (union (t :: ts)).chars = [' ', '|', ' '].intercalate ((t :: ts).map chars) := by
  rw [chars, text, toList_joined_texts]
  · rfl
  · simp

/-! ## Summands -/

/-- A type is a union of several members, or it is its own summand. -/
theorem isChoice_cases (t : ValueType) :
    (∃ s s' ts, t = union (s :: s' :: ts)) ∨ t.isChoice = false := by
  unfold isChoice
  split
  · exact .inl ⟨_, _, _, rfl⟩
  · exact .inr rfl

theorem summands_union (s s' : ValueType) (ts : List ValueType) :
    (union (s :: s' :: ts)).summands = s :: s' :: ts := rfl

theorem summands_eq_singleton {t : ValueType} (ht : t.isChoice = false) :
    t.summands = [t] := by
  rw [summands, ht, if_neg Bool.false_ne_true]

/-- Only choices need parentheses. -/
theorem grouped_eq_chars {t : ValueType} (ht : t.isChoice = false) : t.grouped = t.chars := by
  rw [grouped, ht, if_neg Bool.false_ne_true]

theorem isChoice_eq_false {t : ValueType} (ht : t.isUnion = false) : t.isChoice = false := by
  cases t with
  | union _ => cases ht
  | _ => rfl

/-- **The text of a type** is made of its summands: no member of a flat union needs
parentheses. -/
theorem chars_eq_intercalate {t : ValueType} (ht : t.FlatUnion) :
    t.chars = [' ', '|', ' '].intercalate (t.summands.map grouped) := by
  rcases isChoice_cases t with ⟨s, s', ts, rfl⟩ | hchoice
  · have hmembers : (s :: s' :: ts).map chars = (s :: s' :: ts).map grouped :=
      List.map_congr_left fun u hu =>
        (grouped_eq_chars (isChoice_eq_false (ht.isUnion_eq_false u hu))).symm
    rw [chars_union, summands_union, hmembers]
  · rw [summands_eq_singleton hchoice, List.map_singleton, List.intercalate_singleton,
      grouped_eq_chars hchoice]

/-- Every text has a first summand. -/
theorem exists_summands_eq_cons (t : ValueType) : ∃ s ts, t.summands = s :: ts := by
  rcases isChoice_cases t with ⟨s, s', ts, rfl⟩ | hchoice
  · exact ⟨s, s' :: ts, rfl⟩
  · exact ⟨t, [], summands_eq_singleton hchoice⟩

/-- No two types have the same summands. -/
theorem summands_injective : Function.Injective summands := by
  intro t u h
  rcases isChoice_cases t with ⟨s, s', ts, rfl⟩ | ht <;>
    rcases isChoice_cases u with ⟨r, r', us, rfl⟩ | hu
  · rw [summands_union, summands_union] at h
    rw [h]
  · rw [summands_union, summands_eq_singleton hu] at h
    cases h
  · rw [summands_union, summands_eq_singleton ht] at h
    cases h
  · rw [summands_eq_singleton ht, summands_eq_singleton hu] at h
    exact (List.cons.inj h).1

/-! ## Arrays -/

theorem brackets_append (n : Nat) : brackets n ++ ['[', ']'] = brackets (n + 1) := by
  induction n with
  | zero => rfl
  | succ n ih => rw [brackets, List.cons_append, List.cons_append, ih]; rfl

/-- **A summand** is its core and some brackets. -/
theorem grouped_eq_core (t : ValueType) : t.grouped = t.core.grouped ++ brackets t.depth := by
  induction t using ValueType.induction with
  | array u ih =>
      change (array u).chars = u.core.grouped ++ brackets (u.depth + 1)
      rw [chars_array, ih, List.append_assoc, brackets_append]
  | _ => exact (List.append_nil _).symm

/-- The core and the number of brackets make up the type. -/
theorem iterate_array_core (t : ValueType) : array^[t.depth] t.core = t := by
  induction t using ValueType.induction with
  | array u ih =>
      change array^[u.depth + 1] u.core = array u
      rw [Function.iterate_succ_apply', ih]
  | _ => rfl

end Conformance.ValueType
