import Conformance.Proofs.Text.Quoting
import Conformance.Proofs.Text.Reading
import Conformance.Proofs.ValueType.Text

/-!
# Conformance.Proofs.ValueType.Reading

The text of a type tells the type.

Every core begins with one of a few openings (`Opens`), and no opening begins another one
(`Opening.prefix_free`).  So the opening tells what kind of type it is, and the rest can be
read back if the types that the core is made of can.  After a core the brackets can be
counted, and after a summand either a bar follows or the type is at its end.  Each level of
the grammar is read back from the one below it:

* `reads_core` — cores, whatever follows them;
* `reads_summand` — summands, where no bracket follows;
* `reads_chars` — types, where neither a bracket nor a bar follows;
* `text_inj` — so different types have different texts.

Left out are literals of numbers and classes: two classes may have one name, and a class
may be named like any other type.
-/

namespace Conformance.ValueType

open Text (Reads Closes)

/-! ## Legible types -/

/-- The type is neither the literal of a number nor a class. -/
def Spelled : ValueType → Prop
  | literal (.number _) => False
  | ofClass _ => False
  | _ => True

/-- At every depth, types are spelled out, unions are flat and the properties of object
types distinct. -/
def Legible (t : ValueType) : Prop :=
  t.Throughout fun u => u.Spelled ∧ u.FlatUnion ∧ u.DistinctNames

namespace Legible

variable {t : ValueType}

theorem spelled (ht : t.Legible) : t.Spelled := ht.here.1

theorem flatUnion (ht : t.Legible) : t.FlatUnion := ht.here.2.1

theorem distinctNames (ht : t.Legible) : t.DistinctNames := ht.here.2.2

theorem summands (ht : t.Legible) : ∀ u ∈ t.summands, u.Legible := by
  intro u hu
  rcases isChoice_cases t with ⟨s, s', ts, rfl⟩ | hchoice
  · exact ht.parts u hu
  · rw [summands_eq_singleton hchoice] at hu
    exact List.mem_singleton.1 hu ▸ ht

theorem core (ht : t.Legible) : t.core.Legible := by
  induction t using ValueType.induction with
  | array u ih => exact ih (ht.parts u List.mem_cons_self)
  | _ => exact ht

end Legible

/-! ## Openings -/

/-- What a type can begin with. -/
inductive Opening where
  | string | number | boolean | unknown | never | undefined | null | true | false
  | quote | bracket | brace | record | parenthesis
deriving DecidableEq

namespace Opening

def chars : Opening → List Char
  | string => "string".toList
  | number => "number".toList
  | boolean => "boolean".toList
  | unknown => "unknown".toList
  | never => "never".toList
  | undefined => "undefined".toList
  | null => "null".toList
  | true => "true".toList
  | false => "false".toList
  | quote => ['"']
  | bracket => ['[']
  | brace => ['\x7b']
  | record => "Record<".toList
  | parenthesis => ['(']

/-- No opening begins with another one. -/
theorem prefix_free {o p : Opening} (h : o.chars <+: p.chars) : o = p := by
  revert h
  cases o <;> cases p <;> decide

/-- An opening can be told from whatever follows it. -/
theorem append_inj {o p : Opening} {rest rest' : List Char}
    (h : o.chars ++ rest = p.chars ++ rest') : o = p ∧ rest = rest' := by
  have ho : o.chars <+: p.chars ++ rest' := h ▸ List.prefix_append _ _
  have hop : o = p := by
    rcases List.prefix_or_prefix_of_prefix ho (List.prefix_append _ _) with hop | hpo
    · exact prefix_free hop
    · exact (prefix_free hpo).symm
  subst hop
  exact ⟨rfl, List.append_cancel_left h⟩

/-- No type begins with a closing bracket. -/
theorem not_bracket (o : Opening) (rest : List Char) : ¬o.chars <+: ']' :: rest := by
  have hhead : ∃ c more, o.chars = c :: more ∧ c ≠ ']' := by
    cases o <;> exact ⟨_, _, rfl, by decide⟩
  obtain ⟨c, more, hchars, hc⟩ := hhead
  rw [hchars, List.cons_prefix_cons]
  exact fun h => hc h.1

end Opening

/-- The summand begins with the opening and goes on with the text. -/
inductive Opens : ValueType → Opening → List Char → Prop where
  | string : Opens .string .string []
  | number : Opens .number .number []
  | boolean : Opens .boolean .boolean []
  | unknown : Opens .unknown .unknown []
  | never : Opens (.union []) .never []
  | undefined : Opens (.literal .undefined) .undefined []
  | null : Opens (.literal .null) .null []
  | true : Opens (.literal (.bool .true)) .true []
  | false : Opens (.literal (.bool .false)) .false []
  | quote (s : String) :
      Opens (.literal (.string s)) .quote (s.toList.flatMap Text.escape ++ ['"'])
  | bracket (ts : List ValueType) :
      Opens (.tuple ts) .bracket ([',', ' '].intercalate (ts.map chars) ++ [']'])
  | brace (o : PropertyTypes ValueType) : Opens (.object o) .brace (entriesChars (entries o))
  | record (k t : ValueType) :
      Opens (.dictionary k t) .record (k.chars ++ ([',', ' '] ++ (t.chars ++ ['>'])))
  | parenthesis (s s' : ValueType) (ts : List ValueType) :
      Opens (.union (s :: s' :: ts)) .parenthesis ((union (s :: s' :: ts)).chars ++ [')'])

/-- The opening and what follows it are the whole summand. -/
theorem Opens.grouped_eq {t : ValueType} {o : Opening} {tail : List Char}
    (h : Opens t o tail) : t.grouped = o.chars ++ tail := by
  cases h with
  | quote s =>
      change (Text.quote s).toList = _
      rw [Text.quote, String.toList_ofList]
      rfl
  | bracket ts => exact chars_tuple ts
  | brace o => exact chars_object o
  | record k t => exact chars_dictionary k t
  | _ => rfl

/-- Every core has an opening. -/
theorem exists_opens {t : ValueType} (ht : t.Legible) : ∃ o tail, Opens t.core o tail := by
  induction t using ValueType.induction with
  | array u ih => exact ih (ht.parts u List.mem_cons_self)
  | string => exact ⟨_, _, .string⟩
  | number => exact ⟨_, _, .number⟩
  | boolean => exact ⟨_, _, .boolean⟩
  | unknown => exact ⟨_, _, .unknown⟩
  | literal l =>
      cases l with
      | undefined => exact ⟨_, _, .undefined⟩
      | null => exact ⟨_, _, .null⟩
      | bool b =>
          cases b with
          | true => exact ⟨_, _, .true⟩
          | false => exact ⟨_, _, .false⟩
      | number x => exact ht.spelled.elim
      | string s => exact ⟨_, _, .quote s⟩
  | tuple ts _ => exact ⟨_, _, .bracket ts⟩
  | object o _ => exact ⟨_, _, .brace o⟩
  | ofClass c => exact ht.spelled.elim
  | dictionary k u _ _ => exact ⟨_, _, .record k u⟩
  | union members _ =>
      match members, ht with
      | [], _ => exact ⟨_, _, .never⟩
      | [_], ht => exact absurd rfl ht.flatUnion.length_ne_one
      | s :: s' :: ts, _ => exact ⟨_, _, .parenthesis s s' ts⟩

/-- Every text of a type begins with an opening. -/
theorem exists_opening {t : ValueType} (ht : t.Legible) :
    ∃ o : Opening, o.chars <+: t.chars := by
  obtain ⟨s, ts, hsummands⟩ := exists_summands_eq_cons t
  have hs : s.Legible := ht.summands s (hsummands ▸ List.mem_cons_self)
  obtain ⟨o, tail, hopens⟩ := exists_opens hs
  refine ⟨o, ?_⟩
  calc o.chars
      <+: s.core.grouped := hopens.grouped_eq ▸ List.prefix_append _ _
    _ <+: s.grouped := grouped_eq_core s ▸ List.prefix_append _ _
    _ <+: t.chars := by
      rw [chars_eq_intercalate ht.flatUnion, hsummands, List.map_cons]
      exact Text.prefix_intercalate_cons _ _ _

/-! ## What follows -/

/-- No bracket follows: the summand is not an element type. -/
def NoBracket (rest : List Char) : Prop := rest.head? ≠ some '['

/-- Moreover no bar follows: the summand is the last one. -/
def Ends (rest : List Char) : Prop := Closes NoBracket [' ', '|', ' '] rest

theorem ends_nil : Ends [] := ⟨by simp [NoBracket], by simp⟩

/-- Any character ends a type but a bracket, and a space that might lead up to a bar. -/
theorem ends_cons (c : Char) (rest : List Char) (hbracket : c ≠ '[') (hspace : c ≠ ' ') :
    Ends (c :: rest) :=
  ⟨by simpa [NoBracket] using hbracket, by simp [List.cons_prefix_cons, hspace.symm]⟩

/-- The space before a brace leads up to no bar. -/
theorem ends_brace (rest : List Char) : Ends (' ' :: '\x7d' :: rest) :=
  ⟨by simp [NoBracket], by simp [List.cons_prefix_cons]⟩

/-- Brackets can be counted where none follows. -/
theorem brackets_append_inj {m n : Nat} {rest rest' : List Char} (hrest : NoBracket rest)
    (hrest' : NoBracket rest') (h : brackets m ++ rest = brackets n ++ rest') :
    m = n ∧ rest = rest' := by
  induction m generalizing n with
  | zero =>
      cases n with
      | zero => exact ⟨rfl, h⟩
      | succ n => exact absurd (congrArg List.head? h) hrest
  | succ m ih =>
      cases n with
      | zero => exact absurd (congrArg List.head? h).symm hrest'
      | succ n =>
          obtain ⟨rfl, htail⟩ := ih (List.cons.inj (List.cons.inj h).2).2
          exact ⟨rfl, htail⟩

/-! ## Summands and types -/

/-- The type is one that summands have as their core. -/
def IsCore (t : ValueType) : Prop := t.Legible ∧ ∃ o tail, Opens t o tail

/-- **Summands** can be read back if their cores can, by counting the brackets. -/
theorem reads_summand {t : ValueType}
    (hcore : Reads grouped IsCore (fun _ => True) t.core) :
    Reads grouped Legible NoBracket t := by
  intro u rest rest' hu hrest hrest' h
  rw [grouped_eq_core t, grouped_eq_core u, List.append_assoc, List.append_assoc] at h
  obtain ⟨hcores, hbrackets⟩ := hcore ⟨hu.core, exists_opens hu⟩ trivial trivial h
  obtain ⟨hdepths, htail⟩ := brackets_append_inj hrest hrest' hbrackets
  have htu : t = u := by
    rw [← iterate_array_core t, ← iterate_array_core u, hcores, hdepths]
  exact ⟨htu, htail⟩

/-- **Types** can be read back if their summands can. -/
theorem reads_chars {t : ValueType} (ht : t.Legible)
    (hsummands : ∀ u ∈ t.summands, Reads grouped Legible NoBracket u) :
    Reads chars Legible Ends t := by
  intro u rest rest' hu hrest hrest' h
  rw [chars_eq_intercalate ht.flatUnion, chars_eq_intercalate hu.flatUnion] at h
  obtain ⟨s, ss, hs⟩ := exists_summands_eq_cons t
  obtain ⟨r, rs, hr⟩ := exists_summands_eq_cons u
  have hkind := hu.summands
  rw [hs] at h hsummands
  rw [hr] at h hkind
  obtain ⟨hsame, htail⟩ := Text.intercalate_append_inj hsummands hkind
    (fun more => by simp [NoBracket]) hrest hrest' h
  exact ⟨summands_injective (by rw [hs, hr, hsame]), htail⟩

/-- A type that is no choice is its only summand. -/
theorem reads_single {t : ValueType} (ht : t.Legible) (hchoice : t.isChoice = false)
    (hcore : Reads grouped IsCore (fun _ => True) t.core) : Reads chars Legible Ends t := by
  refine reads_chars ht fun u hu => ?_
  rw [summands_eq_singleton hchoice] at hu
  exact List.mem_singleton.1 hu ▸ reads_summand hcore

/-! ## Tuples -/

/-- The end of an empty tuple cannot be taken for a first element. -/
theorem bracket_ne_intercalate {t : ValueType} (ht : t.Legible) (ts : List ValueType)
    (rest rest' : List Char) :
    ']' :: rest ≠ [',', ' '].intercalate ((t :: ts).map chars) ++ rest' := by
  obtain ⟨o, ho⟩ := exists_opening ht
  intro h
  refine o.not_bracket rest (h ▸ ?_)
  exact (ho.trans (Text.prefix_intercalate_cons _ _ _)).trans (List.prefix_append _ _)

/-- The elements of a tuple are read one by one, up to the bracket. -/
theorem elements_append_inj {ts us : List ValueType} {rest rest' : List Char}
    (hts : ∀ t ∈ ts, t.Legible ∧ Reads chars Legible Ends t) (hus : ∀ u ∈ us, u.Legible)
    (h : [',', ' '].intercalate (ts.map chars) ++ ']' :: rest =
      [',', ' '].intercalate (us.map chars) ++ ']' :: rest') : ts = us ∧ rest = rest' := by
  have hcloses (more : List Char) : Closes Ends [',', ' '] (']' :: more) :=
    ⟨ends_cons ']' more (by decide) (by decide), by simp [List.cons_prefix_cons]⟩
  cases ts with
  | nil =>
      cases us with
      | nil => exact ⟨rfl, (List.cons.inj h).2⟩
      | cons u us => exact absurd h (bracket_ne_intercalate (hus u List.mem_cons_self) us _ _)
  | cons t ts =>
      cases us with
      | nil =>
          exact absurd h.symm
            (bracket_ne_intercalate (hts t List.mem_cons_self).1 ts _ _)
      | cons u us =>
          obtain ⟨hsame, htail⟩ := Text.intercalate_append_inj (fun c hc => (hts c hc).2) hus
            (fun more => ends_cons ',' _ (by decide) (by decide)) (hcloses rest) (hcloses rest') h
          exact ⟨hsame, (List.cons.inj htail).2⟩

/-! ## Object types -/

theorem keyText_of_isIdentifier {k : String} (hk : Text.isIdentifier k = true) :
    (keyText k).toList = k.toList := by
  rw [keyText, hk, if_pos rfl]

/-- Keys that are no identifiers are quoted. -/
theorem keyText_of_not_isIdentifier {k : String} (hk : Text.isIdentifier k = false) :
    (keyText k).toList = Text.quoteChars k.toList := by
  rw [keyText, hk, if_neg Bool.false_ne_true, Text.quote, String.toList_ofList]

/-- A property name tells the property, be it in quotes or not, if what follows is no part
of a word. -/
theorem keyText_append_inj {k l : String} {rest rest' : List Char}
    (hrest : ∀ c ∈ rest.head?, Text.continuesIdentifier c = false)
    (hrest' : ∀ c ∈ rest'.head?, Text.continuesIdentifier c = false)
    (h : (keyText k).toList ++ rest = (keyText l).toList ++ rest') : k = l ∧ rest = rest' := by
  cases hk : Text.isIdentifier k <;> cases hl : Text.isIdentifier l
  · rw [keyText_of_not_isIdentifier hk, keyText_of_not_isIdentifier hl] at h
    obtain ⟨hkl, htail⟩ := Text.quoteChars_append_inj h
    exact ⟨String.toList_inj.1 hkl, htail⟩
  · rw [keyText_of_not_isIdentifier hk, keyText_of_isIdentifier hl] at h
    exact absurd h.symm (Text.identifier_append_ne_quote hl _ _ _)
  · rw [keyText_of_isIdentifier hk, keyText_of_not_isIdentifier hl] at h
    exact absurd h (Text.identifier_append_ne_quote hk _ _ _)
  · rw [keyText_of_isIdentifier hk, keyText_of_isIdentifier hl] at h
    obtain ⟨hkl, htail⟩ := Text.word_append_inj (Text.continuesIdentifier_of_mem hk)
      (Text.continuesIdentifier_of_mem hl) hrest hrest' h
    exact ⟨String.toList_inj.1 hkl, htail⟩

theorem forall_entries {P : ValueType → Prop} {o : PropertyTypes ValueType}
    (h : ∀ u ∈ (object o).parts, P u) : ∀ e ∈ entries o, P e.type := by
  intro e he
  obtain ⟨f, hf, rfl⟩ := List.mem_map.1 he
  exact h f.2 (List.mem_map_of_mem hf)

/-- A question mark tells properties that may be missing. -/
theorem Entry.mark_append_inj {e f : Entry} {rest rest' : List Char}
    (h : e.mark ++ rest = f.mark ++ rest') : e.marked = f.marked ∧ rest = rest' := by
  unfold mark at h
  cases he : e.marked <;> cases hf : f.marked <;> simp_all

/-- A property is read back by its key, its mark and its type. -/
theorem Entry.reads {e : Entry} (htype : Reads ValueType.chars Legible Ends e.type) :
    Reads Entry.chars (fun f => f.type.Legible) Ends e := by
  intro f rest rest' hf hrest hrest' h
  have hmark (g : Entry) (more : List Char) :
      ∀ c ∈ (g.mark ++ more).head?, Text.continuesIdentifier c = false := by
    unfold mark
    cases g.marked <;> simp <;> decide
  simp only [Entry.chars, List.append_assoc] at h
  obtain ⟨hkey, hafter⟩ := keyText_append_inj (hmark e _) (hmark f _) h
  obtain ⟨hmarked, hafter⟩ := mark_append_inj hafter
  obtain ⟨htypes, htail⟩ := htype hf hrest hrest' hafter
  obtain ⟨marked, key, type⟩ := e
  obtain ⟨marked', key', type'⟩ := f
  rw [Entry.mk.injEq]
  exact ⟨⟨hmarked, hkey, htypes⟩, htail⟩

/-- Properties are read one by one, up to the brace. -/
theorem entriesChars_append_inj {es fs : List Entry} {rest rest' : List Char}
    (hes : ∀ e ∈ es, Reads ValueType.chars Legible Ends e.type)
    (hfs : ∀ f ∈ fs, f.type.Legible)
    (h : entriesChars es ++ rest = entriesChars fs ++ rest') : es = fs ∧ rest = rest' := by
  have hcloses (more : List Char) : Closes Ends [';', ' '] (' ' :: '\x7d' :: more) :=
    ⟨ends_brace more, by simp [List.cons_prefix_cons]⟩
  cases es with
  | nil =>
      cases fs with
      | nil => exact ⟨rfl, (List.cons.inj h).2⟩
      | cons f fs => exact absurd (List.cons.inj h).1 (by decide)
  | cons e es =>
      cases fs with
      | nil => exact absurd (List.cons.inj h).1 (by decide)
      | cons f fs =>
          simp only [entriesChars, List.cons_append, List.append_assoc, List.nil_append] at h
          obtain ⟨hsame, htail⟩ := Text.intercalate_append_inj
            (fun c hc => Entry.reads (hes c hc)) hfs
            (fun more => ends_cons ';' _ (by decide) (by decide)) (hcloses rest) (hcloses rest')
            (List.cons.inj h).2
          exact ⟨hsame, (List.cons.inj (List.cons.inj htail).2).2⟩

/-- Where names are distinct, the optional properties are the marked ones. -/
theorem entries_eq_append {o : PropertyTypes ValueType} (ho : (object o).DistinctNames) :
    entries o = o.required.map (fun f => ⟨false, f.1, f.2⟩) ++
      o.optional.map fun f => ⟨true, f.1, f.2⟩ := by
  rw [entries, PropertyTypes.fields, List.map_append]
  rw [DistinctNames, PropertyTypes.fields, List.map_append, List.nodup_append] at ho
  obtain ⟨-, -, hdisjoint⟩ := ho
  have hrequired : ∀ f ∈ o.required, o.isOptional f.1 = false := by
    intro f hf
    refine List.any_eq_false.2 fun g hg hsame => ?_
    exact hdisjoint f.1 (List.mem_map_of_mem hf) g.1 (List.mem_map_of_mem hg)
      (beq_iff_eq.1 hsame).symm
  have hoptional : ∀ f ∈ o.optional, o.isOptional f.1 = true :=
    fun f hf => List.any_eq_true.2 ⟨f, hf, beq_self_eq_true f.1⟩
  exact congrArg₂ (· ++ ·) (List.map_congr_left fun f hf => by rw [hrequired f hf])
    (List.map_congr_left fun f hf => by rw [hoptional f hf])

/-- The marks tell which properties are the required ones. -/
theorem required_eq_filter {o : PropertyTypes ValueType} (ho : (object o).DistinctNames) :
    o.required = ((entries o).filter (!·.marked)).map fun e => (e.key, e.type) := by
  simp [entries_eq_append ho, List.filter_map, Function.comp_def]

/-- With distinct names, the marked entries are the optional properties. -/
theorem optional_eq_filter {o : PropertyTypes ValueType} (ho : (object o).DistinctNames) :
    o.optional = ((entries o).filter (·.marked)).map fun e => (e.key, e.type) := by
  simp [entries_eq_append ho, List.filter_map, Function.comp_def]

/-- The marks sort entries back into their groups. -/
theorem entries_inj {o o' : PropertyTypes ValueType} (ho : (object o).DistinctNames)
    (ho' : (object o').DistinctNames) (h : entries o = entries o') : o = o' := by
  have hrequired : o.required = o'.required := by
    rw [required_eq_filter ho, required_eq_filter ho', h]
  have hoptional : o.optional = o'.optional := by
    rw [optional_eq_filter ho, optional_eq_filter ho', h]
  obtain ⟨required, optional⟩ := o
  obtain ⟨required', optional'⟩ := o'
  rw [PropertyTypes.mk.injEq]
  exact ⟨hrequired, hoptional⟩

/-! ## Cores -/

/-- **Cores** can be read back if the types they are made of can, and in parentheses the
type itself. -/
theorem reads_core {t : ValueType} {o : Opening} {tail : List Char} (h : Opens t o tail)
    (ht : t.Legible) (hparts : ∀ u ∈ t.parts, Reads chars Legible Ends u)
    (hchoice : t.isChoice = true → Reads chars Legible Ends t) :
    Reads grouped IsCore (fun _ => True) t := by
  intro u rest rest' hu _ _ heq
  obtain ⟨hu, p, tail', h'⟩ := hu
  rw [h.grouped_eq, h'.grouped_eq, List.append_assoc, List.append_assoc] at heq
  obtain ⟨rfl, htexts⟩ := Opening.append_inj heq
  cases h with
  | quote s =>
      cases h' with
      | quote s' =>
          simp only [List.append_assoc, List.cons_append, List.nil_append] at htexts
          obtain ⟨hs, htail⟩ := Text.flatMap_escape_inj htexts
          exact ⟨by rw [String.toList_inj.1 hs], htail⟩
  | bracket ts =>
      cases h' with
      | bracket us =>
          simp only [List.append_assoc, List.cons_append, List.nil_append] at htexts
          obtain ⟨rfl, htail⟩ := elements_append_inj
            (fun t hmem => ⟨ht.parts t hmem, hparts t hmem⟩) hu.parts htexts
          exact ⟨rfl, htail⟩
  | brace o =>
      cases h' with
      | brace o' =>
          obtain ⟨hentries, htail⟩ := entriesChars_append_inj
            (forall_entries hparts) (forall_entries hu.parts) htexts
          exact ⟨by rw [entries_inj ht.distinctNames hu.distinctNames hentries], htail⟩
  | record k v =>
      cases h' with
      | record k' v' =>
          have hk : k'.Legible := hu.parts k' (by simp [parts])
          have hv : v'.Legible := hu.parts v' (by simp [parts])
          simp only [List.append_assoc, List.cons_append, List.nil_append] at htexts
          obtain ⟨rfl, hcomma⟩ := hparts k (by simp [parts]) hk
            (ends_cons ',' _ (by decide) (by decide)) (ends_cons ',' _ (by decide) (by decide))
            htexts
          obtain ⟨rfl, hangle⟩ := hparts v (by simp [parts]) hv
            (ends_cons '>' _ (by decide) (by decide)) (ends_cons '>' _ (by decide) (by decide))
            (List.cons.inj (List.cons.inj hcomma).2).2
          exact ⟨rfl, (List.cons.inj hangle).2⟩
  | parenthesis s s' ts =>
      cases h' with
      | parenthesis r r' us =>
          simp only [List.append_assoc, List.cons_append, List.nil_append] at htexts
          obtain ⟨hsame, hparenthesis⟩ := hchoice rfl hu
            (ends_cons ')' _ (by decide) (by decide)) (ends_cons ')' _ (by decide) (by decide))
            htexts
          exact ⟨hsame, (List.cons.inj hparenthesis).2⟩
  | _ =>
      cases h'
      exact ⟨rfl, htexts⟩

/-! ## All types -/

/-- Both the core of a type, whatever follows, and the type can be read back. -/
structure Readable (t : ValueType) : Prop where
  core : Reads grouped IsCore (fun _ => True) t.core
  text : Reads chars Legible Ends t

/-- A type that is no array can be read back if the types it is made of can. -/
theorem readable_of_parts {t : ValueType} (ht : t.Legible) (hcore : t.core = t)
    (hparts : ∀ u ∈ t.parts, u.Readable) : t.Readable := by
  obtain ⟨o, tail, hopens⟩ := exists_opens ht
  rw [hcore] at hopens
  have htexts (u : ValueType) (hu : u ∈ t.parts) := (hparts u hu).text
  rcases isChoice_cases t with ⟨s, s', ts, rfl⟩ | hchoice
  · -- The members can be read back, so the choice can, so it can in parentheses.
    have htext := reads_chars ht fun u hu => reads_summand (hparts u hu).core
    exact ⟨reads_core hopens ht htexts fun _ => htext, htext⟩
  · have hread := reads_core hopens ht htexts
      fun htrue => absurd (htrue.symm.trans hchoice) (by decide)
    rw [← hcore] at hread
    exact ⟨hread, reads_single ht hchoice hread⟩

/-- Every legible type can be read back, since the types it is made of can. -/
theorem Legible.readable {t : ValueType} (ht : t.Legible) : t.Readable := by
  induction ht with
  | @intro t here parts ih =>
      have ht : t.Legible := .intro here parts
      cases t with
      | array u =>
          have hcore := (ih u List.mem_cons_self).core
          exact ⟨hcore, reads_single ht rfl hcore⟩
      | _ => exact readable_of_parts ht rfl ih

/-- **Texts are unambiguous**: two legible types with the same text are the same type. -/
theorem text_inj {s t : ValueType} (hs : s.Legible) (ht : t.Legible) :
    s.text = t.text ↔ s = t := by
  refine ⟨fun h => ?_, congrArg text⟩
  have hchars : s.chars ++ [] = t.chars ++ [] := by rw [chars, chars, h]
  exact (hs.readable.text ht ends_nil ends_nil hchars).1

/-- Arrays of strings or numbers in an object, with a property that may be missing. -/
def mixedRow : ValueType :=
  object { required := [("cells", array (union [string, number]))], optional := [("id", string)] }

/-- Strings or arrays of numbers, and a property whose name ends like a mark. -/
def loneRow : ValueType :=
  object { required := [("cells", union [string, array number]), ("id?", string)] }

theorem text_inj_rows : mixedRow.Legible ∧ loneRow.Legible ∧ mixedRow.text ≠ loneRow.text := by
  have hstring : string.Legible := .leaf ⟨trivial, trivial, trivial⟩ rfl
  have hnumber : number.Legible := .leaf ⟨trivial, trivial, trivial⟩ rfl
  have harray {t : ValueType} (ht : t.Legible) : (array t).Legible :=
    .intro ⟨trivial, trivial, trivial⟩ (List.forall_mem_singleton.2 ht)
  have hunion {t u : ValueType} (ht : t.Legible) (hu : u.Legible)
      (hflat : FlatMembers [t, u]) : (union [t, u]).Legible :=
    .intro ⟨trivial, hflat, trivial⟩
      (List.forall_mem_cons.2 ⟨ht, List.forall_mem_singleton.2 hu⟩)
  have hmixed : mixedRow.Legible := by
    have hcells := harray (hunion hstring hnumber (by decide))
    have hnames : ["cells", "id"].Nodup := by decide
    exact .intro ⟨trivial, trivial, hnames⟩
      (List.forall_mem_cons.2 ⟨hcells, List.forall_mem_singleton.2 hstring⟩)
  have hlone : loneRow.Legible := by
    have hcells := hunion hstring (harray hnumber) (by decide)
    have hnames : ["cells", "id?"].Nodup := by decide
    exact .intro ⟨trivial, trivial, hnames⟩
      (List.forall_mem_cons.2 ⟨hcells, List.forall_mem_singleton.2 hstring⟩)
  refine ⟨hmixed, hlone, fun h => ?_⟩
  cases (text_inj hmixed hlone).1 h

/-- A union within a union would not show. -/
example : (union [union [string, number], boolean]).text =
    (union [string, number, boolean]).text := by decide

end Conformance.ValueType
