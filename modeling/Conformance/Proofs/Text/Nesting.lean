import Mathlib.Data.List.Infix
import Conformance.Proofs.Text.Quoting

/-!
# Conformance.Proofs.Text.Nesting

Texts in which round, square and curly brackets are properly nested outside of quoted
strings.

A scan keeps the brackets that are still to come, the innermost first. It never looks below
those it has added itself (`scan_append_pending`), so a nested text can stand anywhere.

* `nested_iff_not_straddles` — a part of a nested text is nested exactly if no pair of
  brackets has one end in the part and the other one outside of it.
* `WellNested` — the brackets outside of strings are nested, and every string ends. What is
  built of such texts by `append`, `enclose` and `intercalate` is such a text again.
* `wellNested_quoteChars` — so is every quoted string, whatever it says.
-/

namespace Conformance.Text

variable {c o : Char} {cs ds front part back : List Char} {p q below : List Char}

/-! ## Scanning brackets -/

/-- The bracket that closes a bracket. -/
def closer? (c : Char) : Option Char :=
  if c = '(' then some ')'
  else if c = '[' then some ']'
  else if c = '\x7b' then some '\x7d'
  else none

def isCloser (c : Char) : Bool := c == ')' || c == ']' || c == '\x7d'

def isBracket (c : Char) : Bool := (closer? c).isSome || isCloser c

/-- One character of a scan: the brackets to come after it, unless it closes another bracket
than the innermost one. -/
def nest (pending : List Char) (c : Char) : Option (List Char) :=
  match closer? c with
  | some d => some (d :: pending)
  | none =>
    if isCloser c then
      if pending.head? = some c then some pending.tail else none
    else some pending

/-- The brackets to come after a text. -/
def scan (pending cs : List Char) : Option (List Char) := cs.foldlM nest pending

/-- Every bracket is closed, and in the right order. -/
def Nested (cs : List Char) : Prop := scan [] cs = some []

instance (cs : List Char) : Decidable (Nested cs) :=
  inferInstanceAs (Decidable (scan [] cs = some []))

/-- What closes a bracket is a closing bracket. -/
theorem isCloser_of_closer?_eq_some (h : closer? o = some c) : isCloser c = true := by
  unfold closer? at h
  split_ifs at h <;> cases h <;> decide

/-- No bracket both opens and closes. -/
theorem closer?_eq_none_of_isCloser (h : isCloser c = true) : closer? c = none := by
  simp only [isCloser, Bool.or_eq_true, beq_iff_eq] at h
  rcases h with (rfl | rfl) | rfl <;> rfl

/-- After an opening bracket, its partner is still to come. -/
theorem nest_open (h : closer? o = some c) (pending : List Char) :
    nest pending o = some (c :: pending) := by
  rw [nest, h]

theorem nest_close (h : isCloser c = true) (pending : List Char) :
    nest (c :: pending) c = some pending := by
  rw [nest, closer?_eq_none_of_isCloser h]
  simp [h]

/-- Other characters change nothing. -/
theorem nest_plain (h : isBracket c = false) (pending : List Char) :
    nest pending c = some pending := by
  obtain ⟨hnone, hcloses⟩ := Bool.or_eq_false_iff.1 h
  rw [nest, Option.not_isSome_iff_eq_none.1 (Bool.eq_false_iff.1 hnone)]
  simp [hcloses]

/-- A character opens a bracket, closes the innermost one or is no bracket. -/
theorem nest_cases (h : nest p c = some q) :
    (∃ d, closer? c = some d ∧ q = d :: p) ∨ (isCloser c = true ∧ p = c :: q) ∨
      (isBracket c = false ∧ q = p) := by
  cases hopens : closer? c with
  | some d =>
      rw [nest_open hopens] at h
      exact .inl ⟨d, rfl, (Option.some.inj h).symm⟩
  | none =>
      cases hcloses : isCloser c with
      | false =>
          have hplain : isBracket c = false := by rw [isBracket, hopens, hcloses]; rfl
          rw [nest_plain hplain] at h
          exact .inr (.inr ⟨hplain, (Option.some.inj h).symm⟩)
      | true =>
          rw [nest, hopens] at h
          cases p <;> simp_all

@[simp] theorem scan_nil (pending : List Char) : scan pending [] = some pending := rfl

theorem scan_cons (pending : List Char) (c : Char) (cs : List Char) :
    scan pending (c :: cs) = (nest pending c).bind (scan · cs) := by
  rw [scan, List.foldlM_cons]
  rfl

theorem scan_append (pending cs ds : List Char) :
    scan pending (cs ++ ds) = (scan pending cs).bind (scan · ds) := by
  rw [scan, List.foldlM_append]
  rfl

theorem scan_append_eq_some_iff {r : List Char} :
    scan p (cs ++ ds) = some r ↔ ∃ q, scan p cs = some q ∧ scan q ds = some r := by
  rw [scan_append, Option.bind_eq_some_iff]

theorem scan_cons_eq_some_iff {r : List Char} :
    scan p (c :: cs) = some r ↔ ∃ q, nest p c = some q ∧ scan q cs = some r := by
  rw [scan_cons, Option.bind_eq_some_iff]

/-- A scan sees the brackets only. -/
theorem scan_filter_isBracket (pending cs : List Char) :
    scan pending (cs.filter isBracket) = scan pending cs := by
  induction cs generalizing pending with
  | nil => rfl
  | cons c cs ih =>
      cases hc : isBracket c with
      | true =>
          rw [List.filter_cons_of_pos hc, scan_cons, scan_cons]
          exact Option.bind_congr fun q _ => ih q
      | false =>
          rw [List.filter_cons_of_neg (Bool.not_eq_true _ ▸ hc), scan_cons, nest_plain hc, ih]
          rfl

/-! ## What is pending below -/

/-- A step looks at the innermost bracket only. -/
theorem nest_append_pending (h : nest p c = some q) (below : List Char) :
    nest (p ++ below) c = some (q ++ below) := by
  rcases nest_cases h with ⟨d, hopens, rfl⟩ | ⟨hcloses, rfl⟩ | ⟨hplain, rfl⟩
  · exact nest_open hopens _
  · exact nest_close hcloses _
  · exact nest_plain hplain _

/-- A scan does the same whatever is pending below. -/
theorem scan_append_pending (h : scan p cs = some q) (below : List Char) :
    scan (p ++ below) cs = some (q ++ below) := by
  induction cs generalizing p with
  | nil => cases h; rfl
  | cons c cs ih =>
      obtain ⟨r, hstep, hrest⟩ := scan_cons_eq_some_iff.1 h
      exact scan_cons_eq_some_iff.2 ⟨_, nest_append_pending hstep below, ih hrest⟩

/-- A nested text leaves what is to come as it was. -/
theorem Nested.scan_eq (h : Nested cs) (pending : List Char) :
    scan pending cs = some pending :=
  scan_append_pending h pending

/-- A step that reaches below what is pending on top closes the first bracket there. -/
theorem nest_of_append_pending (h : nest (p ++ below) c = some q) :
    (∃ p', nest p c = some p' ∧ q = p' ++ below) ∨ (p = [] ∧ below.head? = some c) := by
  rcases nest_cases h with ⟨d, hopens, rfl⟩ | ⟨hcloses, htop⟩ | ⟨hplain, rfl⟩
  · exact .inl ⟨d :: p, nest_open hopens p, rfl⟩
  · cases p with
    | nil => exact .inr ⟨rfl, congrArg List.head? htop⟩
    | cons d p =>
        obtain ⟨rfl, rfl⟩ := List.cons.inj htop
        exact .inl ⟨p, nest_close hcloses p, rfl⟩
  · exact .inl ⟨p, nest_plain hplain p, rfl⟩

/-- A scan leaves alone what is pending below, or else the text closes the first bracket of
it somewhere. -/
theorem scan_of_append_pending (h : scan (p ++ below) cs = some q) :
    (∃ p', scan p cs = some p' ∧ q = p' ++ below) ∨
      ∃ inner c after, cs = inner ++ c :: after ∧ scan p inner = some [] ∧
        below.head? = some c := by
  induction cs generalizing p with
  | nil => cases h; exact .inl ⟨p, rfl, rfl⟩
  | cons c cs ih =>
      obtain ⟨r, hstep, hrest⟩ := scan_cons_eq_some_iff.1 h
      rcases nest_of_append_pending hstep with ⟨p', hp', rfl⟩ | ⟨rfl, hc⟩
      · rcases ih hrest with ⟨p'', hscan, rfl⟩ | ⟨inner, d, after, rfl, hinner, hd⟩
        · exact .inl ⟨p'', scan_cons_eq_some_iff.2 ⟨p', hp', hscan⟩, rfl⟩
        · exact .inr ⟨c :: inner, d, after, rfl, scan_cons_eq_some_iff.2 ⟨p', hp', hinner⟩, hd⟩
      · exact .inr ⟨[], c, cs, rfl, rfl, hc⟩

/-- A bracket that is still to come was opened somewhere. What has to come before it was
opened behind that place. -/
theorem exists_opening_bracket (h : scan [] cs = some (q ++ c :: p)) :
    ∃ before o inner, cs = before ++ o :: inner ∧ closer? o = some c ∧
      scan [] inner = some q := by
  induction cs using List.reverseRecOn generalizing q with
  | nil => simp at h
  | append_singleton cs d ih =>
      obtain ⟨r, hfront, hlast⟩ := scan_append_eq_some_iff.1 h
      obtain ⟨s, hstep, hs⟩ := scan_cons_eq_some_iff.1 hlast
      cases hs
      -- The bracket was there before the last character, unless that one opens it.
      have hearlier (q' : List Char) (hr : r = q' ++ c :: p) (hnest : nest q' d = some q) :
          ∃ before o inner, cs ++ [d] = before ++ o :: inner ∧ closer? o = some c ∧
            scan [] inner = some q := by
        obtain ⟨before, o, inner, rfl, hopens, hinner⟩ := ih (hr ▸ hfront)
        refine ⟨before, o, inner ++ [d], by simp, hopens, ?_⟩
        rw [scan_append, hinner, Option.bind_some, scan_cons, hnest]
        rfl
      rcases nest_cases hstep with ⟨e, hopens, htop⟩ | ⟨hcloses, htop⟩ | ⟨hplain, htop⟩
      · cases q with
        | nil =>
            obtain ⟨rfl, rfl⟩ := List.cons.inj htop
            exact ⟨cs, d, [], rfl, hopens, rfl⟩
        | cons e' q =>
            obtain ⟨rfl, rfl⟩ := List.cons.inj htop
            exact hearlier q rfl (nest_open hopens q)
      · exact hearlier (d :: q) htop (nest_close hcloses q)
      · exact hearlier q htop.symm (nest_plain hplain q)

/-! ## Parts of a text -/

/-- A bracket of the first text is closed in the second one. -/
inductive Straddles : List Char → List Char → Prop where
  | intro {before inner inner' after : List Char} {o c : Char} (closes : closer? o = some c)
      (between : Nested (inner ++ inner')) :
      Straddles (before ++ o :: inner) (inner' ++ c :: after)

/-- No bracket from before a nested text is closed in it. -/
theorem Nested.not_straddles_left (hpart : Nested part) (front : List Char) :
    ¬Straddles front part := by
  rintro ⟨hopens, hbetween⟩
  obtain ⟨r, -, hr⟩ := scan_append_eq_some_iff.1 hbetween
  obtain ⟨s, hs, hafter⟩ := scan_append_eq_some_iff.1 hpart
  obtain ⟨t, hstep, -⟩ := scan_cons_eq_some_iff.1 hafter
  -- Between the two brackets nothing is open at the end, so nothing is in the part.
  have hnone : s ++ r = [] := Option.some.inj ((scan_append_pending hs r).symm.trans hr)
  obtain ⟨rfl, -⟩ := List.append_eq_nil_iff.1 hnone
  have hcloses := isCloser_of_closer?_eq_some hopens
  simp [nest, closer?_eq_none_of_isCloser hcloses, hcloses] at hstep

/-- No bracket of a nested text is closed behind it. -/
theorem Nested.not_straddles_right (hpart : Nested part) (back : List Char) :
    ¬Straddles part back := by
  rintro ⟨hopens, hbetween⟩
  obtain ⟨r, hr, -⟩ := scan_append_eq_some_iff.1 hbetween
  obtain ⟨s, -, hinner⟩ := scan_append_eq_some_iff.1 hpart
  obtain ⟨t, hstep, hclosed⟩ := scan_cons_eq_some_iff.1 hinner
  rw [nest_open hopens] at hstep
  cases hstep
  have hnone := (scan_append_pending hr _).symm.trans hclosed
  simp at hnone

/-- **A part of a nested text** is nested exactly if no pair of brackets has one end in the
part and the other one outside of it. -/
theorem nested_iff_not_straddles (h : Nested (front ++ (part ++ back))) :
    Nested part ↔ ¬Straddles front part ∧ ¬Straddles part back := by
  refine ⟨fun hpart => ⟨hpart.not_straddles_left front, hpart.not_straddles_right back⟩, ?_⟩
  rintro ⟨hleft, hright⟩
  obtain ⟨opened, hfront, hrest⟩ := scan_append_eq_some_iff.1 h
  obtain ⟨opened', hpart, hback⟩ := scan_append_eq_some_iff.1 hrest
  rcases scan_of_append_pending (p := []) hpart with
    ⟨own, hown, rfl⟩ | ⟨inner', c, after, rfl, hinner', htop⟩
  · cases own with
    | nil => exact hown
    | cons c own =>
        rcases scan_of_append_pending (p := []) hback with
          ⟨p', -, hnone⟩ | ⟨inner', d, after, rfl, hinner', htop⟩
        · simp at hnone
        · cases htop
          obtain ⟨before, o, inner, rfl, hopens, hinner⟩ := exists_opening_bracket (q := []) hown
          exact absurd ⟨hopens, scan_append_eq_some_iff.2 ⟨[], hinner, hinner'⟩⟩ hright
  · obtain ⟨opened, rfl⟩ : ∃ tail, opened = c :: tail := List.head?_eq_some_iff.1 htop
    obtain ⟨before, o, inner, rfl, hopens, hinner⟩ := exists_opening_bracket (q := []) hfront
    exact absurd ⟨hopens, scan_append_eq_some_iff.2 ⟨[], hinner, hinner'⟩⟩ hleft

/-! ## Strings within a text -/

/-- Where a character stands: outside of strings, in a string, or in a string behind a
backslash. -/
inductive Place where
  | outside | inside | escaped
deriving DecidableEq

/-- The place behind a character. -/
def Place.next : Place → Char → Place
  | outside, c => if c = '"' then inside else outside
  | inside, c => if c = '"' then outside else if c = '\\' then escaped else inside
  | escaped, _ => inside

/-- The place behind a text. -/
def Place.after (place : Place) (cs : List Char) : Place := cs.foldl next place

/-- The characters of a text without its strings and their quotes. -/
def unquoted : Place → List Char → List Char
  | _, [] => []
  | place, c :: cs =>
    if place = .outside ∧ place.next c = .outside then c :: unquoted (place.next c) cs
    else unquoted (place.next c) cs

/-- Every string in the text ends. -/
def StringsEnd (cs : List Char) : Prop := Place.after .outside cs = .outside

instance (cs : List Char) : Decidable (StringsEnd cs) :=
  inferInstanceAs (Decidable (Place.after .outside cs = .outside))

theorem Place.after_cons (place : Place) (c : Char) (cs : List Char) :
    place.after (c :: cs) = (place.next c).after cs := rfl

theorem Place.after_append (place : Place) (cs ds : List Char) :
    place.after (cs ++ ds) = (place.after cs).after ds :=
  List.foldl_append

/-- Outside of strings a character stays, if it is no quote. -/
theorem unquoted_cons (h : Place.next .outside c = .outside) (cs : List Char) :
    unquoted .outside (c :: cs) = c :: unquoted .outside cs := by
  rw [unquoted, if_pos ⟨rfl, h⟩, h]

/-- Whether the second text is in a string is up to the first one. -/
theorem unquoted_append (place : Place) (cs ds : List Char) :
    unquoted place (cs ++ ds) = unquoted place cs ++ unquoted (place.after cs) ds := by
  induction cs generalizing place with
  | nil => rfl
  | cons c cs ih =>
      simp only [List.cons_append, unquoted, ih]
      split_ifs
      · rfl
      · rfl

/-- Where all strings end, the next text begins outside. -/
theorem StringsEnd.after_append (h : StringsEnd cs) (ds : List Char) :
    Place.after .outside (cs ++ ds) = Place.after .outside ds := by
  rw [Place.after_append, h]

theorem StringsEnd.append (hcs : StringsEnd cs) (hds : StringsEnd ds) : StringsEnd (cs ++ ds) :=
  (hcs.after_append ds).trans hds

/-- Where all strings end, texts may be stripped of strings one by one. -/
theorem StringsEnd.unquoted_append (h : StringsEnd cs) (ds : List Char) :
    unquoted .outside (cs ++ ds) = unquoted .outside cs ++ unquoted .outside ds := by
  rw [Text.unquoted_append, h]

/-- A text without quotes has no strings. -/
theorem unquoted_of_not_mem (h : '"' ∉ cs) : StringsEnd cs ∧ unquoted .outside cs = cs := by
  induction cs with
  | nil => exact ⟨rfl, rfl⟩
  | cons c cs ih =>
      obtain ⟨hc, hcs⟩ := not_or.1 (mt List.mem_cons.2 h)
      obtain ⟨hend, hall⟩ := ih hcs
      have hnext : Place.next .outside c = .outside := if_neg (Ne.symm hc)
      refine ⟨?_, ?_⟩
      · rw [StringsEnd, Place.after_cons, hnext]
        exact hend
      · rw [unquoted_cons hnext, hall]

/-! ## Well-nested texts -/

/-- Every string ends, and the brackets outside of strings are properly nested. -/
structure WellNested (cs : List Char) : Prop where
  stringsEnd : StringsEnd cs
  nested : Nested (unquoted .outside cs)

instance (cs : List Char) : Decidable (WellNested cs) :=
  decidable_of_iff (StringsEnd cs ∧ Nested (unquoted .outside cs))
    ⟨fun ⟨hstrings, hnested⟩ => ⟨hstrings, hnested⟩, fun h => ⟨h.stringsEnd, h.nested⟩⟩

/-- Every string ends, and no bracket stands in one. -/
structure BracketsOutside (cs : List Char) : Prop where
  stringsEnd : StringsEnd cs
  brackets : (unquoted .outside cs).filter isBracket = cs.filter isBracket

/-- Without quotes, all brackets are outside of strings. -/
theorem bracketsOutside_of_not_mem (h : '"' ∉ cs) : BracketsOutside cs := by
  obtain ⟨hend, hall⟩ := unquoted_of_not_mem h
  exact ⟨hend, by rw [hall]⟩

/-- There it does not matter whether strings are told apart. -/
theorem BracketsOutside.wellNested_iff (h : BracketsOutside cs) :
    WellNested cs ↔ Nested cs := by
  have hscan : scan [] (unquoted .outside cs) = scan [] cs := by
    rw [← scan_filter_isBracket, h.brackets, scan_filter_isBracket]
  exact ⟨fun hcs => hscan.symm.trans hcs.nested, fun hcs => ⟨h.stringsEnd, hscan.trans hcs⟩⟩

/-- Functions of another calling convention have one in their name. -/
example : BracketsOutside "extern \"C\" fn(i32)".toList := ⟨by decide, by decide⟩

/-- The characters that a scan looks at outside of strings. -/
def marks : List Char := ['"', '(', ')', '[', ']', '\x7b', '\x7d']

/-- A kind of character that no mark belongs to is free of marks. -/
theorem not_mem_marks {p : Char → Bool} (hp : marks.any p = false) (hc : p c = true) :
    c ∉ marks :=
  fun hmem => List.any_eq_false.1 hp c hmem hc

theorem wellNested_nil : WellNested [] := ⟨rfl, rfl⟩

/-- Well-nested texts may stand one behind the other. -/
theorem WellNested.append (hcs : WellNested cs) (hds : WellNested ds) :
    WellNested (cs ++ ds) := by
  refine ⟨hcs.stringsEnd.append hds.stringsEnd, ?_⟩
  rw [hcs.stringsEnd.unquoted_append]
  exact scan_append_eq_some_iff.2 ⟨[], hcs.nested, hds.nested⟩

theorem wellNested_singleton (h : c ∉ marks) : WellNested [c] := by
  simp only [marks, List.mem_cons, List.not_mem_nil, not_or] at h
  have hnext : Place.next .outside c = .outside := if_neg h.1
  have hplain : isBracket c = false := by simp [isBracket, isCloser, closer?, h]
  refine ⟨hnext, ?_⟩
  rw [unquoted_cons hnext]
  exact scan_cons_eq_some_iff.2 ⟨[], nest_plain hplain [], rfl⟩

/-- A text without marks is well nested. -/
theorem wellNested_of_not_mem_marks (h : ∀ c ∈ cs, c ∉ marks) : WellNested cs := by
  induction cs with
  | nil => exact wellNested_nil
  | cons c cs ih =>
      obtain ⟨hc, hcs⟩ := List.forall_mem_cons.1 h
      exact (wellNested_singleton hc).append (ih hcs)

/-- A well-nested text between two brackets that belong together. -/
theorem WellNested.enclose (hcs : WellNested cs) (h : closer? o = some c) :
    WellNested (o :: (cs ++ [c])) := by
  have hcloses := isCloser_of_closer?_eq_some h
  have ho : Place.next .outside o = .outside := if_neg (by rintro rfl; cases h)
  have hc : Place.next .outside c = .outside := if_neg (by rintro rfl; cases hcloses)
  have hend : unquoted .outside [c] = [c] := unquoted_cons hc []
  refine ⟨?_, ?_⟩
  · rw [StringsEnd, Place.after_cons, ho]
    exact hcs.stringsEnd.append hc
  · rw [unquoted_cons ho, hcs.stringsEnd.unquoted_append, hend]
    have hlast : scan [c] [c] = some [] :=
      scan_cons_eq_some_iff.2 ⟨[], nest_close hcloses [], rfl⟩
    exact scan_cons_eq_some_iff.2 ⟨[c], nest_open h [],
      scan_append_eq_some_iff.2 ⟨[c], hcs.nested.scan_eq [c], hlast⟩⟩

/-- Well-nested texts may be joined by one. -/
theorem WellNested.intercalate {separator : List Char} {texts : List (List Char)}
    (hseparator : WellNested separator) (htexts : ∀ cs ∈ texts, WellNested cs) :
    WellNested (separator.intercalate texts) := by
  induction texts with
  | nil => exact wellNested_nil
  | cons cs texts ih =>
      obtain ⟨hcs, htexts⟩ := List.forall_mem_cons.1 htexts
      cases texts with
      | nil => rwa [List.intercalate_singleton]
      | cons ds texts =>
          rw [List.intercalate_cons_cons]
          exact (hcs.append hseparator).append (ih htexts)

/-! ## Quoted strings -/

/-- In a string the text keeps within the string. -/
structure Hidden (cs : List Char) : Prop where
  after : Place.after .inside cs = .inside
  unquoted : unquoted .inside cs = []

theorem Hidden.append (hcs : Hidden cs) (hds : Hidden ds) : Hidden (cs ++ ds) := by
  refine ⟨?_, ?_⟩
  · rw [Place.after_append, hcs.after, hds.after]
  · rw [unquoted_append, hcs.unquoted, hcs.after, hds.unquoted, List.append_nil]

/-- In a string, only quotes and backslashes do anything. -/
theorem hidden_of_forall (h : ∀ c ∈ cs, c ≠ '"' ∧ c ≠ '\\') : Hidden cs := by
  induction cs with
  | nil => exact ⟨rfl, rfl⟩
  | cons c cs ih =>
      obtain ⟨⟨hquote, hbackslash⟩, hcs⟩ := List.forall_mem_cons.1 h
      have hnext : Place.next .inside c = .inside := by
        rw [Place.next, if_neg hquote, if_neg hbackslash]
      refine ⟨?_, ?_⟩
      · rw [Place.after_cons, hnext]
        exact (ih hcs).after
      · rw [unquoted, if_neg (fun hboth => nomatch hboth.1), hnext]
        exact (ih hcs).unquoted

/-- What is put together from hidden texts is hidden. -/
theorem hidden_flatMap {α : Type} {f : α → List Char} {xs : List α}
    (h : ∀ x ∈ xs, Hidden (f x)) : Hidden (xs.flatMap f) := by
  induction xs with
  | nil => exact ⟨rfl, rfl⟩
  | cons x xs ih =>
      obtain ⟨hx, hxs⟩ := List.forall_mem_cons.1 h
      exact hx.append (ih hxs)

/-- Hexadecimal digits are neither quotes nor backslashes. -/
theorem hidden_hexChars (n : Nat) : Hidden (hexChars n) := by
  have hdigits : ∀ d < 16, Nat.digitChar d ≠ '"' ∧ Nat.digitChar d ≠ '\\' := by decide
  refine hidden_of_forall fun c hc => ?_
  obtain ⟨d, hd, rfl⟩ := exists_digitChar_of_mem_hexChars hc
  exact hdigits d hd

/-- The character behind a backslash does not end the string. -/
theorem hidden_backslash (c : Char) : Hidden ['\\', c] := ⟨rfl, rfl⟩

/-- An escaped character never ends the string it stands in. -/
theorem hidden_escape (c : Char) : Hidden (escape c) := by
  unfold escape
  split_ifs with hquote hbackslash
  any_goals exact hidden_backslash _
  · exact hidden_of_forall (List.forall_mem_singleton.2 ⟨hquote, hbackslash⟩)
  · have hbrace (d : Char) (hd : d ≠ '"' ∧ d ≠ '\\') : Hidden [d] :=
      hidden_of_forall (List.forall_mem_singleton.2 hd)
    exact (hidden_backslash 'u').append
      ((hbrace '\x7b' (by decide)).append
        ((hidden_hexChars c.toNat).append (hbrace '\x7d' (by decide))))

/-- **Quoted strings** are well nested, whatever they say. -/
theorem wellNested_quoteChars (cs : List Char) : WellNested (quoteChars cs) := by
  have hbody : Hidden (cs.flatMap escape) := hidden_flatMap fun c _ => hidden_escape c
  refine ⟨?_, ?_⟩
  · change Place.after .inside (cs.flatMap escape ++ ['"']) = .outside
    rw [Place.after_append, hbody.after]
    rfl
  · change scan [] (unquoted .inside (cs.flatMap escape ++ ['"'])) = some []
    rw [unquoted_append, hbody.unquoted, hbody.after]
    rfl

end Conformance.Text
