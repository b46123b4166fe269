import Mathlib.Data.List.TakeWhile
import Conformance.Text.Identifier
import Conformance.Text.Quoted

/-!
# Conformance.Proofs.Text.Quoting

Where a word ends in a text, and what it says.

* `readEscaped_escape` — an escaped character can be read back from the front of a text.
* `quoteChars_append_inj` — so a quoted string tells what was quoted and where it ends,
  whatever it holds and whatever follows it.
* `takeWhile_append_of_head` — a word of characters of one class ends where the next
  character of another class stands.
-/

namespace Conformance.Text

/-! ## Words -/

/-- A run of characters with `p` ends before a character without `p`. -/
theorem takeWhile_append_of_head {p : Char → Bool} {word rest : List Char}
    (hword : ∀ c ∈ word, p c = true) (hrest : ∀ c ∈ rest.head?, p c = false) :
    (word ++ rest).takeWhile p = word := by
  have hnone : rest.takeWhile p = [] := by
    cases rest with
    | nil => rfl
    | cons c rest => rw [List.takeWhile_cons_of_neg (by simp [hrest c rfl])]
  rw [List.takeWhile_append_of_pos hword, hnone, List.append_nil]

/-- Two runs at the front of one text are the same run. -/
theorem word_append_inj {p : Char → Bool} {word word' rest rest' : List Char}
    (hword : ∀ c ∈ word, p c = true) (hword' : ∀ c ∈ word', p c = true)
    (hrest : ∀ c ∈ rest.head?, p c = false) (hrest' : ∀ c ∈ rest'.head?, p c = false)
    (h : word ++ rest = word' ++ rest') : word = word' ∧ rest = rest' := by
  have hsame : word = word' := by
    rw [← takeWhile_append_of_head hword hrest, h, takeWhile_append_of_head hword' hrest']
  exact ⟨hsame, List.append_cancel_left (hsame ▸ h)⟩

theorem exists_of_isIdentifier {s : String} (h : isIdentifier s = true) :
    ∃ c rest, s.toList = c :: rest ∧ startsIdentifier c = true ∧
      ∀ d ∈ rest, continuesIdentifier d = true := by
  unfold isIdentifier at h
  split at h
  · cases h
  case h_2 c rest hs =>
    rw [Bool.and_eq_true, List.all_eq_true] at h
    exact ⟨c, rest, hs, h.1, h.2⟩

/-- Identifiers are words. -/
theorem continuesIdentifier_of_mem {s : String} (h : isIdentifier s = true) :
    ∀ c ∈ s.toList, continuesIdentifier c = true := by
  obtain ⟨c, rest, hs, hc, hrest⟩ := exists_of_isIdentifier h
  rw [hs]
  refine List.forall_mem_cons.2 ⟨?_, hrest⟩
  rw [continuesIdentifier, hc, Bool.true_or]

/-! ## Hexadecimal numbers -/

/-- The number that hexadecimal digits stand for. -/
def natOfHex (digits : List Char) : Nat :=
  digits.foldl (fun n c => 16 * n + (hexValue? c).getD 0) 0

theorem hexValue?_digitChar : ∀ d < 16, hexValue? (Nat.digitChar d) = some d := by decide

theorem natOfHex_hexChars (n : Nat) : natOfHex (hexChars n) = n := by
  induction n using Nat.strongRecOn with
  | ind n ih =>
      rcases Nat.lt_or_ge n 16 with hsmall | hlarge
      · rw [hexChars, Nat.toDigits_of_lt_base hsmall, natOfHex]
        simp [hexValue?_digitChar n hsmall]
      · have hdigit := hexValue?_digitChar (n % 16) (Nat.mod_lt n (by decide))
        have hfront : natOfHex (hexChars (n / 16)) = n / 16 := ih (n / 16) (by omega)
        rw [hexChars, Nat.toDigits_of_base_le (by decide) hlarge, natOfHex, List.foldl_append,
          List.foldl_cons, List.foldl_nil, hdigit, Option.getD_some]
        rw [natOfHex, hexChars] at hfront
        rw [hfront]
        exact Nat.div_add_mod n 16

/-- Hexadecimal numbers are printed in sixteen digits. -/
theorem exists_digitChar_of_mem_hexChars {n : Nat} {c : Char} (h : c ∈ hexChars n) :
    ∃ d < 16, c = Nat.digitChar d := by
  induction n using Nat.strongRecOn with
  | ind n ih =>
      rcases Nat.lt_or_ge n 16 with hsmall | hlarge
      · rw [hexChars, Nat.toDigits_of_lt_base hsmall, List.mem_singleton] at h
        exact ⟨n, hsmall, h⟩
      · rw [hexChars, Nat.toDigits_of_base_le (by decide) hlarge, List.mem_append,
          List.mem_singleton] at h
        rcases h with hfront | hlast
        · exact ih (n / 16) (by omega) hfront
        · exact ⟨n % 16, Nat.mod_lt n (by decide), hlast⟩

/-- No hexadecimal digit is the brace that ends an escape. -/
theorem ne_brace_of_mem_hexChars {n : Nat} {c : Char} (h : c ∈ hexChars n) : c ≠ '\x7d' := by
  have hdigits : ∀ d < 16, Nat.digitChar d ≠ '\x7d' := by decide
  obtain ⟨d, hd, rfl⟩ := exists_digitChar_of_mem_hexChars h
  exact hdigits d hd

/-! ## Quoted strings -/

/-- The character that stands escaped at the front of a text, and what follows it. -/
def readEscaped : List Char → Option (Char × List Char)
  | '\\' :: 'u' :: '\x7b' :: rest =>
    let digits := rest.takeWhile (· != '\x7d')
    some (Char.ofNat (natOfHex digits), (rest.drop (digits.length + 1)))
  | '\\' :: 'n' :: rest => some ('\n', rest)
  | '\\' :: 'r' :: rest => some ('\r', rest)
  | '\\' :: 't' :: rest => some ('\t', rest)
  | '\\' :: '0' :: rest => some ('\x00', rest)
  | '\\' :: c :: rest => some (c, rest)
  | c :: rest => some (c, rest)
  | [] => none

/-- Every escape is read back, whatever stands behind it. -/
theorem readEscaped_escape (c : Char) (rest : List Char) :
    readEscaped (escape c ++ rest) = some (c, rest) := by
  unfold escape
  split_ifs with hquote hbackslash hnewline hreturn htab hnul hshows
  · rw [hquote]; rfl
  · rw [hbackslash]; rfl
  · rw [hnewline]; rfl
  · rw [hreturn]; rfl
  · rw [htab]; rfl
  · rw [hnul]; rfl
  · simp [readEscaped, hbackslash]
  · have hdigits : ((hexChars c.toNat ++ '\x7d' :: rest).takeWhile (· != '\x7d')) =
        hexChars c.toNat :=
      takeWhile_append_of_head (fun d hd => by simp [ne_brace_of_mem_hexChars hd]) (by simp)
    simp [readEscaped, hdigits, natOfHex_hexChars]

/-- Escapes can be told apart from what follows them. -/
theorem escape_append_inj {c d : Char} {rest rest' : List Char}
    (h : escape c ++ rest = escape d ++ rest') : c = d ∧ rest = rest' := by
  have hread := congrArg readEscaped h
  rw [readEscaped_escape, readEscaped_escape] at hread
  simpa using hread

/-- No escaped character looks like the quote that ends a string. -/
theorem escape_append_ne_quote (c : Char) (rest rest' : List Char) :
    escape c ++ rest ≠ '"' :: rest' := by
  unfold escape
  split_ifs <;> simp_all

/-- The characters of a string are read one by one, up to the quote. -/
theorem flatMap_escape_inj {s t : List Char} {rest rest' : List Char}
    (h : s.flatMap escape ++ '"' :: rest = t.flatMap escape ++ '"' :: rest') :
    s = t ∧ rest = rest' := by
  induction s generalizing t with
  | nil =>
      cases t with
      | nil => simpa using h
      | cons d t =>
          rw [List.flatMap_cons, List.append_assoc] at h
          exact absurd h.symm (escape_append_ne_quote d _ _)
  | cons c s ih =>
      cases t with
      | nil =>
          rw [List.flatMap_cons, List.append_assoc] at h
          exact absurd h (escape_append_ne_quote c _ _)
      | cons d t =>
          rw [List.flatMap_cons, List.flatMap_cons, List.append_assoc, List.append_assoc] at h
          obtain ⟨rfl, htail⟩ := escape_append_inj h
          obtain ⟨rfl, hrest⟩ := ih htail
          exact ⟨rfl, hrest⟩

/-- **Quoted strings** tell what was quoted, and where the rest of a text begins. -/
theorem quoteChars_append_inj {s t rest rest' : List Char}
    (h : quoteChars s ++ rest = quoteChars t ++ rest') : s = t ∧ rest = rest' := by
  simp only [quoteChars, List.cons_append, List.append_assoc, List.nil_append] at h
  exact flatMap_escape_inj (List.cons.inj h).2

/-- No text begins with both an identifier and a quoted string. -/
theorem identifier_append_ne_quote {s : String} (h : isIdentifier s = true)
    (cs rest rest' : List Char) : s.toList ++ rest ≠ quoteChars cs ++ rest' := by
  obtain ⟨c, tail, hs, hc, -⟩ := exists_of_isIdentifier h
  intro heq
  rw [hs, quoteChars] at heq
  have hquote : c = '"' := (List.cons.inj heq).1
  exact absurd (hquote ▸ hc) (by decide)

end Conformance.Text
