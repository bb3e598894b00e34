import CollectionRunner.Text.Quoted
import Mathlib

/-!
# Quoted texts are read in one way

Between double quotes each character is shown so that it can be read back, whatever follows
(`readShown_quotedChar`).  So a longer text that starts with a quoted text starts with no other one
(`quoted_append_inj`).
-/

namespace CollectionRunner.Text

/-! ## Hexadecimal digits -/

theorem hexValue_append_digit (ds : List Char) (c : Char) :
    hexValue (ds ++ [c]) = hexValue ds * 16 + hexValue [c] := by
  simp only [hexValue, List.foldl_append, List.foldl_cons, List.foldl_nil, Nat.zero_mul,
    Nat.zero_add]

theorem hexValue_digitChar {n : ℕ} (small : n < 16) : hexValue [n.digitChar] = n := by
  have all : ∀ n < 16, hexValue [n.digitChar] = n := by decide
  exact all n small

theorem hexValue_toDigits (n : ℕ) : hexValue (Nat.toDigits 16 n) = n := by
  induction n using Nat.strong_induction_on with
  | _ n ih =>
    rcases Nat.lt_or_ge n 16 with small | large
    · rw [Nat.toDigits_of_lt_base small, hexValue_digitChar small]
    · rw [Nat.toDigits_of_base_le (by decide) large, hexValue_append_digit,
        hexValue_digitChar (Nat.mod_lt n (by decide)), ih (n / 16) (by omega)]
      omega

/-- No hexadecimal digit is the brace that ends an escape. -/
theorem ne_brace_of_mem_toDigits {n : ℕ} {c : Char} (member : c ∈ Nat.toDigits 16 n) :
    c ≠ '\x7d' := by
  have all : ∀ n < 16, n.digitChar ≠ '\x7d' := by decide
  induction n using Nat.strong_induction_on with
  | _ n ih =>
    rcases Nat.lt_or_ge n 16 with small | large
    · rw [Nat.toDigits_of_lt_base small, List.mem_singleton] at member
      rw [member]
      exact all n small
    · rw [Nat.toDigits_of_base_le (by decide) large, List.mem_append, List.mem_singleton] at member
      rcases member with member | rfl
      · exact ih (n / 16) (by omega) member
      · exact all _ (Nat.mod_lt n (by decide))

/-! ## Characters -/

/-- The character that a text between double quotes shows first, and what follows it; nothing at the
end of the quotes. -/
def readShown : List Char → Option (Char × List Char)
  | '\\' :: 'n' :: rest => some ('\n', rest)
  | '\\' :: 'r' :: rest => some ('\r', rest)
  | '\\' :: 't' :: rest => some ('\t', rest)
  | '\\' :: '0' :: rest => some ('\x00', rest)
  | '\\' :: 'u' :: '\x7b' :: rest =>
    some (Char.ofNat (hexValue (rest.takeWhile (· != '\x7d'))),
      (rest.dropWhile (· != '\x7d')).tail)
  | '\\' :: c :: rest => some (c, rest)
  | c :: rest => if c = '"' then none else some (c, rest)
  | [] => none

/-- A character that is escaped by its code point is shown as itself. -/
theorem readShown_codeEscape (c : Char) (rest : List Char) :
    readShown (codeEscape c ++ rest) = some (c, rest) := by
  have digits : ∀ d ∈ Nat.toDigits 16 c.toNat, (d != '\x7d') = true := fun d member =>
    bne_iff_ne.mpr (ne_brace_of_mem_toDigits member)
  have shape : codeEscape c ++ rest =
      '\\' :: 'u' :: '\x7b' :: (Nat.toDigits 16 c.toNat ++ '\x7d' :: rest) := by
    unfold codeEscape
    rw [List.append_assoc, List.append_assoc]
    rfl
  rw [shape]
  change some (Char.ofNat (hexValue (List.takeWhile _ _)), (List.dropWhile _ _).tail) = _
  rw [List.takeWhile_append_of_pos digits, List.dropWhile_append_of_pos digits]
  have stop : ('\x7d' != '\x7d') = false := by decide
  rw [List.takeWhile_cons, List.dropWhile_cons, stop]
  simp [hexValue_toDigits, Char.ofNat_toNat]

theorem readShown_plain {c : Char} (mark : c ≠ '"') (escape : c ≠ '\\') (rest : List Char) :
    readShown (c :: rest) = some (c, rest) := by
  unfold readShown
  split <;> simp_all

/-- A character between double quotes is read back, whatever follows it. -/
theorem readShown_quotedChar (c : Char) (rest : List Char) :
    readShown (quotedChar '"' c ++ rest) = some (c, rest) := by
  unfold quotedChar
  split_ifs with marked newline carriage tab zero visible hidden
  · rw [Bool.or_eq_true, beq_iff_eq, beq_iff_eq] at marked
    rcases marked with rfl | rfl <;> rfl
  · rw [beq_iff_eq.mp newline]
    rfl
  · rw [beq_iff_eq.mp carriage]
    rfl
  · rw [beq_iff_eq.mp tab]
    rfl
  · rw [beq_iff_eq.mp zero]
    rfl
  all_goals
    rw [Bool.or_eq_true, beq_iff_eq, beq_iff_eq, not_or] at marked
  · exact readShown_plain marked.1 marked.2 rest
  · exact readShown_codeEscape c rest
  · exact readShown_plain marked.1 marked.2 rest

/-! ## Texts -/

/-- A quoted text ends at its first quote that is not escaped, so a longer text has one reading. -/
theorem flatMap_quotedChar_inj {s t u v : List Char}
    (same : s.flatMap (quotedChar '"') ++ '"' :: u = t.flatMap (quotedChar '"') ++ '"' :: v) :
    s = t ∧ u = v := by
  have stop (rest : List Char) : readShown ('"' :: rest) = none := rfl
  have read := congrArg readShown same
  induction s generalizing t with
  | nil =>
    cases t with
    | nil => exact ⟨rfl, List.tail_eq_of_cons_eq same⟩
    | cons d t =>
      rw [List.flatMap_cons, List.append_assoc, readShown_quotedChar] at read
      cases read
  | cons c s ih =>
    rw [List.flatMap_cons, List.append_assoc, readShown_quotedChar] at read
    cases t with
    | nil => cases read
    | cons d t =>
      rw [List.flatMap_cons, List.append_assoc, readShown_quotedChar, Option.some.injEq,
        Prod.mk.injEq] at read
      obtain ⟨rfl, rest⟩ := read
      obtain ⟨rfl, follow⟩ := ih rest (congrArg readShown rest)
      exact ⟨rfl, follow⟩

/-- A quoted text ends where its quotes say, whatever follows it. -/
theorem quoted_append_inj {s t : String} {u v : List Char}
    (same : (quoted s).toList ++ u = (quoted t).toList ++ v) : s = t ∧ u = v := by
  have shape (s : String) (u : List Char) :
      (quoted s).toList ++ u = '"' :: (s.toList.flatMap (quotedChar '"') ++ '"' :: u) := by
    rw [quoted, String.toList_ofList, List.cons_append, List.append_assoc]
    rfl
  rw [shape, shape] at same
  obtain ⟨text, follow⟩ := flatMap_quotedChar_inj (List.tail_eq_of_cons_eq same)
  exact ⟨String.toList_inj.mp text, follow⟩

end CollectionRunner.Text
