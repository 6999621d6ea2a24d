/-
Writing a number in decimal and reading it back: `decimalValue` undoes
`decimalChars`, whose characters are digits, one at least. In front of a text that
does not go on with a digit these are all the digits there are.
-/
import SqlAdapter.Text.Digits

namespace SqlAdapter

theorem digitChar_spec (n : Nat) : isDigit (digitChar n) = true ∧ (digitChar n).toNat - '0'.toNat = n % 10 := by
  have key : ∀ d, d < 10 → isDigit (Char.ofNat ('0'.toNat + d)) = true ∧
      (Char.ofNat ('0'.toNat + d)).toNat - '0'.toNat = d := by decide
  exact key (n % 10) (Nat.mod_lt n (by omega))

theorem decimalOnto_eq (n : Nat) (rest : List Char) : decimalOnto n rest = decimalChars n ++ rest := by
  induction n using Nat.strongRecOn generalizing rest with
  | _ n ih =>
    rw [decimalChars, decimalOnto, decimalOnto.eq_def n []]
    split
    · rfl
    · have hlt : n / 10 < n := by omega
      rw [ih _ hlt, ih _ hlt [digitChar n], List.append_assoc]
      rfl

theorem decimalChars_lt {n : Nat} (h : n < 10) : decimalChars n = [digitChar n] := by
  rw [decimalChars, decimalOnto, if_pos h]

theorem decimalChars_ge {n : Nat} (h : ¬ n < 10) : decimalChars n = decimalChars (n / 10) ++ [digitChar n] := by
  rw [decimalChars, decimalOnto, if_neg h, decimalOnto_eq]

theorem decimalChars_isDigit (n : Nat) : ∀ c ∈ decimalChars n, isDigit c = true := by
  induction n using Nat.strongRecOn with
  | _ n ih =>
    intro c hc
    by_cases h : n < 10
    · rw [decimalChars_lt h, List.mem_singleton] at hc
      rw [hc]
      exact (digitChar_spec n).1
    · rw [decimalChars_ge h, List.mem_append, List.mem_singleton] at hc
      rcases hc with hc | rfl
      · exact ih _ (by omega) c hc
      · exact (digitChar_spec n).1

theorem decimalChars_ne_nil (n : Nat) : decimalChars n ≠ [] := by
  by_cases h : n < 10
  · rw [decimalChars_lt h]; exact List.cons_ne_nil _ _
  · rw [decimalChars_ge h]; exact List.append_ne_nil_of_right_ne_nil _ (List.cons_ne_nil _ _)

theorem decimalValueFrom_append (n : Nat) (cs ds : List Char) :
    decimalValueFrom n (cs ++ ds) = decimalValueFrom (decimalValueFrom n cs) ds := by
  induction cs generalizing n with
  | nil => rfl
  | cons c cs ih => exact ih _

theorem decimalValueFrom_digitChar (m n : Nat) :
    decimalValueFrom m [digitChar n] = m * 10 + n % 10 := by
  rw [← (digitChar_spec n).2]
  rfl

theorem decimalValue_decimalChars (n : Nat) : decimalValue (decimalChars n) = n := by
  induction n using Nat.strongRecOn with
  | _ n ih =>
    by_cases h : n < 10
    · rw [decimalChars_lt h, decimalValue, decimalValueFrom_digitChar]
      omega
    · have hrec : decimalValueFrom 0 (decimalChars (n / 10)) = n / 10 := ih _ (by omega)
      rw [decimalChars_ge h, decimalValue, decimalValueFrom_append, hrec, decimalValueFrom_digitChar]
      omega

/-- The text does not go on with a digit. -/
def Stops (cs : List Char) : Prop := ∀ c ∈ cs.head?, isDigit c = false

theorem stops_cons {c : Char} (hc : isDigit c = false) (cs : List Char) : Stops (c :: cs) := by
  rintro d ⟨⟩
  exact hc

theorem stops_nil : Stops [] := fun _ hc => nomatch hc

theorem takeWhile_decimalChars (n : Nat) {rest : List Char} (h : Stops rest) :
    (decimalChars n ++ rest).takeWhile isDigit = decimalChars n := by
  rw [List.takeWhile_append_of_pos (decimalChars_isDigit n)]
  cases rest with
  | nil => rw [List.takeWhile_nil, List.append_nil]
  | cons c rest => rw [List.takeWhile_cons, h c rfl, if_neg Bool.false_ne_true, List.append_nil]

theorem dropWhile_decimalChars (n : Nat) {rest : List Char} (h : Stops rest) :
    (decimalChars n ++ rest).dropWhile isDigit = rest := by
  have hwhole := @List.takeWhile_append_dropWhile _ isDigit (decimalChars n ++ rest)
  rw [takeWhile_decimalChars n h] at hwhole
  exact List.append_cancel_left hwhole

end SqlAdapter
