import FleetControl.Number.Decimal

/-!
# Hexadecimal numerals

What makes a text the hexadecimal numeral of a number, said without writing it: its characters are
lower-case digits of base sixteen, none of them a needless zero, and they read as the number.
-/

namespace FleetControl.Number

/-- The digits of base sixteen, each at the place of its value. -/
def hexDigits : List Char := "0123456789abcdef".toList

/-- The number that digits of base sixteen stand for. -/
def readHexadecimal (digits : List Char) : Nat :=
  digits.foldl (fun value digit => 16 * value + hexDigits.idxOf digit) 0

/-- The text is the numeral of `n` in base sixteen, in lower case. -/
structure IsHexadecimal (text : String) (n : Nat) : Prop where
  digits : ∀ digit ∈ text.toList, digit ∈ hexDigits
  value : readHexadecimal text.toList = n
  lead : text.toList.head? = some '0' → n = 0

theorem digitChar_mem_hexDigits {n : Nat} (hn : n < 16) : n.digitChar ∈ hexDigits := by
  have hall : ∀ n < 16, n.digitChar ∈ hexDigits := by decide
  exact hall n hn

theorem idxOf_digitChar {n : Nat} (hn : n < 16) : hexDigits.idxOf n.digitChar = n := by
  have hall : ∀ n < 16, hexDigits.idxOf n.digitChar = n := by decide
  exact hall n hn

theorem digitChar_eq_zero {n : Nat} (hn : n < 16) (hzero : n.digitChar = '0') : n = 0 := by
  have hall : ∀ n < 16, n.digitChar = '0' → n = 0 := by decide
  exact hall n hn hzero

/-- The induction takes off the last digit, as the numeral is written. -/
theorem digits_of_toDigits (n : Nat) :
    (∀ digit ∈ Nat.toDigits 16 n, digit ∈ hexDigits) ∧
      readHexadecimal (Nat.toDigits 16 n) = n ∧
      ((Nat.toDigits 16 n).head? = some '0' → n = 0) := by
  induction n using Nat.strongRecOn with
  | ind n ih =>
      by_cases hn : n < 16
      · rw [Nat.toDigits_of_lt_base hn]
        refine ⟨?_, ?_, ?_⟩
        · intro digit hdigit
          obtain rfl := List.mem_singleton.mp hdigit
          exact digitChar_mem_hexDigits hn
        · simp [readHexadecimal, idxOf_digitChar hn]
        · intro hzero
          exact digitChar_eq_zero hn (Option.some.inj hzero)
      · have hlast : n % 16 < 16 := Nat.mod_lt _ (by decide)
        obtain ⟨hdigits, hvalue, hlead⟩ := ih (n / 16) (by omega)
        rw [Nat.toDigits_of_base_le (by decide) (Nat.not_lt.mp hn)]
        refine ⟨?_, ?_, ?_⟩
        · intro digit hdigit
          rcases List.mem_append.mp hdigit with hfront | hback
          · exact hdigits digit hfront
          · obtain rfl := List.mem_singleton.mp hback
            exact digitChar_mem_hexDigits hlast
        · rw [readHexadecimal] at hvalue ⊢
          rw [List.foldl_append, hvalue, List.foldl_cons, List.foldl_nil, idxOf_digitChar hlast]
          exact Nat.div_add_mod n 16
        · intro hzero
          obtain ⟨first, rest, hfront⟩ :=
            List.exists_cons_of_ne_nil (Nat.toDigits_ne_nil : Nat.toDigits 16 (n / 16) ≠ [])
          rw [hfront] at hzero hlead
          have hnone := hlead hzero
          omega

theorem isHexadecimal_hexadecimal (n : Nat) : IsHexadecimal (hexadecimal n) n := by
  obtain ⟨hdigits, hvalue, hlead⟩ := digits_of_toDigits n
  have htext : (hexadecimal n).toList = Nat.toDigits 16 n := String.toList_ofList
  exact ⟨htext ▸ hdigits, htext ▸ hvalue, htext ▸ hlead⟩

end FleetControl.Number
