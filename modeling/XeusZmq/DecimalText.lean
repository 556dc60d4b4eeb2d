import Mathlib.Data.List.Basic
import Mathlib.Tactic.IntervalCases

/-!
Decimal numerals as ASCII bytes.
-/

namespace XeusZmq.DecimalText

def isDigit (byte : UInt8) : Bool :=
  48 ≤ byte && byte ≤ 57

/-- The numeral of a natural number, without leading zeros. -/
def decimal (n : Nat) : List UInt8 :=
  (Nat.toDigits 10 n).map fun c => UInt8.ofNat c.toNat

def digitsValue (digits : List UInt8) : Nat :=
  digits.foldl (fun value byte => 10 * value + (byte.toNat - 48)) 0

theorem digitsValue_append_singleton (digits : List UInt8) (byte : UInt8) :
    digitsValue (digits ++ [byte]) = 10 * digitsValue digits + (byte.toNat - 48) := by
  simp [digitsValue]

theorem digitByte_toNat {d : Nat} (hd : d < 10) :
    (UInt8.ofNat d.digitChar.toNat).toNat = 48 + d := by
  interval_cases d <;> rfl

theorem decimal_of_lt {n : Nat} (hn : n < 10) :
    decimal n = [UInt8.ofNat n.digitChar.toNat] := by
  simp [decimal, Nat.toDigits_of_lt_base hn]

theorem decimal_of_le {n : Nat} (hn : 10 ≤ n) :
    decimal n = decimal (n / 10) ++ [UInt8.ofNat (n % 10).digitChar.toNat] := by
  simp [decimal, Nat.toDigits_of_base_le (by decide) hn]

theorem isDigit_digitByte {d : Nat} (hd : d < 10) :
    isDigit (UInt8.ofNat d.digitChar.toNat) = true := by
  interval_cases d <;> rfl

theorem isDigit_of_mem_decimal {n : Nat} {byte : UInt8} (hbyte : byte ∈ decimal n) :
    isDigit byte = true := by
  induction n using Nat.strong_induction_on with
  | _ n ih =>
      by_cases hn : n < 10
      · rw [decimal_of_lt hn, List.mem_singleton] at hbyte
        exact hbyte ▸ isDigit_digitByte hn
      · rw [decimal_of_le (by omega), List.mem_append, List.mem_singleton] at hbyte
        rcases hbyte with hbyte | rfl
        · exact ih (n / 10) (by omega) hbyte
        · exact isDigit_digitByte (Nat.mod_lt n (by decide))

theorem decimal_ne_nil (n : Nat) : decimal n ≠ [] := by
  by_cases hn : n < 10
  · simp [decimal_of_lt hn]
  · simp [decimal_of_le (Nat.not_lt.mp hn)]

theorem digitsValue_decimal (n : Nat) : digitsValue (decimal n) = n := by
  induction n using Nat.strong_induction_on with
  | _ n ih =>
      by_cases hn : n < 10
      · rw [decimal_of_lt hn]
        simp only [digitsValue, List.foldl_cons, List.foldl_nil, digitByte_toNat hn]
        omega
      · rw [decimal_of_le (by omega), digitsValue_append_singleton,
          ih (n / 10) (by omega), digitByte_toNat (Nat.mod_lt n (by decide))]
        omega

end XeusZmq.DecimalText
