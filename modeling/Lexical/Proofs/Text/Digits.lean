import Lexical.Unicode.CodeSet
import Mathlib.Data.Nat.Digits.Defs
import Mathlib.Tactic.Lemma
import Mathlib.Tactic.SplitIfs

/-!
# Numbers written with digits

The digits of a number, read one after the other, come back to the number: in decimal notation
(`foldl_toDigits`), and with capital letters in hexadecimal notation (`foldlM_toDigits`).
-/

namespace Lexical

/-- The induction is on the number, by its last digit. -/
lemma exists_digitChar_of_mem_toDigits {base n : Nat} (hbase : 1 < base) {c : Char}
    (h : c ∈ Nat.toDigits base n) : ∃ k < base, c = Nat.digitChar k := by
  induction n using Nat.strong_induction_on with
  | _ n ih =>
    rw [Nat.toDigits_eq_if hbase] at h
    split_ifs at h with hlt
    · exact ⟨n, hlt, List.mem_singleton.1 h⟩
    · rcases List.mem_append.1 h with hinit | hlast
      · exact ih (n / base) (Nat.div_lt_self (by omega) hbase) hinit
      · exact ⟨n % base, Nat.mod_lt n (by omega), List.mem_singleton.1 hlast⟩

/-- **Decimal digits come back to their number.** -/
lemma foldl_toDigits (n : Nat) :
    (Nat.toDigits 10 n).foldl (fun n c => n * 10 + (c.toNat - 0x30)) 0 = n := by
  calc (Nat.toDigits 10 n).foldl (fun n c => n * 10 + (c.toNat - 0x30)) 0
    _ = (Nat.toDigits 10 n).foldl (fun n c => 10 * n + (c.toNat - '0'.toNat)) 0 := by
      simp only [Nat.mul_comm]
      rfl
    _ = n := by rw [← Nat.ofDigitChars_eq_foldl, Nat.ofDigitChars_ten_toDigits]

lemma hexDigit?_toUpper_digitChar {n : Nat} (h : n < 16) :
    CodeSet.hexDigit? (Nat.digitChar n).toUpper = some n := by
  revert n
  decide

/-- **Hexadecimal digits come back to their number.**  The induction is on the number, by its last
digit. -/
lemma foldlM_toDigits (n : Nat) :
    ((Nat.toDigits 16 n).map Char.toUpper).foldlM
      (fun n c => (CodeSet.hexDigit? c).map (n * 16 + ·)) 0 = some n := by
  induction n using Nat.strong_induction_on with
  | _ n ih =>
    rw [Nat.toDigits_eq_if (by decide)]
    split_ifs with hlt
    · simp [hexDigit?_toUpper_digitChar hlt]
    · have hinit := ih (n / 16) (Nat.div_lt_self (by omega) (by decide))
      have hlast := hexDigit?_toUpper_digitChar (Nat.mod_lt n (by decide : 0 < 16))
      have hvalue : n / 16 * 16 + n % 16 = n := Nat.div_add_mod' n 16
      simp [List.foldlM_append, hinit, hlast, hvalue]

end Lexical
