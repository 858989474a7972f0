import AlertOperator.Text.Digits
import Mathlib.Algebra.Group.Nat.Defs
import Mathlib.Data.List.Basic
import Mathlib.Data.Nat.Digits.Defs

/-!
# Reading back numbers

A number written in hexadecimal with a fixed number of digits is read back if it fits into them. One
written in decimal has as many digits as it needs, so that it is read back and does not begin with a
zero.
-/

namespace AlertOperator.Text

theorem natFrom_append (base acc : Nat) (s t : List Char) :
    natFrom base acc (s ++ t) = (natFrom base acc s).bind fun n ↦ natFrom base n t := by
  induction s generalizing acc with
  | nil => rfl
  | cons c s ih =>
    rw [List.cons_append, natFrom, natFrom]
    cases digitValue base c with
    | none => rfl
    | some d => exact ih _

/-! ## Hexadecimal numbers -/

theorem hexValue_hexDigit {n : Nat} (h : n < 16) : hexValue (hexDigit 'a' n) = some n := by
  have hall : ∀ n < 16, hexValue (hexDigit 'a' n) = some n := by decide
  exact hall n h

theorem digitValue_hexDigit {n : Nat} (h : n < 16) : digitValue 16 (hexDigit 'A' n) = some n := by
  have hall : ∀ n < 16, digitValue 16 (hexDigit 'A' n) = some n := by decide
  exact hall n h

theorem length_hexPadded (letters : Char) (width n : Nat) :
    (hexPadded letters width n).length = width := by
  induction width generalizing n with
  | zero => rfl
  | succ width ih => rw [hexPadded, List.length_append, ih, List.length_singleton]

theorem natFrom_hexPadded {width n : Nat} (acc : Nat) (h : n < 16 ^ width) :
    natFrom 16 acc (hexPadded 'A' width n) = some (acc * 16 ^ width + n) := by
  induction width generalizing n with
  | zero =>
    rw [Nat.pow_zero] at h
    rw [hexPadded, natFrom, Nat.pow_zero, Nat.mul_one, show n = 0 by omega, Nat.add_zero]
  | succ width ih =>
    have hn : n / 16 < 16 ^ width := by
      rw [Nat.pow_succ] at h
      omega
    rw [hexPadded, natFrom_append, ih hn, Option.bind_some, natFrom,
      digitValue_hexDigit (Nat.mod_lt n (by decide)), Option.bind_some, natFrom]
    refine congrArg some ?_
    calc (acc * 16 ^ width + n / 16) * 16 + n % 16
        = acc * (16 ^ width * 16) + (n / 16 * 16 + n % 16) := by
          rw [Nat.add_mul, Nat.mul_assoc, Nat.add_assoc]
      _ = acc * 16 ^ (width + 1) + n := by
          rw [Nat.pow_succ, Nat.mul_comm (n / 16), Nat.div_add_mod]

theorem readNat_hexPadded {width n : Nat} (hw : 0 < width) (h : n < 16 ^ width) :
    readNat 16 (hexPadded 'A' width n) = some n := by
  have hread := natFrom_hexPadded 0 h
  have hlen := length_hexPadded 'A' width n
  cases hs : hexPadded 'A' width n with
  | nil =>
    rw [hs, List.length_nil] at hlen
    omega
  | cons c s =>
    rw [hs, Nat.zero_mul, Nat.zero_add] at hread
    exact hread

/-- The hexadecimal digits are letters and digits of ASCII. -/
theorem hexDigit_mem {n : Nat} (h : n < 16) :
    hexDigit 'A' n ∈ "0123456789ABCDEF".toList := by
  have hall : ∀ n < 16, hexDigit 'A' n ∈ "0123456789ABCDEF".toList := by decide
  exact hall n h

theorem mem_hexPadded {width n : Nat} {c : Char} (hc : c ∈ hexPadded 'A' width n) :
    c ∈ "0123456789ABCDEF".toList := by
  induction width generalizing n with
  | zero => exact absurd hc (by simp [hexPadded])
  | succ width ih =>
    rw [hexPadded, List.mem_append, List.mem_singleton] at hc
    rcases hc with hc | rfl
    · exact ih hc
    · exact hexDigit_mem (Nat.mod_lt n (by decide))

/-! ## Decimal numbers -/

theorem isDigit_of_mem_toDigits {n : Nat} {c : Char} (h : c ∈ Nat.toDigits 10 n) :
    isDigit c = true := by
  have hdigit : c.isDigit = true := Nat.isDigit_of_mem_toDigits (by decide) (by decide) h
  simpa [Char.isDigit, isDigit, Char.le_def] using hdigit

theorem exists_toDigits_eq_cons (n : Nat) :
    ∃ c s, Nat.toDigits 10 n = c :: s ∧ isDigit c = true := by
  obtain ⟨c, s, hs⟩ := List.exists_cons_of_ne_nil (Nat.toDigits_ne_nil (n := n) (b := 10))
  exact ⟨c, s, hs, isDigit_of_mem_toDigits (n := n) (by simp [hs])⟩

theorem digitValue_digitChar {n : Nat} (h : n < 10) : digitValue 10 n.digitChar = some n := by
  have hall : ∀ n < 10, digitValue 10 n.digitChar = some n := by decide
  exact hall n h

theorem natFrom_toDigits (n : Nat) : natFrom 10 0 (Nat.toDigits 10 n) = some n := by
  induction n using Nat.strong_induction_on with
  | _ n ih =>
    have hlast : ∀ m, natFrom 10 m [(n % 10).digitChar] = some (m * 10 + n % 10) := by
      intro m
      rw [natFrom, digitValue_digitChar (Nat.mod_lt n (by decide)), Option.bind_some]
      rfl
    by_cases hn : n < 10
    · rw [Nat.toDigits_of_lt_base hn]
      rw [Nat.mod_eq_of_lt hn] at hlast
      rw [hlast, Nat.zero_mul, Nat.zero_add]
    · rw [Nat.toDigits_of_base_le (by decide) (by omega), natFrom_append, ih _ (by omega),
        Option.bind_some, hlast, Nat.div_add_mod']

theorem readNat_toDigits (n : Nat) : readNat 10 (Nat.toDigits 10 n) = some n := by
  obtain ⟨c, s, hs, -⟩ := exists_toDigits_eq_cons n
  have hread := natFrom_toDigits n
  rw [hs] at hread ⊢
  exact hread

/-- No number but zero begins with a zero. -/
theorem head?_toDigits_ne {n : Nat} (h : 0 < n) : (Nat.toDigits 10 n).head? ≠ some '0' := by
  induction n using Nat.strong_induction_on with
  | _ n ih =>
    by_cases hn : n < 10
    · have hall : ∀ n < 10, 0 < n → n.digitChar ≠ '0' := by decide
      rw [Nat.toDigits_of_lt_base hn, List.head?_singleton, Ne, Option.some.injEq]
      exact hall n hn h
    · rw [Nat.toDigits_of_base_le (by decide) (by omega),
        List.head?_append_of_ne_nil _ Nat.toDigits_ne_nil]
      exact ih _ (by omega) (by omega)

end AlertOperator.Text
