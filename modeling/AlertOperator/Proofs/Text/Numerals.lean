import AlertOperator.Text.Blank
import AlertOperator.Text.Digits
import Mathlib.Data.List.DropRight
import Mathlib.Data.Nat.Digits.Defs

/-!
# Numerals and white space

What the readers of numbers accept, without the way they read: a numeral is one or more digits with
their value in positional notation, `Nat.ofDigits`, and an integer has a sign before it or none.
Horner's rule comes to the same value after any number of digits, so the readers are exact at every
length, and the bounds are compared with the value itself.

Trimming is described by its result: what is left over begins and ends with no white space, and only
white space was taken away.
-/

namespace AlertOperator.Text

/-! ## The grammar -/

/-- One or more decimal digits, of which `n` is the value in positional notation. -/
structure IsDecimal (s : List Char) (n : Nat) : Prop where
  ne_nil : s ≠ []
  digits : ∀ c ∈ s, '0' ≤ c ∧ c ≤ '9'
  value : n = Nat.ofDigits 10 (s.reverse.map fun c ↦ c.toNat - 48)

/-- A decimal number after an optional `+`. -/
inductive IsNatural : List Char → Nat → Prop
  | bare {s : List Char} {n : Nat} (h : IsDecimal s n) : IsNatural s n
  | plus {s : List Char} {n : Nat} (h : IsDecimal s n) : IsNatural ('+' :: s) n

/-- A decimal number after an optional sign. -/
inductive IsInteger : List Char → Int → Prop
  | bare {s : List Char} {n : Nat} (h : IsDecimal s n) : IsInteger s n
  | plus {s : List Char} {n : Nat} (h : IsDecimal s n) : IsInteger ('+' :: s) n
  | minus {s : List Char} {n : Nat} (h : IsDecimal s n) : IsInteger ('-' :: s) (-n)

/-! ## Digits -/

theorem digitValue_ten (c : Char) : digitValue 10 c
    = if '0' ≤ c ∧ c ≤ '9' then some (c.toNat - 48) else none := by
  have hle : ∀ x y : Char, x ≤ y ↔ x.toNat ≤ y.toNat := fun x y ↦ Iff.rfl
  have hdigits : '0'.toNat = 48 ∧ '9'.toNat = 57 ∧ 'a'.toNat = 97 ∧ 'A'.toNat = 65 := by decide
  simp only [digitValue, hexValue, hle, hdigits]
  by_cases h : 48 ≤ c.toNat ∧ c.toNat ≤ 57
  · rw [if_pos h, if_pos h, Option.filter_some, if_pos (by simp; omega)]
  · rw [if_neg h, if_neg h]
    split
    · rw [Option.filter_some, if_neg (by simp; omega)]
    · split
      · rw [Option.filter_some, if_neg (by simp; omega)]
      · rfl

/-- Horner's rule gives the value in positional notation, after what has been read before. -/
theorem natFrom_ten_eq_some_iff {acc n : Nat} {s : List Char} : natFrom 10 acc s = some n ↔
    (∀ c ∈ s, '0' ≤ c ∧ c ≤ '9') ∧
      n = Nat.ofDigits 10 (s.reverse.map fun c ↦ c.toNat - 48) + 10 ^ s.length * acc := by
  induction s generalizing acc with
  | nil => simp [natFrom, eq_comm]
  | cons c s ih =>
    rw [natFrom, digitValue_ten]
    split
    · rename_i hc
      rw [Option.bind_some, ih]
      simp only [List.forall_mem_cons, hc, and_self, true_and, List.reverse_cons, List.map_append,
        List.map_cons, List.map_nil, Nat.ofDigits_append, Nat.ofDigits_singleton, List.length_map,
        List.length_reverse, List.length_cons, and_congr_right_iff]
      intro _
      have hplace : 10 ^ s.length * (acc * 10 + (c.toNat - 48))
          = 10 ^ s.length * (c.toNat - 48) + 10 ^ (s.length + 1) * acc := by
        rw [Nat.mul_add, Nat.add_comm, Nat.pow_succ, Nat.mul_assoc, Nat.mul_comm acc]
      rw [hplace, Nat.add_assoc]
    · rename_i hc
      simp [hc]

theorem readNat_eq_some_iff {s : List Char} {n : Nat} : readNat 10 s = some n ↔ IsDecimal s n := by
  cases s with
  | nil => exact iff_of_false nofun fun h ↦ h.ne_nil rfl
  | cons c s =>
    rw [readNat, natFrom_ten_eq_some_iff, Nat.mul_zero, Nat.add_zero]
    · exact ⟨fun h ↦ ⟨List.cons_ne_nil c s, h.1, h.2⟩, fun h ↦ ⟨h.digits, h.value⟩⟩
    · exact nofun

theorem IsDecimal.ne_sign {s : List Char} {n : Nat} (h : IsDecimal s n) :
    (∀ t, s ≠ '+' :: t) ∧ ∀ t, s ≠ '-' :: t := by
  constructor
  all_goals
    rintro t rfl
    exact absurd (h.digits _ List.mem_cons_self) (by decide)

theorem readInt_eq_some_iff {s : List Char} {n : Int} : readInt s = some n ↔ IsInteger s n := by
  constructor
  · unfold readInt
    split
    all_goals
      intro h
      obtain ⟨m, hm, rfl⟩ := Option.map_eq_some_iff.1 h
    · exact .plus (readNat_eq_some_iff.1 hm)
    · obtain ⟨k, hk, hkm⟩ := Option.bind_eq_some_iff.1 hm
      obtain rfl := Option.some.inj hkm
      exact .minus (readNat_eq_some_iff.1 hk)
    · exact .bare (readNat_eq_some_iff.1 hm)
  · rintro (h | h | h)
    · rw [readInt, readNat_eq_some_iff.2 h]
      · rfl
      · exact h.ne_sign.1
      · exact h.ne_sign.2
    all_goals
      rw [readInt, readNat_eq_some_iff.2 h]
      rfl

theorem readNatUpTo_eq_some_iff {most : Nat} {s : List Char} {n : Nat} :
    readNatUpTo most s = some n ↔ IsNatural s n ∧ n ≤ most := by
  have hfilter : ∀ t, (readNat 10 t).filter (· ≤ most) = some n ↔ IsDecimal t n ∧ n ≤ most := by
    intro t
    rw [Option.filter_eq_some_iff, readNat_eq_some_iff, decide_eq_true_eq]
  constructor
  · unfold readNatUpTo
    split
    · exact fun h ↦ ((hfilter _).1 h).imp_left .plus
    · exact fun h ↦ ((hfilter _).1 h).imp_left .bare
  · rintro ⟨h | h, hmost⟩
    · rw [readNatUpTo, hfilter]
      · exact ⟨h, hmost⟩
      · exact h.ne_sign.1
    · rw [readNatUpTo, hfilter]
      exact ⟨h, hmost⟩

theorem readIntBetween_eq_some_iff {least most : Int} {s : List Char} {n : Int} :
    readIntBetween least most s = some n ↔ IsInteger s n ∧ least ≤ n ∧ n ≤ most := by
  rw [readIntBetween, Option.filter_eq_some_iff, readInt_eq_some_iff, decide_eq_true_eq]

/-! ## White space around a text -/

/-- What is left of `s` without the white space at its two ends. -/
structure IsTrimmed (s t : List Char) : Prop where
  ends : ∃ before after, s = before ++ t ++ after ∧ (∀ c ∈ before, isBlank c = true) ∧
    ∀ c ∈ after, isBlank c = true
  head : ∀ c ∈ t.head?, isBlank c = false
  last : ∀ c ∈ t.getLast?, isBlank c = false

theorem dropWhile_eq_iff {p : Char → Bool} {s t : List Char} : s.dropWhile p = t ↔
    (∃ before, s = before ++ t ∧ ∀ c ∈ before, p c = true) ∧ ∀ c ∈ t.head?, p c = false := by
  constructor
  · rintro rfl
    refine ⟨⟨s.takeWhile p, List.takeWhile_append_dropWhile.symm, fun c ↦ List.mem_takeWhile_imp⟩,
      fun c hc ↦ ?_⟩
    rw [← List.find?_not_eq_head?_dropWhile] at hc
    simpa using List.find?_some hc
  · rintro ⟨⟨before, rfl, hbefore⟩, ht⟩
    rw [List.dropWhile_append_of_pos hbefore]
    cases t with
    | nil => rfl
    | cons c t => rw [List.dropWhile_cons_of_neg (by simp [ht c rfl])]

theorem trim_eq_iff {s t : List Char} : trim s = t ↔ IsTrimmed s t := by
  rw [trim, List.reverse_eq_iff]
  constructor
  · intro h
    obtain ⟨⟨before, hs, hbefore⟩, hhead⟩ := dropWhile_eq_iff.1 (rfl : s.dropWhile isBlank = _)
    obtain ⟨⟨after, hrest, hafter⟩, hlast⟩ := dropWhile_eq_iff.1 h
    have hrest : s.dropWhile isBlank = t ++ after.reverse := by
      rw [← List.reverse_reverse (s.dropWhile isBlank), hrest, List.reverse_append,
        List.reverse_reverse]
    rw [List.head?_reverse] at hlast
    refine ⟨⟨before, after.reverse, ?_, hbefore, ?_⟩, fun c hc ↦ hhead c ?_, hlast⟩
    · rw [List.append_assoc, ← hrest]
      exact hs
    · exact fun c hc ↦ hafter c (List.mem_reverse.1 hc)
    · rw [hrest, List.head?_append, hc]
      rfl
  · rintro ⟨⟨before, after, rfl, hbefore, hafter⟩, hhead, hlast⟩
    rw [List.append_assoc]
    by_cases ht : t = []
    · subst ht
      have hall : (before ++ ([] ++ after)).dropWhile isBlank = [] := by
        rw [List.dropWhile_eq_nil_iff]
        intro c hc
        exact (List.mem_append.1 hc).elim (hbefore c) (hafter c)
      rw [hall]
      rfl
    · have hrest : (before ++ (t ++ after)).dropWhile isBlank = t ++ after := by
        refine dropWhile_eq_iff.2 ⟨⟨before, rfl, hbefore⟩, fun c hc ↦ hhead c ?_⟩
        rwa [List.head?_append_of_ne_nil _ ht] at hc
      rw [hrest]
      refine dropWhile_eq_iff.2 ⟨⟨after.reverse, List.reverse_append, ?_⟩, ?_⟩
      · exact fun c hc ↦ hafter c (List.mem_reverse.1 hc)
      · rwa [List.head?_reverse]

end AlertOperator.Text
