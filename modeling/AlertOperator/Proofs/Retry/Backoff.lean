import AlertOperator.Retry.Backoff
import Mathlib.Data.Nat.Fib.Basic

/-!
# The delays of a sequence

The delays grow like the Fibonacci numbers, as multiples of the shortest delay, up to the longest
one. A sequence keeps only its last two delays, both of them capped, and adds them in words that
could overflow. That neither the caps nor the words falsify the sum is one identity: the smaller of
the longest delay and a sum does not change when its terms are capped first, `min_add_distrib`. So
after `n` delays a sequence holds the capped multiples for `n` and `n + 1`, which is `nanos_after`.

A sequence can be copied, and a copy goes on from where its original is. What is done with several
sequences that came about in this way is compared with counting: each of them is where its count of
delays says, `run_map`.
-/

namespace AlertOperator

open Time (Duration nanosPerSecond maxNanos)

/-! ## Sums of durations -/

namespace Time

variable (a b d : Duration)

theorem maxNanos_eq : maxNanos = 18446744073709551615999999999 := rfl

theorem nanos_add : (a + b).nanos = min (a.nanos + b.nanos) maxNanos := rfl

theorem nanos_min : (min a b).nanos = min a.nanos b.nanos := by
  change (if a.nanos ≤ b.nanos then a else b).nanos = _
  rw [apply_ite Duration.nanos, Nat.min_def]

namespace Duration

theorem seconds_fraction_eq {s f : Nat} (h : d.nanos = s * nanosPerSecond + f)
    (hf : f < nanosPerSecond) : (d.seconds, d.fraction) = (s, f) := by
  rw [seconds, fraction, h, Prod.mk.injEq, nanosPerSecond]
  rw [nanosPerSecond] at hf
  omega

theorem nanos_eq : d.nanos = d.seconds * nanosPerSecond + d.fraction :=
  (Nat.div_add_mod' d.nanos nanosPerSecond).symm

theorem fraction_lt : d.fraction < nanosPerSecond := Nat.mod_lt _ (by decide)

/-- The seconds and nanoseconds of a sum, where seconds are added in a word of 64 bits and
nanoseconds in one of 32 bits, from which a full second is carried. None if a word overflows. -/
def carried? : Option (Nat × Nat) :=
  let seconds := a.seconds + b.seconds
  let nanos := a.fraction + b.fraction
  if 2 ^ 64 ≤ seconds ∨ 2 ^ 32 ≤ nanos then none
  else if nanos < nanosPerSecond then some (seconds, nanos)
  else if 2 ^ 64 ≤ seconds + 1 then none
  else some (seconds + 1, nanos - nanosPerSecond)

/-- The words hold every sum that is a duration, and one of them overflows otherwise. -/
theorem carried?_eq : carried? a b =
    if a.nanos + b.nanos ≤ maxNanos then some ((a + b).seconds, (a + b).fraction) else none := by
  have hsum : a.nanos + b.nanos ≤ maxNanos → (a + b).nanos = a.nanos + b.nanos :=
    fun hfits ↦ Nat.min_eq_left hfits
  have hparts : ∀ {s f : Nat}, a.nanos + b.nanos ≤ maxNanos →
      a.nanos + b.nanos = s * nanosPerSecond + f → f < nanosPerSecond →
        (s, f) = ((a + b).seconds, (a + b).fraction) := fun hfits hnanos hf ↦
    (seconds_fraction_eq _ ((hsum hfits).trans hnanos) hf).symm
  have ha := a.nanos_eq
  have hb := b.nanos_eq
  have hfa := a.fraction_lt
  have hfb := b.fraction_lt
  rw [carried?]
  rw [maxNanos_eq] at hparts ⊢
  rw [nanosPerSecond] at ha hb hfa hfb hparts ⊢
  by_cases hwords : 2 ^ 64 ≤ a.seconds + b.seconds ∨ 2 ^ 32 ≤ a.fraction + b.fraction
  · rw [if_pos hwords, if_neg (by omega)]
  rw [if_neg hwords]
  by_cases hcarry : a.fraction + b.fraction < 1000000000
  · rw [if_pos hcarry, if_pos (by omega), hparts (by omega) (by omega) hcarry]
  rw [if_neg hcarry]
  by_cases hlast : 2 ^ 64 ≤ a.seconds + b.seconds + 1
  · rw [if_pos hlast, if_neg (by omega)]
  · rw [if_neg hlast, if_pos (by omega), hparts (by omega) (by omega) (by omega)]

end Duration

end Time

namespace Retry.Backoff

/-! ## One sequence -/

section Sequence

variable (least most : Duration)

/-- The sequence after some delays. -/
def after : Nat → Backoff
  | 0 => start least most
  | n + 1 => (after n).next.2

/-- The multiple of the shortest delay by a Fibonacci number, or the longest delay if that is
shorter. -/
def multiple (n : Nat) : Nat := min most.nanos (Nat.fib n * least.nanos)

theorem multiple_le (n : Nat) : multiple least most n ≤ most.nanos := Nat.min_le_left _ _

theorem multiple_mono {m n : Nat} (h : m ≤ n) : multiple least most m ≤ multiple least most n :=
  min_le_min_left _ (Nat.mul_le_mul_right _ (Nat.fib_mono h))

theorem multiple_add_two (n : Nat) : multiple least most (n + 2)
    = min most.nanos (multiple least most n + multiple least most (n + 1)) := by
  rw [multiple, multiple, multiple, ← min_add_distrib, ← Nat.add_mul, ← Nat.fib_add_two]

/-- The bounds stay, and the two delays that a sequence holds are the next multiple and the one
before it. -/
theorem nanos_after (n : Nat) :
    (after least most n).least = least ∧ (after least most n).most = most ∧
      (after least most n).previous.nanos = multiple least most n ∧
      (after least most n).current.nanos = multiple least most (n + 1) := by
  induction n with
  | zero =>
    refine ⟨rfl, rfl, ?_, ?_⟩
    · simp [multiple, after, start, Duration.zero]
    · simp [multiple, after, start, Time.nanos_min, Nat.min_comm]
  | succ n ih =>
    obtain ⟨hleast, hmost, hprevious, hcurrent⟩ := ih
    refine ⟨hleast, hmost, hcurrent, ?_⟩
    have hnext : (after least most (n + 1)).current
        = min ((after least most n).previous + (after least most n).current)
            (after least most n).most := rfl
    -- the longest delay is a duration itself, so it caps the sum before the words do
    rw [hnext, Time.nanos_min, Time.nanos_add, hmost, hprevious, hcurrent,
      Nat.min_right_comm, Nat.min_assoc, Nat.min_eq_left most.nanos_le, Nat.min_comm,
      ← multiple_add_two]

/-- From one second to one minute. -/
example : (List.range 12).map (fun n ↦ (after (.ofSeconds 1) (.ofSeconds 60) n).current.seconds)
    = [1, 1, 2, 3, 5, 8, 13, 21, 34, 55, 60, 60] := by
  decide

theorem reset_after (n : Nat) : (after least most n).reset = after least most 0 := by
  obtain ⟨hleast, hmost, -⟩ := nanos_after least most n
  rw [reset, hleast, hmost, after]

/-- The sum of the two delays that a sequence holds is formed in words, or it is longer than any
duration, and the longest delay follows. -/
theorem carried?_after (n : Nat) :
    let b := after least most n
    b.previous.carried? b.current
        = some ((b.previous + b.current).seconds, (b.previous + b.current).fraction) ∨
      (b.previous.carried? b.current = none ∧ b.next.2.current = most) := by
  intro b
  rw [Duration.carried?_eq]
  by_cases hfits : b.previous.nanos + b.current.nanos ≤ maxNanos
  · exact .inl (if_pos hfits)
  · refine .inr ⟨if_neg hfits, Duration.ext_nanos ?_⟩
    have hnext : b.next.2.current = min (b.previous + b.current) b.most := rfl
    have hmost : b.most = most := (nanos_after least most n).2.1
    rw [hnext, Time.nanos_min, Time.nanos_add, hmost, Nat.min_eq_right (Nat.le_of_not_le hfits)]
    exact Nat.min_eq_right most.nanos_le

end Sequence

/-! ## Several sequences -/

/-- What is done with one of several sequences. They are numbered in the order in which they came
about. -/
inductive Use where
  | next (i : Nat)
  | reset (i : Nat)
  /-- The sequence is copied, and the copy comes last. -/
  | clone (i : Nat)
  deriving DecidableEq, Repr

namespace Use

variable {α β : Type} {next reset : α → α} {u : Use} {i : Nat}

/-- What becomes of several things of which one is used. -/
def on (next reset : α → α) (u : Use) (xs : List α) : List α :=
  match u with
  | .next i => xs.modify i next
  | .reset i => xs.modify i reset
  | .clone i => xs ++ xs[i]?.toList

theorem getElem?_on {xs : List α} {x : α} (h : xs[i]? = some x) :
    (u.on next reset xs)[i]?
      = some (if u = .next i then next x else if u = .reset i then reset x else x) := by
  cases u with
  | next j =>
    rw [on, List.getElem?_modify, h]
    by_cases hj : j = i <;> simp [hj]
  | reset j =>
    rw [on, List.getElem?_modify, h]
    by_cases hj : j = i <;> simp [hj]
  | clone j =>
    obtain ⟨hlt, -⟩ := List.getElem?_eq_some_iff.1 h
    rw [on, List.getElem?_append_left hlt, h]
    simp

theorem map_modify {f : β → α} {g : β → β} (hf : ∀ y, f (g y) = next (f y)) (i : Nat)
    (ys : List β) : (ys.modify i g).map f = (ys.map f).modify i next := by
  apply List.ext_getElem?
  intro j
  rw [List.getElem?_map, List.getElem?_modify, List.getElem?_modify, List.getElem?_map]
  by_cases hij : i = j <;> simp [hij, Function.comp_def, hf]

/-- What two kinds of things have in common stays so if both are used in the same way. -/
theorem map_on {f : β → α} {next' reset' : β → β} (hnext : ∀ y, f (next' y) = next (f y))
    (hreset : ∀ y, f (reset' y) = reset (f y)) (u : Use) (ys : List β) :
    (u.on next' reset' ys).map f = u.on next reset (ys.map f) := by
  cases u with
  | next i => exact map_modify hnext i ys
  | reset i => exact map_modify hreset i ys
  | clone i =>
    rw [on, on, List.map_append, List.getElem?_map]
    cases ys[i]? <;> rfl

/-- The sequences after some uses. -/
def run (uses : List Use) (bs : List Backoff) : List Backoff :=
  uses.foldl (fun bs u ↦ u.on (fun b ↦ b.next.2) Backoff.reset bs) bs

/-- How many delays each sequence has given since it began or was reset, where a copy has given
those of its original too. -/
def count (uses : List Use) (ns : List Nat) : List Nat :=
  uses.foldl (fun ns u ↦ u.on (· + 1) (fun _ ↦ 0) ns) ns

theorem run_map (least most : Duration) (uses : List Use) (ns : List Nat) :
    run uses (ns.map (after least most)) = (count uses ns).map (after least most) := by
  induction uses generalizing ns with
  | nil => rfl
  | cons u uses ih =>
    have hstep : (u.on (· + 1) (fun _ ↦ 0) ns).map (after least most)
        = u.on (fun b ↦ b.next.2) Backoff.reset (ns.map (after least most)) := by
      refine map_on ?_ ?_ u ns
      · exact fun n ↦ rfl
      · exact fun n ↦ (reset_after least most n).symm
    rw [run, List.foldl_cons, ← hstep]
    exact ih _

/-- A count grows unless its sequence is reset, and stays as it is if nothing is done with the
sequence itself. -/
theorem exists_count {ns : List Nat} {n : Nat} (uses : List Use) (h : ns[i]? = some n) :
    ∃ n', (count uses ns)[i]? = some n' ∧
      (.reset i ∉ uses → n ≤ n' ∧ (.next i ∉ uses → n' = n)) := by
  induction uses generalizing ns n with
  | nil => exact ⟨n, h, fun _ ↦ ⟨le_rfl, fun _ ↦ rfl⟩⟩
  | cons u uses ih =>
    obtain ⟨n', hn', hkeeps⟩ := ih (getElem?_on (u := u) h)
    refine ⟨n', hn', fun hreset ↦ ?_⟩
    rw [List.mem_cons, not_or] at hreset
    obtain ⟨hle, heq⟩ := hkeeps hreset.2
    rw [if_neg (Ne.symm hreset.1)] at hle heq
    constructor
    · split at hle <;> omega
    · intro hnext
      rw [List.mem_cons, not_or] at hnext
      rw [heq hnext.2, if_neg (Ne.symm hnext.1)]

end Use

/-! ## The closed form -/

/-- Whatever has been done with a sequence and its copies: a sequence that has given `n` delays
since it began or was reset, those of its original included,

* gives as the next one the multiple of the shortest delay by the Fibonacci number of `n + 1`, or
  the longest delay if that is shorter;
* forms the one after it in words that hold it, or saturates them, and the longest delay follows;
* gives no delay longer than the longest one, and, until it is reset, none shorter than this one, so
  that the longest delay is followed by itself;
* is left as it is by all that is done with others, its copies among them. -/
theorem delay_eq_min_fib {least most : Duration} {uses : List Use} {i : Nat} {b : Backoff}
    (h : (Use.run uses [start least most])[i]? = some b) :
    (∃ n, (Use.count uses [0])[i]? = some n ∧
      b.next.1.nanos = min most.nanos (Nat.fib (n + 1) * least.nanos)) ∧
    (b.previous.carried? b.current
        = some ((b.previous + b.current).seconds, (b.previous + b.current).fraction) ∨
      (b.previous.carried? b.current = none ∧ b.next.2.current = most)) ∧
    b.next.1.nanos ≤ most.nanos ∧
    ∀ more, .reset i ∉ more →
      ∃ b', (Use.run more (Use.run uses [start least most]))[i]? = some b' ∧
        b.next.1.nanos ≤ b'.next.1.nanos ∧ (b.next.1 = most → b'.next.1 = most) ∧
        (.next i ∉ more → b' = b) := by
  have hrun : Use.run uses [start least most]
      = (Use.count uses [0]).map (after least most) := Use.run_map least most uses [0]
  have hnext : ∀ n, (after least most n).next.1.nanos = multiple least most (n + 1) :=
    fun n ↦ (nanos_after least most n).2.2.2
  rw [hrun, List.getElem?_map] at h
  obtain ⟨n, hn, rfl⟩ := Option.map_eq_some_iff.1 h
  refine ⟨⟨n, hn, hnext n⟩, carried?_after least most n, ?_, fun more hreset ↦ ?_⟩
  · rw [hnext]
    exact multiple_le least most _
  · obtain ⟨n', hn', hkeeps⟩ := Use.exists_count more hn
    obtain ⟨hle, heq⟩ := hkeeps hreset
    have hmono : (after least most n).next.1.nanos ≤ (after least most n').next.1.nanos := by
      rw [hnext, hnext]
      exact multiple_mono least most (Nat.succ_le_succ hle)
    refine ⟨after least most n', ?_, hmono, fun hmost ↦ ?_, fun hown ↦ by rw [heq hown]⟩
    · rw [hrun, Use.run_map, List.getElem?_map, hn']
      rfl
    · -- nothing is longer than the longest delay
      refine Duration.ext_nanos (Nat.le_antisymm ?_ ?_)
      · rw [hnext]
        exact multiple_le least most _
      · exact (congrArg Duration.nanos hmost).ge.trans hmono

/-- The sum of two delays of 2⁶³ seconds is the first one that the words cannot hold. A copy made
after these two delays gives the longest one, and its original, which is reset, starts again. -/
theorem delay_eq_min_fib_longest :
    let least : Duration := .ofSeconds (2 ^ 63)
    let most : Duration := ⟨maxNanos, Nat.le_refl _⟩
    let uses : List Use := [.next 0, .next 0, .clone 0, .reset 0]
    ∃ original copy, (Use.run uses [start least most])[0]? = some original ∧
      (Use.run uses [start least most])[1]? = some copy ∧
      original.next.1.nanos = 2 ^ 63 * nanosPerSecond ∧ copy.next.1 = most := by
  intro least most uses
  obtain ⟨original, horiginal⟩ : ∃ b, (Use.run uses [start least most])[0]? = some b := ⟨_, rfl⟩
  obtain ⟨copy, hcopy⟩ : ∃ b, (Use.run uses [start least most])[1]? = some b := ⟨_, rfl⟩
  refine ⟨original, copy, horiginal, hcopy, ?_, Duration.ext_nanos ?_⟩
  · obtain ⟨n, hn, hnanos⟩ := (delay_eq_min_fib horiginal).1
    obtain rfl : 0 = n := Option.some.inj hn
    rw [hnanos]
    decide
  · obtain ⟨n, hn, hnanos⟩ := (delay_eq_min_fib hcopy).1
    obtain rfl : 2 = n := Option.some.inj hn
    rw [hnanos]
    decide

end Retry.Backoff

end AlertOperator
