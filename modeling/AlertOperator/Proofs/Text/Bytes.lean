import AlertOperator.Text.Bytes
import Mathlib.Algebra.Group.Nat.Defs

/-!
# Text as bytes

Two texts with the same encoding are equal. The lenient reader passes no byte over: where the bytes
are not UTF-8 it leaves a mark, so what it reads is empty only if there are no bytes.

The strict reader reads a text from its encoding, and from no other bytes. `Partial.Begins` carries
that: a first byte announces which characters may follow, and these are the ones whose encodings
start with it, neither an overlong form nor a surrogate among them.
-/

namespace AlertOperator.Bytes

theorem ofString_inj {s t : String} (h : ofString s = ofString t) : s = t := by
  have hencode : s.toList.utf8Encode = t.toList.utf8Encode := by
    rw [List.utf8Encode, List.utf8Encode]
    exact congrArg List.toByteArray h
  rw [String.utf8Encode_toList, String.utf8Encode_toList] at hencode
  exact String.toByteArray_inj.1 hencode

theorem scan_some_ne_nil (p : Partial) (bs : Bytes) : scan (some p) bs ≠ [] := by
  induction bs generalizing p with
  | nil => exact List.cons_ne_nil _ _
  | cons b bs ih =>
    rw [scan]
    split
    · dsimp only
      split
      · exact List.cons_ne_nil _ _
      · exact ih _
    · exact List.cons_ne_nil _ _

theorem scan_eq_nil_iff {bs : Bytes} : scan none bs = [] ↔ bs = [] := by
  cases bs with
  | nil => exact iff_of_true rfl rfl
  | cons b bs =>
    refine iff_of_false ?_ (List.cons_ne_nil _ _)
    rw [scan]
    split
    · exact List.cons_ne_nil _ _
    · exact scan_some_ne_nil _ bs
    · exact List.cons_ne_nil _ _

theorem toStringLossy_eq_empty_iff {bs : Bytes} : bs.toStringLossy = "" ↔ bs = [] := by
  have hempty : "" = String.ofList [] := rfl
  rw [toStringLossy, hempty, String.ofList_inj, List.map_eq_nil_iff, scan_eq_nil_iff]

/-! ## UTF-8 -/

/-- The last `m` bytes of the encoding of the code point `n`, which hold six bits each. -/
def continuation (n : Nat) : Nat → Bytes
  | 0 => []
  | m + 1 => UInt8.ofNat (n / 64 ^ m % 64 + 128) :: continuation n m

/-- Something is still to come, and only bytes that continue a character are allowed. -/
structure Partial.Continues (p : Partial) : Prop where
  missing : 0 < p.missing
  least : 128 ≤ p.least
  most : p.most ≤ 191

/-- The code point `n` begins as has been read, and its next byte is allowed. -/
structure Partial.Begins (p : Partial) (n : Nat) : Prop where
  bits : n / 64 ^ p.missing = p.bits
  least : p.least ≤ n / 64 ^ (p.missing - 1) % 64 + 128
  most : n / 64 ^ (p.missing - 1) % 64 + 128 ≤ p.most

theorem scan_some_cons (p : Partial) (b : UInt8) (bs : Bytes) : scan (some p) (b :: bs)
    = if p.least ≤ b.toNat ∧ b.toNat ≤ p.most then
        if p.missing ≤ 1 then some (Char.ofNat (p.bits * 64 + (b.toNat - 128))) :: scan none bs
        else scan (some ⟨p.bits * 64 + (b.toNat - 128), p.missing - 1, 128, 191⟩) bs
      else none :: scan none (b :: bs) := by
  rw [scan]
  simp only [Bool.and_eq_true, decide_eq_true_eq, scan]

/-- The next byte of a code point that begins like `p`. -/
theorem Partial.Continues.begins_iff {p : Partial} (hp : p.Continues) {n : Nat} {b : UInt8} :
    p.Begins n ∧ b = UInt8.ofNat (n / 64 ^ (p.missing - 1) % 64 + 128) ↔
      (p.least ≤ b.toNat ∧ b.toNat ≤ p.most) ∧
        n / 64 ^ (p.missing - 1) = p.bits * 64 + (b.toNat - 128) := by
  obtain ⟨hmissing, hleast, hmost⟩ := hp
  obtain ⟨m, hm⟩ := Nat.exists_eq_add_of_lt hmissing
  have hbyte : ∀ q : Nat, b = UInt8.ofNat (q % 64 + 128) ↔ b.toNat = q % 64 + 128 := by
    intro q
    rw [← UInt8.toNat_inj, UInt8.toNat_ofNat']
    omega
  have hdiv : n / 64 ^ p.missing = n / 64 ^ (p.missing - 1) / 64 := by
    rw [Nat.div_div_eq_div_mul, ← Nat.pow_succ, hm]
    rfl
  rw [hbyte]
  constructor
  · rintro ⟨⟨hbits, h₁, h₂⟩, hb⟩
    rw [hdiv] at hbits
    omega
  · rintro ⟨⟨h₁, h₂⟩, hq⟩
    refine ⟨⟨?_, ?_, ?_⟩, ?_⟩
    · rw [hdiv]
      omega
    all_goals omega

/-- A beginning is carried through by the bytes of a code point that begins like it, and by no
others. -/
theorem scan_some_eq_cons_iff {p : Partial} (hp : p.Continues) {bs : Bytes} {c : Char}
    {out : List (Option Char)} : scan (some p) bs = some c :: out ↔
      ∃ n rest, p.Begins n ∧ bs = continuation n p.missing ++ rest ∧ Char.ofNat n = c ∧
        scan none rest = out := by
  obtain ⟨m, hm⟩ := Nat.exists_eq_add_of_lt hp.missing
  rw [Nat.zero_add] at hm
  induction m generalizing p bs with
  | zero =>
    cases bs with
    | nil => simp [scan, hm, continuation]
    | cons b bs =>
      have hnext : ∀ n, p.Begins n ∧ b = UInt8.ofNat (n % 64 + 128) ↔
          (p.least ≤ b.toNat ∧ b.toNat ≤ p.most) ∧ n = p.bits * 64 + (b.toNat - 128) := by
        intro n
        have h := hp.begins_iff (n := n) (b := b)
        rwa [hm, Nat.add_sub_cancel, Nat.pow_zero, Nat.div_one] at h
      rw [scan_some_cons, if_pos (Nat.le_of_eq hm), hm]
      constructor
      · intro h
        split at h
        · rename_i hb
          obtain ⟨hc, hout⟩ := List.cons.inj h
          obtain ⟨hn, hbyte⟩ := (hnext _).2 ⟨hb, rfl⟩
          refine ⟨_, bs, hn, ?_, Option.some.inj hc, hout⟩
          rw [continuation, continuation, Nat.pow_zero, Nat.div_one, ← hbyte]
          rfl
        · exact nomatch (List.cons.inj h).1
      · rintro ⟨n, rest, hn, hbs, rfl, rfl⟩
        rw [continuation, continuation, Nat.pow_zero, Nat.div_one] at hbs
        obtain ⟨hbyte, rfl⟩ := List.cons.inj hbs
        obtain ⟨hb, hbits⟩ := (hnext n).1 ⟨hn, hbyte⟩
        rw [if_pos hb, ← hbits]
  | succ m ih =>
    cases bs with
    | nil => simp [scan, hm, continuation]
    | cons b bs =>
      have hnext : ∀ n, p.Begins n ∧ b = UInt8.ofNat (n / 64 ^ (m + 1) % 64 + 128) ↔
          (p.least ≤ b.toNat ∧ b.toNat ≤ p.most) ∧
            n / 64 ^ (m + 1) = p.bits * 64 + (b.toNat - 128) := by
        intro n
        have h := hp.begins_iff (n := n) (b := b)
        rwa [hm, Nat.add_sub_cancel] at h
      let next : Partial := ⟨p.bits * 64 + (b.toNat - 128), m + 1, 128, 191⟩
      have hbegins : ∀ n, next.Begins n ↔ n / 64 ^ (m + 1) = p.bits * 64 + (b.toNat - 128) :=
        fun n ↦ ⟨fun h ↦ h.bits, fun h ↦ ⟨h, Nat.le_add_left _ _, by dsimp only [next]; omega⟩⟩
      have hscan : scan (some next) bs = some c :: out ↔ _ :=
        ih ⟨Nat.succ_pos m, Nat.le_refl _, Nat.le_refl _⟩ rfl
      rw [scan_some_cons, if_neg (by omega : ¬p.missing ≤ 1), hm, Nat.add_sub_cancel]
      constructor
      · intro h
        split at h
        · rename_i hb
          obtain ⟨n, rest, hn, rfl, hc, hout⟩ := hscan.1 h
          obtain ⟨hn, hbyte⟩ := (hnext n).2 ⟨hb, (hbegins n).1 hn⟩
          exact ⟨n, rest, hn, congrArg (· :: (continuation n (m + 1) ++ rest)) hbyte, hc, hout⟩
        · exact nomatch (List.cons.inj h).1
      · rintro ⟨n, rest, hn, hbs, hc, hout⟩
        rw [continuation] at hbs
        obtain ⟨hbyte, rfl⟩ := List.cons.inj hbs
        obtain ⟨hb, hbits⟩ := (hnext n).1 ⟨hn, hbyte⟩
        rw [if_pos hb]
        exact hscan.2 ⟨n, rest, (hbegins n).2 hbits, rfl, hc, hout⟩

theorem encode_eq (c : Char) : String.utf8EncodeChar c =
    if c.toNat < 128 then [UInt8.ofNat c.toNat]
    else if c.toNat < 2048 then UInt8.ofNat (c.toNat / 64 + 192) :: continuation c.toNat 1
    else if c.toNat < 65536 then UInt8.ofNat (c.toNat / 64 ^ 2 + 224) :: continuation c.toNat 2
    else UInt8.ofNat (c.toNat / 64 ^ 3 + 240) :: continuation c.toNat 3 := by
  have hvalid : c.toNat < 1114112 := by
    have h := c.valid
    simp only [UInt32.isValidChar, Nat.isValidChar] at h
    exact show c.val.toNat < 1114112 by omega
  have hval : c.val.toNat = c.toNat := rfl
  simp only [String.utf8EncodeChar.eq_1, hval, continuation, Nat.reducePow, Nat.div_one]
  generalize c.toNat = n at hvalid
  by_cases h₁ : n < 128
  · rw [if_pos (by omega), if_pos h₁]
  by_cases h₂ : n < 2048
  · rw [if_neg (by omega), if_pos (by omega), if_neg h₁, if_pos h₂, Nat.mod_eq_of_lt (by omega)]
  by_cases h₃ : n < 65536
  · rw [if_neg (by omega), if_neg (by omega), if_pos (by omega), if_neg h₁, if_neg h₂, if_pos h₃,
      Nat.mod_eq_of_lt (by omega)]
  · rw [if_neg (by omega), if_neg (by omega), if_neg (by omega), if_neg h₁, if_neg h₂, if_neg h₃,
      Nat.mod_eq_of_lt (by omega)]

/-- The first bytes of longer characters: a mark for the number of bytes to come, and the first bits
of the code point. The second byte is bounded where fewer bytes would do, at the surrogates, and at
the end of the code points. -/
theorem lead_eq_start_iff {b : UInt8} {p : Partial} : lead b = .start p ↔
    (p.missing = 1 ∧ b.toNat = p.bits + 192 ∧ 2 ≤ p.bits ∧ p.bits < 32 ∧
        p.least = 128 ∧ p.most = 191) ∨
      (p.missing = 2 ∧ b.toNat = p.bits + 224 ∧ p.bits < 16 ∧
        p.least = (if p.bits = 0 then 160 else 128) ∧
        p.most = if p.bits = 13 then 159 else 191) ∨
      (p.missing = 3 ∧ b.toNat = p.bits + 240 ∧ p.bits < 5 ∧
        p.least = (if p.bits = 0 then 144 else 128) ∧
        p.most = if p.bits = 4 then 143 else 191) := by
  obtain ⟨bits, missing, least, most⟩ := p
  simp only [lead, Bool.and_eq_true, decide_eq_true_eq]
  generalize b.toNat = n
  constructor
  · intro h
    repeat' split at h
    all_goals simp only [reduceCtorEq, Lead.start.injEq, Partial.mk.injEq] at h
    all_goals
      obtain ⟨rfl, rfl, rfl, rfl⟩ := h
      grind
  · rintro (⟨rfl, rfl, h₁, h₂, rfl, rfl⟩ | ⟨rfl, rfl, h₁, h₂, h₃⟩ | ⟨rfl, rfl, h₁, h₂, h₃⟩)
    · rw [if_neg (by omega), if_pos (by omega), Nat.add_sub_cancel]
    · have hcases : bits = 0 ∨ bits = 13 ∨ (bits ≠ 0 ∧ bits ≠ 13) := by omega
      rcases hcases with rfl | rfl | ⟨hfirst, hsurrogate⟩
      · rw [h₂, h₃]
        rfl
      · rw [h₂, h₃]
        rfl
      · rw [if_neg hfirst] at h₂
        rw [if_neg hsurrogate] at h₃
        grind
    · have hcases : bits = 0 ∨ bits = 4 ∨ (bits ≠ 0 ∧ bits ≠ 4) := by omega
      rcases hcases with rfl | rfl | ⟨hfirst, hlast⟩
      · rw [h₂, h₃]
        rfl
      · rw [h₂, h₃]
        rfl
      · rw [if_neg hfirst] at h₂
        rw [if_neg hlast] at h₃
        grind

theorem toNat_ofNat {n : Nat} (h : n.isValidChar) : (Char.ofNat n).toNat = n := by
  rw [Char.ofNat, dif_pos h]
  rfl

/-- A first byte that begins a longer character allows exactly the code points whose encoding begins
with it. -/
theorem Partial.Begins.encode {b : UInt8} {p : Partial} (h : lead b = .start p) {n : Nat}
    (hn : p.Begins n) : n.isValidChar ∧
      String.utf8EncodeChar (Char.ofNat n) = b :: continuation n p.missing := by
  obtain ⟨hbits, hleast, hmost⟩ := hn
  have hbyte : b :: continuation n p.missing
      = UInt8.ofNat b.toNat :: continuation n p.missing := by rw [UInt8.ofNat_toNat]
  rw [lead_eq_start_iff] at h
  rcases h with ⟨hm, hb, h₁, h₂, h₃, h₄⟩ | ⟨hm, hb, h₁, h₂, h₃⟩ | ⟨hm, hb, h₁, h₂, h₃⟩
  · rw [hm] at hbits hleast hmost
    have hvalid : n.isValidChar := .inl (by omega)
    refine ⟨hvalid, ?_⟩
    rw [encode_eq, toNat_ofNat hvalid, if_neg (by omega), if_pos (by omega), hbyte, hm, hb, ← hbits,
      Nat.pow_one]
  · rw [hm] at hbits hleast hmost
    have hvalue := hbits
    simp only [Nat.reducePow, Nat.reduceSub] at hvalue hleast hmost
    have hvalid : n.isValidChar := by
      rw [Nat.isValidChar]
      grind
    refine ⟨hvalid, ?_⟩
    rw [encode_eq, toNat_ofNat hvalid, if_neg (by grind), if_neg (by grind), if_pos (by grind),
      hbyte, hm, hb, ← hbits]
  · rw [hm] at hbits hleast hmost
    have hvalue := hbits
    simp only [Nat.reducePow, Nat.reduceSub] at hvalue hleast hmost
    have hvalid : n.isValidChar := by
      rw [Nat.isValidChar]
      grind
    refine ⟨hvalid, ?_⟩
    rw [encode_eq, toNat_ofNat hvalid, if_neg (by grind), if_neg (by grind), if_neg (by grind),
      hbyte, hm, hb, ← hbits]

theorem Partial.continues_of_lead {b : UInt8} {p : Partial} (h : lead b = .start p) :
    p.Continues := by
  rw [lead_eq_start_iff] at h
  constructor
  all_goals grind

/-- The encoding of a character that is not ASCII begins with a first byte that allows it. -/
theorem exists_lead {c : Char} (hc : 128 ≤ c.toNat) :
    ∃ b p, lead b = .start p ∧ p.Begins c.toNat ∧
      String.utf8EncodeChar c = b :: continuation c.toNat p.missing := by
  have hvalid : c.toNat < 55296 ∨ 57343 < c.toNat ∧ c.toNat < 1114112 := c.valid
  have hbyte : ∀ {n : Nat}, n < 256 → (UInt8.ofNat n).toNat = n := fun h ↦ by
    rw [UInt8.toNat_ofNat', Nat.mod_eq_of_lt h]
  rw [encode_eq]
  generalize c.toNat = n at hc hvalid
  by_cases h₁ : n < 2048
  · refine ⟨UInt8.ofNat (n / 64 + 192), ⟨n / 64, 1, 128, 191⟩, ?_, ⟨rfl, ?_, ?_⟩, ?_⟩
    · rw [lead_eq_start_iff, hbyte (by omega)]
      grind
    · exact Nat.le_add_left _ _
    · dsimp only
      omega
    · rw [if_neg (by omega), if_pos h₁]
  by_cases h₂ : n < 65536
  · refine ⟨UInt8.ofNat (n / 64 ^ 2 + 224), ⟨n / 64 ^ 2, 2,
      if n / 64 ^ 2 = 0 then 160 else 128, if n / 64 ^ 2 = 13 then 159 else 191⟩, ?_,
      ⟨rfl, ?_, ?_⟩, ?_⟩
    · rw [lead_eq_start_iff, hbyte (by omega)]
      grind
    · grind
    · grind
    · rw [if_neg (by omega), if_neg h₁, if_pos h₂]
  · refine ⟨UInt8.ofNat (n / 64 ^ 3 + 240), ⟨n / 64 ^ 3, 3,
      if n / 64 ^ 3 = 0 then 144 else 128, if n / 64 ^ 3 = 4 then 143 else 191⟩, ?_,
      ⟨rfl, ?_, ?_⟩, ?_⟩
    · rw [lead_eq_start_iff, hbyte (by omega)]
      grind
    · grind
    · grind
    · rw [if_neg (by omega), if_neg h₁, if_neg h₂]

theorem lead_eq_whole_iff {b : UInt8} {c : Char} :
    lead b = .whole c ↔ c.toNat < 128 ∧ String.utf8EncodeChar c = [b] := by
  have hvalid : ∀ {n : Nat}, n < 128 → (Char.ofNat n).toNat = n := fun h ↦
    toNat_ofNat (.inl (by omega))
  constructor
  · simp only [lead]
    split
    · rename_i hb
      rintro ⟨⟩
      rw [encode_eq, hvalid hb, if_pos hb, UInt8.ofNat_toNat]
      exact ⟨hb, rfl⟩
    · intro h
      repeat' split at h
      all_goals exact nomatch h
  · rintro ⟨hc, hencode⟩
    rw [encode_eq, if_pos hc] at hencode
    obtain rfl := (List.cons.inj hencode).1
    have hbyte : (UInt8.ofNat c.toNat).toNat = c.toNat := by
      rw [UInt8.toNat_ofNat', Nat.mod_eq_of_lt (by omega)]
    simp only [lead, hbyte, if_pos hc, Char.ofNat_toNat]

theorem scan_none_eq_cons_iff {bs : Bytes} {c : Char} {out : List (Option Char)} :
    scan none bs = some c :: out ↔
      ∃ rest, bs = String.utf8EncodeChar c ++ rest ∧ scan none rest = out := by
  constructor
  · cases bs with
    | nil => exact nofun
    | cons b bs =>
      rw [scan]
      split
      · rename_i c' hlead
        intro h
        obtain ⟨hc, hout⟩ := List.cons.inj h
        obtain rfl := Option.some.inj hc
        exact ⟨bs, by rw [(lead_eq_whole_iff.1 hlead).2]; rfl, hout⟩
      · rename_i p hlead
        intro h
        obtain ⟨n, rest, hn, rfl, rfl, hout⟩ :=
          (scan_some_eq_cons_iff (Partial.continues_of_lead hlead)).1 h
        exact ⟨rest, by rw [(hn.encode hlead).2]; rfl, hout⟩
      · exact fun h ↦ nomatch (List.cons.inj h).1
  · rintro ⟨rest, rfl, rfl⟩
    by_cases hc : c.toNat < 128
    · have hencode : String.utf8EncodeChar c = [UInt8.ofNat c.toNat] := by
        rw [encode_eq, if_pos hc]
      rw [hencode, List.singleton_append, scan, lead_eq_whole_iff.2 ⟨hc, hencode⟩]
    · obtain ⟨b, p, hlead, hbegins, hencode⟩ := exists_lead (Nat.le_of_not_lt hc)
      rw [hencode, List.cons_append, scan, hlead]
      exact (scan_some_eq_cons_iff (Partial.continues_of_lead hlead)).2
        ⟨c.toNat, rest, hbegins, rfl, Char.ofNat_toNat c, rfl⟩

theorem mapM_id_eq_some_iff {α : Type} {xs : List (Option α)} {ys : List α} :
    xs.mapM id = some ys ↔ xs = ys.map some := by
  induction xs generalizing ys with
  | nil => cases ys <;> simp
  | cons x xs ih =>
    have hcons : (x :: xs).mapM id = x.bind fun y ↦ (xs.mapM id).bind fun ys ↦ some (y :: ys) :=
      List.mapM_cons
    rw [hcons]
    cases ys with
    | nil => simp [Option.bind_eq_some_iff]
    | cons y ys => simp [Option.bind_eq_some_iff, ih]

theorem scan_none_eq_map_iff {bs : Bytes} {cs : List Char} :
    scan none bs = cs.map some ↔ bs = cs.flatMap String.utf8EncodeChar := by
  induction cs generalizing bs with
  | nil => exact scan_eq_nil_iff
  | cons c cs ih => simp only [List.map_cons, scan_none_eq_cons_iff, ih, exists_eq_right,
      List.flatMap_cons]

theorem toString?_eq_some_iff {bs : Bytes} {s : String} :
    toString? bs = some s ↔ bs = ofString s := by
  have hlist : ∀ cs, String.ofList cs = s ↔ cs = s.toList := fun cs ↦ by
    rw [← String.ofList_toList (s := s), String.ofList_inj, String.toList_ofList]
  simp only [toString?, Option.map_eq_some_iff, hlist, exists_eq_right, mapM_id_eq_some_iff,
    scan_none_eq_map_iff, ofString]

end AlertOperator.Bytes
