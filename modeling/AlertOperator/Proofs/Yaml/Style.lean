import AlertOperator.Proofs.Yaml.Literal
import AlertOperator.Proofs.Yaml.Quoted

/-!
# Texts in their styles

What is known of a text from the style in which it is written, and of the characters that are
written for it: how many there are, with which one they begin, and that a document may hold all of
them.
-/

namespace AlertOperator.Yaml

/-! ## What a style promises -/

/-- What a text has to be like to be written in a style. -/
def Style.Carries : Style → List Char → Prop
  | .plain, s => plainAllowed s = true ∧ s ≠ []
  | .singleQuoted, s => SingleFrom s
  | .doubleQuoted, _ => True
  | .literal, s => (∀ c ∈ s, isPrintable c = true) ∧ '\n' ∈ s
  | .folded, _ => False

theorem SingleFrom.of_singleAllowed {s : List Char} (h : singleAllowed s = true)
    (hline : '\n' ∉ s) : SingleFrom s := by
  rw [singleAllowed, Bool.and_eq_true, Bool.not_eq_true', Bool.not_eq_true'] at h
  refine ⟨isPrintable_of_needsEscapes h.1, ?_, ?_, h.2⟩
  · rintro c hc rfl
    exact hline hc
  · rw [needsEscapes, Bool.or_eq_false_iff] at h
    exact h.1.2

theorem carries_style (s : List Char) : (style s).Carries s := by
  by_cases hline : '\n' ∈ s
  · have hwanted : wantedStyle s = .literal := if_pos (List.contains_iff_mem.2 hline)
    rw [style, hwanted]
    dsimp only
    split
    · rename_i h
      rw [literalAllowed, Bool.and_eq_true, Bool.not_eq_true'] at h
      exact ⟨isPrintable_of_needsEscapes h.1, hline⟩
    · trivial
  · have hquoted : Style.Carries (if singleAllowed s then .singleQuoted else .doubleQuoted) s := by
      split
      · rename_i h
        exact SingleFrom.of_singleAllowed h hline
      · trivial
    have hnot : ¬s.contains '\n' = true := fun h ↦ hline (List.contains_iff_mem.1 h)
    rw [style, wantedStyle, if_neg hnot]
    split
    · rename_i h
      split at h <;> exact absurd h (by decide)
    · rename_i h
      split
      · rename_i hplain
        refine ⟨hplain, ?_⟩
        rintro rfl
        exact absurd h (by decide)
      · exact hquoted
    · exact hquoted

/-- The first character of a text that is written plain. -/
theorem not_isIndicator_of_plainAllowed {c : Char} {s : List Char}
    (h : plainAllowed (c :: s) = true) :
    isIndicator c = false ∧ ((c == '?' || c == ':' || c == '-') && atSpacing s) = false := by
  have hopens := opensOtherwise_of_plainAllowed h
  rw [opensOtherwise, Bool.or_eq_false_iff, Bool.or_eq_false_iff] at hopens
  exact Bool.or_eq_false_iff.1 hopens.2

theorem opens_of_plainAllowed {s : List Char} (h : plainAllowed s = true) (hne : s ≠ [])
    (k : List Char) : Opens (s ++ k) := by
  have hstops := (PlainFrom.of_plainAllowed h hne).stops (k := k) hne
  have hprint := isPrintable_of_needsEscapes (plainAllowed_iff.1 h).1
  obtain ⟨c, s, rfl⟩ := List.exists_cons_of_ne_nil hne
  rw [List.cons_append, opens_cons]
  refine ⟨hstops, ?_, ne_of_isPrintable (hprint c (by simp)) (by decide)⟩
  rintro rfl
  exact absurd (not_isIndicator_of_plainAllowed h).1 (by decide)

/-- No blank, line break, number sign or byte order mark begins a written text. -/
theorem opens_scalar (n : Nat) (text : String) (k : List Char) : Opens (scalar n text ++ k) := by
  have hcarries := carries_style text.toList
  rw [scalar]
  cases hs : style text.toList with
  | plain =>
    rw [hs] at hcarries
    exact opens_of_plainAllowed hcarries.1 hcarries.2 k
  | singleQuoted => rfl
  | doubleQuoted => rfl
  | literal => rfl
  | folded => rfl

/-! ## Keys that share a line with their values -/

theorem length_flatMap_le {f : Char → List Char} (hf : ∀ c, (f c).length ≤ 4 * c.utf8Size)
    (s : List Char) : (s.flatMap f).length ≤ 4 * (String.ofList s).utf8ByteSize := by
  induction s with
  | nil => exact Nat.zero_le _
  | cons c s ih =>
    have hbytes : (String.ofList (c :: s)).utf8ByteSize
        = c.utf8Size + (String.ofList s).utf8ByteSize := by
      rw [← List.singleton_append, String.ofList_append, String.utf8ByteSize_append,
        ← String.singleton_eq_ofList, String.utf8ByteSize_singleton]
    rw [List.flatMap_cons, List.length_append, hbytes]
    have := hf c
    omega

theorem length_doubleQuotedChar_le (c : Char) : (doubleQuotedChar c).length ≤ 4 * c.utf8Size := by
  have hpos := c.utf8Size_pos
  have htwo : 0xFF < c.toNat → 2 ≤ c.utf8Size := by
    intro h
    have hone : c.utf8Size ≠ 1 := by
      rw [Ne, Char.utf8Size_eq_one_iff, UInt32.le_iff_toNat_le]
      change ¬c.toNat ≤ 127
      omega
    omega
  rw [doubleQuotedChar]
  split
  · rw [List.length_singleton]
    omega
  · split
    · simp only [List.length_cons, List.length_nil]
      omega
    · split
      · simp only [List.length_cons, Text.length_hexPadded]
        omega
      · split
        · have := htwo (by omega)
          simp only [List.length_cons, Text.length_hexPadded]
          omega
        · have hfour : c.utf8Size = 4 := by
            rw [Char.utf8Size_eq_four_iff, UInt32.lt_iff_toNat_lt]
            change 65535 < c.toNat
            omega
          simp only [List.length_cons, Text.length_hexPadded]
          omega

theorem length_singleQuotedChar_le (c : Char) : (singleQuotedChar c).length ≤ 4 * c.utf8Size := by
  have hpos := c.utf8Size_pos
  rw [singleQuotedChar]
  split <;> simp only [List.length_cons, List.length_nil] <;> omega

theorem style_of_isSimpleKey {key : String} (h : isSimpleKey key = true) :
    style key.toList ≠ .literal := by
  intro hstyle
  have hcarries := carries_style key.toList
  rw [hstyle] at hcarries
  rw [isSimpleKey, Bool.and_eq_true, Bool.not_eq_true', isMultiline, List.any_eq_false] at h
  exact h.1 _ hcarries.2 rfl

/-- A key that can share a line with its value is short enough when it is written. -/
theorem length_scalar_of_isSimpleKey {key : String} (n : Nat) (h : isSimpleKey key = true) :
    (scalar n key).length ≤ 1024 := by
  have hstyle := style_of_isSimpleKey h
  have hcarries := carries_style key.toList
  rw [isSimpleKey, Bool.and_eq_true, decide_eq_true_eq, Bool.not_eq_true', isMultiline,
    List.any_eq_false] at h
  obtain ⟨hline, hbytes⟩ := h
  rw [scalar]
  cases hs : style key.toList with
  | plain =>
    have hlen := length_flatMap_le (f := fun c ↦ [c])
      (fun c ↦ by have := c.utf8Size_pos; rw [List.length_singleton]; omega) key.toList
    rw [String.ofList_toList, List.flatMap_singleton'] at hlen
    exact hlen.trans (by omega)
  | singleQuoted =>
    have hlen := length_flatMap_le length_singleQuotedChar_le key.toList
    have hrest := singleQuotedRest_append n (u := []) fun c hc ↦ by
      simpa using hline c hc
    rw [List.append_nil] at hrest
    rw [String.ofList_toList] at hlen
    dsimp only
    rw [singleQuoted_eq, hrest, List.length_cons, List.length_append]
    have hquote : (singleQuotedRest n false []).length = 1 := rfl
    omega
  | doubleQuoted =>
    have hlen := length_flatMap_le length_doubleQuotedChar_le key.toList
    rw [String.ofList_toList] at hlen
    dsimp only
    rw [doubleQuoted, List.length_cons, List.length_append, List.length_singleton]
    omega
  | literal => exact absurd hs hstyle
  | folded =>
    rw [hs] at hcarries
    exact hcarries.elim

/-! ## Characters that a document may hold -/

theorem mem_indented {n : Nat} {fresh : Bool} {s : List Char} {c : Char}
    (h : c ∈ indented n fresh s) : c = ' ' ∨ c ∈ s := by
  induction s generalizing fresh with
  | nil => exact .inr h
  | cons d s ih =>
    rw [indented] at h
    split at h
    · rcases List.mem_cons.1 h with rfl | h
      · exact .inr List.mem_cons_self
      · exact (ih h).imp_right (List.mem_cons_of_mem d)
    · split at h
      · rcases List.mem_append.1 h with h | h
        · exact .inl (List.eq_of_mem_replicate h)
        · rcases List.mem_cons.1 h with rfl | h
          · exact .inr List.mem_cons_self
          · exact (ih h).imp_right (List.mem_cons_of_mem d)
      · rcases List.mem_cons.1 h with rfl | h
        · exact .inr List.mem_cons_self
        · exact (ih h).imp_right (List.mem_cons_of_mem d)

theorem isAllowed_doubleQuotedChar {c x : Char} (h : x ∈ doubleQuotedChar c) :
    isAllowed x = true := by
  have hhex : ∀ x ∈ "0123456789ABCDEF".toList, isAllowed x = true := by
    rw [← List.all_eq_true]
    decide
  rw [doubleQuotedChar] at h
  split at h
  · rename_i hc
    simp only [Bool.and_eq_true] at hc
    rw [List.mem_singleton.1 h]
    exact isAllowed_of_isPrintable hc.1.1.1
  · split at h
    · rename_i e he
      rw [List.mem_cons, List.mem_singleton] at h
      rcases h with rfl | rfl
      · rfl
      · unfold namedEscape at he
        split at he <;> first
          | (obtain rfl := Option.some.inj he; rfl)
          | exact absurd he (by simp)
    · have hnum : ∀ {e : Char} {width : Nat}, isAllowed e = true →
          x ∈ '\\' :: e :: Text.hexPadded 'A' width c.toNat → isAllowed x = true := by
        intro e width he hx
        rcases List.mem_cons.1 hx with rfl | hx
        · rfl
        · rcases List.mem_cons.1 hx with rfl | hx
          · exact he
          · exact hhex x (Text.mem_hexPadded hx)
      split at h
      · exact hnum rfl h
      · split at h
        · exact hnum rfl h
        · exact hnum rfl h

theorem isAllowed_literalMarks {s : List Char} : ∀ c ∈ literalMarks s, isAllowed c = true := by
  intro c hc
  have hmem : c ∈ ['2', '-', '+'] := by
    rw [literalMarks, List.mem_append] at hc
    rcases hc with hc | hc
    · split at hc
      · exact List.mem_cons.2 (.inl (List.mem_singleton.1 hc))
      · exact absurd hc List.not_mem_nil
    · split at hc
      · simp_all
      · split at hc
        · simp_all
        · split at hc
          · simp_all
          · split at hc <;> simp_all
  rcases List.mem_cons.1 hmem with rfl | hmem
  · rfl
  · rcases List.mem_cons.1 hmem with rfl | hmem
    · rfl
    · rw [List.mem_singleton.1 hmem]
      rfl

theorem isAllowed_singleQuoted {s : List Char} (hp : ∀ c ∈ s, isPrintable c = true) (n : Nat) :
    ∀ c ∈ singleQuoted n s, isAllowed c = true := by
  intro c hc
  have hindent : ∀ {b : Bool}, c ∈ (if b then spaces n else []) → c = ' ' := by
    rintro (_ | _) h
    · exact absurd h List.not_mem_nil
    · exact List.eq_of_mem_replicate h
  rw [singleQuoted_eq, singleQuotedRest, List.mem_cons, List.mem_append, List.mem_append,
    List.mem_singleton] at hc
  rcases hc with rfl | (hc | hc) | rfl
  · rfl
  · rcases mem_indented hc with rfl | hc
    · rfl
    · obtain ⟨d, hd, hc⟩ := List.mem_flatMap.1 hc
      rw [singleQuotedChar] at hc
      split at hc
      · simp only [List.mem_cons, List.not_mem_nil, or_false, or_self] at hc
        rw [hc]
        rfl
      · rw [List.mem_singleton.1 hc]
        exact isAllowed_of_isPrintable (hp d hd)
  · rw [hindent hc]
    rfl
  · rfl

theorem isAllowed_scalar (n : Nat) (text : String) : ∀ c ∈ scalar n text, isAllowed c = true := by
  intro c hc
  have hcarries := carries_style text.toList
  rw [scalar] at hc
  cases hs : style text.toList with
  | plain =>
    rw [hs] at hcarries hc
    exact isAllowed_of_isPrintable
      (isPrintable_of_needsEscapes (plainAllowed_iff.1 hcarries.1).1 c hc)
  | singleQuoted =>
    rw [hs] at hcarries hc
    exact isAllowed_singleQuoted hcarries.printable n c hc
  | doubleQuoted =>
    rw [hs] at hc
    dsimp only at hc
    rw [doubleQuoted, List.mem_cons, List.mem_append, List.mem_singleton] at hc
    rcases hc with rfl | hc | rfl
    · rfl
    · obtain ⟨d, -, hc⟩ := List.mem_flatMap.1 hc
      exact isAllowed_doubleQuotedChar hc
    · rfl
  | literal =>
    rw [hs] at hcarries hc
    dsimp only at hc
    rw [literalBlock, List.mem_cons, List.mem_append, List.mem_cons] at hc
    rcases hc with rfl | hc | rfl | hc
    · rfl
    · exact isAllowed_literalMarks c hc
    · rfl
    · rcases mem_indented hc with rfl | hc
      · rfl
      · exact isAllowed_of_isPrintable (hcarries.1 c hc)
  | folded =>
    rw [hs] at hcarries
    exact hcarries.elim

end AlertOperator.Yaml
