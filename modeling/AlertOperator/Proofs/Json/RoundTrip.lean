import AlertOperator.Json.Printer
import AlertOperator.Json.Reader
import AlertOperator.Proofs.Text.Digits

/-!
# JSON texts, read back

The compact text of a value is read as that value, whatever texts stand in it and however deep it
nests, `read_render`. Numbers with a fraction or an exponent are left out: a value keeps their
spelling as it finds it, and need not have a valid one.

A value is read from its text followed by anything that does not go on with a number, `Ends`; a
comma, a bracket and the end of the text do not. The reader bounds the calls that nest, and the
length of what it has to read is a bound that each call keeps.
-/

namespace AlertOperator.Json

open Text (hexValue_hexDigit isDigit_of_mem_toDigits exists_toDigits_eq_cons readNat_toDigits
  head?_toDigits_ne)

/-- A value in which no number has a fraction or an exponent. -/
inductive Exact : Json → Prop
  | null : Exact null
  | bool (b : Bool) : Exact (bool b)
  | int (n : Int) : Exact (int n)
  | str (s : String) : Exact (str s)
  | arr {items : List Json} (h : ∀ j ∈ items, Exact j) : Exact (arr items)
  | obj {ms : List (String × Json)} (h : ∀ m ∈ ms, Exact m.2) : Exact (obj ms)

/-- No number goes on in the text. -/
def Ends (s : List Char) : Prop :=
  ∀ c ∈ s.head?, Text.isDigit c = false ∧ c ≠ '.' ∧ c ≠ 'e' ∧ c ≠ 'E'

theorem ends_nil : Ends [] := nofun

theorem ends_cons {c : Char} {s : List Char}
    (h : Text.isDigit c = false ∧ c ≠ '.' ∧ c ≠ 'e' ∧ c ≠ 'E') : Ends (c :: s) := by
  rintro d ⟨⟩
  exact h

/-! ## Strings -/

/-- A control character is read from the four digits of its number. -/
theorem readString_hexPadded {c : Char} (hc : c.toNat < 0x20) (acc s : List Char) :
    readString .text acc (['\\', 'u'] ++ Text.hexPadded 'a' 4 c.toNat ++ s)
      = readString .text (c :: acc) s := by
  have hdigits : Text.hexPadded 'a' 4 c.toNat
      = ['0', '0', Text.hexDigit 'a' (c.toNat / 16), Text.hexDigit 'a' (c.toNat % 16)] := by
    have hall : ∀ n < 0x20, Text.hexPadded 'a' 4 n
        = ['0', '0', Text.hexDigit 'a' (n / 16), Text.hexDigit 'a' (n % 16)] := by decide
    exact hall _ hc
  have hzero : Text.hexValue '0' = some 0 := rfl
  have hfirst := hexValue_hexDigit (show c.toNat / 16 < 16 by omega)
  have hsecond := hexValue_hexDigit (Nat.mod_lt c.toNat (show 0 < 16 by decide))
  have hvalue : c.toNat / 16 * 16 + c.toNat % 16 = c.toNat := Nat.div_add_mod' _ _
  have hunit : endUnit none c.toNat = some (.inl c) := by
    rw [endUnit, if_neg (by omega), if_neg (by omega), Char.ofNat_toNat]
  rw [hdigits]
  simp [readString, hzero, hfirst, hsecond, hvalue, hunit]

theorem readString_escapeChar (c : Char) (acc s : List Char) :
    readString .text acc (escapeChar c ++ s) = readString .text (c :: acc) s := by
  rw [escapeChar]
  split_ifs with hquote hback _ _ _ _ _ hcontrol
  -- the characters with an escape of their own
  iterate 7
    · subst c
      simp [readString, simpleEscape]
  · exact readString_hexPadded hcontrol acc s
  · rw [List.singleton_append, readString, if_neg hquote, if_neg hback, if_neg hcontrol]

theorem readString_flatMap (s acc rest : List Char) :
    readString .text acc (s.flatMap escapeChar ++ '\x22' :: rest)
      = some (String.ofList (acc.reverse ++ s), rest) := by
  induction s generalizing acc with
  | nil => simp [readString]
  | cons c s ih =>
    rw [List.flatMap_cons, List.append_assoc, readString_escapeChar, ih, List.reverse_cons,
      List.append_assoc, List.singleton_append]

/-! ## Numbers -/

theorem digitRun_toDigits (n : Nat) {rest : List Char} (hrest : Ends rest) :
    digitRun (Nat.toDigits 10 n ++ rest) = some (Nat.toDigits 10 n, rest) := by
  have hall : ∀ c ∈ Nat.toDigits 10 n, Text.isDigit c = true := fun c ↦ isDigit_of_mem_toDigits
  have hstop : rest.takeWhile Text.isDigit = [] ∧ rest.dropWhile Text.isDigit = rest := by
    rcases rest with _ | ⟨c, rest⟩
    · exact ⟨rfl, rfl⟩
    · have hc := (hrest c rfl).1
      exact ⟨List.takeWhile_cons_of_neg (by simp [hc]), List.dropWhile_cons_of_neg (by simp [hc])⟩
  rw [digitRun, List.takeWhile_append_of_pos hall, List.dropWhile_append_of_pos hall, hstop.1,
    hstop.2, List.append_nil, if_neg]
  simp [Nat.toDigits_ne_nil]

theorem readFraction_of_ends {rest : List Char} (h : Ends rest) :
    readFraction rest = some ([], rest) := by
  unfold readFraction
  split
  · exact absurd rfl (h '.' rfl).2.1
  · rfl

theorem readExponent_of_ends {rest : List Char} (h : Ends rest) :
    readExponent rest = some ([], rest) := by
  rcases rest with _ | ⟨c, rest⟩
  · rfl
  · obtain ⟨-, -, hsmall, hlarge⟩ := h c rfl
    unfold readExponent
    exact if_neg (by simp [hsmall, hlarge])

theorem readMagnitude_toDigits {negative : Bool} {n : Nat} (hn : negative = true → 0 < n)
    {rest : List Char} (hrest : Ends rest) : readMagnitude negative (Nat.toDigits 10 n ++ rest)
      = some (int (if negative then -(n : Int) else n), rest) := by
  have hleading : (Nat.toDigits 10 n).length = 1 ∨ (Nat.toDigits 10 n).head? ≠ some '0' := by
    rcases Nat.eq_zero_or_pos n with rfl | hpos
    · exact .inl rfl
    · exact .inr (head?_toDigits_ne hpos)
  have hzero : negative = true → n ≠ 0 := fun hnegative ↦ (hn hnegative).ne'
  simpa [readMagnitude, digitRun_toDigits n hrest, readFraction_of_ends hrest,
    readExponent_of_ends hrest, readNat_toDigits, guard, hleading] using hzero

theorem chars_int (n : Int) : (int n).chars
    = if n < 0 then '-' :: Nat.toDigits 10 n.natAbs else Nat.toDigits 10 n.natAbs := by
  rw [chars, Int.toString_eq_repr]
  rcases n with n | n
  · rw [if_neg (by simp)]
    simp [Int.repr, Nat.repr]
  · rw [if_pos (by omega)]
    simp [Int.repr, Nat.repr, String.toList_append]

theorem readNumber_chars (n : Int) {rest : List Char} (hrest : Ends rest) :
    readNumber ((int n).chars ++ rest) = some (int n, rest) := by
  rw [chars_int]
  split_ifs with hn
  · have hvalue : -(n.natAbs : Int) = n := by omega
    rw [List.cons_append, readNumber, readMagnitude_toDigits (fun _ ↦ by omega) hrest, if_pos rfl,
      hvalue]
  · have hvalue : (n.natAbs : Int) = n := by omega
    have hread : readMagnitude false (Nat.toDigits 10 n.natAbs ++ rest) = some (int n, rest) := by
      rw [readMagnitude_toDigits (by simp) hrest, if_neg (by decide), hvalue]
    rw [readNumber]
    · exact hread
    · intro s hs
      obtain ⟨c, t, ht, hc⟩ := exists_toDigits_eq_cons n.natAbs
      rw [ht, List.cons_append, List.cons.injEq] at hs
      rw [hs.1] at hc
      exact absurd hc (by decide)

/-! ## Values -/

/-- The blanks between the parts of a text. -/
def blanks : List Char := [' ', '\n', '\t', '\r']

theorem skipBlanks_cons {c : Char} (hc : c ∉ blanks) (s : List Char) :
    skipBlanks (c :: s) = c :: s := by
  rw [skipBlanks, List.dropWhile_cons_of_neg]
  simp only [blanks, List.mem_cons, List.not_mem_nil, or_false, not_or] at hc
  simp [hc]

/-- The characters with which no value begins. -/
def noStart : List Char := ']' :: blanks

theorem exists_chars_eq_cons {j : Json} (h : Exact j) :
    ∃ c s, j.chars = c :: s ∧ c ∉ noStart := by
  rcases h with _ | b | n | s | _ | _
  · exact ⟨'n', _, by rw [chars]; rfl, by decide⟩
  · cases b
    · exact ⟨'f', _, by rw [chars]; rfl, by decide⟩
    · exact ⟨'t', _, by rw [chars]; rfl, by decide⟩
  · rw [chars_int]
    split_ifs
    · exact ⟨_, _, rfl, by decide⟩
    · obtain ⟨c, s, hs, hc⟩ := exists_toDigits_eq_cons n.natAbs
      have hno : noStart.all (!Text.isDigit ·) = true := by decide
      refine ⟨c, s, hs, fun hmem ↦ ?_⟩
      have hnot := List.all_eq_true.1 hno c hmem
      rw [hc] at hnot
      exact nomatch hnot
  · exact ⟨'\x22', _, by rw [chars, renderString], by decide⟩
  · exact ⟨'[', _, by rw [chars], by decide⟩
  · exact ⟨'\x7b', _, by rw [chars], by decide⟩

/-! ## Reading back -/

/-- The value is read from its text, whatever follows. -/
def ReadsBack (j : Json) : Prop :=
  ∀ n rest, j.chars.length ≤ n → Ends rest → readValue n (j.chars ++ rest) = some (j, rest)

theorem readItems_itemChars {items : List Json} (hne : items ≠ [])
    (hread : ∀ j ∈ items, ReadsBack j) {n : Nat} (hn : (itemChars items).length < n)
    (acc : List Json) (rest : List Char) :
    readItems n (itemChars items ++ ']' :: rest) acc = some (acc.reverse ++ items, rest) := by
  induction items generalizing n acc with
  | nil => exact absurd rfl hne
  | cons j items ih =>
    obtain ⟨n, rfl⟩ : ∃ m, n = m + 1 := ⟨n - 1, by omega⟩
    have hj := hread j List.mem_cons_self
    rcases items with _ | ⟨k, items⟩
    · rw [itemChars] at hn ⊢
      rw [readItems, hj n _ (by omega) (ends_cons (by decide))]
      simp [skipBlanks_cons (show ']' ∉ blanks by decide)]
    · rw [itemChars, List.length_append, List.length_cons] at hn
      rw [itemChars, List.append_assoc, List.cons_append, readItems,
        hj n _ (by omega) (ends_cons (by decide))]
      have hrest := ih (List.cons_ne_nil k items) (fun i hi ↦ hread i (List.mem_cons_of_mem j hi))
        (show (itemChars (k :: items)).length < n by omega) (j :: acc)
      simp [skipBlanks_cons (show ',' ∉ blanks by decide), hrest]

theorem readMembers_memberChars {ms : List (String × Json)} (hne : ms ≠ [])
    (hread : ∀ m ∈ ms, ReadsBack m.2) {n : Nat} (hn : (memberChars ms).length < n)
    (acc : List (String × Json)) (rest : List Char) :
    readMembers n (memberChars ms ++ '\x7d' :: rest) acc = some (acc.reverse ++ ms, rest) := by
  induction ms generalizing n acc with
  | nil => exact absurd rfl hne
  | cons m ms ih =>
    obtain ⟨name, j⟩ := m
    obtain ⟨n, rfl⟩ : ∃ m, n = m + 1 := ⟨n - 1, by omega⟩
    have hj := hread (name, j) List.mem_cons_self
    have hquote : ∀ s, skipBlanks ('\x22' :: s) = '\x22' :: s := skipBlanks_cons (by decide)
    have hcolon : ∀ s, skipBlanks (':' :: s) = ':' :: s := skipBlanks_cons (by decide)
    have hname : ∀ s, readString .text [] (name.toList.flatMap escapeChar ++ '\x22' :: s)
        = some (name, s) := by
      intro s
      rw [readString_flatMap, List.reverse_nil, List.nil_append, String.ofList_toList]
    rcases ms with _ | ⟨k, ms⟩
    · rw [memberChars, List.length_append, List.length_cons] at hn
      have hvalue := hj n ('\x7d' :: rest) (by dsimp only; omega) (ends_cons (by decide))
      have hend := skipBlanks_cons (show '\x7d' ∉ blanks by decide) rest
      simp [memberChars, renderString, readMembers, hquote, hname, hcolon, hvalue, hend]
    · rw [memberChars, List.length_append, List.length_cons, List.length_append,
        List.length_cons] at hn
      have hvalue := hj n (',' :: (memberChars (k :: ms) ++ '\x7d' :: rest)) (by dsimp only; omega)
        (ends_cons (by decide))
      have hend := skipBlanks_cons (show ',' ∉ blanks by decide)
        (memberChars (k :: ms) ++ '\x7d' :: rest)
      have hrest := ih (List.cons_ne_nil k ms) (fun i hi ↦ hread i (List.mem_cons_of_mem _ hi))
        (show (memberChars (k :: ms)).length < n by omega) ((name, j) :: acc)
      simp [memberChars, renderString, readMembers, hquote, hname, hcolon, hvalue, hend, hrest]

/-- A value is read by the case of its first character, which is no blank. -/
theorem readValue_succ {c : Char} (hc : c ∉ blanks) (n : Nat) (s : List Char) :
    readValue (n + 1) (c :: s) =
      if c = '\x22' then (readString .text [] s).map fun r ↦ (str r.1, r.2)
      else if c = '[' then
        match skipBlanks s with
        | ']' :: u => some (arr [], u)
        | u => (readItems n u []).map fun r ↦ (arr r.1, r.2)
      else if c = '\x7b' then
        match skipBlanks s with
        | '\x7d' :: u => some (obj [], u)
        | u => (readMembers n u []).map fun r ↦ (obj r.1, r.2)
      else if c = 'n' then (afterWord "ull" s).map fun r ↦ (null, r)
      else if c = 't' then (afterWord "rue" s).map fun r ↦ (bool true, r)
      else if c = 'f' then (afterWord "alse" s).map fun r ↦ (bool false, r)
      else readNumber (c :: s) := by
  have hskip : skipBlanks (c :: s) = c :: s := skipBlanks_cons hc s
  unfold readValue
  split
  · rename_i hnil
    exact nomatch hnil.symm.trans hskip
  · rename_i hcons
    obtain ⟨rfl, rfl⟩ := List.cons.inj (hcons.symm.trans hskip)
    rfl

theorem exists_itemChars_eq_cons {j : Json} (h : Exact j) (items : List Json) :
    ∃ c s, itemChars (j :: items) = c :: s ∧ c ∉ noStart := by
  obtain ⟨c, s, hs, hc⟩ := exists_chars_eq_cons h
  rcases items with _ | ⟨k, items⟩
  · exact ⟨c, s, by rw [itemChars, hs], hc⟩
  · exact ⟨c, _, by rw [itemChars, hs, List.cons_append], hc⟩

theorem exists_memberChars_eq_cons (m : String × Json) (ms : List (String × Json)) :
    ∃ s, memberChars (m :: ms) = '\x22' :: s := by
  rcases ms with _ | ⟨k, ms⟩
  · exact ⟨_, by rw [memberChars, renderString, List.cons_append]⟩
  · exact ⟨_, by rw [memberChars, renderString, List.cons_append]⟩

theorem length_chars_pos {j : Json} (h : Exact j) : 0 < j.chars.length := by
  obtain ⟨c, s, hs, -⟩ := exists_chars_eq_cons h
  rw [hs]
  exact Nat.succ_pos _

/-- It is enough to read the value with calls that may nest once at least. -/
theorem ReadsBack.of_succ {j : Json} (h : Exact j)
    (hread : ∀ n rest, j.chars.length ≤ n + 1 → Ends rest →
      readValue (n + 1) (j.chars ++ rest) = some (j, rest)) : ReadsBack j := by
  intro n rest hn hrest
  obtain ⟨m, rfl⟩ : ∃ m, n = m + 1 := ⟨n - 1, by have := length_chars_pos h; omega⟩
  exact hread m rest hn hrest

theorem readsBack_null : ReadsBack null := by
  refine .of_succ .null fun n rest _ _ ↦ ?_
  have hchars : null.chars = ['n', 'u', 'l', 'l'] := by rw [chars]; rfl
  rw [hchars]
  rfl

theorem readsBack_bool (b : Bool) : ReadsBack (bool b) := by
  refine .of_succ (.bool b) fun n rest _ _ ↦ ?_
  have hfalse : (bool false).chars = ['f', 'a', 'l', 's', 'e'] := by rw [chars]; rfl
  have htrue : (bool true).chars = ['t', 'r', 'u', 'e'] := by rw [chars]; rfl
  cases b
  · rw [hfalse]
    rfl
  · rw [htrue]
    rfl

theorem readsBack_int (n : Int) : ReadsBack (int n) := by
  refine .of_succ (.int n) fun m rest _ hrest ↦ ?_
  have hread := readNumber_chars n hrest
  rw [chars_int] at hread ⊢
  split_ifs at hread ⊢
  · exact (readValue_succ (by decide) m _).trans hread
  · obtain ⟨c, s, hs, hc⟩ := exists_toDigits_eq_cons n.natAbs
    have hother : ∀ d ∈ ['\x22', '[', '\x7b', 'n', 't', 'f'] ++ blanks, c ≠ d := by
      have hno : (['\x22', '[', '\x7b', 'n', 't', 'f'] ++ blanks).all (!Text.isDigit ·) = true := by
        decide
      rintro d hd rfl
      have hnot := List.all_eq_true.1 hno c hd
      rw [hc] at hnot
      exact nomatch hnot
    rw [hs] at hread ⊢
    rw [List.cons_append, readValue_succ fun hmem ↦ hother c (by simp [hmem]) rfl,
      if_neg (hother _ (by decide)), if_neg (hother _ (by decide)), if_neg (hother _ (by decide)),
      if_neg (hother _ (by decide)), if_neg (hother _ (by decide)), if_neg (hother _ (by decide))]
    exact hread

theorem readsBack_str (s : String) : ReadsBack (str s) := by
  refine .of_succ (.str s) fun n rest _ _ ↦ ?_
  rw [chars, renderString, List.cons_append, List.append_assoc, readValue_succ (by decide),
    if_pos rfl, List.singleton_append, readString_flatMap]
  simp

theorem readsBack_arr {items : List Json} (h : ∀ j ∈ items, Exact j)
    (hread : ∀ j ∈ items, ReadsBack j) : ReadsBack (arr items) := by
  refine .of_succ (.arr h) fun n rest hn _ ↦ ?_
  rw [chars, List.length_cons, List.length_append, List.length_singleton] at hn
  rw [chars, List.cons_append, List.append_assoc, readValue_succ (by decide), if_neg (by decide),
    if_pos rfl, List.singleton_append]
  rcases items with _ | ⟨j, items⟩
  · rw [itemChars, List.nil_append, skipBlanks_cons (by decide)]
    rfl
  · have hitems := readItems_itemChars (List.cons_ne_nil j items) hread (n := n) (by omega) [] rest
    obtain ⟨c, s, hs, hc⟩ := exists_itemChars_eq_cons (h j List.mem_cons_self) items
    rw [hs] at hitems ⊢
    rw [List.cons_append, skipBlanks_cons fun hmem ↦ hc (List.mem_cons_of_mem _ hmem)]
    split
    · rename_i heq
      exact absurd (List.cons.inj heq).1 fun heq ↦ hc (heq ▸ List.mem_cons_self)
    · rw [← List.cons_append, hitems]
      rfl

theorem readsBack_obj {ms : List (String × Json)} (h : ∀ m ∈ ms, Exact m.2)
    (hread : ∀ m ∈ ms, ReadsBack m.2) : ReadsBack (obj ms) := by
  refine .of_succ (.obj h) fun n rest hn _ ↦ ?_
  rw [chars, List.length_cons, List.length_append, List.length_singleton] at hn
  rw [chars, List.cons_append, List.append_assoc, readValue_succ (by decide), if_neg (by decide),
    if_neg (by decide), if_pos rfl, List.singleton_append]
  rcases ms with _ | ⟨m, ms⟩
  · rw [memberChars, List.nil_append, skipBlanks_cons (by decide)]
    rfl
  · have hmembers := readMembers_memberChars (List.cons_ne_nil m ms) hread (n := n) (by omega) []
      rest
    obtain ⟨s, hs⟩ := exists_memberChars_eq_cons m ms
    rw [hs, List.cons_append] at hmembers
    rw [hs, List.cons_append, skipBlanks_cons (by decide)]
    simp [hmembers]

theorem readsBack_of_exact {j : Json} (h : Exact j) : ReadsBack j := by
  induction h with
  | null => exact readsBack_null
  | bool b => exact readsBack_bool b
  | int n => exact readsBack_int n
  | str s => exact readsBack_str s
  | arr h ih => exact readsBack_arr h ih
  | obj h ih => exact readsBack_obj h ih

theorem read_render {j : Json} (h : Exact j) : read j.render = some j := by
  have hread := readsBack_of_exact h (j.chars.length + 1) [] (Nat.le_succ _) ends_nil
  rw [List.append_nil] at hread
  rw [read, render, String.toList_ofList]
  simp only [hread]
  rfl

end AlertOperator.Json
