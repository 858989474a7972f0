import AlertOperator.Proofs.Text.Digits
import AlertOperator.Proofs.Yaml.Plain

/-!
# Reading back quoted scalars

Between double quotes every character comes back by its escape or as itself, and the text stays on
one line. Between single quotes a quote is written twice, and a text may have several lines.

## Lines between single quotes

What a gap contributes to the text is decided by its first line break. A text that is written
between single quotes has only U+2028 and U+2029 for breaks, which are kept as they are; this is why
it comes back although a newline in their place would be folded into a space. The text has no spaces
before or after a break, so the indentation of its lines is all that is lost.
-/

namespace AlertOperator.Yaml

/-! ## Numbers of characters -/

theorem toNat_valid (x : Char) : x.toNat < 0xD800 ∨ (0xDFFF < x.toNat ∧ x.toNat ≤ 0x10FFFF) := by
  have h := x.valid
  change x.toNat < 0xD800 ∨ (0xDFFF < x.toNat ∧ x.toNat < 0x110000) at h
  omega

theorem numberedChar_hexPadded {width : Nat} {x : Char} (k : List Char) (hw : 0 < width)
    (hx : x.toNat < 16 ^ width) :
    numberedChar width (Text.hexPadded 'A' width x.toNat ++ k) = some x := by
  have htake : (Text.hexPadded 'A' width x.toNat ++ k).take width
      = Text.hexPadded 'A' width x.toNat := by
    rw [List.take_append_of_le_length (by rw [Text.length_hexPadded]),
      List.take_of_length_le (by rw [Text.length_hexPadded])]
  change (if _ then some () else none).bind (fun _ ↦ (Text.readNat 16 _).bind fun n ↦
    (if _ then some () else none).bind fun _ ↦ some (Char.ofNat n)) = some x
  rw [htake, Text.length_hexPadded, if_pos rfl, Option.bind_some, Text.readNat_hexPadded hw hx,
    Option.bind_some, if_pos (toNat_valid x), Option.bind_some, Char.ofNat_toNat]

theorem escapedChar_of_namedEscape {x e : Char} (h : namedEscape x = some e) :
    escapedChar e = some x ∧ isBreak e = false := by
  have hof : ∀ {n : Nat}, x.toNat = n → x = Char.ofNat n := fun hn ↦ by
    rw [← hn, Char.ofNat_toNat]
  unfold namedEscape at h
  split at h <;> first
    | (rename_i hn; obtain rfl := Option.some.inj h; rw [hof hn]; exact ⟨rfl, rfl⟩)
    | exact absurd h (by simp)

/-! ## Runs and gaps -/

section Rounds

variable {size fuel : Nat} {single : Bool} {acc acc' : List Char} {c c' c'' : Cursor} {g : Gap}

/-- The quote that ends a scalar. -/
def closingQuote (single : Bool) : Char := if single then '\'' else '\x22'

/-- A run that ends with the closing quote is the last one. -/
theorem readQuotedFrom_last (hm : 0 < c.column) (hne : c.rest ≠ [])
    (hrun : quotedRun single (size + 1) acc c = some (acc', c', false))
    (hquote : c'.startsWith (closingQuote single) = true) :
    readQuotedFrom size single (fuel + 1) acc c = some (acc'.reverse, c'.skip 1) := by
  have hmark : c.atDocumentMark = false := Cursor.atDocumentMark_of_pos hm
  have hend : c.atEnd = false := by simpa [Cursor.atEnd] using hne
  rw [closingQuote] at hquote
  rw [readQuotedFrom, hmark, hend]
  simp [hrun, hquote]

/-- After any other run comes a gap, and then reading goes on. -/
theorem readQuotedFrom_gap (hm : 0 < c.column) (hne : c.rest ≠ [])
    (hrun : quotedRun single (size + 1) acc c = some (acc', c', false))
    (hquote : c'.startsWith (closingQuote single) = false)
    (hgap : Gap.read 0 size {} c' = some (g, c'')) :
    readQuotedFrom size single (fuel + 1) acc c
      = readQuotedFrom size single fuel (g.fold.reverse ++ acc') c'' := by
  have hmark : c.atDocumentMark = false := Cursor.atDocumentMark_of_pos hm
  have hend : c.atEnd = false := by simpa [Cursor.atEnd] using hne
  rw [closingQuote] at hquote
  rw [readQuotedFrom, hmark, hend]
  simp [hrun, hquote, hgap]

end Rounds

/-! ## Between double quotes -/

section Double

variable {size fuel i l m : Nat} {acc k : List Char}

theorem quotedRun_doubleQuotedChar {x : Char} (hx : x ≠ ' ') :
    quotedRun false (fuel + 1) acc ⟨doubleQuotedChar x ++ k, i, l, m⟩
      = quotedRun false fuel (x :: acc)
          ⟨k, i + (doubleQuotedChar x).length, l, m + (doubleQuotedChar x).length⟩ := by
  rw [doubleQuotedChar]
  split
  · rename_i h
    simp only [Bool.and_eq_true, Bool.not_eq_true', bne_iff_ne] at h
    obtain ⟨⟨⟨hprint, hbreak⟩, hquote⟩, hslash⟩ := h
    have hspace : isSpacing x = false := by
      rw [isSpacing_of_isPrintable hprint, hbreak, beq_false_of_ne hx]
      rfl
    simp [quotedRun, hspace, hquote, hslash]
  · split
    · rename_i e he
      obtain ⟨hesc, hbreak⟩ := escapedChar_of_namedEscape he
      simp [quotedRun, hbreak, hesc, Cursor.skip, show isSpacing '\\' = false from rfl]
    · have hnum : ∀ {width : Nat} (e : Char), 0 < width → isBreak e = false →
          escapedChar e = none → escapeWidth e = some width → x.toNat < 16 ^ width →
          quotedRun false (fuel + 1) acc
              ⟨'\\' :: e :: (Text.hexPadded 'A' width x.toNat ++ k), i, l, m⟩
            = quotedRun false fuel (x :: acc) ⟨k, i + (2 + width), l, m + (2 + width)⟩ := by
        intro width e hw hb he hwidth hlt
        have hlen : (Text.hexPadded 'A' width x.toNat).length = width := Text.length_hexPadded ..
        simp [quotedRun, hb, he, hwidth, numberedChar_hexPadded k hw hlt, Cursor.skip,
          show isSpacing '\\' = false from rfl, hlen, Nat.add_comm 2 width]
      split
      · exact hnum 'x' (by decide) rfl rfl rfl (by omega)
      · split
        · exact hnum 'u' (by decide) rfl rfl rfl (by omega)
        · refine hnum 'U' (by decide) rfl rfl rfl ?_
          have := toNat_valid x
          omega

theorem flatMap_doubleQuotedChar_spaces (n : Nat) :
    (spaces n).flatMap doubleQuotedChar = spaces n := by
  induction n with
  | zero => rfl
  | succ n ih =>
    rw [spaces, List.replicate_succ, List.flatMap_cons, ← spaces, ih]
    rfl

theorem quotedRun_flatMap {w : List Char} {x : Char} (hw : ∀ c ∈ w, (c == ' ') = false)
    (hx : isSpacing x = true ∨ x = '\x22') (acc : List Char) (hfuel : w.length < fuel) (i m : Nat) :
    quotedRun false fuel acc ⟨w.flatMap doubleQuotedChar ++ x :: k, i, l, m⟩
      = some (w.reverse ++ acc, ⟨x :: k, i + (w.flatMap doubleQuotedChar).length,
          l, m + (w.flatMap doubleQuotedChar).length⟩, false) := by
  induction w generalizing acc i m fuel with
  | nil =>
    obtain ⟨fuel, rfl⟩ : ∃ f, fuel = f + 1 := ⟨fuel - 1, by omega⟩
    rcases hx with hx | rfl
    · simp [quotedRun, hx]
    · simp [quotedRun, show isSpacing '\x22' = false from rfl]
  | cons c w ih =>
    rw [List.length_cons] at hfuel
    obtain ⟨fuel, rfl⟩ : ∃ f, fuel = f + 1 := ⟨fuel - 1, by omega⟩
    have hc : c ≠ ' ' := beq_eq_false_iff_ne.1 (hw c (by simp))
    rw [List.flatMap_cons, List.append_assoc, quotedRun_doubleQuotedChar hc,
      ih (fun d hd ↦ hw d (by simp [hd])) _ (by omega)]
    simp [Nat.add_assoc]

theorem length_le_flatMap_doubleQuotedChar (s : List Char) :
    s.length ≤ (s.flatMap doubleQuotedChar).length := by
  induction s with
  | nil => exact Nat.le_refl _
  | cons c s ih =>
    have hc : 1 ≤ (doubleQuotedChar c).length := by
      rw [doubleQuotedChar]
      split
      · exact Nat.le_refl _
      · split
        · exact Nat.le_add_left 1 1
        · split
          · exact Nat.le_add_left 1 _
          · split <;> exact Nat.le_add_left 1 _
    rw [List.flatMap_cons, List.length_append, List.length_cons]
    omega

theorem stops_flatMap_doubleQuotedChar {t tail : List Char} (ht : t.head? ≠ some ' ') :
    Stops isSpacing (t.flatMap doubleQuotedChar ++ '\x22' :: tail) := by
  cases t with
  | nil => rfl
  | cons c t =>
    have hc : c ≠ ' ' := fun hc ↦ ht (by rw [hc]; rfl)
    rw [List.flatMap_cons, doubleQuotedChar]
    split
    · rename_i h
      simp only [Bool.and_eq_true, Bool.not_eq_true'] at h
      rw [List.append_assoc, List.singleton_append, stops_cons,
        isSpacing_of_isPrintable h.1.1.1, h.1.1.2, beq_false_of_ne hc]
      rfl
    · split
      · rfl
      · split
        · rfl
        · split <;> rfl

theorem readQuotedFrom_doubleQuoted {s : List Char} (hsize : s.length ≤ size)
    (hfuel : s.length < fuel) (hm : 0 < m) :
    readQuotedFrom size false fuel acc ⟨s.flatMap doubleQuotedChar ++ '\x22' :: k, i, l, m⟩
      = some (acc.reverse ++ s, ⟨k, i + (s.flatMap doubleQuotedChar).length + 1,
          l, m + (s.flatMap doubleQuotedChar).length + 1⟩) := by
  -- by induction on the fuel, of which every run uses up one unit
  induction fuel generalizing s acc i m with
  | zero => exact absurd hfuel (Nat.not_lt_zero _)
  | succ fuel ih =>
    obtain ⟨w, n, t, rfl, hw, ht, hn⟩ :=
      exists_run_spaces (p := (· == ' ')) fun c (_ : c ∈ s) ↦ rfl
    have hlens : (w ++ (spaces n ++ t)).length = w.length + (n + t.length) := by simp [spaces]
    have henc : (w ++ (spaces n ++ t)).flatMap doubleQuotedChar
        = w.flatMap doubleQuotedChar ++ (spaces n ++ t.flatMap doubleQuotedChar) := by
      rw [List.flatMap_append, List.flatMap_append, flatMap_doubleQuotedChar_spaces]
    rw [hlens] at hsize hfuel
    rw [henc]
    cases n with
    | zero =>
      obtain rfl := hn rfl
      rw [show spaces 0 ++ [].flatMap doubleQuotedChar = [] from rfl, List.append_nil,
        readQuotedFrom_last hm (by simp) (quotedRun_flatMap hw (.inr rfl) acc (by omega) _ _) rfl]
      simp [spaces]
    | succ n =>
      have hrest : w.flatMap doubleQuotedChar ++ (spaces (n + 1) ++ t.flatMap doubleQuotedChar)
            ++ '\x22' :: k
          = w.flatMap doubleQuotedChar
            ++ ' ' :: (spaces n ++ (t.flatMap doubleQuotedChar ++ '\x22' :: k)) := by
        simp [spaces, List.replicate_succ]
      have hgap : ∀ i m, Gap.read 0 size {}
            ⟨' ' :: (spaces n ++ (t.flatMap doubleQuotedChar ++ '\x22' :: k)), i, l, m⟩
          = some (⟨spaces (n + 1), false, [], []⟩,
              ⟨t.flatMap doubleQuotedChar ++ '\x22' :: k, i + (n + 1), l, m + (n + 1)⟩) :=
        fun i m ↦ Gap.read_spaces rfl (stops_flatMap_doubleQuotedChar ht)
          (show n + 1 ≤ size by omega)
      rw [hrest, readQuotedFrom_gap hm (by simp)
        (quotedRun_flatMap hw (.inl rfl) acc (by omega) _ _) rfl (hgap _ _),
        ih (by omega) (by omega) (by omega)]
      simp [Gap.fold, spaces, Nat.add_assoc]

/-- A text between double quotes is read back, and stays on its line. -/
theorem readQuoted_doubleQuoted {s : List Char} (hsize : s.length ≤ size) :
    readQuoted size false ⟨doubleQuoted s ++ k, i, l, m⟩
      = some (s, ⟨k, i + (doubleQuoted s).length, l, m + (doubleQuoted s).length⟩) := by
  rw [readQuoted, doubleQuoted, List.cons_append, Cursor.skip_one, List.append_assoc,
    List.singleton_append, readQuotedFrom_doubleQuoted hsize (by omega) (Nat.succ_pos m)]
  simp only [List.reverse_nil, List.nil_append, List.length_cons, List.length_append,
    List.length_nil, Option.some.injEq, Prod.mk.injEq, Cursor.mk.injEq, true_and]
  omega

end Double

/-! ## Between single quotes -/

theorem anyPair_append {p : Char → Char → Bool} {s t : List Char}
    (h : anyPair p (s ++ t) = false) : anyPair p t = false := by
  induction s with
  | nil => exact h
  | cons a s ih =>
    cases hst : s ++ t with
    | nil =>
      rw [(List.append_eq_nil_iff.1 hst).2]
      rfl
    | cons b u =>
      rw [List.cons_append, hst, anyPair, Bool.or_eq_false_iff] at h
      exact ih (hst ▸ h.2)

theorem anyPair_middle {p : Char → Char → Bool} {s t : List Char} {a b : Char}
    (h : anyPair p (s ++ a :: b :: t) = false) : p a b = false := by
  have := anyPair_append h
  rw [anyPair, Bool.or_eq_false_iff] at this
  exact this.1

/-- What is left of a text can be read between single quotes: it is printable, none of its line
breaks is a newline, and no space stands beside one. -/
structure SingleFrom (s : List Char) : Prop where
  printable : ∀ c ∈ s, isPrintable c = true
  newline_ne : ∀ c ∈ s, c ≠ '\n'
  space_break : anyPair (fun a b ↦ a == ' ' && isBreak b) s = false
  break_space : anyPair (fun a b ↦ isBreak a && b == ' ') s = false

theorem SingleFrom.suffix {s t : List Char} (h : SingleFrom (s ++ t)) : SingleFrom t where
  printable c hc := h.printable c (List.mem_append_right s hc)
  newline_ne c hc := h.newline_ne c (List.mem_append_right s hc)
  space_break := anyPair_append h.space_break
  break_space := anyPair_append h.break_space

/-- A run of spaces, or one of line breaks, in such a text borders on neither: what follows the run
is neither a space nor a break. -/
theorem SingleFrom.stops {s u : List Char} {a : Char} (h : SingleFrom (s ++ a :: u))
    (hu : a = ' ' ∧ Stops (· == ' ') u ∨ isBreak a = true ∧ Stops isBreak u) :
    Stops isSpacing u := by
  cases u with
  | nil => exact stops_nil _
  | cons b u =>
    have hspace := anyPair_middle h.space_break
    have hbreak := anyPair_middle h.break_space
    rw [stops_cons, isSpacing_of_isPrintable (h.printable b (by simp)), Bool.or_eq_false_iff]
    rcases hu with ⟨rfl, hb⟩ | ⟨ha, hb⟩
    · exact ⟨hb, by simpa using hspace⟩
    · exact ⟨by simpa [ha] using hbreak, hb⟩

/-- After a run of other characters the text ends or goes on with spaces or with line breaks, and
neither borders on the other. -/
theorem SingleFrom.split {s : List Char} (h : SingleFrom s) :
    ∃ w t, s = w ++ t ∧ (∀ c ∈ w, isSpacing c = false) ∧
      (t = [] ∨
        (∃ n u, t = spaces (n + 1) ++ u ∧ Stops isSpacing u) ∨
        ∃ b bs u, t = b :: bs ++ u ∧ (∀ c ∈ b :: bs, isBreak c = true) ∧ Stops isSpacing u) := by
  obtain ⟨w, t, rfl, hw, ht⟩ := exists_span (!isSpacing ·) s
  refine ⟨w, t, rfl, fun c hc ↦ by simpa using hw c hc, ?_⟩
  have h := h.suffix
  cases t with
  | nil => exact .inl rfl
  | cons d t =>
    have hd : isSpacing d = true := by simpa using ht
    rw [isSpacing_of_isPrintable (h.printable d (by simp)), Bool.or_eq_true, beq_iff_eq] at hd
    rcases hd with rfl | hd
    · obtain ⟨v, u, rfl, hv, hu⟩ := exists_span (· == ' ') t
      refine .inr (.inl ⟨v.length, u, ?_, ?_⟩)
      · rw [spaces, List.replicate_succ, ← spaces, ← eq_spaces hv]
        rfl
      · have hsplit : ' ' :: (v ++ u) = v ++ ' ' :: u := by
          rw [eq_spaces hv, spaces, ← List.cons_append, ← List.replicate_succ,
            List.replicate_succ', List.append_assoc]
          rfl
        rw [hsplit] at h
        exact h.stops (.inl ⟨rfl, hu⟩)
    · obtain ⟨bs, u, rfl, hbs, hu⟩ := exists_span isBreak t
      have hall : ∀ c ∈ d :: bs, isBreak c = true := by
        intro c hc
        rcases List.mem_cons.1 hc with rfl | hc
        · exact hd
        · exact hbs c hc
      refine .inr (.inr ⟨d, bs, u, rfl, hall, ?_⟩)
      -- the last break of the run is the one that `u` follows
      rw [← List.cons_append, ← List.dropLast_concat_getLast (List.cons_ne_nil d bs),
        List.append_assoc] at h
      exact h.stops (.inr ⟨hall _ (List.getLast_mem _), hu⟩)

/-- A character between single quotes. -/
def singleQuotedChar (c : Char) : List Char := if c == '\'' then ['\'', '\''] else [c]

/-- What is written for a text after the opening quote or after a part of it, `fresh` saying whether
that part ended with a line break. -/
def singleQuotedRest (indent : Nat) (fresh : Bool) (s : List Char) : List Char :=
  indented indent fresh (s.flatMap singleQuotedChar) ++
    (if (if s.isEmpty then fresh else s.getLast?.any isBreak) then spaces indent else []) ++ ['\'']

theorem singleQuoted_eq (indent : Nat) (s : List Char) :
    singleQuoted indent s = '\'' :: singleQuotedRest indent false s := by
  cases s <;> rfl

theorem length_singleQuotedChar_pos (c : Char) : 1 ≤ (singleQuotedChar c).length := by
  rw [singleQuotedChar]
  split <;> exact Nat.succ_le_succ (Nat.zero_le _)

section Single

variable {size fuel indent i l m : Nat} {k r : List Char}

theorem singleQuotedRest_cons_break {b : Char} {u : List Char} (fresh : Bool)
    (hb : isBreak b = true) :
    singleQuotedRest indent fresh (b :: u) = b :: singleQuotedRest indent true u := by
  have hquote : (b == '\'') = false := by
    rw [beq_eq_false_iff_ne]
    rintro rfl
    exact absurd hb (by decide)
  cases u <;> simp [singleQuotedRest, singleQuotedChar, hquote, indented, hb]

theorem singleQuotedRest_breaks {b : Char} {bs u : List Char} (fresh : Bool)
    (hb : ∀ c ∈ b :: bs, isBreak c = true) :
    singleQuotedRest indent fresh (b :: bs ++ u) = b :: bs ++ singleQuotedRest indent true u := by
  induction bs generalizing b fresh with
  | nil => exact singleQuotedRest_cons_break fresh (hb b (by simp))
  | cons d bs ih =>
    rw [List.cons_append, singleQuotedRest_cons_break fresh (hb b (by simp)),
      ih true fun c hc ↦ hb c (by simp [hc])]
    rfl

theorem singleQuotedRest_cons {c : Char} {u : List Char} (hc : isBreak c = false) :
    singleQuotedRest indent false (c :: u)
      = singleQuotedChar c ++ singleQuotedRest indent false u := by
  by_cases hq : c = '\''
  · subst hq
    cases u <;> simp [singleQuotedRest, singleQuotedChar, indented, hc]
  · cases u <;> simp [singleQuotedRest, singleQuotedChar, indented, hc, hq]

theorem singleQuotedRest_append (indent : Nat) {w u : List Char} (hw : ∀ c ∈ w, isBreak c = false) :
    singleQuotedRest indent false (w ++ u)
      = w.flatMap singleQuotedChar ++ singleQuotedRest indent false u := by
  induction w with
  | nil => rfl
  | cons c w ih =>
    rw [List.cons_append, singleQuotedRest_cons (hw c (by simp)),
      ih fun d hd ↦ hw d (by simp [hd]), List.flatMap_cons, List.append_assoc]

theorem singleQuotedRest_fresh {u : List Char} (hu : Stops isBreak u) :
    singleQuotedRest indent true u = spaces indent ++ singleQuotedRest indent false u := by
  cases u with
  | nil => simp [singleQuotedRest, indented]
  | cons c u =>
    rw [stops_cons] at hu
    by_cases hq : c = '\''
    · subst hq
      cases u <;> simp [singleQuotedRest, singleQuotedChar, indented, hu]
    · cases u <;> simp [singleQuotedRest, singleQuotedChar, indented, hu, hq]

theorem singleQuotedRest_spaces (n : Nat) (u : List Char) :
    singleQuotedRest indent false (spaces n ++ u)
      = spaces n ++ singleQuotedRest indent false u := by
  induction n with
  | zero => rfl
  | succ n ih =>
    rw [spaces, List.replicate_succ, ← spaces, List.cons_append, singleQuotedRest_cons rfl, ih]
    rfl

theorem length_le_singleQuotedRest (indent : Nat) (s : List Char) (fresh : Bool) :
    s.length ≤ (singleQuotedRest indent fresh s).length := by
  induction s generalizing fresh with
  | nil => exact Nat.zero_le _
  | cons c s ih =>
    rw [List.length_cons]
    cases hc : isBreak c with
    | true =>
      rw [singleQuotedRest_cons_break fresh hc, List.length_cons]
      exact Nat.succ_le_succ (ih true)
    | false =>
      have hpos : 1 ≤ (singleQuotedChar c).length := length_singleQuotedChar_pos c
      have hrest := ih false
      cases fresh with
      | false =>
        rw [singleQuotedRest_cons hc, List.length_append]
        omega
      | true =>
        rw [singleQuotedRest_fresh (stops_cons.2 hc), singleQuotedRest_cons hc]
        simp only [List.length_append]
        omega

theorem stops_singleQuotedRest {u : List Char} (hu : Stops isSpacing u) :
    Stops isSpacing (singleQuotedRest indent false u ++ k) := by
  cases u with
  | nil => rfl
  | cons c u =>
    rw [stops_cons] at hu
    rw [singleQuotedRest_cons (Bool.or_eq_false_iff.1 hu).2, singleQuotedChar]
    split
    · rfl
    · exact hu

theorem quotedRun_flatMap_single {w : List Char} {x : Char} (hw : ∀ c ∈ w, isSpacing c = false)
    (hx : isSpacing x = true ∨ x = '\'' ∧ k.head? ≠ some '\'') (r : List Char)
    (hfuel : w.length < fuel) (i m : Nat) :
    quotedRun true fuel r ⟨w.flatMap singleQuotedChar ++ x :: k, i, l, m⟩
      = some (w.reverse ++ r, ⟨x :: k, i + (w.flatMap singleQuotedChar).length,
          l, m + (w.flatMap singleQuotedChar).length⟩, false) := by
  induction w generalizing r i m fuel with
  | nil =>
    obtain ⟨fuel, rfl⟩ : ∃ f, fuel = f + 1 := ⟨fuel - 1, by omega⟩
    rcases hx with hx | ⟨rfl, hk⟩
    · simp [quotedRun, hx]
    · simp [quotedRun, hk, show isSpacing '\'' = false from rfl]
  | cons c w ih =>
    rw [List.length_cons] at hfuel
    obtain ⟨fuel, rfl⟩ : ∃ f, fuel = f + 1 := ⟨fuel - 1, by omega⟩
    have hc : isSpacing c = false := hw c (by simp)
    have hstep : quotedRun true (fuel + 1) r
          ⟨singleQuotedChar c ++ (w.flatMap singleQuotedChar ++ x :: k), i, l, m⟩
        = quotedRun true fuel (c :: r) ⟨w.flatMap singleQuotedChar ++ x :: k,
            i + (singleQuotedChar c).length, l, m + (singleQuotedChar c).length⟩ := by
      by_cases hq : c = '\''
      · subst hq
        simp [quotedRun, singleQuotedChar, Cursor.skip, hc]
      · simp [quotedRun, singleQuotedChar, hq, hc]
    rw [List.flatMap_cons, List.append_assoc, hstep,
      ih (fun d hd ↦ hw d (by simp [hd])) _ (by omega)]
    simp [Nat.add_assoc]

theorem length_le_flatMap_singleQuotedChar (w : List Char) :
    w.length ≤ (w.flatMap singleQuotedChar).length := by
  induction w with
  | nil => exact Nat.le_refl _
  | cons c w ih =>
    have hc := length_singleQuotedChar_pos c
    rw [List.flatMap_cons, List.length_append, List.length_cons]
    omega

theorem readQuotedFrom_spaces {w u : List Char} {n : Nat} (hw : ∀ c ∈ w, isSpacing c = false)
    (hu : Stops isSpacing u) (hsize : w.length + n < size) (hm : 0 < m) :
    readQuotedFrom size true (fuel + 1) r
        ⟨w.flatMap singleQuotedChar ++ (spaces (n + 1) ++ u), i, l, m⟩
      = readQuotedFrom size true fuel ((w ++ spaces (n + 1)).reverse ++ r)
          ⟨u, i + (w.flatMap singleQuotedChar).length + (n + 1), l,
            m + (w.flatMap singleQuotedChar).length + (n + 1)⟩ := by
  have hgap : ∀ i m, Gap.read 0 size {} ⟨' ' :: (spaces n ++ u), i, l, m⟩
      = some (⟨spaces (n + 1), false, [], []⟩, ⟨u, i + (n + 1), l, m + (n + 1)⟩) :=
    fun i m ↦ Gap.read_spaces rfl hu (show n + 1 ≤ size by omega)
  rw [show spaces (n + 1) ++ u = ' ' :: (spaces n ++ u) from rfl,
    readQuotedFrom_gap hm (by simp) (quotedRun_flatMap_single hw (.inl rfl) r (by omega) _ _)
      rfl (hgap _ _), List.reverse_append, List.append_assoc]
  rfl

/-- A run that ends at line breaks, with these and the indentation of the next line. Since the first
break is no newline, nothing is folded. -/
theorem readQuotedFrom_breaks {w bs u : List Char} {b : Char}
    (hw : ∀ c ∈ w, isSpacing c = false)
    (hb : ∀ c ∈ b :: bs, isBreak c = true ∧ isPrintable c = true) (hne : b ≠ '\n')
    (hu : Stops isSpacing u) (hsize : w.length + bs.length + indent < size) (hm : 0 < m) :
    readQuotedFrom size true (fuel + 1) r
        ⟨w.flatMap singleQuotedChar ++ (b :: bs ++ (spaces indent ++ u)), i, l, m⟩
      = readQuotedFrom size true fuel ((w ++ b :: bs).reverse ++ r)
          ⟨u, i + (w.flatMap singleQuotedChar).length + (bs.length + 1) + indent,
            l + (bs.length + 1), indent⟩ := by
  obtain ⟨f, rfl⟩ : ∃ f, size = f + bs.length + 1 := ⟨size - bs.length - 1, by omega⟩
  have hgap : ∀ i m, Gap.read 0 (f + bs.length + 1) {}
        ⟨b :: (bs ++ (spaces indent ++ u)), i, l, m⟩
      = some (⟨[], true, [b], bs⟩,
          ⟨u, i + (bs.length + 1) + indent, l + (bs.length + 1), indent⟩) := by
    intro i m
    rw [Gap.read_firstBreak (hb b (by simp)).1 (hb b (by simp)).2 rfl,
      Gap.read_laterBreaks (fun c hc ↦ hb c (by simp [hc])) rfl,
      Gap.read_indent rfl hu (by omega)]
    simp [Nat.add_assoc, Nat.add_comm 1]
  have hspace : isSpacing b = true := by
    rw [isSpacing, (hb b (by simp)).1, Bool.or_true]
  have hquote : (b == '\'') = false := by
    rw [beq_eq_false_iff_ne]
    rintro rfl
    exact absurd hspace (by decide)
  rw [List.cons_append, readQuotedFrom_gap hm (by simp)
    (quotedRun_flatMap_single hw (.inl hspace) r (by omega) _ _) hquote (hgap _ _)]
  simp [Gap.fold, hne]

/-- The rest of a text between single quotes is read back. It has passed no line break if the text
has none. -/
theorem readQuotedFrom_singleQuoted {s : List Char} (h : SingleFrom s)
    (hsize : (singleQuotedRest indent false s).length ≤ size) (hfuel : s.length < fuel)
    (hindent : 0 < indent) (hm : 0 < m) (hk : k.head? ≠ some '\'') :
    ∃ l' m', readQuotedFrom size true fuel r ⟨singleQuotedRest indent false s ++ k, i, l, m⟩
        = some (r.reverse ++ s, ⟨k, i + (singleQuotedRest indent false s).length, l', m'⟩) ∧
      l ≤ l' ∧
      (isMultiline s = false →
        l' = l ∧ m' = m + (singleQuotedRest indent false s).length) := by
  -- by induction on the fuel, of which every run uses up one unit
  induction fuel generalizing s r i l m with
  | zero => exact absurd hfuel (Nat.not_lt_zero _)
  | succ fuel ih =>
    obtain ⟨w, t, rfl, hw, ht⟩ := h.split
    have hwlen := length_le_flatMap_singleQuotedChar w
    rw [singleQuotedRest_append indent fun c hc ↦ (Bool.or_eq_false_iff.1 (hw c hc)).2] at hsize ⊢
    rw [List.length_append] at hsize hfuel
    rw [List.append_assoc, isMultiline, List.any_append, Bool.or_eq_false_iff]
    rcases ht with rfl | ⟨n, u, rfl, hu⟩ | ⟨b, bs, u, rfl, hbs, hu⟩
    · -- the run ends at the closing quote
      rw [show singleQuotedRest indent false [] = ['\''] from rfl, List.singleton_append,
        readQuotedFrom_last hm (by simp)
          (quotedRun_flatMap_single hw (.inr ⟨rfl, hk⟩) r (by omega) _ _) rfl]
      refine ⟨_, _, ?_, Nat.le_refl l, fun _ ↦ ⟨rfl, rfl⟩⟩
      simp [Nat.add_assoc]
    · -- spaces stay on their line
      rw [singleQuotedRest_spaces] at hsize ⊢
      simp only [List.length_append, spaces, List.length_replicate] at hsize hfuel
      rw [List.append_assoc,
        readQuotedFrom_spaces hw (stops_singleQuotedRest hu) (by omega) hm]
      obtain ⟨l', m', hread, hl, hline⟩ := ih (r := (w ++ spaces (n + 1)).reverse ++ r)
        (i := i + (w.flatMap singleQuotedChar).length + (n + 1)) (l := l)
        (m := m + (w.flatMap singleQuotedChar).length + (n + 1)) h.suffix.suffix (by omega)
        (by omega) (by omega)
      rw [hread]
      refine ⟨l', m', ?_, hl, fun hs ↦ ?_⟩
      · simp [spaces, Nat.add_assoc]
      · rw [List.any_append, Bool.or_eq_false_iff] at hs
        obtain ⟨rfl, rfl⟩ := hline hs.2.2
        simp [spaces, Nat.add_assoc]
    · -- after line breaks the next run begins behind the indentation of its line
      have hstops : Stops isBreak u := by
        cases u with
        | nil => rfl
        | cons c u => exact (Bool.or_eq_false_iff.1 hu).2
      rw [singleQuotedRest_breaks false hbs, singleQuotedRest_fresh hstops] at hsize ⊢
      simp only [List.length_append, List.length_cons, spaces, List.length_replicate] at hsize hfuel
      have hb : ∀ c ∈ b :: bs, isBreak c = true ∧ isPrintable c = true := fun c hc ↦
        ⟨hbs c hc, h.printable c (List.mem_append_right _ (List.mem_append_left _ hc))⟩
      rw [List.append_assoc (b :: bs), List.append_assoc (spaces indent),
        readQuotedFrom_breaks hw hb (h.newline_ne b (by simp)) (stops_singleQuotedRest hu)
          (by omega) hm]
      obtain ⟨l', m', hread, hl, -⟩ := ih (r := (w ++ b :: bs).reverse ++ r)
        (i := i + (w.flatMap singleQuotedChar).length + (bs.length + 1) + indent)
        (l := l + (bs.length + 1)) (m := indent) h.suffix.suffix (by omega) (by omega) hindent
      rw [hread]
      refine ⟨l', m', ?_, by omega, fun hs ↦ ?_⟩
      · simp [spaces, Nat.add_assoc, Nat.add_comm, Nat.add_left_comm]
      · exact absurd hs.2 (by simp [hbs b (by simp)])

/-- A text between single quotes is read back. If it has one line, it stays on its line. -/
theorem readQuoted_singleQuoted {s : List Char} (h : SingleFrom s)
    (hsize : (singleQuoted indent s).length ≤ size) (hindent : 0 < indent)
    (hk : k.head? ≠ some '\'') :
    ∃ l' m', readQuoted size true ⟨singleQuoted indent s ++ k, i, l, m⟩
        = some (s, ⟨k, i + (singleQuoted indent s).length, l', m'⟩) ∧
      l ≤ l' ∧ (isMultiline s = false → l' = l ∧ m' = m + (singleQuoted indent s).length) := by
  rw [singleQuoted_eq] at hsize ⊢
  rw [List.length_cons] at hsize
  have hlen := length_le_singleQuotedRest indent s false
  obtain ⟨l', m', hread, hl, hline⟩ := readQuotedFrom_singleQuoted (r := []) (i := i + 1)
    (l := l) (m := m + 1) h (show _ ≤ size by omega) (show s.length < size + 1 by omega) hindent
    (Nat.succ_pos m) hk
  refine ⟨l', m', ?_, hl, fun hs ↦ ?_⟩
  · rw [readQuoted, List.cons_append, Cursor.skip_one, hread, List.length_cons]
    simp [Nat.add_assoc, Nat.add_comm]
  · obtain ⟨rfl, rfl⟩ := hline hs
    simp [Nat.add_assoc, Nat.add_comm]

end Single

end AlertOperator.Yaml
