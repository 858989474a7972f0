import AlertOperator.Proofs.Yaml.Cursor
import AlertOperator.Yaml.Flow

/-!
# Reading back plain scalars

The reader of a plain scalar alternates between words and the gaps between them. A text that is
written plain has only spaces in its gaps, and nothing in it ends a plain scalar before its time,
so the reader goes through all of its words, one for each unit of fuel, and ends at the text's end.

There are two such ends. A key is followed by a colon, at which the scalar ends on its own line. Any
other text is followed by the end of its line; then the scalar ends at the next token, since that
stands further left than another line of the scalar could.

The lemmas on gaps serve the quoted scalars as well.
-/

namespace AlertOperator.Yaml

/-! ## Gaps -/

namespace Gap

variable {margin fuel n i l m : Nat} {g : Gap} {k : List Char}

theorem read_of_stops (hk : Stops isSpacing k) :
    Gap.read margin fuel g ⟨k, i, l, m⟩ = some (g, ⟨k, i, l, m⟩) := by
  cases fuel with
  | zero => rfl
  | succ fuel =>
    cases k with
    | nil => rfl
    | cons x k =>
      rw [stops_cons, isSpacing, Bool.or_eq_false_iff] at hk
      simp [Gap.read, Cursor.head?, hk.1, hk.2]

theorem read_spaces (hg : g.broken = false) (hk : Stops isSpacing k) (hf : n ≤ fuel) :
    Gap.read margin fuel g ⟨spaces n ++ k, i, l, m⟩
      = some ({ g with blanks := g.blanks ++ spaces n }, ⟨k, i + n, l, m + n⟩) := by
  induction n generalizing fuel g i m with
  | zero =>
    rw [show spaces 0 ++ k = k from rfl, read_of_stops hk]
    simp [spaces]
  | succ n ih =>
    obtain ⟨fuel, rfl⟩ : ∃ f, fuel = f + 1 := ⟨fuel - 1, by omega⟩
    have hstep : Gap.read margin (fuel + 1) g ⟨spaces (n + 1) ++ k, i, l, m⟩
        = Gap.read margin fuel { g with blanks := g.blanks ++ [' '] }
            ⟨spaces n ++ k, i + 1, l, m + 1⟩ := by
      simp [Gap.read, Cursor.head?, spaces, List.replicate_succ, isBlank, hg, Cursor.skip]
    rw [hstep, ih (g := { g with blanks := g.blanks ++ [' '] }) hg (Nat.le_of_succ_le_succ hf)]
    simp only [spaces, List.replicate_succ, List.append_assoc, List.singleton_append,
      Nat.add_assoc, Nat.add_comm 1 n]

theorem read_indent (hg : g.broken = true) (hk : Stops isSpacing k) (hf : n ≤ fuel) :
    Gap.read margin fuel g ⟨spaces n ++ k, i, l, m⟩ = some (g, ⟨k, i + n, l, m + n⟩) := by
  induction n generalizing fuel i m with
  | zero => exact read_of_stops hk
  | succ n ih =>
    obtain ⟨fuel, rfl⟩ : ∃ f, fuel = f + 1 := ⟨fuel - 1, by omega⟩
    have hstep : Gap.read margin (fuel + 1) g ⟨spaces (n + 1) ++ k, i, l, m⟩
        = Gap.read margin fuel g ⟨spaces n ++ k, i + 1, l, m + 1⟩ := by
      simp [Gap.read, Cursor.head?, spaces, List.replicate_succ, isBlank, hg, Cursor.skip]
    rw [hstep, ih (Nat.le_of_succ_le_succ hf), Nat.add_assoc, Nat.add_assoc, Nat.add_comm 1 n]

theorem read_firstBreak {x : Char} (hb : isBreak x = true) (hp : isPrintable x = true)
    (hg : g.broken = false) :
    Gap.read margin (fuel + 1) g ⟨x :: k, i, l, m⟩
      = Gap.read margin fuel { g with blanks := [], broken := true, firstBreak := [x] }
          ⟨k, i + 1, l + 1, 0⟩ := by
  have hx : isBlank x = false := by
    rcases eq_of_isBreak hb hp with rfl | rfl | rfl <;> rfl
  rw [Gap.read]
  simp [Cursor.head?, hx, hb, hg, Cursor.readBreak_of_isPrintable hb hp]

theorem read_laterBreaks {bs : List Char} (hb : ∀ b ∈ bs, isBreak b = true ∧ isPrintable b = true)
    (hg : g.broken = true) :
    Gap.read margin (fuel + bs.length) g ⟨bs ++ k, i, l, 0⟩
      = Gap.read margin fuel { g with laterBreaks := g.laterBreaks ++ bs }
          ⟨k, i + bs.length, l + bs.length, 0⟩ := by
  induction bs generalizing g i l with
  | nil => simp
  | cons x bs ih =>
    obtain ⟨hxb, hxp⟩ := hb x (by simp)
    have hx : isBlank x = false := by
      rcases eq_of_isBreak hxb hxp with rfl | rfl | rfl <;> rfl
    have hstep : Gap.read margin (fuel + bs.length + 1) g ⟨x :: (bs ++ k), i, l, 0⟩
        = Gap.read margin (fuel + bs.length) { g with laterBreaks := g.laterBreaks ++ [x] }
            ⟨bs ++ k, i + 1, l + 1, 0⟩ := by
      rw [Gap.read]
      simp [Cursor.head?, hx, hxb, hg, Cursor.readBreak_of_isPrintable hxb hxp]
    rw [List.length_cons, ← Nat.add_assoc, List.cons_append, hstep,
      ih (g := { g with laterBreaks := g.laterBreaks ++ [x] }) (fun b h ↦ hb b (by simp [h])) hg]
    simp [Nat.add_comm, Nat.add_left_comm]

end Gap

/-! ## Plain scalars -/

theorem breaksOffAfter_cons {a c : Char} {s : List Char} (h : breaksOffAfter a (c :: s) = false) :
    (c == ':' && atSpacing s) = false ∧ (c == '#' && isSpacing a) = false ∧
      breaksOffAfter c s = false := by
  simp only [breaksOffAfter, Bool.or_eq_false_iff] at h
  exact ⟨h.1.1, h.1.2, h.2⟩

theorem plainRun_append {w r tail : List Char} {a : Char} (hw : ∀ c ∈ w, isSpacing c = false)
    (h : breaksOffAfter a (w ++ r) = false) (ht : plainRun false (r ++ tail) = some []) :
    plainRun false (w ++ (r ++ tail)) = some w := by
  induction w generalizing a with
  | nil => exact ht
  | cons c w ih =>
    rw [List.cons_append] at h
    obtain ⟨hcolon, -, hrest⟩ := breaksOffAfter_cons h
    have hspace : isSpacing c = false := hw c (by simp)
    -- what comes after a colon is the text itself, since the text does not end with one
    have hcut : (c == ':' && atSpacing (w ++ (r ++ tail))) = false := by
      rw [← List.append_assoc]
      cases hwr : w ++ r with
      | nil =>
        rw [hwr] at hcolon
        rw [show (c == ':') = false by simpa [atSpacing] using hcolon, Bool.false_and]
      | cons d s =>
        rw [hwr] at hcolon
        exact hcolon
    rw [List.cons_append, plainRun, ih (fun d hd ↦ hw d (by simp [hd])) hrest]
    simp [hspace, hcut]

/-- The scalar has been read up to the end of a word: it ends here, or goes on after the next
gap. -/
def plainAfter (size margin fuel : Nat) (text : List Char) (c : Cursor) : Option PlainScalar :=
  if !c.next isSpacing then some ⟨text, c, false⟩
  else
    match Gap.read margin size {} c with
    | none => none
    | some (g, c) =>
      if c.column < margin then some ⟨text, c, g.broken⟩
      else readPlainFrom size false margin fuel text g c

theorem readPlainFrom_word {size margin fuel i l m : Nat} {w k text : List Char} {g : Gap}
    (hw : w ≠ []) (hrun : plainRun false (w ++ k) = some w)
    (hmark : Cursor.atDocumentMark ⟨w ++ k, i, l, m⟩ = false) (hhash : w.head? ≠ some '#') :
    readPlainFrom size false margin (fuel + 1) text g ⟨w ++ k, i, l, m⟩
      = plainAfter size margin fuel (text ++ g.fold ++ w)
          ⟨k, i + w.length, l, m + w.length⟩ := by
  obtain ⟨x, w, rfl⟩ := List.exists_cons_of_ne_nil hw
  have hx : Cursor.startsWith ⟨x :: w ++ k, i, l, m⟩ '#' = false := by
    simpa [Cursor.startsWith, Cursor.head?] using hhash
  have hskip := Cursor.skip_append (x :: w) k i l m
  rw [List.length_cons] at hskip
  rw [readPlainFrom, hmark, hx]
  simp only [hrun, Bool.or_self, Bool.false_eq_true, ↓reduceIte, Bool.not_false, Bool.true_and,
    decide_eq_true_eq, List.length_cons, hskip]
  rfl

/-- What is left of a text, from the beginning of a word on, can be read as plain: its only blanks
are spaces, it does not end with one, and nothing in it cuts it short. -/
structure PlainFrom (s : List Char) : Prop where
  spacing : ∀ c ∈ s, isSpacing c = (c == ' ')
  head_ne : s.head? ≠ some ' '
  last_ne : s.getLast? ≠ some ' '
  hash_ne : s.head? ≠ some '#'
  not_cut : ∃ a, breaksOffAfter a s = false

theorem breaksOffAfter_append {a b : Char} {s t : List Char}
    (h : breaksOffAfter a (s ++ b :: t) = false) : breaksOffAfter b t = false := by
  induction s generalizing a with
  | nil => exact (breaksOffAfter_cons h).2.2
  | cons c s ih => exact ih (breaksOffAfter_cons h).2.2

/-- A text in which `p` holds of spaces alone is a run of other characters and, unless it ends
there, one of spaces and a rest that does not begin with a space. -/
theorem exists_run_spaces {p : Char → Bool} {s : List Char} (h : ∀ c ∈ s, p c = (c == ' ')) :
    ∃ w n t, s = w ++ (spaces n ++ t) ∧ (∀ c ∈ w, p c = false) ∧ t.head? ≠ some ' ' ∧
      (n = 0 → t = []) := by
  obtain ⟨w, r, rfl, hw, hr⟩ := exists_span (!p ·) s
  obtain ⟨v, t, rfl, hv, ht⟩ := exists_span (· == ' ') r
  refine ⟨w, v.length, t, by rw [← eq_spaces hv], fun c hc ↦ by simpa using hw c hc, ?_, ?_⟩
  · intro hhead
    rw [Stops, hhead] at ht
    exact absurd ht (by decide)
  · intro hn
    obtain rfl := List.length_eq_zero_iff.1 hn
    cases t with
    | nil => rfl
    | cons c t =>
      have hc : p c = true := by simpa using hr
      rw [h c (by simp)] at hc
      rw [stops_cons, hc] at ht
      exact absurd ht (by decide)

/-- A text that can be read as plain is a word, after which it ends or goes on with spaces and
another such text. -/
theorem PlainFrom.split {s : List Char} (h : PlainFrom s) (hne : s ≠ []) :
    ∃ w n t, s = w ++ (spaces n ++ t) ∧ w ≠ [] ∧ (∀ c ∈ w, isSpacing c = false) ∧
      (n = 0 ∧ t = [] ∨ 0 < n ∧ t ≠ [] ∧ PlainFrom t) := by
  obtain ⟨w, n, t, rfl, hw, ht, hn⟩ := exists_run_spaces h.spacing
  have hwne : w ≠ [] := by
    rintro rfl
    cases n with
    | zero => exact hne (by rw [hn rfl]; rfl)
    | succ n => exact h.head_ne rfl
  refine ⟨w, n, t, rfl, hwne, hw, ?_⟩
  cases n with
  | zero => exact .inl ⟨rfl, hn rfl⟩
  | succ n =>
    have hsplit : w ++ (spaces (n + 1) ++ t) = (w ++ spaces n) ++ ' ' :: t := by
      rw [spaces, List.replicate_succ', List.append_assoc, List.append_assoc]
      rfl
    have htne : t ≠ [] := by
      rintro rfl
      refine h.last_ne ?_
      rw [hsplit, List.getLast?_append]
      rfl
    obtain ⟨a, ha⟩ := h.not_cut
    rw [hsplit] at ha
    have hcut := breaksOffAfter_append ha
    refine .inr ⟨Nat.succ_pos n, htne, ?_, ht, ?_, ?_, ⟨' ', hcut⟩⟩
    · exact fun c hc ↦ h.spacing c (by simp [hc])
    · intro hlast
      refine h.last_ne ?_
      rw [hsplit, List.getLast?_append, List.getLast?_cons, hlast]
      rfl
    · intro hhash
      obtain ⟨t, rfl⟩ : ∃ u, t = '#' :: u := by
        cases t with
        | nil => exact absurd rfl htne
        | cons c t => exact ⟨t, by simpa using hhash⟩
      exact absurd (breaksOffAfter_cons hcut).2.1 (by decide)

theorem PlainFrom.stops {s k : List Char} (h : PlainFrom s) (hne : s ≠ []) :
    Stops isSpacing (s ++ k) := by
  obtain ⟨c, s, rfl⟩ := List.exists_cons_of_ne_nil hne
  have hc : c ≠ ' ' := fun hc ↦ h.head_ne (by rw [hc]; rfl)
  rw [List.cons_append, stops_cons, h.spacing c (by simp)]
  exact beq_eq_false_iff_ne.2 hc

/-- Reading goes on to the end of the text, whatever the number of its words. -/
theorem PlainFrom.read {size margin fuel i l m : Nat} {s tail : List Char} (h : PlainFrom s)
    (text : List Char) (g : Gap) (hne : s ≠ []) (htail : plainRun false tail = some [])
    (hsize : s.length ≤ size) (hfuel : s.length < fuel) (hmargin : margin ≤ m + 1)
    (hmark : Cursor.atDocumentMark ⟨s ++ tail, i, l, m⟩ = false) :
    ∃ fuel', readPlainFrom size false margin fuel text g ⟨s ++ tail, i, l, m⟩
      = plainAfter size margin fuel' (text ++ g.fold ++ s)
          ⟨tail, i + s.length, l, m + s.length⟩ := by
  -- by induction on the fuel, of which every word uses up one unit
  induction fuel generalizing s text g i m with
  | zero => exact absurd hfuel (Nat.not_lt_zero _)
  | succ fuel ih =>
    obtain ⟨w, n, t, rfl, hwne, hw, hrest⟩ := h.split hne
    obtain ⟨a, ha⟩ := h.not_cut
    have hwlen : 0 < w.length := List.length_pos_iff.2 hwne
    have hhash : w.head? ≠ some '#' := by
      obtain ⟨c, w, rfl⟩ := List.exists_cons_of_ne_nil hwne
      exact h.hash_ne
    have hrun : plainRun false (w ++ ((spaces n ++ t) ++ tail)) = some w := by
      refine plainRun_append hw ha ?_
      rcases hrest with ⟨rfl, rfl⟩ | ⟨hn, -, -⟩
      · exact htail
      · obtain ⟨n, rfl⟩ : ∃ j, n = j + 1 := ⟨n - 1, by omega⟩
        rfl
    rw [List.append_assoc] at hmark ⊢
    rw [readPlainFrom_word hwne hrun hmark hhash]
    rcases hrest with ⟨rfl, rfl⟩ | ⟨hn, htne, ht⟩
    · exact ⟨fuel, by simp [spaces]⟩
    -- the gap on the line is passed and the next word begins
    simp only [List.length_append, spaces, List.length_replicate] at hsize hfuel
    have hnext : Cursor.next ⟨spaces n ++ t ++ tail, i + w.length, l, m + w.length⟩ isSpacing
        = true := by
      obtain ⟨n, rfl⟩ : ∃ j, n = j + 1 := ⟨n - 1, by omega⟩
      rfl
    have hgap : Gap.read margin size {} ⟨spaces n ++ (t ++ tail), i + w.length, l, m + w.length⟩
        = some (⟨spaces n, false, [], []⟩, ⟨t ++ tail, i + w.length + n, l, m + w.length + n⟩) :=
      Gap.read_spaces rfl (ht.stops htne) (by omega)
    obtain ⟨fuel', hread⟩ := ih (i := i + w.length + n) (m := m + w.length + n) ht
      (text ++ g.fold ++ w) ⟨spaces n, false, [], []⟩ htne (by omega) (by omega) (by omega)
      (Cursor.atDocumentMark_of_pos (by omega))
    refine ⟨fuel', ?_⟩
    rw [plainAfter, hnext, List.append_assoc (spaces n), hgap]
    simp only [Bool.not_true, Bool.false_eq_true, ↓reduceIte,
      if_neg (show ¬m + w.length + n < margin by omega)]
    rw [hread]
    simp [Gap.fold, spaces, Nat.add_assoc]

/-! ### Texts that are written plain -/

theorem isPrintable_of_needsEscapes {s : List Char} (h : needsEscapes s = false) :
    ∀ c ∈ s, isPrintable c = true := by
  rw [needsEscapes, Bool.or_eq_false_iff, List.any_eq_false] at h
  intro c hc
  simpa using h.1 c hc

theorem plainAllowed_iff {s : List Char} :
    plainAllowed s = true ↔ needsEscapes s = false ∧ isMultiline s = false ∧
      hasEnd (· == ' ') s = false ∧ isCutShort s = false := by
  simp [plainAllowed, and_assoc]

theorem isSpacing_of_plainAllowed {s : List Char} (h : plainAllowed s = true) :
    ∀ c ∈ s, isSpacing c = (c == ' ') := by
  obtain ⟨hprint, hlines, -, -⟩ := plainAllowed_iff.1 h
  intro c hc
  have hbreak : isBreak c = false := by
    rw [isMultiline, List.any_eq_false] at hlines
    simpa using hlines c hc
  rw [isSpacing_of_isPrintable (isPrintable_of_needsEscapes hprint c hc), hbreak, Bool.or_false]

/-- The first characters of a plain text: none is an indicator, and a question mark, colon or hyphen
has something other than a blank after it. -/
theorem opensOtherwise_of_plainAllowed {s : List Char} (h : plainAllowed s = true) :
    opensOtherwise s = false := by
  obtain ⟨-, -, -, hcut⟩ := plainAllowed_iff.1 h
  unfold isCutShort at hcut
  exact (Bool.or_eq_false_iff.1 hcut).1

theorem PlainFrom.of_plainAllowed {s : List Char} (h : plainAllowed s = true) (hne : s ≠ []) :
    PlainFrom s := by
  obtain ⟨-, -, hends, hcut⟩ := plainAllowed_iff.1 h
  have hopens := opensOtherwise_of_plainAllowed h
  rw [hasEnd, Bool.or_eq_false_iff] at hends
  obtain ⟨c, s, rfl⟩ := List.exists_cons_of_ne_nil hne
  simp only [opensOtherwise, Bool.or_eq_false_iff] at hopens
  unfold isCutShort at hcut
  rw [Bool.or_eq_false_iff] at hcut
  refine ⟨isSpacing_of_plainAllowed h, ?_, ?_, ?_, ?_⟩
  · intro hspace
    rw [hspace] at hends
    exact absurd hends.1 (by decide)
  · intro hspace
    rw [hspace] at hends
    exact absurd hends.2 (by decide)
  · intro hhash
    rw [List.head?_cons, Option.some.injEq] at hhash
    rw [hhash] at hopens
    exact absurd hopens.2.1 (by decide)
  · refine ⟨'a', ?_⟩
    -- what would cut the text short at its first character would also keep it from opening
    have hcolon : (c == ':' && atSpacing s) = false := by
      have := hopens.2.2
      rw [Bool.and_eq_false_iff, Bool.or_eq_false_iff, Bool.or_eq_false_iff] at this
      rw [Bool.and_eq_false_iff]
      exact this.imp_left fun h ↦ h.1.2
    have hrest : breaksOffAfter c s = false := hcut.2
    rw [breaksOffAfter, hcolon, hrest]
    simp [show isSpacing 'a' = false from rfl]

theorem readPlain_key {size margin i l m : Nat} {s k : List Char} (h : plainAllowed s = true)
    (hne : s ≠ []) (hk : atSpacing k = true) (hsize : s.length ≤ size) (hmargin : margin ≤ m + 1)
    (hmark : Cursor.atDocumentMark ⟨s ++ ':' :: k, i, l, m⟩ = false) :
    readPlain size false margin ⟨s ++ ':' :: k, i, l, m⟩
      = some ⟨s, ⟨':' :: k, i + s.length, l, m + s.length⟩, false⟩ := by
  have htail : plainRun false (':' :: k) = some [] := by
    simp [plainRun, hk, show isSpacing ':' = false from rfl]
  obtain ⟨fuel, hread⟩ := (PlainFrom.of_plainAllowed h hne).read [] {} hne htail
    hsize (Nat.lt_succ_of_le hsize) hmargin hmark
  rw [readPlain, hread]
  rfl

/-- A plain text at the end of its line is read up to the next token, which stands further left than
its own continuation could. -/
theorem readPlain_line {size margin i l m j : Nat} {s k : List Char} (h : plainAllowed s = true)
    (hne : s ≠ []) (hk : Stops isSpacing k) (hsize : s.length + j < size) (hj : j < margin)
    (hmargin : margin ≤ m + 1)
    (hmark : Cursor.atDocumentMark ⟨s ++ '\n' :: (spaces j ++ k), i, l, m⟩ = false) :
    readPlain size false margin ⟨s ++ '\n' :: (spaces j ++ k), i, l, m⟩
      = some ⟨s, ⟨k, i + s.length + 1 + j, l + 1, j⟩, true⟩ := by
  obtain ⟨fuel, hread⟩ := (PlainFrom.of_plainAllowed h hne).read [] {} hne
    (show plainRun false ('\n' :: (spaces j ++ k)) = some [] from rfl)
    (show s.length ≤ size by omega) (show s.length < size + 1 by omega) hmargin hmark
  obtain ⟨size, rfl⟩ : ∃ n, size = n + 1 := ⟨size - 1, by omega⟩
  have hgap : Gap.read margin (size + 1) {}
        ⟨'\n' :: (spaces j ++ k), i + s.length, l, m + s.length⟩
      = some (⟨[], true, ['\n'], []⟩, ⟨k, i + s.length + 1 + j, l + 1, j⟩) := by
    rw [Gap.read_firstBreak rfl rfl rfl, Gap.read_indent rfl hk (by omega), Nat.zero_add]
  rw [readPlain, hread, plainAfter, hgap]
  simp [Cursor.next, Cursor.head?, show isSpacing '\n' = true from rfl, hj, Gap.fold]

end AlertOperator.Yaml
