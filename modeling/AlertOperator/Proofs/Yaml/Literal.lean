import AlertOperator.Proofs.Yaml.Plain
import AlertOperator.Yaml.Block

/-!
# Reading back literal blocks

A text with newlines is written line by line under a bar, and a line break of the text is a line
break of the document. The reader takes the indentation from the first line unless it is stated, and
it is stated exactly if the text begins with a space or a line break, from which it could not be
told.

## The end of a block

The breaks at the end of a text are the last line's own, if it has one, and those of empty lines.
The mark for the end keeps none, the first or all of them. A text without a break at its end gets
one in the document, where the mark drops it again; a text with one break needs no mark; all other
texts are marked to be kept as they are.
-/

namespace AlertOperator.Yaml

variable {size fuel indent i j l m w : Nat} {k : List Char}

/-! ## The lines as they are written -/

/-- What is written for a text after the first line of its block or after a part of it, `fresh`
saying whether that part ended with a line break. The last line is ended. -/
def literalRest (indent : Nat) : Bool → List Char → List Char
  | fresh, [] => if fresh then [] else ['\n']
  | fresh, c :: s =>
    if isBreak c then c :: literalRest indent true s
    else (if fresh then spaces indent else []) ++ c :: literalRest indent false s

theorem getLast?_indented (fresh : Bool) (s : List Char) :
    (indented indent fresh s).getLast? = s.getLast? := by
  induction s generalizing fresh with
  | nil => rfl
  | cons c s ih =>
    rw [indented]
    split
    · rw [List.getLast?_cons, List.getLast?_cons, ih]
    · split
      · rw [List.getLast?_append, List.getLast?_cons, List.getLast?_cons, ih, Option.some_or]
      · rw [List.getLast?_cons, List.getLast?_cons, ih]

theorem literalRest_eq (fresh : Bool) (s : List Char) :
    literalRest indent fresh s = indented indent fresh s ++
      (if (if s.isEmpty then fresh else s.getLast?.any isBreak) then [] else ['\n']) := by
  induction s generalizing fresh with
  | nil => cases fresh <;> rfl
  | cons c s ih =>
    have hlast : (if s.isEmpty then isBreak c else s.getLast?.any isBreak)
        = (c :: s).getLast?.any isBreak := by
      cases s <;> rfl
    rw [literalRest, ih, ih, ← hlast]
    cases hc : isBreak c <;> cases fresh <;> simp [indented, hc]

theorem endLine_literalBlock {s : List Char} (hne : s ≠ []) :
    endLine (literalBlock indent s)
      = '|' :: (literalMarks s ++ '\n' :: literalRest indent true s) := by
  obtain ⟨c, s, rfl⟩ := List.exists_cons_of_ne_nil hne
  have hlast : (literalBlock indent (c :: s)).getLast? = (c :: s).getLast? := by
    rw [literalBlock, ← List.cons_append, List.getLast?_append, List.getLast?_cons,
      getLast?_indented, Option.some_or, List.getLast?_cons, Option.getD_some]
  rw [endLine, hlast, literalRest_eq]
  cases h : (c :: s).getLast?.any isBreak <;> simp [literalBlock]

theorem literalRest_breaks {bs u : List Char} (fresh : Bool) (hb : ∀ c ∈ bs, isBreak c = true)
    (hne : bs ≠ [] ∨ fresh = true) :
    literalRest indent fresh (bs ++ u) = bs ++ literalRest indent true u := by
  induction bs generalizing fresh with
  | nil =>
    obtain rfl : fresh = true := hne.resolve_left (fun h ↦ h rfl)
    rfl
  | cons b bs ih =>
    rw [List.cons_append, literalRest, if_pos (hb b (by simp)),
      ih true (fun c hc ↦ hb c (by simp [hc])) (.inr rfl), List.cons_append]

theorem literalRest_line {v u : List Char} (hv : ∀ c ∈ v, isBreak c = false) :
    literalRest indent false (v ++ u) = v ++ literalRest indent false u := by
  induction v with
  | nil => rfl
  | cons c v ih =>
    rw [List.cons_append, literalRest, hv c (by simp), ih fun d hd ↦ hv d (by simp [hd])]
    rfl

theorem literalRest_fresh {c : Char} {u : List Char} (hc : isBreak c = false) :
    literalRest indent true (c :: u) = spaces indent ++ literalRest indent false (c :: u) := by
  rw [literalRest, literalRest, hc]
  rfl

theorem length_le_literalRest (indent : Nat) (s : List Char) (fresh : Bool) :
    s.length ≤ (literalRest indent fresh s).length := by
  induction s generalizing fresh with
  | nil => exact Nat.zero_le _
  | cons c s ih =>
    rw [literalRest]
    split
    · exact Nat.succ_le_succ (ih true)
    · rw [List.length_append, List.length_cons, List.length_cons]
      exact Nat.le_add_left_of_le (Nat.succ_le_succ (ih false))

/-! ## Reading lines -/

theorem skipIndent_spaces {x : List Char} {stated : Option Nat} (hf : j ≤ fuel)
    (hle : stated.all (m + j ≤ ·) = true) (hx : stated = some (m + j) ∨ x.head? ≠ some ' ') :
    skipIndent stated fuel ⟨spaces j ++ x, i, l, m⟩ = ⟨x, i + j, l, m + j⟩ := by
  induction j generalizing fuel i m with
  | zero =>
    cases fuel with
    | zero => rfl
    | succ fuel =>
      have hstop : (stated.all (m < ·) && Cursor.startsWith ⟨x, i, l, m⟩ ' ') = false := by
        rcases hx with rfl | hx
        · simp
        · simp [Cursor.startsWith, Cursor.head?, hx]
      rw [show spaces 0 ++ x = x from rfl, skipIndent]
      exact if_neg (by rw [hstop]; exact Bool.false_ne_true)
  | succ j ih =>
    obtain ⟨fuel, rfl⟩ : ∃ f, fuel = f + 1 := ⟨fuel - 1, by omega⟩
    have hgo : (stated.all (m < ·)
        && Cursor.startsWith ⟨spaces (j + 1) ++ x, i, l, m⟩ ' ') = true := by
      cases stated with
      | none => rfl
      | some n =>
        rw [Option.all_some, decide_eq_true_eq] at hle
        rw [Option.all_some, decide_eq_true (show m < n by omega)]
        rfl
    rw [skipIndent]
    refine (if_pos hgo).trans ?_
    have hone : m + 1 + j = m + (j + 1) := by omega
    have hskip := ih (i := i + 1) (m := m + 1) (show j ≤ fuel by omega)
      (hone ▸ hle) (hone ▸ hx)
    rw [Nat.add_assoc i, Nat.add_comm 1 j, hone] at hskip
    exact hskip

theorem readEmptyLines_breaks {bs x : List Char} (stated : Option Nat) (acc : List Char)
    (hb : ∀ c ∈ bs, isBreak c = true ∧ isPrintable c = true) (hj : j ≤ size)
    (hle : stated.all (j ≤ ·) = true) (hx : stated = some j ∨ x.head? ≠ some ' ')
    (hbreak : Stops isBreak x) (htab : x.head? ≠ some '\t') (hf : bs.length < fuel) :
    readEmptyLines size stated fuel acc w ⟨bs ++ (spaces j ++ x), i, l, 0⟩
      = some ⟨acc ++ bs, max w j, ⟨x, i + bs.length + j, l + bs.length, j⟩⟩ := by
  induction bs generalizing fuel acc w i l with
  | nil =>
    obtain ⟨fuel, rfl⟩ : ∃ f, fuel = f + 1 := ⟨fuel - 1, by omega⟩
    have hskip : skipIndent stated size ⟨spaces j ++ x, i, l, 0⟩ = ⟨x, i + j, l, j⟩ := by
      have h := skipIndent_spaces (i := i) (l := l) (m := 0) hj (by rwa [Nat.zero_add])
        (by rwa [Nat.zero_add])
      rwa [Nat.zero_add] at h
    have hnext : Cursor.next ⟨x, i + j, l, j⟩ isBreak = false := hbreak
    have hat : Cursor.startsWith ⟨x, i + j, l, j⟩ '\t' = false := by
      simpa [Cursor.startsWith, Cursor.head?] using htab
    rw [List.nil_append, readEmptyLines, hskip]
    simp [hat, hnext]
  | cons b bs ih =>
    rw [List.length_cons] at hf
    obtain ⟨fuel, rfl⟩ : ∃ f, fuel = f + 1 := ⟨fuel - 1, by omega⟩
    obtain ⟨hbb, hbp⟩ := hb b (by simp)
    have hne : b ≠ ' ' ∧ b ≠ '\t' := by
      rcases eq_of_isBreak hbb hbp with rfl | rfl | rfl <;> decide
    have hskip : skipIndent stated size ⟨b :: (bs ++ (spaces j ++ x)), i, l, 0⟩
        = ⟨b :: (bs ++ (spaces j ++ x)), i, l, 0⟩ := by
      cases size with
      | zero => rfl
      | succ size => simp [skipIndent, Cursor.startsWith, Cursor.head?, hne.1]
    have hstep : readEmptyLines size stated (fuel + 1) acc w
          ⟨b :: (bs ++ (spaces j ++ x)), i, l, 0⟩
        = readEmptyLines size stated fuel (acc ++ [b]) (max w 0)
            ⟨bs ++ (spaces j ++ x), i + 1, l + 1, 0⟩ := by
      rw [readEmptyLines, hskip]
      simp [Cursor.startsWith, Cursor.head?, hne.2, Cursor.next, hbb,
        Cursor.readBreak_of_isPrintable hbb hbp]
    rw [List.cons_append, hstep, ih _ (fun c hc ↦ hb c (by simp [hc])) (by omega)]
    simp [Nat.add_assoc, Nat.add_comm 1]

/-! ## Reading the lines of a text -/

theorem ne_tab_of_stops {x : List Char} (hx : Stops isSpacing x) : x.head? ≠ some '\t' := by
  intro h
  rw [Stops, h] at hx
  exact absurd hx (by decide)

theorem ne_space_of_stops {x : List Char} (hx : Stops isSpacing x) : x.head? ≠ some ' ' := by
  intro h
  rw [Stops, h] at hx
  exact absurd hx (by decide)

theorem stops_isBreak_of_stops {x : List Char} (hx : Stops isSpacing x) : Stops isBreak x := by
  cases x with
  | nil => rfl
  | cons c x => exact (Bool.or_eq_false_iff.1 hx).2

section Lines

variable {line bs text last empty x : List Char} {b : Char} {blank : Bool}

/-- One line, the empty lines after it and the indentation of the line after these. -/
theorem readLines_line (hline : ∀ c ∈ line, isBreak c = false)
    (hb : ∀ c ∈ b :: bs, isBreak c = true ∧ isPrintable c = true) (hle : j ≤ indent)
    (hx : j = indent ∨ x.head? ≠ some ' ') (hbreak : Stops isBreak x)
    (htab : x.head? ≠ some '\t') (hj : j ≤ size) (hbs : bs.length ≤ size) :
    readLines size false indent (fuel + 1) blank text last empty
        ⟨line ++ b :: (bs ++ (spaces j ++ x)), i, l, indent⟩
      = readLines size false indent fuel
          ((line ++ b :: (bs ++ (spaces j ++ x))).head?.any isBlank)
          (text ++ (last ++ empty) ++ line) [b] bs
          ⟨x, i + (line.length + (1 + (bs.length + j))), l + (1 + bs.length), j⟩ := by
  obtain ⟨hbb, hbp⟩ := hb b (by simp)
  have hspan : Cursor.span (fun x ↦ !isBreak x)
        ⟨line ++ b :: (bs ++ (spaces j ++ x)), i, l, indent⟩
      = (line, ⟨b :: (bs ++ (spaces j ++ x)), i + line.length, l, indent + line.length⟩) :=
    Cursor.span_append (fun c hc ↦ by simp [hline c hc]) (by simp [hbb])
  have hempty := readEmptyLines_breaks (w := 0) (i := i + (line.length + 1)) (l := l + 1)
    (some indent) [] (fun c hc ↦ hb c (by simp [hc])) hj (by simpa using hle)
    (hx.imp (fun h ↦ by rw [h]) id) hbreak htab (show bs.length < size + 1 by omega)
  rw [readLines, hspan]
  simp [Cursor.atEnd, Cursor.readBreak_of_isPrintable hbb hbp, hempty, Cursor.next, Cursor.head?,
    Nat.add_assoc]

theorem readLines_end (hj : j < indent) :
    readLines size false indent (fuel + 1) blank text last empty ⟨x, i, l, j⟩
      = some (text, last, empty, ⟨x, i, l, j⟩) := by
  have hne : (j != indent) = true := bne_iff_ne.2 (by omega)
  rw [readLines]
  simp [hne]

/-- The last line: the next one is indented less. -/
theorem readLines_lastLine (hline : ∀ c ∈ line, isBreak c = false)
    (hb : ∀ c ∈ b :: bs, isBreak c = true ∧ isPrintable c = true) (hlt : j < indent)
    (hk : Stops isSpacing k) (hj : j ≤ size) (hbs : bs.length ≤ size) :
    readLines size false indent (fuel + 2) blank text last empty
        ⟨line ++ b :: (bs ++ (spaces j ++ k)), i, l, indent⟩
      = some (text ++ (last ++ empty) ++ line, [b], bs,
          ⟨k, i + (line.length + (1 + (bs.length + j))), l + (1 + bs.length), j⟩) := by
  rw [readLines_line hline hb hlt.le (.inr (ne_space_of_stops hk)) (stops_isBreak_of_stops hk)
    (ne_tab_of_stops hk) hj hbs, readLines_end hlt]

theorem getLast?_append_of_ne_nil {v t : List Char} (hne : t ≠ [])
    (h : t.getLast?.any isBreak = false) : (v ++ t).getLast?.any isBreak = false := by
  rw [List.getLast?_eq_some_getLast hne] at h
  rw [List.getLast?_append, List.getLast?_eq_some_getLast hne]
  exact h

theorem exists_line {s : List Char} (hne : s ≠ []) (hs : Stops isBreak s) :
    ∃ line, line ≠ [] ∧ (∀ c ∈ line, isBreak c = false) ∧
      line.getLast?.any isBreak = false ∧ (s = line ∨ ∃ b bs u, s = line ++ (b :: bs ++ u) ∧
        (∀ c ∈ b :: bs, isBreak c = true) ∧ Stops isBreak u) := by
  obtain ⟨line, r, rfl, hspan, hr⟩ := exists_span (!isBreak ·) s
  have hline : ∀ c ∈ line, isBreak c = false := fun c hc ↦ by simpa using hspan c hc
  have hlne : line ≠ [] := by
    rintro rfl
    cases r with
    | nil => exact hne rfl
    | cons c r => exact absurd hs (by simpa using hr)
  refine ⟨line, hlne, hline, ?_, ?_⟩
  · rw [List.getLast?_eq_some_getLast hlne, Option.any_some]
    exact hline _ (List.getLast_mem hlne)
  · cases r with
    | nil => exact .inl (List.append_nil line)
    | cons b r =>
      obtain ⟨bs, u, rfl, hbs, hu⟩ := exists_span isBreak r
      refine .inr ⟨b, bs, u, rfl, fun c hc ↦ ?_, hu⟩
      rcases List.mem_cons.1 hc with rfl | hc
      · simpa using hr
      · exact hbs c hc

/-- All lines of a text are read. What is read of them ends where the breaks at the end of the text
begin; if there are none, one has been added. -/
theorem readLines_literalRest {s : List Char} (text last empty : List Char) (blank : Bool)
    (hp : ∀ c ∈ s, isPrintable c = true) (hne : s ≠ []) (hs : Stops isBreak s)
    (hk : Stops isSpacing k) (hj : j < indent)
    (hsize : (literalRest indent false s).length + indent ≤ size) (hfuel : s.length < fuel) :
    ∃ t b bs l', readLines size false indent fuel blank text last empty
          ⟨literalRest indent false s ++ (spaces j ++ k), i, l, indent⟩
        = some (text ++ (last ++ empty) ++ t, [b], bs,
            ⟨k, i + (literalRest indent false s).length + j, l', j⟩) ∧
      l < l' ∧ t ≠ [] ∧ t.getLast?.any isBreak = false ∧
      (s = t ++ b :: bs ∧ (∀ c ∈ b :: bs, isBreak c = true) ∨ s = t) := by
  -- by induction on the fuel, of which every line uses up one unit
  induction fuel generalizing s text last empty blank i l with
  | zero => exact absurd hfuel (Nat.not_lt_zero _)
  | succ fuel ih =>
    obtain ⟨line, hlne, hline, hlast, rfl | ⟨b, bs, u, rfl, hb, hu⟩⟩ := exists_line hne hs
    · -- the break is not the text's own
      have hlpos : 0 < s.length := List.length_pos_iff.2 hne
      obtain ⟨fuel, rfl⟩ : ∃ f, fuel = f + 1 := ⟨fuel - 1, by omega⟩
      have hrest := @literalRest_line indent _ [] hline
      rw [List.append_nil, show literalRest indent false [] = ['\n'] from rfl] at hrest
      rw [hrest, List.length_append, List.length_singleton] at hsize ⊢
      have hnewline : ∀ c ∈ ['\n'], isBreak c = true ∧ isPrintable c = true := by
        intro c hc
        rw [List.mem_singleton.1 hc]
        exact ⟨rfl, rfl⟩
      refine ⟨s, '\n', [], l + 1, ?_, Nat.lt_succ_self l, hlne, hlast, .inr rfl⟩
      rw [List.append_assoc,
        show ['\n'] ++ (spaces j ++ k) = '\n' :: ([] ++ (spaces j ++ k)) from rfl,
        readLines_lastLine hline hnewline hj hk (by omega) (Nat.zero_le _)]
      simp [Nat.add_assoc]
    · have hbp : ∀ c ∈ b :: bs, isBreak c = true ∧ isPrintable c = true := fun c hc ↦
        ⟨hb c hc, hp c (List.mem_append_right _ (List.mem_append_left u hc))⟩
      have hlpos : 0 < line.length := List.length_pos_iff.2 hlne
      rw [List.length_append, List.length_append, List.length_cons] at hfuel
      obtain ⟨fuel, rfl⟩ : ∃ f, fuel = f + 1 := ⟨fuel - 1, by omega⟩
      rw [literalRest_line hline, literalRest_breaks false hb (.inl (List.cons_ne_nil b bs))]
        at hsize ⊢
      simp only [List.length_append, List.length_cons] at hsize
      rw [List.append_assoc, List.append_assoc, List.cons_append]
      cases u with
      | nil =>
        refine ⟨line, b, bs, l + (1 + bs.length), ?_, by omega, hlne, hlast, .inl ⟨by simp, hb⟩⟩
        rw [show literalRest indent true [] = [] from rfl, List.nil_append,
          readLines_lastLine hline hbp hj hk (by omega) (by omega)]
        simp [Nat.add_assoc, Nat.add_comm 1]
      | cons c u =>
        have hc : isBreak c = false := hu
        have hcp : isPrintable c = true := hp c (by simp)
        have hcons : literalRest indent false (c :: u) = c :: literalRest indent false u := by
          rw [literalRest, hc]
          rfl
        have htab : c ≠ '\t' := ne_of_isPrintable hcp (by decide)
        rw [literalRest_fresh hc] at hsize ⊢
        simp only [List.length_append, spaces, List.length_replicate, List.length_cons]
          at hsize hfuel
        obtain ⟨t, d, ds, l', hread, hl, htne, htlast, hs⟩ := ih
          (i := i + (line.length + (1 + (bs.length + indent)))) (l := l + (1 + bs.length))
          (s := c :: u) _ _ _ _ (fun e he ↦ hp e (by simp [List.mem_cons.1 he])) (by simp) hc
          (by omega) (show u.length + 1 < fuel + 1 by omega)
        refine ⟨line ++ (b :: bs ++ t), d, ds, l', ?_, by omega, by simp, ?_, ?_⟩
        · rw [List.append_assoc (spaces indent), readLines_line hline hbp le_rfl (.inl rfl)
            (hcons ▸ hc) (by simpa [hcons] using htab) (by omega) (by omega), hread]
          simp [spaces, Nat.add_assoc, Nat.add_comm, Nat.add_left_comm]
        · rw [← List.append_assoc]
          exact getLast?_append_of_ne_nil htne htlast
        · rcases hs with ⟨hs, hds⟩ | hs
          · exact .inl ⟨by rw [hs]; simp, hds⟩
          · exact .inr (by rw [hs])

end Lines

/-! ## Marks -/

/-- The mark for the end of a block. -/
def Chomping.mark : Chomping → List Char
  | .strip => ['-']
  | .clip => []
  | .keep => ['+']

/-- The text begins with a space or a line break. -/
def opensBlank (s : List Char) : Bool := s.head?.any fun c ↦ c == ' ' || isBreak c

theorem readMarks_mark (stated : Bool) (ch : Chomping) :
    readMarks ⟨(if stated then ['2'] else []) ++ ch.mark ++ '\n' :: k, i, l, m⟩
      = some (⟨ch, if stated then some 2 else none⟩,
          Cursor.skip ((if stated then ['2'] else []) ++ ch.mark).length
            ⟨(if stated then ['2'] else []) ++ ch.mark ++ '\n' :: k, i, l, m⟩) := by
  cases stated <;> cases ch <;> rfl

/-- How a block has to end: with all breaks kept if the text ends with more than one or has nothing
else, and with the one break it ends with, if it does, otherwise. -/
theorem literalMarks_breaks {t bs : List Char} {b : Char} (ht : t.getLast?.any isBreak = false)
    (hb : ∀ c ∈ b :: bs, isBreak c = true) :
    literalMarks (t ++ b :: bs) = (if opensBlank (t ++ b :: bs) then ['2'] else []) ++
      Chomping.mark (if t = [] ∨ bs ≠ [] then .keep else .clip) := by
  rw [literalMarks, opensBlank]
  refine (List.append_right_inj _).2 ?_
  rcases List.eq_nil_or_concat bs with rfl | ⟨bs, c, rfl⟩
  · rw [List.reverse_append]
    have hbb := hb b (by simp)
    rcases List.eq_nil_or_concat t with rfl | ⟨t, d, rfl⟩
    · simp [hbb, Chomping.mark]
    · have hd : isBreak d = false := by simpa using ht
      simp [hbb, hd, Chomping.mark]
  · have hc := hb c (by simp)
    have hrev : (t ++ b :: (bs.concat c)).reverse = c :: (bs.reverse ++ b :: t.reverse) := by simp
    rw [hrev]
    cases h : bs.reverse with
    | nil => simp [hc, hb b (by simp), Chomping.mark]
    | cons d ds =>
      have hd : isBreak d = true := by
        refine hb d ?_
        rw [← List.reverse_reverse bs, h]
        simp
      simp [hc, hd, Chomping.mark]

theorem literalMarks_of_last {t : List Char} (ht : t.getLast?.any isBreak = false) :
    literalMarks t = (if opensBlank t then ['2'] else []) ++ Chomping.mark .strip := by
  rw [literalMarks, opensBlank]
  refine (List.append_right_inj _).2 ?_
  rcases List.eq_nil_or_concat t with rfl | ⟨t, d, rfl⟩
  · rfl
  · have hd : isBreak d = false := by simpa using ht
    simp [hd, Chomping.mark]

/-! ## Blocks -/

/-- What is kept of the breaks at the end of a block. -/
def Chomping.ending (last empty : List Char) : Chomping → List Char
  | .strip => []
  | .clip => last
  | .keep => last ++ empty

/-- Every text has a mark with which a block keeps just its own breaks at the end. -/
theorem exists_chomping {s t ds : List Char} {b : Char} (ht : t.getLast?.any isBreak = false)
    (hs : s = t ++ b :: ds ∧ (∀ c ∈ b :: ds, isBreak c = true) ∨ s = t) :
    ∃ ch : Chomping, literalMarks s = (if opensBlank s then ['2'] else []) ++ ch.mark ∧
      t ++ ch.ending [b] ds = s := by
  rcases hs with ⟨rfl, hds⟩ | rfl
  · refine ⟨if t = [] ∨ ds ≠ [] then .keep else .clip, literalMarks_breaks ht hds, ?_⟩
    split
    · rfl
    · rename_i hnone
      obtain rfl : ds = [] := not_not.1 fun h ↦ hnone (.inr h)
      rfl
  · exact ⟨.strip, literalMarks_of_last ht, by rw [Chomping.ending, List.append_nil]⟩

section Block

variable {n : Nat} {s : List Char}

/-- The indentation of a block, if it is stated. -/
def statedIndent (n : Nat) (s : List Char) : Option Nat :=
  if opensBlank s then some (n + 2) else none

/-- A block is read in three parts: its marks, the empty lines before its text and its lines. -/
theorem readBlock_of_parts {t last empty bs body : List Char} {ch : Chomping} {c c' : Cursor}
    (hmarks : literalMarks s = (if opensBlank s then ['2'] else []) ++ ch.mark)
    (hw : opensBlank s = true ∨ w = n + 2)
    (hempty : readEmptyLines size (statedIndent n s) (size + 1) [] 0
      ⟨body, i + (literalMarks s).length + 2, l + 1, 0⟩ = some ⟨bs, w, c⟩)
    (hlines : readLines size false (n + 2) (size + 1) false [] [] bs c
      = some (t, last, empty, c')) :
    readBlock size false (some n) ⟨'|' :: (literalMarks s ++ '\n' :: body), i, l, m⟩
      = some (t ++ ch.ending last empty, c') := by
  have hend : ∀ i m, Cursor.endOfLine? ⟨'\n' :: body, i, l, m⟩
      = some ⟨body, i + 1, l + 1, 0⟩ := fun _ _ ↦ rfl
  have hindex : i + 1 + (literalMarks s).length + 1 = i + (literalMarks s).length + 2 := by
    omega
  have hstated : (if opensBlank s then some 2 else none : Option Nat).map ((some n).getD 0 + ·)
      = statedIndent n s := by
    rw [statedIndent]
    split <;> rfl
  have hindent : (statedIndent n s).getD (max w (n + 1)) = n + 2 := by
    rw [statedIndent]
    rcases hw with hw | rfl
    · rw [hw]
      rfl
    · split
      · rfl
      · exact Nat.max_eq_left (Nat.le_succ (n + 1))
  have hread := readMarks_mark (opensBlank s) ch (k := body) (i := i + 1) (l := l) (m := m + 1)
  rw [← hmarks, Cursor.skip_append] at hread
  rw [readBlock, Cursor.skip_one, hread]
  simp only [Option.bind_eq_bind, Option.bind_some, hend, hindex, hstated, hempty, hindent, hlines]
  cases ch <;> rfl

theorem readBlock_breaks {b : Char} {bs : List Char}
    (hb : ∀ c ∈ b :: bs, isBreak c = true ∧ isPrintable c = true) (hk : Stops isSpacing k)
    (hj : j < n + 2) (hjs : j ≤ size) (hsize : bs.length < size) :
    readBlock size false (some n)
        ⟨'|' :: (literalMarks (b :: bs) ++ '\n' :: (b :: bs ++ (spaces j ++ k))), i, l, m⟩
      = some (b :: bs, ⟨k, i + (literalMarks (b :: bs)).length + 2 + (b :: bs).length + j,
          l + 1 + (b :: bs).length, j⟩) := by
  have hmarks := literalMarks_breaks (t := []) rfl fun c hc ↦ (hb c hc).1
  rw [List.nil_append, if_pos (show ([] : List Char) = [] ∨ bs ≠ [] from .inl rfl)] at hmarks
  have hopens : opensBlank (b :: bs) = true := by
    rw [opensBlank, List.head?_cons, Option.any_some, (hb b (by simp)).1, Bool.or_true]
  have hstated : statedIndent n (b :: bs) = some (n + 2) := if_pos hopens
  have hempty := readEmptyLines_breaks (w := 0) (l := l + 1)
    (i := i + (literalMarks (b :: bs)).length + 2) (statedIndent n (b :: bs)) [] hb hjs
    (by simpa [hstated] using hj.le) (.inr (ne_space_of_stops hk)) (stops_isBreak_of_stops hk)
    (ne_tab_of_stops hk) (show (b :: bs).length < size + 1 by rw [List.length_cons]; omega)
  rw [readBlock_of_parts hmarks (.inl hopens) hempty (readLines_end hj)]
  simp [Chomping.ending]

theorem readBlock_lines {bs u : List Char} {c : Char}
    (hb : ∀ d ∈ bs, isBreak d = true ∧ isPrintable d = true)
    (hu : ∀ d ∈ c :: u, isPrintable d = true) (hc : isBreak c = false) (hk : Stops isSpacing k)
    (hj : j < n + 2)
    (hsize : bs.length + (literalRest (n + 2) false (c :: u)).length + (n + 2) ≤ size) :
    ∃ l', readBlock size false (some n)
        ⟨'|' :: (literalMarks (bs ++ c :: u) ++ '\n' ::
          (bs ++ (spaces (n + 2) ++ (literalRest (n + 2) false (c :: u) ++ (spaces j ++ k))))),
          i, l, m⟩
      = some (bs ++ c :: u, ⟨k, i + (literalMarks (bs ++ c :: u)).length + 2 + bs.length + (n + 2)
          + (literalRest (n + 2) false (c :: u)).length + j, l', j⟩) ∧ l < l' := by
  have hcons : literalRest (n + 2) false (c :: u) = c :: literalRest (n + 2) false u := by
    rw [literalRest, hc]
    rfl
  have hlen := length_le_literalRest (n + 2) (c :: u) false
  -- the indentation is told by the first line if that begins with a character other than a space
  have hstated : opensBlank (bs ++ c :: u) = true ∨ bs = [] ∧ c ≠ ' ' := by
    cases bs with
    | nil =>
      by_cases hspace : c = ' '
      · exact .inl (by rw [hspace]; rfl)
      · exact .inr ⟨rfl, hspace⟩
    | cons b bs =>
      refine .inl ?_
      rw [opensBlank, List.cons_append, List.head?_cons, Option.any_some, (hb b (by simp)).1,
        Bool.or_true]
  have htab : c ≠ '\t' := ne_of_isPrintable (hu c (by simp)) (by decide)
  have hle : (statedIndent n (bs ++ c :: u)).all (n + 2 ≤ ·) = true := by
    rw [statedIndent]
    split <;> simp
  have hspace : statedIndent n (bs ++ c :: u) = some (n + 2) ∨
      (literalRest (n + 2) false (c :: u) ++ (spaces j ++ k)).head? ≠ some ' ' := by
    rcases hstated with h | ⟨-, h⟩
    · exact .inl (if_pos h)
    · exact .inr (by simpa [hcons] using h)
  have hempty := readEmptyLines_breaks (w := 0) (l := l + 1)
    (i := i + (literalMarks (bs ++ c :: u)).length + 2) (j := n + 2)
    (x := literalRest (n + 2) false (c :: u) ++ (spaces j ++ k))
    (statedIndent n (bs ++ c :: u)) [] hb (show n + 2 ≤ size by omega) hle hspace
    (hcons ▸ hc) (by simpa [hcons] using htab) (show bs.length < size + 1 by omega)
  obtain ⟨t, b, ds, l', hread, hl, htne, htlast, hs⟩ := readLines_literalRest
    (l := l + 1 + bs.length)
    (i := i + (literalMarks (bs ++ c :: u)).length + 2 + bs.length + (n + 2)) [] [] bs false hu
    (List.cons_ne_nil c u) hc hk hj (show _ ≤ size by omega)
    (show (c :: u).length < size + 1 by omega)
  rw [List.nil_append, List.nil_append] at hread
  obtain ⟨ch, hmarks, hend⟩ : ∃ ch : Chomping, literalMarks (bs ++ c :: u)
      = (if opensBlank (bs ++ c :: u) then ['2'] else []) ++ ch.mark ∧
        bs ++ t ++ ch.ending [b] ds = bs ++ c :: u := by
    apply exists_chomping (getLast?_append_of_ne_nil htne htlast)
    refine hs.imp (And.imp (fun hs ↦ ?_) id) fun hs ↦ by rw [hs]
    rw [hs, List.append_assoc]
  refine ⟨l', ?_, by omega⟩
  rw [readBlock_of_parts hmarks (hstated.imp id fun _ ↦ Nat.zero_max (n + 2)) hempty hread, hend]

/-- A text in a block is read back, and the place after it is at the next token. -/
theorem readBlock_literalBlock (hp : ∀ c ∈ s, isPrintable c = true) (hne : s ≠ [])
    (hk : Stops isSpacing k) (hj : j < n + 2)
    (hsize : (endLine (literalBlock (n + 2) s)).length + j ≤ size) :
    ∃ l', readBlock size false (some n)
        ⟨endLine (literalBlock (n + 2) s) ++ (spaces j ++ k), i, l, m⟩
      = some (s, ⟨k, i + (endLine (literalBlock (n + 2) s)).length + j, l', j⟩) ∧ l < l' := by
  rw [endLine_literalBlock hne] at hsize ⊢
  simp only [List.length_cons, List.length_append] at hsize ⊢
  obtain ⟨bs, u, rfl, hbs, hu⟩ := exists_span isBreak s
  have hbp : ∀ c ∈ bs, isBreak c = true ∧ isPrintable c = true := fun c hc ↦
    ⟨hbs c hc, hp c (List.mem_append_left u hc)⟩
  rw [literalRest_breaks true hbs (.inr rfl)] at hsize ⊢
  rw [List.length_append] at hsize
  cases u with
  | nil =>
    obtain ⟨b, bs, rfl⟩ := List.exists_cons_of_ne_nil (by simpa using hne)
    rw [List.length_cons] at hsize
    have hread := readBlock_breaks (i := i) (l := l) (m := m) hbp hk hj (show j ≤ size by omega)
      (by omega)
    refine ⟨l + 1 + (b :: bs).length, ?_, by omega⟩
    rw [show literalRest (n + 2) true [] = [] from rfl]
    simp only [List.append_nil, List.cons_append, List.append_assoc] at hread ⊢
    rw [hread]
    simp only [List.length_cons, Option.some.injEq, Prod.mk.injEq, Cursor.mk.injEq, true_and,
      and_true]
    omega
  | cons c u =>
    rw [literalRest_fresh hu] at hsize ⊢
    simp only [List.length_append, spaces, List.length_replicate] at hsize
    obtain ⟨l', hread, hl⟩ := readBlock_lines (i := i) (l := l) (m := m) hbp
      (fun d hd ↦ hp d (List.mem_append_right bs hd)) hu hk hj (show _ ≤ size by omega)
    refine ⟨l', ?_, hl⟩
    simp only [List.cons_append, List.append_assoc] at hread ⊢
    rw [hread]
    simp only [List.length_append, spaces, List.length_replicate, Option.some.injEq, Prod.mk.injEq,
      Cursor.mk.injEq, true_and, and_true]
    omega

end Block

end AlertOperator.Yaml
