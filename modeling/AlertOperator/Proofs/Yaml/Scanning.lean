import AlertOperator.Proofs.Yaml.Style
import AlertOperator.Yaml.Token

/-!
# Scanning what is written

The scanner reads a written document piece by piece. What it does with a piece depends on a few
facts of its state: at which column it stands, which block collections are open, and whether a key
may begin. `Passes` says that it passes a piece with a list of tokens, for everything that may come
after; pieces are then put together without another look at the scanner.

## What comes after a piece

Every piece ends its line. So what comes after it begins a line: some spaces, no more than the
columns of the level at which the piece stands, and then either the end of the document or a token.
There the scanner has no memory of the piece but its tokens and the open collections. A key that may
have begun in the piece has been left behind on an earlier line, and is forgotten before the next
token.
-/

namespace AlertOperator.Yaml

namespace Scanner

/-- The tokens that the scanner will have found at the end of the document, if its size is that of
the document. Every step passes a character, so fuel for each of them is enough. -/
def Reads (s : Scanner) (ts : List Token) : Prop :=
  s.cursor.rest.length ≤ s.size → ∀ fuel, s.cursor.rest.length < fuel → s.run fuel = some ts

/-- The scanner outside brackets, with the tokens `done` in the order of the document. -/
def spot (size : Nat) (done : List Token) (columns : List Nat) (allowed : Bool)
    (key : Option KeyPlace) (c : Cursor) : Scanner :=
  { cursor := c, size := size, tokens := done.reverse, count := done.length, columns := columns,
    keyAllowed := allowed, blockKey := key }

@[simp] theorem cursor_spot {size : Nat} {done : List Token} {columns : List Nat} {allowed : Bool}
    {key : Option KeyPlace} {c : Cursor} : (spot size done columns allowed key c).cursor = c := rfl

/-- From the beginning of a token on, or from the end, with a key allowed and none begun, the tokens
`ts` are found, wherever in the document this is. -/
def ReadsAt (size : Nat) (done : List Token) (columns : List Nat) (k : List Char) (m : Nat)
    (ts : List Token) : Prop :=
  ∀ i l, (spot size done columns true none ⟨k, i, l, m⟩).Reads ts

section Steps

variable {size i j l m n : Nat} {done ts : List Token} {columns : List Nat} {allowed : Bool}
  {key : Option KeyPlace} {k : List Char} {s s' : Scanner}

/-- The bound on the size may be used to see what is read. -/
theorem Reads.of_size (h : s.cursor.rest.length ≤ s.size → s.Reads ts) : s.Reads ts :=
  fun hsize ↦ h hsize hsize

/-- Only what is left before the next token matters. -/
theorem Reads.skip (h : s'.Reads ts)
    (hskip : (s.skipToToken (s.size + 1)).dropStaleKeys
      = (s'.skipToToken (s'.size + 1)).dropStaleKeys)
    (hlen : s'.cursor.rest.length ≤ s.cursor.rest.length) (hsize : s'.size = s.size) :
    s.Reads ts := by
  intro hs fuel hfuel
  obtain ⟨fuel, rfl⟩ : ∃ f, fuel = f + 1 := ⟨fuel - 1, by omega⟩
  have hrest := h (by omega) (fuel + 1) (by omega)
  rw [run] at hrest ⊢
  rw [hskip, hrest]

theorem skipToToken_spaces (hk : Opens k) (fuel : Nat) :
    skipToToken (fuel + 1) (spot size done columns allowed key ⟨spaces j ++ k, i, l, m⟩)
      = spot size done columns allowed key ⟨k, i + j, l, m + j⟩ := by
  have hstops := hk.stops
  have hbom : Cursor.startsWith ⟨spaces j ++ k, i, l, m⟩ '\uFEFF' = false := by
    cases j with
    | zero =>
      cases k with
      | nil => rfl
      | cons c k => exact beq_false_of_ne (b := '\uFEFF') (opens_cons.1 hk).2.2
    | succ j => rfl
  have hhash : ∀ i m, Cursor.startsWith ⟨k, i, l, m⟩ '#' = false := by
    intro i m
    cases k with
    | nil => rfl
    | cons c k => exact beq_false_of_ne (b := '#') (opens_cons.1 hk).2.1
  have hbreak : ∀ i m, Cursor.next ⟨k, i, l, m⟩ isBreak = false := fun _ _ ↦
    stops_isBreak_of_stops hstops
  have hspan : ∀ tabs : Bool, Cursor.span (fun x ↦ x == ' ' || (tabs && x == '\t'))
      ⟨spaces j ++ k, i, l, m⟩ = (spaces j, ⟨k, i + j, l, m + j⟩) := by
    intro tabs
    have h := Cursor.span_append (w := spaces j) (k := k) (i := i) (l := l) (m := m)
      (p := fun x ↦ x == ' ' || (tabs && x == '\t'))
      (fun c hc ↦ by rw [List.eq_of_mem_replicate hc]; rfl) ?_
    · rwa [spaces, List.length_replicate] at h
    · cases k with
      | nil => rfl
      | cons c k =>
        have htab := ne_tab_of_stops hstops
        have hspace := ne_space_of_stops hstops
        simp only [List.head?_cons, ne_eq, Option.some.injEq] at htab hspace
        simp [htab, hspace]
  rw [skipToToken]
  simp [spot, hbom, hspan, hhash, hbreak]

theorem skipToToken_newline (hk : Opens k) (fuel : Nat) :
    skipToToken (fuel + 2) (spot size done columns allowed key ⟨'\n' :: (spaces j ++ k), i, l, m⟩)
      = spot size done columns true key ⟨k, i + 1 + j, l + 1, j⟩ := by
  have hstep : skipToToken (fuel + 2)
        (spot size done columns allowed key ⟨'\n' :: (spaces j ++ k), i, l, m⟩)
      = skipToToken (fuel + 1)
          (spot size done columns true key ⟨spaces j ++ k, i + 1, l + 1, 0⟩) := by
    rw [skipToToken]
    simp [spot, Cursor.span_of_stops, Cursor.next, Cursor.head?, inFlow,
      show isBreak '\n' = true from rfl]
  rw [hstep, skipToToken_spaces hk, Nat.zero_add]

theorem dropStaleKeys_spot (c : Cursor) :
    (spot size done columns allowed key c).dropStaleKeys
      = (freshKey c key).map fun p ↦ spot size done columns allowed p c := by
  simp only [dropStaleKeys, spot]
  cases freshKey c key <;> rfl

/-- The possible key, if there is one, began before line `l` and was not required. -/
def Forgotten (key : Option KeyPlace) (l : Nat) : Prop :=
  ∀ p, key = some p → p.required = false ∧ p.line < l

theorem freshKey_of_forgotten (h : Forgotten key l) : freshKey ⟨k, i, l, m⟩ key = some none := by
  cases key with
  | none => rfl
  | some p =>
    obtain ⟨hreq, hline⟩ := h p rfl
    rw [freshKey, if_pos (by simp [hline]), hreq]
    rfl

theorem skipToToken_here (hk : Opens k) (fuel : Nat) :
    skipToToken (fuel + 1) (spot size done columns allowed key ⟨k, i, l, m⟩)
      = spot size done columns allowed key ⟨k, i, l, m⟩ :=
  skipToToken_spaces (j := 0) hk fuel

/-- At a token whose line and place are not too late for the possible key nothing changes. -/
theorem skip_spot (hk : Opens k) (hkey : freshKey ⟨k, i, l, m⟩ key = some key) :
    ((spot size done columns allowed key ⟨k, i, l, m⟩).skipToToken
        ((spot size done columns allowed key ⟨k, i, l, m⟩).size + 1)).dropStaleKeys
      = some (spot size done columns allowed key ⟨k, i, l, m⟩) := by
  change (skipToToken (size + 1) _).dropStaleKeys = _
  rw [skipToToken_here hk, dropStaleKeys_spot, hkey]
  rfl

theorem run_nil (fuel : Nat) :
    (spot size done columns allowed none ⟨[], i, l, m⟩).run (fuel + 1)
      = (((spot size done columns allowed none ⟨[], i, l, m⟩).closeTo none).dropKey).bind
          (some ·.tokens.reverse) := by
  rw [run, skip_spot (k := []) (stops_nil _) rfl]
  rfl

theorem run_cons {x : Char} (hk : Opens (x :: k)) (hkey : freshKey ⟨x :: k, i, l, m⟩ key = some key)
    (fuel : Nat) :
    (spot size done columns allowed key ⟨x :: k, i, l, m⟩).run (fuel + 1)
      = (((spot size done columns allowed key ⟨x :: k, i, l, m⟩).closeTo (some m)).scanToken x).bind
          (run fuel) := by
  rw [run, skip_spot hk hkey]
  rfl

theorem Reads.spaces (hk : Opens k)
    (h : (spot size done columns allowed key ⟨k, i + j, l, m + j⟩).Reads ts) :
    (spot size done columns allowed key ⟨Yaml.spaces j ++ k, i, l, m⟩).Reads ts := by
  refine h.skip ?_ ?_ rfl
  · exact congrArg _ ((skipToToken_spaces hk size).trans (skipToToken_here hk size).symm)
  · change k.length ≤ (Yaml.spaces j ++ k).length
    rw [List.length_append]
    omega

/-- A key that began on an earlier line makes no difference. -/
theorem Reads.forget (hk : Opens k) (hkey : Forgotten key l)
    (h : (spot size done columns allowed none ⟨k, i, l, m⟩).Reads ts) :
    (spot size done columns allowed key ⟨k, i, l, m⟩).Reads ts := by
  refine h.skip ?_ le_rfl rfl
  change (skipToToken (size + 1) _).dropStaleKeys = (skipToToken (size + 1) _).dropStaleKeys
  rw [skipToToken_here hk, skipToToken_here hk, dropStaleKeys_spot, dropStaleKeys_spot,
    freshKey_of_forgotten hkey]
  rfl

theorem Reads.newline (hk : Opens k) (hkey : Forgotten key (l + 1))
    (h : ReadsAt size done columns k j ts) :
    (spot size done columns allowed key ⟨'\n' :: (Yaml.spaces j ++ k), i, l, m⟩).Reads ts := by
  refine .of_size fun hsize ↦ ((h (i + 1 + j) (l + 1)).forget hk hkey).skip ?_ ?_ rfl
  · change ('\n' :: (Yaml.spaces j ++ k)).length ≤ size at hsize
    rw [List.length_cons] at hsize
    obtain ⟨n, rfl⟩ : ∃ n, size = n + 1 := ⟨size - 1, by omega⟩
    exact congrArg _ ((skipToToken_newline hk n).trans (skipToToken_here hk (n + 1)).symm)
  · change k.length ≤ ('\n' :: (Yaml.spaces j ++ k)).length
    rw [List.length_cons, List.length_append]
    omega

/-! ## Indentation -/

/-- A block collection at column `m` is open, after it has been opened with the tokens `start` if it
was not before. -/
inductive Opening (m : Nat) (t : Token) : List Nat → List Nat → List Token → Prop where
  | already (columns : List Nat) : Opening m t (m :: columns) (m :: columns) []
  | here (columns : List Nat) (h : columns.head?.all (· < m) = true) :
    Opening m t columns (m :: columns) [t]

variable {before after : List Nat} {start : List Token} {t : Token}

theorem opensAt_spot {c : Cursor} :
    (spot size done columns allowed key c).opensAt m = columns.head?.all (· < m) := rfl

theorem Opening.head_le (h : Opening m t before after start) :
    before.head?.all (· ≤ m) = true := by
  cases h with
  | already columns => simp
  | here columns h =>
    cases before with
    | nil => rfl
    | cons a columns =>
      have hlt : a < m := by simpa using h
      simpa using hlt.le

theorem openAt_spot {c : Cursor} (h : Opening m t before after start) :
    (spot size done before allowed key c).openAt m t
      = spot size (done ++ start) after allowed key c := by
  rw [openAt, opensAt_spot]
  cases h with
  | already columns => simp
  | here columns h => simp [h, spot, push]

/-- Nothing closes at a column where or to the left of which the innermost collection began. -/
theorem closeTo_spot {c : Cursor} (h : columns.head?.all (· ≤ m) = true) :
    (spot size done columns allowed key c).closeTo (some m)
      = spot size done columns allowed key c := by
  cases columns with
  | nil => rfl
  | cons a columns =>
    have ha : a ≤ m := by simpa using h
    simp [closeTo, spot, inFlow, show ¬m < a by omega]

theorem ReadsAt.atEnd (m : Nat) : ReadsAt size done [] [] m done := by
  intro i l hsize fuel hfuel
  change 0 < fuel at hfuel
  obtain ⟨fuel, rfl⟩ : ∃ f, fuel = f + 1 := ⟨fuel - 1, by omega⟩
  rw [run_nil]
  change some done.reverse.reverse = some done
  rw [List.reverse_reverse]

theorem Reads.token {x : Char} (hk : Opens (x :: k))
    (hkey : freshKey ⟨x :: k, i, l, m⟩ key = some key)
    (hcolumns : columns.head?.all (· ≤ m) = true)
    (hscan : (spot size done columns allowed key ⟨x :: k, i, l, m⟩).scanToken x = some s)
    (hlen : s.cursor.rest.length ≤ k.length) (hsize : s.size = size) (h : s.Reads ts) :
    (spot size done columns allowed key ⟨x :: k, i, l, m⟩).Reads ts := by
  intro hs fuel hfuel
  change (x :: k).length ≤ size at hs
  change (x :: k).length < fuel at hfuel
  rw [List.length_cons] at hs hfuel
  obtain ⟨fuel, rfl⟩ : ∃ f, fuel = f + 1 := ⟨fuel - 1, by omega⟩
  rw [run_cons hk hkey, closeTo_spot hcolumns, hscan, Option.bind_some]
  exact h (by omega) fuel (by omega)

/-- A collection closes before a token that stands further left, and at the end. -/
theorem ReadsAt.close {a : Nat} (hk : Opens k) (ha : k = [] ∨ m < a)
    (h : ReadsAt size (done ++ [.blockEnd]) columns k m ts) :
    ReadsAt size done (a :: columns) k m ts := by
  intro i l hsize fuel hfuel
  have hclose : ∀ column : Option Nat, column.all (· < a) = true →
      (spot size done (a :: columns) true none ⟨k, i, l, m⟩).closeTo column
        = (spot size (done ++ [.blockEnd]) columns true none ⟨k, i, l, m⟩).closeTo column := by
    intro column hcolumn
    simp [closeTo, spot, inFlow, hcolumn, List.replicate_succ', Nat.add_assoc, Nat.add_comm 1]
  have hrun := h i l hsize fuel hfuel
  obtain ⟨fuel, rfl⟩ : ∃ f, fuel = f + 1 := ⟨fuel - 1, by omega⟩
  cases k with
  | nil =>
    rw [run_nil] at hrun ⊢
    rw [hclose none rfl]
    exact hrun
  | cons x k =>
    have hlt : m < a := ha.resolve_left (List.cons_ne_nil x k)
    rw [run_cons hk rfl] at hrun ⊢
    rw [hclose (some m) (by simpa using hlt)]
    exact hrun

/-! ## Tokens of one character -/

theorem push_spot {c : Cursor} :
    (spot size done columns allowed key c).push t
      = spot size (done ++ [t]) columns allowed key c := by
  simp [push, spot]

theorem pushMark_spot {x : Char} :
    (spot size done columns allowed key ⟨x :: k, i, l, m⟩).pushMark t
      = spot size (done ++ [t]) columns allowed key ⟨k, i + 1, l, m + 1⟩ := by
  simp [pushMark, push, spot]

theorem scanToken_dash (h : Opening m .blockSeqStart before after start)
    (hk : atSpacing k = true) :
    (spot size done before true none ⟨'-' :: k, i, l, m⟩).scanToken '-'
      = some (spot size (done ++ start ++ [.blockEntry]) after true none ⟨k, i + 1, l, m + 1⟩) := by
  have hscan : (spot size done before true none ⟨'-' :: k, i, l, m⟩).scanToken '-'
      = (spot size done before true none ⟨'-' :: k, i, l, m⟩).scanBlockEntry := by
    simp [scanToken, spot, Cursor.atDocumentMark_of_atSpacing hk, Cursor.spacingAt, hk]
  have hopen : (spot size done before true none ⟨'-' :: k, i, l, m⟩).openAt m .blockSeqStart
      = spot size (done ++ start) after true none ⟨'-' :: k, i, l, m⟩ := openAt_spot h
  calc (spot size done before true none ⟨'-' :: k, i, l, m⟩).scanToken '-'
      = ((spot size done before true none ⟨'-' :: k, i, l, m⟩).openAt m .blockSeqStart).dropKey.bind
          fun s ↦ some { s.pushMark .blockEntry with keyAllowed := true } := hscan
    _ = some { (spot size (done ++ start) after true none ⟨'-' :: k, i, l, m⟩).pushMark .blockEntry
          with keyAllowed := true } := by
        rw [hopen]
        rfl
    _ = _ := by
        rw [pushMark_spot]
        rfl

theorem scanToken_question (h : Opening m .blockMapStart before after start)
    (hk : atSpacing k = true) :
    (spot size done before true none ⟨'?' :: k, i, l, m⟩).scanToken '?'
      = some (spot size (done ++ start ++ [.key]) after true none ⟨k, i + 1, l, m + 1⟩) := by
  have hscan : (spot size done before true none ⟨'?' :: k, i, l, m⟩).scanToken '?'
      = (spot size done before true none ⟨'?' :: k, i, l, m⟩).scanKey := by
    simp [scanToken, spot, Cursor.atDocumentMark_of_atSpacing hk, Cursor.spacingAt, hk]
  have hopen : (spot size done before true none ⟨'?' :: k, i, l, m⟩).openAt m .blockMapStart
      = spot size (done ++ start) after true none ⟨'?' :: k, i, l, m⟩ := openAt_spot h
  calc (spot size done before true none ⟨'?' :: k, i, l, m⟩).scanToken '?'
      = ((spot size done before true none ⟨'?' :: k, i, l, m⟩).openAt m .blockMapStart).dropKey.bind
          fun s ↦ some { s.pushMark .key with keyAllowed := !s.inFlow } := hscan
    _ = some { (spot size (done ++ start) after true none ⟨'?' :: k, i, l, m⟩).pushMark .key
          with keyAllowed := true } := by
        rw [hopen]
        rfl
    _ = _ := by
        rw [pushMark_spot]
        rfl

theorem scanToken_colon (hk : atSpacing k = true) :
    (spot size done (m :: columns) true none ⟨':' :: k, i, l, m⟩).scanToken ':'
      = some (spot size (done ++ [.value]) (m :: columns) true none ⟨k, i + 1, l, m + 1⟩) := by
  have hscan : (spot size done (m :: columns) true none ⟨':' :: k, i, l, m⟩).scanToken ':'
      = (spot size done (m :: columns) true none ⟨':' :: k, i, l, m⟩).scanValue := by
    simp [scanToken, spot, Cursor.atDocumentMark_of_atSpacing hk, Cursor.spacingAt, hk]
  have hopen : (spot size done (m :: columns) true none ⟨':' :: k, i, l, m⟩).openAt m .blockMapStart
      = spot size (done ++ []) (m :: columns) true none ⟨':' :: k, i, l, m⟩ :=
    openAt_spot (.already columns)
  have hvalue : (spot size done (m :: columns) true none ⟨':' :: k, i, l, m⟩).scanValue
      = some { ((spot size done (m :: columns) true none ⟨':' :: k, i, l, m⟩).openAt m
          .blockMapStart).pushMark .value with
        keyAllowed := !((spot size done (m :: columns) true none ⟨':' :: k, i, l, m⟩).openAt m
          .blockMapStart).inFlow } := rfl
  rw [hscan, hvalue, hopen, pushMark_spot, List.append_nil]
  rfl

/-! ## Pieces -/

end Steps

/-- The scanner passes `xs`, which stands at the level of column `n`, from column `m` on with the
collections at the columns `before` open and those at `after` in the end, and finds the tokens
`new`. The argument `allowed` says whether a key may begin. -/
structure Passes (n m : Nat) (allowed : Bool) (before after : List Nat) (xs : List Char)
    (new : List Token) : Prop where
  /-- What comes after the piece, with the tokens of the piece, is all that matters. -/
  reads : ∀ {size j : Nat} {k : List Char} {done ts : List Token}, j ≤ n → Opens k →
    ReadsAt size (done ++ new) after k j ts →
      ∀ i l, (spot size done before allowed none ⟨xs ++ (spaces j ++ k), i, l, m⟩).Reads ts

namespace Passes

variable {n m p : Nat} {allowed : Bool} {a b c : List Nat} {xs ys : List Char}
  {new new' : List Token}

theorem append (h : Passes n m allowed a b xs new) (h' : Passes n n true b c ys new')
    (hys : ∀ k, Opens (ys ++ k)) :
    Passes n m allowed a c (xs ++ (spaces n ++ ys)) (new ++ new') := by
  constructor
  intro size j k done ts hj hk hreads i l
  rw [List.append_assoc, List.append_assoc]
  refine h.reads le_rfl (hys _) (fun i l ↦ h'.reads hj hk ?_ i l) i l
  rwa [List.append_assoc]

/-- A collection further right closes after its piece. -/
theorem close {column : Nat} (h : Passes p m allowed a (column :: b) xs new) (hp : n ≤ p)
    (hcolumn : n < column) : Passes n m allowed a b xs (new ++ [.blockEnd]) := by
  constructor
  intro size j k done ts hj hk hreads i l
  refine h.reads (hj.trans hp) hk (ReadsAt.close hk (.inr (by omega)) ?_) i l
  rwa [List.append_assoc]

theorem space (h : Passes n (m + 1) allowed a b xs new) (hxs : ∀ k, Opens (xs ++ k)) :
    Passes n m allowed a b (' ' :: xs) new := by
  constructor
  intro size j k done ts hj hk hreads i l
  exact Reads.spaces (j := 1) (hxs _) (h.reads hj hk hreads (i + 1) l)

theorem newline (h : Passes n p true a b xs new) (hxs : ∀ k, Opens (xs ++ k)) :
    Passes n m allowed a b ('\n' :: (spaces p ++ xs)) new := by
  constructor
  intro size j k done ts hj hk hreads i l
  rw [List.cons_append, List.append_assoc]
  exact Reads.newline (hxs _) (fun _ h ↦ nomatch h) fun i l ↦ h.reads hj hk hreads i l

theorem dash {start : List Token} (hopening : Opening n .blockSeqStart a b start)
    (h : Passes n (n + 1) true b c xs new) (hxs : ∀ k, atSpacing (xs ++ k) = true) :
    Passes n n true a c ('-' :: xs) (start ++ .blockEntry :: new) := by
  constructor
  intro size j k done ts hj hk hreads i l
  refine Reads.token (opens_cons.2 (by decide)) rfl hopening.head_le
    (scanToken_dash hopening (hxs _)) le_rfl rfl (h.reads hj hk ?_ (i + 1) l)
  rwa [List.append_assoc, List.append_assoc, List.singleton_append]

theorem question {start : List Token} (hopening : Opening n .blockMapStart a b start)
    (h : Passes n (n + 1) true b c xs new) (hxs : ∀ k, atSpacing (xs ++ k) = true) :
    Passes n n true a c ('?' :: xs) (start ++ .key :: new) := by
  constructor
  intro size j k done ts hj hk hreads i l
  refine Reads.token (opens_cons.2 (by decide)) rfl hopening.head_le
    (scanToken_question hopening (hxs _)) le_rfl rfl (h.reads hj hk ?_ (i + 1) l)
  rwa [List.append_assoc, List.append_assoc, List.singleton_append]

theorem colon (h : Passes n (n + 1) true (n :: a) b xs new)
    (hxs : ∀ k, atSpacing (xs ++ k) = true) :
    Passes n n true (n :: a) b (':' :: xs) (.value :: new) := by
  constructor
  intro size j k done ts hj hk hreads i l
  refine Reads.token (opens_cons.2 (by decide)) rfl (by simp) (scanToken_colon (hxs _)) le_rfl rfl
    (h.reads hj hk ?_ (i + 1) l)
  rwa [List.append_assoc, List.singleton_append]

end Passes

end Scanner

end AlertOperator.Yaml
