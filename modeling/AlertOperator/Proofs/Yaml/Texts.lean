import AlertOperator.Proofs.Yaml.Scanning

/-!
# Scanning texts

A written text is one token, in whichever style it is written. As a value it ends its line. As a key
it has a colon after it on its line, and only the colon makes the scanner put the tokens for the key
in front of it.
-/

namespace AlertOperator.Yaml

namespace Scanner

variable {size i j l m n : Nat} {done ts : List Token} {columns : List Nat} {allowed : Bool}
  {k : List Char}

/-- The place that is remembered for a key when a text begins. -/
def begun (done : List Token) (columns : List Nat) (allowed : Bool) (c : Cursor) :
    Option KeyPlace :=
  if allowed then some ⟨columns.head? == some c.column, done.length, c.index, c.line, c.column⟩
  else none

theorem saveKey_spot (c : Cursor) :
    (spot size done columns allowed none c).saveKey
      = some (spot size done columns allowed (begun done columns allowed c) c) := by
  cases allowed <;> rfl

/-- A text to the right of the column of its collection can only be forgotten as a key. -/
theorem forgotten_begun {l' : Nat} (hm : n < m) (hl : l < l') :
    Forgotten (begun done (n :: columns) allowed ⟨k, i, l, m⟩) l' := by
  intro p hp
  cases allowed with
  | false => exact nomatch hp
  | true =>
    obtain rfl := Option.some.inj hp
    refine ⟨?_, hl⟩
    change (some n == some m) = false
    rw [beq_eq_false_iff_ne]
    intro h
    have := Option.some.inj h
    omega

/-! ## Where a text begins -/

theorem isMark_eq (c : Char) :
    isMark c = (c == '-' || c == '?' || c == ':' || isIndicator c) := by
  rw [Bool.eq_iff_iff]
  simp only [isMark, isIndicator, List.contains_iff_mem, Bool.or_eq_true, beq_iff_eq]
  simp
  grind

theorem scanToken_plain {c : Char} {s tail : List Char} {key : Option KeyPlace}
    (h : plainAllowed (c :: s) = true)
    (hmark : Cursor.atDocumentMark ⟨c :: (s ++ tail), i, l, m⟩ = false) :
    (spot size done columns allowed key ⟨c :: (s ++ tail), i, l, m⟩).scanToken c
      = (spot size done columns allowed key ⟨c :: (s ++ tail), i, l, m⟩).scanPlain := by
  obtain ⟨hindicator, hafter⟩ := not_isIndicator_of_plainAllowed h
  have hne : ∀ x, isIndicator x = true → (c == x) = false := by
    intro x hx
    rw [beq_eq_false_iff_ne]
    rintro rfl
    rw [hx] at hindicator
    exact absurd hindicator (by decide)
  have hspacing : isSpacing c = false := by
    have := (PlainFrom.of_plainAllowed h (List.cons_ne_nil c s)).stops (k := tail)
      (List.cons_ne_nil c s)
    exact this
  -- a question mark, colon or hyphen at the beginning has another character right after it
  have hsecond : (c == '?' || c == ':' || c == '-') = true → atSpacing (s ++ tail) = false := by
    intro hc
    rw [hc, Bool.true_and] at hafter
    cases s with
    | nil => exact absurd hafter (by decide)
    | cons d s => exact hafter
  have hblank : atSpacing (s ++ tail) = false → ((s ++ tail)[0]?).any isBlank = false := by
    intro hnot
    cases hst : s ++ tail with
    | nil => rfl
    | cons d u =>
      rw [hst] at hnot
      exact (Bool.or_eq_false_iff.1 (show isSpacing d = false from hnot)).1
  by_cases hc : (c == '?' || c == ':' || c == '-') = true
  · have hnot := hsecond hc
    rw [Bool.or_eq_true, Bool.or_eq_true] at hc
    rcases hc with (hc | hc) | hc
    all_goals
      rw [beq_iff_eq] at hc
      subst hc
      simp [scanToken, spot, hmark, inFlow, Cursor.spacingAt, Cursor.at?, hnot, hblank hnot]
  · rw [Bool.not_eq_true, Bool.or_eq_false_iff, Bool.or_eq_false_iff] at hc
    obtain ⟨⟨hquestion, hcolon⟩, hhyphen⟩ := hc
    simp only [scanToken, spot, hmark, inFlow, isMark_eq, hindicator, hquestion, hcolon, hhyphen,
      hspacing, hne '%' rfl, hne '[' rfl, hne ']' rfl, hne '\x7b' rfl, hne '\x7d' rfl, hne ',' rfl,
      hne '*' rfl, hne '&' rfl, hne '!' rfl, hne '|' rfl, hne '>' rfl, hne '\'' rfl,
      hne '\x22' rfl]
    simp

theorem dropKey_spot (c : Cursor) :
    (spot size done columns allowed none c).dropKey
      = some (spot size done columns allowed none c) := rfl

theorem scanPlain_spot (done : List Token) (columns : List Nat) (allowed : Bool) {c : Cursor}
    {p : PlainScalar}
    (h : readPlain size false (columns.head?.elim 0 (· + 1)) c = some p) :
    (spot size done columns allowed none c).scanPlain
      = some (spot size (done ++ [.scalar .plain (String.ofList p.text)]) columns p.brokenOff
          (begun done columns allowed c) p.after) := by
  rw [scanPlain, saveKey_spot]
  simp only [Option.bind_eq_bind, Option.bind_some]
  cases columns
  all_goals
    refine (congrArg (Option.bind · _) h).trans ?_
    rw [Option.bind_some, push_spot]
    rfl

theorem scanQuoted_spot (done : List Token) (columns : List Nat) (allowed : Bool) {single : Bool}
    {c c' : Cursor} {s : List Char}
    (h : readQuoted size single c = some (s, c')) :
    (spot size done columns allowed none c).scanQuoted single
      = some (spot size (done ++ [.scalar (if single then .singleQuoted else .doubleQuoted)
          (String.ofList s)]) columns false (begun done columns allowed c) c') := by
  rw [scanQuoted, saveKey_spot]
  simp only [Option.bind_eq_bind, Option.bind_some]
  change (readQuoted size single c).bind _ = _
  rw [h, Option.bind_some]
  simp only [push_spot]
  rfl

theorem scanToken_singleQuote {key : Option KeyPlace} :
    (spot size done columns allowed key ⟨'\'' :: k, i, l, m⟩).scanToken '\''
      = (spot size done columns allowed key ⟨'\'' :: k, i, l, m⟩).scanQuoted true := by
  simp [scanToken, spot, Cursor.atDocumentMark_of_ne]

theorem scanToken_doubleQuote {key : Option KeyPlace} :
    (spot size done columns allowed key ⟨'\x22' :: k, i, l, m⟩).scanToken '\x22'
      = (spot size done columns allowed key ⟨'\x22' :: k, i, l, m⟩).scanQuoted false := by
  simp [scanToken, spot, Cursor.atDocumentMark_of_ne]

theorem scanToken_bar {key : Option KeyPlace} :
    (spot size done columns allowed key ⟨'|' :: k, i, l, m⟩).scanToken '|'
      = (spot size done columns allowed key ⟨'|' :: k, i, l, m⟩).scanBlock false := by
  simp [scanToken, spot, inFlow, Cursor.atDocumentMark_of_ne]

/-! ## Values -/

theorem endLine_scalar {text : String} (h : style text.toList ≠ .literal) :
    endLine (scalar n text) = scalar n text ++ ['\n'] := by
  have hcarries := carries_style text.toList
  have hlast : (scalar n text).getLast?.any isBreak = false := by
    rw [scalar]
    cases hs : style text.toList with
    | plain =>
      rw [hs] at hcarries
      have hline := (plainAllowed_iff.1 hcarries.1).2.1
      rw [isMultiline, List.any_eq_false] at hline
      dsimp only
      rw [List.getLast?_eq_some_getLast hcarries.2, Option.any_some]
      simpa using hline _ (List.getLast_mem hcarries.2)
    | singleQuoted =>
      dsimp only
      rw [singleQuoted, ← List.cons_append, List.getLast?_append]
      rfl
    | doubleQuoted =>
      dsimp only
      rw [doubleQuoted, ← List.cons_append, List.getLast?_append]
      rfl
    | literal => exact absurd hs h
    | folded =>
      rw [hs] at hcarries
      exact hcarries.elim
  rw [endLine, hlast]
  rfl

section Values

variable {s : List Char} (columns : List Nat) (allowed : Bool) (hm : n < m)
include hm

theorem passes_plain (h : plainAllowed s = true) (hne : s ≠ []) :
    Passes n m allowed (n :: columns) (n :: columns) (s ++ ['\n'])
      [.scalar .plain (String.ofList s)] := by
  constructor
  intro size j k done ts hj hk hreads i l
  rw [List.append_assoc, List.singleton_append]
  refine .of_size fun hsize ↦ ?_
  change (s ++ '\n' :: (spaces j ++ k)).length ≤ size at hsize
  simp only [List.length_append, List.length_cons, spaces, List.length_replicate] at hsize
  have hmark : Cursor.atDocumentMark ⟨s ++ '\n' :: (spaces j ++ k), i, l, m⟩ = false :=
    Cursor.atDocumentMark_of_pos (by omega)
  have hread := readPlain_line h hne hk.stops (show _ < size by omega)
    (show j < n + 1 by omega) (show n + 1 ≤ m + 1 by omega) hmark
  have hscan := scanPlain_spot done (n :: columns) allowed hread
  have hopens := opens_of_plainAllowed h hne ('\n' :: (spaces j ++ k))
  obtain ⟨c, s, rfl⟩ := List.exists_cons_of_ne_nil hne
  refine Reads.token hopens rfl (by simpa using hm.le) ((scanToken_plain h hmark).trans hscan) ?_
    rfl ((hreads _ _).forget hk (forgotten_begun hm (Nat.lt_succ_self l)))
  simp [spot]
  omega

theorem passes_singleQuoted (h : SingleFrom s) :
    Passes n m allowed (n :: columns) (n :: columns) (singleQuoted (n + 2) s ++ ['\n'])
      [.scalar .singleQuoted (String.ofList s)] := by
  constructor
  intro size j k done ts hj hk hreads i l
  rw [List.append_assoc, List.singleton_append]
  refine .of_size fun hsize ↦ ?_
  change (singleQuoted (n + 2) s ++ '\n' :: (spaces j ++ k)).length ≤ size at hsize
  simp only [List.length_append, List.length_cons] at hsize
  obtain ⟨l', m', hread, hl, -⟩ := readQuoted_singleQuoted (i := i) (l := l) (m := m)
    (k := '\n' :: (spaces j ++ k)) h (show _ ≤ size by omega) (show 0 < n + 2 by omega) (by simp)
  have hscan := scanQuoted_spot done (n :: columns) allowed hread
  rw [singleQuoted_eq, List.cons_append] at hscan ⊢
  refine Reads.token (opens_cons.2 (by decide)) rfl (by simpa using hm.le)
    (scanToken_singleQuote.trans hscan) ?_ rfl
    (Reads.newline hk (forgotten_begun hm (Nat.lt_succ_of_le hl)) hreads)
  simp [spot]

theorem passes_doubleQuoted :
    Passes n m allowed (n :: columns) (n :: columns) (doubleQuoted s ++ ['\n'])
      [.scalar .doubleQuoted (String.ofList s)] := by
  constructor
  intro size j k done ts hj hk hreads i l
  rw [List.append_assoc, List.singleton_append]
  refine .of_size fun hsize ↦ ?_
  change (doubleQuoted s ++ '\n' :: (spaces j ++ k)).length ≤ size at hsize
  have hlen := length_le_flatMap_doubleQuotedChar s
  simp only [doubleQuoted, List.length_append, List.length_cons] at hsize
  have hread := readQuoted_doubleQuoted (i := i) (l := l) (m := m)
    (k := '\n' :: (spaces j ++ k)) (show s.length ≤ size by omega)
  have hscan := scanQuoted_spot done (n :: columns) allowed hread
  rw [doubleQuoted, List.cons_append] at hscan ⊢
  refine Reads.token (opens_cons.2 (by decide)) rfl (by simpa using hm.le)
    (scanToken_doubleQuote.trans hscan) ?_ rfl
    (Reads.newline hk (forgotten_begun hm (Nat.lt_succ_self l)) hreads)
  simp [spot]
  omega

theorem passes_literalBlock (hp : ∀ c ∈ s, isPrintable c = true) (hne : s ≠ []) :
    Passes n m allowed (n :: columns) (n :: columns) (endLine (literalBlock (n + 2) s))
      [.scalar .literal (String.ofList s)] := by
  constructor
  intro size j k done ts hj hk hreads i l
  refine .of_size fun hsize ↦ ?_
  change (endLine (literalBlock (n + 2) s) ++ (spaces j ++ k)).length ≤ size at hsize
  simp only [List.length_append, spaces, List.length_replicate] at hsize
  obtain ⟨l', hread, hl⟩ := readBlock_literalBlock (i := i) (l := l) (m := m) hp hne hk.stops
    (show j < n + 2 by omega) (show _ ≤ size by omega)
  have hscan : (spot size done (n :: columns) allowed none
        ⟨endLine (literalBlock (n + 2) s) ++ (spaces j ++ k), i, l, m⟩).scanBlock false
      = some (spot size (done ++ [.scalar .literal (String.ofList s)]) (n :: columns) true none
          ⟨k, i + (endLine (literalBlock (n + 2) s)).length + j, l', j⟩) := by
    rw [scanBlock, dropKey_spot]
    simp only [Option.bind_eq_bind, Option.bind_some]
    change (readBlock size false (some n) _).bind _ = _
    rw [cursor_spot, hread, Option.bind_some]
    simp only [push_spot]
    rfl
  rw [endLine_literalBlock hne, List.cons_append] at hscan ⊢
  refine Reads.token (opens_cons.2 (by decide)) rfl (by simpa using hm.le)
    (scanToken_bar.trans hscan) ?_ rfl (hreads _ _)
  simp [spot]
  omega

theorem passes_text (text : String) :
    Passes n m allowed (n :: columns) (n :: columns) (endLine (scalar (n + 2) text))
      [.scalar (style text.toList) text] := by
  have hcarries := carries_style text.toList
  by_cases hliteral : style text.toList = .literal
  · rw [hliteral] at hcarries ⊢
    have h := passes_literalBlock columns allowed hm hcarries.1
      (List.ne_nil_of_mem hcarries.2)
    rw [String.ofList_toList] at h
    rwa [scalar, hliteral]
  · rw [endLine_scalar hliteral, scalar]
    cases hs : style text.toList with
    | plain =>
      rw [hs] at hcarries
      have h := passes_plain columns allowed hm hcarries.1 hcarries.2
      rwa [String.ofList_toList] at h
    | singleQuoted =>
      rw [hs] at hcarries
      have h := passes_singleQuoted columns allowed hm hcarries
      rwa [String.ofList_toList] at h
    | doubleQuoted =>
      have h := passes_doubleQuoted columns allowed hm (s := text.toList)
      rwa [String.ofList_toList] at h
    | literal => exact absurd hs hliteral
    | folded =>
      rw [hs] at hcarries
      exact hcarries.elim

end Values

/-! ## Keys -/

theorem isPrefixOf_of_colon {p s : List Char} (hp : ':' ∉ p)
    (h : p.isPrefixOf (s ++ ':' :: k) = true) : p.isPrefixOf s = true := by
  rw [List.isPrefixOf_iff_prefix] at h ⊢
  by_cases hlen : p.length ≤ s.length
  · exact List.prefix_of_prefix_length_le h (List.prefix_append s _) hlen
  · have hcolon : s ++ [':'] <+: p := by
      refine List.prefix_of_prefix_length_le ⟨k, by simp⟩ h ?_
      rw [List.length_append, List.length_singleton]
      omega
    exact absurd (hcolon.subset (by simp)) hp

/-- A text that does not begin like a document mark makes none with the colon after it. -/
theorem atDocumentMark_of_opensOtherwise {s : List Char} (h : opensOtherwise s = false) :
    Cursor.atDocumentMark ⟨s ++ ':' :: k, i, l, m⟩ = false := by
  unfold opensOtherwise at h
  rw [Bool.or_eq_false_iff, Bool.or_eq_false_iff] at h
  have hhyphens : "---".toList.isPrefixOf (s ++ ':' :: k) = false := by
    rw [Bool.eq_false_iff]
    intro hp
    exact Bool.eq_false_iff.1 h.1.1 (isPrefixOf_of_colon (by decide) hp)
  have hdots : "...".toList.isPrefixOf (s ++ ':' :: k) = false := by
    rw [Bool.eq_false_iff]
    intro hp
    exact Bool.eq_false_iff.1 h.1.2 (isPrefixOf_of_colon (by decide) hp)
  rw [Cursor.atDocumentMark, hhyphens, hdots]
  simp

section Keys

variable {before after : List Nat} {start : List Token} {key : String}

/-- A key is read as a text, and its place is remembered. -/
theorem scanToken_key (done : List Token) (hkey : isSimpleKey key = true) (hk : atSpacing k = true)
    (hcolumns : columns.head?.all (· ≤ n) = true)
    (hsize : (scalar (n + 2) key ++ ':' :: k).length ≤ size) :
    ∃ c s, scalar (n + 2) key = c :: s ∧
      (spot size done columns true none ⟨c :: (s ++ ':' :: k), i, l, n⟩).scanToken c
        = some (spot size (done ++ [.scalar (style key.toList) key]) columns false
            (some ⟨columns.head? == some n, done.length, i, l, n⟩)
            ⟨':' :: k, i + (scalar (n + 2) key).length, l, n + (scalar (n + 2) key).length⟩) := by
  have hcarries := carries_style key.toList
  have hstyle := style_of_isSimpleKey hkey
  have hline : isMultiline key.toList = false := by
    rw [isSimpleKey, Bool.and_eq_true, Bool.not_eq_true'] at hkey
    exact hkey.1
  rw [scalar] at hsize ⊢
  cases hs : style key.toList with
  | plain =>
    rw [hs] at hcarries hsize
    dsimp only at hsize ⊢
    obtain ⟨hplain, hne⟩ := hcarries
    have hmark : Cursor.atDocumentMark ⟨key.toList ++ ':' :: k, i, l, n⟩ = false :=
      atDocumentMark_of_opensOtherwise (opensOtherwise_of_plainAllowed hplain)
    have hmargin : columns.head?.elim 0 (· + 1) ≤ n + 1 := by
      cases columns with
      | nil => exact Nat.zero_le _
      | cons a columns => simpa using hcolumns
    rw [List.length_append] at hsize
    have hread := readPlain_key hplain hne hk (show key.toList.length ≤ size by omega) hmargin hmark
    have hscan := scanPlain_spot done columns true hread
    obtain ⟨c, s, htext⟩ := List.exists_cons_of_ne_nil hne
    refine ⟨c, s, htext, ?_⟩
    rw [htext] at hplain hmark hscan ⊢
    rw [scanToken_plain hplain hmark]
    refine hscan.trans ?_
    rw [← htext, String.ofList_toList]
    rfl
  | singleQuoted =>
    rw [hs] at hcarries hsize
    dsimp only at hsize ⊢
    rw [List.length_append] at hsize
    obtain ⟨l', m', hread, -, hstay⟩ := readQuoted_singleQuoted (i := i) (l := l) (m := n)
      (k := ':' :: k) hcarries (show _ ≤ size by omega) (show 0 < n + 2 by omega) (by simp)
    -- a key has one line, so its closing quote is on it
    obtain ⟨rfl, rfl⟩ := hstay hline
    have hscan := scanQuoted_spot done columns true hread
    refine ⟨'\'', singleQuotedRest (n + 2) false key.toList, singleQuoted_eq _ _, ?_⟩
    rw [singleQuoted_eq] at hscan ⊢
    refine scanToken_singleQuote.trans (hscan.trans ?_)
    rw [String.ofList_toList]
    rfl
  | doubleQuoted =>
    rw [hs] at hsize
    dsimp only at hsize ⊢
    have hlen := length_le_flatMap_doubleQuotedChar key.toList
    simp only [doubleQuoted, List.length_append, List.length_cons] at hsize
    have hread := readQuoted_doubleQuoted (i := i) (l := l) (m := n) (k := ':' :: k)
      (show key.toList.length ≤ size by omega)
    have hscan := scanQuoted_spot done columns true hread
    refine ⟨'\x22', key.toList.flatMap doubleQuotedChar ++ ['\x22'], rfl, ?_⟩
    refine scanToken_doubleQuote.trans (hscan.trans ?_)
    rw [String.ofList_toList]
    rfl
  -- no text with more than one line is a key
  | literal => exact absurd hs hstyle
  | folded =>
    rw [hs] at hcarries
    exact hcarries.elim

/-- The colon puts the tokens for the key in front of it. -/
theorem scanToken_value (h : Opening n .blockMapStart before after start)
    (hk : atSpacing k = true) (t : Token) (required : Bool) (i' : Nat) :
    (spot size (done ++ [t]) before false (some ⟨required, done.length, i, l, n⟩)
        ⟨':' :: k, i', l, m⟩).scanToken ':'
      = some (spot size (done ++ (start ++ [.key, t, .value])) after false none
          ⟨k, i' + 1, l, m + 1⟩) := by
  have hscan : (spot size (done ++ [t]) before false (some ⟨required, done.length, i, l, n⟩)
        ⟨':' :: k, i', l, m⟩).scanToken ':'
      = (spot size (done ++ [t]) before false (some ⟨required, done.length, i, l, n⟩)
          ⟨':' :: k, i', l, m⟩).scanValue := by
    simp [scanToken, spot, Cursor.atDocumentMark_of_ne, Cursor.spacingAt, hk]
  rw [hscan]
  cases h with
  | already columns =>
    simp [scanValue, spot, currentKey, opensAt, inFlow, column?, insert, setKey, pushMark, push]
  | here columns h =>
    simp [scanValue, spot, currentKey, opensAt, inFlow, column?, insert, setKey, pushMark, push, h]

theorem passes_key {after' : List Nat} {r : List Char} {new : List Token}
    (hkey : isSimpleKey key = true) (h : Opening n .blockMapStart before after start)
    (hr : ∀ m', n < m' → Passes n m' false after after' r new)
    (hk : ∀ k, atSpacing (r ++ k) = true) :
    Passes n n true before after' (scalar (n + 2) key ++ ':' :: r)
      (start ++ .key :: .scalar (style key.toList) key :: .value :: new) := by
  constructor
  intro size j k done ts hj hkopens hreads i l
  rw [List.append_assoc, List.cons_append]
  refine .of_size fun hsize ↦ ?_
  have hshort := length_scalar_of_isSimpleKey (n + 2) hkey
  have hhead := h.head_le
  obtain ⟨c, s, hwritten, hscan⟩ := scanToken_key (i := i) (l := l) done hkey
    (hk (spaces j ++ k)) hhead hsize
  have hopens := opens_scalar (n + 2) key (':' :: (r ++ (spaces j ++ k)))
  have hcolumns : before.head?.all (· ≤ n + (scalar (n + 2) key).length) = true := by
    cases before with
    | nil => rfl
    | cons a columns =>
      have hle : a ≤ n := by simpa using hhead
      simpa using hle.trans (Nat.le_add_right n _)
  have hvalue : (spot size (done ++ [.scalar (style key.toList) key]) before false
      (some ⟨before.head? == some n, done.length, i, l, n⟩)
      ⟨':' :: (r ++ (spaces j ++ k)), i + (scalar (n + 2) key).length, l,
        n + (scalar (n + 2) key).length⟩).Reads ts := by
    refine Reads.token (opens_cons.2 (by decide)) ?_ hcolumns
      (scanToken_value h (hk _) _ _ _) le_rfl rfl
      ((hr _ (by omega)).reads hj hkopens ?_ _ l)
    · rw [freshKey, if_neg]
      simp only [Bool.or_eq_true, decide_eq_true_eq]
      omega
    · simpa using hreads
  rw [hwritten] at hopens ⊢
  refine Reads.token hopens rfl hhead hscan ?_ rfl hvalue
  simp

end Keys

/-! ## Empty collections -/

/-- The scanner inside brackets in which nothing stands. -/
def inside (size : Nat) (done : List Token) (columns : List Nat) (key : Option KeyPlace)
    (c : Cursor) : Scanner :=
  { spot size done columns true key c with flowKeys := [none] }

section Brackets

variable {key : Option KeyPlace} {x y : Char} {t u : Token}

theorem skip_inside (size : Nat) (done : List Token) (columns : List Nat)
    (hx : x = ']' ∨ x = '\x7d') (hkey : freshKey ⟨x :: k, i, l, m⟩ key = some key) :
    (skipToToken (size + 1) (inside size done columns key ⟨x :: k, i, l, m⟩)).dropStaleKeys
      = some (inside size done columns key ⟨x :: k, i, l, m⟩) := by
  have hskip : skipToToken (size + 1) (inside size done columns key ⟨x :: k, i, l, m⟩)
      = inside size done columns key ⟨x :: k, i, l, m⟩ := by
    have hbracket : isBreak ']' = false ∧ isBreak '\x7d' = false := by decide
    rw [skipToToken]
    rcases hx with rfl | rfl <;>
      simp [inside, spot, Cursor.span_of_stops, Cursor.next, Cursor.head?, hbracket]
  rw [hskip]
  simp only [dropStaleKeys, inside, spot]
  rw [hkey]
  rfl

theorem reads_inside (hx : x = ']' ∧ t = .flowSeqEnd ∨ x = '\x7d' ∧ t = .flowMapEnd)
    (hkey : freshKey ⟨x :: k, i, l, m⟩ key = some key)
    (h : (spot size (done ++ [t]) columns false key ⟨k, i + 1, l, m + 1⟩).Reads ts) :
    (inside size done columns key ⟨x :: k, i, l, m⟩).Reads ts := by
  intro hsize fuel hfuel
  change (x :: k).length ≤ size at hsize
  change (x :: k).length < fuel at hfuel
  rw [List.length_cons] at hsize hfuel
  obtain ⟨fuel, rfl⟩ : ∃ f, fuel = f + 1 := ⟨fuel - 1, by omega⟩
  have hscan : ((inside size done columns key ⟨x :: k, i, l, m⟩).closeTo (some m)).scanToken x
      = some (spot size (done ++ [t]) columns false key ⟨k, i + 1, l, m + 1⟩) := by
    rcases hx with ⟨rfl, rfl⟩ | ⟨rfl, rfl⟩ <;>
      simp [closeTo, inside, spot, inFlow, scanToken, Cursor.atDocumentMark_of_ne, scanFlowEnd,
        dropKey, currentKey, setKey, pushMark, push]
  have hrest := h (show k.length ≤ size by omega) fuel (show k.length < fuel by omega)
  have hskip := skip_inside size done columns
    (hx.imp And.left And.left) hkey
  rw [run]
  change ((skipToToken (size + 1) _).dropStaleKeys).bind _ = _
  rw [hskip, Option.bind_some]
  change (((inside size done columns key ⟨x :: k, i, l, m⟩).closeTo (some m)).scanToken x).bind _
    = _
  rw [hscan]
  exact hrest

theorem passes_brackets (hm : n < m)
    (hx : x = '[' ∧ y = ']' ∧ t = .flowSeqStart ∧ u = .flowSeqEnd ∨
      x = '\x7b' ∧ y = '\x7d' ∧ t = .flowMapStart ∧ u = .flowMapEnd) :
    Passes n m allowed (n :: columns) (n :: columns) [x, y, '\n'] [t, u] := by
  constructor
  intro size j k done ts hj hk hreads i l
  have hscan : ∀ k, (spot size done (n :: columns) allowed none ⟨x :: k, i, l, m⟩).scanToken x
      = some (inside size (done ++ [t]) (n :: columns)
          (begun done (n :: columns) allowed ⟨x :: k, i, l, m⟩) ⟨k, i + 1, l, m + 1⟩) := by
    intro k
    have hstart : (spot size done (n :: columns) allowed none ⟨x :: k, i, l, m⟩).scanToken x
        = (spot size done (n :: columns) allowed none ⟨x :: k, i, l, m⟩).scanFlowStart t := by
      rcases hx with ⟨rfl, rfl, rfl, rfl⟩ | ⟨rfl, rfl, rfl, rfl⟩ <;>
        simp [scanToken, spot, Cursor.atDocumentMark_of_ne]
    rw [hstart, scanFlowStart, saveKey_spot]
    simp only [Option.bind_eq_bind, Option.bind_some, pushMark_spot]
    rfl
  have hopens : Opens (x :: y :: '\n' :: (spaces j ++ k)) := by
    rcases hx with ⟨rfl, -⟩ | ⟨rfl, -⟩ <;> exact opens_cons.2 (by decide)
  refine Reads.token hopens rfl (by simpa using hm.le) (hscan _) le_rfl rfl
    (reads_inside (t := u) ?_ ?_ (Reads.newline hk (forgotten_begun hm (Nat.lt_succ_self l)) ?_))
  · exact hx.imp (fun h ↦ ⟨h.2.1, h.2.2.2⟩) (fun h ↦ ⟨h.2.1, h.2.2.2⟩)
  · cases allowed with
    | false => rfl
    | true =>
      refine if_neg ?_
      simp only [Bool.or_eq_true, decide_eq_true_eq]
      omega
  · rwa [List.append_assoc]

end Brackets

end Scanner

end AlertOperator.Yaml
