import AlertOperator.Proofs.Yaml.Texts

/-!
# The tokens of a written document

A written value is scanned into the tokens that its shape calls for, whatever texts it holds. The
tokens are defined by recursion on the value and the layout is by the same recursion, so the proof
is one piece of layout at a time.

Only one thing in the tokens depends on the layout: the items of a sequence in a mapping stand at
the column of their key, where no collection opens, unless the key was announced by a question mark.
-/

namespace AlertOperator.Yaml

/-- The word for a truth value. -/
def flagText (b : Bool) : String := String.ofList (flagChars b)

mutual

/-- The tokens of a value; `aligned` says that the items of a sequence stand at the column of the
key. -/
def Tree.tokens (aligned : Bool) : Tree → List Token
  | .flag b => [.scalar .plain (flagText b)]
  | .text s => [.scalar (style s.toList) s]
  | .seq [] => [.flowSeqStart, .flowSeqEnd]
  | .seq (t :: ts) =>
    if aligned then Tree.itemTokens (t :: ts)
    else .blockSeqStart :: (Tree.itemTokens (t :: ts) ++ [.blockEnd])
  | .map [] => [.flowMapStart, .flowMapEnd]
  | .map (e :: es) => .blockMapStart :: (Tree.entryTokens (e :: es) ++ [.blockEnd])

/-- The tokens of the items of a sequence. -/
def Tree.itemTokens : List Tree → List Token
  | [] => []
  | t :: ts => .blockEntry :: (t.tokens false ++ Tree.itemTokens ts)

/-- The tokens of the entries of a mapping. -/
def Tree.entryTokens : List (String × Tree) → List Token
  | [] => []
  | (key, t) :: es =>
    .key :: .scalar (style key.toList) key :: .value ::
      (t.tokens (isSimpleKey key) ++ Tree.entryTokens es)

end

/-! ## How pieces begin -/

theorem opens_endLine_scalar (n : Nat) (text : String) (k : List Char) :
    Opens (endLine (scalar n text) ++ k) := by
  rw [endLine]
  split
  · exact opens_scalar n text k
  · rw [List.append_assoc]
    exact opens_scalar n text _

theorem atSpacing_afterKey (n : Nat) (t : Tree) (k : List Char) :
    atSpacing (t.afterKey n ++ k) = true := by
  rcases t with _ | _ | (_ | _) | (_ | _) <;> rfl

theorem atSpacing_afterDash (n : Nat) (t : Tree) (k : List Char) :
    atSpacing (t.afterDash n ++ k) = true := by
  rcases t with _ | _ | (_ | _) | (_ | _) <;> rfl

theorem opens_items (n : Nat) (t : Tree) (ts : List Tree) (k : List Char) :
    Opens (Tree.items n (t :: ts) ++ k) := by
  cases ts <;> exact opens_cons.2 (by decide)

theorem opens_entry (n : Nat) (e : String × Tree) (k : List Char) :
    Opens (Tree.entry n e ++ k) := by
  rw [Tree.entry]
  split
  · rw [List.append_assoc]
    exact opens_scalar (n + 2) e.1 _
  · exact opens_cons.2 (by decide)

theorem opens_entries (n : Nat) (e : String × Tree) (es : List (String × Tree)) (k : List Char) :
    Opens (Tree.entries n (e :: es) ++ k) := by
  cases es with
  | nil => exact opens_entry n e k
  | cons f es =>
    rw [Tree.entries, List.append_assoc, List.append_assoc]
    exact opens_entry n e _

/-! ## Values, items and entries -/

namespace Scanner

variable {n m : Nat} {columns before after : List Nat} {start : List Token} {allowed : Bool}

theorem passes_flag (hm : n < m) (b : Bool) :
    Passes n m allowed (n :: columns) (n :: columns) (flagChars b ++ ['\n'])
      [.scalar .plain (flagText b)] := by
  cases b <;> exact passes_plain _ _ hm (by decide) (by decide)

mutual

/-- What follows the colon of a key. -/
theorem passes_afterKey (n m : Nat) (columns : List Nat) (hm : n < m) : ∀ t : Tree,
    Passes n m false (n :: columns) (n :: columns) (t.afterKey n) (t.tokens true)
  | .flag b => by
    rw [Tree.afterKey, Tree.tokens]
    exact (passes_flag (hm.trans (Nat.lt_succ_self m)) b).space fun k ↦ by
      cases b <;> exact opens_cons.2 (by decide)
  | .text s => by
    rw [Tree.afterKey, Tree.tokens]
    exact (passes_text _ _ (hm.trans (Nat.lt_succ_self m)) s).space (opens_endLine_scalar _ s)
  | .seq [] => by
    rw [Tree.afterKey, Tree.tokens]
    exact (passes_brackets (hm.trans (Nat.lt_succ_self m)) (.inl ⟨rfl, rfl, rfl, rfl⟩)).space
      fun k ↦ opens_cons.2 (by decide)
  | .seq (t :: ts) => by
    rw [Tree.afterKey, Tree.tokens]
    exact (passes_items n (n :: columns) columns [] (.already columns) (t :: ts) (by simp)).newline
      (opens_items n t ts)
  | .map [] => by
    rw [Tree.afterKey, Tree.tokens]
    exact (passes_brackets (hm.trans (Nat.lt_succ_self m)) (.inr ⟨rfl, rfl, rfl, rfl⟩)).space
      fun k ↦ opens_cons.2 (by decide)
  | .map (e :: es) => by
    rw [Tree.afterKey, Tree.tokens]
    have hopening : Opening (n + 2) .blockMapStart (n :: columns) ((n + 2) :: n :: columns)
        [.blockMapStart] := .here _ (by simp)
    exact ((passes_entries (n + 2) (n :: columns) (n :: columns) [.blockMapStart] hopening
      (e :: es) (by simp)).close (Nat.le_add_right n 2) (by omega)).newline (opens_entries _ e es)

/-- What follows a dash, or the colon after a key that was announced by a question mark. -/
theorem passes_afterDash (n : Nat) (columns : List Nat) : ∀ t : Tree,
    Passes n (n + 1) true (n :: columns) (n :: columns) (t.afterDash n) (t.tokens false)
  | .flag b => by
    rw [Tree.afterDash, Tree.tokens]
    exact (passes_flag (by omega) b).space fun k ↦ by cases b <;> exact opens_cons.2 (by decide)
  | .text s => by
    rw [Tree.afterDash, Tree.tokens]
    exact (passes_text _ _ (by omega) s).space (opens_endLine_scalar _ s)
  | .seq [] => by
    rw [Tree.afterDash, Tree.tokens]
    exact (passes_brackets (by omega) (.inl ⟨rfl, rfl, rfl, rfl⟩)).space
      fun k ↦ opens_cons.2 (by decide)
  | .seq (t :: ts) => by
    rw [Tree.afterDash, Tree.tokens]
    have hopening : Opening (n + 2) .blockSeqStart (n :: columns) ((n + 2) :: n :: columns)
        [.blockSeqStart] := .here _ (by simp)
    exact ((passes_items (n + 2) (n :: columns) (n :: columns) [.blockSeqStart] hopening
      (t :: ts) (by simp)).close (Nat.le_add_right n 2) (by omega)).space (opens_items _ t ts)
  | .map [] => by
    rw [Tree.afterDash, Tree.tokens]
    exact (passes_brackets (by omega) (.inr ⟨rfl, rfl, rfl, rfl⟩)).space
      fun k ↦ opens_cons.2 (by decide)
  | .map (e :: es) => by
    rw [Tree.afterDash, Tree.tokens]
    have hopening : Opening (n + 2) .blockMapStart (n :: columns) ((n + 2) :: n :: columns)
        [.blockMapStart] := .here _ (by simp)
    exact ((passes_entries (n + 2) (n :: columns) (n :: columns) [.blockMapStart] hopening
      (e :: es) (by simp)).close (Nat.le_add_right n 2) (by omega)).space (opens_entries _ e es)

/-- The items of a sequence, which opens with the first one unless it is aligned with a key. -/
theorem passes_items (n : Nat) (before columns : List Nat) (start : List Token)
    (h : Opening n .blockSeqStart before (n :: columns) start) : ∀ ts : List Tree, ts ≠ [] →
    Passes n n true before (n :: columns) (Tree.items n ts) (start ++ Tree.itemTokens ts)
  | [], hne => absurd rfl hne
  | [t], _ => by
    rw [Tree.items, Tree.itemTokens, Tree.itemTokens, List.append_nil]
    exact (passes_afterDash n columns t).dash h (atSpacing_afterDash n t)
  | t :: u :: us, _ => by
    rw [Tree.items, Tree.itemTokens, List.append_assoc]
    exact ((passes_afterDash n columns t).append
      (passes_items n (n :: columns) columns [] (.already columns) (u :: us) (by simp))
        (opens_items n u us)).dash
        h fun k ↦ by
          rw [List.append_assoc]
          exact atSpacing_afterDash n t _

theorem passes_entry (n : Nat) (before columns : List Nat) (start : List Token)
    (h : Opening n .blockMapStart before (n :: columns) start) : ∀ e : String × Tree,
    Passes n n true before (n :: columns) (Tree.entry n e)
      (start ++ .key :: .scalar (style e.1.toList) e.1 :: .value :: e.2.tokens (isSimpleKey e.1))
  | (key, t) => by
    rw [Tree.entry]
    split
    · rename_i hkey
      rw [hkey]
      exact passes_key hkey h (fun m hm ↦ passes_afterKey n m columns hm t)
        (atSpacing_afterKey n t)
    · rename_i hkey
      rw [Bool.not_eq_true] at hkey
      rw [hkey, List.append_assoc]
      have hvalue := (passes_afterDash n columns t).colon (atSpacing_afterDash n t)
      have htext := passes_text columns true
        (show n < n + 1 + 1 by omega) key
      exact ((htext.append hvalue fun k ↦ opens_cons.2 (by decide)).space fun k ↦ by
        rw [List.append_assoc]
        exact opens_endLine_scalar _ key _).question h fun k ↦ rfl

theorem passes_entries (n : Nat) (before columns : List Nat) (start : List Token)
    (h : Opening n .blockMapStart before (n :: columns) start) :
    ∀ es : List (String × Tree), es ≠ [] →
      Passes n n true before (n :: columns) (Tree.entries n es) (start ++ Tree.entryTokens es)
  | [], hne => absurd rfl hne
  | [e], _ => by
    rw [Tree.entries, Tree.entryTokens, Tree.entryTokens, List.append_nil]
    exact passes_entry n before columns start h e
  | e :: f :: fs, _ => by
    rw [Tree.entries, Tree.entryTokens, List.append_assoc]
    have hrest := passes_entries n (n :: columns) columns [] (.already columns) (f :: fs) (by simp)
    have happend := (passes_entry n before columns start h e).append hrest
      (opens_entries n f fs)
    simpa using happend

end

end Scanner

/-! ## Characters -/

theorem all_isAllowed_spaces (n : Nat) : (spaces n).all isAllowed = true := by
  rw [List.all_eq_true]
  intro c hc
  rw [List.eq_of_mem_replicate hc]
  rfl

theorem all_isAllowed_scalar (n : Nat) (text : String) :
    (scalar n text).all isAllowed = true :=
  List.all_eq_true.2 (isAllowed_scalar n text)

theorem all_isAllowed_endLine (n : Nat) (text : String) :
    (endLine (scalar n text)).all isAllowed = true := by
  rw [endLine]
  split
  · exact all_isAllowed_scalar n text
  · rw [List.all_append, all_isAllowed_scalar]
    rfl

theorem all_isAllowed_flag (b : Bool) : (' ' :: (flagChars b ++ ['\n'])).all isAllowed = true := by
  cases b <;> rfl

mutual

theorem all_isAllowed_afterKey (n : Nat) : ∀ t : Tree, (t.afterKey n).all isAllowed = true
  | .flag b => by
    rw [Tree.afterKey]
    exact all_isAllowed_flag b
  | .text s => by
    rw [Tree.afterKey, List.all_cons, all_isAllowed_endLine]
    rfl
  | .seq [] => rfl
  | .seq (t :: ts) => by
    rw [Tree.afterKey, List.all_cons, List.all_append, all_isAllowed_spaces,
      all_isAllowed_items n (t :: ts)]
    rfl
  | .map [] => rfl
  | .map (e :: es) => by
    rw [Tree.afterKey, List.all_cons, List.all_append, all_isAllowed_spaces,
      all_isAllowed_entries (n + 2) (e :: es)]
    rfl

theorem all_isAllowed_afterDash (n : Nat) : ∀ t : Tree, (t.afterDash n).all isAllowed = true
  | .flag b => by
    rw [Tree.afterDash]
    exact all_isAllowed_flag b
  | .text s => by
    rw [Tree.afterDash, List.all_cons, all_isAllowed_endLine]
    rfl
  | .seq [] => rfl
  | .seq (t :: ts) => by
    rw [Tree.afterDash, List.all_cons, all_isAllowed_items (n + 2) (t :: ts)]
    rfl
  | .map [] => rfl
  | .map (e :: es) => by
    rw [Tree.afterDash, List.all_cons, all_isAllowed_entries (n + 2) (e :: es)]
    rfl

theorem all_isAllowed_items (n : Nat) : ∀ ts : List Tree, (Tree.items n ts).all isAllowed = true
  | [] => rfl
  | [t] => by
    rw [Tree.items, List.all_cons, all_isAllowed_afterDash n t]
    rfl
  | t :: u :: us => by
    rw [Tree.items, List.all_cons, List.all_append, List.all_append, all_isAllowed_spaces,
      all_isAllowed_afterDash n t, all_isAllowed_items n (u :: us)]
    rfl

theorem all_isAllowed_entry (n : Nat) : ∀ e : String × Tree, (Tree.entry n e).all isAllowed = true
  | (key, t) => by
    rw [Tree.entry]
    split
    · rw [List.all_append, List.all_cons, all_isAllowed_scalar, all_isAllowed_afterKey n t]
      rfl
    · rw [List.all_cons, List.all_cons, List.all_append, List.all_append, List.all_cons,
        all_isAllowed_endLine, all_isAllowed_spaces, all_isAllowed_afterDash n t]
      rfl

theorem all_isAllowed_entries (n : Nat) :
    ∀ es : List (String × Tree), (Tree.entries n es).all isAllowed = true
  | [] => rfl
  | [e] => all_isAllowed_entry n e
  | e :: f :: fs => by
    rw [Tree.entries, List.all_append, List.all_append, all_isAllowed_spaces,
      all_isAllowed_entry n e, all_isAllowed_entries n (f :: fs)]
    rfl

end

/-! ## Documents -/

/-- A mapping is written as a document that is scanned into the tokens of the mapping. -/
theorem tokens?_entries (e : String × Tree) (es : List (String × Tree)) :
    tokens? (Tree.entries 0 (e :: es))
      = some (.blockMapStart :: (Tree.entryTokens (e :: es) ++ [.blockEnd])) := by
  have hpasses := Scanner.passes_entries 0 [] [] [.blockMapStart] (.here [] rfl) (e :: es) (by simp)
  have hend : Scanner.ReadsAt (Tree.entries 0 (e :: es)).length
      ([] ++ ([.blockMapStart] ++ Tree.entryTokens (e :: es))) [0] [] 0
      (.blockMapStart :: (Tree.entryTokens (e :: es) ++ [.blockEnd])) := by
    refine Scanner.ReadsAt.close (stops_nil _) (.inl rfl) ?_
    rw [List.nil_append, List.singleton_append, List.cons_append]
    exact Scanner.ReadsAt.atEnd 0
  have hread := hpasses.reads (j := 0) (Nat.le_refl 0) (stops_nil _) hend 0 0
  rw [show spaces 0 ++ [] = [] from rfl, List.append_nil] at hread
  rw [tokens?, if_pos (all_isAllowed_entries 0 (e :: es))]
  exact hread (Nat.le_refl _) _ (Nat.lt_succ_self _)

end AlertOperator.Yaml
