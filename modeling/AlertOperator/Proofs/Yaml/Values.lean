import AlertOperator.Proofs.Yaml.TreeNode
import AlertOperator.Yaml.Decode

/-!
# Reading typed values back

A typed reader has a number of levels left and fails on a value that nests deeper. `fits` states
both outcomes in one equation: what a reader gives on the node of a written value is what was
written, provided that its levels suffice. Equations of this form combine, since the sequence of two
of them is one for the larger depth.

The entries of a record are told apart by their keys alone. So a field is read from the entries that
its key leaves over, and those of a written record can be computed from its layout.
-/

namespace AlertOperator.Yaml

/-! ## Nesting -/

mutual

/-- The number of levels that the collections of a value nest. -/
def Tree.depth : Tree → Nat
  | .flag _ | .text _ => 0
  | .seq ts => Tree.itemsDepth ts + 1
  | .map es => Tree.entriesDepth es + 1

/-- The number of levels inside the items of a sequence. -/
def Tree.itemsDepth : List Tree → Nat
  | [] => 0
  | t :: ts => max t.depth (Tree.itemsDepth ts)

/-- The number of levels inside the values of a mapping. -/
def Tree.entriesDepth : List (String × Tree) → Nat
  | [] => 0
  | (_, t) :: es => max t.depth (Tree.entriesDepth es)

end

@[simp] theorem Tree.depth_map (es : List (String × Tree)) :
    (Tree.map es).depth = Tree.entriesDepth es + 1 := by
  rw [Tree.depth]

@[simp] theorem Tree.entriesDepth_nil : Tree.entriesDepth [] = 0 := by
  rw [Tree.entriesDepth]

@[simp] theorem Tree.entriesDepth_cons (key : String) (t : Tree) (es : List (String × Tree)) :
    Tree.entriesDepth ((key, t) :: es) = max t.depth (Tree.entriesDepth es) := by
  rw [Tree.entriesDepth]

@[simp] theorem Tree.depth_text (s : String) : (Tree.text s).depth = 0 := by
  rw [Tree.depth]

@[simp] theorem Tree.depth_flag (b : Bool) : (Tree.flag b).depth = 0 := by
  rw [Tree.depth]

@[simp] theorem Tree.entriesDepth_append (es fs : List (String × Tree)) :
    Tree.entriesDepth (es ++ fs) = max (Tree.entriesDepth es) (Tree.entriesDepth fs) := by
  induction es with
  | nil => exact (Nat.zero_max _).symm
  | cons e es ih =>
    rw [List.cons_append, Tree.entriesDepth, Tree.entriesDepth, ih, Nat.max_assoc]

theorem Tree.itemsDepth_le {ts : List Tree} {n : Nat} (h : ∀ t ∈ ts, t.depth ≤ n) :
    Tree.itemsDepth ts ≤ n := by
  induction ts with
  | nil => exact Nat.zero_le n
  | cons t ts ih =>
    rw [Tree.itemsDepth]
    exact max_le (h t (by simp)) (ih fun u hu ↦ h u (by simp [hu]))

@[simp] theorem Tree.entriesDepth_texts (es : List (String × String)) :
    Tree.entriesDepth (es.map fun e ↦ (e.1, .text e.2)) = 0 := by
  induction es with
  | nil => exact Tree.entriesDepth_nil
  | cons e es ih => rw [List.map_cons, Tree.entriesDepth_cons, ih, Tree.depth_text, Nat.max_zero]

/-! ## Readings that need a number of levels -/

/-- The reading `m` of something that nests `n` levels, with `d` levels left. -/
def fits {α : Type} (n d : Nat) (m : Decode α) : Decode α := if n ≤ d then m else failure

section Fits

variable {α β : Type} {n k d : Nat} {m : Decode α}

theorem fits_of_le (h : n ≤ d) : fits n d m = m := if_pos h

theorem fits_of_lt (h : d < n) : fits n d m = failure := if_neg (by omega)

@[simp] theorem fits_zero : fits 0 d m = m := fits_of_le (Nat.zero_le d)

@[simp] theorem fits_bind (f : α → Decode β) : fits n d m >>= f = fits n d (m >>= f) := by
  by_cases h : n ≤ d
  · rw [fits_of_le h, fits_of_le h]
  · rw [fits_of_lt (by omega), fits_of_lt (by omega)]
    rfl

@[simp] theorem fits_map (f : α → β) : f <$> fits n d m = fits n d (f <$> m) := by
  rw [← bind_pure_comp, fits_bind, bind_pure_comp]

@[simp] theorem fits_fits : fits n d (fits k d m) = fits (max n k) d m := by
  by_cases hn : n ≤ d
  · by_cases hk : k ≤ d
    · rw [fits_of_le hn, fits_of_le hk, fits_of_le (by omega)]
    · rw [fits_of_le hn, fits_of_lt (by omega), fits_of_lt (by omega)]
  · rw [fits_of_lt (by omega), fits_of_lt (by omega)]

/-- What is inside has one level less. -/
@[simp] theorem fits_one_fits : fits 1 d (fits n (d - 1) m) = fits (n + 1) d m := by
  by_cases hd : 1 ≤ d
  · by_cases hn : n ≤ d - 1
    · rw [fits_of_le hd, fits_of_le hn, fits_of_le (by omega)]
    · rw [fits_of_le hd, fits_of_lt (by omega), fits_of_lt (by omega)]
  · rw [fits_of_lt (by omega), fits_of_lt (by omega)]

theorem guard_bind (h : Decode α) : (guard (0 < d) >>= fun _ ↦ h) = fits 1 d h := by
  change ((if 0 < d then pure () else failure : Decode Unit) >>= fun _ ↦ h) = _
  by_cases hd : 0 < d
  · rw [fits_of_le hd, if_pos hd]
    rfl
  · rw [fits_of_lt (by omega), if_neg hd]
    rfl

end Fits

/-! ## Values -/

/-- The entries of a mapping as a typed reader sees them. -/
def Tree.nodes (es : List (String × Tree)) : List (String × Node) :=
  es.map fun e ↦ (e.1, e.2.node)

theorem mapM_pure_map {α β γ : Type} (f : β → γ) (g : α → β) {h : γ → Decode α}
    (hpure : ∀ x, h (f (g x)) = pure x) (xs : List α) :
    ((xs.map g).map f).mapM h = pure xs := by
  induction xs with
  | nil => rfl
  | cons x xs ih =>
    rw [List.map_cons, List.map_cons, List.mapM_cons, hpure, pure_bind, ih]
    rfl

namespace Source

variable (src : Source) (d : Nat)

@[simp] theorem text_node (s : String) : src.text (Tree.text s).node = pure s := rfl

@[simp] theorem flag_node (b : Bool) : src.flag (Tree.flag b).node = pure b := by
  cases b <;> rfl

theorem items_node (ts : List Tree) :
    src.items d (Tree.seq ts).node = fits 1 d (pure (Tree.itemNodes ts)) := by
  rw [← guard_bind]
  rfl

theorem mapM_entryNodes (es : List (String × Tree)) :
    ((Tree.entryNodes es).mapM fun e ↦ (do return (← src.text e.1, e.2) : Decode _))
      = pure (Tree.nodes es) := by
  induction es with
  | nil => rfl
  | cons e es ih =>
    rw [Tree.entryNodes, List.mapM_cons, ih]
    rfl

theorem entries_node (es : List (String × Tree)) :
    src.entries d (Tree.map es).node = fits 1 d (pure (Tree.nodes es)) := by
  rw [← guard_bind, ← src.mapM_entryNodes es]
  rfl

/-- A sequence of parts is read part by part, each with one level less. -/
theorem list_node {α : Type} {read : Nat → Node → Decode α} {tree : α → Tree} (xs : List α)
    (h : ∀ x ∈ xs, read (d - 1) (tree x).node = fits (tree x).depth (d - 1) (pure x)) :
    src.list read d (Tree.seq (xs.map tree)).node
      = fits (Tree.seq (xs.map tree)).depth d (pure xs) := by
  have hitems : (Tree.itemNodes (xs.map tree)).mapM (read (d - 1))
      = fits (Tree.itemsDepth (xs.map tree)) (d - 1) (pure xs) := by
    induction xs with
    | nil => exact fits_zero.symm
    | cons x xs ih =>
      rw [List.map_cons, Tree.itemNodes, Tree.itemsDepth, List.mapM_cons, h x (by simp),
        ih fun y hy ↦ h y (by simp [hy])]
      simp
  rw [list, items_node, fits_bind, pure_bind, hitems, fits_one_fits, Tree.depth]

theorem texts_node (ss : List String) :
    src.texts d (Tree.seq (ss.map .text)).node
      = fits (Tree.seq (ss.map .text)).depth d (pure ss) :=
  src.list_node d ss fun _ _ ↦ fits_zero.symm

theorem textEntries_node (es : List (String × String)) :
    src.textEntries d (Tree.map (es.map fun e ↦ (e.1, .text e.2))).node
      = fits (Tree.map (es.map fun e ↦ (e.1, .text e.2))).depth d (pure es) := by
  rw [Tree.depth_map, Tree.entriesDepth_texts, textEntries, entries_node, fits_bind, pure_bind,
    Tree.nodes]
  exact congrArg _ (mapM_pure_map _ _ (fun _ ↦ rfl) es)

/-- A mapping is never read as an absent value. -/
theorem optional_map {α : Type} (read : Node → Decode α) (es : List (String × Tree)) :
    src.optional read (Tree.map es).node = some <$> read (Tree.map es).node := rfl

theorem optional_flag {α : Type} (read : Node → Decode α) (b : Bool) :
    src.optional read (Tree.flag b).node = some <$> read (Tree.flag b).node := by
  cases b <;> rfl

theorem any_flag (b : Bool) : src.any d (Tree.flag b).node = pure (some b) := by
  have hword : ∀ b, anyPlain (flagText b).toList = some (some b) := by decide
  rw [any.eq_def]
  exact congrArg (fun r : Option (Option Bool) ↦ (liftM r : Decode _)) (hword b)

end Source

/-! ## Fields -/

/-- Reads the one value in `es`, the entries of a record that have the same key. -/
def fieldOf {α : Type} (es : List (String × Tree)) (absent : α) (read : Node → Decode α) :
    Decode α :=
  match es with
  | [] => pure absent
  | [e] => read e.2.node
  | _ => failure

@[simp] theorem fieldOf_singleton {α : Type} (e : String × Tree) (absent : α)
    (read : Node → Decode α) : fieldOf [e] absent read = read e.2.node := rfl

/-- The entries whose keys satisfy `p`. -/
def Tree.keyed (p : String → Bool) (es : List (String × Tree)) : List (String × Tree) :=
  es.filter fun e ↦ p e.1

@[simp] theorem Tree.keyed_append (p : String → Bool) (es fs : List (String × Tree)) :
    Tree.keyed p (es ++ fs) = Tree.keyed p es ++ Tree.keyed p fs :=
  List.filter_append es fs

@[simp] theorem Tree.keyed_nil (p : String → Bool) : Tree.keyed p [] = [] := rfl

@[simp] theorem Tree.keyed_cons (p : String → Bool) (key : String) (t : Tree)
    (es : List (String × Tree)) :
    Tree.keyed p ((key, t) :: es)
      = if p key then (key, t) :: Tree.keyed p es else Tree.keyed p es :=
  List.filter_cons

theorem Tree.filter_nodes (p : String → Bool) (es : List (String × Tree)) :
    (Tree.nodes es).filter (fun e ↦ p e.1) = Tree.nodes (Tree.keyed p es) := by
  rw [Tree.nodes, Tree.nodes, List.filter_map]
  rfl

theorem field_nodes {α : Type} (es : List (String × Tree)) (key : String) (absent : α)
    (read : Node → Decode α) :
    field (Tree.nodes es) key absent read = fieldOf (Tree.keyed (· == key) es) absent read := by
  rw [field, Tree.filter_nodes (· == key)]
  rcases Tree.keyed (· == key) es with _ | ⟨e, _ | ⟨f, fs⟩⟩ <;> rfl

theorem required_nodes {α : Type} {es : List (String × Tree)} {key : String} {t : Tree}
    (h : Tree.keyed (· == key) es = [(key, t)]) (read : Node → Decode α) :
    required (Tree.nodes es) key read = read t.node := by
  rw [required, Tree.filter_nodes (· == key), h]
  rfl

/-- A truth value is the only entry whose key a record does not know. -/
theorem gathered_nodes (src : Source) (d : Nat) {es : List (String × Tree)} {known : List String}
    {key : String} {b : Bool} (absent : Bool)
    (h : Tree.keyed (!known.contains ·) es = [(key, .flag b)]) :
    src.gathered d (Tree.nodes es) known key absent = pure b := by
  rw [Source.gathered, Tree.filter_nodes (!known.contains ·), h, Tree.nodes, List.map_singleton,
    List.mapM_cons, List.mapM_nil, src.any_flag]
  simp

/-! ## Documents -/

/-- The node of a written value has no aliases to follow, so its depth alone decides whether it is
read. -/
theorem decode?_render {α : Type} {read : Source → Nat → Node → Decode α} {x : α}
    (e : String × Tree) (es : List (String × Tree))
    (h : ∀ src, read src maxDepth (Tree.map (e :: es)).node
      = fits (Tree.map (e :: es)).depth maxDepth (pure x)) :
    decode? read (Tree.map (e :: es)).render
      = if (Tree.map (e :: es)).depth ≤ maxDepth then some x else none := by
  rw [decode?, readRoot?_render, Option.bind_eq_bind, Option.bind_some, h]
  by_cases hd : (Tree.map (e :: es)).depth ≤ maxDepth
  · rw [fits_of_le hd, if_pos hd]
    rfl
  · rw [fits_of_lt (by omega), if_neg hd]
    rfl

end AlertOperator.Yaml
