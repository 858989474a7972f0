import AlertOperator.Proofs.Yaml.TreeTokens
import AlertOperator.Yaml.Node
import Mathlib.Data.Option.Basic

/-!
# The node of a written document

From the tokens of a written value its node is read: it has the shape of the value and no anchors
or tags, and its scalars have the styles in which their texts are written. Together with the scanner
this says what a written document is read as.

Reading uses up a unit of fuel for each token at most, apart from two for a sequence that is aligned
with its key and so has no tokens of its own at its beginning and end.
-/

namespace AlertOperator.Yaml

mutual

/-- The node that a written value is read as. -/
def Tree.node : Tree → Node
  | .flag b => .scalar none none .plain (flagText b)
  | .text s => .scalar none none (style s.toList) s
  | .seq ts => .seq none none (Tree.itemNodes ts)
  | .map es => .map none none (Tree.entryNodes es)

/-- The nodes of the items of a sequence. -/
def Tree.itemNodes : List Tree → List Node
  | [] => []
  | t :: ts => t.node :: Tree.itemNodes ts

/-- The nodes of the entries of a mapping. -/
def Tree.entryNodes : List (String × Tree) → List (Node × Node)
  | [] => []
  | (key, t) :: es =>
    (.scalar none none (style key.toList) key, t.node) :: Tree.entryNodes es

end

/-! ## Steps of the reader -/

/-- A token with which a node begins that is no sequence aligned with a key. -/
def Token.opensNode : Token → Bool
  | .scalar .. | .flowSeqStart | .flowMapStart | .blockSeqStart | .blockMapStart => true
  | _ => false

/-- A dash. -/
def Token.isDash : Token → Bool
  | .blockEntry => true
  | _ => false

section Steps

variable {handles : List (String × String)} {fuel : Nat} {inBlock dashes : Bool}
  {ts : List Token} {names : List (String × Nat)}

theorem readNode_scalar (style : Style) (text : String) :
    readNode handles inBlock dashes (fuel + 1) ⟨.scalar style text :: ts, names⟩
      = some (.scalar none none style text, ⟨ts, names⟩) := by
  rw [readNode]
  cases dashes <;> cases inBlock <;> rfl

theorem readNode_emptySeq :
    readNode handles inBlock dashes (fuel + 2) ⟨.flowSeqStart :: .flowSeqEnd :: ts, names⟩
      = some (.seq none none [], ⟨ts, names⟩) := by
  rw [readNode]
  cases dashes <;> cases inBlock <;> rfl

theorem readNode_emptyMap :
    readNode handles inBlock dashes (fuel + 2) ⟨.flowMapStart :: .flowMapEnd :: ts, names⟩
      = some (.map none none [], ⟨ts, names⟩) := by
  rw [readNode]
  cases dashes <;> cases inBlock <;> rfl

theorem readNode_blockSeq :
    readNode handles true dashes (fuel + 1) ⟨.blockSeqStart :: ts, names⟩
      = (readBlockSeq handles fuel ⟨ts, names⟩ []).bind
          fun r ↦ some (.seq none none r.1, r.2) := by
  rw [readNode]
  cases dashes <;> rfl

theorem readNode_blockMap :
    readNode handles true dashes (fuel + 1) ⟨.blockMapStart :: ts, names⟩
      = (readBlockMap handles fuel ⟨ts, names⟩ []).bind
          fun r ↦ some (.map none none r.1, r.2) := by
  rw [readNode]
  cases dashes <;> rfl

theorem readNode_dashes :
    readNode handles true true (fuel + 1) ⟨.blockEntry :: ts, names⟩
      = (readDashes handles fuel ⟨.blockEntry :: ts, names⟩ []).bind
          fun r ↦ some (.seq none none r.1, r.2) := by
  rw [readNode]
  rfl

theorem readBlockSeq_end (acc : List Node) :
    readBlockSeq handles (fuel + 1) ⟨.blockEnd :: ts, names⟩ acc
      = some (acc.reverse, ⟨ts, names⟩) := by
  rw [readBlockSeq]
  rfl

theorem readBlockSeq_item (acc : List Node) (h : ts.head?.any Token.opensNode = true) :
    readBlockSeq handles (fuel + 1) ⟨.blockEntry :: ts, names⟩ acc
      = (readNode handles true false fuel ⟨ts, names⟩).bind
          fun r ↦ readBlockSeq handles fuel r.2 (r.1 :: acc) := by
  rw [readBlockSeq]
  cases ts with
  | nil => exact absurd h (by decide)
  | cons t ts => cases t <;> first | rfl | exact absurd h Bool.false_ne_true

theorem readDashes_end (acc : List Node) (h : ts.head?.any Token.isDash = false) :
    readDashes handles (fuel + 1) ⟨ts, names⟩ acc = some (acc.reverse, ⟨ts, names⟩) := by
  rw [readDashes]
  cases ts with
  | nil => rfl
  | cons t ts => cases t <;> first | rfl | exact absurd h.symm Bool.false_ne_true

theorem readDashes_item (acc : List Node) (h : ts.head?.any Token.opensNode = true) :
    readDashes handles (fuel + 1) ⟨.blockEntry :: ts, names⟩ acc
      = (readNode handles true false fuel ⟨ts, names⟩).bind
          fun r ↦ readDashes handles fuel r.2 (r.1 :: acc) := by
  rw [readDashes]
  cases ts with
  | nil => exact absurd h (by decide)
  | cons t ts => cases t <;> first | rfl | exact absurd h Bool.false_ne_true

theorem readBlockMap_end (acc : List (Node × Node)) :
    readBlockMap handles (fuel + 1) ⟨.blockEnd :: ts, names⟩ acc
      = some (acc.reverse, ⟨ts, names⟩) := by
  rw [readBlockMap]
  rfl

theorem readBlockMap_entry (acc : List (Node × Node)) (style : Style) (key : String)
    (h : ts.head?.any (fun t ↦ t.opensNode || t.isDash) = true) :
    readBlockMap handles (fuel + 2) ⟨.key :: .scalar style key :: .value :: ts, names⟩ acc
      = (readNode handles true true (fuel + 1) ⟨ts, names⟩).bind
          fun r ↦ readBlockMap handles (fuel + 1) r.2
            ((.scalar none none style key, r.1) :: acc) := by
  rw [readBlockMap]
  cases ts with
  | nil => exact absurd h (by decide)
  | cons t ts => cases t <;> first | rfl | exact absurd h Bool.false_ne_true

end Steps

/-! ## The tokens of a value -/

theorem opensNode_tokens (t : Tree) (rest : List Token) :
    (t.tokens false ++ rest).head?.any Token.opensNode = true := by
  rcases t with _ | _ | (_ | _) | (_ | _) <;> rfl

theorem opensNode_or_isDash_tokens (aligned : Bool) (t : Tree) (rest : List Token) :
    (t.tokens aligned ++ rest).head?.any (fun t ↦ t.opensNode || t.isDash) = true := by
  rcases t with _ | _ | (_ | _) | (_ | _) <;> cases aligned <;> rfl

section Tokens

variable (handles : List (String × String)) (names : List (String × Nat))

mutual

/-- A value is read up to the end of its tokens. A sequence that is aligned with its key ends before
a token that is no dash. -/
theorem readNode_tokens (aligned dashes : Bool) (hdashes : aligned = true → dashes = true)
    (fuel : Nat) (rest : List Token)
    (hrest : aligned = true → rest.head?.any Token.isDash = false) : ∀ t : Tree,
    (t.tokens aligned).length + (if aligned then 2 else 0) ≤ fuel →
      readNode handles true dashes fuel ⟨t.tokens aligned ++ rest, names⟩
        = some (t.node, ⟨rest, names⟩)
  | .flag b, hfuel => by
    rw [Tree.tokens, List.length_singleton] at hfuel
    obtain ⟨fuel, rfl⟩ : ∃ f, fuel = f + 1 := ⟨fuel - 1, by omega⟩
    rw [Tree.tokens, Tree.node, List.singleton_append, readNode_scalar]
  | .text s, hfuel => by
    rw [Tree.tokens, List.length_singleton] at hfuel
    obtain ⟨fuel, rfl⟩ : ∃ f, fuel = f + 1 := ⟨fuel - 1, by omega⟩
    rw [Tree.tokens, Tree.node, List.singleton_append, readNode_scalar]
  | .seq [], hfuel => by
    simp only [Tree.tokens, List.length_cons, List.length_nil] at hfuel
    obtain ⟨fuel, rfl⟩ : ∃ f, fuel = f + 2 := ⟨fuel - 2, by omega⟩
    rw [Tree.tokens, Tree.node, Tree.itemNodes, List.cons_append, List.singleton_append,
      readNode_emptySeq]
  | .seq (t :: ts), hfuel => by
    rw [Tree.node]
    cases aligned with
    | false =>
      simp only [Tree.tokens, Bool.false_eq_true, ↓reduceIte, List.length_cons,
        List.length_append, List.length_nil] at hfuel ⊢
      obtain ⟨fuel, rfl⟩ : ∃ f, fuel = f + 1 := ⟨fuel - 1, by omega⟩
      rw [List.cons_append, List.append_assoc, List.singleton_append, readNode_blockSeq,
        readBlockSeq_tokens fuel rest [] (t :: ts) (by omega)]
      rfl
    | true =>
      obtain rfl := hdashes rfl
      simp only [Tree.tokens, ↓reduceIte] at hfuel ⊢
      obtain ⟨fuel, rfl⟩ : ∃ f, fuel = f + 1 := ⟨fuel - 1, by omega⟩
      have hread := readDashes_tokens fuel rest [] (hrest rfl) (t :: ts) (by omega)
      rw [Tree.itemTokens, List.cons_append] at hread ⊢
      rw [readNode_dashes, hread]
      rfl
  | .map [], hfuel => by
    simp only [Tree.tokens, List.length_cons, List.length_nil] at hfuel
    obtain ⟨fuel, rfl⟩ : ∃ f, fuel = f + 2 := ⟨fuel - 2, by omega⟩
    rw [Tree.tokens, Tree.node, Tree.entryNodes, List.cons_append, List.singleton_append,
      readNode_emptyMap]
  | .map (e :: es), hfuel => by
    rw [Tree.node]
    simp only [Tree.tokens, List.length_cons, List.length_append, List.length_nil] at hfuel ⊢
    obtain ⟨fuel, rfl⟩ : ∃ f, fuel = f + 1 := ⟨fuel - 1, by omega⟩
    rw [List.cons_append, List.append_assoc, List.singleton_append, readNode_blockMap,
      readBlockMap_tokens fuel rest [] (e :: es) (by omega)]
    rfl

theorem readBlockSeq_tokens (fuel : Nat) (rest : List Token) (acc : List Node) :
    ∀ ts : List Tree, (Tree.itemTokens ts).length + 1 ≤ fuel →
      readBlockSeq handles fuel ⟨Tree.itemTokens ts ++ .blockEnd :: rest, names⟩ acc
        = some (acc.reverse ++ Tree.itemNodes ts, ⟨rest, names⟩)
  | [], hfuel => by
    obtain ⟨fuel, rfl⟩ : ∃ f, fuel = f + 1 := ⟨fuel - 1, by omega⟩
    rw [Tree.itemTokens, Tree.itemNodes, List.nil_append, List.append_nil, readBlockSeq_end]
  | t :: ts, hfuel => by
    simp only [Tree.itemTokens, List.length_cons, List.length_append] at hfuel
    obtain ⟨fuel, rfl⟩ : ∃ f, fuel = f + 1 := ⟨fuel - 1, by omega⟩
    rw [Tree.itemTokens, Tree.itemNodes, List.cons_append, List.append_assoc,
      readBlockSeq_item acc (opensNode_tokens t _),
      readNode_tokens false false Bool.noConfusion fuel _ Bool.noConfusion t (by simp; omega),
      Option.bind_some, readBlockSeq_tokens fuel rest _ ts (by omega), List.reverse_cons,
      List.append_assoc, List.singleton_append]

/-- The items of a sequence that is aligned with its key are read as long as there are dashes. -/
theorem readDashes_tokens (fuel : Nat) (rest : List Token) (acc : List Node)
    (hrest : rest.head?.any Token.isDash = false) :
    ∀ ts : List Tree, (Tree.itemTokens ts).length + 1 ≤ fuel →
      readDashes handles fuel ⟨Tree.itemTokens ts ++ rest, names⟩ acc
        = some (acc.reverse ++ Tree.itemNodes ts, ⟨rest, names⟩)
  | [], hfuel => by
    obtain ⟨fuel, rfl⟩ : ∃ f, fuel = f + 1 := ⟨fuel - 1, by omega⟩
    rw [Tree.itemTokens, Tree.itemNodes, List.nil_append, List.append_nil,
      readDashes_end acc hrest]
  | t :: ts, hfuel => by
    simp only [Tree.itemTokens, List.length_cons, List.length_append] at hfuel
    obtain ⟨fuel, rfl⟩ : ∃ f, fuel = f + 1 := ⟨fuel - 1, by omega⟩
    rw [Tree.itemTokens, Tree.itemNodes, List.cons_append, List.append_assoc,
      readDashes_item acc (opensNode_tokens t _),
      readNode_tokens false false Bool.noConfusion fuel _ Bool.noConfusion t (by simp; omega),
      Option.bind_some, readDashes_tokens fuel rest _ hrest ts (by omega), List.reverse_cons,
      List.append_assoc, List.singleton_append]

theorem readBlockMap_tokens (fuel : Nat) (rest : List Token) (acc : List (Node × Node)) :
    ∀ es : List (String × Tree), (Tree.entryTokens es).length + 1 ≤ fuel →
      readBlockMap handles fuel ⟨Tree.entryTokens es ++ .blockEnd :: rest, names⟩ acc
        = some (acc.reverse ++ Tree.entryNodes es, ⟨rest, names⟩)
  | [], hfuel => by
    obtain ⟨fuel, rfl⟩ : ∃ f, fuel = f + 1 := ⟨fuel - 1, by omega⟩
    rw [Tree.entryTokens, Tree.entryNodes, List.nil_append, List.append_nil, readBlockMap_end]
  | (key, t) :: es, hfuel => by
    simp only [Tree.entryTokens, List.length_cons, List.length_append] at hfuel
    obtain ⟨fuel, rfl⟩ : ∃ f, fuel = f + 2 := ⟨fuel - 2, by omega⟩
    -- after the value comes another key or the end of the mapping
    have hnext : (Tree.entryTokens es ++ .blockEnd :: rest).head?.any Token.isDash = false := by
      rcases es with _ | ⟨⟨_, _⟩, _⟩ <;> rfl
    rw [Tree.entryTokens, Tree.entryNodes, List.cons_append, List.cons_append, List.cons_append,
      List.append_assoc, readBlockMap_entry acc _ _ (opensNode_or_isDash_tokens _ t _),
      readNode_tokens (isSimpleKey key) true (fun _ ↦ rfl) (fuel + 1) _ (fun _ ↦ hnext) t
        (by split <;> omega), Option.bind_some, readBlockMap_tokens (fuel + 1) rest _ es (by omega),
      List.reverse_cons, List.append_assoc, List.singleton_append]

end

end Tokens

/-! ## Documents -/

theorem readRoot?_render (e : String × Tree) (es : List (String × Tree)) :
    readRoot? (Tree.map (e :: es)).render = some (Tree.map (e :: es)).node := by
  have hread := readNode_tokens defaultHandles [] false false id
    (4 * ((Tree.map (e :: es)).tokens false).length + 4) [] Bool.noConfusion (.map (e :: es))
    (by simp; omega)
  rw [List.append_nil, Tree.tokens] at hread
  rw [readRoot?, Tree.render, String.toList_ofList, Tree.chars, tokens?_entries, Option.bind_some]
  change (readNode defaultHandles true false _ ⟨_, []⟩).bind _ = _
  rw [hread]
  rfl

end AlertOperator.Yaml
