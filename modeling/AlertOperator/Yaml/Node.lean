import AlertOperator.Yaml.Token

/-!
# Nodes of a document

The tokens of a document spell one node: a scalar, a sequence, a mapping, or an alias of a node with
an anchor. An empty place where a node could stand is an empty plain scalar.

An anchor name may be given again, and an alias means the last node before it that carries its
name. Nodes with anchors are numbered: a name gets the number of names known when it is given, so a
name given again gets a number that a later name may share. A number stands for the last node in the
document that carries it.

The functions that read nodes take a bound on the calls that nest. Each call uses up a token or is
one of a few that follow a token, so four times the number of tokens is always enough.
-/

namespace AlertOperator.Yaml

/-- A node. -/
inductive Node where
  | scalar (anchor : Option Nat) (tag : Option String) (style : Style) (text : String)
  | seq (anchor : Option Nat) (tag : Option String) (items : List Node)
  | map (anchor : Option Nat) (tag : Option String) (entries : List (Node × Node))
  | aliasOf (anchor : Nat)
  deriving Inhabited, Repr

namespace Node

/-- The plain scalar without characters. -/
def empty : Node := .scalar none none .plain ""

mutual

/-- The numbered nodes inside a node, itself included, in the order in which they begin. -/
def numbered : Node → List (Nat × Node)
  | scalar a t s v => (a.map fun n ↦ (n, scalar a t s v)).toList
  | seq a t items => (a.map fun n ↦ (n, seq a t items)).toList ++ numberedItems items
  | map a t entries => (a.map fun n ↦ (n, map a t entries)).toList ++ numberedEntries entries
  | aliasOf _ => []

/-- The numbered nodes inside the items of a sequence. -/
def numberedItems : List Node → List (Nat × Node)
  | [] => []
  | n :: ns => n.numbered ++ numberedItems ns

/-- The numbered nodes inside the entries of a mapping. -/
def numberedEntries : List (Node × Node) → List (Nat × Node)
  | [] => []
  | (k, v) :: es => k.numbered ++ (v.numbered ++ numberedEntries es)

end

mutual

/-- The number of places where a node of the document begins or a collection ends. -/
def weight : Node → Nat
  | scalar .. | aliasOf _ => 1
  | seq _ _ items => 2 + weightItems items
  | map _ _ entries => 2 + weightEntries entries

/-- The weight of the items of a sequence. -/
def weightItems : List Node → Nat
  | [] => 0
  | n :: ns => n.weight + weightItems ns

/-- The weight of the entries of a mapping. -/
def weightEntries : List (Node × Node) → Nat
  | [] => 0
  | (k, v) :: es => k.weight + v.weight + weightEntries es

end

end Node

/-! ## Reading nodes from tokens -/

/-- The tokens still to be read and the anchor names known so far with their numbers. -/
structure Feed where
  tokens : List Token
  names : List (String × Nat) := []

namespace Feed

/-- The feed without its first token. -/
def advance (f : Feed) : Feed := { f with tokens := f.tokens.tail }

/-- Gives a number to an anchor name. -/
def number (name : String) (f : Feed) : Nat × Feed :=
  let n := f.names.length
  let names :=
    if f.names.any (·.1 == name) then
      f.names.map fun e ↦ if e.1 == name then (name, n) else e
    else (name, n) :: f.names
  (n, { f with names := names })

/-- The next token closes or separates entries of a block mapping, so that nothing stands before
it. -/
def atBlockGap (f : Feed) : Bool :=
  match f.tokens with
  | .key :: _ | .value :: _ | .blockEnd :: _ => true
  | _ => false

end Feed

/-- The full form of a tag, with the leader of its handle. -/
def resolveTag (handles : List (String × String)) (handle suffix : String) : Option String :=
  if handle.isEmpty then some suffix
  else (handles.lookup handle).map (· ++ suffix)

/-- The anchor and the tag before a node. -/
structure Properties where
  anchor : Option String := none
  tag : Option String := none

/-- The anchor and the tag that come next, in either order. -/
def readProperties (handles : List (String × String)) (f : Feed) : Option (Properties × Feed) :=
  match f.tokens with
  | .anchor a :: .tag h s :: ts => do
    let t ← resolveTag handles h s
    return (⟨some a, some t⟩, { f with tokens := ts })
  | .tag h s :: .anchor a :: ts => do
    let t ← resolveTag handles h s
    return (⟨some a, some t⟩, { f with tokens := ts })
  | .anchor a :: ts => some (⟨some a, none⟩, { f with tokens := ts })
  | .tag h s :: ts => do
    let t ← resolveTag handles h s
    return (⟨none, some t⟩, { f with tokens := ts })
  | _ => some ({}, f)

mutual

/-- The node that comes next. `inBlock` allows collections in block form, and `dashes` a sequence
whose dashes stand at the column of the mapping around it. -/
def readNode (handles : List (String × String)) (inBlock dashes : Bool) :
    Nat → Feed → Option (Node × Feed)
  | 0, _ => none
  | fuel + 1, f =>
    match f.tokens with
    | .aliasOf name :: ts => do
      let n ← f.names.lookup name
      return (.aliasOf n, { f with tokens := ts })
    | _ => do
      let (p, f) ← readProperties handles f
      let (anchor, f) := match p.anchor with
        | some name => let (n, f) := f.number name; (some n, f)
        | none => (none, f)
      match f.tokens, dashes, inBlock with
      | .blockEntry :: _, true, _ => do
        let (items, f) ← readDashes handles fuel f []
        return (.seq anchor p.tag items, f)
      | .scalar style text :: ts, _, _ =>
        let tag := if p.tag == some "!" then none else p.tag
        return (.scalar anchor tag style text, { f with tokens := ts })
      | .flowSeqStart :: _, _, _ => do
        let (items, f) ← readFlowSeq handles fuel true f.advance []
        return (.seq anchor p.tag items, f)
      | .flowMapStart :: _, _, _ => do
        let (entries, f) ← readFlowMap handles fuel true f.advance []
        return (.map anchor p.tag entries, f)
      | .blockSeqStart :: _, _, true => do
        let (items, f) ← readBlockSeq handles fuel f.advance []
        return (.seq anchor p.tag items, f)
      | .blockMapStart :: _, _, true => do
        let (entries, f) ← readBlockMap handles fuel f.advance []
        return (.map anchor p.tag entries, f)
      | _, _, _ => do
        guard (p.anchor.isSome || p.tag.isSome)
        return (.scalar anchor p.tag .plain "", f)

/-- The items of a sequence in block form, up to its end, after those of `acc` in reverse. -/
def readBlockSeq (handles : List (String × String)) :
    Nat → Feed → List Node → Option (List Node × Feed)
  | 0, _, _ => none
  | fuel + 1, f, acc =>
    match f.tokens with
    | .blockEntry :: .blockEntry :: _ | .blockEntry :: .blockEnd :: _ =>
      readBlockSeq handles fuel f.advance (.empty :: acc)
    | .blockEntry :: _ => do
      let (n, f) ← readNode handles true false fuel f.advance
      readBlockSeq handles fuel f (n :: acc)
    | .blockEnd :: _ => some (acc.reverse, f.advance)
    | _ => none

/-- The items of a sequence whose dashes stand at the column of the mapping around it. -/
def readDashes (handles : List (String × String)) :
    Nat → Feed → List Node → Option (List Node × Feed)
  | 0, _, _ => none
  | fuel + 1, f, acc =>
    match f.tokens with
    | .blockEntry :: .blockEntry :: _ => readDashes handles fuel f.advance (.empty :: acc)
    | .blockEntry :: _ =>
      if f.advance.atBlockGap then readDashes handles fuel f.advance (.empty :: acc)
      else do
        let (n, f) ← readNode handles true false fuel f.advance
        readDashes handles fuel f (n :: acc)
    | _ => some (acc.reverse, f)

/-- The entries of a mapping in block form, up to its end. -/
def readBlockMap (handles : List (String × String)) :
    Nat → Feed → List (Node × Node) → Option (List (Node × Node) × Feed)
  | 0, _, _ => none
  | fuel + 1, f, acc =>
    match f.tokens with
    | .key :: _ => do
      let f := f.advance
      let (k, f) ← if f.atBlockGap then some (.empty, f) else readNode handles true true fuel f
      match f.tokens with
      | .value :: _ => do
        let f := f.advance
        let (v, f) ← if f.atBlockGap then some (.empty, f) else readNode handles true true fuel f
        readBlockMap handles fuel f ((k, v) :: acc)
      | _ => readBlockMap handles fuel f ((k, .empty) :: acc)
    | .blockEnd :: _ => some (acc.reverse, f.advance)
    | _ => none

/-- The items of a sequence in brackets, up to its closing bracket. An item with a key mark is a
mapping of one entry. -/
def readFlowSeq (handles : List (String × String)) :
    Nat → Bool → Feed → List Node → Option (List Node × Feed)
  | 0, _, _, _ => none
  | fuel + 1, first, f, acc =>
    match f.tokens with
    | .flowSeqEnd :: _ => some (acc.reverse, f.advance)
    | _ => do
      let f ←
        if first then some f
        else match f.tokens with
          | .flowEntry :: _ => some f.advance
          | _ => none
      match f.tokens with
      | .flowSeqEnd :: _ => some (acc.reverse, f.advance)
      | .key :: _ => do
        let (e, f) ← readSingleEntry handles fuel f.advance
        readFlowSeq handles fuel false f (.map none none [e] :: acc)
      | _ => do
        let (n, f) ← readNode handles false false fuel f
        readFlowSeq handles fuel false f (n :: acc)

/-- The entry of a mapping that is an item of a sequence in brackets. Where the key is empty, the
token after the key mark counts as part of it. -/
def readSingleEntry (handles : List (String × String)) :
    Nat → Feed → Option ((Node × Node) × Feed)
  | 0, _ => none
  | fuel + 1, f => do
    let (k, f) ← match f.tokens with
      | .value :: _ | .flowEntry :: _ | .flowSeqEnd :: _ => some (Node.empty, f.advance)
      | _ => readNode handles false false fuel f
    match f.tokens with
    | .value :: .flowEntry :: _ | .value :: .flowSeqEnd :: _ => some ((k, .empty), f.advance)
    | .value :: _ => do
      let (v, f) ← readNode handles false false fuel f.advance
      return ((k, v), f)
    | _ => some ((k, .empty), f)

/-- The entries of a mapping in braces, up to its closing brace. -/
def readFlowMap (handles : List (String × String)) :
    Nat → Bool → Feed → List (Node × Node) → Option (List (Node × Node) × Feed)
  | 0, _, _, _ => none
  | fuel + 1, first, f, acc =>
    match f.tokens with
    | .flowMapEnd :: _ => some (acc.reverse, f.advance)
    | _ => do
      let f ←
        if first then some f
        else match f.tokens with
          | .flowEntry :: _ => some f.advance
          | _ => none
      match f.tokens with
      | .flowMapEnd :: _ => some (acc.reverse, f.advance)
      | .key :: _ => do
        let f := f.advance
        let (k, f) ← match f.tokens with
          | .value :: _ | .flowEntry :: _ | .flowMapEnd :: _ => some (Node.empty, f)
          | _ => readNode handles false false fuel f
        match f.tokens with
        | .value :: .flowEntry :: _ | .value :: .flowMapEnd :: _ =>
          readFlowMap handles fuel false f.advance ((k, .empty) :: acc)
        | .value :: _ => do
          let (v, f) ← readNode handles false false fuel f.advance
          readFlowMap handles fuel false f ((k, v) :: acc)
        | _ => readFlowMap handles fuel false f ((k, .empty) :: acc)
      | _ => do
        let (k, f) ← readNode handles false false fuel f
        readFlowMap handles fuel false f ((k, .empty) :: acc)

end

/-! ## Documents -/

/-- The directives before a document: at most one version, 1.1 or 1.2, and one leader for each
handle. The answer is the handles with their leaders, without the two that are always known. -/
def readDirectives : Bool → List (String × String) → List Token →
    Option (List (String × String) × List Token)
  | versioned, handles, .directive (.version major minor) :: ts =>
    if versioned || major != 1 || (minor != 1 && minor != 2) then none
    else readDirectives true handles ts
  | versioned, handles, .directive (.tag handle leader) :: ts =>
    if handles.any (·.1 == handle) then none
    else readDirectives versioned ((handle, leader) :: handles) ts
  | _, handles, ts => some (handles, ts)

/-- The handles that need no directive. -/
def defaultHandles : List (String × String) := [("!", "!"), ("!!", "tag:yaml.org,2002:")]

/-- The root of the one document that the tokens spell. -/
def rootOf? (ts : List Token) : Option Node := do
  let fuel := 4 * ts.length + 4
  let (root, f) ← match ts with
    | [] => some (Node.empty, (⟨[], []⟩ : Feed))
    | .directive _ :: _ | .documentStart :: _ => do
      let (handles, ts) ← readDirectives false [] ts
      let handles := handles ++ defaultHandles
      match ts with
      | .documentStart :: ts =>
        match ts with
        | [] | .directive _ :: _ | .documentStart :: _ | .documentEnd :: _ =>
          some (Node.empty, (⟨ts, []⟩ : Feed))
        | _ => readNode handles true false fuel ⟨ts, []⟩
      | _ => none
    | _ => readNode defaultHandles true false fuel ⟨ts, []⟩
  guard (f.tokens.all fun t ↦ t matches .documentEnd)
  return root

/-- The root of the one document in a text; `none` if the text is not one document, or has an alias
without an anchor before it. -/
def readRoot? (s : String) : Option Node := (tokens? s.toList).bind rootOf?

end AlertOperator.Yaml
