import AlertOperator.Yaml.Node

/-!
# Reading typed values from nodes

A typed reader walks down a node and says at each place what it expects there. Three rules hold for
all of them.

* An alias stands for its node. The number of aliases followed in one document is limited to a
  hundred for each place of the document, which stops documents that grow when they are unfolded.
* Collections may nest 128 levels deep. Each reader of a collection takes the number of levels left
  and hands one less to the readers of what is inside.
* An empty plain scalar counts as an empty collection.

Entries with an unknown key are passed over unseen, except in a record that gathers them, where
they are read as values of any kind.
-/

namespace AlertOperator.Yaml

/-- What a reader needs to know of the document: the nodes with numbers, the last one first, and how
many aliases may be followed. -/
structure Source where
  numbered : List (Nat × Node)
  jumps : Nat

/-- A computation that follows aliases, counting them, and may fail. -/
abbrev Decode (α : Type) := StateT Nat Option α

/-- The number of levels that collections may nest. -/
def maxDepth : Nat := 128

/-- What the readers need to know of the document with root `n`. -/
def Node.source (n : Node) : Source := ⟨n.numbered.reverse, 100 * n.weight⟩

/-! ## Fields of records -/

/-- The entry of a record with the given key, of which there may be only one, or `absent`. -/
def field {α : Type} (es : List (String × Node)) (key : String) (absent : α)
    (read : Node → Decode α) : Decode α :=
  match es.filter (·.1 == key) with
  | [] => pure absent
  | [e] => read e.2
  | _ => failure

/-- The entry of a record with the given key, of which there has to be exactly one. -/
def required {α : Type} (es : List (String × Node)) (key : String) (read : Node → Decode α) :
    Decode α :=
  match es.filter (·.1 == key) with
  | [e] => read e.2
  | _ => failure

/-! ## Readers -/

namespace Source

variable (src : Source)

/-- The node itself, or the node that an alias stands for. -/
def follow : Node → Decode Node
  | .aliasOf n => do
    let jumps ← get
    guard (jumps < src.jumps)
    set (jumps + 1)
    src.numbered.lookup n
  | n => pure n

/-- The text of a scalar of any style. -/
def text (n : Node) : Decode String := do
  match ← src.follow n with
  | .scalar _ _ _ s => pure s
  | _ => failure

/-- A truth value: a plain scalar with one of its words, or a literal block tagged as one. -/
def flag (n : Node) : Decode Bool := do
  match ← src.follow n with
  | .scalar _ tag style s =>
    guard (style = .plain ∨ (style = .literal ∧ tag = some "tag:yaml.org,2002:bool"))
    flagWord s.toList
  | _ => failure

/-- The items of a sequence, with one more level used up. -/
def items (depth : Nat) (n : Node) : Decode (List Node) := do
  match ← src.follow n with
  | .seq _ _ ns => do
    guard (0 < depth)
    pure ns
  | .scalar _ _ .plain "" => pure []
  | _ => failure

/-- A sequence of values read by `read`, which is given the levels left inside. -/
def list {α : Type} (read : Nat → Node → Decode α) (depth : Nat) (n : Node) : Decode (List α) := do
  (← src.items depth n).mapM (read (depth - 1))

/-- A sequence of texts. -/
def texts (depth : Nat) (n : Node) : Decode (List String) := src.list (fun _ ↦ src.text) depth n

/-- The entries of a mapping with the texts of their keys, with one more level used up. -/
def entries (depth : Nat) (n : Node) : Decode (List (String × Node)) := do
  match ← src.follow n with
  | .map _ _ es => do
    guard (0 < depth)
    es.mapM fun e ↦ do return (← src.text e.1, e.2)
  | .scalar _ _ .plain "" => pure []
  | _ => failure

/-- A mapping from texts to texts, in the order of the document. -/
def textEntries (depth : Nat) (n : Node) : Decode (List (String × String)) := do
  (← src.entries depth n).mapM fun e ↦ do return (e.1, ← src.text e.2)

/-- A value that may be absent: an empty plain scalar or a word for null is none. -/
def optional {α : Type} (read : Node → Decode α) (n : Node) : Decode (Option α) := do
  let n ← src.follow n
  match n with
  | .scalar _ none .plain s =>
    if s.isEmpty || isNullWord s.toList then pure none else some <$> read n
  | .scalar _ (some tag) .plain s =>
    if tag = "tag:yaml.org,2002:null" then do
      guard (isNullWord s.toList)
      pure none
    else some <$> read n
  | _ => some <$> read n

/-! ## Values of any kind -/

/-- The integers that fit 64 bits, signed or unsigned. -/
def fits64 (n : Int) : Bool := -0x8000000000000000 ≤ n && n < 0x10000000000000000

/-- A plain scalar as a value of any kind: its truth value if it is one. An integer that does not
fit 64 bits is refused. -/
def anyPlain (s : List Char) : Option (Option Bool) :=
  match resolve s with
  | .flag b => some (some b)
  | .integer n => if fits64 n then some none else none
  | _ => some none

/-- A scalar as a value of any kind. A tag of the standard kinds has to suit the text, and a tag
that begins with an exclamation mark is refused. -/
def anyScalar (tag : Option String) (style : Style) (s : List Char) : Option (Option Bool) :=
  match tag with
  | none => if style = .plain then anyPlain s else some none
  | some t =>
    if t.startsWith "!" then none
    else if t = "tag:yaml.org,2002:bool" then (flagWord s).map some
    else if t = "tag:yaml.org,2002:int" then
      (integer s).bind fun n ↦ if fits64 n then some none else none
    else if t = "tag:yaml.org,2002:float" then if isReal s then some none else none
    else if t = "tag:yaml.org,2002:null" then if isNullWord s then some none else none
    else some none

/-- A tag that a collection of any kind may have. -/
def plainTag (tag : Option String) : Bool := !tag.any (·.startsWith "!")

/-- Reads a value of any kind: its truth value if it is one. -/
def any : Nat → Node → Decode (Option Bool)
  | depth, n => do
    match ← src.follow n with
    | .scalar _ tag style s => anyScalar tag style s.toList
    | .seq _ tag ns =>
      match depth with
      | 0 => failure
      | depth + 1 => do
        guard (plainTag tag)
        ns.forM fun n ↦ do let _ ← any depth n
        pure none
    | .map _ tag es =>
      match depth with
      | 0 => failure
      | depth + 1 => do
        guard (plainTag tag)
        es.forM fun e ↦ do
          let _ ← any depth e.1
          let _ ← any depth e.2
        pure none
    | .aliasOf _ => failure

/-- The truth value under `key` in a record that gathers the entries whose keys are not `known`.
Each of these is read as a value of any kind; `absent` is the value if none has the key. -/
def gathered (depth : Nat) (es : List (String × Node)) (known : List String) (key : String)
    (absent : Bool) : Decode Bool := do
  let rest ← (es.filter fun e ↦ !known.contains e.1).mapM fun e ↦ do
    return (e.1, ← src.any depth e.2)
  match rest.filter (·.1 == key) with
  | [] => pure absent
  | [(_, some b)] => pure b
  | _ => failure

end Source

/-- Reads the one document of a text with `read`, which is given the levels that may nest. -/
def decode? {α : Type} (read : Source → Nat → Node → Decode α) (s : String) : Option α := do
  let root ← readRoot? s
  let (v, _) ← (read root.source maxDepth root).run 0
  return v

end AlertOperator.Yaml
