/-!
# Dictionaries in key order

A dictionary from texts to values, kept as its entries in increasing order of the keys, in which no
key is repeated. Two dictionaries with the same entries are equal, and writing one out needs no
further choice of an order: texts are compared character by character, by code point.
-/

namespace AlertOperator

/-- A dictionary from texts to values of type `β`. -/
structure Dict (β : Type) where
  /-- The entries in increasing order of their keys. -/
  entries : List (String × β)
  /-- Each key comes before all later ones. -/
  sorted : entries.Pairwise (fun a b ↦ a.1 < b.1)
  deriving Repr

namespace Dict

variable {β : Type}

instance : EmptyCollection (Dict β) := ⟨⟨[], List.Pairwise.nil⟩⟩

instance : Inhabited (Dict β) := ⟨{}⟩

theorem ext_entries {d e : Dict β} (h : d.entries = e.entries) : d = e := by
  cases d; cases e; cases h; rfl

instance [DecidableEq β] : DecidableEq (Dict β) := fun d e ↦
  if h : d.entries = e.entries then .isTrue (ext_entries h)
  else .isFalse fun he ↦ h (he ▸ rfl)

/-- Puts the value `v` under the key `k` in a list of entries in key order, in place of a value that
is already there. -/
def insertEntry (k : String) (v : β) : List (String × β) → List (String × β)
  | [] => [(k, v)]
  | (l, w) :: es =>
    if k < l then (k, v) :: (l, w) :: es
    else if l < k then (l, w) :: insertEntry k v es
    else (l, v) :: es

theorem fst_mem_insertEntry {k : String} {v : β} {es : List (String × β)} {e : String × β}
    (h : e ∈ insertEntry k v es) : e.1 = k ∨ ∃ f ∈ es, f.1 = e.1 := by
  induction es with
  | nil => simp_all [insertEntry]
  | cons f es ih =>
    simp only [insertEntry] at h
    split at h
    · grind
    · split at h <;> grind

theorem pairwise_insertEntry (k : String) (v : β) {es : List (String × β)}
    (h : es.Pairwise fun a b ↦ a.1 < b.1) :
    (insertEntry k v es).Pairwise fun a b ↦ a.1 < b.1 := by
  induction es with
  | nil => simp [insertEntry]
  | cons f es ih =>
    rw [List.pairwise_cons] at h
    simp only [insertEntry]
    split
    · rename_i hk
      refine List.pairwise_cons.2 ⟨fun e he ↦ ?_, List.pairwise_cons.2 h⟩
      rcases List.mem_cons.1 he with rfl | he
      · exact hk
      · exact String.lt_trans hk (h.1 e he)
    · split
      · rename_i hf
        refine List.pairwise_cons.2 ⟨fun e he ↦ ?_, ih h.2⟩
        rcases fst_mem_insertEntry he with he | ⟨g, hg, he⟩
        · exact he ▸ hf
        · exact he ▸ h.1 g hg
      · exact List.pairwise_cons.2 ⟨h.1, h.2⟩

/-- The dictionary with the value `v` under the key `k`. -/
def insert (k : String) (v : β) (d : Dict β) : Dict β :=
  ⟨insertEntry k v d.entries, pairwise_insertEntry k v d.sorted⟩

/-- The dictionary of a list of entries, in which a later entry replaces an earlier one with the
same key. -/
def ofList (es : List (String × β)) : Dict β :=
  es.foldl (fun d e ↦ d.insert e.1 e.2) {}

/-- The value under `k`. -/
def get? (k : String) (d : Dict β) : Option β := d.entries.lookup k

/-- There is no entry. -/
def isEmpty (d : Dict β) : Bool := d.entries.isEmpty

/-- The keys in increasing order. -/
def keys (d : Dict β) : List String := d.entries.map (·.1)

end Dict

end AlertOperator
