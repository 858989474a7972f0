import AlertOperator.Dict
import Mathlib.Data.List.Nodup

/-!
# Entries and values of dictionaries

A dictionary is determined by the values under its keys, since the order of its entries is fixed. So
two dictionaries are equal as soon as each key has the same value in both, and what a sequence of
insertions leads to is seen key by key.
-/

namespace AlertOperator.Dict

variable {β : Type} {d e : Dict β} {k l : String} {v : β}

/-! ## Values -/

theorem mem_entries_iff : (k, v) ∈ d.entries ↔ d.get? k = some v := by
  rw [get?, List.lookup_eq_some_iff]
  constructor
  · intro h
    obtain ⟨before, after, hsplit⟩ := List.append_of_mem h
    have hsorted := d.sorted
    rw [hsplit, List.pairwise_append] at hsorted
    refine ⟨before, after, hsplit, fun e he ↦ bne_iff_ne.2 ?_⟩
    exact (String.ne_of_lt (hsorted.2.2 e he _ List.mem_cons_self)).symm
  · rintro ⟨before, after, hsplit, -⟩
    rw [hsplit]
    exact List.mem_append_right _ List.mem_cons_self

theorem ext_get? (h : ∀ k, d.get? k = e.get? k) : d = e := by
  have hnodup : ∀ d : Dict β, d.entries.Nodup := fun d ↦
    d.sorted.imp fun hlt heq ↦ String.ne_of_lt hlt (congrArg Prod.fst heq)
  have hperm : d.entries.Perm e.entries := by
    rw [List.perm_ext_iff_of_nodup (hnodup d) (hnodup e)]
    rintro ⟨k, v⟩
    rw [mem_entries_iff, mem_entries_iff, h]
  refine ext_entries (hperm.eq_of_pairwise (fun a b _ _ hab hba ↦ ?_) d.sorted e.sorted)
  exact absurd (String.lt_trans hab hba) (String.lt_irrefl _)

theorem mem_keys_of_get? (h : d.get? k = some v) : k ∈ d.keys :=
  List.mem_map.2 ⟨(k, v), mem_entries_iff.2 h, rfl⟩

/-! ## Insertions -/

theorem lookup_cons_ite (k : String) (e : String × β) (es : List (String × β)) :
    (e :: es).lookup k = if k = e.1 then some e.2 else es.lookup k := by
  by_cases h : k = e.1
  · rw [List.lookup_cons, if_pos h, h, beq_self_eq_true]
  · rw [List.lookup_cons, if_neg h, beq_false_of_ne h]

theorem lookup_insertEntry (es : List (String × β)) :
    (insertEntry k v es).lookup l = if l = k then some v else es.lookup l := by
  induction es with
  | nil => rw [insertEntry, lookup_cons_ite]
  | cons e es ih =>
    obtain ⟨m, w⟩ := e
    rw [insertEntry]
    by_cases hkm : k < m
    · rw [if_pos hkm, lookup_cons_ite]
    · rw [if_neg hkm]
      by_cases hmk : m < k
      · -- the new entry comes later, so this one is found first under its own key
        have hne : m ≠ k := String.ne_of_lt hmk
        rw [if_pos hmk, lookup_cons_ite, lookup_cons_ite, ih]
        by_cases hl : l = m <;> simp [hl, hne]
      · obtain rfl : m = k := String.le_antisymm (String.not_lt.1 hkm) (String.not_lt.1 hmk)
        rw [if_neg hmk, lookup_cons_ite, lookup_cons_ite]
        by_cases hl : l = m <;> simp [hl]

theorem get?_insert (k l : String) (v : β) (d : Dict β) :
    (d.insert k v).get? l = if l = k then some v else d.get? l :=
  lookup_insertEntry d.entries

theorem get?_foldl_insert (keys : List String) (v : β) (d : Dict β) :
    (keys.foldl (fun d k ↦ d.insert k v) d).get? l
      = if l ∈ keys then some v else d.get? l := by
  induction keys generalizing d with
  | nil => simp
  | cons k keys ih =>
    rw [List.foldl_cons, ih, get?_insert]
    by_cases hl : l ∈ keys <;> simp [hl]

theorem mem_keys_insert (h : l ∈ (d.insert k v).keys) : l = k ∨ l ∈ d.keys := by
  obtain ⟨e, he, rfl⟩ := List.mem_map.1 h
  rcases fst_mem_insertEntry he with hk | ⟨f, hf, hfe⟩
  · exact .inl hk
  · exact .inr (List.mem_map.2 ⟨f, hf, hfe⟩)

/-! ## Dictionaries from their entries -/

/-- An entry whose key comes after all others is put at the end. -/
theorem insertEntry_append {es : List (String × β)} (h : ∀ e ∈ es, e.1 < k) :
    insertEntry k v es = es ++ [(k, v)] := by
  induction es with
  | nil => rfl
  | cons e es ih =>
    have hlt : e.1 < k := h e (by simp)
    have hnot : ¬k < e.1 := fun hgt ↦ String.lt_irrefl k (String.lt_trans hgt hlt)
    rw [insertEntry, if_neg hnot, if_pos hlt, ih fun f hf ↦ h f (by simp [hf])]
    rfl

/-- A dictionary is the one with its entries, since they are in the order of their keys. -/
theorem ofList_entries (d : Dict β) : ofList d.entries = d := by
  have hfold : ∀ (es : List (String × β)) (acc : Dict β),
      (acc.entries ++ es).Pairwise (fun a b ↦ a.1 < b.1) →
      (es.foldl (fun d e ↦ d.insert e.1 e.2) acc).entries = acc.entries ++ es := by
    intro es
    induction es with
    | nil => exact fun acc _ ↦ (List.append_nil _).symm
    | cons e es ih =>
      intro acc hsorted
      have hbefore : ∀ f ∈ acc.entries, f.1 < e.1 := fun f hf ↦
        (List.pairwise_append.1 hsorted).2.2 f hf e (by simp)
      have hinsert : (acc.insert e.1 e.2).entries = acc.entries ++ [e] :=
        insertEntry_append hbefore
      rw [List.foldl_cons, ih _ (by rwa [hinsert, List.append_assoc]), hinsert, List.append_assoc]
      rfl
  exact ext_entries (hfold d.entries {} d.sorted)

theorem mem_entries_foldl_insert {es : List (String × β)} (h : (es.map (·.1)).Nodup) (d : Dict β) :
    (k, v) ∈ (es.foldl (fun d e ↦ d.insert e.1 e.2) d).entries ↔
      (k, v) ∈ es ∨ (k ∉ es.map (·.1) ∧ (k, v) ∈ d.entries) := by
  induction es generalizing d with
  | nil => simp
  | cons e es ih =>
    obtain ⟨hnotMem, hrest⟩ := List.nodup_cons.1 h
    rw [List.foldl_cons, ih hrest, mem_entries_iff, get?_insert, mem_entries_iff]
    obtain ⟨l, w⟩ := e
    by_cases hk : k = l
    · have hvalue : v = w ↔ w = v := eq_comm
      simp [hk, hnotMem, hvalue, or_comm]
    · simp [hk]

theorem mem_entries_ofList {es : List (String × β)} (h : (es.map (·.1)).Nodup) {e : String × β} :
    e ∈ (ofList es).entries ↔ e ∈ es := by
  rw [ofList, mem_entries_foldl_insert h]
  exact or_iff_left fun hmem ↦ List.not_mem_nil hmem.2

end AlertOperator.Dict
