import AlertOperator.Proofs.Alertmanager.Names
import AlertOperator.Proofs.Alertmanager.ReadBack

/-!
# Documents of configurations, read back

A configuration in which no two receivers share a name can be written, and its document is read as
the same configuration, whatever texts stand in it. The one exception is a document that nests more
levels than the reader has, which is refused. Everything but the routing tree nests a few levels
only, so this is up to the depth of the routes.
-/

namespace AlertOperator.Alertmanager

open Yaml (Tree)

/-! ## The depth of the parts -/

section Depth

variable {α : Type} {n : Nat} (key : String)

theorem entriesDepth_listEntry_le_of_mem {tree : α → Tree} {xs : List α}
    (h : ∀ x ∈ xs, (tree x).depth ≤ n) : Tree.entriesDepth (listEntry key tree xs) ≤ n + 1 := by
  have hitems : Tree.itemsDepth (xs.map tree) ≤ n := Tree.itemsDepth_le fun t ht ↦ by
    obtain ⟨x, hx, rfl⟩ := List.mem_map.1 ht
    exact h x hx
  rw [listEntry]
  split
  · simp
  · rw [Tree.entriesDepth_cons, Tree.depth, Tree.entriesDepth_nil]
    omega

theorem entriesDepth_listEntry_le {tree : α → Tree} (h : ∀ x, (tree x).depth ≤ n) (xs : List α) :
    Tree.entriesDepth (listEntry key tree xs) ≤ n + 1 :=
  entriesDepth_listEntry_le_of_mem key fun x _ ↦ h x

theorem entriesDepth_textsEntry_le (ss : List String) :
    Tree.entriesDepth (textsEntry key ss) ≤ 1 := by
  have htext : ∀ s, (Tree.text s).depth ≤ 0 := fun s ↦ (Tree.depth_text s).le
  exact entriesDepth_listEntry_le key htext ss

theorem entriesDepth_dictEntry_le (d : Dict String) : Tree.entriesDepth (dictEntry key d) ≤ 1 := by
  rw [dictEntry]
  split <;> simp [dictTree]

theorem entriesDepth_optionEntry_le {tree : α → Tree} (h : ∀ x, (tree x).depth ≤ n)
    (x : Option α) : Tree.entriesDepth (optionEntry key tree x) ≤ n := by
  cases x with
  | none => simp [optionEntry]
  | some x => simpa [optionEntry] using h x

end Depth

theorem GlobalSettings.depth_tree_le (g : GlobalSettings) : g.tree.depth ≤ 1 := by
  simp [GlobalSettings.tree]

theorem HttpSettings.depth_tree_le (h : HttpSettings) : h.tree.depth ≤ 1 := by
  simp [HttpSettings.tree]

theorem InhibitRule.depth_tree_le (i : InhibitRule) : i.tree.depth ≤ 2 := by
  simp [InhibitRule.tree, entriesDepth_dictEntry_le, entriesDepth_textsEntry_le]

theorem Webhook.depth_tree_le (w : Webhook) : w.tree.depth ≤ 2 := by
  simp [Webhook.tree, entriesDepth_optionEntry_le _ HttpSettings.depth_tree_le]

theorem Pagerduty.depth_tree_le (p : Pagerduty) : p.tree.depth ≤ 2 := by
  simp [Pagerduty.tree, entriesDepth_dictEntry_le,
    entriesDepth_optionEntry_le _ HttpSettings.depth_tree_le]

theorem Email.depth_tree_le (e : Email) : e.tree.depth ≤ 2 := by
  simp [Email.tree, entriesDepth_dictEntry_le]

theorem Receiver.depth_tree_le (r : Receiver) : r.tree.depth ≤ 4 := by
  have hpagerduty :=
    entriesDepth_listEntry_le "pagerduty_configs" Pagerduty.depth_tree_le r.pagerduty
  have hwebhooks := entriesDepth_listEntry_le "webhook_configs" Webhook.depth_tree_le r.webhooks
  have hemails := entriesDepth_listEntry_le "email_configs" Email.depth_tree_le r.emails
  rw [Receiver.tree]
  simp only [Tree.depth_map, Tree.entriesDepth_append, Tree.entriesDepth_cons,
    Tree.entriesDepth_nil, Tree.depth_text]
  omega

/-- Routes nest two levels for each route on the way down. -/
theorem Route.depth_tree_le {r : Route} {n : Nat} (h : ∀ s ∈ r.routes, s.tree.depth ≤ n) :
    r.tree.depth ≤ n + 2 := by
  have hroutes := entriesDepth_listEntry_le_of_mem "routes" h
  have htexts := entriesDepth_textsEntry_le "group_by" r.groupBy
  have hlabels := entriesDepth_dictEntry_le "match" r.labels
  have hpatterns := entriesDepth_dictEntry_le "match_re" r.patterns
  rw [Route.tree_eq]
  simp only [Tree.depth_map, Tree.entriesDepth_append, entriesDepth_textEntry,
    entriesDepth_continueEntry]
  omega

/-- Only the routes of a configuration can nest more than six levels. -/
theorem Config.lt_depth_tree (c : Config) {d : Nat} (hd : 6 ≤ d) :
    d < c.tree.depth ↔ ∃ r ∈ c.route, d ≤ r.tree.depth := by
  have hglobal := entriesDepth_optionEntry_le "global" GlobalSettings.depth_tree_le c.global
  have hrules := entriesDepth_listEntry_le "inhibit_rules" InhibitRule.depth_tree_le c.inhibitRules
  have hreceivers := entriesDepth_listEntry_le "receivers" Receiver.depth_tree_le c.receivers
  have htemplates : (Tree.seq (c.templates.map .text)).depth ≤ 1 := by
    rw [Tree.depth]
    exact Nat.succ_le_succ (Tree.itemsDepth_le (by simp))
  rw [Config.tree]
  simp only [Tree.depth_map, Tree.entriesDepth_append, Tree.entriesDepth_cons,
    Tree.entriesDepth_nil]
  rcases c.route with _ | r
  · rw [optionEntry, Tree.entriesDepth_nil]
    constructor
    · intro h
      omega
    · rintro ⟨r, hr, -⟩
      exact absurd hr (by simp)
  · rw [optionEntry, Tree.entriesDepth_cons, Tree.entriesDepth_nil]
    constructor
    · exact fun h ↦ ⟨r, rfl, by omega⟩
    · rintro ⟨_, ⟨⟩, h⟩
      omega

/-! ## Round trip -/

theorem Config.decode?_render (c : Config) :
    Yaml.decode? Config.read c.tree.render
      = if c.tree.depth ≤ Yaml.maxDepth then some c else none := by
  obtain ⟨e, es, htree⟩ : ∃ e es, c.tree = .map (e :: es) := by
    -- the templates are always written
    rw [Config.tree]
    obtain ⟨e, es, hes⟩ := List.exists_cons_of_ne_nil
      (List.append_ne_nil_of_right_ne_nil _ (List.cons_ne_nil _ _))
    exact ⟨e, es, congrArg _ hes⟩
  have hread : ∀ src, Config.read src Yaml.maxDepth c.tree.node
      = Yaml.fits c.tree.depth Yaml.maxDepth (pure c) := fun src ↦ Config.read_tree src _ c
  rw [htree] at hread ⊢
  exact Yaml.decode?_render e es hread

/-- A configuration in which no two receivers share a name can be written, and its document is read
as the same configuration, unless its routes nest more levels than the reader has: then the document
is refused. -/
theorem Config.ofYaml_toYaml (c : Config) (h : (c.receivers.map (·.name)).Nodup) :
    ∃ text, c.toYaml = .ok text ∧
      Config.ofYaml text
        = (if c.tree.depth ≤ Yaml.maxDepth then .ok c else .error .decode) ∧
      (Yaml.maxDepth < c.tree.depth ↔ ∃ r ∈ c.route, Yaml.maxDepth ≤ r.tree.depth) := by
  have hvalid : c.validate = .ok () := Config.validate_eq_ok_iff.2 h
  refine ⟨c.tree.render, ?_, ?_, c.lt_depth_tree (by decide)⟩
  · rw [Config.toYaml, hvalid]
    rfl
  · rw [Config.ofYaml, Config.decode?_render]
    by_cases hd : c.tree.depth ≤ Yaml.maxDepth
    · rw [if_pos hd, if_pos hd]
      change (c.validate >>= fun _ ↦ pure c) = _
      rw [hvalid]
      rfl
    · rw [if_neg hd, if_neg hd]

/-- A configuration whose texts look like other values, or like the structure of a document. -/
def Config.misleading : Config :=
  { route := some {
      receiver := "null"
      labels := Dict.ofList [("true", "~"), ("- a: b", "")]
      routes := [{ receiver := "5", patterns := Dict.ofList [("namespace", "^a\nb\n\n$")] }] }
    receivers := [
      { name := "null" },
      { name := "5", webhooks := [{ sendResolved := true, url := "# ]\u0085\x7d" }] }] }

theorem Config.ofYaml_toYaml_misleading :
    (Config.misleading.receivers.map (·.name)).Nodup ∧
      ∃ text, Config.misleading.toYaml = .ok text ∧ Config.ofYaml text = .ok Config.misleading := by
  have hnodup : (Config.misleading.receivers.map (·.name)).Nodup := by decide
  obtain ⟨text, hwrite, hread, -⟩ := Config.ofYaml_toYaml Config.misleading hnodup
  rw [if_pos (by decide)] at hread
  exact ⟨hnodup, text, hwrite, hread⟩

end AlertOperator.Alertmanager
