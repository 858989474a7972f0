import AlertOperator.Alertmanager.Document
import AlertOperator.Proofs.Dict
import AlertOperator.Proofs.Yaml.Values

/-!
# Reading configurations back

The node of a written configuration is read as the configuration, provided that it does not nest too
deeply, and fails to be read otherwise. Each part has one lemma that says so, and for a part that
is a record it follows from the order of the entries: those with the key of a field are the one
entry that was written for it, or none if it was empty.
-/

namespace AlertOperator.Alertmanager

open Yaml (Source Node Tree Decode field required fits fieldOf)

variable (src : Source) (d : Nat)

/-! ## Entries by their keys -/

section Keys

variable (p : String → Bool) (key : String)

@[simp] theorem keyed_textEntry (s : String) :
    Tree.keyed p (textEntry key s) = if p key then textEntry key s else [] := by
  rw [textEntry]
  split
  · exact (ite_self _).symm
  · exact Tree.keyed_cons p key _ []

@[simp] theorem keyed_textsEntry (ss : List String) :
    Tree.keyed p (textsEntry key ss) = if p key then textsEntry key ss else [] := by
  rw [textsEntry]
  split
  · exact (ite_self _).symm
  · exact Tree.keyed_cons p key _ []

@[simp] theorem keyed_dictEntry (dict : Dict String) :
    Tree.keyed p (dictEntry key dict) = if p key then dictEntry key dict else [] := by
  rw [dictEntry]
  split
  · exact (ite_self _).symm
  · exact Tree.keyed_cons p key _ []

@[simp] theorem keyed_listEntry {α : Type} (tree : α → Tree) (xs : List α) :
    Tree.keyed p (listEntry key tree xs) = if p key then listEntry key tree xs else [] := by
  rw [listEntry]
  split
  · exact (ite_self _).symm
  · exact Tree.keyed_cons p key _ []

@[simp] theorem keyed_optionEntry {α : Type} (tree : α → Tree) (x : Option α) :
    Tree.keyed p (optionEntry key tree x) = if p key then optionEntry key tree x else [] := by
  cases x with
  | none => exact (ite_self _).symm
  | some x => exact Tree.keyed_cons p key _ []

end Keys

/-! ## Fields -/

@[simp] theorem fieldOf_textEntry (key s : String) :
    fieldOf (textEntry key s) "" src.text = pure s := by
  rw [textEntry]
  split
  · rename_i h
    rw [h]
    rfl
  · rfl

@[simp] theorem fieldOf_textsEntry (key : String) (ss : List String) :
    fieldOf (textsEntry key ss) [] (src.texts d)
      = fits (Tree.entriesDepth (textsEntry key ss)) d (pure ss) := by
  rw [textsEntry]
  split
  · rename_i h
    rw [List.isEmpty_iff.1 h]
    exact Yaml.fits_zero.symm
  · rw [Tree.entriesDepth, Tree.entriesDepth, Nat.max_zero]
    exact src.texts_node d ss

theorem readDict_dictTree (dict : Dict String) :
    readDict src d (dictTree dict).node = fits (dictTree dict).depth d (pure dict) := by
  rw [readDict, dictTree, src.textEntries_node, Yaml.fits_bind, pure_bind, Dict.ofList_entries]

@[simp] theorem fieldOf_dictEntry (key : String) (dict : Dict String) :
    fieldOf (dictEntry key dict) {} (readDict src d)
      = fits (Tree.entriesDepth (dictEntry key dict)) d (pure dict) := by
  rw [dictEntry]
  split
  · rename_i h
    obtain rfl : dict = {} := Dict.ext_entries (List.isEmpty_iff.1 h)
    exact Yaml.fits_zero.symm
  · rw [Tree.entriesDepth, Tree.entriesDepth, Nat.max_zero]
    exact readDict_dictTree src d dict

theorem fieldOf_listEntry {α : Type} {read : Nat → Node → Decode α} {tree : α → Tree} (key : String)
    (h : ∀ x, read (d - 1) (tree x).node = fits (tree x).depth (d - 1) (pure x)) (xs : List α) :
    fieldOf (listEntry key tree xs) [] (src.list read d)
      = fits (Tree.entriesDepth (listEntry key tree xs)) d (pure xs) := by
  rw [listEntry]
  split
  · rename_i hnil
    rw [List.isEmpty_iff.1 hnil]
    exact Yaml.fits_zero.symm
  · rw [Tree.entriesDepth, Tree.entriesDepth, Nat.max_zero]
    exact src.list_node d xs fun x _ ↦ h x

/-- A part that may be absent, of a kind that is never read as an absent one. -/
theorem fieldOf_optionEntry {α : Type} {read : Node → Decode α} {tree : α → Tree} (key : String)
    (h : ∀ x, read (tree x).node = fits (tree x).depth d (pure x))
    (hsome : ∀ x, src.optional read (tree x).node = some <$> read (tree x).node) (x : Option α) :
    fieldOf (optionEntry key tree x) none (src.optional read)
      = fits (Tree.entriesDepth (optionEntry key tree x)) d (pure x) := by
  cases x with
  | none => exact Yaml.fits_zero.symm
  | some x =>
    rw [optionEntry, Yaml.fieldOf_singleton, hsome, h, Tree.entriesDepth_cons,
      Tree.entriesDepth_nil, Nat.max_zero]
    simp

@[simp] theorem entriesDepth_textEntry (key s : String) :
    Tree.entriesDepth (textEntry key s) = 0 := by
  rw [textEntry]
  split <;> simp

/-! ## Parts -/

theorem GlobalSettings.read_tree (g : GlobalSettings) :
    GlobalSettings.read src d g.tree.node = fits g.tree.depth d (pure g) := by
  rw [GlobalSettings.read, GlobalSettings.tree, src.entries_node]
  simp [textField, Yaml.field_nodes]

theorem HttpSettings.read_tree (h : HttpSettings) :
    HttpSettings.read src d h.tree.node = fits h.tree.depth d (pure h) := by
  rw [HttpSettings.read, HttpSettings.tree, src.entries_node]
  simp [textField, Yaml.field_nodes]

theorem InhibitRule.read_tree (i : InhibitRule) :
    InhibitRule.read src d i.tree.node = fits i.tree.depth d (pure i) := by
  rw [InhibitRule.read, InhibitRule.tree, src.entries_node]
  simp [dictField, textsField, Yaml.field_nodes]

@[simp] theorem fieldOf_httpEntry (h : Option HttpSettings) :
    fieldOf (optionEntry "http_config" HttpSettings.tree h) none
        (src.optional (HttpSettings.read src d))
      = fits (Tree.entriesDepth (optionEntry "http_config" HttpSettings.tree h)) d (pure h) :=
  fieldOf_optionEntry src d _ (HttpSettings.read_tree src d) (fun _ ↦ src.optional_map _ _) h

@[simp] theorem entriesDepth_flagEntry (key : String) (b : Option Bool) :
    Tree.entriesDepth (optionEntry key Tree.flag b) = 0 := by
  cases b <;> simp [optionEntry]

@[simp] theorem fieldOf_flagEntry (key : String) (b : Option Bool) :
    fieldOf (optionEntry key Tree.flag b) none (src.optional src.flag) = pure b := by
  have hread : ∀ b, src.flag (Tree.flag b).node = fits (Tree.flag b).depth 0 (pure b) := by simp
  rw [fieldOf_optionEntry src 0 key hread (src.optional_flag _), entriesDepth_flagEntry,
    Yaml.fits_zero]

/-- The option shared by all notifiers is the only entry that a notifier does not know itself. -/
theorem sendResolvedField_nodes {es : List (String × Tree)} {known : List String} (b : Bool)
    (h : Tree.keyed (!known.contains ·) es = [("send_resolved", .flag b)]) :
    sendResolvedField src d (Tree.nodes es) known = pure b :=
  Yaml.gathered_nodes src d false h

theorem Webhook.read_tree (w : Webhook) :
    Webhook.read src d w.tree.node = fits w.tree.depth d (pure w) := by
  rw [Webhook.read, Webhook.tree, src.entries_node, Yaml.fits_bind, pure_bind]
  dsimp only
  rw [sendResolvedField_nodes src _ w.sendResolved (by simp),
    Yaml.required_nodes (t := .text w.url) (by simp)]
  simp [httpField, Yaml.field_nodes]

theorem Pagerduty.read_tree (p : Pagerduty) :
    Pagerduty.read src d p.tree.node = fits p.tree.depth d (pure p) := by
  rw [Pagerduty.read, Pagerduty.tree, src.entries_node, Yaml.fits_bind, pure_bind]
  dsimp only
  rw [sendResolvedField_nodes src _ p.sendResolved (by simp)]
  simp [httpField, textField, dictField, Yaml.field_nodes]

theorem Email.read_tree (e : Email) :
    Email.read src d e.tree.node = fits e.tree.depth d (pure e) := by
  rw [Email.read, Email.tree, src.entries_node, Yaml.fits_bind, pure_bind]
  dsimp only
  rw [sendResolvedField_nodes src _ e.sendResolved (by simp)]
  simp [textField, dictField, Yaml.field_nodes]

theorem Receiver.read_tree (r : Receiver) :
    Receiver.read src d r.tree.node = fits r.tree.depth d (pure r) := by
  rw [Receiver.read, Receiver.tree, src.entries_node, Yaml.fits_bind, pure_bind,
    Yaml.required_nodes (t := .text r.name) (by simp)]
  simp [Yaml.field_nodes, fieldOf_listEntry src (d - 1) _ (Pagerduty.read_tree src _),
    fieldOf_listEntry src (d - 1) _ (Webhook.read_tree src _),
    fieldOf_listEntry src (d - 1) _ (Email.read_tree src _)]

/-! ## Routing trees -/

theorem Route.trees_eq_map (rs : List Route) : Route.trees rs = rs.map Route.tree := by
  induction rs with
  | nil => rfl
  | cons r rs ih => rw [Route.trees, ih, List.map_cons]

theorem Route.tree_eq (r : Route) :
    r.tree = .map (textEntry "receiver" r.receiver ++ textsEntry "group_by" r.groupBy ++
      dictEntry "match" r.labels ++ dictEntry "match_re" r.patterns ++
      (if r.continues then [("continue", .flag true)] else []) ++
      listEntry "routes" Route.tree r.routes ++
      textEntry "group_wait" r.groupWait ++ textEntry "group_interval" r.groupInterval ++
      textEntry "repeat_interval" r.repeatInterval) := by
  obtain ⟨receiver, groupBy, labels, patterns, continues, routes, wait, interval, again⟩ := r
  cases routes with
  | nil => rw [Route.tree]; rfl
  | cons r rs => rw [Route.tree, Route.trees_eq_map]; rfl

@[simp] theorem keyed_continueEntry (p : String → Bool) (b : Bool) :
    Tree.keyed p (if b then [("continue", .flag true)] else [])
      = if p "continue" then (if b then [("continue", .flag true)] else []) else [] := by
  cases b <;> simp

@[simp] theorem fieldOf_continueEntry (b : Bool) :
    fieldOf (if b then [("continue", .flag true)] else []) false src.flag = pure b := by
  cases b <;> rfl

@[simp] theorem entriesDepth_continueEntry (b : Bool) :
    Tree.entriesDepth (if b then [("continue", .flag true)] else []) = 0 := by
  cases b <;> simp

theorem Route.readWith_tree {below : Node → Decode (List Route)} (r : Route)
    (h : fieldOf (listEntry "routes" Route.tree r.routes) [] below
      = fits (Tree.entriesDepth (listEntry "routes" Route.tree r.routes)) (d - 1)
        (pure r.routes)) :
    Route.readWith src below d r.tree.node = fits r.tree.depth d (pure r) := by
  rw [Route.readWith, Route.tree_eq, src.entries_node]
  -- the type is recursive, so a route is not by definition the one with its fields
  obtain ⟨receiver, groupBy, labels, patterns, continues, routes, wait, interval, again⟩ := r
  simp [textField, textsField, dictField, Yaml.field_nodes, h]

/-- Without a level left, only the absence of routes can be read. -/
theorem Route.fieldOf_routes {below : Node → Decode (List Route)}
    (h : ∀ r rs, below (Tree.seq ((r :: rs).map Route.tree)).node = failure) (rs : List Route) :
    fieldOf (listEntry "routes" Route.tree rs) [] below
      = fits (Tree.entriesDepth (listEntry "routes" Route.tree rs)) 0 (pure rs) := by
  cases rs with
  | nil => exact Yaml.fits_zero.symm
  | cons r rs =>
    have hdepth : 0 < Tree.entriesDepth (listEntry "routes" Route.tree (r :: rs)) := by
      rw [listEntry, if_neg (by simp), Tree.entriesDepth_cons, Tree.depth]
      omega
    rw [Yaml.fits_of_lt hdepth]
    exact h r rs

theorem Route.read_tree : ∀ (d : Nat) (r : Route),
    Route.read src d r.tree.node = fits r.tree.depth d (pure r)
  | 0, r => Route.readWith_tree src 0 r (Route.fieldOf_routes (fun _ _ ↦ rfl) r.routes)
  | 1, r => Route.readWith_tree src 1 r (Route.fieldOf_routes (fun _ _ ↦ rfl) r.routes)
  | d + 2, r => Route.readWith_tree src (d + 2) r
      (fieldOf_listEntry src (d + 1) "routes" (fun r ↦ Route.read_tree d r) r.routes)

/-! ## Configurations -/

theorem Config.read_tree (c : Config) :
    Config.read src d c.tree.node = fits c.tree.depth d (pure c) := by
  rw [Config.read, Config.tree, src.entries_node]
  have hroute := fieldOf_optionEntry src (d - 1) "route" (Route.read_tree src (d - 1))
    (fun r ↦ by rw [Route.tree_eq]; exact src.optional_map _ _) c.route
  have hglobal := fieldOf_optionEntry src (d - 1) "global" (GlobalSettings.read_tree src (d - 1))
    (fun _ ↦ src.optional_map _ _) c.global
  have hrules := fieldOf_listEntry src (d - 1) "inhibit_rules" (InhibitRule.read_tree src _)
    c.inhibitRules
  have hreceivers := fieldOf_listEntry src (d - 1) "receivers" (Receiver.read_tree src _)
    c.receivers
  simp [textsField, Yaml.field_nodes, hroute, hglobal, hrules, hreceivers, src.texts_node]

end AlertOperator.Alertmanager
