import AlertOperator.Proofs.Findings
import AlertOperator.Proofs.Yaml.Values

/-!
# The namespaces whose alerts page

Two config maps list namespaces, and either the names of both are taken over or those of neither. A
list counts if it has entries. A config map that is missing, that has no document, or whose document
cannot be read has none, and neither has a document that leaves its list out.

The document of a list nests four levels, far less than the reader has, and each name stands in it
as a text. So every list is read back as it was written, whatever its names look like.
-/

namespace AlertOperator

open Cluster (ConfigMap Object)

/-! ## Documents with namespaces -/

namespace Yaml

variable (src : Source) (d : Nat)

theorem depth_namespace (name : String) : (Tree.map [("name", .text name)]).depth = 1 := by
  simp

theorem readNamespace_node (name : String) :
    readNamespace src d (Tree.map [("name", .text name)]).node
      = fits (Tree.map [("name", .text name)]).depth d (pure name) := by
  have hkeyed : Tree.keyed (· == "name") [("name", .text name)] = [("name", .text name)] := rfl
  rw [depth_namespace, readNamespace, src.entries_node, fits_bind, pure_bind,
    required_nodes hkeyed, src.text_node]

theorem readNamespaces_node (names : List String) : readNamespaces src d (namespacesTree names).node
    = fits (namespacesTree names).depth d (pure names) := by
  have hnames : src.list (readNamespace src) (d - 2)
        (Tree.seq (names.map fun n ↦ .map [("name", .text n)])).node
      = fits (Tree.seq (names.map fun n ↦ .map [("name", .text n)])).depth (d - 2) (pure names) :=
    src.list_node (d - 2) names fun name _ ↦ readNamespace_node src (d - 2 - 1) name
  have hlevels : d - 2 = d - 1 - 1 := rfl
  simp only [readNamespaces, namespacesTree, src.entries_node, fits_bind, pure_bind, field_nodes,
    Tree.keyed_cons, Tree.keyed_nil, beq_self_eq_true, if_true, fieldOf_singleton, hnames,
    Tree.depth_map, Tree.entriesDepth_cons, Tree.entriesDepth_nil, Nat.max_zero]
  rw [hlevels, fits_one_fits (d := d - 1), fits_one_fits]

theorem depth_namespacesTree_le (names : List String) : (namespacesTree names).depth ≤ 4 := by
  have hitems : Tree.itemsDepth (names.map fun n ↦ .map [("name", .text n)]) ≤ 1 := by
    refine Tree.itemsDepth_le fun t ht ↦ ?_
    obtain ⟨name, -, rfl⟩ := List.mem_map.1 ht
    exact (depth_namespace name).le
  simp only [namespacesTree, Tree.depth, Tree.entriesDepth, Nat.max_zero]
  omega

theorem decode?_namespacesTree (names : List String) :
    decode? readNamespaces (namespacesTree names).render = some names := by
  have hdepth : (namespacesTree names).depth ≤ maxDepth :=
    (depth_namespacesTree_le names).trans (by decide)
  have hread := decode?_render _ _ fun src ↦ readNamespaces_node src maxDepth names
  exact hread.trans (if_pos hdepth)

end Yaml

/-! ## Lists of namespaces in the cluster -/

/-- The first config map with the name `map` has a document that lists `names`, at least one. -/
structure Lists (maps : List ConfigMap) (map : String) (names : List String) : Prop where
  ne_nil : names ≠ []
  document : ∃ text, Place.find? ⟨map, Cluster.namespacesKey⟩ maps = some text ∧
    Yaml.decode? readNamespaces text = some names

/-- There are config maps with the name `map`, and all of these have the document of `names`. -/
structure Stores (maps : List ConfigMap) (map : String) (names : List String) : Prop where
  exists_mem : ∃ m ∈ maps, m.name = some map
  value? : ∀ m ∈ maps, m.name = some map →
    m.value? Cluster.namespacesKey = some (namespacesTree names).render

section Lists

variable {maps : List ConfigMap} {map : String} {names : List String}

theorem Stores.lists (h : Stores maps map names) (hne : names ≠ []) : Lists maps map names := by
  obtain ⟨m, hm⟩ : ∃ m, Object.find? map maps = some m := by
    obtain ⟨m, hmem, hname⟩ := h.exists_mem
    exact Option.isSome_iff_exists.1 (List.find?_isSome.2 ⟨m, hmem, beq_iff_eq.2 hname⟩)
  refine ⟨hne, (namespacesTree names).render, ?_, Yaml.decode?_namespacesTree names⟩
  rw [Place.find?, hm]
  exact h.value? m (List.mem_of_find?_eq_some hm) (Object.name_of_find? hm)

/-- Of all that can be found, or not found, only a list with entries counts. -/
theorem lists_iff : Lists maps map names ↔ listedNamespaces maps map = names ∧ names ≠ [] := by
  rw [listedNamespaces_eq]
  constructor
  · rintro ⟨hne, text, hfind, hread⟩
    rw [hfind, Option.bind_some, hread]
    exact ⟨rfl, hne⟩
  · rintro ⟨rfl, hne⟩
    refine ⟨hne, ?_⟩
    rcases hfind : Place.find? ⟨map, Cluster.namespacesKey⟩ maps with _ | text
    · rw [hfind] at hne
      exact absurd rfl hne
    · rcases hread : Yaml.decode? readNamespaces text with _ | read
      · rw [hfind, Option.bind_some, hread] at hne
        exact absurd rfl hne
      · exact ⟨text, rfl, by rw [Option.bind_some, hread, Option.getD_some]⟩

theorem exists_lists_iff : (∃ names, Lists maps map names) ↔ listedNamespaces maps map ≠ [] := by
  constructor
  · rintro ⟨names, h⟩
    obtain ⟨rfl, hne⟩ := lists_iff.1 h
    exact hne
  · exact fun hne ↦ ⟨_, lists_iff.2 ⟨rfl, hne⟩⟩

end Lists

theorem pagingNamespaces_of_lists {maps : List ConfigMap} {managed platform : List String}
    (hmanaged : Lists maps Cluster.managedNamespaces managed)
    (hplatform : Lists maps Cluster.platformNamespaces platform) :
    pagingNamespaces maps = managed.map exactly ++ platform.map exactly := by
  obtain ⟨hmanaged, hmanaged_ne⟩ := lists_iff.1 hmanaged
  obtain ⟨hplatform, hplatform_ne⟩ := lists_iff.1 hplatform
  rw [pagingNamespaces, hmanaged, hplatform, if_neg, List.map_append]
  simp [hmanaged_ne, hplatform_ne]

theorem pagingNamespaces_of_not_lists {maps : List ConfigMap}
    (h : ¬((∃ managed, Lists maps Cluster.managedNamespaces managed) ∧
      ∃ platform, Lists maps Cluster.platformNamespaces platform)) :
    pagingNamespaces maps = defaultNamespaces := by
  rw [exists_lists_iff, exists_lists_iff, not_and_or, not_not, not_not] at h
  rw [pagingNamespaces, if_pos]
  simpa using h

/-- The patterns are those of all names in both lists, the managed ones first, if the first config
map of each name has a list with entries. Otherwise they are the default ones. Lists that are stored
in the cluster are taken over name by name, whatever other config maps are there. -/
theorem pagingNamespaces_all_or_nothing (maps : List ConfigMap) :
    ((∃ managed platform, Lists maps Cluster.managedNamespaces managed ∧
        Lists maps Cluster.platformNamespaces platform ∧
        pagingNamespaces maps = managed.map exactly ++ platform.map exactly) ∨
      (¬((∃ managed, Lists maps Cluster.managedNamespaces managed) ∧
          ∃ platform, Lists maps Cluster.platformNamespaces platform) ∧
        pagingNamespaces maps = defaultNamespaces)) ∧
    pagingNamespaces maps ≠ [] ∧
    ∀ managed platform, managed ≠ [] → platform ≠ [] →
      Stores maps Cluster.managedNamespaces managed →
      Stores maps Cluster.platformNamespaces platform →
      pagingNamespaces maps = managed.map exactly ++ platform.map exactly := by
  refine (and_assoc.1 ⟨?_, fun managed platform hne hne' hstored hstored' ↦
    pagingNamespaces_of_lists (hstored.lists hne) (hstored'.lists hne')⟩)
  by_cases h : (∃ managed, Lists maps Cluster.managedNamespaces managed) ∧
    ∃ platform, Lists maps Cluster.platformNamespaces platform
  · obtain ⟨⟨managed, hmanaged⟩, platform, hplatform⟩ := h
    have hboth := pagingNamespaces_of_lists hmanaged hplatform
    refine ⟨.inl ⟨managed, platform, hmanaged, hplatform, hboth⟩, ?_⟩
    rw [hboth]
    simp [hmanaged.ne_nil]
  · have hdefault := pagingNamespaces_of_not_lists h
    refine ⟨.inr ⟨h, hdefault⟩, ?_⟩
    rw [hdefault]
    decide

/-- The config map with the name `map` and the document of `names`. -/
def namespacesMap (map : String) (names : List String) : ConfigMap where
  name := some map
  data := some (Dict.insert Cluster.namespacesKey (namespacesTree names).render {})

/-- A list is stored by one config map among others with other names. -/
theorem stores_namespacesMap (before after : List ConfigMap) {map : String} {names : List String}
    (hbefore : ∀ m ∈ before, m.name ≠ some map) (hafter : ∀ m ∈ after, m.name ≠ some map) :
    Stores (before ++ namespacesMap map names :: after) map names := by
  refine ⟨⟨namespacesMap map names, by simp, rfl⟩, fun m hm hname ↦ ?_⟩
  rw [List.mem_append, List.mem_cons] at hm
  rcases hm with hm | rfl | hm
  · exact absurd hname (hbefore m hm)
  · rfl
  · exact absurd hname (hafter m hm)

/-- Names that look like other values, some of them twice, in config maps that come in any order. -/
theorem pagingNamespaces_misleading :
    let managed := namespacesMap Cluster.managedNamespaces ["~", "a: b", "~", ""]
    let platform := namespacesMap Cluster.platformNamespaces ["5", "- \"\n"]
    let maps := [platform, { name := none }, { name := some Cluster.ocmAgentMap }, managed]
    Stores maps Cluster.managedNamespaces ["~", "a: b", "~", ""] ∧
      Stores maps Cluster.platformNamespaces ["5", "- \"\n"] ∧
      pagingNamespaces maps = ["^~$", "^a: b$", "^~$", "^$", "^5$", "^- \"\n$"] := by
  intro managed platform maps
  have hmanaged : Stores maps Cluster.managedNamespaces _ :=
    stores_namespacesMap [platform, { name := none }, { name := some Cluster.ocmAgentMap }] []
      (by decide) (by decide)
  have hplatform : Stores maps Cluster.platformNamespaces _ :=
    stores_namespacesMap [] _ (by decide) (by decide)
  have hboth := (pagingNamespaces_all_or_nothing maps).2.2 _ _ (by decide) (by decide) hmanaged
    hplatform
  exact ⟨hmanaged, hplatform, hboth.trans (by decide)⟩

end AlertOperator
