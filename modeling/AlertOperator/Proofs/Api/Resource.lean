import AlertOperator.Api.Resource
import AlertOperator.Proofs.Json.RoundTrip
import Mathlib.Data.List.Forall2

/-!
# Resources that are written and read

The operator knows a few fields of two resources that others write. What it has read it can write
and read again without loss, and fields that it does not know never make a difference, whether they
stand in the resource itself, in its specification or in its status.

Metadata belongs to the library of the API, and of what that library writes for metadata no more is
known than that it is metadata, and of what name. So a resource is written here with any metadata,
`ClusterVersion.written` and `Proxy.written`, and read back with that, whatever it is.

A reader looks at fields by their names, and members of other names are passed over. That is all
there is to unknown fields: those of a known name are the same before and after, `Widens.valuesOf`.
-/

namespace AlertOperator.Api

open Json (valuesOf fieldsOf? Exact)

/-! ## Members that are not declared -/

/-- `ns` has the members of `ms`, in their order, and others of names that are not `declared`. The
value of a member that was there may change as `change` allows. -/
inductive Widens (declared : List String) (change : String → Json → Json → Prop) :
    List (String × Json) → List (String × Json) → Prop
  | nil : Widens declared change [] []
  | keep {name : String} {v w : Json} {ms ns : List (String × Json)} (hv : change name v w)
    (h : Widens declared change ms ns) : Widens declared change ((name, v) :: ms) ((name, w) :: ns)
  | add {name : String} {v : Json} {ms ns : List (String × Json)} (hname : name ∉ declared)
    (h : Widens declared change ms ns) : Widens declared change ms ((name, v) :: ns)

/-- The value stays as it is. -/
def Stays (_ : String) (v w : Json) : Prop := v = w

/-- The value stays as it is or, if it is an object and one of the `parts`, gets members that are
not `declared`. -/
inductive WidensIn (parts declared : List String) : String → Json → Json → Prop
  | stays (name : String) (v : Json) : WidensIn parts declared name v v
  | obj {name : String} {ms ns : List (String × Json)} (hname : name ∈ parts)
    (h : Widens declared Stays ms ns) : WidensIn parts declared name (.obj ms) (.obj ns)

section Widens

variable {declared names : List String} {change : String → Json → Json → Prop}
  {ms ns : List (String × Json)} {name : String}

theorem Widens.valuesOf (h : Widens declared change ms ns) (hname : name ∈ declared) :
    List.Forall₂ (change name) (valuesOf name ms) (valuesOf name ns) := by
  induction h with
  | nil => exact .nil
  | @keep key v w ms ns hv h ih =>
    by_cases hkey : key = name
    · subst hkey
      simpa [Json.valuesOf] using And.intro hv ih
    · simpa [Json.valuesOf, hkey] using ih
  | @add key v ms ns hadd h ih =>
    have hkey : key ≠ name := by
      rintro rfl
      exact hadd hname
    simpa [Json.valuesOf, hkey] using ih

/-- What is read from the fields of an object is the same if it is the same for the first member of
each name, and no name occurs more often. -/
theorem bind_fieldsOf?_congr {β : Type} {least : Nat} {f : (String → Option Json) → Option β}
    (hlength : ∀ name ∈ names, (Json.valuesOf name ns).length = (Json.valuesOf name ms).length)
    (hf : f (fun name ↦ (Json.valuesOf name ns).head?)
      = f (fun name ↦ (Json.valuesOf name ms).head?)) :
    (fieldsOf? names least (.obj ns)).bind f = (fieldsOf? names least (.obj ms)).bind f := by
  have hall : names.all (fun name ↦ decide ((Json.valuesOf name ns).length ≤ 1))
      = names.all (fun name ↦ decide ((Json.valuesOf name ms).length ≤ 1)) := by
    rw [Bool.eq_iff_iff, List.all_eq_true, List.all_eq_true]
    refine forall₂_congr fun name hname ↦ ?_
    rw [hlength name hname]
  rw [fieldsOf?, fieldsOf?, hall]
  split
  · exact hf
  · rfl

/-- What is read from the fields of some names alone is not changed by members of other names. -/
theorem bind_fieldsOf?_widens {β : Type} {least : Nat} {f : (String → Option Json) → Option β}
    (h : Widens names Stays ms ns)
    (hf : ∀ g g' : String → Option Json, (∀ name ∈ names, g name = g' name) → f g = f g') :
    (fieldsOf? names least (.obj ns)).bind f = (fieldsOf? names least (.obj ms)).bind f := by
  have hvalues : ∀ name ∈ names, Json.valuesOf name ns = Json.valuesOf name ms := by
    intro name hname
    have hall := h.valuesOf hname
    exact (List.forall₂_eq_eq_eq ▸ hall : Json.valuesOf name ms = Json.valuesOf name ns).symm
  apply bind_fieldsOf?_congr
  · intro name hname
    rw [hvalues name hname]
  · refine hf _ _ fun name hname ↦ ?_
    rw [hvalues name hname]

/-- What is read from the first member of a declared name is the same if members that are not
declared make no difference within it. -/
theorem Widens.read_head? {β : Type} {parts inner : List String} (read : Option Json → β)
    (h : Widens declared (WidensIn parts inner) ms ns) (hname : name ∈ declared)
    (hread : name ∈ parts → ∀ {ms ns : List (String × Json)}, Widens inner Stays ms ns →
      read (some (.obj ns)) = read (some (.obj ms))) :
    read (Json.valuesOf name ns).head? = read (Json.valuesOf name ms).head? := by
  have hall := h.valuesOf hname
  generalize Json.valuesOf name ms = vs, Json.valuesOf name ns = ws at hall ⊢
  rcases hall with _ | ⟨hv, -⟩
  · rfl
  · rcases hv with _ | ⟨hpart, hinner⟩
    · rfl
    · exact hread hpart hinner

end Widens

/-! ## Specifications and the status -/

theorem ClusterVersionSpec.ofJson?_toJson (s : ClusterVersionSpec) :
    ClusterVersionSpec.ofJson? s.toJson = some s := by
  obtain ⟨id, channel⟩ := s
  rcases channel with _ | channel
  · rfl
  · rfl

theorem ProxySpec.ofJson?_toJson (s : ProxySpec) : ProxySpec.ofJson? s.toJson = some s := by
  obtain ⟨http, https, no⟩ := s
  rcases http with _ | http
  all_goals rcases https with _ | https
  all_goals rcases no with _ | no
  all_goals rfl

section Inside

variable {ms ns : List (String × Json)}

theorem ClusterVersionSpec.ofJson?_widens (h : Widens ["clusterID", "channel"] Stays ms ns) :
    ClusterVersionSpec.ofJson? (.obj ns) = ClusterVersionSpec.ofJson? (.obj ms) := by
  apply bind_fieldsOf?_widens h
  intro g g' hg
  simp only [hg "clusterID" (by decide), hg "channel" (by decide)]

theorem ProxySpec.ofJson?_widens (h : Widens proxyFields Stays ms ns) :
    ProxySpec.ofJson? (.obj ns) = ProxySpec.ofJson? (.obj ms) := by
  apply bind_fieldsOf?_widens h
  intro g g' hg
  simp only [hg "httpProxy" (by decide), hg "httpsProxy" (by decide), hg "noProxy" (by decide)]

theorem ProxyStatus.ofJson?_widens (h : Widens proxyFields Stays ms ns) :
    ProxyStatus.ofJson? (.obj ns) = ProxyStatus.ofJson? (.obj ms) := by
  apply bind_fieldsOf?_widens h
  intro g g' hg
  simp only [hg "httpProxy" (by decide), hg "httpsProxy" (by decide), hg "noProxy" (by decide)]

end Inside

/-! ## Resources -/

/-- The version of a cluster as it is written with `m` for its metadata. -/
def ClusterVersion.written (m : Json) (v : ClusterVersion) : Json :=
  .obj [("apiVersion", .str resourceVersion), ("kind", .str "ClusterVersion"), ("metadata", m),
    ("spec", v.spec.toJson)]

/-- A proxy as it is written with `m` for its metadata. -/
def Proxy.written (m : Json) (p : Proxy) : Json :=
  .obj ([("apiVersion", .str resourceVersion), ("kind", .str "Proxy"), ("metadata", m),
    ("spec", p.spec.toJson)] ++ (p.status.map fun s ↦ ("status", s.toJson)).toList)

theorem ClusterVersion.toJson_eq (v : ClusterVersion) : v.toJson = v.written v.metadata.toJson :=
  rfl

theorem Proxy.toJson_eq (p : Proxy) : p.toJson = p.written p.metadata.toJson := rfl

/-- Of the metadata that the operator writes itself, the name is read. -/
theorem Metadata.ofField?_toJson (m : Metadata) :
    Metadata.ofField? (some m.toJson) = some { name := m.name } := by
  obtain ⟨name, created⟩ := m
  rcases name with _ | name
  · rfl
  · rfl

theorem ClusterVersion.ofJson?_written {m : Json} {metadata : Metadata}
    (h : Metadata.ofField? (some m) = some metadata) (v : ClusterVersion) :
    ClusterVersion.ofJson? (v.written m) = some { v with metadata := metadata } := by
  have hread : ClusterVersion.ofJson? (v.written m) = (Metadata.ofField? (some m)).bind fun md ↦
      (ClusterVersionSpec.ofJson? v.spec.toJson).bind fun s ↦ some ⟨md, s⟩ := rfl
  rw [hread, h, ClusterVersionSpec.ofJson?_toJson]
  rfl

theorem Proxy.ofJson?_written {m : Json} {metadata : Metadata}
    (h : Metadata.ofField? (some m) = some metadata) (p : Proxy) :
    Proxy.ofJson? (p.written m) = some { p with metadata := metadata } := by
  have hread : Proxy.ofJson? (p.written m) = (Metadata.ofField? (some m)).bind fun md ↦
      (ProxySpec.ofJson? p.spec.toJson).bind fun spec ↦ some ⟨md, spec, p.status⟩ := by
    obtain ⟨md, spec, status⟩ := p
    rcases status with _ | status
    · rfl
    · rfl
  rw [hread, h, ProxySpec.ofJson?_toJson]
  rfl

/-! ## Texts of resources -/

theorem exact_optionalMember (name : String) (value : Option String) :
    ∀ m ∈ optionalMember name value, Exact m.2 := by
  rcases value with _ | s
  · exact List.forall_mem_nil _
  · exact List.forall_mem_singleton.2 (.str s)

theorem Metadata.exact_toJson (m : Metadata) : Exact m.toJson :=
  .obj (exact_optionalMember "name" m.name)

theorem ClusterVersionSpec.exact_toJson (s : ClusterVersionSpec) : Exact s.toJson :=
  .obj (List.forall_mem_cons.2 ⟨.str s.clusterId, exact_optionalMember "channel" s.channel⟩)

theorem ProxySpec.exact_toJson (s : ProxySpec) : Exact s.toJson := by
  refine .obj (List.forall_mem_append.2 ⟨List.forall_mem_append.2 ⟨?_, ?_⟩, ?_⟩)
  all_goals exact exact_optionalMember _ _

theorem ProxyStatus.exact_toJson (s : ProxyStatus) : Exact s.toJson := by
  refine .obj ?_
  simp only [List.forall_mem_cons, List.not_mem_nil, false_imp_iff, implies_true, and_true]
  exact ⟨.str _, .str _, .str _⟩

theorem exact_resourceJson {kind : String} {parts : List (String × Json)}
    (h : ∀ m ∈ parts, Exact m.2) (m : Metadata) : Exact (resourceJson kind m parts) := by
  refine .obj (List.forall_mem_append.2 ⟨?_, h⟩)
  simp only [List.forall_mem_cons, List.not_mem_nil, false_imp_iff, implies_true, and_true]
  exact ⟨.str _, .str _, m.exact_toJson⟩

theorem ClusterVersion.exact_toJson (v : ClusterVersion) : Exact v.toJson :=
  exact_resourceJson (List.forall_mem_singleton.2 v.spec.exact_toJson) v.metadata

theorem Proxy.exact_toJson (p : Proxy) : Exact p.toJson := by
  refine exact_resourceJson (List.forall_mem_cons.2 ⟨p.spec.exact_toJson, ?_⟩) p.metadata
  rcases p.status with _ | status
  · exact List.forall_mem_nil _
  · exact List.forall_mem_singleton.2 status.exact_toJson

theorem ClusterVersion.ofText_toJson (v : ClusterVersion) :
    (Json.read v.toJson.render).bind ClusterVersion.ofJson?
      = some { v with metadata := { name := v.metadata.name } } := by
  rw [Json.read_render v.exact_toJson, Option.bind_some, v.toJson_eq]
  exact ClusterVersion.ofJson?_written v.metadata.ofField?_toJson v

theorem Proxy.ofText_toJson (p : Proxy) : (Json.read p.toJson.render).bind Proxy.ofJson?
    = some { p with metadata := { name := p.metadata.name } } := by
  rw [Json.read_render p.exact_toJson, Option.bind_some, p.toJson_eq]
  exact Proxy.ofJson?_written p.metadata.ofField?_toJson p

/-! ## Resources that survive -/

/-- The version of a cluster with the given name and specification. -/
def ClusterVersion.new (name : String) (spec : ClusterVersionSpec) : ClusterVersion :=
  { metadata := { name := some name }, spec := spec }

/-- A proxy with the given name and specification, which has no status yet. -/
def Proxy.new (name : String) (spec : ProxySpec) : Proxy :=
  { metadata := { name := some name }, spec := spec }

/-- `m` is metadata with the given name, if any; what else is in it is open. -/
def IsMetadata (m : Json) (name : Option String) : Prop :=
  ∃ metadata, Metadata.ofField? (some m) = some metadata ∧ metadata.name = name

/-- The version of a cluster is written as something that is read, with the same name and
specification. -/
def ClusterVersion.Survives (v : ClusterVersion) : Prop :=
  ∀ m, IsMetadata m v.metadata.name → ∃ w, ClusterVersion.ofJson? (v.written m) = some w ∧
    w.metadata.name = v.metadata.name ∧ w.spec = v.spec

/-- A proxy is written as something that is read, with the same name, specification and status. -/
def Proxy.Survives (p : Proxy) : Prop :=
  ∀ m, IsMetadata m p.metadata.name → ∃ q, Proxy.ofJson? (p.written m) = some q ∧
    q.metadata.name = p.metadata.name ∧ q.spec = p.spec ∧ q.status = p.status

theorem ClusterVersion.survives (v : ClusterVersion) : v.Survives := by
  rintro m ⟨metadata, hm, hname⟩
  exact ⟨_, ClusterVersion.ofJson?_written hm v, hname, rfl⟩

theorem Proxy.survives (p : Proxy) : p.Survives := by
  rintro m ⟨metadata, hm, hname⟩
  exact ⟨_, Proxy.ofJson?_written hm p, hname, rfl, rfl⟩

/-! ## Members that make no difference -/

/-- The members of the version of a cluster, with others that are not declared beside them or in
the specification. -/
def ClusterVersion.Wider : List (String × Json) → List (String × Json) → Prop :=
  Widens ["metadata", "spec"] (WidensIn ["spec"] ["clusterID", "channel"])

/-- The members of a proxy, with others that are not declared beside them or in the specification or
the status. -/
def Proxy.Wider : List (String × Json) → List (String × Json) → Prop :=
  Widens ["metadata", "spec", "status"] (WidensIn ["spec", "status"] proxyFields)

section Wider

variable {ms ns : List (String × Json)}

theorem ClusterVersion.ofJson?_wider (h : ClusterVersion.Wider ms ns) :
    ClusterVersion.ofJson? (.obj ns) = ClusterVersion.ofJson? (.obj ms) := by
  have hmetadata : Metadata.ofField? (Json.valuesOf "metadata" ns).head?
      = Metadata.ofField? (Json.valuesOf "metadata" ms).head? :=
    h.read_head? _ (by decide) fun hpart ↦ absurd hpart (by decide)
  have hspec : (Json.valuesOf "spec" ns).head?.bind ClusterVersionSpec.ofJson?
      = (Json.valuesOf "spec" ms).head?.bind ClusterVersionSpec.ofJson? :=
    h.read_head? (·.bind ClusterVersionSpec.ofJson?) (by decide)
      fun _ _ _ hin ↦ ClusterVersionSpec.ofJson?_widens hin
  apply bind_fieldsOf?_congr
  · intro name hname
    exact (h.valuesOf hname).length_eq.symm
  · simp only [hmetadata, hspec]

theorem Proxy.ofJson?_wider (h : Proxy.Wider ms ns) :
    Proxy.ofJson? (.obj ns) = Proxy.ofJson? (.obj ms) := by
  have hmetadata : Metadata.ofField? (Json.valuesOf "metadata" ns).head?
      = Metadata.ofField? (Json.valuesOf "metadata" ms).head? :=
    h.read_head? _ (by decide) fun hpart ↦ absurd hpart (by decide)
  have hspec : (Json.valuesOf "spec" ns).head?.bind ProxySpec.ofJson?
      = (Json.valuesOf "spec" ms).head?.bind ProxySpec.ofJson? :=
    h.read_head? (·.bind ProxySpec.ofJson?) (by decide)
      fun _ _ _ hin ↦ ProxySpec.ofJson?_widens hin
  have hstatus : Proxy.statusOf? (Json.valuesOf "status" ns).head?
      = Proxy.statusOf? (Json.valuesOf "status" ms).head? :=
    h.read_head? _ (by decide)
      fun _ _ _ hin ↦ congrArg (·.map some) (ProxyStatus.ofJson?_widens hin)
  apply bind_fieldsOf?_congr
  · intro name hname
    exact (h.valuesOf hname).length_eq.symm
  · simp only [hmetadata, hspec, hstatus]

end Wider

/-! ## What holds of both resources -/

/-- New resources are read from their texts as they are, whatever texts are in them and whichever
parts they lack. What is read from any value survives being written with metadata of its name. And
members that are not declared, in a resource or in its parts, make no difference to whether it is
read and to what is read. -/
theorem resources_survive :
    (∀ name spec, (Json.read (ClusterVersion.new name spec).toJson.render).bind
      ClusterVersion.ofJson? = some (ClusterVersion.new name spec)) ∧
    (∀ name spec status, let p := { Proxy.new name spec with status := status }
      (Json.read p.toJson.render).bind Proxy.ofJson? = some p) ∧
    (∀ j, ∀ v ∈ ClusterVersion.ofJson? j, v.Survives) ∧
    (∀ j, ∀ p ∈ Proxy.ofJson? j, p.Survives) ∧
    (∀ ms ns, ClusterVersion.Wider ms ns →
      ClusterVersion.ofJson? (.obj ns) = ClusterVersion.ofJson? (.obj ms)) ∧
    ∀ ms ns, Proxy.Wider ms ns → Proxy.ofJson? (.obj ns) = Proxy.ofJson? (.obj ms) := by
  refine ⟨fun name spec ↦ ?_, fun name spec status ↦ ?_, fun j v _ ↦ v.survives,
    fun j p _ ↦ p.survives, fun ms ns ↦ ClusterVersion.ofJson?_wider,
    fun ms ns ↦ Proxy.ofJson?_wider⟩
  · exact ClusterVersion.ofText_toJson (ClusterVersion.new name spec)
  · exact Proxy.ofText_toJson { Proxy.new name spec with status := status }

/-- Metadata as the API sends it. -/
def sentMetadata : Json :=
  .obj [("creationTimestamp", .str "2024-01-02T03:04:05Z"), ("name", .str "version")]

/-- The members of the version of a cluster that the operator knows. -/
def knownMembers : List (String × Json) :=
  [("metadata", sentMetadata), ("spec", .obj [("clusterID", .str "abc-123")])]

/-- All members of that version. -/
def sentMembers : List (String × Json) :=
  [("apiVersion", .str resourceVersion), ("kind", .str "ClusterVersion"),
    ("metadata", sentMetadata),
    ("spec", .obj [("upstream", .str "https://example.com"), ("clusterID", .str "abc-123")]),
    ("status", .obj [("desired", .obj [("version", .str "4.14.1")])])]

theorem sentMembers_wider : ClusterVersion.Wider knownMembers sentMembers := by
  have hspec : Widens ["clusterID", "channel"] Stays [("clusterID", .str "abc-123")]
      [("upstream", .str "https://example.com"), ("clusterID", .str "abc-123")] :=
    .add (by decide) (.keep rfl .nil)
  apply Widens.add (by decide)
  apply Widens.add (by decide)
  apply Widens.keep (.stays "metadata" sentMetadata)
  apply Widens.keep (.obj (by decide) hspec)
  exact .add (by decide) .nil

theorem resources_survive_version :
    IsMetadata sentMetadata (some "version") ∧
      ClusterVersion.ofJson? (.obj sentMembers) = ClusterVersion.ofJson? (.obj knownMembers) ∧
      ∃ v ∈ ClusterVersion.ofJson? (.obj knownMembers), v.spec.clusterId = "abc-123" ∧
        ∃ w, ClusterVersion.ofJson? (v.written sentMetadata) = some w ∧
          w.metadata.name = some "version" ∧ w.spec.clusterId = "abc-123" := by
  obtain ⟨-, -, hsurvives, -, hwider, -⟩ := resources_survive
  have hname : IsMetadata sentMetadata (some "version") := ⟨_, rfl, rfl⟩
  have hread : ClusterVersion.ofJson? (.obj knownMembers) = some _ := rfl
  obtain ⟨w, hw, hwname, hwspec⟩ := hsurvives _ _ hread sentMetadata hname
  exact ⟨hname, hwider _ _ sentMembers_wider, _, hread, rfl, w, hw, hwname, congrArg _ hwspec⟩

end AlertOperator.Api
