import AlertOperator.Dict
import AlertOperator.Text.Bytes

/-!
# Objects of the cluster

The Kubernetes objects that the operator reads and writes, as far as it looks at them: secrets,
whose values are bytes, config maps, whose values are texts, and the job that tells whether a new
cluster has become ready. Metadata and data may be missing.
-/

namespace AlertOperator.Cluster

/-- A named collection of values. -/
structure Object (β : Type) where
  name : Option String := none
  ns : Option String := none
  /-- The beginning of the name, for objects whose name the cluster chooses. -/
  generateName : Option String := none
  data : Option (Dict β) := none
  deriving Inhabited, Repr

instance {β : Type} [DecidableEq β] : DecidableEq (Object β) := fun a b ↦
  decidable_of_iff
    (a.name = b.name ∧ a.ns = b.ns ∧ a.generateName = b.generateName ∧ a.data = b.data)
    ⟨fun ⟨h₁, h₂, h₃, h₄⟩ ↦ by cases a; cases b; simp_all, fun h ↦ by simp [h]⟩

/-- A secret. -/
abbrev Secret := Object Bytes

/-- A config map. -/
abbrev ConfigMap := Object String

namespace Object

variable {β : Type}

/-- The first object with the given name. -/
def find? (name : String) (objects : List (Object β)) : Option (Object β) :=
  objects.find? fun o ↦ o.name == some name

/-- The value under a key. -/
def value? (key : String) (o : Object β) : Option β := o.data.bind (·.get? key)

end Object

/-- How many pods of a job have succeeded, are running and have failed. -/
structure JobCounts where
  succeeded : Option Int := none
  active : Option Int := none
  failed : Option Int := none
  deriving DecidableEq, Inhabited, Repr

/-- A job, whose counts are missing until the cluster has looked at it. -/
structure Job where
  counts : Option JobCounts := none
  deriving DecidableEq, Inhabited, Repr

/-- What a job says about the readiness of the cluster. -/
inductive JobState where
  | missing
  | succeeded
  | active
  | failed
  deriving DecidableEq, Repr

/-- The state of a job that may be missing: it has succeeded once a pod has, and it has failed if no
pod has succeeded and none is running. -/
def JobState.of : Option Job → JobState
  | none => .missing
  | some job =>
    let counts := job.counts.getD {}
    if 0 < counts.succeeded.getD 0 then .succeeded
    else if 0 < counts.active.getD 0 then .active
    else .failed

end AlertOperator.Cluster
