import AlertOperator.Proofs.Watch.Loop
import AlertOperator.Watch.Event
import Mathlib.Logic.Relation

/-!
# The loop as a process

`Loop.pass` answers a request while nothing else happens. In the running operator a pass makes one
call after the other, and between two of them objects change, events arrive and timers end. Here a
pass is cut into its calls, and `Step` is one thing that happens, whichever may be next. A pass that
nothing comes between is the same as `Loop.pass`.

* The gate is asked in one step. It looks at the readiness job and the age of the cluster and at no
  secret or config map, and whatever its calls are answered, there is a state of the cluster in
  which they are answered so at once.
* A timer ends in two steps: its key is given free, and then its request is put into the queue. They
  make up `Loop.fire` if nothing comes between them.
* Events may be told in any order, a single one may stand for several changes of its object, and
  there may be events of objects that have not changed. Which object an event tells of is a matter
  of the event alone, `Event.Tells`; that the loop makes the request of that object of it is proved,
  `Event.Tells.request?`.
* The cluster may change at any time. How it may change is a parameter, as a relation of the cluster
  before and after and of the objects that events will tell of.
-/

namespace AlertOperator.Watch

open Alertmanager (Config)
open Cluster (Object Session World)
open Retry (Requeue)
open Time (Duration Instant)

/-! ## What events tell of -/

/-- The object goes by the namespace and the name of a request. -/
structure IsObject {β : Type} (r : Request) (o : Object β) : Prop where
  ns : o.ns = some r.ns
  name : o.name = some r.name

/-- The event tells of the object of a request: that it is there, has changed or is gone. -/
inductive Event.Tells {β : Type} (r : Request) : Event β → Prop
  | apply {o : Object β} (h : IsObject r o) : Tells r (.apply o)
  | initApply {o : Object β} (h : IsObject r o) : Tells r (.initApply o)
  | delete {o : Object β} (h : IsObject r o) : Tells r (.delete o)

section Tells

variable {β : Type} {r : Request} {o : Object β} {e : Event β}

theorem IsObject.requestOf (h : IsObject r o) : requestOf o = r := by
  rw [Watch.requestOf, h.ns, h.name]
  rfl

/-- Whatever an event tells of an object, the loop is to look at that object. -/
theorem Event.Tells.request? (h : e.Tells r) : e.request? = some r := by
  cases h with
  | apply h => exact congrArg some h.requestOf
  | initApply h => exact congrArg some h.requestOf
  | delete h => exact congrArg some h.requestOf

end Tells

/-! ## A pass, call by call -/

/-- The calls by which a pass reads what a configuration is made of, in order. -/
inductive Reading where
  | secrets
  | configMaps
  | proxy
  | clusterId
  deriving DecidableEq

/-- Makes a call and adds what it finds to what was found before. -/
def Reading.perform (ns : String) (found : Findings) (s : Session) : Reading → Findings × Session
  | .secrets =>
    let (listed, s) := s.listSecrets ns
    ({ found with secrets := orNothing [] listed }, s)
  | .configMaps =>
    let (listed, s) := s.listConfigMaps ns
    ({ found with configMaps := orNothing [] listed }, s)
  | .proxy =>
    let (address, s) := s.clusterProxy
    ({ found with clusterProxy := orNothing "" address }, s)
  | .clusterId =>
    let (id, s) := s.clusterId
    ({ found with clusterId := orNothing "" id }, s)

/-- How far a pass has come. -/
inductive Stage where
  /-- The gate is asked next, if the request needs a pass. -/
  | taken
  /-- The given call is made next. -/
  | reading (call : Reading) (found : Findings)
  /-- The configuration is written next, in the place of the one that is there. -/
  | replacing (found : Findings)
  /-- There was none, and the configuration is added next. -/
  | creating (found : Findings) (document : String)
  /-- The pass is over, and what follows its result is next. -/
  | ended (result : Except PassError Requeue)

namespace Stage

/-- The stage after a call has been made. -/
def afterReading (found : Findings) : Reading → Stage
  | .secrets => reading .configMaps found
  | .configMaps => reading .proxy found
  | .proxy => reading .clusterId found
  | .clusterId => replacing found

/-- The end of a pass whose configuration is written, or could not be. -/
def finish (found : Findings) (written : Bool) (o : Operator) (s : Session) :
    Stage × Operator × Session :=
  let o := if written then o else o.record Metrics.addWriteError
  let o := o.complete found found.inputs.config
  (ended (.ok o.requeue), o, s)

/-- Writes the configuration in the place of the one that is there. -/
def replace (found : Findings) (o : Operator) (s : Session) : Stage × Operator × Session :=
  match found.inputs.config.toYaml with
  | .error _ => finish found false o s
  | .ok document =>
    match s.replaceSecret (alertmanagerSecret o.settings.ns document) with
    | (.error (.notFound _), s) => (creating found document, o, s)
    | (.ok (), s) => finish found true o s
    | (.error _, s) => finish found false o s

/-- Adds the configuration. -/
def create (found : Findings) (document : String) (o : Operator) (s : Session) :
    Stage × Operator × Session :=
  match s.createSecret (alertmanagerSecret o.settings.ns document) with
  | (.ok (), s) => finish found true o s
  | (.error _, s) => finish found false o s

/-- Asks the gate. None if the operator stops. -/
def ask (present : Instant) (o : Operator) (s : Session) : Option (Stage × Operator × Session) :=
  (o.checkReady present s).map fun
    | (.error e, o, s) => (ended (.error ⟨e, o.requeue⟩), o, s)
    | (.ok ready, o, s) =>
      (reading .secrets { ready := ready, fedramp := o.settings.fedramp }, o, s)

/-- The next step of the pass that answers a request. None if the operator stops, and after the
end. -/
def step (present : Instant) (r : Request) (o : Operator) (s : Session) :
    Stage → Option (Stage × Operator × Session)
  | taken => if o.concerns r then ask present o s else some (ended (.ok .never), o, s)
  | reading call found =>
    let (found, s) := call.perform o.settings.ns found s
    some (afterReading found call, o, s)
  | replacing found => some (replace found o s)
  | creating found document => some (create found document o s)
  | ended _ => none

end Stage

/-! ## The process -/

/-- The state of the loop between two calls. -/
structure Process where
  loop : Loop
  /-- The request that is being answered, and how far its pass has come. -/
  pass : Option (Request × Stage) := none
  /-- The requests of timers that have ended and are not in the queue yet. -/
  expired : List Request := []
  /-- The changed objects that no event has told of yet. -/
  untold : List Request := []
  /-- The requests that have been answered, the last one first. -/
  answered : List Request := []

/-- Gives the key of a timer free, since it has come to its end. -/
def Loop.release (t : Timer) (l : Loop) : Loop :=
  { l with pending := l.pending.complete t.request.key, timers := l.timers.erase t }

theorem Loop.fire_eq (t : Timer) (l : Loop) : l.fire t = (l.release t).receive t.request := rfl

/-- Changes the cluster. -/
def Loop.withWorld (w : World) (l : Loop) : Loop :=
  { l with session := { l.session with world := w } }

namespace Process

/-- The loop of an operator with the given settings that has done nothing yet. -/
def start (settings : Settings) (w : World) : Process where
  loop := { operator := { settings := settings }, session := { world := w } }

/-- The process with the pass for `r` at another stage. -/
def going (p : Process) (r : Request) : Stage × Operator × Session → Process
  | (stage, o, s) =>
    { p with loop := { p.loop with operator := o, session := s }, pass := some (r, stage) }

/-- The next step of the loop itself: to take the request that has waited longest, to go on with the
pass under way, or to draw the consequences from its result. None if the loop waits or the operator
stops. -/
def advance (present : Instant) (p : Process) : Option Process :=
  match p.pass with
  | none =>
    match p.loop.queue with
    | [] => none
    | r :: rest => some { p with loop := { p.loop with queue := rest }, pass := some (r, .taken) }
  | some (r, .ended result) =>
    some { p with loop := p.loop.conclude r result, pass := none, answered := r :: p.answered }
  | some (r, stage) =>
    (stage.step present r p.loop.operator p.loop.session).map (p.going r)

/-- Some steps of the loop itself. -/
def run (present : Instant) : Nat → Process → Option Process
  | 0, p => some p
  | n + 1, p => (p.advance present).bind (run present n)

/-- What may happen outside: how the cluster may change, and which objects events will tell of. -/
abbrev Outside := World → World → List Request → Prop

/-- One thing that happens. -/
inductive Step (outside : Outside) : Process → Process → Prop
  /-- The loop goes on. -/
  | advance {p p' : Process} (present : Instant) (h : p.advance present = some p') :
    Step outside p p'
  /-- A timer comes to its end. -/
  | release {p : Process} {t : Timer} (h : t ∈ p.loop.timers) :
    Step outside p { p with loop := p.loop.release t, expired := t.request :: p.expired }
  /-- The request of a timer that has ended is put into the queue. -/
  | send {p : Process} {r : Request} (h : r ∈ p.expired) :
    Step outside p { p with loop := p.loop.receive r, expired := p.expired.erase r }
  /-- A watch tells something, after which `untold` is still to be told. -/
  | tell {p : Process} {β : Type} (e : Event β) (untold : List Request)
      (h : ∀ r ∈ p.untold, e.Tells r ∨ r ∈ untold) :
    Step outside p { p with loop := e.request?.elim p.loop p.loop.receive, untold := untold }
  /-- The cluster changes, and events will tell of `changes`. -/
  | outside {p : Process} {w : World} {changes : List Request}
      (h : outside p.loop.session.world w changes) :
    Step outside p { p with loop := p.loop.withWorld w, untold := changes ++ p.untold }
  /-- Time passes. -/
  | clock {p : Process} (now : Nat) : Step outside p { p with loop := { p.loop with now := now } }

/-- The second state can follow the first one. -/
abbrev Reachable (outside : Outside) : Process → Process → Prop :=
  Relation.ReflTransGen (Step outside)

end Process

/-! ## What the loop itself can do -/

theorem Stage.finish_eq (found : Findings) (written : Bool) (o : Operator) (s : Session) :
    ∃ o', o.Keeps o' ∧ o'.failures = o.failures ∧
      finish found written o s = (ended (.ok o.requeue), o', s) := by
  cases written with
  | true => exact ⟨o.complete found found.inputs.config, ⟨rfl, rfl, rfl⟩, rfl, rfl⟩
  | false =>
    exact ⟨(o.record Metrics.addWriteError).complete found found.inputs.config, ⟨rfl, rfl, rfl⟩,
      rfl, rfl⟩

theorem Stage.replace_cases (found : Findings) (o : Operator) (s : Session) :
    (∃ document s', replace found o s = (creating found document, o, s')) ∨
      ∃ written s', replace found o s = finish found written o s' := by
  rw [replace]
  split
  · exact .inr ⟨false, s, rfl⟩
  · split
    · exact .inl ⟨_, _, rfl⟩
    · exact .inr ⟨true, _, rfl⟩
    · exact .inr ⟨false, _, rfl⟩

theorem Stage.create_cases (found : Findings) (document : String) (o : Operator) (s : Session) :
    ∃ written s', create found document o s = finish found written o s' := by
  rw [create]
  split
  · exact ⟨true, _, rfl⟩
  · exact ⟨false, _, rfl⟩

theorem Process.advance_cases {present : Instant} {p p' : Process}
    (h : p.advance present = some p') :
    (∃ r rest, p.pass = none ∧ p.loop.queue = r :: rest ∧
      p' = { p with loop := { p.loop with queue := rest }, pass := some (r, .taken) }) ∨
    (∃ r result, p.pass = some (r, .ended result) ∧
      p' = { p with loop := p.loop.conclude r result, pass := none, answered := r :: p.answered }) ∨
    (∃ r stage x, p.pass = some (r, stage) ∧
      stage.step present r p.loop.operator p.loop.session = some x ∧ p' = p.going r x) := by
  rw [advance] at h
  rcases hpass : p.pass with _ | ⟨r, stage⟩
  · rw [hpass] at h
    rcases hqueue : p.loop.queue with _ | ⟨r, rest⟩
    · rw [hqueue] at h
      exact nomatch h
    · rw [hqueue] at h
      exact .inl ⟨r, rest, rfl, rfl, (Option.some.inj h).symm⟩
  · rw [hpass] at h
    cases stage with
    | ended result => exact .inr (.inl ⟨r, result, rfl, (Option.some.inj h).symm⟩)
    | _ =>
      obtain ⟨x, hx, rfl⟩ := Option.map_eq_some_iff.1 h
      exact .inr (.inr ⟨r, _, x, rfl, hx, rfl⟩)

/-! ## A pass that nothing comes between -/

namespace Stage

/-- The end of a pass that has found `found`. -/
def write (found : Findings) (o : Operator) (s : Session) : Stage × Operator × Session :=
  let (written, s) := writeConfig o.settings.ns found.inputs.config s
  finish found written o s

theorem replace_eq_write (found : Findings) (o : Operator) (s : Session) :
    replace found o s = write found o s ∨
      ∃ document s', replace found o s = (creating found document, o, s') ∧
        create found document o s' = write found o s := by
  rcases hyaml : found.inputs.config.toYaml with e | document
  · exact .inl (by simp only [replace, write, writeConfig, hyaml])
  rcases hreplace : s.replaceSecret (alertmanagerSecret o.settings.ns document) with ⟨e | _, s'⟩
  · cases e with
    | notFound text =>
      refine .inr ⟨document, s', by simp only [replace, hyaml, hreplace], ?_⟩
      simp only [create, write, writeConfig, hyaml, Session.upsertSecret, hreplace]
      rcases s'.createSecret (alertmanagerSecret o.settings.ns document) with ⟨_ | _, _⟩ <;> rfl
    | _ =>
      exact .inl (by simp only [replace, write, writeConfig, hyaml, Session.upsertSecret, hreplace])
  · exact .inl (by simp only [replace, write, writeConfig, hyaml, Session.upsertSecret, hreplace])

theorem write_ended (found : Findings) (o : Operator) (s : Session) :
    (write found o s).1 = ended (.ok (write found o s).2.1.requeue) := rfl

/-- What a pass behind the gate comes to, from its first call on. -/
theorem update_eq (ready : Bool) (o : Operator) (s : Session) :
    o.update ready s = ((write (o.gather ready s).1 o (o.gather ready s).2).2.1,
      (write (o.gather ready s).1 o (o.gather ready s).2).2.2) := by
  simp only [Operator.update, Operator.write, write, finish]
  rcases writeConfig o.settings.ns (o.gather ready s).1.inputs.config (o.gather ready s).2 with
    ⟨_ | _, _⟩ <;> rfl

end Stage

namespace Process

variable {present : Instant} {p p' p'' : Process} {r : Request}

/-- Some steps of the loop itself lead from one state to another. -/
def Leads (present : Instant) (p p' : Process) : Prop := ∃ n, run present n p = some p'

theorem run_add (m n : Nat) (p : Process) :
    run present (m + n) p = (run present m p).bind (run present n) := by
  induction m generalizing p with
  | zero => rw [Nat.zero_add]; rfl
  | succ m ih =>
    rw [Nat.add_right_comm, run, run, Option.bind_assoc]
    exact congrArg _ (funext ih)

theorem Leads.trans (h : Leads present p p') (h' : Leads present p' p'') :
    Leads present p p'' := by
  obtain ⟨m, hm⟩ := h
  obtain ⟨n, hn⟩ := h'
  exact ⟨m + n, by rw [run_add, hm, Option.bind_some, hn]⟩

theorem leads_of_advance (h : p.advance present = some p') : Leads present p p' :=
  ⟨1, by rw [run, h]; rfl⟩

theorem Leads.reachable (h : Leads present p p') (outside : Outside) : Reachable outside p p' := by
  obtain ⟨n, hn⟩ := h
  induction n generalizing p with
  | zero =>
    obtain rfl := Option.some.inj hn
    exact .refl
  | succ n ih =>
    obtain ⟨q, hq, hrest⟩ := Option.bind_eq_some_iff.1 hn
    exact .head (.advance present hq) (ih hrest)

theorem advance_going {stage : Stage} (h : ∀ result, stage ≠ .ended result) (o : Operator)
    (s : Session) :
    (p.going r (stage, o, s)).advance present = (stage.step present r o s).map (p.going r) := by
  cases stage with
  | ended result => exact absurd rfl (h result)
  | _ => rfl

theorem leads_going (stage : Stage) {o : Operator} {s : Session} {x : Stage × Operator × Session}
    (h : stage.step present r o s = some x) :
    Leads present (p.going r (stage, o, s)) (p.going r x) := by
  apply leads_of_advance
  rw [advance_going (by rintro result rfl; exact nomatch h), h]
  rfl

theorem leads_gather (ready : Bool) (o : Operator) (s : Session) :
    Leads present
      (p.going r (.reading .secrets { ready := ready, fedramp := o.settings.fedramp }, o, s))
      (p.going r (.replacing (o.gather ready s).1, o, (o.gather ready s).2)) :=
  ⟨4, rfl⟩

theorem leads_write (found : Findings) (o : Operator) (s : Session) :
    Leads present (p.going r (.replacing found, o, s)) (p.going r (Stage.write found o s)) := by
  rcases Stage.replace_eq_write found o s with hone | ⟨document, s', hreplace, hcreate⟩
  · exact leads_going (.replacing found) (congrArg some hone)
  · exact (leads_going (.replacing found) (congrArg some hreplace)).trans
      (leads_going (.creating found document) (congrArg some hcreate))

/-- The stages of a pass that needs one lead to what `Operator.reconcile` says at once. -/
theorem leads_reconcile {o o' : Operator} {s s' : Session} {result : Except PassError Requeue}
    (h : o.reconcile present r s = some (result, o', s')) :
    Leads present (p.going r (.taken, o, s)) (p.going r (.ended result, o', s')) := by
  rw [Operator.reconcile] at h
  by_cases hc : o.concerns r = true
  · rw [if_pos hc] at h
    obtain ⟨⟨ready, o₁, s₁⟩, hask, heq⟩ := Option.map_eq_some_iff.1 h
    have hstep : Stage.step present r o s .taken = Stage.ask present o s := if_pos hc
    rw [Stage.ask, hask] at hstep
    refine (leads_going .taken hstep).trans ?_
    cases ready with
    | error e =>
      obtain ⟨⟩ := heq
      exact ⟨0, rfl⟩
    | ok ready =>
      have hwrite := (@leads_gather present p r ready o₁ s₁).trans
        (leads_write (o₁.gather ready s₁).1 o₁ (o₁.gather ready s₁).2)
      have hended := Stage.write_ended (o₁.gather ready s₁).1 o₁ (o₁.gather ready s₁).2
      dsimp only at heq ⊢
      rw [Stage.update_eq] at heq
      obtain ⟨⟩ := heq
      rw [← hended]
      exact hwrite
  · rw [if_neg hc] at h
    obtain ⟨⟩ := h
    exact leads_going .taken (if_neg hc)

/-- The steps of the loop that answer a request make up its pass. -/
theorem run_pass {rest : List Request} (hpass : p.pass = none) (hqueue : p.loop.queue = r :: rest) :
    ∃ n, run present n p = (p.loop.pass present).map fun l ↦
      { p with loop := l, answered := r :: p.answered } := by
  have htake : p.advance present
      = some ({ p with loop := { p.loop with queue := rest } }.going r
          (.taken, p.loop.operator, p.loop.session)) := by
    rw [advance, hpass, hqueue]
    rfl
  rw [Loop.pass, hqueue]
  dsimp only
  rcases hreconcile : p.loop.operator.reconcile present r p.loop.session with _ | ⟨result, o, s⟩
  · -- the operator stops when it asks the gate
    obtain ⟨n, hn⟩ := leads_of_advance htake
    refine ⟨n + 1, ?_⟩
    rw [run_add, hn, Option.bind_some, run]
    rw [Operator.reconcile] at hreconcile
    by_cases hc : p.loop.operator.concerns r = true
    · rw [if_pos hc, Option.map_eq_none_iff] at hreconcile
      have hstep : Stage.step present r p.loop.operator p.loop.session .taken = none := by
        rw [Stage.step, if_pos hc, Stage.ask, hreconcile]
        rfl
      rw [advance_going fun _ hended ↦ Stage.noConfusion hended, hstep]
      rfl
    · rw [if_neg hc] at hreconcile
      exact absurd hreconcile (Option.some_ne_none _)
  · have hend := (leads_of_advance htake).trans (leads_reconcile hreconcile)
    have hconclude : advance present ({ p with loop := { p.loop with queue := rest } }.going r
          (.ended result, o, s))
        = some { p with
            loop := { p.loop with queue := rest, operator := o, session := s }.conclude r result
            answered := r :: p.answered } := by
      rw [advance, going, ← hpass]
    exact hend.trans (leads_of_advance hconclude)

theorem reachable_pass {rest : List Request} {l : Loop} (hpass : p.pass = none)
    (hqueue : p.loop.queue = r :: rest) (h : p.loop.pass present = some l) (outside : Outside) :
    Reachable outside p { p with loop := l, answered := r :: p.answered } := by
  obtain ⟨n, hn⟩ := @run_pass present p r rest hpass hqueue
  rw [h] at hn
  exact Leads.reachable ⟨n, hn⟩ outside

theorem reachable_first {settings : Settings} {w : World} {β : Type} {e : Event β} {l : Loop}
    (he : e.request? = some r)
    (h : Loop.pass present { (start settings w).loop with queue := [r] } = some l)
    (outside : Outside) :
    Reachable outside (start settings w) { loop := l, answered := [r] } := by
  have htell := @Step.tell outside (start settings w) β e [] nofun
  rw [he] at htell
  exact .head htell (reachable_pass rfl rfl h outside)

end Process

end AlertOperator.Watch
