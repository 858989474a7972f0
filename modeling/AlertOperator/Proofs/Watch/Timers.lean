import AlertOperator.Proofs.Readiness
import AlertOperator.Proofs.Watch.Loop
import AlertOperator.Proofs.Watch.Process

/-!
# Timers of the loop

`Process.Timely` is what holds of the timers in every state that the loop can reach, however the
cluster changes meanwhile and whatever fails. The pending keys are those of the timers that run, no
two of which have the same key. Timers run, and failures are noted, for requests that need a pass
only. And as long as the gate is closed, a request that was answered once comes again: a timer runs
for it, or it is on its way to the queue, or in it, or being answered.

The last part needs to know what the pass under way will lead to. A pass that has found the cluster
not ready ends with a wish for the next one, since the gate has left one, and a pass that has found
it ready has opened the gate.
-/

namespace AlertOperator

open Cluster (Session World)
open Retry (Requeue)
open Time (Instant)

/-- What a pass has found of the readiness of the cluster agrees with the gate, which is open or has
a wish for the next pass. -/
def Operator.Judged (o : Operator) (ready : Bool) : Prop :=
  (ready = true ∧ o.gate.opened = true) ∨ (ready = false ∧ o.gate.requeue ≠ .never)

namespace Watch

/-! ## What a pass will lead to -/

/-- The pass for `r` will not leave the gate closed without starting a timer. -/
def Stage.Sound (o : Operator) (r : Request) : Stage → Prop
  | taken => True
  | reading _ found => o.concerns r = true ∧ o.Judged found.ready
  | replacing found => o.concerns r = true ∧ o.Judged found.ready
  | creating found _ => o.concerns r = true ∧ o.Judged found.ready
  | ended result =>
    (o.concerns r = true ∧ (result = .ok .never → o.gate.opened = true)) ∨
      (o.concerns r = false ∧ result = .ok .never)

namespace Stage

variable {o o' : Operator} {r : Request} {s s' : Session} {stage stage' : Stage} {present : Instant}

/-- What a step of a pass does to the operator. -/
structure Goes (o o' : Operator) : Prop where
  settings : o'.settings = o.settings
  assumed : o'.assumed = o.assumed
  failures : o'.failures = o.failures
  gate : o.gate.opened = true → o'.gate.opened = true

theorem finish_sound {found : Findings} (hassumed : o.assumed = none) (hc : o.concerns r = true)
    (hjudged : o.Judged found.ready) {written : Bool}
    (h : finish found written o s = (stage', o', s')) : Goes o o' ∧ stage'.Sound o' r := by
  obtain ⟨o₁, hkeeps, hfailures, hfinish⟩ := finish_eq found written o s
  rw [hfinish] at h
  obtain ⟨⟩ := h
  have hgate : o.gate.opened = true → o'.gate.opened = true := by
    rw [hkeeps.gate]
    exact id
  refine ⟨⟨hkeeps.settings, hkeeps.assumed, hfailures, hgate⟩, .inl ⟨?_, ?_⟩⟩
  · rwa [Operator.concerns_congr hkeeps.settings]
  · intro hnever
    rw [hkeeps.gate]
    rcases hjudged with ⟨-, hopened⟩ | ⟨-, hwish⟩
    · exact hopened
    · rw [o.requeue_eq hassumed] at hnever
      exact absurd (Except.ok.inj hnever) hwish

theorem ask_sound (hassumed : o.assumed = none) (hc : o.concerns r = true)
    (h : ask present o s = some (stage', o', s')) : Goes o o' ∧ stage'.Sound o' r := by
  rw [ask, Operator.checkReady_eq hassumed, Option.map_map] at h
  obtain ⟨c, hcheck, heq⟩ := Option.map_eq_some_iff.1 h
  obtain ⟨-, hcases⟩ := Gate.check_cases hcheck
  rcases hcases with ⟨⟨hopened, hready⟩, -⟩ | ⟨⟨hclosed, hnext⟩, hbefore, -⟩
  · rw [Function.comp_apply, hready] at heq
    obtain ⟨⟩ := heq
    exact ⟨⟨rfl, rfl, rfl, fun _ ↦ hopened⟩, hc, .inl ⟨rfl, hopened⟩⟩
  · have hgoes : Goes o { o with gate := c.gate } :=
      ⟨rfl, rfl, rfl, fun hopened ↦ Bool.noConfusion (hopened.symm.trans hbefore)⟩
    rcases hnext with ⟨hready, hwish⟩ | ⟨e, hready⟩
    · rw [Function.comp_apply, hready] at heq
      obtain ⟨⟩ := heq
      exact ⟨hgoes, hc, .inr ⟨rfl, hwish⟩⟩
    · rw [Function.comp_apply, hready] at heq
      obtain ⟨⟩ := heq
      exact ⟨hgoes, .inl ⟨hc, by rintro ⟨⟩⟩⟩

theorem step_sound (hassumed : o.assumed = none) (hsound : stage.Sound o r)
    (h : stage.step present r o s = some (stage', o', s')) : Goes o o' ∧ stage'.Sound o' r := by
  cases stage with
  | taken =>
    rw [step] at h
    by_cases hc : o.concerns r = true
    · rw [if_pos hc] at h
      exact ask_sound hassumed hc h
    · rw [if_neg hc] at h
      obtain ⟨⟩ := h
      exact ⟨⟨rfl, rfl, rfl, id⟩, .inr ⟨Bool.eq_false_iff.2 hc, rfl⟩⟩
  | reading call found =>
    change some (afterReading (call.perform o.settings.ns found s).1 call, o,
      (call.perform o.settings.ns found s).2) = _ at h
    rw [Option.some.injEq, Prod.mk.injEq, Prod.mk.injEq] at h
    obtain ⟨rfl, rfl, rfl⟩ := h
    refine ⟨⟨rfl, rfl, rfl, id⟩, ?_⟩
    cases call <;> exact hsound
  | replacing found =>
    obtain ⟨hc, hjudged⟩ := hsound
    have hreplace := Option.some.inj h
    rcases replace_cases found o s with ⟨document, s₁, heq⟩ | ⟨written, s₁, heq⟩
    · rw [heq] at hreplace
      obtain ⟨⟩ := hreplace
      exact ⟨⟨rfl, rfl, rfl, id⟩, hc, hjudged⟩
    · exact finish_sound hassumed hc hjudged (heq.symm.trans hreplace)
  | creating found document =>
    obtain ⟨written, s₁, heq⟩ := create_cases found document o s
    exact finish_sound hassumed hsound.1 hsound.2 (heq.symm.trans (Option.some.inj h))
  | ended result => exact absurd h.symm (Option.some_ne_none _)

end Stage

/-! ## The invariant -/

namespace Process

/-- The request will be looked at again without another event. -/
inductive Coming (p : Process) (r : Request) : Prop
  /-- A timer runs for it. -/
  | timer {t : Timer} (ht : t ∈ p.loop.timers) (hr : t.request = r)
  /-- Its timer has ended, and it is on its way to the queue. -/
  | expired (h : r ∈ p.expired)
  | queued (h : r ∈ p.loop.queue)
  /-- It is being answered. -/
  | answering {stage : Stage} (h : p.pass = some (r, stage))

/-- What holds of the timers in every reachable state. -/
structure Timely (settings : Settings) (p : Process) : Prop where
  settings : p.loop.operator.settings = settings
  assumed : p.loop.operator.assumed = none
  running : p.loop.stopped = false
  /-- The pending keys are those of the timers. -/
  keys : p.loop.pending.keys.Perm (p.loop.timers.map (·.request.key))
  distinct : p.loop.pending.keys.Nodup
  timers : ∀ t ∈ p.loop.timers, p.loop.operator.concerns t.request = true
  failures : ∀ k ∈ p.loop.operator.failures.keys,
    ∃ r, p.loop.operator.concerns r = true ∧ r.key = k
  pass : ∀ r stage, p.pass = some (r, stage) → stage.Sound p.loop.operator r
  answered : p.loop.operator.gate.opened = false →
    ∀ r ∈ p.answered, p.loop.operator.concerns r = true → p.Coming r

variable {settings : Settings} {p p' : Process} {r : Request}

theorem timely_start (settings : Settings) (w : World) : (start settings w).Timely settings where
  settings := rfl
  assumed := rfl
  running := rfl
  keys := .refl _
  distinct := .nil
  timers := nofun
  failures := nofun
  pass := nofun
  answered := nofun

/-! ## Preservation -/

theorem Timely.release (h : p.Timely settings) {t : Timer} (ht : t ∈ p.loop.timers) :
    Timely settings { p with loop := p.loop.release t, expired := t.request :: p.expired } where
  settings := h.settings
  assumed := h.assumed
  running := h.running
  keys := by
    have htimers : (p.loop.timers.map (·.request.key)).Perm
        (t.request.key :: (p.loop.timers.erase t).map (·.request.key)) :=
      (List.perm_cons_erase ht).map _
    have herase := (h.keys.trans htimers).erase t.request.key
    rw [List.erase_cons_head, h.distinct.erase_eq_filter] at herase
    exact herase
  distinct := h.distinct.filter _
  timers := fun u hu ↦ h.timers u (List.mem_of_mem_erase hu)
  failures := h.failures
  pass := h.pass
  answered := by
    intro hclosed r hr hc
    cases h.answered hclosed r hr hc with
    | @timer u hu hur =>
      -- its timer goes on, or it is the one that has ended
      by_cases hut : u = t
      · exact .expired (List.mem_cons.2 (.inl (by rw [← hur, hut])))
      · exact .timer ((List.mem_erase_of_ne hut).2 hu) hur
    | expired hmem => exact .expired (List.mem_cons_of_mem _ hmem)
    | queued hmem => exact .queued hmem
    | answering hpass => exact .answering hpass

/-- What happens outside the loop changes neither timers nor failures, and no request is lost. -/
theorem Timely.outside (h : p.Timely settings) (session : Session) (now : Nat)
    (queue expired untold : List Request)
    (hlost : ∀ r, r ∈ p.expired ∨ r ∈ p.loop.queue → r ∈ expired ∨ r ∈ queue) :
    Timely settings { p with
      loop := { p.loop with session := session, now := now, queue := queue }
      expired := expired
      untold := untold } where
  settings := h.settings
  assumed := h.assumed
  running := h.running
  keys := h.keys
  distinct := h.distinct
  timers := h.timers
  failures := h.failures
  pass := h.pass
  answered := by
    intro hclosed r hr hc
    cases h.answered hclosed r hr hc with
    | timer ht htr => exact .timer ht htr
    | expired hmem => exact (hlost r (.inl hmem)).elim (fun hx ↦ .expired hx) fun hx ↦ .queued hx
    | queued hmem => exact (hlost r (.inr hmem)).elim (fun hx ↦ .expired hx) fun hx ↦ .queued hx
    | answering hpass => exact .answering hpass

theorem Timely.send (h : p.Timely settings) (r : Request) :
    Timely settings { p with loop := p.loop.receive r, expired := p.expired.erase r } := by
  rw [p.loop.receive_eq r h.running]
  refine h.outside p.loop.session p.loop.now (p.loop.queue ++ [r]) (p.expired.erase r) p.untold ?_
  rintro x (hx | hx)
  · by_cases hxr : x = r
    · exact .inr (by simp [hxr])
    · exact .inl ((List.mem_erase_of_ne hxr).2 hx)
  · exact .inr (List.mem_append_left _ hx)

theorem Timely.tell (h : p.Timely settings) (r? : Option Request) (untold : List Request) :
    Timely settings { p with loop := r?.elim p.loop p.loop.receive, untold := untold } := by
  cases r? with
  | none => exact h.outside p.loop.session p.loop.now p.loop.queue p.expired untold fun _ hx ↦ hx
  | some r =>
    rw [Option.elim_some, p.loop.receive_eq r h.running]
    exact h.outside p.loop.session p.loop.now (p.loop.queue ++ [r]) p.expired untold fun x hx ↦
      hx.imp id (List.mem_append_left _)

theorem Timely.take (h : p.Timely settings) {rest : List Request} (hpass : p.pass = none)
    (hqueue : p.loop.queue = r :: rest) :
    Timely settings
      { p with loop := { p.loop with queue := rest }, pass := some (r, .taken) } where
  settings := h.settings
  assumed := h.assumed
  running := h.running
  keys := h.keys
  distinct := h.distinct
  timers := h.timers
  failures := h.failures
  pass := by
    rintro _ _ ⟨⟩
    trivial
  answered := by
    intro hclosed x hx hc
    cases h.answered hclosed x hx hc with
    | timer ht htr => exact .timer ht htr
    | expired hmem => exact .expired hmem
    | queued hmem =>
      -- the first request of the queue is the one that is answered now
      rw [hqueue, List.mem_cons] at hmem
      rcases hmem with rfl | hmem
      · exact .answering rfl
      · exact .queued hmem
    | answering hsome => exact nomatch hpass.symm.trans hsome

theorem Timely.going (h : p.Timely settings) {stage stage' : Stage} {o' : Operator} {s' : Session}
    {present : Instant} (hpass : p.pass = some (r, stage))
    (hstep : stage.step present r p.loop.operator p.loop.session = some (stage', o', s')) :
    Timely settings (p.going r (stage', o', s')) := by
  obtain ⟨hgoes, hsound⟩ := Stage.step_sound h.assumed (h.pass r stage hpass) hstep
  have hconcerns := Operator.concerns_congr hgoes.settings
  refine ⟨hgoes.settings.trans h.settings, hgoes.assumed.trans h.assumed, h.running, h.keys,
    h.distinct, ?_, ?_, ?_, ?_⟩
  · exact fun t ht ↦ (hconcerns _).trans (h.timers t ht)
  · intro k hk
    obtain ⟨x, hx, hkey⟩ := h.failures k (by rwa [← hgoes.failures])
    exact ⟨x, (hconcerns x).trans hx, hkey⟩
  · rintro _ _ ⟨⟩
    exact hsound
  · intro hclosed x hx hc
    -- the gate does not close, so it was closed before the step
    have hbefore : p.loop.operator.gate.opened = false := by
      rw [← Bool.not_eq_true]
      exact fun hopened ↦ nomatch (hgoes.gate hopened).symm.trans hclosed
    cases h.answered hbefore x hx ((hconcerns x).symm.trans hc) with
    | timer ht htr => exact .timer ht htr
    | expired hmem => exact .expired hmem
    | queued hmem => exact .queued hmem
    | answering hsome =>
      obtain ⟨rfl, -⟩ := Prod.mk.inj (Option.some.inj (hpass.symm.trans hsome))
      exact .answering rfl

theorem Timely.schedule (h : p.Timely settings) (hc : p.loop.operator.concerns r = true)
    (hkey : r.key ∉ p.loop.pending.keys) (due : Nat) :
    Timely settings { p with
      loop := { p.loop with
        pending := ⟨r.key :: p.loop.pending.keys⟩
        timers := p.loop.timers ++ [⟨due, r⟩] } } where
  settings := h.settings
  assumed := h.assumed
  running := h.running
  keys := by
    rw [List.map_append, List.map_singleton]
    exact (h.keys.cons r.key).trans (List.perm_append_singleton r.key _).symm
  distinct := List.nodup_cons.2 ⟨hkey, h.distinct⟩
  timers := by
    intro t ht
    rcases List.mem_append.1 ht with ht | ht
    · exact h.timers t ht
    · rw [List.mem_singleton.1 ht]
      exact hc
  failures := h.failures
  pass := h.pass
  answered := by
    intro hclosed x hx hxc
    cases h.answered hclosed x hx hxc with
    | timer ht htr => exact .timer (List.mem_append_left _ ht) htr
    | expired hmem => exact .expired hmem
    | queued hmem => exact .queued hmem
    | answering hpass => exact .answering hpass

theorem Timely.rest (h : p.Timely settings) {result : Except PassError Requeue}
    (hpass : p.pass = some (r, .ended result)) {o : Operator}
    (hkeeps : p.loop.operator.Keeps o)
    (hfailures : ∀ k ∈ o.failures.keys,
      k ∈ p.loop.operator.failures.keys ∨ (k = r.key ∧ result ≠ .ok .never))
    (htimer : p.loop.operator.gate.opened = false → p.loop.operator.concerns r = true →
      ∃ t ∈ p.loop.timers, t.request = r) :
    Timely settings { p with
      loop := { p.loop with operator := o }
      pass := none
      answered := r :: p.answered } := by
  have hconcerns := Operator.concerns_congr hkeeps.settings
  refine ⟨hkeeps.settings.trans h.settings, hkeeps.assumed.trans h.assumed, h.running, h.keys,
    h.distinct, ?_, ?_, nofun, ?_⟩
  · exact fun t ht ↦ (hconcerns _).trans (h.timers t ht)
  · intro k hk
    rcases hfailures k hk with hold | ⟨rfl, hresult⟩
    · obtain ⟨x, hx, hkey⟩ := h.failures k hold
      exact ⟨x, (hconcerns x).trans hx, hkey⟩
    · rcases h.pass r _ hpass with ⟨hc, -⟩ | ⟨-, hnever⟩
      · exact ⟨r, (hconcerns r).trans hc, rfl⟩
      · exact absurd hnever hresult
  · intro hclosed x hx hc
    have hbefore : p.loop.operator.gate.opened = false := by rwa [← hkeeps.gate]
    have hxc := (hconcerns x).symm.trans hc
    by_cases hxr : x = r
    · -- the request whose pass has ended
      obtain ⟨t, ht, htr⟩ := htimer hbefore (hxr ▸ hxc)
      exact .timer ht (htr.trans hxr.symm)
    · cases h.answered hbefore x ((List.mem_cons.1 hx).resolve_left hxr) hxc with
      | timer ht htr => exact .timer ht htr
      | expired hmem => exact .expired hmem
      | queued hmem => exact .queued hmem
      | answering hsome =>
        obtain ⟨hrx, -⟩ := Prod.mk.inj (Option.some.inj (hpass.symm.trans hsome))
        exact absurd hrx.symm hxr

theorem Timely.conclude (h : p.Timely settings) {result : Except PassError Requeue}
    (hpass : p.pass = some (r, .ended result)) :
    Timely settings
      { p with loop := p.loop.conclude r result, pass := none, answered := r :: p.answered } := by
  obtain ⟨o, hkeeps, hfailures, hcases⟩ := p.loop.conclude_cases r result
  have hsound := h.pass r _ hpass
  rcases hcases with ⟨hnever, heq⟩ | ⟨hresult, delay, heq⟩
  · rw [heq]
    refine h.rest hpass hkeeps hfailures fun hclosed hc ↦ ?_
    rcases hsound with ⟨-, hopened⟩ | ⟨hnot, -⟩
    · exact nomatch hclosed.symm.trans (hopened hnever)
    · exact nomatch hnot.symm.trans hc
  · have hc : p.loop.operator.concerns r = true :=
      hsound.elim And.left fun hnot ↦ absurd hnot.2 hresult
    rw [heq]
    rcases Loop.schedule_cases r { p.loop with operator := o } delay with
      ⟨hkey, hsame⟩ | ⟨hkey, due, hnew⟩
    · rw [hsame]
      refine h.rest hpass hkeeps hfailures fun _ _ ↦ ?_
      -- the timer with its key is one for the same request
      obtain ⟨t, ht, htkey⟩ := List.mem_map.1 (h.keys.subset hkey)
      exact ⟨t, ht, Operator.eq_of_key_eq (h.timers t ht) hc htkey⟩
    · rw [hnew]
      exact (h.schedule hc hkey due).rest hpass hkeeps hfailures fun _ _ ↦
        ⟨⟨due, r⟩, List.mem_append_right _ (List.mem_singleton_self _), rfl⟩

theorem Timely.advance (h : p.Timely settings) {present : Instant}
    (hadvance : p.advance present = some p') : p'.Timely settings := by
  rcases advance_cases hadvance with ⟨r, rest, hpass, hqueue, rfl⟩ | ⟨r, result, hpass, rfl⟩ |
    ⟨r, stage, x, hpass, hstep, rfl⟩
  · exact h.take hpass hqueue
  · exact h.conclude hpass
  · exact h.going hpass hstep

theorem Timely.step {outside : Outside} (h : p.Timely settings) (hstep : Step outside p p') :
    p'.Timely settings := by
  cases hstep with
  | advance present hadvance => exact h.advance hadvance
  | release ht => exact h.release ht
  | send hr => exact h.send _
  | tell e untold _ => exact h.tell e.request? untold
  | outside _ => exact h.outside _ p.loop.now p.loop.queue p.expired _ fun _ hx ↦ hx
  | clock now => exact h.outside p.loop.session now p.loop.queue p.expired p.untold fun _ hx ↦ hx

theorem timely_of_reachable {outside : Outside} {w : World}
    (h : Reachable outside (start settings w) p) : p.Timely settings := by
  induction h with
  | refl => exact timely_start settings w
  | tail _ hstep ih => exact ih.step hstep

/-! ## Timers in reachable states -/

/-- The two steps in which a timer ends make up its end. -/
theorem reachable_fire {outside : Outside} {t : Timer} (ht : t ∈ p.loop.timers) :
    Reachable outside p { p with loop := p.loop.fire t } := by
  have hsend : Step outside
      { p with loop := p.loop.release t, expired := t.request :: p.expired } _ :=
    .send (List.mem_cons_self ..)
  rw [List.erase_cons_head] at hsend
  exact .head (.release ht) (.single hsend)

/-- In every reachable state, however the cluster changes and whatever fails:

* the pending keys are those of the timers that run, and no two of these have the same key;
* a timer that ends gives its own key free and no other, and puts the request it was started for
  into the queue, once;
* the pending keys and those of failures are keys of objects in use in the namespace of the
  operator;
* while the gate is closed, a request with such a key that was answered once comes again: its timer
  runs or has just ended, or it is in the queue or being answered. -/
theorem timers_of_reachable {outside : Outside} {settings : Settings} {w : World} {p : Process}
    (h : Reachable outside (start settings w) p) :
    ((p.loop.timers.map (·.request.key)).Nodup ∧
      ∀ k, k ∈ p.loop.pending.keys ↔ k ∈ p.loop.timers.map (·.request.key)) ∧
    (∀ t ∈ p.loop.timers, Reachable outside p { p with loop := p.loop.fire t } ∧
      (p.loop.fire t).queue = p.loop.queue ++ [t.request] ∧
      (p.loop.fire t).timers = p.loop.timers.erase t ∧
      ∀ k, k ∈ (p.loop.fire t).pending.keys ↔ k ∈ p.loop.pending.keys ∧ k ≠ t.request.key) ∧
    (∀ k, k ∈ p.loop.pending.keys ∨ k ∈ p.loop.operator.failures.keys →
      ∃ name ∈ Cluster.watchedNames, k = settings.ns ++ "/" ++ name) ∧
    (p.loop.operator.gate.opened = false → ∀ r ∈ p.answered, '/' ∉ r.name.toList →
      ∀ name ∈ Cluster.watchedNames, r.key = settings.ns ++ "/" ++ name → p.Coming r) := by
  have htimely := timely_of_reachable h
  have hkey : ∀ {r : Request}, p.loop.operator.concerns r = true →
      ∃ name ∈ Cluster.watchedNames, r.key = settings.ns ++ "/" ++ name := by
    intro r hc
    obtain ⟨hns, hname⟩ := Operator.concerns_iff.1 hc
    exact ⟨r.name, hname, by rw [Request.key, hns, htimely.settings]⟩
  refine ⟨⟨htimely.keys.nodup htimely.distinct, fun k ↦ htimely.keys.mem_iff⟩, ?_, ?_, ?_⟩
  · intro t ht
    have hfire : p.loop.fire t
        = { p.loop.release t with queue := p.loop.queue ++ [t.request] } := by
      rw [Loop.fire_eq]
      exact Loop.receive_eq t.request _ (htimely.release ht).running
    refine ⟨reachable_fire ht, by rw [hfire], by rw [hfire]; rfl, fun k ↦ ?_⟩
    rw [hfire]
    change k ∈ p.loop.pending.keys.filter (· != t.request.key) ↔ _
    rw [List.mem_filter, bne_iff_ne]
  · -- keys are kept for requests that need a pass
    rintro k (hk | hk)
    · obtain ⟨t, ht, rfl⟩ := List.mem_map.1 (htimely.keys.subset hk)
      exact hkey (htimely.timers t ht)
    · obtain ⟨r, hc, rfl⟩ := htimely.failures k hk
      exact hkey hc
  · intro hclosed r hr hslash name hname hrkey
    refine htimely.answered hclosed r hr (Operator.concerns_iff.2 ?_)
    obtain ⟨hns, rfl⟩ :=
      Request.eq_of_key_eq hslash (Cluster.slash_not_mem_watchedNames name hname) hrkey
    exact ⟨by rw [hns, htimely.settings], hname⟩

/-- The key of PagerDuty has changed in a cluster that is not ready: it will be looked at again. -/
theorem timers_of_reachable_polling :
    ∃ p, Reachable (fun _ _ _ ↦ True) (start {} {}) p ∧ p.pass = none ∧ p.loop.queue = [] ∧
      p.Coming ⟨"openshift-monitoring", Cluster.pagerdutySecret⟩ := by
  let changed : Event Bytes :=
    .apply { name := some Cluster.pagerdutySecret, ns := some "openshift-monitoring" }
  let waiting : Loop :=
    { (start {} {}).loop with queue := [⟨"openshift-monitoring", Cluster.pagerdutySecret⟩] }
  obtain ⟨l, hl⟩ := Option.isSome_iff_exists.1 (show (waiting.pass ⟨0, 0⟩).isSome by decide)
  have hqueue : (waiting.pass ⟨0, 0⟩).map (·.queue) = some [] := by decide
  have hgate : (waiting.pass ⟨0, 0⟩).map (·.operator.gate.opened) = some false := by decide
  rw [hl] at hqueue hgate
  have hreach := reachable_first (e := changed) rfl hl fun _ _ _ ↦ True
  obtain ⟨-, -, -, hcoming⟩ := timers_of_reachable hreach
  exact ⟨_, hreach, rfl, Option.some.inj hqueue, hcoming (Option.some.inj hgate) _
    (List.mem_singleton_self _) (by decide) Cluster.pagerdutySecret (by decide) rfl⟩

end Process

end Watch

end AlertOperator
