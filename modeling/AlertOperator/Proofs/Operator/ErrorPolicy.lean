import AlertOperator.Operator.ErrorPolicy
import AlertOperator.Proofs.Dict
import AlertOperator.Proofs.Operator.Pass
import AlertOperator.Proofs.Retry.Backoff

/-!
# What is noted of errors and successes

The operator is told of every pass how it has ended. An error with a wish has it granted, and
nothing is noted of it. Any other error is noted under the key of its request, and delays the
request by its own delays; a success starts these again.

All requests share one dictionary, so what keeps them apart are their keys. A key is read back from
its end, so that requests whose names have no slash are told apart, whatever their namespaces are.
What is noted of such a request is then a matter of what was told of it alone, and is known exactly,
`get?_failures_hearAll`: nothing until its first error without a wish, and from then on the number
of such errors since the last success, in 32 bits, with the delays after as many.
-/

namespace AlertOperator

open Retry (Backoff Failures Requeue)
open Time (Duration)

/-! ## Keys -/

theorem Cluster.slash_not_mem_watchedNames : ∀ name ∈ watchedNames, '/' ∉ name.toList := by decide

/-- A key is read back from its end: the name is what comes after the last slash. -/
theorem Request.eq_of_key_eq {r : Request} {ns name : String} (hr : '/' ∉ r.name.toList)
    (hname : '/' ∉ name.toList) (h : r.key = ns ++ "/" ++ name) : r.ns = ns ∧ r.name = name := by
  -- reversed, a key begins with its name and goes on with a slash
  have hback : ∀ {s : List Char} (t : List Char), '/' ∉ s →
      (t ++ ['/'] ++ s).reverse.takeWhile (· != '/') = s.reverse := by
    intro s t hs
    have hno : ∀ c ∈ s.reverse, (c != '/') = true := by
      intro c hc
      simpa using fun hcs ↦ hs (by simpa [hcs] using hc)
    rw [List.reverse_append, List.reverse_append, List.reverse_singleton, List.singleton_append,
      List.takeWhile_append_of_pos hno, List.takeWhile_cons_of_neg (by simp), List.append_nil]
  have hchars : r.ns.toList ++ ['/'] ++ r.name.toList = ns.toList ++ ['/'] ++ name.toList := by
    simpa [Request.key, String.toList_append] using congrArg String.toList h
  have hnames := congrArg (fun s ↦ s.reverse.takeWhile (· != '/')) hchars
  rw [hback _ hr, hback _ hname, List.reverse_inj] at hnames
  rw [hnames, List.append_left_inj, List.append_left_inj] at hchars
  exact ⟨String.toList_inj.1 hchars, String.toList_inj.1 hnames⟩

theorem Request.key_inj {r r' : Request} (hr : '/' ∉ r.name.toList) (hr' : '/' ∉ r'.name.toList) :
    r.key = r'.key ↔ r = r' := by
  constructor
  · intro h
    obtain ⟨hns, hname⟩ := eq_of_key_eq hr hr' h
    cases r
    cases r'
    rw [Request.mk.injEq]
    exact ⟨hns, hname⟩
  · rintro rfl
    rfl

namespace Operator

variable {o o' : Operator} {r r' : Request}

theorem concerns_congr (h : o'.settings = o.settings) (r : Request) :
    o'.concerns r = o.concerns r := by
  rw [concerns, h, concerns]

theorem eq_of_key_eq (h : o.concerns r = true) (h' : o.concerns r' = true)
    (hkey : r.key = r'.key) : r = r' := by
  obtain ⟨ns, name⟩ := r
  obtain ⟨ns', name'⟩ := r'
  obtain rfl : ns = ns' := (concerns_iff.1 h).1.trans (concerns_iff.1 h').1.symm
  have hname : ns ++ "/" ++ name = ns ++ "/" ++ name' := hkey
  rw [(String.append_right_inj (ns ++ "/")).1 hname]

/-! ## Failures -/

theorem resetBackoff_keeps (r : Request) (o : Operator) : o.Keeps (o.resetBackoff r) := by
  rw [resetBackoff]
  split
  · exact .rfl
  · split
    · exact ⟨rfl, rfl, rfl⟩
    · exact .rfl

theorem mem_failures_resetBackoff {k : String} (h : k ∈ (o.resetBackoff r).failures.keys) :
    k ∈ o.failures.keys := by
  rw [resetBackoff] at h
  split at h
  · exact h
  · split at h
    · rename_i hget
      rcases Dict.mem_keys_insert h with rfl | hk
      · exact Dict.mem_keys_of_get? hget
      · exact hk
    · exact h

theorem handleError_keeps (immediate : Duration) (r : Request) (e : PassError) (o : Operator) :
    o.Keeps (o.handleError immediate r e).2 := by
  rw [handleError]
  dsimp only
  split
  · exact ⟨rfl, rfl, rfl⟩
  · rw [backOff]
    split
    all_goals exact ⟨rfl, rfl, rfl⟩

theorem mem_failures_handleError {immediate : Duration} {e : PassError} {k : String}
    (h : k ∈ (o.handleError immediate r e).2.failures.keys) : k = r.key ∨ k ∈ o.failures.keys := by
  rw [handleError] at h
  dsimp only at h
  split at h
  · exact .inr h
  · rw [backOff] at h
    split at h
    · exact .inr h
    · exact Dict.mem_keys_insert h

end Operator

/-! ## One report -/

theorem Retry.Requeue.delay_eq_none {requeue : Requeue} {immediate : Duration} :
    requeue.delay immediate = none ↔ requeue = .never := by
  cases requeue with
  | never => exact ⟨fun _ ↦ rfl, fun _ ↦ rfl⟩
  | _ => exact ⟨nofun, nofun⟩

namespace Retry.Failures

variable (least most : Duration)

/-- The failures of a request that has failed some times. -/
def after (n : Nat) : Failures := ⟨Backoff.after least most n, .ofNat n⟩

theorem next_increment_after (n : Nat) :
    (after least most n).increment.next.2 = after least most (n + 1) := by
  have hcount : UInt32.ofNat (n + 1) = UInt32.ofNat n + 1 := UInt32.ofNat_add n 1
  rw [after, after, hcount]
  rfl

theorem count_after {n : Nat} (h : n < 2 ^ 32) : (after least most n).count.toNat = n :=
  UInt32.toNat_ofNat_of_lt' h

theorem reset_after (n : Nat) : (after least most n).reset = after least most 0 := by
  rw [reset, after, Backoff.reset_after, after]
  rfl

end Retry.Failures

theorem PassError.wish_bind_delay (e : PassError) (immediate : Duration) :
    e.wish.bind (Requeue.delay immediate) = e.requeue.delay immediate := by
  obtain ⟨cause, requeue⟩ := e
  cases requeue with
  | _ => rfl

namespace Operator

variable {o : Operator} {r : Request} {e : PassError} {immediate delay : Duration}

theorem handleError_of_wish (h : e.requeue.delay immediate = some delay) (r : Request)
    (o : Operator) : (o.handleError immediate r e).1 = delay ∧
      (o.handleError immediate r e).2.failures = o.failures := by
  rw [handleError]
  dsimp only
  rw [PassError.wish_bind_delay, h]
  exact ⟨rfl, rfl⟩

theorem handleError_of_never (h : e.requeue = .never) (habandoned : o.abandoned = false)
    (immediate : Duration) (r : Request) :
    (o.handleError immediate r e).1 = (o.failuresOf r).backoff.next.1 ∧
      (o.handleError immediate r e).2.failures
        = o.failures.insert r.key (o.failuresOf r).increment.next.2 := by
  have hopen : ¬(o.record Metrics.addError).abandoned = true := ne_true_of_eq_false habandoned
  rw [handleError]
  dsimp only
  rw [PassError.wish_bind_delay, h, Requeue.delay]
  dsimp only
  rw [backOff, if_neg hopen]
  exact ⟨rfl, rfl⟩

theorem abandoned_handleError (immediate : Duration) (r : Request) (e : PassError) (o : Operator) :
    (o.handleError immediate r e).2.abandoned = o.abandoned := by
  rw [handleError]
  dsimp only
  split
  · rfl
  · rw [backOff]
    split
    all_goals rfl

theorem resetBackoff_of_none (h : o.failures.get? r.key = none) : o.resetBackoff r = o := by
  rw [resetBackoff, h]
  split
  all_goals rfl

theorem resetBackoff_of_some {f : Failures} (h : o.failures.get? r.key = some f)
    (habandoned : o.abandoned = false) :
    o.resetBackoff r = { o with failures := o.failures.insert r.key f.reset } := by
  rw [resetBackoff, if_neg (ne_true_of_eq_false habandoned), h]

theorem abandoned_resetBackoff (r : Request) (o : Operator) :
    (o.resetBackoff r).abandoned = o.abandoned := by
  rw [resetBackoff]
  split
  · rfl
  · split
    all_goals rfl

end Operator

/-! ## Many reports -/

/-- What the operator is told of a request. -/
inductive Report where
  /-- Its pass has ended in an error, where passes are `immediate` apart at least. -/
  | failed (r : Request) (e : PassError) (immediate : Duration)
  /-- Its pass has succeeded. -/
  | succeeded (r : Request)

namespace Report

def request : Report → Request
  | failed r _ _ => r
  | succeeded r => r

/-- The request has failed, and the error has no wish. -/
def fails (r : Request) : Report → Bool
  | failed q e _ => q = r && e.requeue = .never
  | succeeded _ => false

/-- How often a request has failed without a wish since its last success. The last report comes
first. -/
def streak (r : Request) : List Report → Nat
  | [] => 0
  | failed q e _ :: xs => if q = r ∧ e.requeue = .never then streak r xs + 1 else streak r xs
  | succeeded q :: xs => if q = r then 0 else streak r xs

variable {r : Request} {xs : List Report}

theorem streak_filter (r : Request) (xs : List Report) :
    streak r (xs.filter (·.request = r)) = streak r xs := by
  induction xs with
  | nil => rfl
  | cons x xs ih =>
    by_cases hx : x.request = r
    · rw [List.filter_cons_of_pos (by simpa using hx)]
      cases x with
      | _ => rw [streak, streak, ih]
    · rw [List.filter_cons_of_neg (by simpa using hx), ih]
      cases x with
      | failed q e immediate => exact (if_neg fun h ↦ hx h.1).symm
      | succeeded q => exact (if_neg hx).symm

theorem any_fails_filter (r : Request) (xs : List Report) :
    (xs.filter (·.request = r)).any (fails r) = xs.any (fails r) := by
  have hown : ∀ x : Report, (decide (x.request = r) && x.fails r) = x.fails r := by
    intro x
    cases x with
    | failed q e immediate => exact Bool.and_self_left _ _
    | succeeded q => exact Bool.and_false _
  rw [List.any_filter]
  exact congrArg xs.any (funext hown)

theorem streak_eq_zero (h : xs.any (fails r) = false) : streak r xs = 0 := by
  induction xs with
  | nil => rfl
  | cons x xs ih =>
    rw [List.any_cons, Bool.or_eq_false_iff] at h
    cases x with
    | failed q e immediate =>
      have hx : ¬(q = r ∧ e.requeue = .never) := by simpa [fails] using h.1
      rw [streak, if_neg hx, ih h.2]
    | succeeded q => rw [streak, ih h.2, ite_self]

end Report

namespace Operator

open Report (streak)

/-- The operator after it was told how a pass has ended. -/
def hear (x : Report) (o : Operator) : Operator :=
  match x with
  | .failed r e immediate => (o.handleError immediate r e).2
  | .succeeded r => o.resetBackoff r

/-- The operator after some reports, of which the last one comes first. -/
def hearAll (xs : List Report) (o : Operator) : Operator := xs.foldr hear o

variable {o : Operator} {r : Request} {xs : List Report}

theorem hear_keeps (x : Report) (o : Operator) :
    o.Keeps (o.hear x) ∧ (o.hear x).abandoned = o.abandoned := by
  cases x with
  | failed r e immediate =>
    exact ⟨o.handleError_keeps immediate r e, o.abandoned_handleError immediate r e⟩
  | succeeded r => exact ⟨o.resetBackoff_keeps r, o.abandoned_resetBackoff r⟩

theorem hearAll_keeps (xs : List Report) (o : Operator) :
    (o.hearAll xs).settings = o.settings ∧ (o.hearAll xs).abandoned = o.abandoned := by
  induction xs with
  | nil => exact ⟨rfl, rfl⟩
  | cons x xs ih =>
    obtain ⟨hkeeps, habandoned⟩ := (o.hearAll xs).hear_keeps x
    exact ⟨hkeeps.settings.trans ih.1, habandoned.trans ih.2⟩

section Step

variable {q : Request} (habandoned : o.abandoned = false) (hq : '/' ∉ q.name.toList)
  (hr : '/' ∉ r.name.toList)

include habandoned hq hr

/-- An error is noted for its own request, and only if it has no wish. -/
theorem get?_hear_failed (e : PassError) (immediate : Duration) :
    (o.hear (.failed q e immediate)).failures.get? r.key
      = if q = r ∧ e.requeue = .never then some (o.failuresOf r).increment.next.2
        else o.failures.get? r.key := by
  rw [hear]
  rcases hdelay : e.requeue.delay immediate with _ | delay
  · have hnever := Requeue.delay_eq_none.1 hdelay
    rw [(handleError_of_never hnever habandoned immediate q).2, Dict.get?_insert]
    by_cases hqr : q = r
    · rw [if_pos (congrArg Request.key hqr.symm), if_pos ⟨hqr, hnever⟩, hqr]
    · have hkey : ¬r.key = q.key := fun h ↦ hqr ((Request.key_inj hr hq).1 h).symm
      rw [if_neg hkey, if_neg fun h ↦ hqr h.1]
  · have hwish : ¬e.requeue = .never := fun h ↦ nomatch h ▸ hdelay
    rw [(handleError_of_wish hdelay q o).2, if_neg fun h ↦ hwish h.2]

theorem get?_hear_succeeded : (o.hear (.succeeded q)).failures.get? r.key
    = if q = r then (o.failures.get? r.key).map Failures.reset else o.failures.get? r.key := by
  rw [hear]
  rcases hget : o.failures.get? q.key with _ | f
  · rw [resetBackoff_of_none hget]
    split
    · rename_i hqr
      rw [← hqr, hget]
      rfl
    · rfl
  · rw [resetBackoff_of_some hget habandoned, Dict.get?_insert]
    by_cases hqr : q = r
    · rw [if_pos (congrArg Request.key hqr.symm), if_pos hqr, ← hqr, hget]
      rfl
    · have hkey : ¬r.key = q.key := fun h ↦ hqr ((Request.key_inj hr hq).1 h).symm
      rw [if_neg hkey, if_neg hqr]

end Step

theorem failuresOf_eq {least most : Duration} (hleast : o.settings.backoffStart = least)
    (hmost : o.settings.backoffMax = most)
    (h : o.failures.get? r.key
      = if xs.any (Report.fails r) then some (.after least most (streak r xs)) else none) :
    o.failuresOf r = .after least most (streak r xs) := by
  rw [failuresOf, h, hleast, hmost]
  split
  · rfl
  · rename_i hnone
    rw [Report.streak_eq_zero (Bool.eq_false_iff.2 hnone)]
    rfl

section Fresh

variable (hfresh : o.failures = {}) (habandoned : o.abandoned = false)
  (hnames : ∀ x ∈ xs, '/' ∉ x.request.name.toList)

include hfresh habandoned hnames

/-- What is noted of a request is a matter of what was told of it alone. -/
theorem get?_failures_hearAll (hr : '/' ∉ r.name.toList) :
    (o.hearAll xs).failures.get? r.key = if xs.any (Report.fails r) then
      some (.after o.settings.backoffStart o.settings.backoffMax (streak r xs)) else none := by
  induction xs with
  | nil =>
    rw [hearAll, List.foldr_nil, hfresh]
    rfl
  | cons x xs ih =>
    obtain ⟨hx, hrest⟩ := List.forall_mem_cons.1 hnames
    obtain ⟨hsettings, hopen⟩ := o.hearAll_keeps xs
    rw [habandoned] at hopen
    rw [List.any_cons]
    change ((o.hearAll xs).hear x).failures.get? r.key = _
    cases x with
    | failed q e immediate =>
      have hq : '/' ∉ q.name.toList := hx
      rw [get?_hear_failed hopen hq hr, Report.fails, streak]
      by_cases hfails : q = r ∧ e.requeue = .never
      · have hfailures : (o.hearAll xs).failuresOf r = _ :=
          failuresOf_eq (congrArg _ hsettings) (congrArg _ hsettings) (ih hrest)
        rw [if_pos hfails, if_pos hfails, hfailures]
        simp [hfails, Failures.next_increment_after]
      · rw [if_neg hfails, if_neg hfails, ih hrest]
        simp [hfails]
    | succeeded q =>
      have hq : '/' ∉ q.name.toList := hx
      rw [get?_hear_succeeded hopen hq hr, Report.fails, streak, Bool.false_or, ih hrest]
      by_cases hqr : q = r
      · rw [if_pos hqr, if_pos hqr, apply_ite (Option.map Failures.reset), Option.map_some,
          Failures.reset_after, Option.map_none]
      · rw [if_neg hqr, if_neg hqr]

/-- How long a request waits after another error is known from what was told of it. -/
theorem handleError_hearAll (hr : '/' ∉ r.name.toList) (immediate : Duration) (e : PassError) :
    ((o.hearAll xs).handleError immediate r e).1 = (e.requeue.delay immediate).getD
      (Backoff.after o.settings.backoffStart o.settings.backoffMax (streak r xs)).next.1 := by
  obtain ⟨hsettings, hopen⟩ := o.hearAll_keeps xs
  rcases hdelay : e.requeue.delay immediate with _ | delay
  · have hfailures := failuresOf_eq (congrArg _ hsettings) (congrArg _ hsettings)
      (get?_failures_hearAll hfresh habandoned hnames hr)
    rw [(handleError_of_never (Requeue.delay_eq_none.1 hdelay) (hopen.trans habandoned) _ r).1,
      hfailures]
    rfl
  · exact (handleError_of_wish hdelay r _).1

end Fresh

theorem exists_of_mem_keys (hfresh : o.failures = {}) {k : String}
    (h : k ∈ (o.hearAll xs).failures.keys) : ∃ x ∈ xs, x.request.key = k := by
  induction xs with
  | nil =>
    rw [hearAll, List.foldr_nil, hfresh] at h
    exact absurd h List.not_mem_nil
  | cons x xs ih =>
    have hkey : k = x.request.key ∨ k ∈ (o.hearAll xs).failures.keys := by
      cases x with
      | failed q e immediate => exact mem_failures_handleError h
      | succeeded q => exact .inr (mem_failures_resetBackoff h)
    rcases hkey with rfl | hkey
    · exact ⟨x, List.mem_cons_self, rfl⟩
    · obtain ⟨y, hy, rfl⟩ := ih hkey
      exact ⟨y, List.mem_cons_of_mem _ hy, rfl⟩

/-! ## Isolation -/

/-- Whatever a new operator is told, of requests whose names have no slash:

* a request that fails without a wish waits as long as a new sequence says that has given one delay
  for each such failure since the last success of the request;
* an error with a wish has it granted, and leaves what is noted as it is;
* a success changes nothing for a request that has never failed without a wish;
* it makes no difference to a request what was told of the others;
* whatever is noted is noted of a request that has failed without a wish, with the delays after as
  many such failures as there were since its last success, and with their number, if they are fewer
  than can be counted in 32 bits. -/
theorem isolates_failures (hfresh : o.failures = {}) (habandoned : o.abandoned = false)
    (hnames : ∀ x ∈ xs, '/' ∉ x.request.name.toList) (hr : '/' ∉ r.name.toList) :
    (∀ immediate e, e.requeue = .never → ((o.hearAll xs).handleError immediate r e).1
      = (Backoff.after o.settings.backoffStart o.settings.backoffMax (streak r xs)).next.1) ∧
    (∀ immediate e, (e.requeue = .immediately →
        ((o.hearAll xs).handleError immediate r e).1 = immediate) ∧
      (∀ d, e.requeue = .after d → ((o.hearAll xs).handleError immediate r e).1 = d) ∧
      (e.requeue ≠ .never →
        ((o.hearAll xs).handleError immediate r e).2.failures = (o.hearAll xs).failures)) ∧
    ((∀ x ∈ xs, x.fails r = false) → (o.hearAll xs).resetBackoff r = o.hearAll xs) ∧
    ((o.hearAll xs).failures.get? r.key
        = (o.hearAll (xs.filter (·.request = r))).failures.get? r.key ∧
      ∀ immediate e, ((o.hearAll xs).handleError immediate r e).1
        = ((o.hearAll (xs.filter (·.request = r))).handleError immediate r e).1) ∧
    ∀ k f, (o.hearAll xs).failures.get? k = some f → ∃ q, q.key = k ∧
      (∃ x ∈ xs, x.fails q = true) ∧
      (streak q xs < 2 ^ 32 → f.count.toNat = streak q xs) ∧
      f.backoff = Backoff.after o.settings.backoffStart o.settings.backoffMax (streak q xs) := by
  have hnames' : ∀ x ∈ xs.filter (·.request = r), '/' ∉ x.request.name.toList :=
    fun x hx ↦ hnames x (List.mem_of_mem_filter hx)
  have hget := get?_failures_hearAll hfresh habandoned hnames hr
  have hdelay := handleError_hearAll hfresh habandoned hnames hr
  refine ⟨?_, ?_, ?_, ⟨?_, ?_⟩, ?_⟩
  · intro immediate e hnever
    rw [hdelay, hnever]
    rfl
  · intro immediate e
    refine ⟨fun h ↦ ?_, fun d h ↦ ?_, fun h ↦ ?_⟩
    · rw [hdelay, h]
      rfl
    · rw [hdelay, h]
      rfl
    · obtain ⟨delay, hsome⟩ := Option.ne_none_iff_exists'.1 (mt Requeue.delay_eq_none.1 h)
      exact (handleError_of_wish hsome r _).2
  · intro hnever
    apply resetBackoff_of_none
    rw [hget, if_neg]
    simpa using hnever
  · rw [hget, get?_failures_hearAll hfresh habandoned hnames' hr, Report.streak_filter,
      Report.any_fails_filter]
  · intro immediate e
    rw [hdelay, handleError_hearAll hfresh habandoned hnames' hr, Report.streak_filter]
  · intro k f hf
    obtain ⟨x, hx, rfl⟩ := exists_of_mem_keys hfresh (Dict.mem_keys_of_get? hf)
    rw [get?_failures_hearAll hfresh habandoned hnames (hnames x hx)] at hf
    obtain ⟨hany, heq⟩ := Option.ite_none_right_eq_some.1 hf
    obtain rfl := Option.some.inj heq
    exact ⟨x.request, rfl, List.any_eq_true.1 hany, Failures.count_after _ _, rfl⟩

/-- Two requests with one name fail in turn. One of them has a wish in its last error, and the other
has succeeded since it failed. -/
theorem isolates_failures_interleaved :
    let error : PassError := ⟨.jobLookup .refused, .never⟩
    let wish : PassError := ⟨.jobDelete .refused, .immediately⟩
    let a : Request := ⟨"a", "pd-secret"⟩
    let b : Request := ⟨"a/b", "pd-secret"⟩
    let xs : List Report := [.failed a wish .zero, .succeeded b, .failed a error .zero,
      .failed b error .zero, .failed a error .zero]
    (∀ x ∈ xs, '/' ∉ x.request.name.toList) ∧ '/' ∉ a.name.toList ∧ '/' ∉ b.name.toList ∧
      ((hearAll xs {}).handleError .zero a error).1 = .ofMillis 2000 ∧
      ((hearAll xs {}).handleError .zero b error).1 = .ofMillis 1000 := by
  intro error wish a b xs
  have hnames : ∀ x ∈ xs, '/' ∉ x.request.name.toList := by decide
  have ha : '/' ∉ a.name.toList := by decide
  have hb : '/' ∉ b.name.toList := by decide
  refine ⟨hnames, ha, hb, ?_, ?_⟩
  · rw [(isolates_failures rfl rfl hnames ha).1 .zero error rfl]
    decide
  · rw [(isolates_failures rfl rfl hnames hb).1 .zero error rfl]
    decide

end Operator

end AlertOperator
