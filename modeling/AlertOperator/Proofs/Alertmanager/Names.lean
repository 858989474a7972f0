import AlertOperator.Alertmanager.Document
import Mathlib.Data.List.Nodup
import Mathlib.Data.Nat.Find
import Mathlib.Order.Basic

/-!
# Receivers by name

Routes name their receivers, so a name must stand for one receiver only. The check goes through the
names once and keeps those that it has seen. Whatever the names are, it stops at the first place
whose name stands at an earlier place, too, `firstRepeat_eq_some_iff`, and at none if the names are
pairwise different.

The invariant is that what has been seen are the names of a part of the list in which none repeats.
Then the next name repeats exactly if it has been seen, `repeats_append_cons`.
-/

namespace AlertOperator.Alertmanager

/-! ## Repeated texts -/

/-- The text at place `i` stands at an earlier place, too. -/
def Repeats (xs : List String) (i : Nat) : Prop :=
  ∃ x, xs[i]? = some x ∧ ∃ k < i, xs[k]? = some x

/-- Place `i` is the first one whose text stands at an earlier place, too, and its text is `x`. -/
structure FirstRepeat (xs : List String) (i : Nat) (x : String) : Prop where
  at_place : xs[i]? = some x
  repeats : Repeats xs i
  first : ∀ j < i, ¬Repeats xs j

section Repeats

variable {xs ys : List String} {x : String} {i : Nat}

theorem nodup_iff_not_repeats : xs.Nodup ↔ ∀ i, ¬Repeats xs i := by
  rw [List.nodup_iff_getElem?_ne_getElem?]
  constructor
  · rintro h i ⟨x, hx, k, hk, hkx⟩
    exact h k i hk (List.getElem?_eq_some_iff.1 hx).1 (hkx.trans hx.symm)
  · intro h k i hk hi heq
    refine h i ⟨xs[i], List.getElem?_eq_getElem hi, k, hk, ?_⟩
    rw [heq, List.getElem?_eq_getElem hi]

theorem repeats_append (h : i < xs.length) : Repeats (xs ++ ys) i ↔ Repeats xs i := by
  have hleft : ∀ k ≤ i, (xs ++ ys)[k]? = xs[k]? :=
    fun k hk ↦ List.getElem?_append_left (hk.trans_lt h)
  constructor
  · rintro ⟨x, hx, k, hk, hkx⟩
    exact ⟨x, hleft i le_rfl ▸ hx, k, hk, hleft k hk.le ▸ hkx⟩
  · rintro ⟨x, hx, k, hk, hkx⟩
    exact ⟨x, (hleft i le_rfl).trans hx, k, hk, (hleft k hk.le).trans hkx⟩

theorem repeats_append_cons : Repeats (xs ++ x :: ys) xs.length ↔ x ∈ xs := by
  have hplace : (xs ++ x :: ys)[xs.length]? = some x := by simp
  rw [List.mem_iff_getElem?]
  constructor
  · rintro ⟨y, hy, k, hk, hky⟩
    obtain rfl := Option.some.inj (hplace.symm.trans hy)
    exact ⟨k, (List.getElem?_append_left hk).symm.trans hky⟩
  · rintro ⟨k, hkx⟩
    have hk : k < xs.length := (List.getElem?_eq_some_iff.1 hkx).1
    exact ⟨x, hplace, k, hk, (List.getElem?_append_left hk).trans hkx⟩

/-- The rest of the names is searched after `xs`, in which no name repeats. -/
theorem firstRepeat_append (hxs : xs.Nodup) {seen : List String} (hseen : ∀ y, y ∈ seen ↔ y ∈ xs) :
    firstRepeat seen ys = some x ↔ ∃ i, FirstRepeat (xs ++ ys) i x := by
  induction ys generalizing seen xs with
  | nil =>
    rw [firstRepeat, List.append_nil]
    refine iff_of_false nofun ?_
    rintro ⟨i, hi⟩
    exact nodup_iff_not_repeats.1 hxs i hi.repeats
  | cons y ys ih =>
    have hbefore : ∀ j < xs.length, ¬Repeats (xs ++ y :: ys) j := by
      intro j hj
      rw [repeats_append hj]
      exact nodup_iff_not_repeats.1 hxs j
    rw [firstRepeat]
    by_cases hy : y ∈ xs
    · have hrepeats : Repeats (xs ++ y :: ys) xs.length := repeats_append_cons.2 hy
      rw [if_pos ((hseen y).2 hy)]
      constructor
      · intro h
        obtain rfl := Option.some.inj h
        exact ⟨xs.length, by simp, hrepeats, hbefore⟩
      · rintro ⟨i, hi⟩
        have hlength : i = xs.length := by
          refine le_antisymm (le_of_not_gt fun hlt ↦ hi.first _ hlt hrepeats) ?_
          exact le_of_not_gt fun hlt ↦ hbefore i hlt hi.repeats
        have hplace := hi.at_place
        rw [hlength] at hplace
        simpa using hplace
    · -- what has been seen is now `xs` and `y`
      have hnodup : (xs ++ [y]).Nodup := by
        rw [← List.concat_eq_append]
        exact hxs.concat hy
      rw [if_neg fun h ↦ hy ((hseen y).1 h), ih hnodup, List.append_assoc, List.singleton_append]
      intro z
      rw [List.mem_cons, List.mem_append, List.mem_singleton, hseen z, or_comm]

theorem firstRepeat_eq_some_iff : firstRepeat [] xs = some x ↔ ∃ i, FirstRepeat xs i x :=
  firstRepeat_append List.nodup_nil fun _ ↦ Iff.rfl

theorem firstRepeat_eq_none_iff : firstRepeat [] xs = none ↔ xs.Nodup := by
  rw [Option.eq_none_iff_forall_ne_some, nodup_iff_not_repeats]
  constructor
  · intro hnone i hi
    -- a place that repeats has a first one
    classical
    have hrepeats : ∃ i, Repeats xs i := ⟨i, hi⟩
    obtain ⟨x, hx, -⟩ := Nat.find_spec hrepeats
    exact hnone x (firstRepeat_eq_some_iff.2 ⟨Nat.find hrepeats, hx, Nat.find_spec hrepeats,
      fun j hj ↦ Nat.find_min hrepeats hj⟩)
  · intro hnot x hx
    obtain ⟨i, hi⟩ := firstRepeat_eq_some_iff.1 hx
    exact hnot i hi.repeats

end Repeats

/-! ## The check of a configuration -/

namespace Config

variable {c : Config} {e : ConfigError} {name : String}

/-- The names of the receivers, in order. -/
def names (c : Config) : List String := c.receivers.map (·.name)

theorem validate_eq_ok_iff : c.validate = .ok () ↔ c.names.Nodup := by
  have hnone : c.repeatedReceiver = none ↔ c.names.Nodup := firstRepeat_eq_none_iff
  rw [← hnone, validate]
  split <;> simp [*]

theorem validate_eq_error_iff :
    c.validate = .error e ↔ ∃ i name, FirstRepeat c.names i name ∧ e = .duplicateReceiver name := by
  have hsome : ∀ name, c.repeatedReceiver = some name ↔ ∃ i, FirstRepeat c.names i name :=
    fun name ↦ firstRepeat_eq_some_iff
  rw [exists_comm]
  simp only [exists_and_right, ← hsome]
  rw [validate]
  split <;> simp [*, eq_comm]

theorem toYaml_eq_error_iff : c.toYaml = .error e ↔ c.validate = .error e := by
  rw [toYaml]
  rcases c.validate with _ | _ <;> simp [bind, Except.bind, pure, Except.pure]

theorem ofYaml_eq {text : String} (h : Yaml.decode? Config.read text = some c) :
    Config.ofYaml text = c.validate.map fun _ ↦ c := by
  rw [Config.ofYaml, h]
  rfl

theorem ofYaml_eq_ok_iff {text : String} :
    Config.ofYaml text = .ok c ↔ Yaml.decode? Config.read text = some c ∧ c.names.Nodup := by
  rw [← validate_eq_ok_iff]
  rcases h : Yaml.decode? Config.read text with _ | d
  · simp [Config.ofYaml, h]
  · rw [ofYaml_eq h]
    rcases hd : d.validate with e | ⟨⟩ <;> simp only [Except.map]
    · refine iff_of_false nofun ?_
      rintro ⟨hdc, hc⟩
      obtain rfl := Option.some.inj hdc
      exact nomatch hd.symm.trans hc
    · rw [Except.ok.injEq, Option.some.injEq]
      constructor
      · rintro rfl
        exact ⟨rfl, hd⟩
      · exact And.left

/-- Under different names, the first receiver of a name is the only one. -/
theorem receiver?_eq_some_iff (h : c.names.Nodup) {r : Receiver} :
    c.receiver? name = some r ↔ c.receivers.filter (·.name == name) = [r] := by
  have hle : (c.receivers.filter (·.name == name)).length ≤ 1 := by
    have hcount := List.nodup_iff_count_le_one.1 h name
    rwa [names, List.count, List.countP_map, List.countP_eq_length_filter] at hcount
  rw [receiver?, ← List.head?_filter]
  generalize c.receivers.filter (·.name == name) = rs at hle ⊢
  match rs, hle with
  | [], _ => simp
  | [s], _ => simp

theorem hasReceiver_iff : c.hasReceiver name = true ↔ name ∈ c.names := by
  rw [hasReceiver, receiver?, List.find?_isSome, names, List.mem_map]
  simp

/-- The check of names is exact: it passes exactly if the names of the receivers are pairwise
different, and otherwise it tells the name at the first place whose name stands at an earlier place,
too. A configuration is not written for that reason and for no other, and then with the same error;
what a document holds is given out only if it passes; and in a configuration that passes a name is
that of one receiver, which is the one found under it, or of none. -/
theorem names_exact (c : Config) :
    (c.validate = .ok () ↔ c.names.Nodup) ∧
    (∀ e, c.validate = .error e ↔
      ∃ i name, FirstRepeat c.names i name ∧ e = .duplicateReceiver name) ∧
    (∀ e, c.toYaml = .error e ↔ c.validate = .error e) ∧
    (∀ text, Config.ofYaml text = .ok c ↔
      Yaml.decode? Config.read text = some c ∧ c.names.Nodup) ∧
    (c.validate = .ok () → ∀ name,
      (∀ r, c.receiver? name = some r ↔ c.receivers.filter (·.name == name) = [r]) ∧
      (c.receiver? name = none ↔ name ∉ c.names) ∧
      (c.hasReceiver name = true ↔ name ∈ c.names)) := by
  refine ⟨validate_eq_ok_iff, fun e ↦ validate_eq_error_iff, fun e ↦ toYaml_eq_error_iff,
    fun text ↦ ofYaml_eq_ok_iff, fun h name ↦ ⟨fun r ↦ ?_, ?_, hasReceiver_iff⟩⟩
  · exact receiver?_eq_some_iff (validate_eq_ok_iff.1 h)
  · rw [← hasReceiver_iff, hasReceiver, Bool.not_eq_true, Option.isSome_eq_false_iff,
      Option.isNone_iff_eq_none]

/-- Receivers that drop every alert. -/
def dropping (names : List String) : Config := { receivers := names.map Receiver.blackhole }

/-- Two names repeat. The one that is told is the one whose second place comes first, not the one
that comes first. -/
theorem names_exact_repeated :
    let c := dropping ["null", "pagerduty", "pagerduty", "null"]
    let d := dropping ["pagerduty", "null"]
    c.validate = .error (.duplicateReceiver "pagerduty") ∧
    c.toYaml = .error (.duplicateReceiver "pagerduty") ∧
    d.validate = .ok () ∧ d.receiver? "null" = some (Receiver.blackhole "null") := by
  intro c d
  obtain ⟨-, herror, hyaml, -⟩ := names_exact c
  obtain ⟨hok, -, -, -, hfind⟩ := names_exact d
  have hfirst : FirstRepeat c.names 2 "pagerduty" := by
    refine ⟨rfl, ⟨"pagerduty", rfl, 1, by decide, rfl⟩, fun j hj ↦ ?_⟩
    rw [show c.names = ["null", "pagerduty"] ++ ["pagerduty", "null"] from rfl, repeats_append hj]
    exact nodup_iff_not_repeats.1 (by decide) j
  have hvalidate := (herror _).2 ⟨2, "pagerduty", hfirst, rfl⟩
  have hvalid : d.validate = .ok () := hok.2 (by decide)
  exact ⟨hvalidate, (hyaml _).2 hvalidate, hvalid, ((hfind hvalid "null").1 _).2 (by decide)⟩

end Config

end AlertOperator.Alertmanager
