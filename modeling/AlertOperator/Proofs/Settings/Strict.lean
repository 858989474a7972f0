import AlertOperator.Proofs.Text.Bytes
import AlertOperator.Proofs.Text.Numerals
import AlertOperator.Settings

/-!
# The strict settings

Whether the environment is a FedRAMP one and from which age a cluster counts as ready change who is
paged. So the two variables they are taken from must not be misread: a value that is no accepted
one is an error that names the variable, and never the default.

`Strict` says this of a reader, given what a text means and no code: it gives what the text means,
or the default for none or an empty one, and refuses every other text. Both readers are shown to be
strict, by the grammar of their texts, and the rest is the order in which they are asked.

The rule ends where texts do. A value is a sequence of bytes, and one that encodes no text counts as
unset, also for these two variables, `text?_eq_none`. It leaves the default in place without an
error.
-/

namespace AlertOperator

namespace Settings

/-! ## The texts of values -/

/-- The accepted texts for a truth value. -/
def truths : Bool → List String
  | true => ["1", "t", "T", "TRUE", "true", "True"]
  | false => ["0", "f", "F", "FALSE", "false", "False"]

/-- The text is one of those for the truth value. -/
def IsTruth (text : String) (b : Bool) : Prop := text ∈ truths b

/-- The text is, apart from white space at its ends, an integer of 64 bits. -/
def IsLimit (text : String) (n : Int) : Prop :=
  ∃ t, Text.IsTrimmed text.toList t ∧ Text.IsInteger t n ∧
    -0x8000000000000000 ≤ n ∧ n ≤ 0x7FFFFFFFFFFFFFFF

/-! ## Strict readers -/

section Strict

variable {α : Type}

/-- A value that the text of a variable gives: the default if there is none or it is empty, and
otherwise what the text means. -/
inductive Gives (Means : String → α → Prop) (absent : α) : Option String → α → Prop
  | unset : Gives Means absent none absent
  | empty : Gives Means absent (some "") absent
  | text {text : String} {a : α} (hne : text ≠ "") (h : Means text a) :
    Gives Means absent (some text) a

/-- A text that is there, but means nothing. -/
structure Unreadable (Means : String → α → Prop) (text : String) : Prop where
  ne_empty : text ≠ ""
  not_means : ∀ a, ¬Means text a

/-- A reader that gives what the text means, and refuses a text that means nothing. -/
structure Strict (read : Option String → Except SettingsError α) (Means : String → α → Prop)
    (absent : α) (refusal : String → SettingsError) : Prop where
  ok_iff : ∀ text a, read text = .ok a ↔ Gives Means absent text a
  error_iff : ∀ text e, read text = .error e ↔
    ∃ value, text = some value ∧ Unreadable Means value ∧ e = refusal value

/-- It is enough to know what is read from a text that is not empty. -/
theorem Strict.of_texts {read : Option String → Except SettingsError α}
    {Means : String → α → Prop} {absent : α} {refusal : String → SettingsError}
    (hunset : read none = .ok absent) (hempty : read (some "") = .ok absent)
    (hok : ∀ text a, text ≠ "" → (read (some text) = .ok a ↔ Means text a))
    (herror : ∀ text e, text ≠ "" → read (some text) = .error e → e = refusal text) :
    Strict read Means absent refusal := by
  constructor
  · intro text a
    constructor
    · intro h
      rcases text with _ | text
      · obtain rfl := Except.ok.inj (hunset.symm.trans h)
        exact .unset
      · by_cases hne : text = ""
        · subst hne
          obtain rfl := Except.ok.inj (hempty.symm.trans h)
          exact .empty
        · exact .text hne ((hok text a hne).1 h)
    · rintro (_ | _ | ⟨hne, h⟩)
      · exact hunset
      · exact hempty
      · exact (hok _ a hne).2 h
  · intro text e
    constructor
    · intro h
      rcases text with _ | text
      · exact nomatch hunset.symm.trans h
      · have hne : text ≠ "" := by
          rintro rfl
          exact nomatch hempty.symm.trans h
        refine ⟨text, rfl, ⟨hne, fun a ha ↦ ?_⟩, herror text e hne h⟩
        exact nomatch ((hok text a hne).2 ha).symm.trans h
    · rintro ⟨text, rfl, ⟨hne, hnone⟩, rfl⟩
      rcases hread : read (some text) with e | a
      · rw [herror text e hne hread]
      · exact absurd ((hok text a hne).1 hread) (hnone a)

theorem Strict.unreadable {read : Option String → Except SettingsError α}
    {Means : String → α → Prop} {absent : α} {refusal : String → SettingsError} {text : String}
    {e : SettingsError} (hread : Strict read Means absent refusal)
    (h : read (some text) = .error e) : Unreadable Means text := by
  obtain ⟨value, htext, hunreadable, -⟩ := (hread.error_iff _ e).1 h
  obtain rfl := Option.some.inj htext
  exact hunreadable

theorem strict_readBool (key : String) :
    Strict (readBool key) IsTruth false (.invalidBool key) := by
  have hread : ∀ text, text ≠ "" → readBool key (some text)
      = if text ∈ truths true then .ok true
        else if text ∈ truths false then .ok false
        else .error (.invalidBool key text) := fun text hne ↦ if_neg hne
  have hdisjoint : ∀ text ∈ truths false, text ∉ truths true := by decide
  refine .of_texts rfl rfl (fun text b hne ↦ ?_) fun text e hne h ↦ ?_
  · rw [hread text hne, IsTruth]
    by_cases htrue : text ∈ truths true
    · rw [if_pos htrue, Except.ok.injEq]
      cases b with
      | true => exact iff_of_true rfl htrue
      | false => exact iff_of_false nofun fun hfalse ↦ hdisjoint text hfalse htrue
    · rw [if_neg htrue]
      cases b with
      | true =>
        refine iff_of_false ?_ htrue
        split <;> exact nofun
      | false =>
        by_cases hfalse : text ∈ truths false
        · exact iff_of_true (if_pos hfalse) hfalse
        · rw [if_neg hfalse]
          exact iff_of_false nofun hfalse
  · rw [hread text hne] at h
    split at h
    · exact nomatch h
    · split at h
      · exact nomatch h
      · exact (Except.error.inj h).symm

theorem strict_readInt (key : String) (absent : Int) :
    Strict (readInt key absent) IsLimit absent (.invalidInt key) := by
  have hlimit : ∀ text n, Text.readIntBetween (-0x8000000000000000) 0x7FFFFFFFFFFFFFFF
      (Text.trim text.toList) = some n ↔ IsLimit text n := by
    intro text n
    rw [Text.readIntBetween_eq_some_iff, IsLimit]
    constructor
    · exact fun h ↦ ⟨_, Text.trim_eq_iff.1 rfl, h⟩
    · rintro ⟨t, ht, h⟩
      rwa [Text.trim_eq_iff.2 ht]
  refine .of_texts rfl rfl (fun text n hne ↦ ?_) fun text e hne h ↦ ?_
  · rw [readInt, if_neg hne, ← hlimit]
    split
    · rename_i hm
      rw [hm, Except.ok.injEq, Option.some.injEq]
    · rename_i hm
      rw [hm]
      exact iff_of_false nofun nofun
  · rw [readInt, if_neg hne] at h
    split at h
    · exact nomatch h
    · exact (Except.error.inj h).symm

end Strict

/-! ## The strict variables -/

theorem text?_eq_some_iff {env : Environment} {key value : String} :
    text? env key = some value ↔ env key = some (Bytes.ofString value) := by
  simp only [text?, Option.bind_eq_some_iff, Bytes.toString?_eq_some_iff, exists_eq_right]

theorem text?_eq_none {env : Environment} {key : String} {bs : Bytes} (h : env key = some bs)
    (hbs : ∀ value, bs ≠ Bytes.ofString value) : text? env key = none := by
  rw [Option.eq_none_iff_forall_ne_some]
  intro value hvalue
  exact hbs value (Option.some.inj (h.symm.trans (text?_eq_some_iff.1 hvalue)))

/-- The environment with a variable removed. -/
def without (env : Environment) (key : String) : Environment :=
  fun k ↦ if k = key then none else env k

/-- A variable is set to a text that means nothing. -/
def Refused {α : Type} (env : Environment) (key : String) (Means : String → α → Prop)
    (value : String) : Prop :=
  env key = some (Bytes.ofString value) ∧ Unreadable Means value

/-- The settings depend on the texts of variables alone. -/
theorem ofEnvironment_congr {env env' : Environment} (h : ∀ key, text? env key = text? env' key) :
    ofEnvironment env = ofEnvironment env' := by
  simp only [ofEnvironment, h]

/-- The settings with the given values of the strict variables. -/
def filled (env : Environment) (fedramp : Bool) (maxAgeMinutes : Int) : Settings where
  ns := (text? env "OPERATOR_NAMESPACE").getD "openshift-monitoring"
  fedramp := fedramp
  maxAgeMinutes := maxAgeMinutes
  immediate := .ofMillis (readNatD max64 1000 (text? env "IMMEDIATE_REQUEUE_MS"))
  backoffStart := .ofMillis (readNatD max64 1000 (text? env "BACKOFF_START_MS"))
  backoffMax := .ofMillis (readNatD max64 60000 (text? env "BACKOFF_MAX_MS"))
  watchRestart := .ofSeconds (readNatD max64 5 (text? env "WATCH_RESTART_DELAY_SECS"))

section Environment

variable {env : Environment} {settings : Settings} {e : SettingsError}

theorem ofEnvironment_eq (env : Environment) : ofEnvironment env =
    match readBool "FEDRAMP" (text? env "FEDRAMP"),
      readInt "MAX_CLUSTER_AGE_MINUTES" 120 (text? env "MAX_CLUSTER_AGE_MINUTES") with
    | .error e, _ => .error e
    | .ok _, .error e => .error e
    | .ok fedramp, .ok maxAge => .ok (filled env fedramp maxAge) := by
  rw [ofEnvironment]
  dsimp only
  rcases readBool "FEDRAMP" (text? env "FEDRAMP") with e | fedramp
  · rfl
  · rcases readInt "MAX_CLUSTER_AGE_MINUTES" 120 (text? env "MAX_CLUSTER_AGE_MINUTES") with e | n
    · rfl
    · rfl

theorem ofEnvironment_eq_error_iff : ofEnvironment env = .error e ↔
    readBool "FEDRAMP" (text? env "FEDRAMP") = .error e ∨
      (∃ fedramp, readBool "FEDRAMP" (text? env "FEDRAMP") = .ok fedramp) ∧
        readInt "MAX_CLUSTER_AGE_MINUTES" 120 (text? env "MAX_CLUSTER_AGE_MINUTES") = .error e := by
  rw [ofEnvironment_eq]
  split
  all_goals simp [*]

theorem ofEnvironment_eq_ok_iff : ofEnvironment env = .ok settings ↔
    readBool "FEDRAMP" (text? env "FEDRAMP") = .ok settings.fedramp ∧
      readInt "MAX_CLUSTER_AGE_MINUTES" 120 (text? env "MAX_CLUSTER_AGE_MINUTES")
        = .ok settings.maxAgeMinutes ∧
      settings = filled env settings.fedramp settings.maxAgeMinutes := by
  rw [ofEnvironment_eq]
  split
  · simp [*]
  · simp [*]
  · rename_i fedramp maxAge hfedramp hmaxAge
    rw [hfedramp, hmaxAge, Except.ok.injEq, Except.ok.injEq, Except.ok.injEq]
    constructor
    · rintro rfl
      exact ⟨rfl, rfl, rfl⟩
    · rintro ⟨hf, hm, hs⟩
      rw [hs, hf, hm]

end Environment

section Refused

variable {α : Type} {env : Environment} {key value : String} {Means : String → α → Prop}
  {absent : α} {read : Option String → Except SettingsError α} {refusal : String → SettingsError}

theorem Strict.error_of_refused (hread : Strict read Means absent refusal)
    (h : Refused env key Means value) : read (text? env key) = .error (refusal value) :=
  (hread.error_iff _ _).2 ⟨value, text?_eq_some_iff.2 h.1, h.2, rfl⟩

theorem Strict.exists_ok (hread : Strict read Means absent refusal)
    (h : ∀ value, ¬Refused env key Means value) : ∃ a, read (text? env key) = .ok a := by
  rcases ha : read (text? env key) with e | a
  · obtain ⟨value, htext, hunreadable, -⟩ := (hread.error_iff _ e).1 ha
    exact absurd ⟨text?_eq_some_iff.1 htext, hunreadable⟩ (h value)
  · exact ⟨a, rfl⟩

end Refused

/-- A strict variable set to a text that it does not accept is an error that names it, the truth
value first; otherwise there are settings, with the values that the texts mean, or the defaults
where a variable is not set or empty. That holds whatever the other variables are. But bytes that
encode no text are never an error: the variable counts as unset. -/
theorem ofEnvironment_strict (env : Environment) :
    (∀ value, Refused env "FEDRAMP" IsTruth value →
      ofEnvironment env = .error (.invalidBool "FEDRAMP" value)) ∧
    ((∀ value, ¬Refused env "FEDRAMP" IsTruth value) →
      ∀ value, Refused env "MAX_CLUSTER_AGE_MINUTES" IsLimit value →
        ofEnvironment env = .error (.invalidInt "MAX_CLUSTER_AGE_MINUTES" value)) ∧
    ((∀ value, ¬Refused env "FEDRAMP" IsTruth value) →
      (∀ value, ¬Refused env "MAX_CLUSTER_AGE_MINUTES" IsLimit value) →
        ∃ settings, ofEnvironment env = .ok settings ∧
          Gives IsTruth false (text? env "FEDRAMP") settings.fedramp ∧
          Gives IsLimit 120 (text? env "MAX_CLUSTER_AGE_MINUTES") settings.maxAgeMinutes) ∧
    ∀ key bs, env key = some bs → (∀ value, bs ≠ Bytes.ofString value) →
      ofEnvironment env = ofEnvironment (without env key) := by
  have hfedramp := strict_readBool "FEDRAMP"
  have hmaxAge := strict_readInt "MAX_CLUSTER_AGE_MINUTES" 120
  refine ⟨fun value hrefused ↦ ?_, fun hnone value hrefused ↦ ?_, fun hnone hnone' ↦ ?_,
    fun key bs hkey hbs ↦ ofEnvironment_congr fun k ↦ ?_⟩
  · exact ofEnvironment_eq_error_iff.2 (.inl (hfedramp.error_of_refused hrefused))
  · exact ofEnvironment_eq_error_iff.2
      (.inr ⟨hfedramp.exists_ok hnone, hmaxAge.error_of_refused hrefused⟩)
  · obtain ⟨fedramp, hb⟩ := hfedramp.exists_ok hnone
    obtain ⟨maxAge, hn⟩ := hmaxAge.exists_ok hnone'
    exact ⟨filled env fedramp maxAge, ofEnvironment_eq_ok_iff.2 ⟨hb, hn, rfl⟩,
      (hfedramp.ok_iff _ _).1 hb, (hmaxAge.ok_iff _ _).1 hn⟩
  · by_cases hk : k = key
    · subst hk
      rw [text?_eq_none hkey hbs, text?, without, if_pos rfl]
      rfl
    · rw [text?, text?, without, if_neg hk]

/-- Two variables that cannot be read, the second of which is not reached. -/
theorem ofEnvironment_strict_both :
    let env : Environment := fun key ↦
      if key = "FEDRAMP" then some (Bytes.ofString "yes")
      else if key = "MAX_CLUSTER_AGE_MINUTES" then some (Bytes.ofString "9223372036854775808")
      else none
    Refused env "FEDRAMP" IsTruth "yes" ∧
      Refused env "MAX_CLUSTER_AGE_MINUTES" IsLimit "9223372036854775808" ∧
      ofEnvironment env = .error (.invalidBool "FEDRAMP" "yes") ∧
      ofEnvironment (without env "FEDRAMP")
        = .error (.invalidInt "MAX_CLUSTER_AGE_MINUTES" "9223372036854775808") := by
  intro env
  have hyes : Refused env "FEDRAMP" IsTruth "yes" :=
    ⟨rfl, (strict_readBool "FEDRAMP").unreadable rfl⟩
  have hlarge : Refused env "MAX_CLUSTER_AGE_MINUTES" IsLimit "9223372036854775808" :=
    ⟨rfl, (strict_readInt "MAX_CLUSTER_AGE_MINUTES" 120).unreadable rfl⟩
  refine ⟨hyes, hlarge, (ofEnvironment_strict env).1 _ hyes,
    (ofEnvironment_strict (without env "FEDRAMP")).2.1 (fun value h ↦ ?_) _ hlarge⟩
  exact nomatch h.1

/-- Bytes that encode no text are no accepted value of either variable, and no error: both settings
are the default ones. -/
theorem ofEnvironment_falls_back :
    let env : Environment := fun key ↦
      if key = "FEDRAMP" then some [0xFF]
      else if key = "MAX_CLUSTER_AGE_MINUTES" then some [0x34, 0x35, 0xC2]
      else none
    (∀ value b, IsTruth value b → env "FEDRAMP" ≠ some (Bytes.ofString value)) ∧
      (∀ value n, IsLimit value n →
        env "MAX_CLUSTER_AGE_MINUTES" ≠ some (Bytes.ofString value)) ∧
      ofEnvironment env = .ok {} := by
  intro env
  have hnone : ∀ key ∈ ["FEDRAMP", "MAX_CLUSTER_AGE_MINUTES"], ∀ value,
      env key ≠ some (Bytes.ofString value) := by
    intro key hkey value h
    have htext : text? env key = some value := text?_eq_some_iff.2 h
    have hnone : ∀ key ∈ ["FEDRAMP", "MAX_CLUSTER_AGE_MINUTES"], text? env key = none := by decide
    exact nomatch (hnone key hkey).symm.trans htext
  exact ⟨fun value _ _ ↦ hnone _ (by simp) value, fun value _ _ ↦ hnone _ (by simp) value, rfl⟩

end Settings

end AlertOperator
