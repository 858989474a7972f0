import AlertOperator.Proofs.Settings.Strict

/-!
# Numbers in the settings

Seven of the variables hold a natural number, and one an integer. Each of them is read exactly: the
setting is the number that the text writes if that is within bounds, at any length of digits, and
the default otherwise, or for the integer an error. Durations are stored in nanoseconds, and the
largest duration has room for every number that is accepted, so none of them is cut off.

A setting is a function of the text of one variable, `Variable.own`, wherever there are settings at
all. That the variables do not interfere follows from this alone.
-/

namespace AlertOperator

open Settings
open Time (Duration)

/-! ## Variables and what is taken from them -/

/-- A variable that settings are taken from. -/
inductive Variable where
  | ns
  | fedramp
  | maxAge
  | immediate
  | backoffStart
  | backoffMax
  | watchRestart
  | port
  | startTimeout
  | pollInterval
  deriving DecidableEq, Repr

/-- A value of a setting, where durations are counted in nanoseconds. -/
inductive Setting where
  | text (s : String)
  | truth (b : Bool)
  | number (n : Int)
  deriving DecidableEq

/-- A natural number that is read from a variable: the largest one, the default, and what one of it
counts for in the setting. -/
structure Quantity where
  most : Nat
  absent : Nat
  unit : Nat

/-- The text writes a number that is not too large, `n`; or it does not, and `n` is the default. -/
def Quantity.Means (q : Quantity) (text : String) (n : Nat) : Prop :=
  (Text.IsNatural text.toList n ∧ n ≤ q.most) ∨
    ((∀ m, Text.IsNatural text.toList m → q.most < m) ∧ n = q.absent)

namespace Variable

/-- The name of the variable. -/
def key : Variable → String
  | ns => "OPERATOR_NAMESPACE"
  | fedramp => "FEDRAMP"
  | maxAge => "MAX_CLUSTER_AGE_MINUTES"
  | immediate => "IMMEDIATE_REQUEUE_MS"
  | backoffStart => "BACKOFF_START_MS"
  | backoffMax => "BACKOFF_MAX_MS"
  | watchRestart => "WATCH_RESTART_DELAY_SECS"
  | port => "METRICS_PORT"
  | startTimeout => "SERVER_STARTUP_TIMEOUT_SECS"
  | pollInterval => "SERVER_POLL_INTERVAL_MS"

/-- The number that is taken from the variable, where it is a natural one. -/
def quantity? : Variable → Option Quantity
  | immediate => some ⟨0xFFFFFFFFFFFFFFFF, 1000, 1000000⟩
  | backoffStart => some ⟨0xFFFFFFFFFFFFFFFF, 1000, 1000000⟩
  | backoffMax => some ⟨0xFFFFFFFFFFFFFFFF, 60000, 1000000⟩
  | watchRestart => some ⟨0xFFFFFFFFFFFFFFFF, 5, 1000000000⟩
  | port => some ⟨0xFFFF, 8080, 1⟩
  | startTimeout => some ⟨0xFFFFFFFFFFFFFFFF, 10, 1000000000⟩
  | pollInterval => some ⟨0xFFFFFFFFFFFFFFFF, 50, 1000000⟩
  | ns | fedramp | maxAge => none

/-- The setting of the operator that is taken from the variable. -/
def ofOperator (settings : Settings) : Variable → Option Setting
  | ns => some (.text settings.ns)
  | fedramp => some (.truth settings.fedramp)
  | maxAge => some (.number settings.maxAgeMinutes)
  | immediate => some (.number settings.immediate.nanos)
  | backoffStart => some (.number settings.backoffStart.nanos)
  | backoffMax => some (.number settings.backoffMax.nanos)
  | watchRestart => some (.number settings.watchRestart.nanos)
  | port | startTimeout | pollInterval => none

/-- The setting of the server that is taken from the variable. -/
def ofServer (settings : ServerSettings) : Variable → Option Setting
  | port => some (.number settings.port)
  | startTimeout => some (.number settings.startTimeout.nanos)
  | pollInterval => some (.number settings.pollInterval.nanos)
  | _ => none

/-- The setting that is taken from the variable. Those of the server are there in any case, those of
the operator only if none of its variables is refused. -/
def setting? (env : Environment) (v : Variable) : Option Setting :=
  (v.ofServer (ServerSettings.ofEnvironment env)).or
    ((ofEnvironment env).toOption.bind v.ofOperator)

/-- What the text of the variable alone gives. -/
def own (v : Variable) (text : Option String) : Option Setting :=
  match v.quantity? with
  | some q => some (.number (readNatD q.most q.absent text * q.unit : Nat))
  | none =>
    match v with
    | fedramp => (readBool v.key text).toOption.map .truth
    | maxAge => (readInt v.key 120 text).toOption.map .number
    | _ => some (.text (text.getD "openshift-monitoring"))

theorem key_injective : Function.Injective key := by
  intro v w h
  cases v
  all_goals
    cases w
    all_goals first | rfl | exact absurd h (by decide)

end Variable

/-! ## Numbers -/

theorem readNatD_eq_iff {q : Quantity} {text : String} {n : Nat} :
    readNatD q.most q.absent (some text) = n ↔ q.Means text n := by
  rw [readNatD, Option.bind_some, Quantity.Means]
  rcases hread : Text.readNatUpTo q.most text.toList with _ | m
  · have hlarge : ∀ m, Text.IsNatural text.toList m → q.most < m := by
      intro m hm
      by_contra hle
      exact nomatch hread.symm.trans (Text.readNatUpTo_eq_some_iff.2 ⟨hm, Nat.le_of_not_lt hle⟩)
    constructor
    · rintro rfl
      exact .inr ⟨hlarge, rfl⟩
    · rintro (⟨hn, hle⟩ | ⟨-, rfl⟩)
      · exact absurd (hlarge n hn) (Nat.not_lt.2 hle)
      · rfl
  · have hm := Text.readNatUpTo_eq_some_iff.1 hread
    constructor
    · rintro rfl
      exact .inl hm
    · rintro (h | ⟨hlarge, -⟩)
      · exact Option.some.inj (hread.symm.trans (Text.readNatUpTo_eq_some_iff.2 h))
      · exact absurd (hlarge m hm.1) (Nat.not_lt.2 hm.2)

theorem readNatD_le {most absent : Nat} (h : absent ≤ most) (text : Option String) :
    readNatD most absent text ≤ most := by
  rw [readNatD]
  rcases hread : text.bind fun v ↦ Text.readNatUpTo most v.toList with _ | n
  · exact h
  · obtain ⟨v, -, hv⟩ := Option.bind_eq_some_iff.1 hread
    exact (Text.readNatUpTo_eq_some_iff.1 hv).2

/-! ## One variable, one setting -/

section Durations

variable {absent : Nat}

/-- The longest duration has room for every number of milliseconds that is accepted. -/
theorem nanos_ofMillis (h : absent ≤ max64) (text : Option String) :
    (Duration.ofMillis (readNatD max64 absent text)).nanos
      = readNatD max64 absent text * 1000000 := by
  have hroom : max64 * 1000000 ≤ Time.maxNanos := by decide
  exact Nat.min_eq_left (Nat.le_trans (Nat.mul_le_mul_right _ (readNatD_le h text)) hroom)

theorem nanos_ofSeconds (h : absent ≤ max64) (text : Option String) :
    (Duration.ofSeconds (readNatD max64 absent text)).nanos
      = readNatD max64 absent text * 1000000000 := by
  have hroom : max64 * 1000000000 ≤ Time.maxNanos := by decide
  exact Nat.min_eq_left (Nat.le_trans (Nat.mul_le_mul_right _ (readNatD_le h text)) hroom)

end Durations

namespace Variable

section Own

variable {env : Environment} {settings : Settings} {v : Variable} {value : Setting}

theorem own_of_mem_ofOperator (h : ofEnvironment env = .ok settings)
    (hv : value ∈ v.ofOperator settings) : v.own (text? env v.key) = some value := by
  obtain ⟨hfedramp, hmaxAge, hsettings⟩ := ofEnvironment_eq_ok_iff.1 h
  rw [← show v.ofOperator settings = some value from hv]
  cases v with
  | port | startTimeout | pollInterval => exact nomatch hv
  | fedramp => exact congrArg (fun r ↦ r.toOption.map Setting.truth) hfedramp
  | maxAge => exact congrArg (fun r ↦ r.toOption.map Setting.number) hmaxAge
  | ns =>
    rw [hsettings]
    rfl
  | watchRestart =>
    rw [hsettings]
    exact congrArg (some ∘ Setting.number ∘ Nat.cast) (nanos_ofSeconds (by decide) _).symm
  | immediate | backoffStart | backoffMax =>
    rw [hsettings]
    exact congrArg (some ∘ Setting.number ∘ Nat.cast) (nanos_ofMillis (by decide) _).symm

theorem own_of_mem_ofServer (hv : value ∈ v.ofServer (ServerSettings.ofEnvironment env)) :
    v.own (text? env v.key) = some value := by
  rw [← show v.ofServer _ = some value from hv]
  cases v with
  | port => exact congrArg (some ∘ Setting.number ∘ Nat.cast) (Nat.mul_one _)
  | startTimeout =>
    exact congrArg (some ∘ Setting.number ∘ Nat.cast) (nanos_ofSeconds (by decide) _).symm
  | pollInterval =>
    exact congrArg (some ∘ Setting.number ∘ Nat.cast) (nanos_ofMillis (by decide) _).symm
  | _ => exact nomatch hv

theorem own_of_mem_setting? (hv : value ∈ v.setting? env) :
    v.own (text? env v.key) = some value := by
  rcases Option.or_eq_some_iff.1 hv with hserver | ⟨-, hoperator⟩
  · exact own_of_mem_ofServer hserver
  · obtain ⟨settings, hsettings, hv⟩ := Option.bind_eq_some_iff.1 hoperator
    rcases he : ofEnvironment env with e | s
    · rw [he] at hsettings
      exact nomatch hsettings
    · rw [he] at hsettings
      obtain rfl := Option.some.inj hsettings
      exact own_of_mem_ofOperator he hv

theorem own_eq_number_iff {q : Quantity} (hq : v.quantity? = some q) {text : String} {n : Nat} :
    v.own (some text) = some (.number (n * q.unit : Nat)) ↔ q.Means text n := by
  have hunit : 0 < q.unit := by
    cases v with
    | ns | fedramp | maxAge => exact nomatch hq
    | _ =>
      obtain rfl := Option.some.inj hq
      decide
  unfold own
  rw [hq, Option.some.injEq, Setting.number.injEq, Nat.cast_inj,
    Nat.mul_left_inj (Nat.ne_of_gt hunit), readNatD_eq_iff]

end Own

end Variable

/-! ## The numbers are exact, and the variables do not interfere -/

theorem ofEnvironment_eq_error_congr {env env' : Environment}
    (h : ∀ v ∈ [Variable.fedramp, .maxAge], text? env v.key = text? env' v.key)
    (e : SettingsError) : ofEnvironment env = .error e ↔ ofEnvironment env' = .error e := by
  have hfedramp : text? env "FEDRAMP" = _ := h .fedramp (by decide)
  have hmaxAge : text? env "MAX_CLUSTER_AGE_MINUTES" = _ := h .maxAge (by decide)
  rw [ofEnvironment_eq_error_iff, ofEnvironment_eq_error_iff, hfedramp, hmaxAge]
  rfl

/-- What is read from a text as an integer or a natural number is what the grammar says, for every
text and at any length; and if two environments differ in one variable, then only the setting that
is taken from it differs, and there are settings of the operator in both or in neither, unless it is
one of those that can be refused. -/
theorem Settings.reads_numbers :
    (∀ key absent text,
      (text = "" → readInt key absent (some text) = .ok absent) ∧
      (text ≠ "" → ∀ n, readInt key absent (some text) = .ok n ↔ IsLimit text n) ∧
      (text ≠ "" → (∀ n, ¬IsLimit text n) →
        readInt key absent (some text) = .error (.invalidInt key text))) ∧
    (∀ env (v : Variable) q text, v.quantity? = some q →
      env v.key = some (Bytes.ofString text) → ∀ value ∈ v.setting? env, ∀ n : Nat,
        value = .number (n * q.unit : Nat) ↔ q.Means text n) ∧
    Function.Injective Variable.key ∧
    ∀ env env' key, (∀ k, k ≠ key → env k = env' k) →
      (∀ v : Variable, v.key ≠ key →
        ∀ value ∈ v.setting? env, ∀ value' ∈ v.setting? env', value = value') ∧
      (key ∉ ["FEDRAMP", "MAX_CLUSTER_AGE_MINUTES"] →
        ∀ e, ofEnvironment env = .error e ↔ ofEnvironment env' = .error e) := by
  refine ⟨fun key absent text ↦ ⟨?_, fun hne n ↦ ?_, fun hne hnone ↦ ?_⟩,
    fun env v q text hq htext value hvalue n ↦ ?_, Variable.key_injective,
    fun env env' key hsame ↦ ?_⟩
  · rintro rfl
    rfl
  · rw [(strict_readInt key absent).ok_iff]
    exact ⟨fun | .empty => absurd rfl hne | .text _ h => h, .text hne⟩
  · exact ((strict_readInt key absent).error_iff _ _).2 ⟨text, rfl, ⟨hne, hnone⟩, rfl⟩
  · have hown := Variable.own_of_mem_setting? hvalue
    rw [text?_eq_some_iff.2 htext] at hown
    rw [← Variable.own_eq_number_iff hq, hown, Option.some.injEq]
  · have htexts : ∀ v : Variable, v.key ≠ key → text? env v.key = text? env' v.key := by
      intro v hv
      rw [text?, hsame v.key hv, text?]
    refine ⟨fun v hv value hvalue value' hvalue' ↦ ?_, fun hkey ↦ ?_⟩
    · have hown := Variable.own_of_mem_setting? hvalue
      rw [htexts v hv, Variable.own_of_mem_setting? hvalue'] at hown
      exact (Option.some.inj hown).symm
    · refine ofEnvironment_eq_error_congr fun v hv ↦ htexts v ?_
      rintro rfl
      exact hkey (List.mem_map_of_mem hv)

/-- A port, and the smallest age limit. -/
def smallestAge (port : String) : Environment := fun key ↦
  if key = "METRICS_PORT" then some (Bytes.ofString port)
  else if key = "MAX_CLUSTER_AGE_MINUTES" then some (Bytes.ofString " -9223372036854775808")
  else none

/-- The largest port and one that is too large, beside the smallest age limit. -/
theorem Settings.reads_numbers_extremes :
    Quantity.Means ⟨0xFFFF, 8080, 1⟩ "+0065535" 65535 ∧
      Quantity.Means ⟨0xFFFF, 8080, 1⟩ "65536" 8080 ∧
      IsLimit " -9223372036854775808" (-9223372036854775808) ∧
      readInt "MAX_CLUSTER_AGE_MINUTES" 120 (some "-")
        = .error (.invalidInt "MAX_CLUSTER_AGE_MINUTES" "-") ∧
      (∀ e, ofEnvironment (smallestAge "65536") ≠ .error e) ∧
      ∀ value ∈ Variable.maxAge.setting? (smallestAge "+0065535"),
        ∀ value' ∈ Variable.maxAge.setting? (smallestAge "65536"), value = value' := by
  obtain ⟨hlimit, hquantity, -, hframe⟩ := reads_numbers
  have hport := hquantity (smallestAge "+0065535") .port _ "+0065535" rfl rfl _ rfl 65535
  have hlarge := hquantity (smallestAge "65536") .port _ "65536" rfl rfl _ rfl 8080
  have hage := (hlimit "MAX_CLUSTER_AGE_MINUTES" 120 " -9223372036854775808").2.1 (by decide)
    (-9223372036854775808)
  have hsign := (hlimit "MAX_CLUSTER_AGE_MINUTES" 120 "-").2.2 (by decide)
    ((strict_readInt "MAX_CLUSTER_AGE_MINUTES" 120).unreadable rfl).not_means
  have hsame : ∀ k, k ≠ "METRICS_PORT" → smallestAge "+0065535" k = smallestAge "65536" k :=
    fun k hk ↦ (if_neg hk).trans (if_neg hk).symm
  obtain ⟨hvalues, herrors⟩ :=
    hframe (smallestAge "+0065535") (smallestAge "65536") "METRICS_PORT" hsame
  refine ⟨hport.1 rfl, hlarge.1 rfl, hage.1 rfl, hsign, fun e he ↦ ?_, hvalues .maxAge (by decide)⟩
  have hok : ∃ settings, ofEnvironment (smallestAge "+0065535") = .ok settings := ⟨_, rfl⟩
  obtain ⟨settings, hsettings⟩ := hok
  exact nomatch hsettings.symm.trans ((herrors (by decide) e).2 he)

end AlertOperator
