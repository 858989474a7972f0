import AlertOperator.Cluster.World

/-!
# Calls to the cluster

What a call leaves behind. Every call is recorded, an inquiry leaves the cluster as it is, and the
calls that write a secret change what is found under its name and under no other. Which of them are
made, and what becomes of the secrets then, depends on what the first one is answered, and is said
for any answers by `Session.upserts_upsertSecret`.
-/

namespace AlertOperator.Cluster

/-! ## Objects by their names -/

section Find

variable {β : Type} {n : String} {o : Object β} {os : List (Object β)}

theorem Object.find?_cons_of_eq (h : o.name = some n) : Object.find? n (o :: os) = some o := by
  rw [Object.find?, List.find?_cons_of_pos (by simp [h])]

theorem Object.find?_cons_of_ne (h : o.name ≠ some n) :
    Object.find? n (o :: os) = Object.find? n os := by
  rw [Object.find?, List.find?_cons_of_neg (by simpa using h), Object.find?]

theorem Object.name_of_find? (h : Object.find? n os = some o) : o.name = some n := by
  rw [Object.find?] at h
  have hname := List.find?_some h
  exact beq_iff_eq.1 hname

theorem Object.find?_append (n : String) (os os' : List (Object β)) :
    Object.find? n (os ++ os') = (Object.find? n os).or (Object.find? n os') :=
  List.find?_append

theorem Object.find?_concat (h : o.name = some n) (hnone : Object.find? n os = none) :
    Object.find? n (os ++ [o]) = some o := by
  rw [Object.find?_append, hnone, Option.none_or]
  exact Object.find?_cons_of_eq h

theorem Object.find?_concat_of_ne (h : o.name ≠ some n) :
    Object.find? n (os ++ [o]) = Object.find? n os := by
  rw [Object.find?_append, Object.find?_cons_of_ne h]
  exact Option.or_none

end Find

section Replace

variable {secret : Secret} {n : String} {ss ss' : List Secret}

theorem replaceFirst_eq_none (hn : secret.name = some n) :
    replaceFirst secret ss = none ↔ Object.find? n ss = none := by
  induction ss with
  | nil => exact ⟨fun _ ↦ rfl, fun _ ↦ rfl⟩
  | cons s ss ih =>
    by_cases hs : s.name = some n
    · rw [Object.find?_cons_of_eq hs, replaceFirst, if_pos (by rw [hs, hn])]
      exact ⟨nofun, nofun⟩
    · rw [Object.find?_cons_of_ne hs, replaceFirst, if_neg (by rwa [hn]),
        Option.map_eq_none_iff, ih]

/-- The secret takes the place of the first one of its name. -/
theorem exists_of_replaceFirst (h : replaceFirst secret ss = some ss') :
    ∃ before old after, ss = before ++ old :: after ∧ ss' = before ++ secret :: after ∧
      old.name = secret.name ∧ ∀ s ∈ before, s.name ≠ secret.name := by
  induction ss generalizing ss' with
  | nil => exact nomatch h
  | cons s ss ih =>
    by_cases hs : s.name = secret.name
    · rw [replaceFirst, if_pos hs] at h
      obtain rfl := Option.some.inj h
      exact ⟨[], s, ss, rfl, rfl, hs, nofun⟩
    · rw [replaceFirst, if_neg hs, Option.map_eq_some_iff] at h
      obtain ⟨rest, hrest, rfl⟩ := h
      obtain ⟨before, old, after, rfl, rfl, hold, hbefore⟩ := ih hrest
      exact ⟨s :: before, old, after, rfl, rfl, hold, List.forall_mem_cons.2 ⟨hs, hbefore⟩⟩

theorem find?_replaceFirst (hn : secret.name = some n) (h : replaceFirst secret ss = some ss') :
    Object.find? n ss' = some secret := by
  obtain ⟨before, old, after, -, rfl, -, hbefore⟩ := exists_of_replaceFirst h
  have hnone : Object.find? n before = none := by
    rw [Object.find?, List.find?_eq_none]
    intro s hs
    simpa [hn] using hbefore s hs
  rw [Object.find?_append, hnone, Option.none_or]
  exact Object.find?_cons_of_eq hn

theorem replaceFirst_of_find? (hn : secret.name = some n) (h : Object.find? n ss = some secret) :
    replaceFirst secret ss = some ss := by
  induction ss with
  | nil => exact nomatch h
  | cons s ss ih =>
    by_cases hs : s.name = some n
    · rw [Object.find?_cons_of_eq hs, Option.some.injEq] at h
      rw [replaceFirst, if_pos (hs.trans hn.symm), h]
    · rw [Object.find?_cons_of_ne hs] at h
      rw [replaceFirst, if_neg (by rwa [hn]), ih h]
      rfl

theorem find?_replaceFirst_of_ne (hn : secret.name ≠ some n)
    (h : replaceFirst secret ss = some ss') : Object.find? n ss' = Object.find? n ss := by
  obtain ⟨before, old, after, rfl, rfl, hold, -⟩ := exists_of_replaceFirst h
  rw [Object.find?_append, Object.find?_append, Object.find?_cons_of_ne hn,
    Object.find?_cons_of_ne (hold ▸ hn)]

end Replace

/-! ## Calls -/

/-- The call is one by which the gate finds out about readiness. -/
def Call.asksReadiness : Call → Bool
  | readinessJob | deleteReadinessJob | createdAt => true
  | _ => false

theorem Call.written?_of_asksReadiness {call : Call} (h : call.asksReadiness = true) :
    call.written? = none := by
  cases call with
  | readinessJob | deleteReadinessJob | createdAt => rfl
  | _ => exact nomatch h

namespace Session

variable {α : Type} (call : Call) (s : Session)

@[simp] theorem calls_request (answer : World → Except StoreError α × World) :
    (s.request call answer).2.calls = s.calls ++ [call] := by
  rw [request]
  cases s.world.failing call.operation <;> rfl

theorem snd_inquire (answer : World → Except StoreError α) :
    (s.inquire call answer).2 = ⟨s.world, s.calls ++ [call]⟩ := by
  rw [inquire, request]
  cases s.world.failing call.operation <;> rfl

@[simp] theorem calls_inquire (answer : World → Except StoreError α) :
    (s.inquire call answer).2.calls = s.calls ++ [call] := by
  rw [snd_inquire]

@[simp] theorem world_inquire (answer : World → Except StoreError α) :
    (s.inquire call answer).2.world = s.world := by
  rw [snd_inquire]

variable {call s}

theorem request_of_works (h : s.world.failing call.operation = none)
    (answer : World → Except StoreError α × World) :
    s.request call answer = ((answer s.world).1, ⟨(answer s.world).2, s.calls ++ [call]⟩) := by
  rw [request, h]

theorem inquire_of_works (h : s.world.failing call.operation = none)
    (answer : World → Except StoreError α) :
    s.inquire call answer = (answer s.world, ⟨s.world, s.calls ++ [call]⟩) :=
  request_of_works h _

theorem request_of_fails {e : StoreError} (h : s.world.failing call.operation = some e)
    (answer : World → Except StoreError α × World) :
    s.request call answer = (.error e, ⟨s.world, s.calls ++ [call]⟩) := by
  rw [request, h]

/-! ## Writing a secret -/

/-- Between the two states of the cluster nothing was changed but what is found under the name of
the secret. -/
structure Writes (secret : Secret) (w w' : World) : Prop where
  rest : w' = { w with secrets := w'.secrets }
  others : ∀ n, secret.name ≠ some n → Object.find? n w'.secrets = Object.find? n w.secrets

variable {secret : Secret} {n : String}

/-- A secret is replaced if one is found under its name. -/
theorem replaceSecret_cases (hn : secret.name = some n)
    (hworks : s.world.failing .replaceSecret = none) :
    (Object.find? n s.world.secrets = none ∧
      ∃ text s', s.replaceSecret secret = (.error (.notFound text), s') ∧ s'.world = s.world) ∨
    ∃ s', s.replaceSecret secret = (.ok (), s') ∧ Writes secret s.world s'.world ∧
      Object.find? n s'.world.secrets = some secret := by
  have heq : s.replaceSecret secret = _ := @request_of_works _ (.replaceSecret secret) s hworks _
  rcases hreplace : replaceFirst secret s.world.secrets with _ | secrets
  · rw [hreplace] at heq
    exact .inl ⟨(replaceFirst_eq_none hn).1 hreplace, _, _, heq, rfl⟩
  · rw [hreplace] at heq
    refine .inr ⟨_, heq, ⟨rfl, fun m hm ↦ ?_⟩, find?_replaceFirst hn hreplace⟩
    exact find?_replaceFirst_of_ne hm hreplace

theorem createSecret_eq (hn : secret.name = some n)
    (hworks : s.world.failing .createSecret = none) :
    ∃ s', s.createSecret secret = (.ok (), s') ∧ Writes secret s.world s'.world ∧
      (Object.find? n s.world.secrets = none → Object.find? n s'.world.secrets = some secret) := by
  have heq := @request_of_works _ (.createSecret secret) s hworks fun w ↦
    ((.ok () : Except StoreError Unit), { w with secrets := w.secrets ++ [secret] })
  refine ⟨_, heq, ⟨rfl, fun m hm ↦ ?_⟩, fun hnone ↦ ?_⟩
  · exact Object.find?_concat_of_ne hm
  · exact Object.find?_concat hn hnone

theorem upsertSecret_of_works (hn : secret.name = some n)
    (hreplace : s.world.failing .replaceSecret = none)
    (hcreate : s.world.failing .createSecret = none) :
    Writes secret s.world (s.upsertSecret secret).2.world ∧
      Object.find? n (s.upsertSecret secret).2.world.secrets = some secret := by
  rw [upsertSecret]
  rcases replaceSecret_cases hn hreplace with
    ⟨hnone, text, s₁, hmissed, hworld⟩ | ⟨s₁, hreplaced, hwrites, hfound⟩
  · obtain ⟨s₂, hcreated, hwrites, hfound⟩ := createSecret_eq (s := s₁) hn (by rwa [hworld])
    rw [hworld] at hwrites hfound
    rw [hmissed]
    dsimp only
    rw [hcreated]
    exact ⟨hwrites, hfound hnone⟩
  · rw [hreplaced]
    exact ⟨hwrites, hfound⟩

theorem upsertSecret_of_find? (hn : secret.name = some n)
    (hreplace : s.world.failing .replaceSecret = none)
    (h : Object.find? n s.world.secrets = some secret) :
    (s.upsertSecret secret).2.world = s.world := by
  rw [upsertSecret, replaceSecret, request_of_works hreplace, replaceFirst_of_find? hn h]

end Session

/-! ## Writing a secret, whatever is answered -/

namespace World

variable (secret : Secret) (w : World)

/-- What replacing the secret is answered. -/
def replaceAnswer : Except StoreError Unit := (Session.replaceSecret secret { world := w }).1

/-- Replacing the secret is answered with the error that there is none. -/
def misses : Bool :=
  match w.replaceAnswer secret with
  | .ok () => false
  | .error e => e.isNotFound

/-- The secret is replaced, or there is none and it is added. -/
def accepts : Bool :=
  match w.replaceAnswer secret with
  | .ok () => true
  | .error e => e.isNotFound && (w.failing .createSecret).isNone

/-- Whether a secret is written depends on the secrets that are there and on the calls that fail. -/
theorem accepts_congr {w' : World} (hfailing : w'.failing = w.failing)
    (hsecrets : w'.secrets = w.secrets) : w'.accepts secret = w.accepts secret := by
  have hanswer : w'.replaceAnswer secret = w.replaceAnswer secret := by
    rw [replaceAnswer, replaceAnswer, Session.replaceSecret, Session.replaceSecret,
      Session.request, Session.request, hfailing, hsecrets]
    rcases w.failing _ with _ | e
    · cases replaceFirst secret w.secrets <;> rfl
    · rfl
  rw [accepts, accepts, hanswer, hfailing]

/-- What becomes of the secrets of a cluster when a secret is to be written. -/
inductive Upserted : List Secret → Prop
  /-- It takes the place of the first one of its name. -/
  | replaced {before after : List Secret} {old : Secret}
    (hanswer : w.replaceAnswer secret = .ok ()) (hsecrets : w.secrets = before ++ old :: after)
    (hold : old.name = secret.name) (hfirst : ∀ s ∈ before, s.name ≠ secret.name) :
    Upserted (before ++ secret :: after)
  /-- There is none whose place it could take, and it comes after all others. -/
  | created (hmisses : w.misses secret = true) (hworks : w.failing .createSecret = none) :
    Upserted (w.secrets ++ [secret])
  /-- They stay as they are. -/
  | failed (hfails : w.accepts secret = false) : Upserted w.secrets

variable {secret w} {n : String} {ss : List Secret}

/-- A secret that was written is there. It is found by its name, unless it was said that there was
none to replace although there was one. -/
theorem Upserted.stored (h : w.Upserted secret ss) (hn : secret.name = some n)
    (haccepts : w.accepts secret = true) : secret ∈ ss ∧
      ((∀ text, w.failing .replaceSecret = some (.notFound text) →
          Object.find? n w.secrets = none) → Object.find? n ss = some secret) := by
  cases h with
  | @replaced before after old hanswer hsecrets hold hfirst =>
    have hbefore : Object.find? n before = none := by
      rw [Object.find?, List.find?_eq_none]
      intro s hs
      simpa [hn] using hfirst s hs
    refine ⟨by simp, fun _ ↦ ?_⟩
    rw [Object.find?_append, hbefore, Option.none_or, Object.find?_cons_of_eq hn]
  | created hmisses =>
    refine ⟨by simp, fun hhonest ↦ Object.find?_concat hn ?_⟩
    rw [misses, replaceAnswer, Session.replaceSecret, Session.request] at hmisses
    rcases hfailing : w.failing .replaceSecret with _ | e
    · rcases hfirst : replaceFirst secret w.secrets with _ | secrets
      · exact (replaceFirst_eq_none hn).1 hfirst
      · simp [Call.operation, hfailing, hfirst] at hmisses
    · cases e with
      | notFound text => exact hhonest text hfailing
      | _ => simp [Call.operation, hfailing, StoreError.isNotFound] at hmisses
  | failed hfails => exact nomatch hfails.symm.trans haccepts

theorem Upserted.unchanged (h : w.Upserted secret ss) (haccepts : w.accepts secret = false) :
    ss = w.secrets := by
  cases h with
  | replaced hanswer =>
    rw [accepts, hanswer] at haccepts
    exact nomatch haccepts
  | created hmisses hworks =>
    rw [misses] at hmisses
    rw [accepts] at haccepts
    rcases hanswer : w.replaceAnswer secret with e | _
    · rw [hanswer] at hmisses haccepts
      dsimp only at hmisses haccepts
      rw [hmisses, hworks] at haccepts
      exact nomatch haccepts
    · rw [hanswer] at hmisses
      exact nomatch hmisses
  | failed => rfl

end World

namespace Session

variable {secret : Secret} {s s' : Session}

/-- From the first session to the second, the secret was to be written and nothing else. -/
structure Upserts (secret : Secret) (s s' : Session) : Prop where
  calls : s'.calls = s.calls ++ .replaceSecret secret ::
    if s.world.misses secret then [.createSecret secret] else []
  rest : s'.world = { s.world with secrets := s'.world.secrets }
  secrets : s.world.Upserted secret s'.world.secrets

theorem fst_replaceSecret (secret : Secret) (s : Session) :
    (s.replaceSecret secret).1 = s.world.replaceAnswer secret := by
  rw [World.replaceAnswer, replaceSecret, replaceSecret, request, request]
  cases s.world.failing (Call.operation (.replaceSecret secret)) with
  | none => rfl
  | some e => rfl

/-- Replacing a secret puts it in the place of the first one of its name, or changes nothing. -/
theorem replaceSecret_eq (secret : Secret) (s : Session) :
    (∃ secrets, s.world.replaceAnswer secret = .ok () ∧
      replaceFirst secret s.world.secrets = some secrets ∧
      s.replaceSecret secret
        = (.ok (), ⟨{ s.world with secrets := secrets }, s.calls ++ [.replaceSecret secret]⟩)) ∨
    ∃ e, s.world.replaceAnswer secret = .error e ∧
      s.replaceSecret secret = (.error e, ⟨s.world, s.calls ++ [.replaceSecret secret]⟩) := by
  rw [← fst_replaceSecret, replaceSecret, request]
  rcases s.world.failing (Call.operation (.replaceSecret secret)) with _ | e
  · rcases hfirst : replaceFirst secret s.world.secrets with _ | secrets
    · exact .inr ⟨_, rfl, rfl⟩
    · exact .inl ⟨secrets, rfl, rfl, rfl⟩
  · exact .inr ⟨e, rfl, rfl⟩

/-- A secret is replaced, added if there is none to replace, and otherwise not written. -/
theorem upserts_upsertSecret (secret : Secret) (s : Session) :
    s.Upserts secret (s.upsertSecret secret).2 ∧
      ((s.upsertSecret secret).1 = .ok () ↔ s.world.accepts secret = true) := by
  rw [upsertSecret]
  rcases replaceSecret_eq secret s with ⟨secrets, hok, hfirst, heq⟩ | ⟨e, herror, heq⟩
  · obtain ⟨before, old, after, hsplit, rfl, hold, hbefore⟩ := exists_of_replaceFirst hfirst
    rw [heq]
    exact ⟨⟨by simp [World.misses, hok], rfl, .replaced hok hsplit hold hbefore⟩,
      iff_of_true rfl (by simp [World.accepts, hok])⟩
  · rw [heq]
    cases e with
    | notFound text =>
      have hmisses : s.world.misses secret = true := by rw [World.misses, herror]; rfl
      have haccepts : s.world.accepts secret = (s.world.failing .createSecret).isNone := by
        rw [World.accepts, herror]
        rfl
      dsimp only
      rcases hcreate : s.world.failing .createSecret with _ | e
      · have hdone : createSecret secret ⟨s.world, s.calls ++ [.replaceSecret secret]⟩ = _ :=
          request_of_works hcreate _
        rw [hdone]
        exact ⟨⟨by simp [hmisses], rfl, .created hmisses hcreate⟩,
          iff_of_true rfl (by simp [haccepts, hcreate])⟩
      · have hrefused : s.world.accepts secret = false := by rw [haccepts, hcreate]; rfl
        have hdone : createSecret secret ⟨s.world, s.calls ++ [.replaceSecret secret]⟩ = _ :=
          request_of_fails hcreate _
        rw [hdone]
        exact ⟨⟨by simp [hmisses], rfl, .failed hrefused⟩, iff_of_false nofun (by simp [hrefused])⟩
    | _ =>
      have hrefused : s.world.accepts secret = false := by rw [World.accepts, herror]; rfl
      have hfound : s.world.misses secret = false := by rw [World.misses, herror]; rfl
      exact ⟨⟨by simp [hfound], rfl, .failed hrefused⟩, iff_of_false nofun (by simp [hrefused])⟩

theorem Upserts.others (h : s.Upserts secret s') :
    s'.world.secrets.filter (·.name ≠ secret.name)
      = s.world.secrets.filter (·.name ≠ secret.name) := by
  have hsecrets := h.secrets
  generalize s'.world.secrets = ss at hsecrets ⊢
  cases hsecrets with
  | replaced _ hsplit hold _ =>
    rw [hsplit, List.filter_append, List.filter_append, List.filter_cons_of_neg (by simp),
      List.filter_cons_of_neg (by simp [hold])]
  | created => rw [List.filter_append, List.filter_cons_of_neg (by simp), List.filter_nil,
      List.append_nil]
  | failed => rfl

end Session

end AlertOperator.Cluster
