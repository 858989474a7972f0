import AlertOperator.Watch.ErrorKind
import Mathlib.Data.List.Basic
import Mathlib.Data.List.Infix
import Mathlib.Data.Nat.Digits.Defs

/-!
# What an error of a watch is taken for

The kind of an error is the first one that has a sign in its text, `ofText_spec`. Some signs are
codes, three digits each, and a text may hold other numbers. The answer to a watch that starts too
far back holds two of them, the versions of the cluster that were asked for and that are left, and
these may be any numbers.

So the codes that come before the one for this answer, 404 and 401, can stand inside a version. They
are found there exactly if the decimal digits of the version hold them: a sign without blanks and
brackets cannot reach from one part of the answer into the next, `occurs_answer_iff`. The answer is
then taken for one of another kind. No other digits of the versions matter.
-/

namespace AlertOperator.Watch.ErrorKind

/-! ## Signs in texts -/

/-- `part` stands somewhere in `text`. -/
def Occurs (part text : String) : Prop := part.toList <:+: text.toList

/-- The signs of a kind. -/
def signsOf (kind : ErrorKind) : List String := (signs.lookup kind).getD []

/-- The text has a sign of the kind. -/
def Shows (kind : ErrorKind) (text : String) : Prop := ∃ sign ∈ signsOf kind, Occurs sign text

section Signs

variable {text : String}

theorem occurs_iff {part s : List Char} : occurs part s = true ↔ part <:+: s := by
  induction s with
  | nil => rw [occurs, List.isEmpty_iff, List.infix_nil]
  | cons c s ih =>
    rw [occurs, Bool.or_eq_true, List.isPrefixOf_iff_prefix, ih, List.infix_cons_iff]

instance (part text : String) : Decidable (Occurs part text) := decidable_of_iff _ occurs_iff

instance (kind : ErrorKind) (text : String) : Decidable (Shows kind text) :=
  inferInstanceAs (Decidable (∃ sign ∈ signsOf kind, Occurs sign text))

theorem signs_eq : signs
    = [notFound, unauthorized, expired, tooManyRequests].map fun kind ↦ (kind, signsOf kind) := rfl

theorem ofText_eq (text : String) : ofText text
    = ([notFound, unauthorized, expired, tooManyRequests].find? (Shows · text)).getD other := by
  have hshows : ∀ kind, (signsOf kind).any (fun sign ↦ occurs sign.toList text.toList)
      = decide (Shows kind text) := by
    intro kind
    rw [Bool.eq_iff_iff, List.any_eq_true, decide_eq_true_iff]
    simp only [occurs_iff]
    exact Iff.rfl
  rw [ofText, signs_eq, List.find?_map, Option.map_map]
  simp only [Function.comp_def, hshows, Option.map_id']

/-- The kind of an error is the first one that has a sign in its text. -/
theorem ofText_spec (text : String) :
    (ofText text = notFound ↔ Shows notFound text) ∧
    (ofText text = unauthorized ↔ ¬Shows notFound text ∧ Shows unauthorized text) ∧
    (ofText text = expired ↔
      ¬Shows notFound text ∧ ¬Shows unauthorized text ∧ Shows expired text) := by
  rw [ofText_eq]
  by_cases hmissing : Shows notFound text
  · simp [hmissing]
  · by_cases hrefused : Shows unauthorized text
    · simp [hmissing, hrefused]
    · by_cases hexpired : Shows expired text
      · simp [hmissing, hrefused, hexpired]
      · by_cases hmany : Shows tooManyRequests text <;> simp [hmissing, hrefused, hexpired, hmany]

end Signs

/-! ## Parts of a text -/

section Parts

variable {p a b : List Char} {c : Char}

theorem infix_append_cons_iff (hc : c ∉ p) : p <:+: a ++ c :: b ↔ p <:+: a ∨ p <:+: b := by
  rw [List.infix_append_iff, List.infix_cons_iff]
  constructor
  · rintro (h | (h | h) | ⟨q, r, rfl, hq, hr⟩)
    · exact .inl h
    · rcases List.prefix_cons_iff.1 h with rfl | ⟨q, rfl, -⟩
      · exact .inl (List.nil_infix)
      · exact absurd List.mem_cons_self hc
    · exact .inr h
    · rcases List.prefix_cons_iff.1 hr with rfl | ⟨q, rfl, -⟩
      · rw [List.append_nil]
        exact .inl hq.isInfix
      · exact absurd (by simp) hc
  · rintro (h | h)
    · exact .inl h
    · exact .inr (.inl (.inr h))

theorem infix_append_iff_of_getLast (hp : p.getLast? = some c) (hc : c ∉ b) :
    p <:+: a ++ b ↔ p <:+: a := by
  have hmem : c ∈ p := List.mem_of_getLast? hp
  rw [List.infix_append_iff]
  constructor
  · rintro (h | h | ⟨q, r, rfl, hq, hr⟩)
    · exact h
    · exact absurd (h.subset hmem) hc
    · rcases List.eq_nil_or_concat r with rfl | ⟨r, d, rfl⟩
      · rw [List.append_nil]
        exact hq.isInfix
      · rw [List.concat_eq_append] at hp hr
        rw [← List.append_assoc, List.getLast?_concat] at hp
        obtain rfl := Option.some.inj hp
        exact absurd (hr.subset (by simp)) hc
  · exact .inl

end Parts

/-! ## The answer to a watch that starts too far back -/

/-- What the API says of a version that it does not have any more: the version, and the first one
that it still has. -/
def staleText (asked oldest : Nat) : String :=
  "too old resource version: " ++ toString asked ++ " (" ++ toString oldest ++ ")"

/-- The text of an error with that message. -/
def answer (before : String) (asked oldest : Nat) (after : String) : String :=
  before ++ staleText asked oldest ++ after

section Answer

variable (before : String) (asked oldest : Nat) (after : String)

theorem toList_answer : (answer before asked oldest after).toList
    = before.toList ++ ("too old resource version: ".toList ++ ((toString asked).toList ++
      (" (".toList ++ ((toString oldest).toList ++ (")".toList ++ after.toList))))) := by
  have happend : ∀ s t u v w : String, (before ++ (s ++ t ++ u ++ v ++ w) ++ after).toList
      = before.toList ++ (s.toList ++ (t.toList ++ (u.toList ++ (v.toList ++ (w.toList ++
        after.toList))))) := by
    intro s t u v w
    simp only [String.toList_append, List.append_assoc]
  exact happend _ _ _ _ _

/-- A sign in one word stands before or after the message or in a version, provided that the words
of the message do not hold it, nor the first one its last character. -/
theorem occurs_answer_iff {sign : String} {last : Char}
    (hblank : ' ' ∉ sign.toList) (hopen : '(' ∉ sign.toList) (hclose : ')' ∉ sign.toList)
    (hlast : sign.toList.getLast? = some last) (hfirst : last ∉ "too".toList)
    (hwords : ∀ word ∈ ["old", "resource", "version:"], ¬Occurs sign word) :
    Occurs sign (answer before asked oldest after) ↔
      ∃ part ∈ [before, toString asked, toString oldest, after], Occurs sign part := by
  have hne : ¬sign.toList <:+: [] := by
    intro h
    rw [List.infix_nil.1 h] at hlast
    exact nomatch hlast
  have hold : ¬sign.toList <:+: "old".toList := hwords "old" (by simp)
  have hresource : ¬sign.toList <:+: "resource".toList := hwords "resource" (by simp)
  have hversion : ¬sign.toList <:+: "version:".toList := hwords "version:" (by simp)
  have hparts : (answer before asked oldest after).toList
      = (before.toList ++ "too".toList) ++ ' ' :: ("old".toList ++ ' ' :: ("resource".toList ++
        ' ' :: ("version:".toList ++ ' ' :: ((toString asked).toList ++ ' ' :: ([] ++
        '(' :: ((toString oldest).toList ++ ')' :: after.toList)))))) := by
    have hstart : "too old resource version: ".toList = "too".toList ++ ' ' :: ("old".toList ++
        ' ' :: ("resource".toList ++ ' ' :: ("version:".toList ++ [' ']))) := by decide
    rw [toList_answer, hstart]
    simp only [List.append_assoc, List.cons_append, List.nil_append]
    rfl
  simp only [Occurs, List.mem_cons, List.not_mem_nil, or_false, exists_eq_or_imp, exists_eq_left]
  rw [hparts, infix_append_cons_iff hblank, infix_append_cons_iff hblank,
    infix_append_cons_iff hblank, infix_append_cons_iff hblank, infix_append_cons_iff hblank,
    infix_append_cons_iff hopen, infix_append_cons_iff hclose,
    infix_append_iff_of_getLast hlast hfirst]
  simp only [hold, hresource, hversion, hne, false_or]

theorem not_occurs_toString {sign : String} {c : Char} (hc : c ∈ sign.toList)
    (hdigit : c.isDigit = false) (n : Nat) : ¬Occurs sign (toString n) := by
  intro h
  have hmem : c ∈ Nat.toDigits 10 n := by simpa [Nat.repr] using h.subset hc
  rw [Nat.isDigit_of_mem_toDigits (by decide) (by decide) hmem] at hdigit
  exact nomatch hdigit

/-- Of the signs of something that does not exist only the code is left. -/
theorem shows_notFound_answer_iff
    (hnone : ∀ sign ∈ ["ObjectNotFound", "not found"],
      ¬Occurs sign (answer before asked oldest after)) :
    Shows notFound (answer before asked oldest after) ↔
      ∃ part ∈ [before, toString asked, toString oldest, after], Occurs "404" part := by
  have hsigns : signsOf notFound = ["ObjectNotFound", "404", "not found"] := rfl
  rw [← occurs_answer_iff before asked oldest after (by decide) (by decide) (by decide) rfl
    (by decide) (by decide), Shows, hsigns]
  simp [hnone]

theorem shows_unauthorized_answer_iff : Shows unauthorized (answer before asked oldest after) ↔
    (∃ part ∈ [before, toString asked, toString oldest, after], Occurs "401" part) ∨
      Occurs "Unauthorized" before ∨ Occurs "Unauthorized" after := by
  have hword : Occurs "Unauthorized" (answer before asked oldest after) ↔
      Occurs "Unauthorized" before ∨ Occurs "Unauthorized" after := by
    have hnumber : ∀ n : Nat, ¬Occurs "Unauthorized" (toString n) :=
      not_occurs_toString (by decide) (by decide : 'U'.isDigit = false)
    rw [occurs_answer_iff before asked oldest after (by decide) (by decide) (by decide) rfl
      (by decide) (by decide)]
    simp only [List.mem_cons, List.not_mem_nil, or_false, exists_eq_or_imp, exists_eq_left,
      hnumber, false_or]
  have hsigns : signsOf unauthorized = ["401", "Unauthorized"] := rfl
  rw [← occurs_answer_iff before asked oldest after (by decide) (by decide) (by decide) rfl
    (by decide) (by decide), Shows, hsigns, List.exists_mem_cons_iff]
  simp [hword]

theorem shows_expired_answer : Shows expired (answer before asked oldest after) := by
  have hsigns : "too old resource version" ∈ signsOf expired := by decide
  have hstart : "too old resource version: ".toList
    = "too old resource version".toList ++ [':', ' '] := by decide
  refine ⟨_, hsigns, ?_⟩
  rw [Occurs, toList_answer, hstart, List.append_assoc]
  exact (List.prefix_append _ _).isInfix.trans (List.suffix_append _ _).isInfix

/-- The answer to a watch that starts too far back is taken for one about something that does not
exist exactly if the code 404 stands before or after its message or in the digits of a version;
otherwise for one that refuses the operator exactly if the code 401 stands there, or the word for
it before or after the message; and otherwise for what it is. Signs in words of something that does
not exist are left aside, since the API does not give them in this answer. -/
theorem ofText_answer
    (hnone : ∀ sign ∈ ["ObjectNotFound", "not found"],
      ¬Occurs sign (answer before asked oldest after)) :
    let parts := [before, toString asked, toString oldest, after]
    let missing := ∃ part ∈ parts, Occurs "404" part
    let refused := (∃ part ∈ parts, Occurs "401" part) ∨
      Occurs "Unauthorized" before ∨ Occurs "Unauthorized" after
    (ofText (answer before asked oldest after) = notFound ↔ missing) ∧
    (ofText (answer before asked oldest after) = unauthorized ↔ ¬missing ∧ refused) ∧
    (ofText (answer before asked oldest after) = expired ↔ ¬missing ∧ ¬refused) := by
  intro parts missing refused
  have hmissing : Shows notFound (answer before asked oldest after) ↔ missing :=
    shows_notFound_answer_iff before asked oldest after hnone
  have hrefused : Shows unauthorized (answer before asked oldest after) ↔ refused :=
    shows_unauthorized_answer_iff before asked oldest after
  obtain ⟨h404, h401, h410⟩ := ofText_spec (answer before asked oldest after)
  rw [h404, h401, h410, hmissing, hrefused]
  exact ⟨Iff.rfl, Iff.rfl,
    and_congr_right fun _ ↦ and_iff_left (shows_expired_answer before asked oldest after)⟩

end Answer

/-- What an error of a watch tells of the answer of the API to one that starts too far back. -/
def goneText (asked oldest : Nat) : String :=
  answer "message: \"" asked oldest "\", reason: \"Expired\", code: 410"

/-- Versions that hold neither code. -/
theorem ofText_answer_gone :
    (∀ sign ∈ ["ObjectNotFound", "not found"], ¬Occurs sign (goneText 13999 20410)) ∧
      ofText (goneText 13999 20410) = expired := by
  have hnone : ∀ sign ∈ ["ObjectNotFound", "not found"], ¬Occurs sign (goneText 13999 20410) := by
    decide +kernel
  obtain ⟨-, -, hexpired⟩ := ofText_answer _ 13999 20410 _ hnone
  exact ⟨hnone, hexpired.2 (by decide +kernel)⟩

/-- An answer of the API in which the digits of a version hold 404, or 401. It has all that tells
that the version is gone and no word of anything that does not exist, but it is taken for an error
of another kind. -/
theorem ofText_answer_version_holds_code :
    (∀ asked ∈ [40412, 14013],
      (∀ part ∈ ["Expired", "410", staleText asked 50000], Occurs part (goneText asked 50000)) ∧
      ∀ sign ∈ ["ObjectNotFound", "not found"], ¬Occurs sign (goneText asked 50000)) ∧
    ofText (goneText 40412 50000) = notFound ∧ ofText (goneText 14013 50000) = unauthorized := by
  decide +kernel

end AlertOperator.Watch.ErrorKind
