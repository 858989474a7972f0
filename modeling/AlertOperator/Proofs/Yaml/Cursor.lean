import AlertOperator.Yaml.Cursor
import AlertOperator.Yaml.Layout
import Mathlib.Data.List.TakeWhile

/-!
# Moving through a document

What the moves of a `Cursor` do when it is known which characters come next. The proofs about the
scanner of documents speak of a place by what is still to come, so every lemma here has the rest of
the document in the form `xs ++ k`, where the move passes `xs` and ends before `k`.

A written document holds only printable characters, so of the line breaks only newline, U+2028 and
U+2029 have to be considered. None of these is read as another character.
-/

namespace AlertOperator.Yaml

/-! ## Classes of characters -/

/-- The text is at its end or begins with a character that is not in `p`. -/
def Stops (p : Char → Bool) (k : List Char) : Prop := k.head?.any p = false

@[simp] theorem stops_nil (p : Char → Bool) : Stops p [] := rfl

@[simp] theorem stops_cons {p : Char → Bool} {x : Char} {k : List Char} :
    Stops p (x :: k) ↔ p x = false := Iff.rfl

/-- The text is at its end or begins with a character with which a token may begin, which is no
blank and does not announce a comment. -/
def Opens (k : List Char) : Prop := Stops (fun c ↦ isSpacing c || c == '#' || c == '\uFEFF') k

theorem opens_cons {c : Char} {k : List Char} :
    Opens (c :: k) ↔ isSpacing c = false ∧ c ≠ '#' ∧ c ≠ '\uFEFF' := by
  rw [Opens, stops_cons, Bool.or_eq_false_iff, Bool.or_eq_false_iff, beq_eq_false_iff_ne,
    beq_eq_false_iff_ne, and_assoc]

theorem Opens.stops {k : List Char} (hk : Opens k) : Stops isSpacing k := by
  cases k with
  | nil => exact stops_nil _
  | cons c k => exact (opens_cons.1 hk).1

/-- A text begins with a run of characters in `p`, which may be empty. -/
theorem exists_span (p : Char → Bool) (s : List Char) :
    ∃ v u, s = v ++ u ∧ (∀ c ∈ v, p c = true) ∧ Stops p u := by
  refine ⟨s.takeWhile p, s.dropWhile p, List.takeWhile_append_dropWhile.symm,
    fun c hc ↦ List.mem_takeWhile_imp hc, ?_⟩
  have hhead := List.head?_dropWhile_not p s
  cases hu : s.dropWhile p with
  | nil => exact stops_nil p
  | cons c u =>
    rw [hu] at hhead
    exact stops_cons.2 (by simpa using hhead)

theorem eq_of_isBreak {x : Char} (hb : isBreak x = true) (hp : isPrintable x = true) :
    x = '\n' ∨ x = '\u2028' ∨ x = '\u2029' := by
  simp only [isBreak, Bool.or_eq_true, beq_iff_eq] at hb
  rcases hb with (((rfl | rfl) | rfl) | rfl) | rfl
  · exact .inl rfl
  · exact absurd hp (by decide)
  · exact absurd hp (by decide)
  · exact .inr (.inl rfl)
  · exact .inr (.inr rfl)

theorem isBlank_of_isPrintable {x : Char} (hp : isPrintable x = true) :
    isBlank x = (x == ' ') := by
  have htab : x ≠ '\t' := by
    rintro rfl
    exact absurd hp (by decide)
  simp [isBlank, htab]

theorem isSpacing_of_isPrintable {x : Char} (hp : isPrintable x = true) :
    isSpacing x = (x == ' ' || isBreak x) := by
  rw [isSpacing, isBlank_of_isPrintable hp]

theorem ne_of_isPrintable {x y : Char} (hp : isPrintable x = true)
    (hy : isPrintable y = false) : x ≠ y := by
  rintro rfl
  rw [hp] at hy
  exact absurd hy (by decide)

theorem isAllowed_of_isPrintable {x : Char} (hp : isPrintable x = true) : isAllowed x = true := by
  simp only [isPrintable, isAllowed, Bool.or_eq_true, Bool.and_eq_true, beq_iff_eq,
    decide_eq_true_eq, bne_iff_ne] at hp ⊢
  omega

theorem eq_spaces {s : List Char} (h : ∀ c ∈ s, (c == ' ') = true) : s = spaces s.length :=
  List.eq_replicate_iff.2 ⟨rfl, fun c hc ↦ beq_iff_eq.1 (h c hc)⟩

/-! ## Moves -/

namespace Cursor

variable {xs k : List Char} {x : Char} {i l m : Nat} {p : Char → Bool}

theorem skip_append (xs k : List Char) (i l m : Nat) :
    skip xs.length ⟨xs ++ k, i, l, m⟩ = ⟨k, i + xs.length, l, m + xs.length⟩ := by
  simp [skip]

@[simp] theorem startsWith_cons {y : Char} : startsWith ⟨x :: k, i, l, m⟩ y = (x == y) := rfl

@[simp] theorem skip_one : skip 1 ⟨x :: k, i, l, m⟩ = ⟨k, i + 1, l, m + 1⟩ := rfl

theorem span_append {w : List Char} (hw : ∀ a ∈ w, p a = true) (hk : Stops p k) :
    span p ⟨w ++ k, i, l, m⟩ = (w, ⟨k, i + w.length, l, m + w.length⟩) := by
  have hrun : k.takeWhile p = [] := by
    cases k with
    | nil => rfl
    | cons y k => rw [List.takeWhile_cons_of_neg (by simpa using hk)]
  rw [span, List.takeWhile_append_of_pos hw, hrun, List.append_nil]
  exact congrArg _ (skip_append w k i l m)

theorem span_of_stops (hk : Stops p k) : span p ⟨k, i, l, m⟩ = ([], ⟨k, i, l, m⟩) :=
  span_append (w := []) (by simp) hk

theorem readBreak_of_isPrintable (hb : isBreak x = true) (hp : isPrintable x = true) :
    readBreak ⟨x :: k, i, l, m⟩ = ([x], ⟨k, i + 1, l + 1, 0⟩) := by
  rcases eq_of_isBreak hb hp with rfl | rfl | rfl <;> rfl

@[simp] theorem skipBreak_newline : skipBreak ⟨'\n' :: k, i, l, m⟩ = ⟨k, i + 1, l + 1, 0⟩ := rfl

theorem atDocumentMark_of_pos (hm : 0 < m) : atDocumentMark ⟨k, i, l, m⟩ = false := by
  have hne : (m == 0) = false := by
    rw [beq_eq_false_iff_ne]
    omega
  simp [atDocumentMark, hne]

theorem atDocumentMark_of_ne (hhyphen : x ≠ '-') (hdot : x ≠ '.') :
    atDocumentMark ⟨x :: k, i, l, m⟩ = false := by
  simp [atDocumentMark, hhyphen.symm, hdot.symm]

theorem atDocumentMark_of_atSpacing (hk : atSpacing k = true) :
    atDocumentMark ⟨x :: k, i, l, m⟩ = false := by
  cases k with
  | nil => simp [atDocumentMark]
  | cons y k =>
    have hhyphen : '-' ≠ y := by
      rintro rfl
      exact absurd (show isSpacing '-' = true from hk) (by decide)
    have hdot : '.' ≠ y := by
      rintro rfl
      exact absurd (show isSpacing '.' = true from hk) (by decide)
    simp [atDocumentMark, hhyphen, hdot]

end Cursor

end AlertOperator.Yaml
