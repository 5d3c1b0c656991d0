import Dialogue.Proofs.Text.Trimmed

/-!
# Words of a text

A blank parts the words in front of it from those behind it, and all that is said about words
follows from this. A text is evenly spaced when it consists of words with single plain blanks
between them: there is no other blank in it, and none at its ends.

Main statements: `words_append_blank`; `words_intercalate`, an evenly spaced text has the words that
it consists of; `EvenlySpaced.strip_eq` and `EvenlySpaced.continues`.
-/

namespace Dialogue.Text

/-- **A blank parts words.** -/
theorem splitWords_append_cons {c : Char} (blank : isBlank c = true) (cs ds word : List Char) :
    splitWords (cs ++ c :: ds) word = splitWords cs word ++ splitWords ds [] := by
  induction cs generalizing word with
  | nil => cases word <;> simp [splitWords, blank]
  | cons d cs ih =>
    rw [List.cons_append, splitWords, splitWords]
    split
    · split
      · exact ih []
      · rw [ih, List.cons_append]
    · exact ih (d :: word)

theorem words_append_blank (s t : String) : words (s ++ " " ++ t) = words s ++ words t := by
  simp only [words, String.toList_append, List.append_assoc]
  rw [show " ".toList ++ t.toList = ' ' :: t.toList from rfl,
    splitWords_append_cons (by decide), List.map_append]

/-- A text without blanks, behind an open word, is one word with it. -/
theorem splitWords_of_unbroken {cs word : List Char} (unbroken : ∀ c ∈ cs, isBlank c = false)
    (filled : cs ++ word ≠ []) : splitWords cs word = [word.reverse ++ cs] := by
  induction cs generalizing word with
  | nil =>
    have some_ : ¬ word.isEmpty = true := by simpa using filled
    rw [splitWords, if_neg some_, List.append_nil]
  | cons c cs ih =>
    have rest : ∀ d ∈ cs, isBlank d = false := fun d mem => unbroken d (List.mem_cons_of_mem c mem)
    rw [splitWords, unbroken c List.mem_cons_self, if_neg Bool.false_ne_true, ih rest (by simp)]
    simp

/-- A text that is one word: it is not empty and has no blank. -/
def Solid (w : String) : Prop := w ≠ "" ∧ ∀ c ∈ w.toList, isBlank c = false

instance (w : String) : Decidable (Solid w) :=
  @instDecidableAnd _ _ inferInstance (List.decidableBAll _ _)

theorem words_of_solid {w : String} (solid : Solid w) : words w = [w] := by
  have filled : w.toList ++ [] ≠ [] := by simpa using solid.1
  simp [words, splitWords_of_unbroken solid.2 filled]

theorem words_intercalate {ws : List String} (each : ∀ w ∈ ws, Solid w) :
    words (" ".intercalate ws) = ws := by
  induction ws with
  | nil => rfl
  | cons w ws ih =>
    have first := words_of_solid (each w List.mem_cons_self)
    have rest := ih fun v mem => each v (List.mem_cons_of_mem w mem)
    cases ws with
    | nil => simpa using first
    | cons v ws =>
      rw [String.intercalate_cons_of_ne_nil (List.cons_ne_nil v ws), words_append_blank, first,
        rest, List.singleton_append]

/-- Words with single plain blanks between them. -/
def EvenlySpaced (s : String) : Prop := ∃ ws, (∀ w ∈ ws, Solid w) ∧ s = " ".intercalate ws

/-! ## No blanks at the ends -/

/-- Words with blanks between them neither begin nor end with a blank. -/
theorem trimmed_intercalate {ws : List String} (each : ∀ w ∈ ws, Solid w) :
    Trimmed (" ".intercalate ws).toList := by
  induction ws with
  | nil => exact ⟨nofun, nofun⟩
  | cons w ws ih =>
    have solid := each w List.mem_cons_self
    have filled : w.toList ≠ [] := by simpa using solid.1
    cases ws with
    | nil =>
      rw [String.intercalate_singleton]
      exact ⟨fun c mem => solid.2 c (List.mem_of_mem_head? mem),
        fun c mem => solid.2 c (List.mem_of_getLast? mem)⟩
    | cons v ws =>
      have others : ∀ u ∈ v :: ws, Solid u := fun u mem => each u (List.mem_cons_of_mem w mem)
      have filled' : (" ".intercalate (v :: ws)).toList ≠ [] := by
        intro none_
        have same := words_intercalate others
        rw [String.toList_eq_nil_iff.1 none_] at same
        cases same
      rw [String.intercalate_cons_of_ne_nil (List.cons_ne_nil v ws), String.toList_append,
        String.toList_append, List.append_assoc, Trimmed, List.head?_append,
        Option.or_of_isSome (List.isSome_head?.2 filled),
        ← List.append_assoc, List.getLast?_append,
        Option.or_of_isSome (List.getLast?_isSome.2 filled')]
      exact ⟨fun c mem => solid.2 c (List.mem_of_mem_head? mem), (ih others).2⟩

theorem EvenlySpaced.strip_eq {s : String} (even : EvenlySpaced s) : strip s = s := by
  obtain ⟨ws, solid, rfl⟩ := even
  exact strip_eq_self_iff.2 (trimmed_intercalate solid)

/-! ## Going on -/

/-- A text is another one, or goes on behind it with a plain blank. -/
def Continues (s t : String) : Prop := s = t ∨ ∃ rest, s = t ++ " " ++ rest

theorem Continues.words_prefix {s t : String} (continues : Continues s t) :
    words t <+: words s := by
  rcases continues with rfl | ⟨rest, rfl⟩
  · exact List.prefix_refl _
  · rw [words_append_blank]
    exact List.prefix_append _ _

/-- **An evenly spaced text that begins with the words of another** is that text, or goes on behind
it with a plain blank. -/
theorem EvenlySpaced.continues {s t : String} (even : EvenlySpaced s) (even' : EvenlySpaced t)
    (filled : t ≠ "") (begins : words t <+: words s) : Continues s t := by
  obtain ⟨ws, solid, rfl⟩ := even
  obtain ⟨vs, solid', rfl⟩ := even'
  rw [words_intercalate solid, words_intercalate solid'] at begins
  obtain ⟨us, rfl⟩ := begins
  have some_ : vs ≠ [] := by
    rintro rfl
    exact filled rfl
  by_cases none_ : us = []
  · exact .inl (by rw [none_, List.append_nil])
  · exact .inr ⟨_, String.intercalate_append_of_ne_nil some_ none_⟩

end Dialogue.Text
