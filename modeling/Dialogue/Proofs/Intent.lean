import Dialogue.Conversation.Basic

/-!
# The most keywords win

The intents are gone through in the order of the vocabulary, and a later one takes the place of the
best so far only when more of its keywords occur. So what is detected is the foremost intent: those
listed before it have fewer keywords in the message, those listed after it no more.

One keyword is enough for the confidence that a wish to buy has to reach. So asking for that
confidence as well changes nothing, neither in what counts as a wish to buy nor in where a message
is sent.

Main statements: `foldl_better_cases`, what is left of a list of guesses; `le_confidence`, the
confidence of one keyword is always reached; and `detect_foremost`.
-/

namespace Dialogue.Intent

/-! ## The best of several guesses -/

/-- **The best guess** is the first of those with the most keywords, unless none has more than the
guess that was there before. -/
theorem foldl_better_cases (best : Guess) (gs : List Guess) :
    (gs.foldl better best = best ∧ ∀ g ∈ gs, g.keywords.length ≤ best.keywords.length) ∨
      ∃ before g after, gs = before ++ g :: after ∧ gs.foldl better best = g ∧
        best.keywords.length < g.keywords.length ∧
        (∀ b ∈ before, b.keywords.length < g.keywords.length) ∧
        ∀ a ∈ after, a.keywords.length ≤ g.keywords.length := by
  induction gs generalizing best with
  | nil => exact .inl ⟨rfl, List.forall_mem_nil _⟩
  | cons next rest ih =>
    rw [List.foldl_cons]
    by_cases more : best.keywords.length < next.keywords.length
    · rw [show better best next = next from if_pos more]
      rcases ih next with ⟨stays, least⟩ | ⟨before, g, after, rfl, wins, most, fewer, noMore⟩
      · exact .inr ⟨[], next, rest, rfl, stays, more, List.forall_mem_nil _, least⟩
      · exact .inr ⟨next :: before, g, after, rfl, wins, Nat.lt_trans more most,
          List.forall_mem_cons.2 ⟨most, fewer⟩, noMore⟩
    · rw [show better best next = best from if_neg more]
      rcases ih best with ⟨stays, least⟩ | ⟨before, g, after, rfl, wins, most, fewer, noMore⟩
      · exact .inl ⟨stays, List.forall_mem_cons.2 ⟨Nat.le_of_not_lt more, least⟩⟩
      · have fewer' := Nat.lt_of_le_of_lt (Nat.le_of_not_lt more) most
        exact .inr ⟨next :: before, g, after, rfl, wins, most,
          List.forall_mem_cons.2 ⟨fewer', fewer⟩, noMore⟩

/-! ## Keywords in a message -/

/-- The keywords that occur in a folded message, in their order. -/
def occurring (folded : String) (keywords : List String) : List String :=
  keywords.filter (Text.occursIn · folded)

theorem mem_occurring_iff {folded k : String} {keywords : List String} :
    k ∈ occurring folded keywords ↔ k ∈ keywords ∧ k.toList <:+: folded.toList := by
  rw [occurring, List.mem_filter, Text.occursIn_iff]
  refine and_congr_right fun _ => exists_congr fun before => exists_congr fun after => ?_
  exact eq_comm

theorem occurring_eq_nil_iff {folded : String} {keywords : List String} :
    occurring folded keywords = [] ↔ ∀ k ∈ keywords, ¬ k.toList <:+: folded.toList := by
  rw [List.eq_nil_iff_forall_not_mem]
  simp only [mem_occurring_iff, not_and]

/-- No keyword of any intent occurs in a folded message. -/
def Silent (folded : String) : Prop :=
  ∀ entry ∈ vocabulary, ∀ k ∈ entry.2, ¬ k.toList <:+: folded.toList

/-- The first entry of the vocabulary among those with the most keywords in a folded message. -/
def Foremost (folded : String) (entry : Intent × List String) : Prop :=
  ∃ before after, vocabulary = before ++ entry :: after ∧
    (∀ e ∈ before, (occurring folded e.2).length < (occurring folded entry.2).length) ∧
    ∀ e ∈ after, (occurring folded e.2).length ≤ (occurring folded entry.2).length

/-- **What is detected** is nothing in a message without keywords, and else the foremost intent with
its keywords. -/
theorem detect_cases (message : String) :
    (detect message = noGuess ∧ Silent (Text.fold message)) ∨
      ∃ entry ∈ vocabulary, Foremost (Text.fold message) entry ∧
        occurring (Text.fold message) entry.2 ≠ [] ∧
        detect message = ⟨entry.1, occurring (Text.fold message) entry.2⟩ := by
  rcases foldl_better_cases noGuess (guesses (Text.fold message)) with
    ⟨none_, least⟩ | ⟨before, g, after, split, wins, most, fewer, noMore⟩
  · refine .inl ⟨none_, fun entry mem => occurring_eq_nil_iff.1 ?_⟩
    exact List.length_eq_zero_iff.1 (Nat.le_zero.1 (least _ (List.mem_map_of_mem mem)))
  · obtain ⟨front, entries, shape, rfl, shape'⟩ := List.map_eq_append_iff.1 split
    obtain ⟨entry, back, rfl, rfl, rfl⟩ := List.map_eq_cons_iff.1 shape'
    refine .inr ⟨entry, ?_, ⟨front, back, shape, ?_, ?_⟩, List.length_pos_iff.1 most, wins⟩
    · exact shape ▸ List.mem_append_right _ List.mem_cons_self
    · exact fun e mem => fewer _ (List.mem_map_of_mem mem)
    · exact fun e mem => noMore _ (List.mem_map_of_mem mem)

/-! ## Confidence -/

theorem confidence_noGuess : noGuess.confidence = .ofInt 0 := rfl

theorem length_vocabulary_le : ∀ entry ∈ vocabulary, entry.2.length ≤ 18 := by decide

/-- **The confidence of one keyword is always reached**, up to the longest list of keywords. -/
theorem le_confidence {g : Guess} (some_ : g.keywords ≠ []) (few : g.keywords.length ≤ 18) :
    confidencePerKeyword.le g.confidence = true := by
  have each : ∀ n : Fin 19, n ≠ 0 →
      confidencePerKeyword.le
        (let sum := (Binary64.ofInt n.val).mul confidencePerKeyword
        if sum.le (.ofInt 1) then sum else .ofInt 1) = true := by
    decide +kernel
  have filled : ¬ g.keywords.isEmpty = true := by simpa using some_
  rw [Guess.confidence, if_neg filled]
  exact each ⟨g.keywords.length, Nat.lt_succ_of_le few⟩
    (Fin.ne_of_val_ne (mt List.length_eq_zero_iff.1 some_))

/-- **The threshold decides nothing**: whatever counts as a wish to buy reaches it. -/
theorem isSale_iff (message : String) :
    isSale message = true ↔ (detect message).intent = .sale := by
  unfold isSale
  rw [Bool.and_eq_true, decide_eq_true_iff, and_iff_left_iff_imp]
  intro sale
  rcases detect_cases message with ⟨none_, -⟩ | ⟨entry, listed, -, some_, found⟩
  · rw [none_] at sale
    cases sale
  · rw [found]
    have few := List.length_filter_le (Text.occursIn · (Text.fold message)) entry.2
    exact le_confidence some_ (Nat.le_trans few (length_vocabulary_le _ listed))

/-! ## Where a message is sent -/

/-- The response to a message outside of flows, when a wish to buy has to reach the threshold. -/
def answerBySale (m : Incoming) : Act Response := do
  if m.inputKind ≠ .text || m.input = "" then Conversation.openMenu m
  else if isSale m.input then Conversation.start m Catalogue.quotationCode
  else match ← Conversation.cannedReply? m.input with
    | some reply => Conversation.say m reply.response "auto_response"
    | none => Conversation.answerIntent m (detect m.input).intent

theorem answerFresh_eq (m : Incoming) : Conversation.answerFresh m = answerBySale m := by
  unfold Conversation.answerFresh answerBySale
  simp only [isSale_iff]
  rfl

/-- **The most keywords win.** Nothing is detected, with no keywords and no confidence, exactly when
no keyword occurs in the folded message. Otherwise it is the first intent among those with the most
keywords, with exactly its keywords that occur, in their order. A message counts as a wish to buy
exactly when this intent is detected, so messages are sent where they would be sent if the wish had
to reach the threshold. -/
theorem detect_foremost (message : String) :
    ((detect message).intent = .unknown ∧ (detect message).keywords = [] ∧
        (detect message).confidence = .ofInt 0 ↔ Silent (Text.fold message)) ∧
      (¬ Silent (Text.fold message) → ∃ entry, Foremost (Text.fold message) entry ∧
        detect message = ⟨entry.1, occurring (Text.fold message) entry.2⟩) ∧
      (isSale message = true ↔ (detect message).intent = .sale) ∧
      ∀ m : Incoming, Conversation.answerFresh m = answerBySale m := by
  refine ⟨?_, ?_, isSale_iff message, answerFresh_eq⟩
  · rcases detect_cases message with ⟨none_, silent⟩ | ⟨entry, listed, -, some_, found⟩
    · rw [none_]
      exact iff_of_true ⟨rfl, rfl, confidence_noGuess⟩ silent
    · rw [found]
      refine iff_of_false (fun known => some_ known.2.1) fun silent => some_ ?_
      exact occurring_eq_nil_iff.2 (silent entry listed)
  · intro spoken
    rcases detect_cases message with ⟨-, silent⟩ | ⟨entry, -, foremost, -, found⟩
    · exact absurd silent spoken
    · exact ⟨entry, foremost, found⟩

/-- Two intents with one keyword each: the one that is listed first is detected. -/
example : detect "¿Precio de envío?" = ⟨.sale, ["precio"]⟩ := by decide +kernel

end Dialogue.Intent
