import Dialogue.Proofs.Regex.Literal
import Dialogue.Proofs.Text.Lowered
import Dialogue.Proofs.Text.Words
import Dialogue.Reply.Basic

/-!
# Plain triggers

A keyword and a pattern are compared with the same folded message, but the keyword is folded before
and the pattern is taken as it is written, up to case. A plain trigger, of letters, digits and
blanks, is a literal pattern. So it finds as a pattern all that it finds as a keyword exactly when
it finds itself: its letters must stand in its own folded form. A trigger that has no accents and no
compatibility forms does. One that has them does not in general, and then the trigger itself is a
message that the keyword finds and the pattern misses: `not_calls_accented`.

Main statements: `sameLetters_lowerChars`, `answers_regex` and `calls_of_plain`.
-/

namespace Dialogue.Regex

open Text

/-! ## Letters in lower case -/

theorem kinOf_contains (code : Nat) : (kinOf code).contains code = true := by
  unfold kinOf
  cases kin : caseKin.find? (·.contains code) with
  | none => simp
  | some codes =>
    have found := List.find?_some kin
    exact found

/-- A character in lower case is the same letter. -/
theorem sameLetter_lowered (c : Char) : SameLetter true c (Char.ofNat (lowerCode c.toNat)) := by
  rw [SameLetter, toNat_ofNat_lowerCode, sameCode]
  cases cased : (Mode.mk true false).isCased c.toNat with
  | true =>
    show (kinOf (lowerCode c.toNat)).contains (lowerCode (lowerCode c.toNat)) = true
    rw [lowerCode_lowerCode]
    exact kinOf_contains _
  | false =>
    have still : ¬ lowerCode c.toNat ≠ c.toNat := by
      intro moved
      simp [Mode.isCased, isCasedCode, moved] at cased
    simpa using Decidable.not_not.1 still

theorem sameLetter_sigma {c : Char} (lowered : c = 'ς' ∨ c = 'σ') : SameLetter true 'Σ' c := by
  rcases lowered with rfl | rfl <;> decide +kernel

/-- **A text in lower case has the same letters**, where no mark is brought in. -/
theorem sameLetters_lowerChars {before cs : List Char}
    (unmarked : ∀ c ∈ lowerChars before cs, plainChar c = [c]) :
    List.Forall₂ (SameLetter true) cs (lowerChars before cs) := by
  obtain ⟨pieces, each, same⟩ := exists_lowers before cs
  rw [same] at unmarked ⊢
  clear same
  induction each with
  | nil => exact .nil
  | @cons c piece cs pieces lowers each ih =>
    rw [List.flatten_cons] at unmarked ⊢
    have rest := ih fun d mem => unmarked d (List.mem_append_right _ mem)
    cases lowers with
    | sigma small => exact .cons (sameLetter_sigma small) rest
    | dotted =>
      -- The dot above is a mark.
      have dot := unmarked '\u0307' (by simp)
      exact absurd dot (by decide +kernel)
    | other => exact .cons (sameLetter_lowered c) rest

end Dialogue.Regex

namespace Dialogue.CannedReply

open Regex Text

/-- A letter, a digit or the plain blank. -/
def isPlainChar (c : Char) : Bool := c = ' ' || isLetter c || isDigit c

/-- Letters and digits, with single plain blanks inside. -/
def IsPlain (trigger : String) : Prop :=
  EvenlySpaced trigger ∧ ∀ c ∈ trigger.toList, isPlainChar c = true

/-- The letters of a trigger stand in its folded form, unless it folds to nothing. -/
def FindsItself (trigger : String) : Prop :=
  fold trigger = "" ∨ StandsIn true trigger.toList (fold trigger).toList

/-- No character of a text has an accent or is a compatibility form, in lower case. -/
def Unmarked (s : String) : Prop := ∀ c ∈ (lower s).toList, plainChar c = [c]

/-- A message calls for a reply, when its trigger is compared in one of the ways. -/
def Calls (r : CannedReply) (kind : TriggerKind) (message : String) : Prop :=
  { r with kind }.answers (fold message) = .ok true

instance (s : String) : Decidable (Unmarked s) := List.decidableBAll _ _

instance (r : CannedReply) (kind : TriggerKind) (message : String) :
    Decidable (r.Calls kind message) :=
  match answered : { r with kind }.answers (fold message) with
  | .ok true => .isTrue answered
  | .ok false => .isFalse fun calls => by cases answered.symm.trans calls
  | .error _ => .isFalse fun calls => by cases answered.symm.trans calls

theorem IsPlain.literal {trigger : String} (plain : IsPlain trigger) : Literal trigger.toList := by
  have none_ : specials.all (fun c => !isPlainChar c) = true := by decide
  intro c mem
  by_contra special
  rw [Bool.not_eq_false, isSpecial, List.contains_iff_mem] at special
  have unplain := List.all_eq_true.1 none_ c special
  rw [plain.2 c mem] at unplain
  cases unplain

theorem calls_keyword_iff {r : CannedReply} {message : String} :
    r.Calls .keyword message ↔ fold r.trigger ≠ "" ∧
      ∃ before after, (fold message).toList = before ++ (fold r.trigger).toList ++ after := by
  rw [Calls, answers, ← occursIn_iff]
  dsimp only
  split
  · next nothing => simp [nothing]
  · next filled => simp [filled]

/-- **What a plain trigger finds as a pattern.** It never stops with a fault. -/
theorem answers_regex {r : CannedReply} (plain : IsPlain r.trigger) (message : String) :
    ∃ found, { r with kind := .regex }.answers (fold message) = .ok found ∧
      (found = true ↔ fold r.trigger ≠ "" ∧
        StandsIn true r.trigger.toList (fold message).toList) := by
  obtain ⟨found, searched, same⟩ := search_literal plain.literal true (fold message)
  rw [answers]
  dsimp only
  split
  · next nothing => exact ⟨false, rfl, by simp [nothing]⟩
  · next filled => exact ⟨found, by rw [searched], by simp [filled, same]⟩

/-- A plain trigger without marks folds to its lower case form, which has the same letters. -/
theorem findsItself_of_unmarked {trigger : String} (plain : IsPlain trigger)
    (unmarked : Unmarked trigger) : FindsItself trigger := by
  rw [Unmarked, lower, String.toList_ofList] at unmarked
  have folded : (fold trigger).toList = lowerChars [] trigger.toList := by
    rw [toList_fold, ← toList_strip, plain.1.strip_eq, List.flatMap_congr unmarked,
      List.flatMap_singleton']
  refine .inr ⟨[], lowerChars [] trigger.toList, [], ?_, sameLetters_lowerChars unmarked⟩
  rw [folded, List.nil_append, List.append_nil]

/-- **A plain trigger as a keyword and as a pattern.** What it finds as a keyword it finds as a
pattern as well, provided that it finds itself; if it does not, its own text is a message that tells
the two apart. -/
theorem calls_of_plain {r : CannedReply} (plain : IsPlain r.trigger) :
    (FindsItself r.trigger → ∀ message, r.Calls .keyword message → r.Calls .regex message) ∧
      (¬ FindsItself r.trigger → r.Calls .keyword r.trigger ∧
        { r with kind := .regex }.answers (fold r.trigger) = .ok false) ∧
      (Unmarked r.trigger → FindsItself r.trigger) := by
  refine ⟨fun itself message calls => ?_, fun missing => ?_, findsItself_of_unmarked plain⟩
  · obtain ⟨filled, before, after, cut⟩ := calls_keyword_iff.1 calls
    obtain ⟨found, answered, same⟩ := answers_regex plain message
    have stands : StandsIn true r.trigger.toList (fold message).toList := by
      rw [cut]
      exact (itself.resolve_left filled).append before after
    exact answered.trans (congrArg _ (same.2 ⟨filled, stands⟩))
  · have filled : fold r.trigger ≠ "" := fun nothing => missing (.inl nothing)
    obtain ⟨found, answered, same⟩ := answers_regex plain r.trigger
    have unfound : found = false :=
      Bool.eq_false_iff.2 fun finds => missing (.inr (same.1 finds).2)
    exact ⟨calls_keyword_iff.2 ⟨filled, [], [], by simp⟩, unfound ▸ answered⟩

/-- A reply about payment by instalments. -/
def instalments : CannedReply := ⟨"Pago en 12 Cuotas", .keyword, "Sí", none, 0, true⟩

/-- Without marks a trigger is found both ways, whatever its case and whatever stands around it. -/
theorem calls_of_plain_instalments :
    IsPlain instalments.trigger ∧ FindsItself instalments.trigger ∧
      instalments.Calls .keyword "el PAGO en 12 cuotas" ∧
      instalments.Calls .regex "el PAGO en 12 cuotas" := by
  have plain : IsPlain instalments.trigger :=
    ⟨⟨["Pago", "en", "12", "Cuotas"], by decide, by decide +kernel⟩,
      List.all_eq_true.1 (by decide +kernel)⟩
  obtain ⟨finds, -, unmarked⟩ := calls_of_plain plain
  have itself := unmarked (by decide +kernel)
  have calls : instalments.Calls .keyword "el PAGO en 12 cuotas" := by decide +kernel
  exact ⟨plain, itself, calls, finds itself _ calls⟩

/-- A reply about shipment, with an accent in its trigger. -/
def shipment : CannedReply := ⟨"envío", .keyword, "Sí", none, 0, true⟩

/-- The pattern keeps the accent, which the folded message has lost. -/
theorem not_calls_accented :
    IsPlain shipment.trigger ∧ shipment.Calls .keyword "envio" ∧
      ¬ shipment.Calls .regex "envio" := by
  have plain : IsPlain shipment.trigger :=
    ⟨⟨["envío"], by decide, by decide +kernel⟩, List.all_eq_true.1 (by decide +kernel)⟩
  exact ⟨plain, by decide +kernel, by decide +kernel⟩

end Dialogue.CannedReply
