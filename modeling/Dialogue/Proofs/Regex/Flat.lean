import Dialogue.Regex.Search

/-!
# What flat expressions read

A flat expression is a row of characters, anchors and greedy repetitions of single characters. What
it reads can be said without backtracking: a stretch of the text, cut into one part for each piece.
The run of a repetition takes all it can and gives back one character after another, and it leaves
out places that the character behind it rules out. It finds a way through whenever there is one,
because the registers do not decide whether the rest matches.

Main statements: `decides_run`, a run matches exactly when the node reads a stretch behind which the
rest matches; `matched_matchFrom_iff`; and `unmarking_run`, flat expressions set no marks.
-/

namespace Dialogue.Regex

namespace Node

/-- Rows of characters, anchors and greedy repetitions of single characters. -/
def isFlat : Node → Bool
  | .empty | .char _ _ | .anchor _ _ => true
  | .cat first second => first.isFlat && second.isFlat
  | .repeated .greedy _ _ body => body.leaf?.isSome
  | _ => false

/-- A flat expression reads a stretch of a text, between what is before and what is after it. -/
def Reads : Node → (before read after : List Char) → Prop
  | .empty, _, read, _ => read = []
  | .char test mode, _, read, _ => ∃ c, read = [c] ∧ test.holds mode c = true
  | .anchor place mode, before, read, after =>
    read = [] ∧ place.holdsAt (before ++ after).toArray mode before.length = true
  | .cat first second, before, read, after => ∃ x y, read = x ++ y ∧
    first.Reads before x (y ++ after) ∧ second.Reads (before ++ x) y after
  | .repeated _ least most body, _, read, _ => ∃ test mode, body.leaf? = some (test, mode) ∧
    least ≤ read.length ∧ (∀ m ∈ most, read.length ≤ m) ∧ ∀ c ∈ read, test.holds mode c = true
  | _, _, _, _ => False

/-- Behind what is before, an expression reads a stretch behind which something holds. -/
def Leads (node : Node) (P : List Char → List Char → Prop) (before rest : List Char) : Prop :=
  ∃ read after, rest = read ++ after ∧ node.Reads before read after ∧ P (before ++ read) after

end Node

variable {text : List Char} {place : Nat} {P : List Char → List Char → Prop} {k : Continuation}
  {next : Option (CharTest × Mode)} {test : CharTest} {mode : Mode} {inside : Bool}

/-! ## Places in a text -/

/-- Behind a stretch that begins at a place. -/
theorem split_of_drop {read after : List Char} (cut : text.drop place = read ++ after) :
    text.take (place + read.length) = text.take place ++ read ∧
      text.drop (place + read.length) = after := by
  rw [List.take_add, ← List.drop_drop, cut, List.take_left, List.drop_left]
  exact ⟨rfl, rfl⟩

theorem holdsAt_toArray_iff :
    test.holdsAt text.toArray mode place = true ↔
      ∃ c after, text.drop place = c :: after ∧ test.holds mode c = true := by
  rw [CharTest.holdsAt, List.getElem?_toArray, ← List.head?_drop]
  cases text.drop place with
  | nil => simp
  | cons c after => simp

/-- As many characters pass a test as are there, up to the limit. -/
theorem le_countAt_iff {cs : Array Char} {limit n : Nat} :
    n ≤ test.countAt cs mode limit place ↔
      n ≤ limit ∧ ∀ i < n, test.holdsAt cs mode (place + i) = true := by
  induction limit generalizing n place with
  | zero =>
    rw [CharTest.countAt]
    refine ⟨fun le => ⟨le, fun i lt => absurd (Nat.lt_of_lt_of_le lt le) (Nat.not_lt_zero i)⟩, ?_⟩
    exact And.left
  | succ limit ih =>
    rw [CharTest.countAt]
    cases n with
    | zero => simp
    | succ n =>
      split
      · next holds =>
        rw [Nat.succ_le_succ_iff, Nat.succ_le_succ_iff, ih, Nat.forall_lt_succ_left]
        simp only [Nat.add_zero, holds, true_and, Nat.add_assoc, Nat.add_comm 1]
      · next fails =>
        refine iff_of_false (Nat.not_succ_le_zero n) fun all => fails ?_
        exact all.2 0 n.succ_pos

/-- The first characters from a place on pass a test. -/
theorem forall_holdsAt_iff {n : Nat} (wide : place + n ≤ text.length) :
    (∀ i < n, test.holdsAt text.toArray mode (place + i) = true) ↔
      ∀ c ∈ (text.drop place).take n, test.holds mode c = true := by
  have length : ((text.drop place).take n).length = n := by
    rw [List.length_take, List.length_drop]
    omega
  rw [List.forall_mem_iff_forall_getElem]
  simp only [length]
  refine forall₂_congr fun i lt => ?_
  rw [CharTest.holdsAt, List.getElem?_toArray, List.getElem?_eq_getElem (by omega)]
  simp

/-! ## What decides a run -/

/-- Whether the rest matches is decided by the place alone. -/
def Decides (text : List Char) (k : Continuation) (P : List Char → List Char → Prop) : Prop :=
  ∀ place ≤ text.length, ∀ r, (k place r).matched = true ↔ P (text.take place) (text.drop place)

/-- Where the rest can match, the character that is known to come next does not rule it out. -/
def Sound (text : List Char) (next : Option (CharTest × Mode))
    (P : List Char → List Char → Prop) : Prop :=
  ∀ place ≤ text.length, P (text.take place) (text.drop place) →
    admits text.toArray next place = true

theorem decides_finish (text : List Char) : Decides text finish fun _ _ => True :=
  fun _ _ _ => iff_of_true rfl trivial

theorem sound_none (text : List Char) (P : List Char → List Char → Prop) : Sound text none P :=
  fun _ _ _ => rfl

/-- What is known to come first in a flat expression does not rule it out. -/
theorem Sound.lead {node : Node} (flat : node.isFlat = true) (sound : Sound text next P) :
    Sound text (node.lead next) (node.Leads P) := by
  induction node generalizing next P with
  | empty =>
    rintro place within ⟨read, after, cut, rfl, rest⟩
    refine sound place within ?_
    rwa [cut, List.nil_append, ← List.append_nil (text.take place)]
  | char test mode =>
    rintro place within ⟨read, after, cut, ⟨c, rfl, holds⟩, -⟩
    have stands : test.holdsAt text.toArray mode place = true :=
      holdsAt_toArray_iff.2 ⟨c, after, cut, holds⟩
    unfold Node.lead
    split
    · cases test with
      | code written negated => exact stands
      | any | anyButNewline | set _ _ => rfl
    · rfl
  | anchor | repeated => exact fun _ _ _ => rfl
  | cat first second ihFirst ihSecond =>
    rw [Node.isFlat, Bool.and_eq_true] at flat
    rintro place within ⟨read, after, cut, ⟨x, y, rfl, here, there⟩, rest⟩
    refine ihFirst flat.1 (ihSecond flat.2 sound) place within ?_
    rw [List.append_assoc] at cut
    rw [← List.append_assoc] at rest
    exact ⟨x, y ++ after, cut, here, y, after, rfl, there, rest⟩
  | _ => cases flat

theorem Ending.matched_orElse_iff {e : Ending} {other : Registers → Ending} :
    (e.orElse other).matched = true ↔ e.matched = true ∨ (other e.registers).matched = true := by
  unfold orElse
  cases matched : e.matched <;> simp [matched]

/-- **Giving back finds a way** whenever the rest matches behind some of the characters. -/
theorem matched_giveBack_iff {s : Span} {saved r : Registers} {n : Nat} {Q : Nat → Prop}
    (decides : ∀ m ≤ n, ∀ r, (k (place + m) r).matched = true ↔ Q m)
    (sound : ∀ m ≤ n, Q m → admits s.text next (place + m) = true) :
    (s.giveBack inside next k saved place n r).matched = true ↔ ∃ m ≤ n, Q m := by
  induction n generalizing r with
  | zero =>
    rw [Span.giveBack]
    simp only [Nat.le_zero, exists_eq_left]
    split
    · next open_ =>
      rw [Ending.onFailure, Ending.matched_orElse_iff, ← decides 0 (Nat.le_refl 0) (r.reach place)]
      simp [Ending.failed]
    · next shut => exact iff_of_false Bool.false_ne_true (mt (sound 0 (Nat.le_refl 0)) shut)
  | succ n ih =>
    have fewer (r : Registers) := @ih r (fun m le => decides m (Nat.le_succ_of_le le))
      fun m le => sound m (Nat.le_succ_of_le le)
    have last : ∀ r, (k (place + n + 1) r).matched = true ↔ Q (n + 1) :=
      decides (n + 1) (Nat.le_refl _)
    have split_ : (∃ m ≤ n + 1, Q m) ↔ Q (n + 1) ∨ ∃ m ≤ n, Q m := by
      simp only [Nat.le_succ_iff, or_and_right, exists_or, exists_eq_left, or_comm]
    rw [Span.giveBack, split_]
    split
    · next open_ => rw [Ending.matched_orElse_iff, fewer, last]
    · next shut =>
      rw [fewer, or_iff_right (mt (sound (n + 1) (Nat.le_refl _)) shut)]

/-- What a repetition can take from a place on. -/
theorem le_count_iff {most : Option Nat} {m : Nat} (within : place ≤ text.length) :
    m ≤ Span.count ⟨text.toArray, test, mode⟩ most place ↔
      place + m ≤ text.length ∧ (∀ limit ∈ most, m ≤ limit) ∧
        ∀ c ∈ (text.drop place).take m, test.holds mode c = true := by
  have limits : m ≤ most.elim (text.length - place) (min (text.length - place)) ↔
      place + m ≤ text.length ∧ ∀ limit ∈ most, m ≤ limit := by
    cases most with
    | none => simp; omega
    | some limit => simp; omega
  rw [Span.count, le_countAt_iff, List.size_toArray, limits, and_assoc]
  refine and_congr_right fun wide => ?_
  rw [forall_holdsAt_iff wide]

/-- **A repetition of single characters** matches when the rest matches behind some stretch of
them. -/
theorem decides_span {least : Nat} {most : Option Nat} {body : Node}
    (leaf : body.leaf? = some (test, mode)) (decides : Decides text k P)
    (sound : Sound text next P) :
    Decides text (Span.run ⟨text.toArray, test, mode⟩ .greedy least most inside next k)
      ((Node.repeated .greedy least most body).Leads P) := by
  intro place within r
  -- What is read is told by its length.
  have lengths : (Node.repeated .greedy least most body).Leads P (text.take place)
        (text.drop place) ↔
      ∃ m, least ≤ m ∧ m ≤ Span.count ⟨text.toArray, test, mode⟩ most place ∧
        P (text.take (place + m)) (text.drop (place + m)) := by
    constructor
    · rintro ⟨read, after, cut, ⟨test', mode', leaf', enough, few, each⟩, rest⟩
      cases leaf.symm.trans leaf'
      obtain ⟨front, back⟩ := split_of_drop cut
      have length := congrArg List.length cut
      rw [List.length_drop, List.length_append] at length
      refine ⟨read.length, enough, (le_count_iff within).2 ⟨by omega, few, ?_⟩, ?_⟩
      · rwa [cut, List.take_left]
      · rwa [front, back]
    · rintro ⟨m, enough, taken, rest⟩
      obtain ⟨wide, few, each⟩ := (le_count_iff within).1 taken
      have length : ((text.drop place).take m).length = m := by
        rw [List.length_take, List.length_drop]
        omega
      have cut := (List.take_append_drop m (text.drop place)).symm
      obtain ⟨front, back⟩ := split_of_drop cut
      rw [length] at front back
      refine ⟨_, _, cut, ⟨test, mode, leaf, ?_, ?_, each⟩, ?_⟩
      · rwa [length]
      · rwa [length]
      · rwa [← front, ← back]
  rw [lengths, Span.run, List.size_toArray]
  split
  · next short =>
    refine iff_of_false Bool.false_ne_true ?_
    rintro ⟨m, enough, taken, -⟩
    have wide := ((le_count_iff within).1 taken).1
    omega
  · dsimp only
    split
    · next few =>
      refine iff_of_false Bool.false_ne_true ?_
      rintro ⟨m, enough, taken, -⟩
      omega
    · next enough =>
      have wide (m : Nat) (le : m ≤ Span.count ⟨text.toArray, test, mode⟩ most place - least) :
          place + least + m ≤ text.length := by
        have taken : least + m ≤ Span.count ⟨text.toArray, test, mode⟩ most place := by omega
        have wide := ((le_count_iff within).1 taken).1
        omega
      rw [matched_giveBack_iff (fun m le => decides _ (wide m le)) fun m le => sound _ (wide m le)]
      constructor
      · rintro ⟨m, le, rest⟩
        exact ⟨least + m, by omega, by omega, by rwa [← Nat.add_assoc]⟩
      · rintro ⟨m, some_, taken, rest⟩
        obtain ⟨n, rfl⟩ := Nat.exists_eq_add_of_le some_
        exact ⟨n, by omega, by rwa [Nat.add_assoc]⟩

/-- **A run of a flat expression** matches exactly when it reads a stretch behind which the rest
matches. -/
theorem decides_run {node : Node} (flat : node.isFlat = true) (decides : Decides text k P)
    (sound : Sound text next P) :
    Decides text (run text.toArray node inside next k) (node.Leads P) := by
  induction node generalizing next k P with
  | empty =>
    intro place within r
    rw [run_empty, decides place within r]
    constructor
    · exact fun rest => ⟨[], _, rfl, rfl, by rwa [List.append_nil]⟩
    · rintro ⟨read, after, cut, rfl, rest⟩
      rwa [cut, List.nil_append, ← List.append_nil (text.take place)]
  | char test mode =>
    intro place within r
    rw [run_char]
    split
    · next stands =>
      obtain ⟨c, after, cut, holds⟩ := holdsAt_toArray_iff.1 stands
      obtain ⟨front, back⟩ := @split_of_drop text place [c] after cut
      rw [List.length_singleton] at front back
      have wide : place + 1 ≤ text.length := by
        have length := congrArg List.length cut
        rw [List.length_drop, List.length_cons] at length
        omega
      rw [decides _ wide, front, back, cut]
      constructor
      · exact fun rest => ⟨[c], after, rfl, ⟨c, rfl, holds⟩, rest⟩
      · rintro ⟨read, after', cut', ⟨c', rfl, -⟩, rest⟩
        cases cut'
        exact rest
    · next fails =>
      refine iff_of_false Bool.false_ne_true ?_
      rintro ⟨read, after, cut, ⟨c, rfl, holds⟩, -⟩
      exact fails (holdsAt_toArray_iff.2 ⟨c, after, cut, holds⟩)
  | anchor anchor mode =>
    intro place within r
    have front : (text.take place).length = place := List.length_take_of_le within
    rw [run]
    split
    · next stands =>
      rw [decides place within r]
      constructor
      · intro rest
        refine ⟨[], _, rfl, ⟨rfl, ?_⟩, by rwa [List.append_nil]⟩
        rwa [List.take_append_drop, front]
      · rintro ⟨read, after, cut, ⟨rfl, -⟩, rest⟩
        rwa [cut, List.nil_append, ← List.append_nil (text.take place)]
    · next fails =>
      refine iff_of_false Bool.false_ne_true ?_
      rintro ⟨read, after, cut, ⟨rfl, stands⟩, -⟩
      rw [List.nil_append] at cut
      rw [← cut, List.take_append_drop, front] at stands
      exact fails stands
  | repeated greed least most body =>
    cases greed with
    | greedy =>
      obtain ⟨⟨test, mode⟩, leaf⟩ := Option.isSome_iff_exists.1 flat
      intro place within r
      rw [run, leaf]
      exact decides_span leaf decides sound place within r
    | lazy => cases flat
    | possessive => cases flat
  | cat first second ihFirst ihSecond =>
    rw [Node.isFlat, Bool.and_eq_true] at flat
    intro place within r
    rw [run_cat, ihFirst flat.1 (ihSecond flat.2 decides sound) (sound.lead flat.2) place within r]
    constructor
    · rintro ⟨x, rest, cut, here, y, after, rfl, there, behind⟩
      rw [← List.append_assoc] at cut
      rw [List.append_assoc] at behind
      exact ⟨x ++ y, after, cut, ⟨x, y, rfl, here, there⟩, behind⟩
    · rintro ⟨read, after, cut, ⟨x, y, rfl, here, there⟩, behind⟩
      rw [List.append_assoc] at cut
      rw [← List.append_assoc] at behind
      exact ⟨x, y ++ after, cut, here, y, after, rfl, there, behind⟩
  | _ => cases flat

/-- **A flat expression matches at a place** exactly when it reads a stretch from there. -/
theorem matched_matchFrom_iff {node : Node} (flat : node.isFlat = true)
    (within : place ≤ text.length) :
    (node.matchFrom text.toArray place).matched = true ↔
      ∃ read after, text.drop place = read ++ after ∧
        node.Reads (text.take place) read after := by
  rw [Node.matchFrom, decides_run flat (decides_finish text) (sound_none text _) place within]
  simp only [Node.Leads, and_true]

/-! ## Marks -/

/-- No mark is set where none was set. -/
def Unmarking (k : Continuation) : Prop :=
  ∀ place r, r.marks = [] → (k place r).registers.marks = []

theorem marks_backTo {saved r : Registers} (blank : saved.marks = []) :
    (r.backTo inside saved).marks = [] := by
  cases inside with
  | true => exact blank
  | false => simp [Registers.backTo, blank]

theorem marks_giveBack {s : Span} {saved r : Registers} {n : Nat} (keeps : Unmarking k)
    (blank : saved.marks = []) (blank' : r.marks = []) :
    (s.giveBack inside next k saved place n r).registers.marks = [] := by
  induction n generalizing r with
  | zero =>
    rw [Span.giveBack]
    split
    · have here := keeps place (r.reach place) blank'
      unfold Ending.onFailure Ending.orElse
      split
      · exact here
      · exact marks_backTo blank
    · exact blank'
  | succ n ih =>
    rw [Span.giveBack]
    split
    · have here := keeps (place + n + 1) (r.reach (place + n + 1)) blank'
      unfold Ending.orElse
      split
      · exact here
      · exact ih (marks_backTo blank)
    · exact ih blank'

/-- **Flat expressions set no marks.** -/
theorem unmarking_run {node : Node} {cs : Array Char} (flat : node.isFlat = true)
    (keeps : Unmarking k) : Unmarking (run cs node inside next k) := by
  induction node generalizing next k with
  | empty =>
    intro place r blank
    rw [run_empty]
    exact keeps place r blank
  | char test mode =>
    intro place r blank
    rw [run_char]
    split
    · exact keeps _ r blank
    · exact blank
  | anchor anchor mode =>
    intro place r blank
    rw [run]
    split
    · exact keeps _ r blank
    · exact blank
  | repeated greed least most body =>
    cases greed with
    | greedy =>
      obtain ⟨⟨test, mode⟩, leaf⟩ := Option.isSome_iff_exists.1 flat
      intro place r blank
      rw [run, leaf]
      show (Span.run _ _ _ _ _ _ _ _ _).registers.marks = []
      rw [Span.run]
      split
      · exact blank
      · dsimp only
        split
        · exact blank
        · exact marks_giveBack keeps blank blank
    | lazy => cases flat
    | possessive => cases flat
  | cat first second ihFirst ihSecond =>
    rw [Node.isFlat, Bool.and_eq_true] at flat
    intro place r blank
    rw [run_cat]
    exact ihFirst flat.1 (ihSecond flat.2 keeps) place r blank
  | _ => cases flat

/-- No group of a flat expression is twisted. -/
theorem isTwisted_matchFrom {node : Node} {cs : Array Char} (flat : node.isFlat = true) :
    (node.matchFrom cs place).registers.isTwisted = false := by
  have blank : (node.matchFrom cs place).registers.marks = [] :=
    unmarking_run flat (fun _ _ blank => blank) place (.start place) rfl
  simp [Registers.isTwisted, blank]

end Dialogue.Regex
