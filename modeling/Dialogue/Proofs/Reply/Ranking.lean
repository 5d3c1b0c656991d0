import Dialogue.Proofs.Database.Order
import Dialogue.Proofs.Reply.Asking

/-!
# Which canned reply wins

The database gives the documents of canned replies in the order of their priorities, and the first
one that a message calls for is given. But the database compares the priorities as they are written.
Among numbers this is the order of what they stand for. A priority that is left out counts as zero
and yet stands behind the negative ones, and one that is written as a text stands in front of all
numbers, also when its number is smaller.

Main statements: `le_or_of_sortsBefore`, what the order of the database says about priorities;
`exists_foremost`, which document decides; `wins_of_findMatch`.
-/

namespace Dialogue

open Effect

/-! ## Written priorities -/

namespace Checked

/-- The priority that is written in a document; what is unset counts as zero. -/
def asPriority (written : Option Json) : Checked Int :=
  if (written.getD .null).isTruthy then asInteger (written.getD .null) else .good 0

/-- A fractional number that stands for an integer has its size. -/
theorem size_of_asInteger {x : Binary64} {p : Int} (reads : asInteger (.float x) = .good p) :
    (Json.float x).size = p := by
  simp only [asInteger] at reads
  split at reads
  · cases reads
  · next num den ratio =>
    have nonzero : (den : ℚ) ≠ 0 := Nat.cast_ne_zero.2 (Binary64.den_pos_of_toRatio? ratio).ne'
    split at reads
    · cases reads
    · next whole =>
      split at reads
      · cases reads
        have product := Int.fdiv_mul_add_fmod num den
        rw [not_not.1 whole, add_zero] at product
        rw [Json.size_float ratio, Rat.divInt_eq_div, Int.cast_natCast, div_eq_iff nonzero]
        exact_mod_cast product.symm
      · cases reads

/-- A fractional number that counts as unset is zero. -/
theorem size_of_not_isNonzero {x : Binary64} (unset : x.isNonzero = false) :
    (Json.float x).size = 0 := by
  cases x with
  | nan => cases unset
  | infinite negative => cases unset
  | finite negative mantissa exponent =>
    have zero : mantissa = 0 := by simpa [Binary64.isNonzero] using unset
    subst zero
    cases exponent <;> simp [Json.size, quotient, Binary64.toRatio?]

/-- **The size of a number is the priority that it writes.** -/
theorem size_of_asPriority {written : Option Json} {p : Int} (rank : sortRank written ≤ 1)
    (reads : asPriority written = .good p) : written.elim 0 Json.size = p := by
  match written, rank, reads with
  | none, _, reads =>
    cases reads
    rfl
  | some .null, _, reads =>
    cases reads
    exact Json.size_null
  | some (.bool true), _, reads =>
    cases reads
    rfl
  | some (.bool false), _, reads =>
    cases reads
    rfl
  | some (.int i), _, reads =>
    have value : i = p := by
      unfold asPriority at reads
      split at reads
      · cases reads
        rfl
      · next unset =>
        cases reads
        simpa [Json.isTruthy] using unset
    exact (Rat.divInt_one i).trans (congrArg Int.cast value)
  | some (.float x), _, reads =>
    unfold asPriority at reads
    split at reads
    · exact size_of_asInteger reads
    · next unset =>
      cases reads
      exact size_of_not_isNonzero (Bool.not_eq_true _ ▸ unset)

end Checked

/-- **What the order of the database says about priorities.** Where a number or nothing is written
in the document that stands in front, its priority is not the lower one, unless it is negative and
the other document leaves its priority out. -/
theorem le_or_of_sortsBefore {front back : Option Json} {p q : Int}
    (before : sortsBefore back front = true) (rank : sortRank front ≤ 1)
    (readsFront : Checked.asPriority front = .good p)
    (readsBack : Checked.asPriority back = .good q) : q ≤ p ∨ sortRank back = 0 ∧ p < 0 := by
  rcases sortRank_lt_or_of_sortsBefore before with below | ⟨level, size⟩
  · have unset : sortRank back = 0 := by omega
    have size := Checked.size_of_asPriority (by omega) readsBack
    rw [(unset_of_sortRank unset).1] at size
    have zero : q = 0 := by exact_mod_cast size.symm
    omega
  · rw [Checked.size_of_asPriority rank readsFront,
      Checked.size_of_asPriority (level ▸ rank) readsBack] at size
    exact .inl (by exact_mod_cast size)

namespace CannedReply

variable {doc : Fields} {r : CannedReply} {folded : String}

/-- The priority of a reply is the one that is written in its document. -/
theorem asPriority_of_ofDocument? (reads : ofDocument? doc = some r) :
    Checked.asPriority (Table.get? doc "priority") = .good r.priority := by
  unfold ofDocument? at reads
  dsimp only at reads
  split at reads
  · cases reads
  · obtain ⟨inactive, active, upToPriority, -, rfl⟩ :=
      Checked.good_of_seq (Checked.good_of_toOption reads)
    obtain ⟨unranked, priority, upToCategory, good, rfl⟩ := Checked.good_of_seq upToPriority
    obtain ⟨apart, category, upToResponse, -, rfl⟩ := Checked.good_of_seq upToCategory
    obtain ⟨silent, response, upToKind, -, rfl⟩ := Checked.good_of_seq upToResponse
    obtain ⟨plain, kind, upToTrigger, -, rfl⟩ := Checked.good_of_seq upToKind
    obtain ⟨trigger, -, rfl⟩ := Checked.good_of_map upToTrigger
    exact good

/-! ## The first that is called for -/

/-- **One reply decides**: the first that a message calls for, or whose pattern cannot be used. -/
theorem firstFor?_cases (folded : String) (replies : List CannedReply) :
    (firstFor? folded replies = .ok none ∧ ∀ r ∈ replies, r.answers folded = .ok false) ∨
      ∃ before r after, replies = before ++ r :: after ∧
        (∀ s ∈ before, s.answers folded = .ok false) ∧
        (r.answers folded = .ok true ∧ firstFor? folded replies = .ok (some r) ∨
          ∃ fault, r.answers folded = .error fault ∧ firstFor? folded replies = .error fault) := by
  induction replies with
  | nil => exact .inl ⟨rfl, nofun⟩
  | cons r rest ih =>
    have opens : firstFor? folded (r :: rest) = (r.answers folded >>= fun called =>
        if called then pure (some r) else firstFor? folded rest) := rfl
    rw [opens]
    cases called : r.answers folded with
    | error fault => exact .inr ⟨[], r, rest, rfl, nofun, .inr ⟨fault, called, rfl⟩⟩
    | ok called? =>
      cases called? with
      | true => exact .inr ⟨[], r, rest, rfl, nofun, .inl ⟨called, rfl⟩⟩
      | false =>
        rcases ih with ⟨none_, silent⟩ | ⟨before, s, after, rfl, silent, decides⟩
        · exact .inl ⟨none_, List.forall_mem_cons.2 ⟨called, silent⟩⟩
        · exact .inr ⟨r :: before, s, after, rfl, List.forall_mem_cons.2 ⟨called, silent⟩,
            decides⟩

/-- The order in which canned replies are asked for. -/
def byPriority : Order := ⟨"priority", true⟩

/-- **The document that decides** stands in front of all others that the message calls for. -/
theorem exists_foremost {docs : List Fields}
    (sorted : docs.Pairwise fun a b => byPriority.allows a b = true) (folded : String) :
    (firstFor? folded (docs.filterMap ofDocument?) = .ok none ∧
        ∀ d ∈ docs, ∀ r, ofDocument? d = some r → r.answers folded = .ok false) ∨
      ∃ d ∈ docs, ∃ r, ofDocument? d = some r ∧
        (∀ e ∈ docs, ∀ s, ofDocument? e = some s → s.answers folded = .ok true →
          sortsBefore (Table.get? e "priority") (Table.get? d "priority") = true) ∧
        (r.answers folded = .ok true ∧
            firstFor? folded (docs.filterMap ofDocument?) = .ok (some r) ∨
          ∃ fault, r.answers folded = .error fault ∧
            firstFor? folded (docs.filterMap ofDocument?) = .error fault) := by
  obtain ⟨none_, silent⟩ | ⟨before, r, after, split, silent, decides⟩ :=
    firstFor?_cases folded (docs.filterMap ofDocument?)
  · refine .inl ⟨none_, fun d mem r reads => silent r ?_⟩
    exact List.mem_filterMap.2 ⟨d, mem, reads⟩
  · obtain ⟨front, rest, rfl, rfl, ends⟩ := List.filterMap_eq_append_iff.1 split
    obtain ⟨passed, d, back, rfl, skipped, reads, -⟩ := List.filterMap_eq_cons_iff.1 ends
    refine .inr ⟨d, by simp, r, reads, fun e mem s readsE called => ?_, decides⟩
    have behind : e ∈ d :: back := by
      rcases List.mem_append.1 mem with mem | mem
      · cases called.symm.trans (silent s (List.mem_filterMap.2 ⟨e, mem, readsE⟩))
      · rcases List.mem_append.1 mem with mem | mem
        · cases (skipped e mem).symm.trans readsE
        · exact mem
    rcases List.mem_cons.1 behind with rfl | mem
    · exact (sortsBefore_total _ _).elim id id
    · have tail := (List.pairwise_append.1 (List.pairwise_append.1 sorted).2.1).2.1
      exact (List.pairwise_cons.1 tail).1 e mem

/-! ## Fresh replies -/

variable {w : World}

/-- What is given where nothing is cached are the replies that the database holds, if they can be
written. -/
theorem given_active_of_unset
    (unset : w.cache.isConnected = true → w.cache.entries.get? cacheKey = none)
    (answers : w.backend.Answers) :
    (runFrom w active).1 = if w.backend.database.activeReplies.all isWritable then
      .ok w.backend.database.activeReplies else .error (.longInteger none) := by
  obtain ⟨b, found⟩ := runFrom_findActive answers
  rw [active_of_unset unset]
  unfold Backend.activeReplies fresh
  rw [runFrom_bind_of_ok found]
  unfold written
  cases w.backend.database.activeReplies.all isWritable <;> rfl

end CannedReply

/-! ## The reply that wins -/

namespace Database

open CannedReply (byPriority firstFor?)

variable {db : Database} {doc : Fields} {r : CannedReply} {folded : String} {fault : Fault}

/-- A document of the collection that is in use, and its reply. -/
structure Uses (db : Database) (doc : Fields) (r : CannedReply) : Prop where
  listed : doc ∈ db.replies
  active : Table.get? doc "isActive" = some (.bool true)
  reads : CannedReply.ofDocument? doc = some r

/-- A reply that a folded message calls for. -/
def Calls (db : Database) (folded : String) (doc : Fields) (r : CannedReply) : Prop :=
  db.Uses doc r ∧ r.answers folded = .ok true

/-- A folded message calls for a reply, and for no other of a higher priority. -/
def Prefers (db : Database) (folded : String) (r : CannedReply) : Prop :=
  ∃ d, db.Calls folded d r ∧ ∀ e s, db.Calls folded e s → s.priority ≤ r.priority

/-- A document stands in front of those of all replies that a folded message calls for. -/
def Leads (db : Database) (folded : String) (d : Fields) : Prop :=
  ∀ e s, db.Calls folded e s →
    sortsBefore (Table.get? e "priority") (Table.get? d "priority") = true

/-- A reply stands in front of all others that a folded message calls for. So none of them has a
higher priority, unless that of the first one is written as a text or a list, or is negative where
the other one is left out. -/
def Wins (db : Database) (folded : String) (r : CannedReply) : Prop :=
  ∃ d, db.Calls folded d r ∧ db.Leads folded d ∧
    ∀ e s, db.Calls folded e s → s.priority ≤ r.priority ∨
      1 < sortRank (Table.get? d "priority") ∨
        sortRank (Table.get? e "priority") = 0 ∧ r.priority < 0

/-- Comparing a folded message with a reply is a fault, and no reply that it calls for stands in
front. -/
def Stops (db : Database) (folded : String) (fault : Fault) : Prop :=
  ∃ d r, db.Uses d r ∧ r.answers folded = .error fault ∧ db.Leads folded d

/-- A folded message can be compared with every reply and calls for none. -/
def Ignores (db : Database) (folded : String) : Prop :=
  ∀ d r, db.Uses d r → r.answers folded = .ok false

/-- All priorities that count are numbers or left out, and where one is left out none is
negative. -/
def Ranks (db : Database) (folded : String) : Prop :=
  ∀ d r, db.Calls folded d r → sortRank (Table.get? d "priority") ≤ 1 ∧
    ∀ e s, db.Calls folded e s → sortRank (Table.get? e "priority") = 0 → 0 ≤ r.priority

theorem Wins.prefers (wins : db.Wins folded r) (ranks : db.Ranks folded) : db.Prefers folded r := by
  obtain ⟨d, called, -, others⟩ := wins
  refine ⟨d, called, fun e s calledE => ?_⟩
  obtain ⟨number, nonneg⟩ := ranks d r called
  rcases others e s calledE with le | odd | ⟨unset, negative⟩
  · exact le
  · exact absurd number (Nat.not_le.2 odd)
  · exact absurd (nonneg e s calledE unset) (Int.not_le.2 negative)

theorem uses_iff (few : (db.replies.filter activeOnly.holds).length ≤ readLimit) :
    db.Uses doc r ↔ doc ∈ db.select .replies activeOnly (some byPriority) ∧
      CannedReply.ofDocument? doc = some r := by
  rw [mem_select_iff few, holds_activeOnly_iff]
  exact ⟨fun ⟨listed, active, reads⟩ => ⟨⟨listed, active⟩, reads⟩,
    fun ⟨⟨listed, active⟩, reads⟩ => ⟨listed, active, reads⟩⟩

/-- **What comparing a message with all replies gives**: none, the one that wins, or the fault of
one that stands in front. -/
theorem firstFor?_activeReplies (few : (db.replies.filter activeOnly.holds).length ≤ readLimit)
    (folded : String) :
    (firstFor? folded db.activeReplies = .ok none ∧ db.Ignores folded) ∨
      (∃ r, firstFor? folded db.activeReplies = .ok (some r) ∧ db.Wins folded r) ∨
      ∃ fault, firstFor? folded db.activeReplies = .error fault ∧ db.Stops folded fault := by
  obtain ⟨none_, silent⟩ | ⟨d, mem, r, reads, front, decides⟩ :=
    CannedReply.exists_foremost (pairwise_select db .replies activeOnly byPriority) folded
  · refine .inl ⟨none_, fun d r uses => ?_⟩
    obtain ⟨mem, reads⟩ := (uses_iff few).1 uses
    exact silent d mem r reads
  · have uses : db.Uses d r := (uses_iff few).2 ⟨mem, reads⟩
    have leads : db.Leads folded d := fun e s ⟨usesE, called⟩ =>
      front e ((uses_iff few).1 usesE).1 s usesE.reads called
    obtain ⟨called, given⟩ | ⟨fault, fails, given⟩ := decides
    · refine .inr (.inl ⟨r, given, d, ⟨uses, called⟩, leads, fun e s calledE => ?_⟩)
      by_cases number : sortRank (Table.get? d "priority") ≤ 1
      · exact (le_or_of_sortsBefore (leads e s calledE) number
          (CannedReply.asPriority_of_ofDocument? reads)
          (CannedReply.asPriority_of_ofDocument? calledE.1.reads)).imp_right .inr
      · exact .inr (.inl (Nat.not_le.1 number))
    · exact .inr (.inr ⟨fault, given, d, r, uses, fails, leads⟩)

end Database

namespace CannedReply

variable {w : World}

/-- A document about payment that is in use. -/
def payment (response : String) (priority : Json) : Fields :=
  [("trigger", .str "pago"), ("response", .str response), ("isActive", .bool true),
    ("priority", priority)]

/-- The reply of such a document. -/
def paying (response : String) (priority : Int) : CannedReply where
  trigger := "pago"
  kind := .keyword
  response := response
  category := none
  priority := priority
  isActive := true

/-- A bot with two replies about payment. -/
def cashier (first second : Json) : World where
  config := { cancelCommands := [] }
  clock := ⟨0, none⟩
  opening := "main_menu"
  backend := { database := { replies := [payment "first" first, payment "second" second] } }
  cache := {}

theorem ofDocument?_payment {response : String} {written : Json} {p : Int}
    (filled : response ≠ "") (reads : Checked.asPriority (some written) = .good p) :
    ofDocument? (payment response written) = some (paying response p) := by
  unfold ofDocument?
  show (if !(Json.str "pago").isTruthy || !(Json.str response).isTruthy then none else
    (Checked.good (CannedReply.mk "pago" .keyword response none) <*>
      Checked.asPriority (some written) <*> Checked.good true).toOption) = _
  rw [reads]
  simp [Json.isTruthy, filled]
  rfl

theorem fold_pago : Text.fold "pago" = "pago" := by rfl

theorem fold_pago_ne : Text.fold "pago" ≠ "" := by
  rw [fold_pago]
  decide

theorem answers_paying (response : String) (p : Int) :
    (paying response p).answers (Text.fold "pago") = .ok true := by
  have occurs : Text.occursIn "pago" "pago" = true := by rfl
  unfold answers
  rw [show Text.fold (paying response p).trigger = "pago" from fold_pago, fold_pago]
  show Except.ok (Text.occursIn "pago" "pago") = _
  rw [occurs]

theorem few_cashier (first second : Json) :
    ((cashier first second).backend.database.replies.filter Database.activeOnly.holds).length ≤
      Database.readLimit :=
  (List.length_filter_le ..).trans (show 2 ≤ 100 by decide)

section Cashier

variable {first second : Json} {p q : Int}
  (readsFirst : Checked.asPriority (some first) = .good p)
  (readsSecond : Checked.asPriority (some second) = .good q)

include readsFirst readsSecond

theorem uses_cashier_iff {doc : Fields} {r : CannedReply} :
    (cashier first second).backend.database.Uses doc r ↔
      doc = payment "first" first ∧ r = paying "first" p ∨
        doc = payment "second" second ∧ r = paying "second" q := by
  have ofFirst : ofDocument? (payment "first" first) = some (paying "first" p) :=
    ofDocument?_payment (by decide) readsFirst
  have ofSecond : ofDocument? (payment "second" second) = some (paying "second" q) :=
    ofDocument?_payment (by decide) readsSecond
  constructor
  · rintro ⟨listed, -, reads⟩
    rcases List.mem_pair.1 listed with rfl | rfl
    · exact .inl ⟨rfl, Option.some.inj (reads.symm.trans ofFirst)⟩
    · exact .inr ⟨rfl, Option.some.inj (reads.symm.trans ofSecond)⟩
  · rintro (⟨rfl, rfl⟩ | ⟨rfl, rfl⟩)
    · exact ⟨List.mem_pair.2 (.inl rfl), rfl, ofFirst⟩
    · exact ⟨List.mem_pair.2 (.inr rfl), rfl, ofSecond⟩

/-- A message about payment calls for both replies. -/
theorem calls_cashier_iff (doc : Fields) (r : CannedReply) :
    (cashier first second).backend.database.Calls (Text.fold "pago") doc r ↔
      doc = payment "first" first ∧ r = paying "first" p ∨
        doc = payment "second" second ∧ r = paying "second" q := by
  unfold Database.Calls
  rw [uses_cashier_iff readsFirst readsSecond]
  refine and_iff_left_of_imp ?_
  rintro (⟨-, rfl⟩ | ⟨-, rfl⟩)
  · exact answers_paying "first" p
  · exact answers_paying "second" q

theorem writable_cashier (writableFirst : (paying "first" p).isWritable = true)
    (writableSecond : (paying "second" q).isWritable = true) :
    (cashier first second).backend.database.activeReplies.all isWritable = true := by
  refine List.all_eq_true.2 fun r mem => ?_
  obtain ⟨doc, selected, reads⟩ := List.mem_filterMap.1 mem
  have uses := (Database.uses_iff (few_cashier first second)).2 ⟨selected, reads⟩
  rcases (uses_cashier_iff readsFirst readsSecond).1 uses with ⟨-, rfl⟩ | ⟨-, rfl⟩
  · exact writableFirst
  · exact writableSecond

theorem not_ignores_cashier :
    ¬ (cashier first second).backend.database.Ignores (Text.fold "pago") := by
  intro ignores
  have uses := (uses_cashier_iff readsFirst readsSecond).2 (.inl ⟨rfl, rfl⟩)
  cases (answers_paying "first" p).symm.trans (ignores _ _ uses)

theorem not_stops_cashier (fault : Fault) :
    ¬ (cashier first second).backend.database.Stops (Text.fold "pago") fault := by
  rintro ⟨doc, r, uses, fails, -⟩
  rcases (uses_cashier_iff readsFirst readsSecond).1 uses with ⟨-, rfl⟩ | ⟨-, rfl⟩
  · cases (answers_paying "first" p).symm.trans fails
  · cases (answers_paying "second" q).symm.trans fails

/-- **Of two replies that a message calls for, the one in front is given**, whatever the priorities
are. -/
theorem given_cashier (writableFirst : (paying "first" p).isWritable = true)
    (writableSecond : (paying "second" q).isWritable = true)
    (behind : sortsBefore (some first) (some second) = false) :
    (runFrom (cashier first second) (findMatch "pago")).1 = .ok (some (paying "first" p)) := by
  have calls := calls_cashier_iff readsFirst readsSecond
  rw [(runFrom_findMatch fold_pago_ne _).1,
    given_active_of_unset (w := cashier _ _) (fun _ => rfl) rfl,
    writable_cashier readsFirst readsSecond writableFirst writableSecond]
  obtain ⟨-, ignores⟩ | ⟨r, given, d, called, leads, -⟩ | ⟨fault, -, stops⟩ :=
    Database.firstFor?_activeReplies (few_cashier first second) (Text.fold "pago")
  · exact absurd ignores (not_ignores_cashier readsFirst readsSecond)
  · rcases (calls _ _).1 called with ⟨rfl, rfl⟩ | ⟨rfl, rfl⟩
    · exact given
    · cases behind.symm.trans (leads _ _ ((calls _ _).2 (.inl ⟨rfl, rfl⟩)))
  · exact absurd stops (not_stops_cashier readsFirst readsSecond fault)

end Cashier

end CannedReply

end Dialogue
