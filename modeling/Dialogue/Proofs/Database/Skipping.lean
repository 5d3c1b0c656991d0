import Dialogue.Proofs.Definition.Stored
import Dialogue.Proofs.Reply.Recent
import Dialogue.Proofs.Store.Malformed

/-!
# Malformed documents

Somebody may store any document in any collection. What cannot be read as a definition or as a
canned reply is left out of what a lookup gives. What cannot be read as a store is left out only if
it has no code; a malformed store with a code makes every lookup fail that comes across it, also one
for other stores.

Main statement: `reads_of_answers`.
-/

namespace Dialogue

open Effect

/-- The definitions that are read at once are those of a query for all documents. -/
theorem Definition.readable_eq (db : Database) :
    readable db = (db.select .flows [] none).filterMap ofDocument? := by
  have every : db.flows.filter (Query.holds []) = db.flows :=
    List.filter_eq_self.2 fun _ _ => rfl
  show (db.flows.take _).filterMap _ = ((db.flows.filter (Query.holds [])).take _).filterMap _
  rw [every]

/-- **What reading a collection gives**, whatever documents it holds. Where the database answers,
definitions and canned replies are always found, and they are those of the documents that can be
read, in the order of the query. Stores are found just when no document that the query gives breaks;
otherwise the first one that does is reported, and every failure is located by a field. -/
theorem reads_of_answers {b : Backend} (answers : b.Answers) :
    (runFrom b Definition.findAll).1 =
        .ok ((b.database.select .flows [] none).filterMap Definition.ofDocument?) ∧
      (∀ code, (runFrom b (Definition.findByCode code)).1 =
        .ok ((b.database.first? .flows (Definition.byCode code)).bind Definition.ofDocument?)) ∧
      (runFrom b CannedReply.findActive).1 =
        .ok ((b.database.select .replies Database.activeOnly (some ⟨"priority", true⟩)).filterMap
          CannedReply.ofDocument?) ∧
      Store.Reads (b.database.select .stores Database.activeOnly (some Store.byName))
        (runFrom b Store.allActive).1 ∧
      (∀ names, Store.Reads
        (b.database.select .stores (Store.inZones names) (some Store.byName))
        (runFrom b (Store.withZoneNames names)).1) ∧
      (∀ code, Store.Reads (b.database.first? .stores (Store.byCode code)).toList
        (Option.toList <$> (runFrom b (Store.withCode code)).1)) ∧
      (∀ doc s, Store.model? doc = some s ↔
        (Store.field doc "code").isTruthy = true ∧ Store.Describes doc s) ∧
      ∀ doc failures, Store.Breaks doc failures → ∀ f ∈ failures,
        f.path = ["name"] ∨ f.path = ["address"] ∨ f.path = ["zone_name"] ∨
          f.path = ["is_active"] := by
  refine ⟨?_, fun code => ?_, ?_, ?_, fun names => ?_, fun code => ?_,
    fun _ _ => Store.model?_eq_some_iff, ?_⟩
  · obtain ⟨c, found⟩ := Definition.runFrom_findAll answers
    rw [found, Definition.readable_eq]
  · obtain ⟨c, found⟩ := Definition.runFrom_findByCode answers code
    rw [found]
  · obtain ⟨c, found⟩ := CannedReply.runFrom_findActive answers
    rw [found]
    rfl
  · rw [Store.given_allActive answers]
    exact (Store.outcome_ofDocuments _).reads
  · rw [Store.given_withZoneNames answers]
    exact (Store.outcome_ofDocuments _).reads
  · rw [Store.given_withCode answers]
    exact (Store.outcome_ofDocuments _).reads
  · intro doc failures breaks f mem
    have found : f ∈ (Store.record doc).failures := by
      rw [breaks.2]
      exact mem
    exact Store.path_of_mem_failures_record found

/-! ## A store that hides another -/

/-- A document of a store whose name is a number. -/
def numbered : Fields :=
  [("_id", .str "s1"), ("code", .str "a"), ("name", .int 5), ("isActive", .bool true)]

/-- A document of a store. -/
def named : Fields :=
  [("_id", .str "s2"), ("code", .str "b"), ("name", .str "B"), ("isActive", .bool true)]

/-- A database with two stores, of which one is malformed. -/
def street : Backend := { database := { stores := [numbered, named] } }

theorem breaks_numbered : Store.Breaks numbered [⟨["name"], .notText⟩] := ⟨rfl, rfl⟩

theorem select_street :
    street.database.select .stores Database.activeOnly (some Store.byName) = [numbered, named] := by
  have sorted : [numbered, named].mergeSort Store.byName.allows = [numbered, named] :=
    List.mergeSort_of_pairwise (by decide)
  have active : [numbered, named].filter Database.activeOnly.holds = [numbered, named] := by decide
  show (([numbered, named].filter Database.activeOnly.holds).mergeSort _).take _ = _
  rw [active, sorted]
  rfl

/-- The other store is found by its code, but not among all. -/
theorem reads_of_answers_street :
    street.Answers ∧
      Option.toList <$> (runFrom street (Store.withCode (.str "b"))).1 =
        .ok [⟨"b", "B", "", none, true⟩] ∧
      (runFrom street Store.allActive).1 ≠ .ok [⟨"b", "B", "", none, true⟩] := by
  obtain ⟨-, -, -, all, -, byCode, -, -⟩ := reads_of_answers (b := street) rfl
  refine ⟨rfl, ?_, fun skipped => ?_⟩
  · refine (byCode (.str "b")).skips_iff.2 fun doc found failures breaks => ?_
    cases List.mem_singleton.1 found
    cases breaks.2
  · rw [select_street] at all
    exact all.skips_iff.1 skipped numbered (List.mem_pair.2 (.inl rfl)) _ breaks_numbered

/-- A lookup of all stores is a fault, although one of the documents is a store. -/
theorem allActive_street :
    (runFrom street Store.allActive).1 = .error (.invalid [⟨["name"], .notText⟩]) ∧
      named ∈ street.database.stores ∧ Store.Describes named ⟨"b", "B", "", none, true⟩ := by
  refine ⟨?_, List.mem_pair.2 (.inr rfl), rfl, rfl, rfl, rfl, rfl⟩
  rw [Store.given_allActive (b := street) rfl, select_street]
  rfl

end Dialogue
