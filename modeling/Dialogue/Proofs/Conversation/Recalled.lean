import Dialogue.Proofs.Conversation.Runs

/-!
# Positions that are stored and read again

A position is stored as a text and read from it again. What a bot writes into a position are texts,
and its start is shown by a clock, so nothing is lost on the way: as long as the cache keeps the
entry, the position that was stored is what is read. The entries of the other customers and of the
canned replies are left alone.

Main statements: `runFrom_save_of_texts`, what storing does, and `recalls_of_save`.
-/

namespace Dialogue

open Effect

/-- Texts are one deep. -/
theorem AreTexts.fieldsHeight_le {fields : Fields} (texts : AreTexts fields) :
    Json.fieldsHeight fields ≤ 1 := by
  obtain ⟨each, -⟩ := texts
  induction fields with
  | nil => exact Nat.zero_le 1
  | cons entry rest ih =>
    obtain ⟨name, value⟩ := entry
    obtain ⟨s, rfl⟩ := each (name, value) List.mem_cons_self
    exact Nat.max_le.2 ⟨Nat.le_refl 1, ih fun e mem => each e (List.mem_cons_of_mem _ mem)⟩

namespace Position

variable {w v : World} {p : Position} {customer : String}

theorem isShallow_of_texts (texts : AreTexts p.data) : p.isShallow = true :=
  decide_eq_true (Nat.le_trans texts.fieldsHeight_le (by decide))

/-- What is cached for a customer when a position is stored now. -/
def entryFor (w : World) (p : Position) : CacheEntry :=
  ⟨.text p.text, some w.config.stateSeconds, w.now⟩

/-- **Storing a position** that has learned texts writes its entry and nothing else. -/
theorem runFrom_save_of_texts (works : w.cache.Works) (texts : AreTexts p.data)
    (customer : String) :
    ∃ b, runFrom w (save customer p) =
      (.ok (), { w with backend := b,
                        cache := w.cache.used.write (cacheKey customer) (entryFor w p) }) := by
  unfold save
  rw [isShallow_of_texts texts]
  exact Act.runFrom_remember works (cacheKey customer) p.text w.config.stateSeconds

/-- **A position that was stored is read again** as it was, however the world went on, as long as
its entry is there and is kept. -/
theorem runFrom_stored_of_entry (works : v.cache.Works) (texts : AreTexts p.data)
    (civil : ∀ stamp ∈ p.startedAt, stamp.IsCivil) {seconds : Option Int} {since : Instant}
    (entry : v.stored? customer = some ⟨.text p.text, seconds, since⟩)
    (kept : v.cache.isKept v.now ⟨.text p.text, seconds, since⟩ = true) :
    (runFrom v (stored customer)).1 = .ok p := by
  obtain ⟨b, read⟩ := runFrom_stored v works customer
  rw [read, World.position_of_entry entry kept texts civil]

/-- **Stored positions are recalled.** Storing a position succeeds. From then on, until its time is
over, reading it gives exactly the same position, in every world that still holds its entry. What
is read for any other customer is what would have been read before, at any time, and the entry of
the canned replies is the same. -/
theorem recalls_of_save (works : w.cache.Works) (texts : AreTexts p.data)
    (civil : ∀ stamp ∈ p.startedAt, stamp.IsCivil) (customer : String) :
    ∃ saved, runFrom w (save customer p) = (.ok (), saved) ∧
      (∀ v : World, v.cache.Works → World.SameEntry (cacheKey customer) saved v →
        v.now < w.now + w.config.stateSeconds * Time.second →
          (runFrom v (stored customer)).1 = .ok p) ∧
      (∀ other, other ≠ customer →
        (runFrom saved (stored other)).1 = (runFrom w (stored other)).1 ∧
          ∀ now, saved.position other now = w.position other now) ∧
      saved.cache.entries.get? CannedReply.cacheKey =
        w.cache.entries.get? CannedReply.cacheKey := by
  obtain ⟨b, ran⟩ := runFrom_save_of_texts works texts customer
  refine ⟨_, ran, fun v works' same inTime => ?_, fun other different => ?_, ?_⟩
  · have entry : v.stored? customer = some (entryFor w p) :=
      same.entry.trans (Table.get?_set_self ..)
    refine runFrom_stored_of_entry works' texts civil entry ?_
    have lasts : decide (v.now < w.now + w.config.stateSeconds * Time.second) = true :=
      decide_eq_true inTime
    exact Bool.or_eq_true_iff.2 (.inr lasts)
  · have apart : cacheKey customer ≠ cacheKey other :=
      fun same => different (Conversation.cacheKey_injective same).symm
    have same : World.SameEntry (cacheKey other) w { w with
        backend := b, cache := w.cache.used.write (cacheKey customer) (entryFor w p) } :=
      ⟨rfl, Table.get?_set_of_ne _ _ apart⟩
    refine ⟨?_, same.position⟩
    obtain ⟨c, before⟩ := runFrom_stored w works other
    obtain ⟨d, after⟩ := runFrom_stored { w with
      backend := b, cache := w.cache.used.write (cacheKey customer) (entryFor w p) }
      ⟨works.connected, works.up⟩ other
    rw [before, after, same.position]
    rfl
  · exact Table.get?_set_of_ne _ _ (Conversation.cacheKey_ne customer).symm

/-! ## A position that takes some writing -/

/-- A position with texts that have to be escaped, without a step, and with a start that has a
fraction of a second and an offset. -/
def scribbled : Position where
  flow := some "a \"quoted\" \\ code"
  data := [("niño\n", .str "tab\t"), ("", .str "\x00")]
  startedAt := some ⟨63850161600000001, some (-330)⟩

/-- A bot whose cache forgets what is out of date. -/
def notebook : World where
  config := { cancelCommands := [] }
  clock := ⟨63850161600000000, some 0⟩
  opening := "main_menu"
  cache := { forgets := true }

/-- The position is read again a second before its day is over. -/
theorem recalls_of_save_scribbled :
    notebook.cache.Works ∧ AreTexts scribbled.data ∧
      (∀ stamp ∈ scribbled.startedAt, stamp.IsCivil) ∧
      ∃ saved, runFrom notebook (save "549" scribbled) = (.ok (), saved) ∧
        (runFrom { saved with clock := ⟨63850161600000000 + 86399000000, some 0⟩ }
          (stored "549")).1 = .ok scribbled ∧
        (runFrom saved (stored "550")).1 = (runFrom notebook (stored "550")).1 := by
  have works : notebook.cache.Works := ⟨rfl, fun _ => rfl⟩
  have texts : AreTexts scribbled.data := by
    refine ⟨fun entry mem => ?_, by decide⟩
    simp only [scribbled, List.mem_cons, List.not_mem_nil, or_false] at mem
    rcases mem with rfl | rfl
    · exact ⟨_, rfl⟩
    · exact ⟨_, rfl⟩
  have civil : ∀ stamp ∈ scribbled.startedAt, stamp.IsCivil := by
    rintro _ ⟨⟩
    refine ⟨by decide, ?_⟩
    rintro _ ⟨⟩
    decide
  obtain ⟨saved, ran, recalled, others, -⟩ := recalls_of_save works texts civil "549"
  obtain ⟨b, wrote⟩ := runFrom_save_of_texts works texts "549"
  obtain rfl := (Prod.mk.inj (ran.symm.trans wrote)).2
  refine ⟨works, texts, civil, _, ran, ?_, (others "550" (by decide)).1⟩
  have inTime : (⟨63850161600000000 + 86399000000, some 0⟩ : Stamp).moment <
      notebook.now + notebook.config.stateSeconds * Time.second := by decide
  exact recalled _ ⟨rfl, fun _ => rfl⟩ ⟨rfl, rfl⟩ inTime

end Position

end Dialogue
