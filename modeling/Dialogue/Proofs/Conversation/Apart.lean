import Dialogue.Proofs.Conversation.Settled

/-!
# Conversations apart

Many customers write to one bot, which shares its flows, its database and its cache among them. When
the bot is settled, no customer notices the others: over any time, with messages of anybody and time
passing in between, a customer is answered as if nobody else had written, and the same position is
stored.

Two runs are compared, one with the messages of everybody and one with those of the customer only.
They go on beside one another: what the customer writes does the same in both, and what others write
in the one leaves it beside the other.

Main statement: `undisturbed`.
-/

namespace Dialogue

open Effect

/-! ## Bots beside one another -/

theorem World.Spares.symm {key : String} {w v : World} (spares : World.Spares key w v) :
    World.Spares key v w where
  config := spares.config.symm
  clock := spares.clock.symm
  opening := spares.opening.symm
  registry := spares.registry.symm
  isConnected := spares.isConnected.symm
  forgets := spares.forgets.symm
  outage := spares.outage.symm
  entry := spares.entry.symm

/-- Two settled bots that a customer cannot tell apart: they differ in what was counted, in when the
replies were kept, and in what is stored for others. -/
structure World.Beside (customer : String) (w v : World) : Prop where
  settled : w.Settled
  settled' : v.Settled
  alike : w.backend.Alike v.backend
  spares : World.Spares (Position.cacheKey customer) w v

namespace World.Beside

variable {customer : String} {w w' v v' : World}

theorem refl (settled : w.Settled) : World.Beside customer w w :=
  ⟨settled, settled, Backend.alike_refl _, Lasting.refl w⟩

/-- What passes a customer by leads from bots beside one another to bots beside one another. -/
theorem of_bypasses (beside : World.Beside customer w v) (first : World.Bypasses customer w w')
    (second : World.Bypasses customer v v') : World.Beside customer w' v' := by
  obtain ⟨settled, rests, spares⟩ := first beside.settled
  obtain ⟨settled', rests', spares'⟩ := second beside.settled'
  exact ⟨settled, settled', beside.alike.of_rests beside.settled.steady
    beside.settled'.steady rests rests', spares.symm.trans (beside.spares.trans spares')⟩

/-- Changing the position of the customer in the same way leads to bots beside one another. -/
theorem of_changedAt {b b' : Backend} {cache cache' : Cache}
    (beside : World.Beside customer w v) (same : b.database = w.backend.database)
    (same' : b'.database = v.backend.database)
    (changed : Cache.ChangedAt (Position.cacheKey customer) w.cache cache)
    (changed' : Cache.ChangedAt (Position.cacheKey customer) v.cache cache')
    (entry : cache'.entries.get? (Position.cacheKey customer) =
      cache.entries.get? (Position.cacheKey customer)) :
    World.Beside customer { w with backend := b, cache := cache }
      { v with backend := b', cache := cache' } := by
  have noReply := (Conversation.cacheKey_ne customer).symm
  have rests : w.backend.Rests b := ⟨b.database.uses, by rw [same]⟩
  have rests' : v.backend.Rests b' := ⟨b'.database.uses, by rw [same']⟩
  refine ⟨beside.settled.of_changedAt rests changed noReply,
    beside.settled'.of_changedAt rests' changed' noReply, beside.alike.of_database same same', ?_⟩
  exact {
    config := beside.spares.config
    clock := beside.spares.clock
    opening := beside.spares.opening
    registry := beside.spares.registry
    isConnected := changed'.connected.trans (beside.spares.isConnected.trans changed.connected.symm)
    forgets := changed'.forgets.trans (beside.spares.forgets.trans changed.forgets.symm)
    outage := changed'.outage.trans (beside.spares.outage.trans changed.outage.symm)
    entry := entry }

theorem text? (beside : World.Beside customer w v) :
    w.cache.text? w.now (Position.cacheKey customer) =
      v.cache.text? v.now (Position.cacheKey customer) := by
  unfold Cache.text?
  rw [World.now_of_spares beside.spares, beside.spares.read?]

theorem position (beside : World.Beside customer w v) (now : Instant) :
    v.position customer now = w.position customer now :=
  World.position_of_spares beside.spares now

/-! ## What a customer does -/

/-- What passes a customer by does the same in bots beside one another, when it gives the same. -/
theorem blind_of_bypasses {α : Type} {x : Act α} (bypasses : Within (World.Bypasses customer) x)
    (given : ∀ {w v : World}, w.Beside customer v → (runFrom w x).1 = (runFrom v x).1) :
    Blind (World.Beside customer) x :=
  fun _ _ beside => ⟨given beside, beside.of_bypasses (bypasses rfl) (bypasses rfl)⟩

theorem blind_opens (code : String) : Blind (World.Beside customer) (Registry.ensure code) := by
  refine blind_of_bypasses (Registry.bypasses_ensure customer code) fun {w v} beside => ?_
  show Registry.opens w code = Registry.opens v code
  rw [Registry.opens_eq, Registry.opens_eq, beside.spares.registry]
  split
  · rfl
  · exact (Lookup.composable_blind.loadOne Store.options _ code beside.alike).given

theorem blind_replies : Blind (World.Beside customer) CannedReply.active := by
  refine blind_of_bypasses (CannedReply.bypasses_active customer) fun beside => ?_
  rw [CannedReply.given_active beside.settled.replies,
    CannedReply.given_active beside.settled'.replies]
  exact beside.alike.activeReplies.symm

theorem blind_recalls :
    Blind (World.Beside customer) (Act.cached? (Position.cacheKey customer)) := by
  refine blind_of_bypasses ((World.tolerant_bypasses customer).lenient.cached? _) fun beside => ?_
  obtain ⟨b, read⟩ := Act.runFrom_cached? beside.settled.works (Position.cacheKey customer)
  obtain ⟨c, read'⟩ := Act.runFrom_cached? beside.settled'.works (Position.cacheKey customer)
  rw [read, read', beside.text?]

theorem blind_remembers (text : String) (seconds : Int) : Blind (World.Beside customer)
    (Act.remember (Position.cacheKey customer) text seconds) := by
  intro w v beside
  have keeps : Within World.SameDatabase
      (Act.remember (Position.cacheKey customer) text seconds) :=
    World.lenient_sameDatabase.remember (fun _ _ => rfl) text seconds
  obtain ⟨b, ran⟩ :=
    Act.runFrom_remember beside.settled.works (Position.cacheKey customer) text seconds
  obtain ⟨c, ran'⟩ :=
    Act.runFrom_remember beside.settled'.works (Position.cacheKey customer) text seconds
  constructor
  · rw [ran, ran']
  · have left := beside.of_changedAt (keeps ran) (keeps ran')
      (Cache.changedAt_write w.cache.used _ ⟨.text text, some seconds, w.now⟩).of_used
      (Cache.changedAt_write v.cache.used _ ⟨.text text, some seconds, v.now⟩).of_used
      (by
        rw [World.now_of_spares beside.spares]
        exact (Table.get?_set_self ..).trans (Table.get?_set_self ..).symm)
    rw [ran, ran']
    exact left

theorem blind_forgets :
    Blind (World.Beside customer) (Act.forget (Position.cacheKey customer)) := by
  intro w v beside
  have keeps : Within World.SameDatabase (Act.forget (Position.cacheKey customer)) :=
    World.lenient_sameDatabase.forget fun _ => rfl
  obtain ⟨b, ran⟩ := Act.runFrom_forget beside.settled.works (Position.cacheKey customer)
  obtain ⟨c, ran'⟩ := Act.runFrom_forget beside.settled'.works (Position.cacheKey customer)
  have gone (c : Cache) : (c.used.remove (Position.cacheKey customer)).entries.get?
      (Position.cacheKey customer) = none :=
    (Table.get?_erase ..).trans (if_pos rfl)
  constructor
  · rw [ran, ran']
  · have left := beside.of_changedAt (keeps ran) (keeps ran')
      (Cache.changedAt_remove w.cache.used _).of_used
      (Cache.changedAt_remove v.cache.used _).of_used ((gone v.cache).trans (gone w.cache).symm)
    rw [ran, ran']
    exact left

/-- What is done for a customer does the same in bots beside one another. -/
theorem conversational :
    Conversational customer fun _ x => Blind (World.Beside customer) x where
  looks looks :=
    blind_of_bypasses ((World.tolerant_bypasses customer).looks (looks _ Lookup.composable_rests))
      fun beside => (looks _ Lookup.composable_blind beside.alike).given
  reads same rest := by
    intro w v beside
    refine agree_get_bind ?_
    rw [same beside.spares.accords]
    exact rest w beside.settled.looks beside
  opens := blind_opens
  replies := blind_replies
  recalls := blind_recalls
  remembers := blind_remembers
  forgets := blind_forgets
  bind := blind_bind

end World.Beside

/-! ## What goes on over a time -/

/-- What a running bot meets with: a message comes in, or some microseconds pass. -/
inductive Happening where
  | sent (m : Incoming)
  | passed (micros : Int)

namespace Happening

/-- What the bot does then: it responds to the message, or its clock moves on. -/
def act : Happening → Act (Response ⊕ Stamp)
  | .sent m => do return .inl (← Conversation.process m)
  | .passed micros => do return .inr (← Act.advance micros)

/-- Everything concerns a customer but the messages of others. -/
def concerns (customer : String) : Happening → Bool
  | .sent m => m.customer = customer
  | .passed _ => true

end Happening

/-- What a bot gives as one thing happens after another, and the world that is left. A fault is
given in place of a response, and then it goes on. -/
def World.transcript (w : World) :
    List Happening → List (Happening × Except Fault (Response ⊕ Stamp)) × World
  | [] => ([], w)
  | h :: rest =>
    let (result, v) := runFrom w h.act
    let (later, u) := v.transcript rest
    ((h, result) :: later, u)

variable {customer : String} {w v : World} {h : Happening}

theorem World.transcript_cons (w : World) (h : Happening) (rest : List Happening) :
    w.transcript (h :: rest) =
      ((h, (runFrom w h.act).1) :: ((runFrom w h.act).2.transcript rest).1,
        ((runFrom w h.act).2.transcript rest).2) := rfl

theorem blind_advance (micros : Int) : Blind (World.Beside customer) (Act.advance micros) := by
  intro w v beside
  refine agree_get_bind ?_
  rw [beside.spares.clock]
  have reads := World.Beside.conversational.ofExcept (w.clock.plus micros) beside
  refine agree_bind reads fun clock w' v' _ _ beside' => ?_
  have ticks (u : World) : runFrom u (modify fun w => { w with clock := clock }) =
      (.ok (), { u with clock := clock }) := rfl
  refine agree_bind_of_ok (ticks w') (ticks v') (agree_pure clock ?_)
  exact {
    settled := beside'.settled.of_rests (Lasting.refl _) rfl beside'.settled.works
      beside'.settled.replies
    settled' := beside'.settled'.of_rests (Lasting.refl _) rfl beside'.settled'.works
      beside'.settled'.replies
    alike := beside'.alike
    spares := { beside'.spares with clock := rfl } }

/-- **What concerns a customer** does the same in bots beside one another. -/
theorem blind_act (own : h.concerns customer = true) :
    Blind (World.Beside customer) h.act := by
  cases h with
  | sent m =>
    have sender : m.customer = customer := by simpa [Happening.concerns] using own
    subst sender
    exact blind_bind World.Beside.conversational.process fun _ _ _ beside => agree_pure _ beside
  | passed micros =>
    exact blind_bind (blind_advance micros) fun _ _ _ beside => agree_pure _ beside

/-- **What does not concern a customer** passes the customer by. -/
theorem bypasses_act (other : h.concerns customer = false) :
    Within (World.Bypasses customer) h.act := by
  cases h with
  | sent m =>
    have sender : m.customer ≠ customer := by simpa [Happening.concerns] using other
    exact within_bind (Conversation.bypasses_process sender) fun _ => within_pure _
  | passed micros => cases other

/-- Bots beside one another are so still after a time, when one of them meets with what concerns the
customer, and the other with more. -/
theorem transcript_of_beside (beside : w.Beside customer v) (events : List Happening) :
    (w.transcript events).1.filter (·.1.concerns customer) =
        (v.transcript (events.filter (·.concerns customer))).1 ∧
      World.Beside customer (w.transcript events).2
        (v.transcript (events.filter (·.concerns customer))).2 := by
  induction events generalizing w v with
  | nil => exact ⟨rfl, beside⟩
  | cons h rest ih =>
    cases concerned : h.concerns customer with
    | false =>
      have left := beside.of_bypasses (bypasses_act concerned rfl) (Lasting.refl v)
      rw [World.transcript_cons, List.filter_cons_of_neg (by simp [concerned]),
        List.filter_cons_of_neg (by simp [concerned])]
      exact ih left
    | true =>
      obtain ⟨given, left⟩ := blind_act concerned beside
      obtain ⟨same, after⟩ := ih left
      rw [World.transcript_cons, List.filter_cons_of_pos concerned,
        List.filter_cons_of_pos (by simpa using concerned), World.transcript_cons, given, same]
      exact ⟨rfl, after⟩

/-- **Conversations do not interfere.** Whatever messages come in at a settled bot, from whomever,
and whatever time passes in between: a customer gets the same responses, or the same faults, as if
only the customer's own messages had come in at the same times, and the same position is stored for
the customer in the end. What happens may end anywhere, so the same is stored at any time. -/
theorem undisturbed (settled : w.Settled) (customer : String) (events : List Happening) :
    (w.transcript events).1.filter (·.1.concerns customer) =
        (w.transcript (events.filter (·.concerns customer))).1 ∧
      ∀ now, (w.transcript events).2.position customer now =
        (w.transcript (events.filter (·.concerns customer))).2.position customer now := by
  obtain ⟨same, after⟩ := transcript_of_beside (.refl settled) events
  exact ⟨same, fun now => (after.position now).symm⟩

open Conversation

/-- A reply to whoever asks for the opening hours. -/
def hours : CannedReply := ⟨"hora", .keyword, "De 9 a 18", none, 0, true⟩

/-- A bot with the built-in flows, one stored definition, whose flow is registered, and one canned
reply, which is cached. -/
def plaza : World where
  config := { cancelCommands := ["cancelar"] }
  clock := ⟨0, none⟩
  opening := "main_menu"
  backend := { database := {
    flows := [(Definition.plain "lobby" [.plain "hello" "Hello"]).authoredFields]
    replies := [[("trigger", .str "hora"), ("response", .str "De 9 a 18"),
      ("isActive", .bool true)]] } }
  cache := Cache.write {} CannedReply.cacheKey ⟨.text (CannedReply.textOf [hours]), some 60, 0⟩
  registry := Table.set Registry.builtins "lobby" lobby

/-- Another customer asks for the opening hours. -/
def ask : Incoming := ⟨"550", none, none, "text", some "hora", none, []⟩

/-- The database gives the one reply, as it is cached. -/
theorem fresh_plaza :
    (runFrom plaza.backend CannedReply.fresh).1 = .ok ([hours], CannedReply.textOf [hours]) := by
  have only (order : Order) (doc : Fields) : sortBy (some order) [doc] = [doc] :=
    List.mergeSort_singleton ..
  have found : plaza.backend.database.select .replies [("isActive", .value (.bool true))]
      (some ⟨"priority", true⟩) = [[("trigger", .str "hora"), ("response", .str "De 9 a 18"),
        ("isActive", .bool true)]] :=
    congrArg (List.take Database.readLimit) (only _ _)
  have answers : plaza.backend.Answers := rfl
  unfold CannedReply.fresh CannedReply.findActive
  rw [runFrom_bind, runFrom_bind, Lookup.runFrom_select answers, found]
  rfl

theorem settled_plaza : plaza.Settled where
  works := ⟨rfl, fun _ => rfl⟩
  steady _ _ := rfl
  looks := by
    refine Registry.EveryPrompt.set Lookup.composable_looks.builtins (fun entry mem => ?_) "lobby"
    rw [List.mem_singleton.1 mem]
    trivial
  loaded doc mem d read _ _ := by
    have coded : (Definition.byCode "lobby").holds doc = true := by
      rw [List.mem_singleton.1 mem]
      decide
    have registered : Table.get? plaza.registry "lobby" = some lobby := Table.get?_set_self ..
    rw [Definition.code_of_ofDocument? coded read, registered]
    rfl
  replies e mem := by
    have cached : plaza.cache.entries.get? CannedReply.cacheKey =
        some ⟨.text (CannedReply.textOf [hours]), some 60, 0⟩ := Table.get?_set_self ..
    rw [cached] at mem
    cases mem
    exact ⟨([hours], CannedReply.textOf [hours]), fresh_plaza, rfl⟩

theorem undisturbed_plaza :
    plaza.Settled ∧
      (plaza.transcript [.sent tap, .sent ask, .passed 5, .sent quit]).1.filter
          (·.1.concerns "549") = (plaza.transcript [.sent tap, .passed 5, .sent quit]).1 ∧
      ∀ now, (plaza.transcript [.sent tap, .sent ask, .passed 5, .sent quit]).2.position "549" now =
        (plaza.transcript [.sent tap, .passed 5, .sent quit]).2.position "549" now := by
  have own : [Happening.sent tap, .sent ask, .passed 5, .sent quit].filter (·.concerns "549") =
      [.sent tap, .passed 5, .sent quit] := rfl
  have both := undisturbed settled_plaza "549" [.sent tap, .sent ask, .passed 5, .sent quit]
  rw [own] at both
  exact ⟨settled_plaza, both⟩

end Dialogue
