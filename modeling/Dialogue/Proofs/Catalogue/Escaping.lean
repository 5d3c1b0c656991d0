import Dialogue.Proofs.Catalogue.Resolving
import Dialogue.Proofs.Flow.Escaping

/-!
# Ways out of the built-in flows

Built-in steps never trap a customer. Where a tap is expected there is always something to tap, also
when no store is found: then there is a row that leads to a person. And from every step a few
answers end the flow or reach a person. What is known never closes a way: at every step the same
answer will do, but for the choice of a store, where any row will do.

Each way is put together from its end, one step at a time, so every step is shown to lead to one
that comes before it here.

Main statements: `allows_of_step?`, what the built-in steps show, and `escapes_of_builtins`.
-/

namespace Dialogue

open Effect Catalogue

/-- Where the database is sound, all lookups of the directory return. -/
structure StoreDirectory.Returns (stores : StoreDirectory) (sound : Database → Prop) : Prop where
  byZone : ∀ zone, (stores.byZone zone).Yields sound fun _ => True
  active : stores.active.Yields sound fun _ => True
  byCode : ∀ code, (stores.byCode code).Yields sound fun _ => True

namespace Catalogue

open Content Step Registry

variable {stores : StoreDirectory} {sound : Database → Prop} {registry : Registry}
  {code key : String} {flow : Flow} {step : Step}

/-! ## Frequent questions -/

namespace Topics

theorem offers_select : selectPrompt.Offers .listReply "info_horarios" :=
  offers_ofList (by decide)

theorem offers_more : morePrompt.Offers .buttonReply "more_no" := offers_ofButtons (by decide)

theorem allows : ∀ step ∈ steps, step.Presents sound (·.Allows step.expects) := by
  intro step listed
  simp only [steps, List.mem_cons, List.mem_append, List.mem_map, List.not_mem_nil,
    or_false] at listed
  rcases listed with (rfl | ⟨topic, -, rfl⟩) | rfl
  · exact presents_of_eq (fun _ => rfl) fun _ => offers_select.allows
  · exact presents_of_eq (fun _ => rfl) fun _ => allows_of_untapped (.inr (.inl rfl))
  · exact presents_of_eq (fun _ => rfl) fun _ => offers_more.allows

section

variable (info : registry.flow? topicsCode = some Topics.flow)
include info

/-- Who needs no more says so. -/
theorem frees_more : registry.Frees sound 1 topicsCode "ask_more" :=
  -- What a step shows, expects and checks is read off its definition, here and below.
  frees_of_tap info rfl (by decide) (fun _ => rfl) (fun _ => offers_more) ⟨rfl, rfl⟩
    fun _ => .completes

/-- A topic is left with any text. -/
theorem frees_topic {topic body : String}
    (found : Topics.flow.step? (stepId topic) = some (topicStep topic body)) :
    registry.Frees sound 2 topicsCode (stepId topic) :=
  frees_of_text "gracias" info found (by simp [stepId]) (fun _ => rfl) (.inr rfl) ⟨rfl, rfl⟩
    fun _ => .advances rfl rfl (frees_more info)

/-- The hours are shown to whoever taps them. -/
theorem frees_select : registry.Frees sound 3 topicsCode "select_topic" := by
  have chosen (data : Fields) :
      afterSelect "info_horarios" data = some (.next (stepId "horarios")) :=
    (by decide : afterSelect "info_horarios" [] = some (.next (stepId "horarios")))
  have found : Topics.flow.step? (stepId "horarios") = some (topicStep "horarios" _) := rfl
  exact frees_of_tap info rfl (by decide) (fun _ => rfl) (fun _ => offers_select) ⟨rfl, rfl⟩
    fun data => leadsOut_of_decided (chosen data)
      (.advances found rfl (frees_topic info found))

/-- **Every step of the frequent questions** has a way out. -/
theorem frees (found : Topics.flow.step? key = some step) :
    registry.Frees sound 5 topicsCode key := by
  obtain ⟨listed, rfl⟩ := Flow.listed_of_step? rfl found
  simp only [steps, List.mem_cons, List.mem_append, List.mem_map, List.not_mem_nil,
    or_false] at listed
  rcases listed with (rfl | ⟨⟨topic, body⟩, -, rfl⟩) | rfl
  · exact (frees_select info).mono (by decide)
  · exact (frees_topic info found).mono (by decide)
  · exact (frees_more info).mono (by decide)

end

end Topics

/-! ## The main menu -/

namespace Menu

theorem offers_greeting (data : Fields) : (greeting data).Offers .buttonReply "menu_local" :=
  offers_ofButtons (by decide)

theorem offers_method : methodPrompt.Offers .buttonReply "location_zone" :=
  offers_ofButtons (by decide)

theorem offers_zone : zonePrompt.Offers .listReply "CABA" := offers_ofList (by decide)

/-- A list of stores has a row to tap, whatever stores there are. -/
theorem exists_offers_storeList (body : String) (found : List Store) :
    ∃ id, (storeList body found).Offers .listReply id := by
  unfold storeList
  cases found.take Limit.rows with
  | nil => exact exists_offers_ofList (List.cons_ne_nil _ _)
  | cons s rest => exact exists_offers_ofList (List.cons_ne_nil _ _)

theorem yields_storePrompt (returns : stores.Returns sound) (data : Fields) :
    (storePrompt stores data).Yields sound fun content => ∃ id, content.Offers .listReply id := by
  refine (returns.byZone _).bind fun found _ => ?_
  split
  · exact returns.active.bind fun _ _ => Lookup.yields_pure (exists_offers_storeList _ _)
  · exact Lookup.yields_pure (exists_offers_storeList _ _)

theorem yields_handOffPrompt (returns : stores.Returns sound) (data : Fields) :
    (handOffPrompt stores data).Yields sound fun _ => True := by
  refine Lookup.Yields.bind (Q := fun _ => True) ?_ fun _ _ => Lookup.yields_pure trivial
  unfold storeName
  dsimp only
  split
  · refine (returns.byCode _).bind fun store? _ => ?_
    cases store? with
    | none => exact Lookup.yields_pure trivial
    | some store => exact Lookup.yields_pure trivial
  · exact Lookup.yields_pure trivial

theorem allows (returns : stores.Returns sound) :
    ∀ step ∈ steps stores, step.Presents sound (·.Allows step.expects) := by
  intro step listed
  simp only [steps, List.mem_cons, List.not_mem_nil, or_false] at listed
  rcases listed with rfl | rfl | rfl | rfl | rfl | rfl
  · exact presents_of_eq (fun _ => rfl) fun data => (offers_greeting data).allows
  · exact presents_of_eq (fun _ => rfl) fun _ => offers_method.allows
  · exact presents_of_eq (fun _ => rfl) fun _ => allows_of_untapped (.inr (.inl rfl))
  · exact presents_of_eq (fun _ => rfl) fun _ => allows_of_untapped (.inr (.inl rfl))
  · exact fun data => (yields_storePrompt returns data).mono fun _ offers _ => offers
  · exact fun data => (yields_handOffPrompt returns data).mono fun _ _ =>
      allows_of_untapped (.inr (.inr rfl))

section

variable (menu : registry.flow? menuCode = some (Menu.flow stores))
include menu

/-- A store is chosen, and a person takes over. -/
theorem frees_store (returns : stores.Returns sound) :
    registry.Frees sound 1 menuCode "select_store" := by
  refine frees_of_presents menu rfl (by decide)
    fun data => (yields_storePrompt returns data).mono ?_
  rintro content ⟨id, offers⟩
  exact ⟨.listReply, id, .tap offers, ⟨rfl, rfl⟩, fun _ =>
    .handsOver rfl rfl (yields_handOffPrompt returns)⟩

/-- A zone is chosen. -/
theorem frees_zone (returns : stores.Returns sound) :
    registry.Frees sound 2 menuCode "select_zone" :=
  frees_of_tap menu rfl (by decide) (fun _ => rfl) (fun _ => offers_zone) ⟨rfl, rfl⟩
    fun _ => leadsOut_of_decided
      (by decide : afterZone (normalizeZone "CABA") [] = some (.next "select_store"))
      (.advances rfl rfl (frees_store menu returns))

/-- Whoever does not send a location may ask for the zones, unless a store is known already. -/
theorem frees_waiting (returns : stores.Returns sound) :
    registry.Frees sound 3 menuCode "waiting_location" := by
  refine frees_of_text "zona" menu rfl (by decide) (fun _ => rfl) (.inr rfl) ⟨rfl, rfl⟩
    fun data => ?_
  cases assigned : (known data "assignedStoreCode").isTruthy with
  | true =>
    have outcome : afterWaiting "zona" data = some (.next "transfer_to_agent") := by
      rw [afterWaiting, assigned, Bool.or_true, if_pos rfl]
    exact leadsOut_of_decided outcome (.handsOver rfl rfl (yields_handOffPrompt returns))
  | false =>
    have outcome : afterWaiting "zona" data = some (.next "select_zone") := by
      rw [afterWaiting, assigned, if_neg (by decide), if_pos (by decide +kernel)]
    exact leadsOut_of_decided outcome (.advances rfl rfl (frees_zone menu returns))

theorem frees_method (returns : stores.Returns sound) :
    registry.Frees sound 3 menuCode "ask_location_method" :=
  frees_of_tap menu rfl (by decide) (fun _ => rfl) (fun _ => offers_method) ⟨rfl, rfl⟩
    fun _ => .advances rfl rfl (frees_zone menu returns)

theorem frees_welcome (returns : stores.Returns sound) :
    registry.Frees sound 4 menuCode "welcome" :=
  frees_of_tap menu rfl (by decide) (fun _ => rfl) offers_greeting ⟨rfl, rfl⟩
    fun _ => .advances rfl rfl (frees_method menu returns)

/-- **Every step of the menu** that does not hand over has a way out. -/
theorem frees (returns : stores.Returns sound) (found : (Menu.flow stores).step? key = some step)
    (open_ : step.handsOff = false) : registry.Frees sound 5 menuCode key := by
  obtain ⟨listed, rfl⟩ := Flow.listed_of_step? rfl found
  simp only [steps, List.mem_cons, List.not_mem_nil, or_false] at listed
  rcases listed with rfl | rfl | rfl | rfl | rfl | rfl
  · exact (frees_welcome menu returns).mono (by decide)
  · exact (frees_method menu returns).mono (by decide)
  · exact (frees_waiting menu returns).mono (by decide)
  · exact (frees_zone menu returns).mono (by decide)
  · exact (frees_store menu returns).mono (by decide)
  · cases open_

end

end Menu

/-! ## Quotations -/

namespace Quotation

theorem offers_category : categoryPrompt.Offers .listReply "cat_ceramico" :=
  offers_ofList (by decide)

theorem offers_contact : contactPrompt.Offers .buttonReply "contact_whatsapp" :=
  offers_ofButtons (by decide)

theorem offers_confirm : confirmPrompt.Offers .buttonReply "confirm_yes" :=
  offers_ofButtons (by decide)

theorem allows : ∀ step ∈ steps, step.Presents sound (·.Allows step.expects) := by
  intro step listed
  simp only [steps, List.mem_cons, List.not_mem_nil, or_false] at listed
  rcases listed with rfl | rfl | rfl | rfl | rfl | rfl | rfl
  · exact presents_of_eq (fun _ => rfl) fun _ => offers_category.allows
  · exact presents_of_eq (fun _ => rfl) fun _ => allows_of_untapped (.inl rfl)
  · exact presents_of_eq (fun _ => rfl) fun _ => allows_of_untapped (.inl rfl)
  · exact presents_of_eq (fun _ => rfl) fun _ => offers_contact.allows
  · exact presents_of_eq (fun _ => rfl) fun _ => allows_of_untapped (.inl rfl)
  · exact presents_of_eq (fun _ => rfl) fun _ => offers_confirm.allows
  · exact presents_of_eq (fun _ => rfl) fun _ => allows_of_untapped (.inr (.inl rfl))

section

variable (quotation : registry.flow? quotationCode = some Quotation.flow)
include quotation

/-- A request that was cancelled is closed by whatever is said next. -/
theorem frees_cancelled : registry.Frees sound 1 quotationCode "cancelled" :=
  frees_of_text "gracias" quotation rfl (by decide) (fun _ => rfl) (.inr rfl) ⟨rfl, rfl⟩
    fun _ => .completes

theorem frees_confirm : registry.Frees sound 1 quotationCode "confirm" :=
  frees_of_tap quotation rfl (by decide) (fun _ => rfl) (fun _ => offers_confirm) ⟨rfl, rfl⟩
    fun _ => .transfers

/-- There is an address that passes the check. -/
theorem frees_email : registry.Frees sound 2 quotationCode "ask_email" :=
  frees_of_text "a@b.c" quotation rfl (by decide) (fun _ => rfl) (.inl rfl)
    ⟨rfl, congrArg Except.ok (by decide +kernel : isEmail "a@b.c" = true)⟩
    fun _ => .advances rfl rfl (frees_confirm quotation)

theorem frees_contact : registry.Frees sound 2 quotationCode "ask_contact" :=
  frees_of_tap quotation rfl (by decide) (fun _ => rfl) (fun _ => offers_contact) ⟨rfl, rfl⟩
    fun _ => .advances rfl rfl (frees_confirm quotation)

theorem frees_quantity : registry.Frees sound 3 quotationCode "ask_quantity" :=
  frees_of_text "50 m2" quotation rfl (by decide) (fun _ => rfl) (.inl rfl) ⟨rfl, rfl⟩
    fun _ => .advances rfl rfl (frees_contact quotation)

theorem frees_details : registry.Frees sound 4 quotationCode "ask_details" :=
  frees_of_text "gris" quotation rfl (by decide) (fun _ => rfl) (.inl rfl) ⟨rfl, rfl⟩
    fun _ => .advances rfl rfl (frees_quantity quotation)

theorem frees_category : registry.Frees sound 5 quotationCode "select_category" :=
  frees_of_tap quotation rfl (by decide) (fun _ => rfl) (fun _ => offers_category) ⟨rfl, rfl⟩
    fun _ => .advances rfl rfl (frees_details quotation)

/-- **Every step of a quotation** has a way out. -/
theorem frees (found : Quotation.flow.step? key = some step) :
    registry.Frees sound 5 quotationCode key := by
  obtain ⟨listed, rfl⟩ := Flow.listed_of_step? rfl found
  simp only [steps, List.mem_cons, List.not_mem_nil, or_false] at listed
  rcases listed with rfl | rfl | rfl | rfl | rfl | rfl | rfl
  · exact frees_category quotation
  · exact (frees_details quotation).mono (by decide)
  · exact (frees_quantity quotation).mono (by decide)
  · exact (frees_contact quotation).mono (by decide)
  · exact (frees_email quotation).mono (by decide)
  · exact (frees_confirm quotation).mono (by decide)
  · exact (frees_cancelled quotation).mono (by decide)

end

end Quotation

/-! ## First contact -/

namespace FirstContact

theorem offers_greeting (data : Fields) : (greeting data).Offers .buttonReply "menu_consultas" :=
  offers_ofButtons (by decide)

theorem allows : ∀ step ∈ steps, step.Presents sound (·.Allows step.expects) := by
  intro step listed
  simp only [steps, List.mem_cons, List.not_mem_nil, or_false] at listed
  rcases listed with rfl | rfl
  · exact presents_of_eq (fun _ => rfl) fun _ => allows_of_untapped (.inl rfl)
  · exact presents_of_eq (fun _ => rfl) fun data => (offers_greeting data).allows

section

variable (firstContact : registry.flow? firstContactCode = some FirstContact.flow)
  (info : registry.flow? topicsCode = some Topics.flow)
include firstContact info

/-- Whoever has questions is led to the frequent ones. -/
theorem frees_greeting : registry.Frees sound 4 firstContactCode "confirm_name" :=
  frees_of_tap firstContact rfl (by decide) (fun _ => rfl) offers_greeting ⟨rfl, rfl⟩
    fun _ => .switches info rfl (Topics.frees_select info)

/-- There is a name that passes the check. -/
theorem frees_name : registry.Frees sound 5 firstContactCode "ask_name" :=
  frees_of_text "Ana" firstContact rfl (by decide) (fun _ => rfl) (.inl rfl)
    ⟨rfl, congrArg Except.ok (by decide +kernel : isName (cleanName "Ana") = true)⟩
    fun _ => .advances rfl rfl (frees_greeting firstContact info)

/-- **Every step of the first contact** has a way out. -/
theorem frees (found : FirstContact.flow.step? key = some step) :
    registry.Frees sound 5 firstContactCode key := by
  obtain ⟨listed, rfl⟩ := Flow.listed_of_step? rfl found
  simp only [steps, List.mem_cons, List.not_mem_nil, or_false] at listed
  rcases listed with rfl | rfl
  · exact frees_name firstContact info
  · exact (frees_greeting firstContact info).mono (by decide)

end

end FirstContact

/-! ## All built-in flows -/

/-- **A built-in step shows something to tap** where it expects a tap, whatever is known. -/
theorem allows_of_step? (returns : stores.Returns sound)
    (registered : (builtins stores).flow? code = some flow) (found : flow.step? key = some step) :
    step.Presents sound (·.Allows step.expects) := by
  obtain ⟨steps, listed, allows⟩ := exists_steps
    (P := fun _ step => step.Presents sound (·.Allows step.expects)) (Menu.allows returns)
    Quotation.allows Topics.allows FirstContact.allows (Registry.mem_of_flow? registered)
  exact allows step (Flow.listed_of_step? listed found).1

/-- **A built-in step has a way out** unless it hands over. -/
theorem frees_of_step? (has : registry.HasBuiltins stores) (returns : stores.Returns sound)
    (builtin : code ∈ codes) (registered : registry.flow? code = some flow)
    (found : flow.step? key = some step) (open_ : step.handsOff = false) :
    registry.Frees sound 5 code key := by
  have info : registry.flow? topicsCode = some Topics.flow := has topicsCode (by decide)
  rcases builtin_cases (Registry.mem_of_flow? (has.registered builtin registered)) with
    ⟨rfl, rfl⟩ | ⟨rfl, rfl⟩ | ⟨rfl, rfl⟩ | ⟨rfl, rfl⟩
  · exact Menu.frees registered returns found open_
  · exact Quotation.frees registered found
  · exact Topics.frees registered found
  · exact FirstContact.frees registered info found

end Catalogue

/-- **Built-in steps never trap a customer.** Take any directory of stores whose lookups return,
whatever stores they find, and any data. Every built-in step is shown to whoever has a number, and
where it expects a tap on a button or a row, the message has such a button or row. And wherever a
conversation waits at a built-in step that does not hand over, five answers at most end the flow or
reach a person: each is a tap on something that the message of its step offers, or a text at a step
that takes texts, and it gives a turn. -/
theorem escapes_of_builtins (stores : StoreDirectory) (sound : Database → Prop)
    (returns : stores.Returns sound) :
    (∀ code flow, (builtins stores).flow? code = some flow →
      ∀ key step, flow.step? key = some step →
        ∀ (address : Address) (data : Fields) (b : Backend), address.recipient ≠ "" →
          sound b.database → ∃ message c,
            runFrom b (Turn.render address step data) = (.ok message, c) ∧
              (step.expects = .buttonReply ∨ step.expects = .listReply →
                ∃ id, message.content.Offers step.expects id)) ∧
    ∀ registry : Registry, registry.HasBuiltins stores →
      ∀ (p : Position) (code : String) (flow : Flow) (step : Step), code ∈ codes →
        p.WaitsAt registry code flow step → step.handsOff = false → p.Escapes registry sound 5 := by
  constructor
  · intro code flow registered key step found address data b numbered ok
    obtain ⟨message, c, ran, -, content, allows, shown⟩ :=
      (allows_of_step? returns registered found).render numbered data b ok
    exact ⟨message, c, ran, shown ▸ allows.deliverable⟩
  · intro registry has p code flow step builtin waits open_
    have frees := frees_of_step? has returns builtin waits.registered waits.found open_
    obtain ⟨inFlow, atStep, data, start⟩ := p
    cases waits.inFlow
    cases atStep with
    | none =>
      have set := waits.set
      rw [Position.isSet, Position.isNamed, Bool.and_comm] at set
      cases set
    | some name => exact frees data start

/-- A directory without stores. -/
def noStores : StoreDirectory := ⟨fun _ => return [], return [], fun _ => return none⟩

/-- The position where a name is asked for. -/
def naming : Position := ⟨some firstContactCode, some "ask_name", [("userName", .null)], none⟩

theorem escapes_of_builtins_noStores :
    noStores.Returns (fun _ => True) ∧
      (∃ step message c, (Menu.flow noStores).step? "select_store" = some step ∧
        runFrom {} (Turn.render ⟨"549", none⟩ step [("selectedZone", .str "CABA")]) =
          (.ok message, c) ∧ ∃ id, message.content.Offers .listReply id) ∧
      naming.Escapes (builtins noStores) (fun _ => True) 5 := by
  have returns : noStores.Returns fun _ => True :=
    ⟨fun _ => Lookup.yields_pure trivial, Lookup.yields_pure trivial,
      fun _ => Lookup.yields_pure trivial⟩
  obtain ⟨shows, escapes⟩ := escapes_of_builtins noStores (fun _ => True) returns
  obtain ⟨message, c, ran, offers⟩ := shows menuCode _ rfl "select_store" _ rfl ⟨"549", none⟩
    [("selectedZone", .str "CABA")] {} (by decide) trivial
  have waits : naming.WaitsAt (builtins noStores) firstContactCode FirstContact.flow
      FirstContact.flow.initialStep := ⟨rfl, rfl, rfl, rfl⟩
  exact ⟨returns, ⟨_, message, c, rfl, ran, offers (.inr rfl)⟩,
    escapes _ (fun _ _ => rfl) naming _ _ _ (by decide) waits rfl⟩

end Dialogue
