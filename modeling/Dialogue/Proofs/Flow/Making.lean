import Dialogue.Proofs.Content.Channel
import Dialogue.Proofs.Content.Labelled
import Dialogue.Proofs.Flow.Showing
import Dialogue.Proofs.Flow.Service

/-!
# Prompts that make their contents

A prompt *makes* its contents when whatever it shows was put together from parts that are cut to the
limits of the channel. The prompts of definitions make, whatever the stores hold and whatever is
filled into their texts, and so do those of the built-in flows. Where all prompts make, the channel
takes what a turn shows.

Main statements: `makes_prompt` and `makes_builtins`; `suits_of_start` and `suits_of_answer`.
-/

namespace Dialogue

open Effect Lookup

/-- Whatever a prompt shows was made. -/
def Prompt.Makes : Prompt → Prop
  | .missing => True
  | .fixed content => content.IsMade
  | .resolved _ resolve => ∀ data, Gives Content.IsMade (resolve data)

/-! ## Parts -/

/-- What is computed for each of some items has a property. -/
theorem forall_of_mapM {α β : Type} {f : α → Except Fault β} {P : β → Prop}
    (each : ∀ a b, f a = .ok b → P b) {items : List α} {results : List β}
    (ran : items.mapM f = .ok results) : ∀ b ∈ results, P b := by
  induction items generalizing results with
  | nil =>
    cases ran
    nofun
  | cons a items ih =>
    rw [List.mapM_cons] at ran
    obtain ⟨b, first, ran⟩ := bind_eq_ok_iff.1 ran
    obtain ⟨others, rest, ran⟩ := bind_eq_ok_iff.1 ran
    cases ran
    exact List.forall_mem_cons.2 ⟨each a b first, ih rest⟩

theorem Button.isMade_of_read {value : Json} {b : Button} (read : Button.read value = .good b) :
    b.IsMade := by
  unfold Button.read Checked.asRecord at read
  split at read
  · obtain ⟨withId, title, known, -, made⟩ := Checked.good_of_seq read
    obtain ⟨id, -, rfl⟩ := Checked.good_of_map known
    exact ⟨id, title, made.symm⟩
  · cases read

theorem Row.isMade_of_read {value : Json} {r : Row} (read : Row.read value = .good r) :
    r.IsMade := by
  unfold Row.read Checked.asRecord at read
  split at read
  · obtain ⟨withTitle, description, known, -, made⟩ := Checked.good_of_seq read
    obtain ⟨withId, title, named, -, rfl⟩ := Checked.good_of_seq known
    obtain ⟨id, -, rfl⟩ := Checked.good_of_map named
    exact ⟨id, title, description, made.symm⟩
  · cases read

/-! ## Prompts of definitions -/

namespace Definition

theorem isMade_of_buttonOf {option : Fields} {b : Button} (made : buttonOf option = .ok b) :
    b.IsMade := by
  unfold buttonOf at made
  obtain ⟨id, -, made⟩ := bind_eq_ok_iff.1 made
  obtain ⟨title, -, made⟩ := bind_eq_ok_iff.1 made
  obtain ⟨short, -, made⟩ := bind_eq_ok_iff.1 made
  exact Button.isMade_of_read (Checked.good_of_orFault made)

theorem isMade_of_rowOf {option : Fields} {r : Row} (made : rowOf option = .ok r) : r.IsMade := by
  unfold rowOf at made
  obtain ⟨id, -, made⟩ := bind_eq_ok_iff.1 made
  obtain ⟨title, -, made⟩ := bind_eq_ok_iff.1 made
  obtain ⟨short, -, made⟩ := bind_eq_ok_iff.1 made
  dsimp only at made
  split at made
  · obtain ⟨description, -, made⟩ := bind_eq_ok_iff.1 made
    exact Row.isMade_of_read (Checked.good_of_orFault made)
  · exact Row.isMade_of_read (Checked.good_of_orFault made)

/-- Grouping keeps what holds of every row. -/
theorem forall_groupRows {P : Row → Prop} {rows : List (Option String × Row)}
    (each : ∀ labelled ∈ rows, P labelled.2) : ∀ s ∈ groupRows rows, ∀ r ∈ s.rows, P r := by
  intro s mem r row
  rw [groupRows_eq] at mem
  obtain ⟨label, -, rfl⟩ := List.mem_map.1 mem
  obtain ⟨labelled, under, rfl⟩ := List.mem_map.1 row
  exact each labelled (List.mem_of_mem_filter under)

theorem isMade_written (s : Step) : s.written.IsMade := by
  unfold Step.written
  dsimp only
  split
  · refine .buttons _ _ _ fun b mem => ?_
    obtain ⟨choice, -, rfl⟩ := List.mem_map.1 mem
    exact ⟨_, _, rfl⟩
  · refine .list _ _ _ _ (forall_groupRows fun labelled mem => ?_)
    obtain ⟨choice, -, rfl⟩ := List.mem_map.1 mem
    exact ⟨_, _, _, rfl⟩
  · refine .list _ _ _ _ (forall_groupRows fun labelled mem => ?_)
    obtain ⟨choice, -, rfl⟩ := List.mem_map.1 mem
    exact ⟨_, _, _, rfl⟩
  · exact .text _

theorem gives_offered (s : Step) (name : String) (source : OptionSource) (data : Fields) :
    Gives Content.IsMade (s.offered name source data) := by
  have list : Gives Content.IsMade (do
      let options ← source name data
      let rows ← Lookup.ofExcept ((options.take Limit.rows).mapM rowOf)
      return .ofList (Frame.of (Template.fill data s.body) (s.header.map (Template.fill data))
        (s.footer.map (Template.fill data))) s.label
          [Section.of (some Wording.sectionTitle) rows]) := by
    refine gives_bind_of_last fun options => gives_bind
      (gives_ofExcept fun rows ran => forall_of_mapM (fun _ _ => isMade_of_rowOf) ran)
      fun rows each => gives_pure (.list _ _ _ _ fun section_ mem => ?_)
    rw [List.mem_singleton.1 mem]
    exact each
  unfold Step.offered
  dsimp only
  split
  · exact gives_pure (.text _)
  · exact gives_pure (.text _)
  · exact gives_bind_of_last fun options => gives_bind
      (gives_ofExcept fun choices ran => forall_of_mapM (fun _ _ => isMade_of_buttonOf) ran)
      fun choices each => gives_pure (.buttons _ _ _ each)
  · exact list
  · exact list

/-- **The prompts of definitions make.** -/
theorem makes_prompt (s : Step) (source : OptionSource) : (s.prompt source).Makes := by
  unfold Step.prompt
  cases present? s.source with
  | none => exact isMade_written s
  | some name => exact gives_offered s name source

end Definition

/-! ## Prompts of the built-in flows -/

namespace Catalogue

theorem Menu.isMade_storeList (body : String) (stores : List Store) :
    (Menu.storeList body stores).IsMade := by
  unfold Menu.storeList
  dsimp only
  split
  all_goals
    refine .list _ _ _ _ fun section_ mem r row => ?_
    rw [List.mem_singleton.1 mem] at row
  · exact ⟨_, _, _, List.mem_singleton.1 row⟩
  · obtain ⟨store, -, rfl⟩ := List.mem_map.1 row
    exact ⟨_, _, _, rfl⟩

theorem Menu.gives_storePrompt (stores : StoreDirectory) (data : Fields) :
    Gives Content.IsMade (Menu.storePrompt stores data) := by
  refine gives_bind_of_last fun found => ?_
  split
  · exact gives_bind_of_last fun all => gives_pure (Menu.isMade_storeList _ all)
  · exact gives_pure (Menu.isMade_storeList _ _)

theorem Menu.gives_handOffPrompt (stores : StoreDirectory) (data : Fields) :
    Gives Content.IsMade (Menu.handOffPrompt stores data) :=
  gives_bind_of_last fun _ => gives_pure (.text _)

theorem rowMade_of (id title : String) (description : Option String) :
    (Row.of id title description).IsMade := ⟨id, title, description, rfl⟩

theorem buttonMade_of (id title : String) : (Button.of id title).IsMade := ⟨id, title, rfl⟩

theorem Menu.makes_flow (stores : StoreDirectory) :
    (Menu.flow stores).EveryPrompt Prompt.Makes := by
  intro entry mem
  obtain ⟨s, listed, rfl⟩ := List.mem_map.1 mem
  simp only [Menu.steps, List.mem_cons, List.not_mem_nil, or_false] at listed
  rcases listed with rfl | rfl | rfl | rfl | rfl | rfl
  · exact fun data => gives_pure (.buttons _ _ _ (by simp [buttonMade_of]))
  · exact .buttons _ _ _ (by simp [buttonMade_of])
  · exact .text _
  · exact .list _ _ _ _ (by simp [RowsMade, Menu.zoneSection, Section.of, rowMade_of])
  · exact Menu.gives_storePrompt stores
  · exact Menu.gives_handOffPrompt stores

theorem Quotation.makes_flow : Quotation.flow.EveryPrompt Prompt.Makes := by
  intro entry mem
  obtain ⟨s, listed, rfl⟩ := List.mem_map.1 mem
  simp only [Quotation.steps, List.mem_cons, List.not_mem_nil, or_false] at listed
  rcases listed with rfl | rfl | rfl | rfl | rfl | rfl | rfl
  · exact .list _ _ _ _ (by simp [RowsMade, Section.of, rowMade_of])
  · exact .text _
  · exact .text _
  · exact .buttons _ _ _ (by simp [buttonMade_of])
  · exact .text _
  · exact .buttons _ _ _ (by simp [buttonMade_of])
  · exact .text _

theorem Topics.makes_flow : Topics.flow.EveryPrompt Prompt.Makes := by
  intro entry mem
  obtain ⟨s, listed, rfl⟩ := List.mem_map.1 mem
  simp only [Topics.steps, List.mem_cons, List.mem_append, List.mem_map, List.not_mem_nil,
    or_false] at listed
  rcases listed with (rfl | ⟨topic, -, rfl⟩) | rfl
  · exact .list _ _ _ _ (by simp [RowsMade, Section.of, rowMade_of])
  · exact .text _
  · exact .buttons _ _ _ (by simp [buttonMade_of])

theorem FirstContact.makes_flow : FirstContact.flow.EveryPrompt Prompt.Makes := by
  intro entry mem
  obtain ⟨s, listed, rfl⟩ := List.mem_map.1 mem
  simp only [FirstContact.steps, List.mem_cons, List.not_mem_nil, or_false] at listed
  rcases listed with rfl | rfl
  · exact .text _
  · exact fun data => gives_pure (.buttons _ _ _ (by simp [buttonMade_of]))

end Catalogue

/-- **The built-in flows make their contents.** -/
theorem Registry.makes_builtins (stores : StoreDirectory) :
    Registry.EveryPrompt Prompt.Makes (Catalogue.builtins stores) := by
  refine everyPrompt_of_mem fun entry mem => ?_
  simp only [Catalogue.builtins, List.mem_cons, List.not_mem_nil, or_false] at mem
  rcases mem with rfl | rfl | rfl | rfl
  · exact Catalogue.Menu.makes_flow stores
  · exact Catalogue.Quotation.makes_flow
  · exact Catalogue.Topics.makes_flow
  · exact Catalogue.FirstContact.makes_flow

/-! ## Turns -/

/-- The channel takes a message, and it goes where an address says. -/
structure Message.Suits (m : Message) (address : Address) : Prop where
  recipient : m.recipient = address.recipient
  via : m.via = address.via
  content : m.content.Suits

theorem Message.suits_of_make {content : Content} {address : Address} {m : Message}
    (isMade : content.IsMade) (made : make address.recipient content address.via = .ok m) :
    m.Suits address := by
  obtain ⟨-, recipient, via⟩ := recipient_ne_empty_of_make made
  refine ⟨recipient, via, ?_⟩
  rw [content_of_make made]
  exact Content.suits_deliverable isMade

theorem Message.suits_of_ofText {body : String} {address : Address} {m : Message}
    (made : ofText address.recipient body address.via = .ok m) : m.Suits address :=
  suits_of_make (.text body) made

theorem Message.Suits.withNotice {m : Message} {address : Address} (suits : m.Suits address)
    (notice : String) : (m.withNotice notice).Suits address :=
  ⟨suits.recipient, suits.via, Content.suits_withNotice notice suits.content⟩

namespace Turn

variable {registry : Registry} (address : Address)

/-- The channel takes what a turn shows. -/
def Suits (t : Turn) : Prop := t.message.Suits address

/-- The channel takes what a turn shows, if there is one. -/
def Suit? (t? : Option Turn) : Prop := ∀ t ∈ t?, t.Suits address

theorem gives_content {step : Step} (makes : step.prompt.Makes) (data : Fields) :
    Gives Content.IsMade (step.content data) := by
  unfold Step.content
  split
  · exact gives_pure (.text _)
  · next content prompt =>
    rw [prompt] at makes
    exact gives_pure makes
  · next resolve prompt =>
    rw [prompt] at makes
    exact makes data

theorem gives_render {step : Step} (makes : step.prompt.Makes) (data : Fields) :
    Gives (·.Suits address) (render address step data) :=
  gives_bind (gives_content makes data) fun _ made =>
    gives_ofExcept fun _ => Message.suits_of_make made

theorem displays_makes : Displays Prompt.Makes (·.Suits address) address where
  prompt _ makes data := gives_render address makes data
  text _ _ := Message.suits_of_ofText
  notice notice _ suits := suits.withNotice notice

variable (makes : registry.EveryPrompt Prompt.Makes)

include makes

/-- **Starting a flow shows what the channel takes.** -/
theorem suits_of_start (code : Option String) (data : Fields) :
    Gives (Suit? address) (start registry address code data) :=
  fun _ _ _ ran t given => (gives_start (displays_makes address) makes code data ran t given).1

/-- **Answering a step shows what the channel takes.** -/
theorem suits_of_answer (p : Position) (input : String) (kind : Except Fault InputKind) :
    Gives (Suit? address) (answer registry address p input kind) :=
  fun _ _ _ ran t given => (gives_answer (displays_makes address) makes p input kind ran t given).1

end Turn

end Dialogue
