import Mathlib.Logic.Basic
import Dialogue.Flow.Turn
import Dialogue.Proofs.Text.Words

/-!
# Commands to cancel

An input asks to cancel when, folded, it is a folded command or goes on behind one with a plain
blank. So its words begin with those of the command, and no command is found in a longer word.

The converse depends on the blanks. Where words are parted by single plain blanks, an input that
begins with the words of a command asks to cancel. Any other blank right behind the command, such as
the end of a line, hides it: `not_cancels_tab`.

Main statements: `isCancel_iff_continues` and `cancels_of_commands`.
-/

namespace Dialogue.Turn

open Text

/-- The words of a folded input begin with the words of a folded command. -/
def BeginsWithCommand (commands : List String) (input : String) : Prop :=
  ∃ command ∈ commands, words (fold command) <+: words (fold input)

/-- An input asks to cancel when it goes on behind a command, where the commands are folded. -/
theorem isCancel_iff_continues {commands : List String} {input : String} :
    isCancel commands input = true ↔
      input ≠ "" ∧ ∃ command ∈ commands, Continues (fold input) command := by
  have goesOn (command : String) : (command.toList ++ [' ']).isPrefixOf (fold input).toList = true ↔
      ∃ rest, fold input = command ++ " " ++ rest := by
    rw [List.isPrefixOf_iff_prefix]
    constructor
    · rintro ⟨rest, shape⟩
      exact ⟨String.ofList rest, String.toList_inj.1 (by simp [← shape])⟩
    · rintro ⟨rest, shape⟩
      exact ⟨rest.toList, by simp [shape]⟩
  simp only [isCancel, Continues, Bool.and_eq_true, List.any_eq_true, Bool.or_eq_true,
    decide_eq_true_eq, goesOn]

/-- Where no command folds to nothing, the empty input needs no mention. -/
theorem isCancel_map_fold_iff {commands : List String}
    (filled : ∀ command ∈ commands, fold command ≠ "") {input : String} :
    isCancel (commands.map fold) input = true ↔
      ∃ command ∈ commands, Continues (fold input) (fold command) := by
  simp only [isCancel_iff_continues, List.mem_map, exists_exists_and_eq_and]
  refine and_iff_right_of_imp ?_
  have nothing : fold "" = "" := rfl
  rintro ⟨command, mem, same | ⟨rest, longer⟩⟩ rfl
  · exact filled command mem (same.symm.trans nothing)
  · have length := congrArg String.length (nothing.symm.trans longer)
    have blank : " ".length = 1 := rfl
    simp only [String.length_append, String.length_empty] at length
    omega

/-- **Which inputs ask to cancel**, for commands that do not fold to nothing. An input does exactly
when, folded, it is a folded command or goes on behind it with a plain blank. Its words then begin
with those of the command. Conversely, an input that begins with the words of a command asks to
cancel, where the input and the commands are evenly spaced when they are folded. -/
theorem cancels_of_commands {commands : List String}
    (filled : ∀ command ∈ commands, fold command ≠ "") (input : String) :
    (isCancel (commands.map fold) input = true ↔
        ∃ command ∈ commands, Continues (fold input) (fold command)) ∧
      (isCancel (commands.map fold) input = true → BeginsWithCommand commands input) ∧
      ((∀ command ∈ commands, EvenlySpaced (fold command)) → EvenlySpaced (fold input) →
        (isCancel (commands.map fold) input = true ↔ BeginsWithCommand commands input)) := by
  have begins : isCancel (commands.map fold) input = true → BeginsWithCommand commands input := by
    intro cancels
    obtain ⟨command, mem, continues⟩ := (isCancel_map_fold_iff filled).1 cancels
    exact ⟨command, mem, continues.words_prefix⟩
  refine ⟨isCancel_map_fold_iff filled, begins, fun even even' => ⟨begins, ?_⟩⟩
  rintro ⟨command, mem, first⟩
  refine (isCancel_map_fold_iff filled).2 ⟨command, mem, ?_⟩
  exact even'.continues (even command mem) (filled command mem) first

/-- A command of one word and one of two words. -/
def spoken : List String := ["Atras", "Menu principal"]

/-- Case does not matter, nor what is said behind a command. -/
theorem cancels_of_commands_spoken :
    (∀ command ∈ spoken, fold command ≠ "" ∧ EvenlySpaced (fold command)) ∧
      EvenlySpaced (fold "  MENU Principal por favor") ∧
      BeginsWithCommand spoken "  MENU Principal por favor" ∧
      isCancel (spoken.map fold) "  MENU Principal por favor" = true := by
  have back : fold "Atras" = "atras" := by decide +kernel
  have menu : fold "Menu principal" = "menu principal" := by decide +kernel
  have said : fold "  MENU Principal por favor" = "menu principal por favor" := by decide +kernel
  have commands : ∀ command ∈ spoken, fold command ≠ "" ∧ EvenlySpaced (fold command) := by
    refine List.forall_mem_cons.2 ⟨?_, List.forall_mem_singleton.2 ?_⟩
    · rw [back]
      exact ⟨by decide, ["atras"], by decide, by decide⟩
    · rw [menu]
      exact ⟨by decide, ["menu", "principal"], by decide, by decide⟩
  have even : EvenlySpaced (fold "  MENU Principal por favor") := by
    rw [said]
    exact ⟨["menu", "principal", "por", "favor"], by decide, by decide⟩
  have begins : BeginsWithCommand spoken "  MENU Principal por favor" := by
    refine ⟨"Menu principal", by decide, ?_⟩
    rw [menu, said]
    decide
  obtain ⟨-, -, same⟩ := cancels_of_commands (fun command mem => (commands command mem).1)
    "  MENU Principal por favor"
  exact ⟨commands, even, begins, (same (fun command mem => (commands command mem).2) even).2 begins⟩

/-- A tab behind a command hides it. -/
theorem not_cancels_tab :
    ¬ (isCancel (["salir"].map fold) "salir\tya" = true ↔
      BeginsWithCommand ["salir"] "salir\tya") := by
  have hidden : isCancel (["salir"].map fold) "salir\tya" = false := by decide +kernel
  have begins : BeginsWithCommand ["salir"] "salir\tya" :=
    ⟨"salir", List.mem_cons_self, by decide +kernel⟩
  rw [hidden]
  exact fun same => Bool.false_ne_true (same.2 begins)

end Dialogue.Turn
