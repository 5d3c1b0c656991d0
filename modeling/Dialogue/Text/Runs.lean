/-!
# Sets of code points written as run lengths

A set of code points is written as a list of lengths. Runs outside the set and runs inside it take
turns, beginning outside at code point 0, so `[48, 10]` is the set of the ten digits. `inRuns`
reads such a list from the left and stops as soon as the code point is passed.

Main statements: `inRuns_of_lt` and `inRuns_add` shift the question along the list.
-/

namespace Dialogue.Text

/-- Membership in the set that a list of run lengths describes. -/
def inRuns : List Nat → Nat → Bool
  | outside :: inside :: rest, c =>
    if c < outside then false
    else if c < outside + inside then true
    else inRuns rest (c - (outside + inside))
  | _, _ => false

/-- How far `c` lies behind the start of the run that holds it. -/
def offsetInRun : List Nat → Nat → Option Nat
  | outside :: inside :: rest, c =>
    if c < outside then none
    else if c < outside + inside then some (c - outside)
    else offsetInRun rest (c - (outside + inside))
  | _, _ => none

theorem inRuns_of_lt {outside inside c : Nat} {rest : List Nat} (h : c < outside) :
    inRuns (outside :: inside :: rest) c = false := by
  simp [inRuns, h]

theorem inRuns_add (outside inside c : Nat) (rest : List Nat) :
    inRuns (outside :: inside :: rest) (outside + inside + c) = inRuns rest c := by
  have h₁ : ¬ outside + inside + c < outside := by omega
  have h₂ : ¬ outside + inside + c < outside + inside := by omega
  simp [inRuns, h₁, h₂]

theorem isSome_offsetInRun (runs : List Nat) (c : Nat) :
    (offsetInRun runs c).isSome = inRuns runs c := by
  fun_induction inRuns runs c with
  | case1 _ _ _ _ h => simp [offsetInRun, h]
  | case2 _ _ _ _ h₁ h₂ => simp [offsetInRun, h₁, h₂]
  | case3 _ _ _ _ h₁ h₂ ih => simpa [offsetInRun, h₁, h₂] using ih
  | case4 runs _ h => cases runs with
    | nil => rfl
    | cons a rest => cases rest with
      | nil => rfl
      | cons b rest => exact absurd rfl (h a b rest)

end Dialogue.Text
