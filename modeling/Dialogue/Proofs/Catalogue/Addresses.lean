import Dialogue.Catalogue.Quotation
import Dialogue.Proofs.Regex.Flat
import Dialogue.Proofs.Text.Trimmed

/-!
# Mail addresses

What counts as a mail address is written as a pattern. It accepts exactly the texts that are, apart
from blanks around them, a name, a single at sign and a domain, where the domain has a point inside.
There may be further points anywhere, and no blank.

The pattern would also accept a line feed behind the address, but none is left there: blanks are
trimmed before, and a line feed is one.

Main statements: `reads_addressPattern_iff`, what the pattern reads, and `isEmail_iff_isAddress`.
-/

namespace Dialogue.Catalogue.Quotation

open Regex Text

/-- A name, one at sign and a domain with a point inside, without any blank. -/
structure IsAddress (text : List Char) : Prop where
  unbroken : ∀ c ∈ text, isBlank c = false
  single : text.count '@' = 1
  parts : ∃ name domain, text = name ++ '@' :: domain ∧ name ≠ [] ∧
    ∃ i, domain[i]? = some '.' ∧ 0 < i ∧ i + 1 < domain.length

/-! ## What the pattern reads -/

/-- One or more characters of an address: no blank and no at sign. -/
def Addressing (cs : List Char) : Prop := cs ≠ [] ∧ ∀ c ∈ cs, isBlank c = false ∧ c ≠ '@'

variable {before read after : List Char}

theorem holds_addressChar (c : Char) :
    (CharTest.set [.category .blank false, .one '@'.toNat] true).holds exactly c = true ↔
      isBlank c = false ∧ c ≠ '@' := by
  have same : c.toNat = 64 ↔ c = '@' := Char.toNat_inj (d := '@')
  simp [CharTest.holds, SetItem.holds, Category.holds, sameCode, exactly, same]

theorem reads_addressChars_iff : addressChars.Reads before read after ↔ Addressing read := by
  constructor
  · rintro ⟨test, mode, leaf, some_, -, each⟩
    cases leaf
    exact ⟨List.length_pos_iff.1 some_, fun c mem => (holds_addressChar c).1 (each c mem)⟩
  · rintro ⟨some_, each⟩
    exact ⟨_, _, rfl, List.length_pos_iff.2 some_, nofun,
      fun c mem => (holds_addressChar c).2 (each c mem)⟩

theorem reads_code_iff (written : Char) :
    (Node.char (.code written.toNat false) exactly).Reads before read after ↔
      read = [written] := by
  have same (c : Char) : (CharTest.code written.toNat false).holds exactly c = true ↔
      c = written := by
    simp [CharTest.holds, sameCode, exactly, Char.toNat_inj]
  constructor
  · rintro ⟨c, rfl, holds⟩
    rw [(same c).1 holds]
  · rintro rfl
    exact ⟨written, rfl, (same written).2 rfl⟩

/-- The last line ends where the text does, or in front of a line feed at its end. -/
theorem reads_lastLineEnd_iff :
    (Node.anchor .lastLineEnd exactly).Reads before read after ↔
      read = [] ∧ (after = [] ∨ after = ['\n']) := by
  refine and_congr_right fun _ => ?_
  cases after with
  | nil => simp [Anchor.holdsAt]
  | cons c rest =>
    cases rest with
    | nil => simp [Anchor.holdsAt]
    | cons d rest => simp [Anchor.holdsAt]

/-- **What the pattern of mail addresses reads** from the start of a text: characters around an at
sign and a point, up to the end or to a line feed at the end. -/
theorem reads_addressPattern_iff :
    addressPattern.Reads [] read after ↔ (∃ name host ending,
      read = name ++ '@' :: (host ++ '.' :: ending) ∧
        Addressing name ∧ Addressing host ∧ Addressing ending) ∧
      (after = [] ∨ after = ['\n']) := by
  constructor
  · rintro ⟨_, _, rfl, ⟨rfl, -⟩, name, _, rfl, named, _, _, rfl, at_, host, _, rfl, hosted,
      _, _, rfl, point, ending, _, rfl, ended, ends⟩
    obtain ⟨rfl, closes⟩ := reads_lastLineEnd_iff.1 ends
    cases (reads_code_iff '@').1 at_
    cases (reads_code_iff '.').1 point
    refine ⟨⟨name, host, ending, by simp, ?_, ?_, ?_⟩, closes⟩
    · exact reads_addressChars_iff.1 named
    · exact reads_addressChars_iff.1 hosted
    · exact reads_addressChars_iff.1 ended
  · rintro ⟨⟨name, host, ending, rfl, named, hosted, ended⟩, ends⟩
    refine ⟨[], _, rfl, ⟨rfl, rfl⟩, name, _, rfl, reads_addressChars_iff.2 named, ['@'], _, rfl,
      (reads_code_iff '@').2 rfl, host, _, rfl, reads_addressChars_iff.2 hosted, ['.'], _, rfl,
      (reads_code_iff '.').2 rfl, ending, [], by simp, reads_addressChars_iff.2 ended, ?_⟩
    exact reads_lastLineEnd_iff.2 ⟨rfl, ends⟩

/-! ## Addresses -/

/-- A trimmed text does not end with a blank. -/
theorem isBlank_of_trimmed {s : String} {front : List Char} {c : Char}
    (ends : (strip s).toList = front ++ [c]) : isBlank c = false := by
  refine (trimmed_trimChars s.toList).2 c ?_
  rw [← toList_strip, ends, List.getLast?_concat]
  rfl

theorem Addressing.count_eq_zero {cs : List Char} (each : Addressing cs) : cs.count '@' = 0 :=
  List.count_eq_zero_of_not_mem fun mem => (each.2 _ mem).2 rfl

/-- **An address is cut** at its at sign and at a point behind it. -/
theorem isAddress_iff {text : List Char} : IsAddress text ↔ ∃ name host ending,
    text = name ++ '@' :: (host ++ '.' :: ending) ∧
      Addressing name ∧ Addressing host ∧ Addressing ending := by
  constructor
  · rintro ⟨unbroken, single, name, domain, rfl, some_, i, point, first, last⟩
    obtain ⟨within, point⟩ := List.getElem?_eq_some_iff.1 point
    have cut : domain.take i ++ '.' :: domain.drop (i + 1) = domain := by
      rw [← point, List.getElem_cons_drop, List.take_append_drop]
    have apart : '@' ∉ name ++ domain := by
      rw [List.count_append, List.count_cons_self] at single
      rw [← List.count_eq_zero, List.count_append]
      omega
    have address (cs : List Char) (filled : cs ≠ []) (part : cs ⊆ name ++ domain) :
        Addressing cs := by
      refine ⟨filled, fun c mem => ⟨unbroken c ?_, ?_⟩⟩
      · rcases List.mem_append.1 (part mem) with mem | mem
        · exact List.mem_append_left _ mem
        · exact List.mem_append_right _ (List.mem_cons_of_mem _ mem)
      · rintro rfl
        exact apart (part mem)
    refine ⟨name, domain.take i, domain.drop (i + 1), by rw [cut], ?_, ?_, ?_⟩
    · exact address _ some_ (List.subset_append_left _ _)
    · refine address _ ?_ fun c mem => List.mem_append_right _ (List.mem_of_mem_take mem)
      rw [← List.length_pos_iff, List.length_take]
      omega
    · refine address _ ?_ fun c mem => List.mem_append_right _ (List.mem_of_mem_drop mem)
      rw [← List.length_pos_iff, List.length_drop]
      omega
  · rintro ⟨name, host, ending, rfl, named, hosted, ended⟩
    refine ⟨fun c mem => ?_, ?_, name, _, rfl, named.1, host.length, by simp, ?_, ?_⟩
    · simp only [List.mem_append, List.mem_cons] at mem
      rcases mem with mem | rfl | mem | rfl | mem
      · exact (named.2 c mem).1
      · decide
      · exact (hosted.2 c mem).1
      · decide
      · exact (ended.2 c mem).1
    · simp [named.count_eq_zero, hosted.count_eq_zero, ended.count_eq_zero]
    · exact List.length_pos_iff.2 hosted.1
    · simpa using List.length_pos_iff.2 ended.1

/-- **What counts as a mail address**: between blanks, a name, one at sign and a domain with a point
that is neither its first nor its last character. -/
theorem isEmail_iff_isAddress (value : String) :
    isEmail value = true ↔ IsAddress (strip value).toList := by
  have flat : addressPattern.isFlat = true := rfl
  rw [isEmail, matched_matchFrom_iff flat (Nat.zero_le _), isAddress_iff]
  simp only [List.drop_zero, List.take_zero, reads_addressPattern_iff]
  constructor
  · rintro ⟨read, after, cut, address, rfl | rfl⟩
    · rwa [cut, List.append_nil]
    · exact absurd (isBlank_of_trimmed cut) (by decide)
  · intro address
    exact ⟨_, [], (List.append_nil _).symm, address, .inl rfl⟩

/-- A line feed at the end is trimmed, and a point may end the domain when another stands inside. -/
example : isEmail "ana@mail.com.ar\n" = true ∧ isEmail "ana@mail.com." = true ∧
    isEmail "ana@mail." = false := by decide +kernel

end Dialogue.Catalogue.Quotation
