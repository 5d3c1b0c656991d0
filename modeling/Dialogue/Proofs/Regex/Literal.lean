import Mathlib.Data.List.Forall2
import Dialogue.Regex.Reader
import Dialogue.Proofs.Regex.Flat

/-!
# Literal patterns

A pattern without special characters is read as the row of its characters. A search for it finds it
wherever its characters stand one behind the other, each as it is written or, where case is ignored,
in the other case. No such place is left out: a search tries all places, except those that are too
close to the end and those where the first character is another.

Main statements: `compile_literal`, how such a pattern is read, and `search_literal`.
-/

namespace Dialogue.Regex

open Step

/-- The characters that stand for something else in a pattern. -/
def specials : List Char := ['\\', '[', '.', '^', '$', '(', ')', '?', '*', '+', '\x7b', '|']

/-- A character that stands for something else in a pattern. -/
def isSpecial (c : Char) : Bool := specials.contains c

/-- A pattern without special characters. -/
def Literal (cs : List Char) : Prop := ∀ c ∈ cs, isSpecial c = false

theorem Literal.tail {c : Char} {cs : List Char} (literal : Literal (c :: cs)) : Literal cs :=
  fun d mem => literal d (List.mem_cons_of_mem c mem)

theorem Literal.ne {c d : Char} {cs : List Char} (literal : Literal (c :: cs))
    (special : isSpecial d = true) : c ≠ d := by
  rintro rfl
  simp [literal c List.mem_cons_self] at special

/-! ## Reading -/

/-- The state behind the rest of the pattern. -/
def Scan.atEnd (s : Scan) : Scan := { s with rest := [], place := s.place + s.rest.length }

section Reading

variable {α β : Type} {s t : Scan} {c : Char} {cs : List Char}

theorem run_bind_of_ok {x : Step α} {f : α → Step β} {a : α} (ran : x.run s = .ok (a, t)) :
    (x >>= f).run s = (f a).run t := by
  rw [StateT.run_bind, ran]
  rfl

theorem run_get : (get : Step Scan).run s = .ok (s, s) := rfl

theorem run_modify (f : Scan → Scan) : (modify f : Step Unit).run s = .ok ((), f s) := rfl

theorem run_peek_nil (rest : s.rest = []) : peek.run s = .ok (none, s) := by
  unfold peek
  rw [run_bind_of_ok run_get, rest]
  rfl

theorem run_peek (rest : s.rest = c :: cs) (literal : Literal (c :: cs)) :
    peek.run s = .ok (some (.plain c), s) := by
  have plain : c ≠ '\\' := literal.ne (by decide)
  unfold peek
  rw [run_bind_of_ok run_get, rest]
  split
  · next none_ => cases none_
  · next escape =>
    cases escape
    exact absurd rfl plain
  · next shape =>
    cases shape
    rfl

theorem run_checkTail (literal : Literal s.rest) : checkTail.run s = .ok ((), s) := by
  have tail : s.rest ≠ ['\\'] := by
    intro lone
    rw [lone] at literal
    exact literal.ne (d := '\\') (by decide) rfl
  unfold checkTail
  rw [run_bind_of_ok run_get, if_neg tail]
  rfl

theorem run_take (rest : s.rest = c :: cs) (literal : Literal (c :: cs)) :
    take.run s = .ok (some (.plain c), { s with rest := cs, place := s.place + 1 }) := by
  unfold take
  rw [run_bind_of_ok (run_peek rest literal)]
  show (modify _ >>= _ : Step _).run s = _
  rw [run_bind_of_ok (run_modify _)]
  dsimp only
  rw [rest, List.drop_one, List.tail_cons, run_bind_of_ok (run_checkTail literal.tail)]
  rfl

theorem run_accept_nil (rest : s.rest = []) (d : Char) : (accept d).run s = .ok (false, s) := by
  unfold accept
  rw [run_bind_of_ok (run_peek_nil rest)]
  rfl

/-- The piece that a character of a literal pattern is read as. -/
def literalPiece (options : Options) (c : Char) : Piece := ⟨codeLeaf options c.toNat, .other⟩

/-- **A row of plain characters** is read to its end. -/
theorem run_readRow {front : Bool} {fuel : Nat} {pieces : List Piece} (literal : Literal s.rest)
    (terse : s.options.verbose = false) (enough : s.rest.length < fuel) :
    (readRow front fuel pieces).run s =
      .ok (rowOf ((s.rest.map (literalPiece s.options)).reverse ++ pieces), s.atEnd) := by
  induction fuel generalizing pieces s with
  | zero => omega
  | succ fuel ih =>
    rw [readRow]
    cases rest : s.rest with
    | nil =>
      rw [run_bind_of_ok (run_peek_nil rest)]
      cases s
      cases rest
      rfl
    | cons c cs =>
      rw [rest] at literal enough
      rw [run_bind_of_ok (run_peek rest literal)]
      split
      · next none_ => cases none_
      · next bar => exact absurd (Token.plain.inj (Option.some.inj bar)) (literal.ne rfl)
      · next close => exact absurd (Token.plain.inj (Option.some.inj close)) (literal.ne rfl)
      · next token _ _ read =>
        cases read
        rw [run_bind_of_ok run_get, run_bind_of_ok run_get, run_bind_of_ok (run_take rest literal)]
        -- No operator stands here, so the character is a piece of its own.
        have plain (d : Char) (special : isSpecial d = true) : c ≠ d := literal.ne special
        simp only [terse, Bool.false_and, Bool.false_eq_true, if_false]
        rw [if_neg (plain '[' rfl), if_neg (plain '.' rfl), if_neg (plain '^' rfl),
          if_neg (plain '$' rfl), if_neg (plain '(' rfl), if_neg (plain '?' rfl),
          if_neg (plain '*' rfl), if_neg (plain '+' rfl), if_neg (plain '\x7b' rfl)]
        have further := @ih { s with rest := cs, place := s.place + 1 }
          (literalPiece s.options c :: pieces) literal.tail terse (Nat.lt_of_succ_lt_succ enough)
        have row : ((c :: cs).map (literalPiece s.options)).reverse ++ pieces =
            (cs.map (literalPiece s.options)).reverse ++ literalPiece s.options c :: pieces := by
          rw [List.map_cons, List.reverse_cons, List.append_assoc, List.singleton_append]
        have place : s.place + (c :: cs).length = s.place + 1 + cs.length := by
          rw [List.length_cons, Nat.add_comm cs.length, Nat.add_assoc]
        rw [row, Scan.atEnd, rest, place]
        exact further

theorem run_accept_atEnd (d : Char) : (accept d).run s.atEnd = .ok (false, s.atEnd) :=
  run_accept_nil rfl d

theorem run_within {step : Step α} {levels : Nat} {a : α} (shallow : s.depth + levels ≤ deepest)
    (ran : step.run { s with depth := s.depth + levels } = .ok (a, t)) :
    (Step.within levels step).run s = .ok (a, { t with depth := s.depth }) := by
  unfold Step.within
  rw [run_bind_of_ok run_get, if_neg (Nat.not_lt.2 shallow)]
  show (modify _ >>= _ : Step _).run s = _
  rw [run_bind_of_ok (run_modify _), run_bind_of_ok ran, run_bind_of_ok (run_modify _)]
  rfl

/-- The leaves of a literal pattern in a row. -/
def literalRow (options : Options) (cs : List Char) : Node :=
  .row (cs.map fun c => codeLeaf options c.toNat)

theorem rowOf_literalPieces (options : Options) (cs : List Char) :
    rowOf ((cs.map (literalPiece options)).reverse ++ []) = literalRow options cs := by
  rw [rowOf, List.append_nil, List.reverse_reverse, List.flatMap_map, literalRow,
    List.map_eq_flatMap]
  rfl

theorem run_readOthers_atEnd (fuel : Nat) : (readOthers fuel).run s.atEnd = .ok ([], s.atEnd) := by
  cases fuel with
  | zero => rfl
  | succ fuel =>
    rw [readOthers, run_bind_of_ok (run_accept_atEnd '|')]
    rfl

/-- Without bars there is a single alternative. -/
theorem run_readAlternatives {top : Bool} {fuel : Nat} (literal : Literal s.rest)
    (terse : s.options.verbose = false) (enough : s.rest.length < fuel)
    (shallow : s.depth + 2 ≤ deepest) :
    (readAlternatives top (fuel + 1)).run s = .ok (literalRow s.options s.rest, s.atEnd) := by
  rw [readAlternatives]
  refine run_within (t := { s with depth := s.depth + 2 }.atEnd) shallow ?_
  rw [run_bind_of_ok (run_readRow (s := { s with depth := s.depth + 2 }) literal terse enough),
    run_bind_of_ok (run_readOthers_atEnd fuel), run_bind_of_ok run_get, alternatives_nil,
    rowOf_literalPieces]
  rfl

end Reading

/-! ## Rows of leaves -/

/-- What holds of a row when it holds of its pieces. -/
theorem Node.row_induction {motive : Node → Prop} {nodes : List Node} (empty : motive .empty)
    (cat : ∀ first second, motive first → motive second → motive (.cat first second))
    (each : ∀ node ∈ nodes, motive node) : motive (.row nodes) := by
  induction nodes with
  | nil => exact empty
  | cons node rest ih =>
    have head := each node List.mem_cons_self
    cases rest with
    | nil => exact head
    | cons next more =>
      exact cat _ _ head (ih fun other mem => each other (List.mem_cons_of_mem node mem))

theorem literalRow_induction {motive : Node → Prop} {options : Options} {cs : List Char}
    (empty : motive .empty)
    (cat : ∀ first second, motive first → motive second → motive (.cat first second))
    (leaf : ∀ code, motive (codeLeaf options code)) : motive (literalRow options cs) :=
  Node.row_induction empty cat (List.forall_mem_map.2 fun c _ => leaf c.toNat)

theorem isFlat_literalRow (options : Options) (cs : List Char) :
    (literalRow options cs).isFlat = true := by
  refine literalRow_induction (motive := fun node => node.isFlat = true) rfl ?_ fun _ => rfl
  exact fun _ _ head tail => Bool.and_eq_true_iff.2 ⟨head, tail⟩

theorem unsupported?_literalRow (template : Bool) (options : Options) (cs : List Char) :
    unsupported? template (literalRow options cs) = none := by
  refine literalRow_induction (motive := fun node => unsupported? template node = none) rfl ?_
    fun _ => rfl
  intro _ _ head tail
  rw [unsupported?, head, tail, Option.none_or]

theorem reachesTooFar_literalRow (options : Options) (cs : List Char) :
    reachesTooFar (literalRow options cs) = false := by
  refine literalRow_induction (motive := fun node => reachesTooFar node = false) rfl ?_ fun _ => rfl
  intro _ _ head tail
  rw [reachesTooFar, head, tail, Bool.or_false]

theorem width_literalRow_le (options : Options) (groups : GroupWidths) (cs : List Char) :
    ((literalRow options cs).width groups).1 ≤ cs.length := by
  induction cs with
  | nil => exact Nat.le_refl 0
  | cons c cs ih =>
    cases cs with
    | nil => exact Nat.le_refl 1
    | cons d cs =>
      refine Nat.le_trans (Nat.min_le_left _ _) ?_
      rw [List.length_cons, Nat.add_comm]
      exact Nat.add_le_add_right ih 1

/-- A whole pattern that is literal from its start on. -/
theorem run_readPattern (size : Nat) {s : Scan} (literal : Literal s.rest)
    (terse : s.options.verbose = false) (both : (s.options.ascii && s.options.unicode) = false)
    (enough : s.rest.length ≤ size) (shallow : s.depth = 0) (free : s.conditions = []) :
    (readPattern size).run s = .ok (⟨literalRow s.options s.rest,
      ((literalRow s.options s.rest).width s.widths).1, s.options.ascii⟩, s.atEnd) := by
  have deep : s.depth + 2 ≤ deepest := by
    rw [shallow]
    decide
  have read : (readAlternatives true (5 * size + 5)).run s =
      .ok (literalRow s.options s.rest, s.atEnd) :=
    run_readAlternatives literal terse (by omega) deep
  have both_ : ¬ (s.atEnd.options.ascii && s.atEnd.options.unicode) = true := by
    rw [Scan.atEnd, both]
    exact Bool.false_ne_true
  have whole : ¬ (!s.atEnd.rest.isEmpty) = true := Bool.false_ne_true
  have free' : s.atEnd.conditions = [] := free
  unfold readPattern
  rw [run_bind_of_ok (run_checkTail literal), run_bind_of_ok read, run_bind_of_ok run_get,
    if_neg both_]
  dsimp only
  rw [if_neg whole, free', List.find?_nil]
  dsimp only
  rw [unsupported?_literalRow]
  dsimp only
  rw [reachesTooFar_literalRow, if_neg Bool.false_ne_true]
  rfl

/-- The options at the start of a pattern. -/
def Options.start (ignoreCase : Bool) : Options := { Options.none with ignoreCase }

/-- The pattern that a text without special characters is read as. -/
def literalPattern (ignoreCase : Bool) (cs : List Char) : Pattern :=
  ⟨literalRow (.start ignoreCase) cs, ((literalRow (.start ignoreCase) cs).width []).1, false⟩

/-- **How a literal pattern is read**: as the row of its characters. -/
theorem compile_literal {pattern : String} (literal : Literal pattern.toList) (ignoreCase : Bool) :
    compile pattern ignoreCase = .ok (literalPattern ignoreCase pattern.toList) := by
  have read := run_readPattern pattern.length
    (s := ⟨pattern.toList, 0, 1, [], [], none, [], .start ignoreCase, 0⟩) literal rfl rfl
    (Nat.le_of_eq String.length_toList) rfl rfl
  unfold compile
  dsimp only [Options.start] at read ⊢
  rw [read]
  rfl

/-! ## Searching -/

/-- Two characters are the same letter, up to case where that is ignored. -/
def SameLetter (ignoreCase : Bool) (written c : Char) : Prop :=
  sameCode ⟨ignoreCase, false⟩ written.toNat c.toNat = true

instance (ignoreCase : Bool) (written c : Char) : Decidable (SameLetter ignoreCase written c) :=
  inferInstanceAs (Decidable (_ = true))

/-- Some stretch of a text has the letters of a pattern. -/
def StandsIn (ignoreCase : Bool) (pattern text : List Char) : Prop :=
  ∃ before found after, text = before ++ found ++ after ∧
    List.Forall₂ (SameLetter ignoreCase) pattern found

/-- What stands in a part of a text stands in the text. -/
theorem StandsIn.append {ignoreCase : Bool} {pattern text : List Char}
    (stands : StandsIn ignoreCase pattern text) (before after : List Char) :
    StandsIn ignoreCase pattern (before ++ text ++ after) := by
  obtain ⟨front, found, back, rfl, same⟩ := stands
  exact ⟨before ++ front, found, back ++ after, by simp, same⟩

section Searching

variable {ignoreCase : Bool} {before read after : List Char} {text : List Char} {place : Nat}

theorem reads_codeLeaf_iff (c : Char) :
    (codeLeaf (.start ignoreCase) c.toNat).Reads before read after ↔
      ∃ d, read = [d] ∧ SameLetter ignoreCase c d := by
  refine exists_congr fun d => and_congr_right fun _ => ?_
  rw [CharTest.holds, Bool.bne_false, sameCode_suited]
  rfl

/-- **A row of leaves reads** one character for each of them. -/
theorem reads_literalRow_iff (cs : List Char) :
    (literalRow (.start ignoreCase) cs).Reads before read after ↔
      List.Forall₂ (SameLetter ignoreCase) cs read := by
  induction cs generalizing before read with
  | nil => exact List.forall₂_nil_left_iff.symm
  | cons c cs ih =>
    rw [List.forall₂_cons_left_iff]
    cases cs with
    | nil =>
      refine (reads_codeLeaf_iff c).trans (exists_congr fun d => ?_)
      simp [and_comm]
    | cons d cs =>
      constructor
      · rintro ⟨x, y, rfl, head, tail⟩
        obtain ⟨e, rfl, same⟩ := (reads_codeLeaf_iff c).1 head
        exact ⟨e, y, same, ih.1 tail, rfl⟩
      · rintro ⟨e, y, same, tail, rfl⟩
        exact ⟨[e], y, rfl, (reads_codeLeaf_iff c).2 ⟨e, rfl, same⟩, ih.2 tail⟩

/-- What is known of the first character of a row: where case plays a part in it, nothing, and else
that it stands as it is written. -/
theorem firstTest?_row (code least : Nat) (mode : Mode) (rest : List Node) (ascii : Bool) :
    (Pattern.mk (.row (.char (.code code false) mode :: rest)) least ascii).firstTest? =
      if mode.ignoreCase then none else some (.code code false) := by
  cases rest <;> cases cased : mode.ignoreCase <;>
    simp [Pattern.firstTest?, Node.row, Node.beginning, Node.frontTest?, cased]

/-- A letter in which case plays no part is the same as itself only. -/
theorem holds_of_caseless {c d : Char}
    (caseless : ¬ ((Options.start ignoreCase).mode.suited (.code c.toNat false)).ignoreCase = true)
    (same : SameLetter ignoreCase c d) :
    (CharTest.code c.toNat false).holds ⟨false, false⟩ d = true := by
  have plain : (Options.start ignoreCase).mode.suited (.code c.toNat false) = ⟨false, false⟩ := by
    rw [Mode.mk.injEq]
    exact ⟨Bool.eq_false_iff.2 caseless, rfl⟩
  have suited := sameCode_suited (Options.start ignoreCase).mode c.toNat d.toNat false
  rw [plain] at suited
  rw [CharTest.holds, Bool.bne_false]
  exact suited.trans same

/-- **No match is left out** of the places that are tried. -/
theorem mem_places_literalPattern {cs : List Char} (within : place ≤ text.length)
    (cut : text.drop place = read ++ after) (reads : List.Forall₂ (SameLetter ignoreCase) cs read) :
    place ∈ (literalPattern ignoreCase cs).places text.toArray := by
  have least : (literalPattern ignoreCase cs).least ≤ cs.length := width_literalRow_le _ _ _
  have length := congrArg List.length cut
  rw [List.length_drop, List.length_append, ← reads.length_eq] at length
  rw [Pattern.places, List.size_toArray]
  split
  · exact List.mem_range.2 (Nat.lt_succ_of_le within)
  · next some_ =>
    rw [if_neg (by omega)]
    split
    · next test known =>
      cases reads with
      | nil => exact absurd rfl some_
      | @cons c d _ _ same _ =>
        obtain ⟨caseless, ⟨⟩⟩ :=
          Option.ite_none_left_eq_some.1 ((firstTest?_row ..).symm.trans known)
        refine List.mem_filter.2 ⟨List.mem_range.2 ?_, holdsAt_toArray_iff.2 ⟨_, _, cut, ?_⟩⟩
        · rw [List.length_cons] at length
          omega
        · exact holds_of_caseless caseless same
    · exact List.mem_range.2 (by omega)

theorem Pattern.find?_isSome_iff {p : Pattern} {cs : Array Char} :
    (p.find? cs).isSome = true ↔
      ∃ place ∈ p.places cs, (p.root.matchFrom cs place).matched = true := by
  rw [Pattern.find?, List.isSome_findSome?, List.any_eq_true]
  simp only [Option.isSome_ite]

/-- A flat expression never stops a search with a fault. -/
theorem search_flat {pattern : String} {p : Pattern} (compiled : compile pattern ignoreCase = .ok p)
    (flat : p.root.isFlat = true) (s : String) :
    search pattern ignoreCase s = .ok (p.find? s.toList.toArray).isSome := by
  rw [search, compiled]
  dsimp only [bind, Except.bind]
  cases found : p.find? s.toList.toArray with
  | none => rfl
  | some registers =>
    obtain ⟨place, -, ended⟩ := List.exists_of_findSome?_eq_some found
    dsimp only at ended
    have untwisted : registers.isTwisted = false := by
      split at ended
      · cases ended
        exact isTwisted_matchFrom flat
      · cases ended
    dsimp only
    rw [untwisted]
    rfl

/-- **A literal pattern is found** exactly where its letters stand in a row, and the search never
stops with a fault. -/
theorem search_literal {pattern : String} (literal : Literal pattern.toList) (ignoreCase : Bool)
    (s : String) : ∃ found, search pattern ignoreCase s = .ok found ∧
      (found = true ↔ StandsIn ignoreCase pattern.toList s.toList) := by
  have flat := isFlat_literalRow (.start ignoreCase) pattern.toList
  refine ⟨_, search_flat (compile_literal literal ignoreCase) flat s, ?_⟩
  rw [Pattern.find?_isSome_iff]
  constructor
  · rintro ⟨place, tried, matched⟩
    have within := Pattern.mem_places_le tried
    obtain ⟨read, after, cut, reads⟩ := (matched_matchFrom_iff flat within).1 matched
    refine ⟨s.toList.take place, read, after, ?_, (reads_literalRow_iff _).1 reads⟩
    rw [List.append_assoc, ← cut, List.take_append_drop]
  · rintro ⟨before, read, after, cut, reads⟩
    have within : before.length ≤ s.toList.length := by
      rw [cut, List.append_assoc, List.length_append]
      exact Nat.le_add_right _ _
    have behind : s.toList.drop before.length = read ++ after := by
      rw [cut, List.append_assoc, List.drop_left]
    refine ⟨before.length, mem_places_literalPattern within behind reads, ?_⟩
    refine (matched_matchFrom_iff flat within).2 ⟨read, after, behind, ?_⟩
    exact (reads_literalRow_iff _).2 reads

end Searching

end Dialogue.Regex
