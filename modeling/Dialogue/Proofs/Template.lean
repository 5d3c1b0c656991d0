import Mathlib.Data.List.Basic
import Mathlib.Data.List.Nodup
import Mathlib.Data.List.Pairwise
import Dialogue.Template

/-!
# Filling a template

A template is filled by one scan from the left, and what comes out can be said without the scan:
the template is cut at its places, and all places are replaced at once. That the scan misses no
place has one reason, `placeAt_place_append`: between the braces of a place there is no other brace,
so no place begins inside another, and what the scan passes over holds none.

The cut is determined by the template alone. So a value that holds braces is never read as a
template, and the data is asked for the words of the places and for no other key.

Main statements: `placeAt_place_append`; `exists_splits`, which follows the scan; `Splits.unique`
and `Splits.apart`; and `fill_substitutes`.
-/

namespace Dialogue.Template

open Text

/-! ## Places -/

/-- A nonempty run of word characters. -/
def IsName (word : List Char) : Prop := word ≠ [] ∧ ∀ c ∈ word, isWord c = true

/-- A word between braces. -/
def place (word : List Char) : List Char := '{' :: word ++ ['}']

/-- The place of a name begins at a position of a text. -/
def PlaceAt (cs : List Char) (i : Nat) (word : List Char) : Prop :=
  IsName word ∧ place word <+: cs.drop i

/-- Of two places with their positions, one ends before the other begins. -/
def Apart (q r : Nat × List Char) : Prop :=
  q.1 + (place q.2).length ≤ r.1 ∨ r.1 + (place r.2).length ≤ q.1

instance : Std.Symm Apart := ⟨fun _ _ => Or.symm⟩

@[simp] theorem length_place (word : List Char) : (place word).length = word.length + 2 := by
  simp [place]

theorem IsName.not_mem {word : List Char} (h : IsName word) {c : Char} (hc : isWord c = false) :
    c ∉ word := by
  intro hmem
  simp [h.2 c hmem] at hc

/-- A place is read off the characters behind its opening brace. -/
theorem place?_eq_some_iff {cs word rest : List Char} :
    place? cs = some (word, rest) ↔ IsName word ∧ cs = word ++ '}' :: rest := by
  have hcs := List.takeWhile_append_dropWhile (p := isWord) (l := cs)
  constructor
  · intro h
    unfold place? at h
    split at h
    · rename_i c w r htake hdrop
      cases h
      have hall := List.all_takeWhile (p := isWord) (l := cs)
      rw [htake, List.all_eq_true] at hall
      exact ⟨⟨List.cons_ne_nil c w, hall⟩, by rw [← hcs, htake, hdrop]⟩
    · cases h
  · rintro ⟨⟨hne, hword⟩, rfl⟩
    obtain ⟨c, w, rfl⟩ := List.exists_cons_of_ne_nil hne
    have hclose : isWord '}' = false := by decide
    have htake : (c :: w ++ '}' :: rest).takeWhile isWord = c :: w := by
      rw [List.takeWhile_append_of_pos hword, List.takeWhile_cons_of_neg (by simp [hclose]),
        List.append_nil]
    have hdrop : (c :: w ++ '}' :: rest).dropWhile isWord = '}' :: rest := by
      rw [List.dropWhile_append_of_pos hword, List.dropWhile_cons_of_neg (by simp [hclose])]
    simp only [place?, htake, hdrop]

@[simp] theorem placeAt_cons_succ {c : Char} {cs word : List Char} {i : Nat} :
    PlaceAt (c :: cs) (i + 1) word ↔ PlaceAt cs i word := Iff.rfl

theorem not_placeAt_nil (i : Nat) (word : List Char) : ¬ PlaceAt [] i word := by
  simp [PlaceAt, place]

/-- A place begins with a brace. -/
theorem placeAt_getElem? {cs word : List Char} {i : Nat} (h : PlaceAt cs i word) :
    cs[i]? = some '{' := by
  obtain ⟨-, rest, hrest⟩ := h
  rw [← List.head?_drop, ← hrest]
  rfl

/-- At one position there is at most one place. -/
theorem placeAt_inj {cs word other : List Char} {i : Nat} (h : PlaceAt cs i word)
    (h' : PlaceAt cs i other) : word = other := by
  obtain ⟨hword, rest, hrest⟩ := h
  obtain ⟨hother, rest', hrest'⟩ := h'
  have heq : word ++ '}' :: rest = other ++ '}' :: rest' := by
    simpa [place] using hrest.trans hrest'.symm
  have hread : place? (word ++ '}' :: rest) = some (word, rest) :=
    place?_eq_some_iff.mpr ⟨hword, rfl⟩
  have hread' := place?_eq_some_iff.mpr ⟨hother, heq⟩
  cases hread.symm.trans hread'
  rfl

/-- The places of a text that begins with a place are this one and those of what follows. -/
theorem placeAt_place_append {word : List Char} (hword : IsName word) {rest other : List Char}
    {i : Nat} :
    PlaceAt (place word ++ rest) i other ↔
      (i, other) = (0, word) ∨ ∃ j, i = (place word).length + j ∧ PlaceAt rest j other := by
  have hfirst : PlaceAt (place word ++ rest) 0 word := ⟨hword, List.prefix_append _ _⟩
  constructor
  · intro h
    rcases Nat.eq_zero_or_pos i with rfl | hpos
    · exact .inl (by rw [placeAt_inj h hfirst])
    · -- A place that begins further on cannot begin at a character of the word or at the end of
      -- the place: none of these is an opening brace.
      have hlen : (place word).length ≤ i := by
        by_contra hlt
        have hbrace := placeAt_getElem? h
        obtain ⟨k, rfl⟩ := Nat.exists_eq_add_of_le hpos
        rw [List.getElem?_append_left (Nat.not_le.mp hlt)] at hbrace
        have hmem : '{' ∈ word ++ ['}'] := by
          refine List.mem_of_getElem? (i := k) ?_
          rw [← hbrace, place, Nat.add_comm, List.cons_append, List.getElem?_cons_succ]
        rcases List.mem_append.mp hmem with hmem | hmem
        · exact hword.not_mem (by decide) hmem
        · simp at hmem
      obtain ⟨j, rfl⟩ := Nat.exists_eq_add_of_le hlen
      exact .inr ⟨j, rfl, h.1, List.drop_length_add_append j ▸ h.2⟩
  · rintro (h | ⟨j, rfl, h⟩)
    · cases h
      exact hfirst
    · exact ⟨h.1, (List.drop_length_add_append j).symm ▸ h.2⟩

/-! ## Texts cut at their places -/

/-- What leads, and the word of each place with the text behind it. -/
structure Parts where
  lead : List Char
  places : List (List Char × List Char)

namespace Parts

/-- The text with every place replaced by what stands for its word. -/
def put (stands : List Char → List Char) (parts : Parts) : List Char :=
  parts.lead ++ parts.places.flatMap fun p => stands p.1 ++ p.2

/-- The words with the positions of their places, when the first place begins at `i`. -/
def offsetsFrom : Nat → List (List Char × List Char) → List (Nat × List Char)
  | _, [] => []
  | i, (word, text) :: rest =>
    (i, word) :: offsetsFrom (i + ((place word).length + text.length)) rest

/-- The words with the positions at which their places begin. -/
def offsets (parts : Parts) : List (Nat × List Char) :=
  offsetsFrom parts.lead.length parts.places

/-- The parts are a text cut at all its places: put together they are the text, and a place begins
where one of theirs begins and nowhere else. -/
structure Splits (parts : Parts) (cs : List Char) : Prop where
  written : parts.put place = cs
  placeAt_iff : ∀ i word, PlaceAt cs i word ↔ (i, word) ∈ parts.offsets

theorem offsetsFrom_add (k i : Nat) (places : List (List Char × List Char)) :
    offsetsFrom (k + i) places = (offsetsFrom i places).map fun q => (k + q.1, q.2) := by
  induction places generalizing i with
  | nil => rfl
  | cons p places ih => simp only [offsetsFrom, List.map_cons, Nat.add_assoc, ih]

theorem mem_offsetsFrom_add {k i j : Nat} {word : List Char}
    {places : List (List Char × List Char)} :
    (j, word) ∈ offsetsFrom (k + i) places ↔
      ∃ m, j = k + m ∧ (m, word) ∈ offsetsFrom i places := by
  rw [offsetsFrom_add, List.mem_map]
  constructor
  · rintro ⟨⟨m, w⟩, hmem, heq⟩
    cases heq
    exact ⟨m, rfl, hmem⟩
  · rintro ⟨m, rfl, hmem⟩
    exact ⟨(m, word), hmem, rfl⟩

theorem le_of_mem_offsetsFrom {i : Nat} {places : List (List Char × List Char)}
    {q : Nat × List Char} (h : q ∈ offsetsFrom i places) : i ≤ q.1 := by
  obtain ⟨m, hm, -⟩ := mem_offsetsFrom_add (k := i) (i := 0).mp h
  omega

theorem exists_mem_offsetsFrom (i : Nat) {places : List (List Char × List Char)}
    {p : List Char × List Char} (h : p ∈ places) : ∃ j, (j, p.1) ∈ offsetsFrom i places := by
  induction places generalizing i with
  | nil => cases h
  | cons q places ih =>
    rcases List.mem_cons.mp h with rfl | h
    · exact ⟨i, List.mem_cons_self⟩
    · obtain ⟨j, hj⟩ := ih (i + ((place q.1).length + q.2.length)) h
      exact ⟨j, List.mem_cons_of_mem _ hj⟩

/-- Each place ends before the next one begins. -/
theorem pairwise_offsetsFrom (i : Nat) (places : List (List Char × List Char)) :
    (offsetsFrom i places).Pairwise fun q r => q.1 + (place q.2).length ≤ r.1 := by
  induction places generalizing i with
  | nil => exact List.Pairwise.nil
  | cons p places ih =>
    refine List.pairwise_cons.mpr ⟨fun q hq => ?_, ih _⟩
    have hle := le_of_mem_offsetsFrom hq
    dsimp only
    omega

theorem pairwise_offsets (parts : Parts) :
    parts.offsets.Pairwise fun q r => q.1 + (place q.2).length ≤ r.1 :=
  pairwise_offsetsFrom _ _

theorem nodup_offsets (parts : Parts) : parts.offsets.Nodup := by
  refine parts.pairwise_offsets.imp ?_
  rintro q r hle rfl
  rw [length_place] at hle
  omega

/-- The text and the positions of the places give the parts back. -/
theorem eq_of_offsetsFrom {i : Nat} {lead lead' : List Char}
    {places places' : List (List Char × List Char)}
    (hoffsets : offsetsFrom (i + lead.length) places = offsetsFrom (i + lead'.length) places')
    (hput : (Parts.mk lead places).put place = (Parts.mk lead' places').put place) :
    Parts.mk lead places = Parts.mk lead' places' := by
  induction places generalizing i lead lead' places' with
  | nil =>
    cases places' with
    | nil => simpa [put] using hput
    | cons p places' => cases hoffsets
  | cons p places ih =>
    cases places' with
    | nil => cases hoffsets
    | cons p' places' =>
      obtain ⟨word, text⟩ := p
      obtain ⟨word', text'⟩ := p'
      simp only [offsetsFrom, List.cons.injEq, Prod.mk.injEq, ← Nat.add_assoc] at hoffsets
      obtain ⟨⟨hlength, rfl⟩, hoffsets⟩ := hoffsets
      obtain ⟨rfl, hput⟩ := List.append_inj hput (Nat.add_left_cancel hlength)
      have hrest : (Parts.mk text places).put place = (Parts.mk text' places').put place := by
        simpa [put] using hput
      cases ih hoffsets hrest
      rfl

/-! ## The cut of a text -/

theorem splits_nil : Splits ⟨[], []⟩ [] :=
  ⟨rfl, fun i word => by simp [offsets, offsetsFrom, not_placeAt_nil]⟩

/-- A character at which no place begins is text. -/
theorem Splits.cons {c : Char} {cs lead : List Char} {places : List (List Char × List Char)}
    (hnone : ∀ word, ¬ PlaceAt (c :: cs) 0 word) (splits : Splits ⟨lead, places⟩ cs) :
    Splits ⟨c :: lead, places⟩ (c :: cs) := by
  refine ⟨congrArg (c :: ·) splits.written, fun i word => ?_⟩
  have hshift : (i, word) ∈ offsets ⟨c :: lead, places⟩ ↔
      ∃ j, i = 1 + j ∧ (j, word) ∈ offsets ⟨lead, places⟩ := by
    unfold offsets
    rw [← mem_offsetsFrom_add, Nat.add_comm 1]
    rfl
  rw [hshift]
  cases i with
  | zero =>
    refine iff_of_false (hnone word) ?_
    rintro ⟨j, hj, -⟩
    omega
  | succ i =>
    rw [placeAt_cons_succ, splits.placeAt_iff, Nat.add_comm i 1]
    simp

/-- A place is followed by the parts of what stands behind it. -/
theorem Splits.cons_place {word rest lead : List Char} {places : List (List Char × List Char)}
    (hword : IsName word) (splits : Splits ⟨lead, places⟩ rest) :
    Splits ⟨[], (word, lead) :: places⟩ (place word ++ rest) := by
  refine ⟨?_, fun i other => ?_⟩
  · rw [← splits.written]
    simp [put]
  · have hoffsets : offsets ⟨[], (word, lead) :: places⟩ =
        (0, word) :: offsetsFrom ((place word).length + lead.length) places := by
      simp only [offsets, offsetsFrom, List.length_nil, Nat.zero_add]
    rw [placeAt_place_append hword, hoffsets, List.mem_cons, mem_offsetsFrom_add]
    simp only [splits.placeAt_iff]
    rfl

/-- A text is cut at its places in one way. -/
theorem Splits.unique {parts other : Parts} {cs : List Char} (splits : parts.Splits cs)
    (splits' : other.Splits cs) : parts = other := by
  have hperm : parts.offsets.Perm other.offsets := by
    refine (List.perm_ext_iff_of_nodup parts.nodup_offsets other.nodup_offsets).mpr ?_
    rintro ⟨i, word⟩
    rw [← splits.placeAt_iff, ← splits'.placeAt_iff]
  have hoffsets : parts.offsets = other.offsets := by
    refine hperm.eq_of_pairwise ?_ parts.pairwise_offsets other.pairwise_offsets
    intro q r _ _ hqr hrq
    simp only [length_place] at hqr hrq
    omega
  refine eq_of_offsetsFrom (i := 0) ?_ (splits.written.trans splits'.written.symm)
  simpa only [Nat.zero_add, offsets] using hoffsets

/-- Two places of a text do not overlap. -/
theorem Splits.apart {parts : Parts} {cs : List Char} (splits : parts.Splits cs) {i j : Nat}
    {word other : List Char} (h : PlaceAt cs i word) (h' : PlaceAt cs j other)
    (hne : (i, word) ≠ (j, other)) : Apart (i, word) (j, other) := by
  have hpairwise : parts.offsets.Pairwise Apart := parts.pairwise_offsets.imp Or.inl
  exact hpairwise.forall ((splits.placeAt_iff i word).mp h) ((splits.placeAt_iff j other).mp h') hne

/-- What is put depends only on what stands for the words of the places. -/
theorem put_congr {stands stands' : List Char → List Char} {parts : Parts}
    (h : ∀ i word, (i, word) ∈ parts.offsets → stands word = stands' word) :
    parts.put stands = parts.put stands' := by
  unfold put
  congr 1
  refine List.flatMap_congr fun p hp => ?_
  obtain ⟨i, hi⟩ := exists_mem_offsetsFrom parts.lead.length hp
  rw [h i p.1 hi]

end Parts

/-! ## The scan -/

/-- What stands for a word in a filled template: the text of its value, nothing for null, and the
place as it is written when the word is no key. -/
def standing (data : Fields) (word : List Char) : List Char :=
  match Table.get? data (String.ofList word) with
  | none => place word
  | some .null => []
  | some value => value.display.toList

theorem getD_filling? (data : Fields) (word : List Char) :
    (filling? data word).getD ('{' :: word ++ ['}']) = standing data word := by
  unfold filling? standing
  cases Table.get? data (String.ofList word) with
  | none => rfl
  | some value => cases value <;> rfl

theorem not_placeAt_of_ne {c : Char} (h : c ≠ '{') (cs word : List Char) :
    ¬ PlaceAt (c :: cs) 0 word := by
  intro hplace
  exact h (by simpa using placeAt_getElem? hplace)

theorem not_placeAt_of_place?_eq_none {cs : List Char} (h : place? cs = none) (word : List Char) :
    ¬ PlaceAt ('{' :: cs) 0 word := by
  rintro ⟨hword, rest, hrest⟩
  have hcs : cs = word ++ '}' :: rest := by simpa [place, eq_comm] using hrest
  simp [place?_eq_some_iff.mpr ⟨hword, hcs⟩] at h

/-- The scan cuts a text at its places and puts for each what stands for its word. -/
theorem exists_splits (cs : List Char) :
    ∃ parts : Parts, parts.Splits cs ∧
      ∀ data, fillChars data cs = parts.put (standing data) := by
  match cs with
  | [] => exact ⟨⟨[], []⟩, Parts.splits_nil, fun data => fillChars_nil data⟩
  | c :: cs =>
    -- A character that is text joins what leads.
    have htext (hnone : ∀ word, ¬ PlaceAt (c :: cs) 0 word)
        (hstep : ∀ data, fillChars data (c :: cs) = c :: fillChars data cs) :
        ∃ parts : Parts, parts.Splits (c :: cs) ∧
          ∀ data, fillChars data (c :: cs) = parts.put (standing data) := by
      obtain ⟨⟨lead, places⟩, hsplits, hput⟩ := exists_splits cs
      exact ⟨⟨c :: lead, places⟩, hsplits.cons hnone, fun data => by
        rw [hstep, hput]
        rfl⟩
    by_cases hc : c = '{'
    · subst hc
      cases hplace : place? cs with
      | none =>
        exact htext (not_placeAt_of_place?_eq_none hplace) fun data => fillChars_brace data hplace
      | some found =>
        obtain ⟨word, rest⟩ := found
        have hlength := length_place? hplace
        obtain ⟨hword, hcs⟩ := place?_eq_some_iff.mp hplace
        obtain ⟨⟨lead, places⟩, hsplits, hput⟩ := exists_splits rest
        refine ⟨⟨[], (word, lead) :: places⟩, ?_, fun data => ?_⟩
        · have hshape : '{' :: cs = place word ++ rest := by simp [hcs, place]
          exact hshape ▸ hsplits.cons_place hword
        · rw [fillChars_open data hplace, getD_filling?, hput]
          simp [Parts.put]
    · exact htext (not_placeAt_of_ne hc cs) fun data => fillChars_of_ne data hc cs
termination_by cs.length

theorem fill_of_splits {parts : Parts} {template : String}
    (splits : parts.Splits template.toList) (data : Fields) :
    fill data template = String.ofList (parts.put (standing data)) := by
  obtain ⟨parts', hsplits, hput⟩ := exists_splits template.toList
  rw [splits.unique hsplits, ← hput]
  rfl

/-- A template is cut at its places in one way, and no two of them overlap. Filled with any data it
is its parts with every place replaced at once, and data that agree on the words of its places fill
it alike. -/
theorem fill_substitutes (template : String) :
    ∃ parts : Parts, parts.Splits template.toList ∧
      (∀ other : Parts, other.Splits template.toList → other = parts) ∧
      (∀ i word j other, PlaceAt template.toList i word → PlaceAt template.toList j other →
        (i, word) ≠ (j, other) → Apart (i, word) (j, other)) ∧
      (∀ data, fill data template = String.ofList (parts.put (standing data))) ∧
      ∀ data data' : Fields,
        (∀ i word, PlaceAt template.toList i word →
          Table.get? data (String.ofList word) = Table.get? data' (String.ofList word)) →
        fill data template = fill data' template := by
  obtain ⟨parts, hsplits, -⟩ := exists_splits template.toList
  refine ⟨parts, hsplits, fun other h => h.unique hsplits, fun _ _ _ _ => hsplits.apart,
    fill_of_splits hsplits, fun data data' hsame => ?_⟩
  rw [fill_of_splits hsplits, fill_of_splits hsplits]
  refine congrArg String.ofList (Parts.put_congr fun i word hmem => ?_)
  simp only [standing, hsame i word ((hsplits.placeAt_iff i word).mpr hmem)]

/-- A place between two further braces. -/
def nested : String := "\x7b\x7bname\x7d\x7d"

/-- With the value `name` the braces around a filled place look like a place, and stay. -/
theorem fill_substitutes_nested :
    (Parts.mk ['{'] [("name".toList, ['}'])]).Splits nested.toList ∧
      fill [("name", .str "name")] nested = "\x7bname\x7d" ∧
      fill [("name", .str "name"), ("age", .int 40)] nested = "\x7bname\x7d" := by
  obtain ⟨parts, hsplits, hunique, -, hfill, hsame⟩ := fill_substitutes nested
  have hword : "name".toList.all isWord = true := by decide
  have hname : IsName "name".toList := ⟨List.cons_ne_nil _ _, List.all_eq_true.mp hword⟩
  have hnested : (Parts.mk ['{'] [("name".toList, ['}'])]).Splits nested.toList :=
    ((Parts.splits_nil.cons (not_placeAt_of_ne (by decide) _)).cons_place hname).cons
      (not_placeAt_of_place?_eq_none (by decide))
  have hput := hfill [("name", .str "name")]
  rw [← hunique _ hnested] at hput
  refine ⟨hnested, hput, ?_⟩
  rw [hsame _ [("name", .str "name")] fun i word h => ?_]
  · exact hput
  · rw [hnested.placeAt_iff] at h
    obtain ⟨rfl, rfl⟩ : i = 1 ∧ word = "name".toList := by
      simpa [Parts.offsets, Parts.offsetsFrom] using h
    rfl

end Dialogue.Template
