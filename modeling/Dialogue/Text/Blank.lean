/-!
# Blanks, trimming and words

The blanks are the white space characters of every script together with the four separator
controls. Trimming removes them from both ends of a text, and the words of a text are its longest
stretches without blanks.
-/

namespace Dialogue.Text

/-- White space of every script, and the separator controls `\x1c` to `\x1f`. -/
def isBlank (c : Char) : Bool :=
  let n := c.toNat
  (9 ≤ n && n ≤ 13) || (28 ≤ n && n ≤ 32) || n = 0x85 || n = 0xa0 || n = 0x1680 ||
    (0x2000 ≤ n && n ≤ 0x200a) || n = 0x2028 || n = 0x2029 || n = 0x202f || n = 0x205f ||
    n = 0x3000

/-- The characters without the leading ones that satisfy `p`, nor the trailing ones. -/
def trimChars (p : Char → Bool) (cs : List Char) : List Char :=
  ((cs.dropWhile p).reverse.dropWhile p).reverse

/-- A text without its leading and trailing blanks. -/
def strip (s : String) : String :=
  String.ofList (trimChars isBlank s.toList)

/-- The words of a list of characters; `word` holds the open word, last character first. -/
def splitWords : List Char → List Char → List (List Char)
  | [], word => if word.isEmpty then [] else [word.reverse]
  | c :: cs, word =>
    if isBlank c then
      if word.isEmpty then splitWords cs [] else word.reverse :: splitWords cs []
    else splitWords cs (c :: word)

/-- The longest stretches of a text without blanks, in order. -/
def words (s : String) : List String :=
  (splitWords s.toList []).map String.ofList

/-- The first `limit` characters of a text. -/
def clip (limit : Nat) (s : String) : String :=
  String.ofList (s.toList.take limit)

@[simp] theorem toList_strip (s : String) : (strip s).toList = trimChars isBlank s.toList := by
  simp [strip]

@[simp] theorem toList_clip (limit : Nat) (s : String) :
    (clip limit s).toList = s.toList.take limit := by
  simp [clip]

theorem length_clip_le (limit : Nat) (s : String) : (clip limit s).length ≤ limit := by
  rw [← String.length_toList, toList_clip]
  exact List.length_take_le _ _

theorem clip_clip (limit : Nat) (s : String) : clip limit (clip limit s) = clip limit s := by
  simp [clip, List.take_take]

theorem clip_of_length_le {limit : Nat} {s : String} (h : s.length ≤ limit) :
    clip limit s = s := by
  simp [clip, List.take_of_length_le (by simpa [← String.length_toList] using h)]

end Dialogue.Text
