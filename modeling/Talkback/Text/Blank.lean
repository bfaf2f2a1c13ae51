/-!
Blank characters: the code points that Unicode gives the White_Space property. Trimming a
text removes these from both ends; splitting a text into words cuts at runs of them.
-/

namespace Talkback.Text

/-- A character with the Unicode White_Space property. -/
def isBlank (c : Char) : Bool :=
  let n := c.toNat
  (0x09 ≤ n && n ≤ 0x0D) || n == 0x20 || n == 0x85 || n == 0xA0 || n == 0x1680 ||
  (0x2000 ≤ n && n ≤ 0x200A) || n == 0x2028 || n == 0x2029 || n == 0x202F ||
  n == 0x205F || n == 0x3000

/-- Every character that core calls whitespace is blank. -/
theorem isBlank_of_isWhitespace (c : Char) (h : c.isWhitespace = true) : isBlank c = true := by
  simp only [Char.isWhitespace, Bool.or_eq_true, decide_eq_true_eq] at h
  rcases h with ((h | h) | h) | h <;> simp [isBlank, h]

/-- The text without blanks at either end. -/
def trimBlank (s : String) : String :=
  String.ofList ((s.toList.dropWhile isBlank).reverse.dropWhile isBlank).reverse

/-- The text without blanks at its start. -/
def trimBlankStart (s : String) : String :=
  String.ofList (s.toList.dropWhile isBlank)

/-- The maximal runs of non-blank characters, in order. -/
def words (s : String) : List String :=
  ((s.toList.splitBy fun a b => isBlank a == isBlank b).filter fun w =>
    match w with
    | c :: _ => !isBlank c
    | [] => false).map String.ofList

end Talkback.Text
