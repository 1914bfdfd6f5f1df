/-!
# Blank characters

The characters with the Unicode property `White_Space`, and the two things the console does with
them: asking whether a text is blank, and cutting a text into its words.

* `isBlank`: membership in the property, from its table of ranges.
* `words`: the maximal runs of characters that are not blank.
-/

namespace CommandConsole.Text

/-- The inclusive code point ranges of the Unicode property `White_Space`, in ascending order. -/
def blankRanges : List (Nat × Nat) :=
  [(0x09, 0x0D), (0x20, 0x20), (0x85, 0x85), (0xA0, 0xA0), (0x1680, 0x1680), (0x2000, 0x200A),
   (0x2028, 0x2029), (0x202F, 0x202F), (0x205F, 0x205F), (0x3000, 0x3000)]

/-- Whether `c` has the property `White_Space`. -/
def isBlank (c : Char) : Bool :=
  blankRanges.any fun range => range.1 ≤ c.toNat && c.toNat ≤ range.2

/-- The words of a text: its maximal runs of characters that are not blank, in order. -/
def words (text : List Char) : List (List Char) :=
  (text.splitOnP isBlank).filter fun run => !run.isEmpty

/-- The space is blank. -/
theorem isBlank_space : isBlank ' ' = true := by decide

end CommandConsole.Text
