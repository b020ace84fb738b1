import PageDirectives.Text.Basic
/-!
White space: the blanks that separate words, and the trimming of texts. The class is the one of
Unicode together with the four information separators U+001C to U+001F; the zero-width space and
the byte order mark are not in it.
-/
namespace PageDirectives.Text

/-- Whether a character is white space. -/
def isBlank (c : Char) : Bool :=
  let n := c.toNat
  (9 ≤ n && n ≤ 13) || (28 ≤ n && n ≤ 32) || n == 0x85 || n == 0xa0 || n == 0x1680 ||
    (0x2000 ≤ n && n ≤ 0x200a) || n == 0x2028 || n == 0x2029 || n == 0x202f || n == 0x205f ||
    n == 0x3000

/-- White space inside a line: all of it but the line feed. -/
def isInlineBlank (c : Char) : Bool := isBlank c && c != '\n'

/-- A text without the blanks at its front. -/
def trimStart (text : Text) : Text := text.dropWhile isBlank

/-- A text without the blanks at its end. -/
def trimEnd (text : Text) : Text := (text.reverse.dropWhile isBlank).reverse

/-- A text without the blanks around it. -/
def trim (text : Text) : Text := trimEnd (trimStart text)

/-- Whether a text has no character but blanks. -/
def isAllBlank (text : Text) : Bool := text.all isBlank

/-- The maximal runs of characters other than blanks. -/
def words : Text → List Text
  | [] => []
  | c :: text =>
    if isBlank c then words text
    else
      let rest := text.dropWhile (!isBlank ·)
      (c :: text.takeWhile (!isBlank ·)) :: words rest
termination_by text => text.length
decreasing_by
  · simp
  · have := (List.dropWhile_sublist (!isBlank ·) (l := text)).length_le
    simp; omega

end PageDirectives.Text
