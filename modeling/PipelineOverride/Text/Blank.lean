import PipelineOverride.Text.Ranges

/-!
# Blank characters

The white space that trimming removes and that a pattern's blank class matches: the characters of
bidirectional class white space, segment or paragraph separator, and the space separators.
-/

set_option autoImplicit false

namespace PipelineOverride.Text

def blankRanges : Ranges := [
  (9, 13), (28, 32), (133, 133), (160, 160), (5760, 5760), (8192, 8202), (8232, 8233),
   (8239, 8239), (8287, 8287), (12288, 12288)]

def isBlank (c : Char) : Bool :=
  blankRanges.mem c.toNat

/-- The text without the blanks at its two ends. -/
def trim (s : String) : String :=
  let forward := s.toList.dropWhile isBlank
  String.ofList (forward.reverse.dropWhile isBlank).reverse

end PipelineOverride.Text
