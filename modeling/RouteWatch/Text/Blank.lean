import RouteWatch.Text.CodePoints

/-!
# Blank space and what it separates

Blank characters are those with the Unicode property White_Space. They bound words and are trimmed
from the ends of command output.
-/

namespace RouteWatch.Text

/-- The ranges of White_Space. -/
def blankRanges : List (Nat × Nat) :=
  [(0x9, 0xD), (0x20, 0x20), (0x85, 0x85), (0xA0, 0xA0), (0x1680, 0x1680), (0x2000, 0x200A),
   (0x2028, 0x2029), (0x202F, 0x202F), (0x205F, 0x205F), (0x3000, 0x3000)]

def isBlank (c : Char) : Bool :=
  inRanges blankRanges c

/-- The pieces of the text between the separators: one more than there are separators. -/
def splitBy (sep : Char → Bool) : List Char → List (List Char)
  | [] => [[]]
  | c :: rest =>
    if sep c then [] :: splitBy sep rest
    else
      match splitBy sep rest with
      | [] => [[c]]
      | piece :: pieces => (c :: piece) :: pieces

/-- The words of the text: its longest runs without a blank, in order. -/
def wordsOf (cs : List Char) : List (List Char) :=
  (splitBy isBlank cs).filter (!·.isEmpty)

def words (s : String) : List String :=
  (wordsOf s.toList).map String.ofList

/-- The text without the blanks at its end. -/
def trimEndOf (cs : List Char) : List Char :=
  (cs.reverse.dropWhile isBlank).reverse

/-- The text without the blanks at its start and at its end. -/
def trimOf (cs : List Char) : List Char :=
  trimEndOf (cs.dropWhile isBlank)

@[inherit_doc trimEndOf]
def trimEnd (s : String) : String :=
  String.ofList (trimEndOf s.toList)

@[inherit_doc trimOf]
def trim (s : String) : String :=
  String.ofList (trimOf s.toList)

def isAllBlank (s : String) : Bool :=
  s.toList.all isBlank

/-- The lines of the text. A line feed ends a line, so text that ends with one has no further line
after it. -/
def linesOf (cs : List Char) : List (List Char) :=
  let pieces := splitBy (· == '\n') cs
  if pieces.getLast? == some [] then pieces.dropLast else pieces

/-- The lines of the text, each without the blanks around it, and without the lines that have
nothing else. -/
def trimmedLines (s : String) : List String :=
  ((linesOf s.toList).map trimOf).filter (!·.isEmpty) |>.map String.ofList

end RouteWatch.Text
