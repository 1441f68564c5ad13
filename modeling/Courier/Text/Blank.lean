import Courier.Text.Table

namespace Courier.Text

/-- The blank characters, as ranges. The table is short, so it is written out and can be
evaluated where a proof needs it. -/
def blankTable : Array CodeRange :=
  #[⟨0x9, 0xd⟩, ⟨0x1c, 0x20⟩, ⟨0x85, 0x85⟩, ⟨0xa0, 0xa0⟩, ⟨0x1680, 0x1680⟩, ⟨0x2000, 0x200a⟩,
    ⟨0x2028, 0x2029⟩, ⟨0x202f, 0x202f⟩, ⟨0x205f, 0x205f⟩, ⟨0x3000, 0x3000⟩]

/-- Whether a character counts as white space when text is trimmed: the ASCII controls from tab
to carriage return, the separators from 0x1c to 0x1f, no-break space, the ideographic space and
the other Unicode spaces, but not the zero-width space. -/
def isBlank (c : Char) : Bool :=
  inRanges blankTable c.toNat

def trim (s : String) : String :=
  String.ofList ((s.toList.dropWhile isBlank).reverse.dropWhile isBlank).reverse

/-- The characters of the Unicode property White_Space: the blanks but for the separators from
0x1c to 0x1f. -/
def whiteSpaceTable : Array CodeRange :=
  #[⟨0x9, 0xd⟩, ⟨0x20, 0x20⟩, ⟨0x85, 0x85⟩, ⟨0xa0, 0xa0⟩, ⟨0x1680, 0x1680⟩, ⟨0x2000, 0x200a⟩,
    ⟨0x2028, 0x2029⟩, ⟨0x202f, 0x202f⟩, ⟨0x205f, 0x205f⟩, ⟨0x3000, 0x3000⟩]

def isWhiteSpace (c : Char) : Bool :=
  inRanges whiteSpaceTable c.toNat

def trimWhiteSpace (s : String) : String :=
  String.ofList ((s.toList.dropWhile isWhiteSpace).reverse.dropWhile isWhiteSpace).reverse

def isBlankText (s : String) : Bool :=
  s.toList.all isBlank

end Courier.Text
