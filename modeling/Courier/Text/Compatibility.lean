import Courier.Text.Table

namespace Courier.Text

/-- The characters whose compatibility normal form (NFKC) holds one of the URL delimiters
`/ ? # @ :`, such as the account-of sign or the fullwidth solidus: a host name holding one would
change meaning once normalised. -/
def delimiterFormTable : Array CodeRange := CodeRange.ofText
    ("2047 2048 2049 2100 2101 2105 2106 2a74 fe13 fe16 fe55 fe56 fe5f fe6b ff03 ff0f ff1a ff1f " ++
    "ff20 ")

/-- Whether the compatibility form of a character holds a URL delimiter it does not show; no
ASCII character does. -/
def normalisesToDelimiter (c : Char) : Bool :=
  128 ≤ c.toNat && inRanges delimiterFormTable c.toNat

end Courier.Text
