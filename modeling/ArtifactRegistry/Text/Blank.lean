/-! # White space

The characters with the Unicode property of that name, and text without them at its ends.
-/

namespace ArtifactRegistry.Text

def isBlank (c : Char) : Bool :=
  let code := c.toNat
  (0x09 ≤ code && code ≤ 0x0d) || code = 0x20 || code = 0x85 || code = 0xa0 || code = 0x1680
    || (0x2000 ≤ code && code ≤ 0x200a) || code = 0x2028 || code = 0x2029 || code = 0x202f
    || code = 0x205f || code = 0x3000

/-- The text without white space at either end. -/
def trim (text : String) : String :=
  String.ofList <| (text.toList.dropWhile isBlank).reverse.dropWhile isBlank |>.reverse

end ArtifactRegistry.Text
