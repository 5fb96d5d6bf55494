/-!
# White space

The characters with the Unicode `White_Space` property, and trimming them from both
ends of a string.
-/

namespace CapsuleFlow.Text

def isSpace (c : Char) : Bool :=
  let v := c.toNat
  (0x09 ≤ v && v ≤ 0x0D) || v == 0x20 || v == 0x85 || v == 0xA0 || v == 0x1680 ||
    (0x2000 ≤ v && v ≤ 0x200A) || v == 0x2028 || v == 0x2029 || v == 0x202F ||
    v == 0x205F || v == 0x3000

def trim (s : String) : String :=
  String.ofList ((s.toList.dropWhile isSpace).reverse.dropWhile isSpace).reverse

def words (s : String) : List String :=
  (s.split isSpace).toList.map (·.toString) |>.filter (!·.isEmpty)

end CapsuleFlow.Text
