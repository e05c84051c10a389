/-!
Blank characters, and texts without the blanks around them. Besides the blanks of ASCII these are the
separators of information U+001C to U+001F, the next-line control, and the space and line separators;
characters of no width are not among them.
-/

namespace StyleAudit.Text

def isBlank (c : Char) : Bool :=
  let n := c.toNat
  (0x09 ≤ n && n ≤ 0x0D) || (0x1C ≤ n && n ≤ 0x20) || n == 0x85 || n == 0xA0 || n == 0x1680 ||
    (0x2000 ≤ n && n ≤ 0x200A) || n == 0x2028 || n == 0x2029 || n == 0x202F || n == 0x205F ||
    n == 0x3000

def stripStart (chars : List Char) : List Char := chars.dropWhile isBlank

def stripEnd (chars : List Char) : List Char := (chars.reverse.dropWhile isBlank).reverse

def strip (text : String) : String :=
  String.ofList (stripEnd (stripStart text.toList))

end StyleAudit.Text
