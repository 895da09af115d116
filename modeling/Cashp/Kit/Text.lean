import Mathlib.Data.List.Basic

/-!
The text functions of Go: blanks as `unicode.IsSpace` has them, and the case of letters. Of the
letters outside ASCII only those that another case maps into ASCII are mapped.
-/

namespace Kit

def isSpace (c : Char) : Bool :=
  let n := c.toNat
  (9 ≤ n && n ≤ 13) || n == 0x20 || n == 0x85 || n == 0xA0 || n == 0x1680 ||
    (0x2000 ≤ n && n ≤ 0x200A) || n == 0x2028 || n == 0x2029 || n == 0x202F ||
    n == 0x205F || n == 0x3000

def trimChars (chars : List Char) : List Char :=
  ((chars.dropWhile isSpace).reverse.dropWhile isSpace).reverse

def trimSpace (text : String) : String := String.ofList (trimChars text.toList)

def isBlank (text : String) : Bool := text.toList.all isSpace

/-- The Kelvin sign and the dotted capital I have lower cases in ASCII. -/
def lowerChar (c : Char) : Char :=
  if c = '\u212A' then 'k' else if c = '\u0130' then 'i' else c.toLower

/-- The dotless i and the long s have upper cases in ASCII. -/
def upperChar (c : Char) : Char :=
  if c = '\u0131' then 'I' else if c = '\u017F' then 'S' else c.toUpper

def lowerText (text : String) : String := String.ofList (text.toList.map lowerChar)

def upperText (text : String) : String := String.ofList (text.toList.map upperChar)

end Kit
