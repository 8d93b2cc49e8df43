-- White space of all scripts: the characters with the property White_Space.
import ImageTiers.Unicode.Digit

namespace ImageTiers.Unicode

def spaces : Ranges :=
  [(0x9, 0xD), (0x20, 0x20), (0x85, 0x85), (0xA0, 0xA0), (0x1680, 0x1680), (0x2000, 0x200A),
   (0x2028, 0x2029), (0x202F, 0x202F), (0x205F, 0x205F), (0x3000, 0x3000)]

def isSpace (c : Char) : Bool := spaces.contains c

end ImageTiers.Unicode
