/-!
# Blanks

The characters with the property White_Space: the five ASCII controls from
tab to carriage return, the space, the next-line control, and the spaces and
separators of the higher planes. The set is closed, so it is written out.
-/

set_option autoImplicit false

namespace PluginAudit.Unicode

/-- Whether a code point has the property White_Space. -/
def isBlankCode (code : Nat) : Bool :=
  (0x9 ≤ code && code ≤ 0xD) || code == 0x20 || code == 0x85 || code == 0xA0 || code == 0x1680 ||
    (0x2000 ≤ code && code ≤ 0x200A) || code == 0x2028 || code == 0x2029 || code == 0x202F ||
    code == 0x205F || code == 0x3000

/-- Whether a character has the property White_Space. -/
def isBlank (c : Char) : Bool := isBlankCode c.toNat

end PluginAudit.Unicode
