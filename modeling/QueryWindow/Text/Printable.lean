import QueryWindow.Text.GraphemeExtend
import QueryWindow.Text.Unassigned

/-!
# QueryWindow.Text.Printable

**Characters that can be shown as they are.** Not printable are controls, separators other than the
space, formatting and ignorable characters, private and unassigned code points, and marks that
attach to the character before them. Each of these classes is a Unicode property with a test of its
own.

Two letters have the property of such marks and are printable all the same: the halfwidth Katakana
sound marks take up a place of their own beside the letter before them.
-/

namespace QueryWindow

/-- A code point lies in one of the given inclusive ranges. -/
def inRanges (ranges : List (Nat × Nat)) (n : Nat) : Bool :=
  ranges.any fun range => range.1 ≤ n && n ≤ range.2

/-- Controls, general category `Cc`. -/
def isControl (c : Char) : Bool :=
  c.toNat < 0x20 || (0x7F ≤ c.toNat && c.toNat ≤ 0x9F)

/-- Line, paragraph and space separators other than the space, categories `Zl`, `Zp` and `Zs`. -/
def isSeparator (c : Char) : Bool :=
  inRanges [(0xA0, 0xA0), (0x1680, 0x1680), (0x2000, 0x200A), (0x2028, 0x2029), (0x202F, 0x202F),
    (0x205F, 0x205F), (0x3000, 0x3000)] c.toNat

/-- Formatting characters such as joiners and changes of direction, category `Cf`. -/
def isFormatting (c : Char) : Bool :=
  inRanges [(0xAD, 0xAD), (0x600, 0x605), (0x61C, 0x61C), (0x6DD, 0x6DD), (0x70F, 0x70F),
    (0x890, 0x891), (0x8E2, 0x8E2), (0x180E, 0x180E), (0x200B, 0x200F), (0x202A, 0x202E),
    (0x2060, 0x2064), (0x2066, 0x206F), (0xFEFF, 0xFEFF), (0xFFF9, 0xFFFB), (0x110BD, 0x110BD),
    (0x110CD, 0x110CD), (0x13430, 0x1343F), (0x1BCA0, 0x1BCA3), (0x1D173, 0x1D17A),
    (0xE0001, 0xE0001), (0xE0020, 0xE007F)] c.toNat

/-- Characters that are not shown at all where they have no effect, such as fillers and variation
selectors, property `Default_Ignorable_Code_Point`. -/
def isIgnorable (c : Char) : Bool :=
  inRanges [(0xAD, 0xAD), (0x34F, 0x34F), (0x61C, 0x61C), (0x115F, 0x1160), (0x17B4, 0x17B5),
    (0x180B, 0x180F), (0x200B, 0x200F), (0x202A, 0x202E), (0x2060, 0x206F), (0x3164, 0x3164),
    (0xFE00, 0xFE0F), (0xFEFF, 0xFEFF), (0xFFA0, 0xFFA0), (0xFFF0, 0xFFF8), (0x1BCA0, 0x1BCA3),
    (0x1D173, 0x1D17A), (0xE0000, 0xE0FFF)] c.toNat

/-- Private characters, category `Co`. -/
def isPrivate (c : Char) : Bool :=
  inRanges [(0xE000, 0xF8FF), (0xF0000, 0xFFFFD), (0x100000, 0x10FFFD)] c.toNat

/-- Code points without a character, category `Cn`. -/
def isUnassigned (c : Char) : Bool := inRanges unassignedRanges c.toNat

/-- Marks that attach to the character before them, property `Grapheme_Extend`. -/
def extendsGrapheme (c : Char) : Bool := inRanges graphemeExtendRanges c.toNat

/-- The halfwidth Katakana voiced and semi-voiced sound marks, letters of category `Lm`. -/
def isHalfwidthSoundMark (c : Char) : Bool := c = '\uFF9E' || c = '\uFF9F'

/-- The character is visible, or the space, and stands for itself wherever it is shown. -/
def isPrintable (c : Char) : Bool :=
  !(isControl c || isSeparator c || isFormatting c || isIgnorable c || isPrivate c ||
    isUnassigned c || (extendsGrapheme c && !isHalfwidthSoundMark c))

end QueryWindow
