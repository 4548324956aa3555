import TemplateIR.Text.CodeRange

/-!
Characters with the Unicode property `Default_Ignorable_Code_Point`: where a font has no shape for
them, nothing at all is drawn. Most are format characters or variation selectors; the Hangul fillers
are letters.
-/
namespace TemplateIR

def defaultIgnorableRanges : Array CodeRange := #[
  ⟨0xAD, 0xAD⟩, ⟨0x34F, 0x34F⟩, ⟨0x61C, 0x61C⟩, ⟨0x115F, 0x1160⟩, ⟨0x17B4, 0x17B5⟩,
  ⟨0x180B, 0x180F⟩, ⟨0x200B, 0x200F⟩, ⟨0x202A, 0x202E⟩, ⟨0x2060, 0x206F⟩, ⟨0x3164, 0x3164⟩,
  ⟨0xFE00, 0xFE0F⟩, ⟨0xFEFF, 0xFEFF⟩, ⟨0xFFA0, 0xFFA0⟩, ⟨0xFFF0, 0xFFF8⟩, ⟨0x1BCA0, 0x1BCA3⟩,
  ⟨0x1D173, 0x1D17A⟩, ⟨0xE0000, 0xE0FFF⟩]

def isDefaultIgnorable (c : Char) : Bool :=
  CodeRange.inTable defaultIgnorableRanges c.toNat

end TemplateIR
