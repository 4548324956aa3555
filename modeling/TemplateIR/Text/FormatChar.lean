import TemplateIR.Text.CodeRange

/-!
Unicode format characters (general category `Cf`): characters without a shape of their own, such as
the zero width space, that still change what a text means.
-/
namespace TemplateIR

/-- The format characters of Unicode 15.1, in ascending order. -/
def formatTable : Array CodeRange := #[
  ⟨0x00AD, 0x00AD⟩, ⟨0x0600, 0x0605⟩, ⟨0x061C, 0x061C⟩, ⟨0x06DD, 0x06DD⟩, ⟨0x070F, 0x070F⟩,
  ⟨0x0890, 0x0891⟩, ⟨0x08E2, 0x08E2⟩, ⟨0x180E, 0x180E⟩, ⟨0x200B, 0x200F⟩, ⟨0x202A, 0x202E⟩,
  ⟨0x2060, 0x2064⟩, ⟨0x2066, 0x206F⟩, ⟨0xFEFF, 0xFEFF⟩, ⟨0xFFF9, 0xFFFB⟩, ⟨0x110BD, 0x110BD⟩,
  ⟨0x110CD, 0x110CD⟩, ⟨0x13430, 0x1343F⟩, ⟨0x1BCA0, 0x1BCA3⟩, ⟨0x1D173, 0x1D17A⟩,
  ⟨0xE0001, 0xE0001⟩, ⟨0xE0020, 0xE007F⟩]

/-- Whether `code` is a format character. No code point below the soft hyphen is one, so most text
is answered without a search. -/
def isFormatCode (code : Nat) : Bool :=
  if code < 0xAD then false else CodeRange.inTable formatTable code

def isFormat (c : Char) : Bool :=
  isFormatCode c.toNat

/-- The longest runs of format characters between `low` and `high`. The ranges of the table neither
touch nor overlap, so each run is what one range has in common with the interval. -/
def formatRunsBetween (low high : Nat) : List CodeRange :=
  formatTable.toList.filterMap (CodeRange.clip? low high)

end TemplateIR
