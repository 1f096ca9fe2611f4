import Scaffold.Text.Span

/-!
Decimal digits of every script. Each script that writes numbers in tens has a run of ten.
-/
namespace Scaffold.Text

def decimalSpans : List Span :=
  [⟨48, 57, 1⟩, ⟨1632, 1641, 1⟩, ⟨1776, 1785, 1⟩, ⟨1984, 1993, 1⟩, ⟨2406, 2415, 1⟩, ⟨2534, 2543, 1⟩,
   ⟨2662, 2671, 1⟩, ⟨2790, 2799, 1⟩, ⟨2918, 2927, 1⟩, ⟨3046, 3055, 1⟩, ⟨3174, 3183, 1⟩,
   ⟨3302, 3311, 1⟩, ⟨3430, 3439, 1⟩, ⟨3558, 3567, 1⟩, ⟨3664, 3673, 1⟩, ⟨3792, 3801, 1⟩,
   ⟨3872, 3881, 1⟩, ⟨4160, 4169, 1⟩, ⟨4240, 4249, 1⟩, ⟨6112, 6121, 1⟩, ⟨6160, 6169, 1⟩,
   ⟨6470, 6479, 1⟩, ⟨6608, 6617, 1⟩, ⟨6784, 6793, 1⟩, ⟨6800, 6809, 1⟩, ⟨6992, 7001, 1⟩,
   ⟨7088, 7097, 1⟩, ⟨7232, 7241, 1⟩, ⟨7248, 7257, 1⟩, ⟨42528, 42537, 1⟩, ⟨43216, 43225, 1⟩,
   ⟨43264, 43273, 1⟩, ⟨43472, 43481, 1⟩, ⟨43504, 43513, 1⟩, ⟨43600, 43609, 1⟩, ⟨44016, 44025, 1⟩,
   ⟨65296, 65305, 1⟩, ⟨66720, 66729, 1⟩, ⟨68912, 68921, 1⟩, ⟨69734, 69743, 1⟩, ⟨69872, 69881, 1⟩,
   ⟨69942, 69951, 1⟩, ⟨70096, 70105, 1⟩, ⟨70384, 70393, 1⟩, ⟨70736, 70745, 1⟩, ⟨70864, 70873, 1⟩,
   ⟨71248, 71257, 1⟩, ⟨71360, 71369, 1⟩, ⟨71472, 71481, 1⟩, ⟨71904, 71913, 1⟩, ⟨72016, 72025, 1⟩,
   ⟨72784, 72793, 1⟩, ⟨73040, 73049, 1⟩, ⟨73120, 73129, 1⟩, ⟨92768, 92777, 1⟩, ⟨92864, 92873, 1⟩,
   ⟨93008, 93017, 1⟩, ⟨120782, 120831, 1⟩, ⟨123200, 123209, 1⟩, ⟨123632, 123641, 1⟩,
   ⟨125264, 125273, 1⟩, ⟨130032, 130041, 1⟩]

/-- A digit of some script, from zero to nine. -/
def isDecimal (c : Char) : Bool :=
  inSpans decimalSpans c

end Scaffold.Text
