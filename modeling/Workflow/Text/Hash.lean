/-! Hash codes of texts. -/

namespace Workflow

abbrev Hasher := List UInt8 → UInt64

namespace Hasher

def standard : Hasher := fun bytes => bytes.foldl (fun code byte => 31 * code + byte.toUInt64) 7

end Hasher

namespace Text

/-- A text writes its bytes to a hasher, and behind them one that is in no text. -/
def hashed (s : String) : List UInt8 := s.toUTF8.data.toList ++ [0xff]

end Text

end Workflow
