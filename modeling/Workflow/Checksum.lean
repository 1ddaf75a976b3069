/-! The CRC-32C checksum of a byte string, register shifted towards the low bit. -/

namespace Workflow.Checksum

/-- The Castagnoli polynomial, lowest power in the highest bit. -/
def polynomial : BitVec 32 := 0x82f63b78#32

def shift (register : BitVec 32) : BitVec 32 :=
  if register.getLsbD 0 then (register >>> 1) ^^^ polynomial else register >>> 1

def feed (register : BitVec 32) (byte : UInt8) : BitVec 32 :=
  Nat.repeat shift 8 (register ^^^ byte.toBitVec.setWidth 32)

/-- The register starts with all bits set and is complemented at the end. -/
def crc (bytes : List UInt8) : BitVec 32 :=
  ~~~(bytes.foldl feed (BitVec.allOnes 32))

def hexDigit (n : Nat) : Char := Nat.digitChar (n % 16)

def hex (word : BitVec 32) : String :=
  String.ofList ([7, 6, 5, 4, 3, 2, 1, 0].map fun i => hexDigit (word >>> (4 * i)).toNat)

def ofBytes (bytes : List UInt8) : String := hex (crc bytes)

theorem length_hex (word : BitVec 32) : (hex word).length = 8 := by
  simp [hex]

-- the check value of CRC-32C
example : ofBytes "123456789".toUTF8.data.toList = "e3069283" := by decide +kernel

end Workflow.Checksum
