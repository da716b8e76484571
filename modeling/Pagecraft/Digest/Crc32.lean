import Pagecraft.Text.Basic

/-! The cyclic redundancy check of archives: the reflected polynomial `0xedb88320`, all ones
at the start and the end. -/
namespace Pagecraft.Crc32

def shiftOut : Nat → UInt32 → UInt32
  | 0, state => state
  | n + 1, state =>
    shiftOut n (if state &&& 1 = 1 then (state >>> 1) ^^^ 0xedb88320 else state >>> 1)

def absorb (state : UInt32) (byte : UInt8) : UInt32 := shiftOut 8 (state ^^^ byte.toUInt32)

def checksum (bytes : Bytes) : UInt32 := ~~~(bytes.foldl absorb 0xffffffff)

end Pagecraft.Crc32
