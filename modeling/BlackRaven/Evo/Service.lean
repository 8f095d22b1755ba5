import BlackRaven.Primitives.Wire

/-!
Contract: `netaddress.h` and `netaddress.cpp`, as far as provider transactions use them.

Owns: the address of a smartnode, its classes, and its serialization.
-/

namespace BlackRaven.Evo

open Lib

/-- `CService`. The bytes of the address stand in `ip` in memory order, the first one
lowest; the port is in host order. -/
structure CService where
  ip : BitVec 128
  port : BitVec 16
  deriving DecidableEq, Repr

namespace CService

/-- `CService()`. -/
def null : CService := ⟨0, 0⟩

variable (addr : CService)

def ipBytes : Bytes := (word 128 rfl).encode addr.ip

/-- `GetByte`: the bytes counted from the last one. -/
def getByte (n : Nat) : Nat := (addr.ipBytes.getD (15 - n) 0).toNat

/-- `memcmp` of the address with the front of it. -/
def startsWith (front : Bytes) : Bool := front.isPrefixOf addr.ipBytes

def pchIPv4 : Bytes := [0, 0, 0, 0, 0, 0, 0, 0, 0, 0, 0xff, 0xff]
def pchOnionCat : Bytes := [0xfd, 0x87, 0xd8, 0x7e, 0xeb, 0x43]
def internalFront : Bytes := [0xfd, 0x6b, 0x88, 0xc0, 0x87, 0x24]

def isIPv4 : Bool := addr.startsWith pchIPv4
def isTor : Bool := addr.startsWith pchOnionCat
def isInternal : Bool := addr.startsWith internalFront
def isIPv6 : Bool := !addr.isIPv4 && !addr.isTor && !addr.isInternal

def isRFC1918 : Bool :=
  addr.isIPv4 && (addr.getByte 3 == 10
    || (addr.getByte 3 == 192 && addr.getByte 2 == 168)
    || (addr.getByte 3 == 172 && decide (16 ≤ addr.getByte 2 ∧ addr.getByte 2 ≤ 31)))

def isRFC2544 : Bool :=
  addr.isIPv4 && addr.getByte 3 == 198 && (addr.getByte 2 == 18 || addr.getByte 2 == 19)

def isRFC3927 : Bool :=
  addr.isIPv4 && addr.getByte 3 == 169 && addr.getByte 2 == 254

def isRFC6598 : Bool :=
  addr.isIPv4 && addr.getByte 3 == 100 && decide (64 ≤ addr.getByte 2 ∧ addr.getByte 2 ≤ 127)

def isRFC5737 : Bool :=
  addr.isIPv4 && ((addr.getByte 3 == 192 && addr.getByte 2 == 0 && addr.getByte 1 == 2)
    || (addr.getByte 3 == 198 && addr.getByte 2 == 51 && addr.getByte 1 == 100)
    || (addr.getByte 3 == 203 && addr.getByte 2 == 0 && addr.getByte 1 == 113))

def isRFC3849 : Bool := addr.startsWith [0x20, 0x01, 0x0d, 0xb8]

def isRFC4862 : Bool := addr.startsWith [0xfe, 0x80, 0, 0, 0, 0, 0, 0]

/-- The lowest bit of the first byte is masked out. -/
def isRFC4193 : Bool := addr.getByte 15 == 0xfc || addr.getByte 15 == 0xfd

def isRFC4843 : Bool :=
  addr.startsWith [0x20, 0x01, 0x00] && addr.getByte 12 / 16 == 1

def isLocal : Bool :=
  (addr.isIPv4 && (addr.getByte 3 == 127 || addr.getByte 3 == 0))
    || addr.startsWith [0, 0, 0, 0, 0, 0, 0, 0, 0, 0, 0, 0, 0, 0, 0, 1]

def isValid : Bool :=
  if addr.startsWith (pchIPv4.drop 3) then false
  else if addr.ip = 0 then false
  else if addr.isRFC3849 then false
  else if addr.isInternal then false
  else if addr.isIPv4 then
    addr.ipBytes.drop 12 != [0xff, 0xff, 0xff, 0xff] && addr.ipBytes.drop 12 != [0, 0, 0, 0]
  else true

/-- `IsRoutable`; private networks count when the node was started with
`-allowprivatenet`. -/
def isRoutable (fAllowPrivateNet : Bool) (addr : CService) : Bool :=
  if !addr.isValid then false
  else if !fAllowPrivateNet && addr.isRFC1918 then false
  else !(addr.isRFC2544 || addr.isRFC3927 || addr.isRFC4862 || addr.isRFC6598 || addr.isRFC5737
    || (addr.isRFC4193 && !addr.isTor) || addr.isRFC4843 || addr.isLocal || addr.isInternal)

end CService

/-! ## Serialization -/

/-- `htons` and `ntohs`. -/
def swapBytes (port : BitVec 16) : BitVec 16 := port.rotateLeft 8

theorem swapBytes_swapBytes (port : BitVec 16) : swapBytes (swapBytes port) = port := by
  unfold swapBytes
  grind

def service : Codec CService where
  Admissible := fun _ => True
  encode := fun addr => (word 128 rfl).encode addr.ip ++ (word 16 rfl).encode (swapBytes addr.port)
  decode := do
    let ip ← (word 128 rfl).decode
    let portN ← (word 16 rfl).decode
    return ⟨ip, swapBytes portN⟩
  decode_encode := by
    intro addr rest _
    rw [List.append_assoc, Codec.run_bind_encode _ _ _ _ (word_admissible 128 rfl addr.ip),
      Codec.run_bind_encode _ _ _ _ (word_admissible 16 rfl (swapBytes addr.port)),
      swapBytes_swapBytes]
    rfl

end BlackRaven.Evo
