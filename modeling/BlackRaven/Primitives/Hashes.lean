import BlackRaven.Lib.Codec
import BlackRaven.Primitives.Integers

/-!
Contract: the digests of `crypto/` and the compositions of `hash.h`.

Does not own: the digest algorithms. They are parameters; only the length of what
they return is fixed.
-/

namespace BlackRaven.Primitives

open Lib

structure Digests where
  sha256 : Bytes → Bytes
  ripemd160 : Bytes → Bytes
  sha1 : Bytes → Bytes
  sha256_length : ∀ bytes, (sha256 bytes).length = 32
  ripemd160_length : ∀ bytes, (ripemd160 bytes).length = 20
  sha1_length : ∀ bytes, (sha1 bytes).length = 20

namespace Digests

variable (digests : Digests) (bytes : Bytes)

def hash256 : Bytes := digests.sha256 (digests.sha256 bytes)

def hash160 : Bytes := digests.ripemd160 (digests.sha256 bytes)

/-- `Hash`, as the `uint256` it is stored in. -/
def hash : Uint256 :=
  BitVec.ofNat 256 (ofBytesLE (digests.hash256 bytes))

theorem nil_sized : ∀ entry ∈ ([] : List (Bytes × Bytes)), entry.2.length = 32 :=
  fun _ member => absurd member List.not_mem_nil

/-- SHA-256 as far as a table has it, for runs on given inputs; zeros elsewhere, and for
the other digests everywhere. -/
def tabulated (table : List (Bytes × Bytes)) (sized : ∀ entry ∈ table, entry.2.length = 32) :
    Digests where
  sha256 := fun bytes => ((table.find? (·.1 = bytes)).map Prod.snd).getD (List.replicate 32 0)
  ripemd160 := fun _ => List.replicate 20 0
  sha1 := fun _ => List.replicate 20 0
  sha256_length := by
    intro bytes
    cases found : table.find? (·.1 = bytes) with
    | none => exact List.length_replicate
    | some entry => exact sized entry (List.mem_of_find?_eq_some found)
  ripemd160_length := fun _ => List.length_replicate
  sha1_length := fun _ => List.length_replicate

/-- The rows of a table that `hash` of each input reads: SHA-256 once and twice. -/
def hashRows (inputs : List (Bytes × Nat × Nat)) : List (Bytes × Bytes) :=
  inputs.flatMap fun (input, once, twice) =>
    [(input, toBytesLE 32 once), (toBytesLE 32 once, toBytesLE 32 twice)]

end Digests

def merkleNode (left right : Nat) : Bytes := toBytesLE 32 left ++ toBytesLE 32 right

end BlackRaven.Primitives
