import Mathlib.Algebra.Group.Int.Defs
import Mathlib.Algebra.Group.Nat.Defs

/-!
Contract: the fixed-width integer types of the source and the conversions between
them that the compiler inserts.

Owns: unsigned words as bit vectors and the wrap of a mathematical integer into the
signed types.
-/

namespace BlackRaven

abbrev Uint32 := BitVec 32
abbrev Uint64 := BitVec 64

/-- A 256-bit blob. Hashes, block ids and transaction ids are compared and
serialized, never computed with, except through `arith_uint256`. -/
abbrev Uint256 := BitVec 256

/-- A byte string: `std::vector<unsigned char>`, `std::string` and `CScript` alike. -/
abbrev Bytes := List UInt8

def intMax : Int := 2147483647

def toInt32 (x : Int) : Int := x.bmod (2 ^ 32)

/-- Conversion of an integer to `int64_t`; what 64-bit signed arithmetic computes when
it wraps. -/
def toInt64 (x : Int) : Int := x.bmod (2 ^ 64)

theorem toInt64_of_range {x : Int} (lower : -2 ^ 63 ≤ x) (upper : x < 2 ^ 63) : toInt64 x = x :=
  Int.bmod_eq_of_le (by omega) (by omega)

theorem toInt64_add_left (a b : Int) : toInt64 (toInt64 a + b) = toInt64 (a + b) :=
  Int.bmod_add_bmod

end BlackRaven
