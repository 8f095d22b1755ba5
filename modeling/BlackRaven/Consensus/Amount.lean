import Mathlib.Data.Int.Notation

/-!
Contract: `amount.h`.

Owns: the satoshi amounts and the range check every value in a transaction
passes through.
-/

namespace BlackRaven.Consensus

/-- Amount in satoshis (can be negative). An `int64_t` in the source; a definition
that adds amounts without a range check wraps explicitly. -/
abbrev CAmount := Int

def coin : CAmount := 100000000

def maxMoney : CAmount := 21000000000 * coin

def moneyRange (nValue : CAmount) : Bool :=
  decide (nValue ≥ 0) && decide (nValue ≤ maxMoney)

theorem moneyRange_iff (nValue : CAmount) : moneyRange nValue = true ↔ 0 ≤ nValue ∧ nValue ≤ maxMoney := by
  simp [moneyRange]

end BlackRaven.Consensus
