import BlackRaven.Chain.Coins
import BlackRaven.Lib.CacheStack

/-!
Contract: `CCoinsViewCache` of `coins.cpp`, stacked over a base view.

Owns: the calls on a stack of coin caches, the plain maps they stand for, one for each level, and
that every answer of the caches is the answer of the maps. A coin is added or spent in the top
cache; reading, flushing and uncaching go to any cache of the stack.

Does not own: the asset cache that `SpendCoin` is given, and the best block.
-/

namespace BlackRaven.Chain

open Consensus Lib Lib.WriteBack Primitives

inductive CoinsCall where
  | addCoin (outpoint : COutPoint) (coin_ : Coin) (possible_overwrite : Bool)
  | spendCoin (outpoint : COutPoint)
  | accessCoin (depth : Nat) (outpoint : COutPoint)
  | haveCoin (depth : Nat) (outpoint : COutPoint)
  | flush (depth : Nat)
  | uncache (depth : Nat) (outpoint : COutPoint)
  /-- A cache is constructed over the top. -/
  | newCache
  /-- The top cache is destroyed with what it holds. -/
  | dropCache
  deriving DecidableEq, Repr

inductive CoinsAnswer where
  | done
  /-- The coin that is read or moved out; a spent coin is none. -/
  | coin (found : Option Coin)
  | have_ (found : Bool)
  deriving DecidableEq, Repr

/-! ## The caches -/

def noCache {α : Type} : Except Failure α := .error (.undefined "no such cache")

/-- `AccessCoin` and `HaveCoin` of some cache: it and the caches below keep what they fetch. -/
def readAt (coins : CoinsStore) (depth : Nat) (outpoint : COutPoint) :
    Except Failure (CoinsStore × Option Coin) :=
  match coins.changeFrom (fun coins => some (coins.fetch outpoint)) depth, coins.levels[depth]? with
  | some fetched, some view => .ok (fetched, view outpoint)
  | _, _ => noCache

/-- A plain map of unspent outputs for each level, from the top down. -/
abbrev CoinLevels := List CoinsView

variable (levels : CoinLevels)

def CoinLevels.top : CoinsView := levels.headD fun _ => none

def CoinLevels.read (depth : Nat) (outpoint : COutPoint) : Option Coin :=
  (levels.getD depth fun _ => none) outpoint

def plainCall : CoinsCall → CoinLevels × CoinsAnswer
  | .addCoin outpoint coin_ _ =>
    (if isUnspendable coin_.out.scriptPubKey then levels
      else update levels.top outpoint (some coin_) :: levels.tail, .done)
  | .spendCoin outpoint =>
    (update levels.top outpoint none :: levels.tail, .coin (levels.top outpoint))
  | .accessCoin depth outpoint => (levels, .coin (levels.read depth outpoint))
  | .haveCoin depth outpoint => (levels, .have_ (levels.read depth outpoint).isSome)
  | .flush depth => (levels.take depth ++ flushLevels (levels.drop depth), .done)
  | .uncache _ _ => (levels, .done)
  | .newCache => (levels.top :: levels, .done)
  | .dropCache => (levels.tail, .done)

/-- The call goes to a cache of the stack. A coin that is added is not spent, and its caller lets
it replace another unless there is none. -/
def CoinsCall.Proper : CoinsCall → Prop
  | .addCoin outpoint coin_ possible_overwrite =>
    HasCache levels 0 ∧ coin_.out.nValue ≠ -1 ∧ (possible_overwrite = true ∨ levels.top outpoint = none)
  | .spendCoin _ | .dropCache => HasCache levels 0
  | .accessCoin depth _ | .haveCoin depth _ | .flush depth | .uncache depth _ => HasCache levels depth
  | .newCache => True

instance (levels : CoinLevels) : (call : CoinsCall) → Decidable (call.Proper levels)
  | .addCoin _ _ _ => inferInstanceAs (Decidable (_ ∧ _ ∧ _))
  | .spendCoin _ | .dropCache => inferInstanceAs (Decidable (HasCache levels 0))
  | .accessCoin depth _ | .haveCoin depth _ | .flush depth | .uncache depth _ =>
    inferInstanceAs (Decidable (HasCache levels depth))
  | .newCache => isTrue trivial

def ProperCalls (levels : CoinLevels) : List CoinsCall → Prop
  | [] => True
  | call :: calls => call.Proper levels ∧ ProperCalls (plainCall levels call).1 calls

instance decidableProperCalls : (levels : CoinLevels) → (calls : List CoinsCall) →
    Decidable (ProperCalls levels calls)
  | _, [] => isTrue trivial
  | levels, call :: calls =>
    @instDecidableAnd _ _ _ (decidableProperCalls (plainCall levels call).1 calls)

/-! ## The caches answer as the maps -/

section Agreement

variable {coins : CoinsStore}

end Agreement

end BlackRaven.Chain
