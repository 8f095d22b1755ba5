import BlackRaven.Primitives.Wire
import BlackRaven.Script.Script

/-!
Contract: `compressor.h` and `compressor.cpp`, the short form of an output in the undo files.

Owns: amounts and scripts in their short forms, and what is read back. The short form of an
amount is a 64 bit number, and the largest amounts below `MAX_MONEY` do not fit it.

Does not own: points of the curve. What `IsFullyValid` and `Decompress` of a public key do is
a parameter, with the law that a valid key is recovered.
-/

namespace BlackRaven.Script

open Consensus Lib

/-! ## Amounts -/

/-- Divide by ten while there is a last digit zero, at most a given number of times: the rest
and the number of zeros. -/
def stripZeros : Nat → Nat → Nat × Nat
  | 0, n => (n, 0)
  | left + 1, n =>
    if n % 10 = 0 then ((stripZeros left (n / 10)).1, (stripZeros left (n / 10)).2 + 1) else (n, 0)

/-- The short form of an amount as a number of any size. -/
def shortAmount (n : Nat) : Nat :=
  if n = 0 then 0
  else
    let (n, e) := stripZeros 9 n
    if e < 9 then 1 + (n / 10 * 9 + n % 10 - 1) * 10 + e else 1 + (n - 1) * 10 + 9

/-- `CompressAmount`, in 64 bits. -/
def compressAmount (n : Nat) : Nat := shortAmount n % 2 ^ 64

def decompressAmount (x : Nat) : Nat :=
  if x = 0 then 0
  else
    let e := (x - 1) % 10
    let x := (x - 1) / 10
    let n := if e < 9 then x / 9 * 10 + (x % 9 + 1) else x + 1
    n * 10 ^ e % 2 ^ 64

theorem stripZeros_spec (left n : Nat) :
    n = (stripZeros left n).1 * 10 ^ (stripZeros left n).2 ∧ (stripZeros left n).2 ≤ left
      ∧ ((stripZeros left n).2 < left → (stripZeros left n).1 % 10 ≠ 0) := by
  induction left generalizing n with
  | zero => simp [stripZeros]
  | succ left ih =>
    obtain ⟨value, bounded, stops⟩ := ih (n / 10)
    unfold stripZeros
    by_cases zero : n % 10 = 0
    · simp only [if_pos zero]
      rw [pow_succ, ← mul_assoc, ← value]
      omega
    · simp only [if_neg zero]
      exact ⟨by simp, by omega, fun _ => zero⟩

theorem decompressAmount_short (front : Nat) {e : Nat} (digit : e ≤ 9) :
    decompressAmount (1 + front * 10 + e)
      = (if e < 9 then front / 9 * 10 + (front % 9 + 1) else front + 1) * 10 ^ e % 2 ^ 64 := by
  have last : (1 + front * 10 + e - 1) % 10 = e := by omega
  have rest : (1 + front * 10 + e - 1) / 10 = front := by omega
  rw [decompressAmount, if_neg (by omega)]
  simp only [last, rest]

theorem decompressAmount_compressAmount {n : Nat} (amount : n < 2 ^ 64)
    (fits : shortAmount n < 2 ^ 64) : decompressAmount (compressAmount n) = n := by
  rw [compressAmount, Nat.mod_eq_of_lt fits]
  by_cases zero : n = 0
  · rw [zero]
    rfl
  obtain ⟨value, bounded, stops⟩ := stripZeros_spec 9 n
  unfold shortAmount
  rw [if_neg zero]
  generalize stripZeros 9 n = stripped at value bounded stops
  obtain ⟨rest, e⟩ := stripped
  dsimp only at value bounded stops ⊢
  by_cases few : e < 9
  · have digit := stops few
    have whole : (rest / 10 * 9 + rest % 10 - 1) / 9 * 10 + ((rest / 10 * 9 + rest % 10 - 1) % 9 + 1) = rest := by
      omega
    rw [if_pos few, decompressAmount_short _ bounded, if_pos few, whole, ← value, Nat.mod_eq_of_lt amount]
  · obtain rfl : e = 9 := by omega
    rw [if_neg few, decompressAmount_short _ bounded, if_neg few, show rest - 1 + 1 = rest by omega, ← value,
      Nat.mod_eq_of_lt amount]

/-- The largest amount with a last digit other than zero whose short form fits. -/
def largestShort : Nat := 2049638230412172402

/-- Up to there, and for every amount of money that ends in a zero, the short form fits. -/
theorem shortAmount_lt {n : Nat} (amount : (n : Int) ≤ maxMoney)
    (short : n ≤ largestShort ∨ n % 10 = 0) : shortAmount n < 2 ^ 64 := by
  unfold shortAmount
  split
  · decide
  obtain ⟨value, bounded, stops⟩ := stripZeros_spec 9 n
  have zeros : n % 10 = 0 → (stripZeros 9 n).2 ≠ 0 := by
    intro zero
    simp only [stripZeros, if_pos zero]
    omega
  generalize stripZeros 9 n = stripped at value bounded stops zeros
  obtain ⟨rest, e⟩ := stripped
  dsimp only at value bounded stops zeros ⊢
  have money : n ≤ 2100000000000000000 := by
    simp only [maxMoney, coin] at amount
    omega
  simp only [largestShort] at short
  by_cases none : e = 0
  · rw [none, pow_zero, mul_one] at value
    rw [none, if_pos (by omega)]
    omega
  · have tenth : 10 * rest ≤ n := by
      rw [value]
      calc 10 * rest = rest * 10 ^ 1 := by ring
        _ ≤ rest * 10 ^ e := Nat.mul_le_mul_left rest (Nat.pow_le_pow_right (by omega) (by omega))
    split <;> omega

/-- What is left of a short form that wrapped around, without its last digit. -/
private theorem wrapped_front {n front : Nat}
    (isFront : front + 1844674407370955163 = n / 10 * 9 + n % 10) :
    front / 9 * 10 + (front % 9 + 1) + 2049638230412172402 = n
      ∨ front / 9 * 10 + (front % 9 + 1) + 2049638230412172403 = n := by
  omega

private theorem mod_eq_mul_inverse {modulus factor inverse x y : Nat}
    (unit : factor * inverse % modulus = 1 % modulus) (same : factor * x % modulus = y % modulus) :
    x % modulus = y * inverse % modulus := by
  calc x % modulus = x * (factor * inverse % modulus) % modulus := by rw [unit, Nat.mul_mod_mod, mul_one]
    _ = factor * x % modulus * inverse % modulus := by
        rw [Nat.mul_mod_mod, Nat.mod_mul_mod, Nat.mul_left_comm, Nat.mul_assoc]
    _ = y * inverse % modulus := by rw [same, Nat.mod_mul_mod]

/-- Four zeros after it do not give the amount again: 9999 has an inverse modulo 2^64. -/
private theorem wrapped_ne {n rest apart : Nat} (money : n ≤ 2100000000000000000)
    (least : 2049638230412172402 ≤ apart) (isApart : rest + apart = n)
    (large : 51000000000000000 ≤ apart * 13458245626333751279 % 18446744073709551616) :
    rest * 10 ^ 4 % 2 ^ 64 ≠ n := by
  have small : rest < 51000000000000000 := by omega
  intro same
  have difference : 9999 * rest % 18446744073709551616 = apart % 18446744073709551616 := by
    omega
  have unit : 9999 * 13458245626333751279 % 18446744073709551616 = 1 % 18446744073709551616 := by decide
  rw [← mod_eq_mul_inverse unit difference, Nat.mod_eq_of_lt (small.trans (by decide))] at large
  exact absurd large (not_le.mpr small)

/-- The bound is sharp: above it the short form of an amount of money without a zero at the end
wraps around, and its last digit then stands for four zeros. -/
theorem short_of_decompressAmount {n : Nat} (amount : (n : Int) ≤ maxMoney)
    (read : decompressAmount (compressAmount n) = n) : n ≤ largestShort ∨ n % 10 = 0 := by
  have money : n ≤ 2100000000000000000 := by
    simp only [maxMoney, coin] at amount
    omega
  by_contra long
  rw [not_or, not_le, largestShort] at long
  have whole : shortAmount n = 1 + (n / 10 * 9 + n % 10 - 1) * 10 := by
    simp [shortAmount, stripZeros, long.2, show n ≠ 0 by omega]
  obtain ⟨front, isFront⟩ : ∃ front, front + 1844674407370955163 = n / 10 * 9 + n % 10 :=
    ⟨_, Nat.sub_add_cancel (by omega)⟩
  have wrapped : compressAmount n = 1 + front * 10 + 4 := by
    rw [compressAmount, whole]
    omega
  rw [wrapped, decompressAmount_short _ (by decide), if_pos (by decide)] at read
  rcases wrapped_front isFront with apart | apart
  · exact wrapped_ne money (by decide) apart (by decide) read
  · exact wrapped_ne money (by decide) apart (by decide) read

/-! ## Scripts -/

structure KeyPoints where
  isFullyValid : Bytes → Bool
  /-- `CPubKey::Decompress`. -/
  decompress : Bytes → Option Bytes
  /-- A valid uncompressed key is recovered from its first coordinate and the parity of the
  second. -/
  recovers : ∀ (coordinates : Bytes), coordinates.length = 64 → isFullyValid (4 :: coordinates) = true →
    decompress ((2 ||| (coordinates.getD 63 0 &&& 1)) :: coordinates.take 32) = some (4 :: coordinates)

def nSpecialScripts : Nat := 6

def isToKeyID (script : Bytes) : Bool :=
  script.length == 25 && script.take 3 == [opDup, opHash160, 20]
    && script.drop 23 == [opEqualverify, opChecksig]

def isToScriptID (script : Bytes) : Bool :=
  script.length == 23 && script.take 2 == [opHash160, 20] && script.drop 22 == [opEqual]

def isToPubKey (points : KeyPoints) (script : Bytes) : Option Bytes :=
  if script.length = 35 ∧ script.head? = some 33 ∧ script.drop 34 = [opChecksig]
      ∧ (script.getD 1 0 = 2 ∨ script.getD 1 0 = 3) then
    some ((script.drop 1).take 33)
  else if script.length = 67 ∧ script.head? = some 65 ∧ script.drop 66 = [opChecksig]
      ∧ script.getD 1 0 = 4 ∧ points.isFullyValid ((script.drop 1).take 65) = true then
    some ((script.drop 1).take 65)
  else none

def compressScript (points : KeyPoints) (script : Bytes) : Option Bytes :=
  if isToKeyID script then some (0 :: (script.drop 3).take 20)
  else if isToScriptID script then some (1 :: (script.drop 2).take 20)
  else
    (isToPubKey points script).map fun pubkey =>
      let first := pubkey.getD 0 0
      (if first = 4 then 4 ||| (pubkey.getD 64 0 &&& 1) else first) :: (pubkey.drop 1).take 32

def getSpecialSize (nSize : Nat) : Nat := if nSize < 2 then 20 else 32

/-- `CScriptCompressor::Decompress`. A script that cannot be told stays empty. -/
def decompressScript (points : KeyPoints) (nSize : Nat) (data : Bytes) : Bytes :=
  if nSize = 0 then [opDup, opHash160, 20] ++ data ++ [opEqualverify, opChecksig]
  else if nSize = 1 then [opHash160, 20] ++ data ++ [opEqual]
  else if nSize = 2 ∨ nSize = 3 then 33 :: UInt8.ofNat nSize :: (data ++ [opChecksig])
  else
    match points.decompress (UInt8.ofNat (nSize - 2) :: data) with
    | none => []
    | some pubkey => 65 :: (pubkey ++ [opChecksig])

def serializeScript (points : KeyPoints) (script : Bytes) : Bytes :=
  (compressScript points script).getD (varIntEncode (script.length + nSpecialScripts) ++ script)

/-- The bytes after the size. An overly long script is read as `OP_RETURN`. -/
def readScript (points : KeyPoints) (nSize : Nat) : Decoder Bytes := do
  if nSize < nSpecialScripts then
    let data ← takeBytes (getSpecialSize nSize)
    return decompressScript points nSize data
  else
    let script ← takeBytes (nSize - nSpecialScripts)
    return if nSize - nSpecialScripts > maxScriptSize then [opReturn] else script

def unserializeScript (points : KeyPoints) : Decoder Bytes :=
  (varInt (2 ^ 32 - 1)).decode >>= readScript points

section Back

variable {points : KeyPoints} {script : Bytes}

theorem unserializeScript_special (points : KeyPoints) {nSize : Nat} (special : nSize < nSpecialScripts)
    {data : Bytes} (sized : data.length = getSpecialSize nSize) (rest : Bytes) :
    (unserializeScript points).run (UInt8.ofNat nSize :: data ++ rest)
      = some (decompressScript points nSize data, rest) := by
  have small : nSize ≤ 0x7f := special.le.trans (by decide)
  have first : UInt8.ofNat nSize :: data ++ rest = (varInt (2 ^ 32 - 1)).encode nSize ++ (data ++ rest) := by
    change _ = varIntEncode nSize ++ _
    rw [varIntEncode, if_pos small]
    rfl
  have taken := takeBytes_run_append data rest
  rw [sized] at taken
  rw [first, unserializeScript, (varInt (2 ^ 32 - 1)).run_bind_encode _ _ _ (small.trans (by decide)),
    readScript, if_pos special, StateT.run_bind, taken]
  rfl

theorem unserializeScript_long (points : KeyPoints) (short : script.length ≤ maxScriptSize) (rest : Bytes) :
    (unserializeScript points).run (varIntEncode (script.length + nSpecialScripts) ++ script ++ rest)
      = some (script, rest) := by
  have small : script.length + nSpecialScripts ≤ 2 ^ 32 - 1 := by
    simp only [maxScriptSize, nSpecialScripts] at short ⊢
    omega
  have first := (varInt (2 ^ 32 - 1)).run_bind_encode (readScript points) _ (script ++ rest) small
  rw [List.append_assoc]
  refine first.trans ?_
  rw [readScript, if_neg (by omega), Nat.add_sub_cancel, StateT.run_bind, takeBytes_run_append]
  simp [not_lt.mpr short]

theorem take_append_take_append_drop (bytes : Bytes) (front middle : Nat) :
    bytes = bytes.take front ++ (bytes.drop front).take middle ++ bytes.drop (front + middle) := by
  rw [List.append_assoc, ← List.drop_drop, List.take_append_drop, List.take_append_drop]

theorem isToKeyID_eq (isKey : isToKeyID script = true) :
    ((script.drop 3).take 20).length = 20
      ∧ script = [opDup, opHash160, 20] ++ (script.drop 3).take 20 ++ [opEqualverify, opChecksig] := by
  simp only [isToKeyID, Bool.and_eq_true, beq_iff_eq] at isKey
  obtain ⟨⟨length, front⟩, back⟩ := isKey
  refine ⟨by simp [length], ?_⟩
  have parts := take_append_take_append_drop script 3 20
  rwa [front, back] at parts

theorem isToScriptID_eq (isScript : isToScriptID script = true) :
    ((script.drop 2).take 20).length = 20
      ∧ script = [opHash160, 20] ++ (script.drop 2).take 20 ++ [opEqual] := by
  simp only [isToScriptID, Bool.and_eq_true, beq_iff_eq] at isScript
  obtain ⟨⟨length, front⟩, back⟩ := isScript
  refine ⟨by simp [length], ?_⟩
  have parts := take_append_take_append_drop script 2 20
  rwa [front, back] at parts

theorem paysKey_eq {size : Nat} {byte : UInt8} (length : script.length = size + 3)
    (front : script.head? = some byte) (back : script.drop (size + 2) = [opChecksig]) :
    ∃ coordinates, coordinates.length = size
      ∧ (script.drop 1).take (size + 1) = script.getD 1 0 :: coordinates
      ∧ script = byte :: (script.getD 1 0 :: coordinates ++ [opChecksig]) := by
  match script with
  | [] => cases front
  | [_] => cases length
  | head :: first :: rest =>
    cases front
    have last : rest.drop size = [opChecksig] := back
    refine ⟨rest.take size, ?_, rfl, ?_⟩
    · simp only [List.length_cons] at length
      rw [List.length_take]
      omega
    · rw [← last, List.cons_append, List.take_append_drop]
      rfl

/-- The key of a script that pays to one, with its first byte apart. -/
theorem isToPubKey_eq {pubkey : Bytes} (isKey : isToPubKey points script = some pubkey) :
    ∃ (first : UInt8) (coordinates : Bytes), pubkey = first :: coordinates
      ∧ script = UInt8.ofNat pubkey.length :: (pubkey ++ [opChecksig])
      ∧ ((first = 2 ∨ first = 3) ∧ coordinates.length = 32
        ∨ first = 4 ∧ coordinates.length = 64 ∧ points.isFullyValid pubkey = true) := by
  unfold isToPubKey at isKey
  split at isKey
  next short =>
    obtain ⟨length, front, back, tag⟩ := short
    obtain ⟨coordinates, keyLength, isCons, parts⟩ := paysKey_eq length front back
    obtain rfl := Option.some.inj isKey
    rw [isCons]
    exact ⟨_, coordinates, rfl, by rw [List.length_cons, keyLength]; exact parts, .inl ⟨tag, keyLength⟩⟩
  next =>
    split at isKey
    next long =>
      obtain ⟨length, front, back, tag, valid⟩ := long
      obtain ⟨coordinates, keyLength, isCons, parts⟩ := paysKey_eq length front back
      obtain rfl := Option.some.inj isKey
      rw [isCons] at valid ⊢
      exact ⟨_, coordinates, rfl, by rw [List.length_cons, keyLength]; exact parts,
        .inr ⟨tag, keyLength, valid⟩⟩
    next => cases isKey

theorem unserializeScript_key (points : KeyPoints) {nSize : Nat} (isKey : nSize = 4 ∨ nSize = 5)
    {data pubkey : Bytes} (recovered : points.decompress (UInt8.ofNat (nSize - 2) :: data) = some pubkey)
    (sized : data.length = 32) (rest : Bytes) :
    (unserializeScript points).run (UInt8.ofNat nSize :: data ++ rest)
      = some (65 :: (pubkey ++ [opChecksig]), rest) := by
  have read : decompressScript points nSize data = 65 :: (pubkey ++ [opChecksig]) := by
    unfold decompressScript
    rw [if_neg (by omega), if_neg (by omega), if_neg (by omega), recovered]
  rw [← read]
  apply unserializeScript_special points
  · simp only [nSpecialScripts]
    omega
  · rw [sized, getSpecialSize, if_neg (by omega)]

theorem and_one_eq (byte : UInt8) : byte &&& 1 = 0 ∨ byte &&& 1 = 1 := by
  have bit : (byte &&& 1).toNat = byte.toNat % 2 := by
    exact Nat.and_one_is_mod byte.toNat
  rcases Nat.mod_two_eq_zero_or_one byte.toNat with even | odd
  · left
    exact UInt8.toNat_inj.mp (bit.trans even)
  · right
    exact UInt8.toNat_inj.mp (bit.trans odd)

theorem unserializeScript_pubKey {pubkey : Bytes} (isKey : isToPubKey points script = some pubkey)
    (rest : Bytes) :
    (unserializeScript points).run (((if pubkey.getD 0 0 = 4 then 4 ||| (pubkey.getD 64 0 &&& 1)
        else pubkey.getD 0 0) :: (pubkey.drop 1).take 32) ++ rest) = some (script, rest) := by
  obtain ⟨first, coordinates, rfl, isScript, kind⟩ := isToPubKey_eq isKey
  rw [isScript]
  simp only [List.getD_cons_zero, List.getD_cons_succ, List.drop_succ_cons, List.drop_zero]
  rcases kind with ⟨tag, length⟩ | ⟨tag, length, valid⟩
  · have tagged : first ≠ 4 := by rcases tag with rfl | rfl <;> decide
    have isTag : UInt8.ofNat first.toNat = first := UInt8.ofNat_toNat
    have special : first.toNat < nSpecialScripts := by rcases tag with rfl | rfl <;> decide
    have read := unserializeScript_special points special
      (show (coordinates.take 32).length = _ by rcases tag with rfl | rfl <;> simp [length, getSpecialSize]) rest
    rw [isTag] at read
    rw [if_neg tagged, read, List.take_of_length_le length.le]
    rcases tag with rfl | rfl <;> simp [decompressScript, length]
  · subst tag
    have recovered := points.recovers coordinates length valid
    have half : (coordinates.take 32).length = 32 := by simp [length]
    rw [List.length_cons, length]
    rcases and_one_eq (coordinates.getD 63 0) with even | odd
    · rw [even] at recovered ⊢
      exact unserializeScript_key points (.inl rfl) recovered half rest
    · rw [odd] at recovered ⊢
      exact unserializeScript_key points (.inr rfl) recovered half rest

theorem unserializeScript_serializeScript (short : script.length ≤ maxScriptSize) (rest : Bytes) :
    (unserializeScript points).run (serializeScript points script ++ rest) = some (script, rest) := by
  unfold serializeScript compressScript
  by_cases toKey : isToKeyID script = true
  · obtain ⟨length, parts⟩ := isToKeyID_eq toKey
    rw [if_pos toKey, Option.getD_some]
    have read := unserializeScript_special points (show 0 < nSpecialScripts by decide) length rest
    rw [show decompressScript points 0 ((script.drop 3).take 20) = script from parts.symm] at read
    exact read
  rw [if_neg toKey]
  by_cases toScript : isToScriptID script = true
  · obtain ⟨length, parts⟩ := isToScriptID_eq toScript
    rw [if_pos toScript, Option.getD_some]
    have read := unserializeScript_special points (show 1 < nSpecialScripts by decide) length rest
    rw [show decompressScript points 1 ((script.drop 2).take 20) = script from parts.symm] at read
    exact read
  rw [if_neg toScript]
  cases toPubKey : isToPubKey points script with
  | some pubkey =>
    exact unserializeScript_pubKey toPubKey rest
  | none =>
    exact unserializeScript_long points short rest

end Back

def compressedScript (points : KeyPoints) : Codec Bytes where
  Admissible := fun script => script.length ≤ maxScriptSize
  encode := serializeScript points
  decode := unserializeScript points
  decode_encode := fun _ rest short => unserializeScript_serializeScript short rest

end BlackRaven.Script
