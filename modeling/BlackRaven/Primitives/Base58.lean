import BlackRaven.Lib.Radix
import BlackRaven.Primitives.Hashes
import BlackRaven.Primitives.Text
import Mathlib.Data.FinEnum

/-!
Contract: `base58.cpp`: the number conversion, the checksum and the addresses.

`none` stands for a failed carry assertion. The buffers of the source are kept with
their least significant digit first.
-/

namespace BlackRaven.Primitives

open Lib

/-- `pszBase58`. -/
def base58Alphabet : Bytes := ascii "123456789ABCDEFGHJKLMNPQRSTUVWXYZabcdefghijkmnopqrstuvwxyz"

def encodeBase58 (input : Bytes) : Option Bytes := do
  let zeroes := (input.takeWhile (· == 0)).length
  let rest := input.drop zeroes
  let size := rest.length * 138 / 100 + 1
  let converted ← radixConvert 58 256 (rest.map UInt8.toNat) (List.replicate size 0, 0)
  return List.replicate zeroes 49 ++ (radixDigits converted).map fun digit => base58Alphabet.getD digit 0

/-- `DecodeBase58`. The result is `none` when an assertion fails and `some none` when
the string is refused. -/
def decodeBase58 (str : Bytes) : Option (Option Bytes) :=
  -- The C string ends at the first zero byte.
  let psz := (str.takeWhile (· != 0)).dropWhile Ascii.isSpace
  let zeroes := (psz.takeWhile (· == 49)).length
  let body := psz.drop zeroes
  let size := body.length * 733 / 1000 + 1
  let chars := body.takeWhile fun char => !Ascii.isSpace char
  let trailing := (body.drop chars.length).dropWhile Ascii.isSpace
  let digits := chars.map fun char => base58Alphabet.idxOf char
  -- Characters are converted one by one before the first unknown one is refused.
  let known := digits.takeWhile (· < 58)
  match radixConvert 256 58 known (List.replicate size 0, 0) with
  | none => none
  | some converted =>
    if known.length ≠ digits.length || !trailing.isEmpty then some none
    else
      some (some (List.replicate zeroes 0 ++ (radixDigits converted).map fun digit => UInt8.ofNat digit))

/-! ## Round trips -/

theorem base58Alphabet_digit : ∀ digit < 58, let char := base58Alphabet.getD digit 0
    char ≠ 0 ∧ Ascii.isSpace char = false ∧ base58Alphabet.idxOf char = digit := by decide

theorem base58Alphabet_idxOf {char : UInt8} (known : base58Alphabet.idxOf char < 58) :
    base58Alphabet.getD (base58Alphabet.idxOf char) 0 = char := by
  rw [List.getD_eq_getElem?_getD, List.getElem?_eq_getElem known, Option.getD_some]
  exact List.getElem_idxOf known

theorem idxOf_eq_zero (char : UInt8) : base58Alphabet.idxOf char = 0 ↔ char = 49 := by
  refine ⟨fun isZero => ?_, fun isOne => isOne ▸ rfl⟩
  have isChar := @base58Alphabet_idxOf char (by omega)
  rw [isZero] at isChar
  exact isChar.symm

theorem toNat_small (input : Bytes) : ∀ digit ∈ input.map UInt8.toNat, digit < 256 :=
  List.forall_mem_map.mpr fun byte _ => byte.toNat_lt

theorem encodeBase58_eq (input : Bytes) :
    encodeBase58 input
      = some ((rebase 58 256 (input.map UInt8.toNat)).map fun digit => base58Alphabet.getD digit 0) := by
  obtain ⟨count, rest, rfl, noMore⟩ := exists_replicate_append 0 input
  obtain ⟨state, converts, digits⟩ := @radixConvert_digits 58 256 (by decide) (by decide)
    (rest.length * 138 / 100 + 1) (rest.map UInt8.toNat) (toNat_small rest) (by
      rw [List.length_map]
      exact buffer_fits (by decide) (by decide) (by decide) _)
  rw [rebase_map (fun _ => @UInt8.toNat_inj _ 0) count noMore, List.map_append, List.map_replicate, ← digits]
  unfold encodeBase58
  dsimp only
  rw [takeWhile_replicate_append count noMore, List.length_replicate, List.drop_left' List.length_replicate,
    converts]
  rfl

/-- No assertion of `DecodeBase58` fails. It takes the characters up to the first space, if they
are all of the alphabet and only spaces follow. -/
theorem decodeBase58_eq (str : Bytes) :
    let psz := (str.takeWhile (· != 0)).dropWhile Ascii.isSpace
    let word := psz.takeWhile fun char => !Ascii.isSpace char
    decodeBase58 str = some (
      if (∀ char ∈ word, base58Alphabet.idxOf char < 58)
          ∧ (psz.drop word.length).dropWhile Ascii.isSpace = [] then
        some ((rebase 256 58 (word.map base58Alphabet.idxOf)).map UInt8.ofNat)
      else none) := by
  unfold decodeBase58
  dsimp only
  generalize (str.takeWhile (· != 0)).dropWhile Ascii.isSpace = psz
  obtain ⟨count, body, rfl, noMore⟩ := exists_replicate_append 49 psz
  have ones : ∀ char ∈ List.replicate count (49 : UInt8), (!Ascii.isSpace char) = true :=
    fun char member => by rw [List.eq_of_mem_replicate member]; rfl
  have noOne : (body.takeWhile fun char => !Ascii.isSpace char).takeWhile (· == 49) = [] := by
    have commutes : ∀ p q : UInt8 → Bool, (body.takeWhile q).takeWhile p = (body.takeWhile p).takeWhile q := by
      simp only [List.takeWhile_takeWhile, and_comm, implies_true]
    rw [commutes, noMore]
    rfl
  have short := (List.takeWhile_prefix (l := body) fun char => !Ascii.isSpace char).length_le
  rw [takeWhile_replicate_append count noMore, List.length_replicate, List.drop_left' List.length_replicate,
    List.takeWhile_append_of_pos ones, List.length_append, ← List.drop_drop, List.drop_left]
  generalize (body.takeWhile fun char => !Ascii.isSpace char) = chars at *
  rw [rebase_map idxOf_eq_zero count noOne]
  generalize body.drop chars.length = after
  have isLength : (chars.map base58Alphabet.idxOf).length = chars.length := List.length_map _
  have known : (∀ char ∈ List.replicate count 49 ++ chars, base58Alphabet.idxOf char < 58)
      ↔ (chars.map base58Alphabet.idxOf).takeWhile (· < 58) = chars.map base58Alphabet.idxOf := by
    rw [List.takeWhile_eq_self_iff, List.forall_mem_append, and_iff_right, List.forall_mem_map]
    · simp
    · exact fun char member => by rw [List.eq_of_mem_replicate member]; decide
  generalize chars.map base58Alphabet.idxOf = digits at *
  have prefixed := List.takeWhile_prefix (l := digits) (· < 58)
  obtain ⟨state, converts, isState⟩ := @radixConvert_digits 256 58 (by decide) (by decide)
    (body.length * 733 / 1000 + 1) (digits.takeWhile (· < 58))
    (fun digit member => by simpa using List.mem_takeWhile_imp member)
    ((Nat.pow_le_pow_right (by decide) (by have := prefixed.length_le; omega)).trans
      (buffer_fits (by decide) (by decide) (by decide +kernel) body.length))
  rw [converts]
  dsimp only
  split
  next refused =>
    rw [if_neg]
    rintro ⟨all, empty⟩
    simp [known.mp all, empty] at refused
  next accepted =>
    rw [Bool.or_eq_true, not_or, decide_eq_true_eq, not_not] at accepted
    have all := prefixed.eq_of_length accepted.1
    rw [if_pos ⟨known.mpr all, by simpa using accepted.2⟩, isState, all, List.map_append, List.map_replicate]
    rfl

/-- A string without the spaces around it. -/
def trimmed (str : Bytes) : Bytes := (str.dropWhile Ascii.isSpace).rdropWhile Ascii.isSpace

theorem dropWhile_isSpace {str : Bytes} (noSpace : ∀ char ∈ str, Ascii.isSpace char = false) :
    str.dropWhile Ascii.isSpace = str :=
  List.dropWhile_eq_self_iff.mpr fun _ => by simp [noSpace]

theorem decodeBase58_encodeBase58 {input str : Bytes} (encodes : encodeBase58 input = some str) :
    decodeBase58 str = some (some input) := by
  rw [encodeBase58_eq, Option.some_inj] at encodes
  have chars : ∀ char ∈ str, char ≠ 0 ∧ Ascii.isSpace char = false ∧ base58Alphabet.idxOf char < 58 := by
    rw [← encodes, List.forall_mem_map]
    intro digit member
    have small := rebase_small (by decide) digit member
    have isDigit := base58Alphabet_digit digit small
    exact ⟨isDigit.1, isDigit.2.1, isDigit.2.2.trans_lt small⟩
  have digits : str.map base58Alphabet.idxOf = rebase 58 256 (input.map UInt8.toNat) := by
    rw [← encodes]
    exact map_map_eq_self fun digit member =>
      (base58Alphabet_digit digit (rebase_small (by decide) digit member)).2.2
  rw [decodeBase58_eq, List.takeWhile_eq_self_iff.mpr fun char member => bne_iff_ne.mpr (chars char member).1,
    dropWhile_isSpace fun char member => (chars char member).2.1,
    List.takeWhile_eq_self_iff.mpr fun char member => by rw [(chars char member).2.1]; rfl,
    if_pos ⟨fun char member => (chars char member).2.2, by rw [List.drop_length]; rfl⟩, digits,
    rebase_rebase (by decide) (toNat_small input), map_map_eq_self fun _ _ => UInt8.ofNat_toNat]

theorem encodeBase58_decodeBase58 {str vch : Bytes} (noZero : 0 ∉ str)
    (decodes : decodeBase58 str = some (some vch)) : encodeBase58 vch = some (trimmed str) := by
  rw [decodeBase58_eq, List.takeWhile_eq_self_iff.mpr fun char member =>
    bne_iff_ne.mpr (ne_of_mem_of_not_mem member noZero), Option.some_inj, Option.ite_none_right_eq_some] at decodes
  obtain ⟨⟨known, spaces⟩, isVch⟩ := decodes
  unfold trimmed
  generalize str.dropWhile Ascii.isSpace = psz at *
  have isPsz := List.prefix_iff_eq_append.mp (List.takeWhile_prefix (l := psz) fun char => !Ascii.isSpace char)
  have noSpace : ∀ char ∈ psz.takeWhile (fun char => !Ascii.isSpace char), Ascii.isSpace char = false :=
    fun char member => by simpa using List.mem_takeWhile_imp member
  generalize (psz.takeWhile fun char => !Ascii.isSpace char) = word at *
  have digits : vch.map UInt8.toNat = rebase 256 58 (word.map base58Alphabet.idxOf) := by
    rw [← Option.some.inj isVch]
    exact map_map_eq_self fun digit member =>
      UInt8.toNat_ofNat_of_lt (rebase_small (by decide) digit member)
  rw [encodeBase58_eq, digits, rebase_rebase (by decide) (by simpa using known),
    map_map_eq_self fun char member => base58Alphabet_idxOf (known char member), ← isPsz,
    List.rdropWhile, List.reverse_append, List.dropWhile_append_of_pos, dropWhile_isSpace,
    List.reverse_reverse]
  · exact fun char member => noSpace char (List.mem_reverse.mp member)
  · exact fun char member => List.dropWhile_eq_nil_iff.mp spaces char (List.mem_reverse.mp member)

variable (digests : Digests) (prefixes : AddressPrefixes)

def encodeBase58Check (vchIn : Bytes) : Option Bytes :=
  encodeBase58 (vchIn ++ (digests.hash256 vchIn).take 4)

def decodeBase58Check (psz : Bytes) : Option (Option Bytes) := do
  match ← decodeBase58 psz with
  | none => return none
  | some vch =>
    if vch.length < 4 then return none
    let payload := vch.take (vch.length - 4)
    if (digests.hash256 payload).take 4 ≠ vch.drop (vch.length - 4) then return none
    return some payload

/-! ## Addresses -/

/-- `CTxDestination`. A key or script id is the twenty bytes of its hash. -/
inductive CTxDestination where
  | noDestination
  | keyID (id : Bytes)
  | scriptID (id : Bytes)
  deriving DecidableEq, Repr

structure AddressPrefixes where
  pubkeyAddress : Bytes
  scriptAddress : Bytes
  deriving DecidableEq, Repr

/-- `EncodeDestination`: no address for no destination. The default is never used, by
`encodeBase58_eq`. -/
def encodeDestination : CTxDestination → Bytes
  | .noDestination => []
  | .keyID id => (encodeBase58Check digests (prefixes.pubkeyAddress ++ id)).getD []
  | .scriptID id => (encodeBase58Check digests (prefixes.scriptAddress ++ id)).getD []

theorem checksum_length (vchIn : Bytes) : ((digests.hash256 vchIn).take 4).length = 4 := by
  rw [List.length_take, Digests.hash256, digests.sha256_length]
  rfl

theorem decodeBase58_encodeBase58Check (vchIn : Bytes) :
    decodeBase58 ((encodeBase58Check digests vchIn).getD [])
      = some (some (vchIn ++ (digests.hash256 vchIn).take 4)) := by
  apply decodeBase58_encodeBase58
  rw [encodeBase58Check, encodeBase58_eq]
  rfl

theorem encodeDestination_ne_nil {destination : CTxDestination} (isSome : destination ≠ .noDestination) :
    encodeDestination digests prefixes destination ≠ [] := by
  have checked : ∀ vchIn, (encodeBase58Check digests vchIn).getD [] ≠ [] := by
    intro vchIn isEmpty
    have decodes := decodeBase58_encodeBase58Check digests vchIn
    rw [isEmpty] at decodes
    have sized := checksum_length digests vchIn
    rw [(List.append_eq_nil_iff.mp (Option.some.inj (Option.some.inj decodes)).symm).2] at sized
    cases sized
  cases destination with
  | noDestination => exact absurd rfl isSome
  | keyID id => exact checked _
  | scriptID id => exact checked _

theorem encodeBase58Check_injective {left right : Bytes}
    (same : (encodeBase58Check digests left).getD [] = (encodeBase58Check digests right).getD []) :
    left = right := by
  have decodes := decodeBase58_encodeBase58Check digests left
  rw [same, decodeBase58_encodeBase58Check digests right] at decodes
  exact (List.append_inj_left' (Option.some.inj (Option.some.inj decodes))
    ((checksum_length digests right).trans (checksum_length digests left).symm)).symm

/-- The networks of `chainparams.cpp`. -/
inductive Network where
  | main
  | test
  | dev
  | regtest
  deriving DecidableEq, Repr

def base58Prefixes : Network → AddressPrefixes
  | .main => ⟨[25], [122]⟩
  | .test => ⟨[42], [124]⟩
  | .dev => ⟨[140], [19]⟩
  | .regtest => ⟨[140], [19]⟩

theorem encodeDestination_injective (network : Network) {left right : CTxDestination}
    (same : encodeDestination digests (base58Prefixes network) left
      = encodeDestination digests (base58Prefixes network) right) : left = right := by
  have apart : ∀ {key script : Bytes}, (base58Prefixes network).pubkeyAddress ++ key
      ≠ (base58Prefixes network).scriptAddress ++ script := by
    cases network <;> simp [base58Prefixes]
  cases left with
  | noDestination =>
    by_contra different
    exact encodeDestination_ne_nil digests _ (Ne.symm different) same.symm
  | keyID id =>
    cases right with
    | noDestination => exact absurd same (encodeDestination_ne_nil digests _ nofun)
    | keyID other => rw [List.append_cancel_left (encodeBase58Check_injective digests same)]
    | scriptID other => exact absurd (encodeBase58Check_injective digests same) apart
  | scriptID id =>
    cases right with
    | noDestination => exact absurd same (encodeDestination_ne_nil digests _ nofun)
    | keyID other => exact absurd (encodeBase58Check_injective digests same).symm apart
    | scriptID other => rw [List.append_cancel_left (encodeBase58Check_injective digests same)]

/-- Data and strings below the size at which the lengths of the source would overflow. -/
theorem base58_identifies :
    (∀ vch : Bytes, vch.length < 2 ^ 20 →
      ∃ str, encodeBase58 vch = some str ∧ decodeBase58 str = some (some vch))
    ∧ (∀ str : Bytes, str.length < 2 ^ 20 → 0 ∉ str → ∃ result, decodeBase58 str = some result
      ∧ ∀ vch, result = some vch → encodeBase58 vch = some (trimmed str))
    ∧ ∀ (digests : Digests) (network : Network) (left right : CTxDestination), left ≠ right →
      encodeDestination digests (base58Prefixes network) left
        ≠ encodeDestination digests (base58Prefixes network) right := by
  refine ⟨fun vch _ => ⟨_, encodeBase58_eq vch, decodeBase58_encodeBase58 (encodeBase58_eq vch)⟩, ?_, ?_⟩
  · intro str _ noZero
    refine ⟨_, decodeBase58_eq str, fun vch isVch => encodeBase58_decodeBase58 noZero ?_⟩
    rw [decodeBase58_eq, isVch]
  · intro digests network left right different same
    exact different (encodeDestination_injective digests network same)

theorem base58_identifies_short :
    (∃ str, encodeBase58 [0, 1] = some str ∧ decodeBase58 str = some (some [0, 1]))
    ∧ (∃ result, decodeBase58 (ascii " 12 ") = some result
      ∧ ∀ vch, result = some vch → encodeBase58 vch = some (trimmed (ascii " 12 ")))
    ∧ encodeDestination (.tabulated [] nofun) (base58Prefixes .main) (.keyID [1])
      ≠ encodeDestination (.tabulated [] nofun) (base58Prefixes .main) (.scriptID [1]) :=
  ⟨base58_identifies.1 _ (by decide), base58_identifies.2.1 _ (by decide) (by decide),
    base58_identifies.2.2 _ _ _ _ nofun⟩

/-- `DecodeDestination`. The default is never used, by `decodeBase58_eq`. -/
def decodeDestination (str : Bytes) :
    CTxDestination :=
  match (decodeBase58Check digests str).getD none with
  | none => .noDestination
  | some vchTemp =>
    let vchVersion := vchTemp.take 1
    let vchData := vchTemp.drop 1
    if vchTemp.length < 1 || vchData.length ≠ 20 then .noDestination
    else if vchVersion = prefixes.pubkeyAddress then .keyID vchData
    else if vchVersion = prefixes.scriptAddress then .scriptID vchData
    else .noDestination

end BlackRaven.Primitives
