import Mathlib.Control.Monad.Basic
import Mathlib.Data.Nat.Bits
import Mathlib.Tactic.Ring

/-!
Contract: byte-stream codecs whose decoder undoes their encoder in front of any
further bytes.

Owns:
- the decoder monad and the codec structure with its law;
- the rule that lets a record decoder consume one encoded field;
- little-endian words of any whole number of bytes;
- the most-significant-first base-128 integers in which every digit but the last
  is stored minus one.

Does not own: any record layout.
-/

namespace BlackRaven.Lib

/-- A decoder consumes bytes from the front of a stream or fails. -/
abbrev Decoder (α : Type) := StateT (List UInt8) Option α

/-- Every value the decoder returns, from any stream, satisfies a property. -/
structure Yields {α : Type} (decoder : Decoder α) (post : α → Prop) : Prop where
  holds : ∀ {bytes value rest}, decoder.run bytes = some (value, rest) → post value

section Yields

variable {α β : Type} {post : β → Prop}

variable {first : Decoder α} {next : α → Decoder β}

theorem Yields.bind {middle : α → Prop} (yields : Yields first middle)
    (later : ∀ value, middle value → Yields (next value) post) :
    Yields (first >>= next) post := by
  constructor
  intro bytes result rest runs
  rw [StateT.run_bind, Option.bind_eq_bind, Option.bind_eq_some_iff] at runs
  obtain ⟨⟨value, stream⟩, firstRuns, nextRuns⟩ := runs
  exact (later value (yields.holds firstRuns)).holds nextRuns

theorem Yields.of_any (later : ∀ value, Yields (next value) post) : Yields (first >>= next) post :=
  Yields.bind ⟨fun _ => True.intro⟩ fun value _ => later value

theorem Yields.pure {value : β} (holds : post value) : Yields (Pure.pure value : Decoder β) post := by
  constructor
  intro bytes result rest runs
  cases runs
  exact holds

theorem Yields.ite {condition : Prop} [Decidable condition] {yes no : Decoder β}
    (ifYes : Yields yes post) (ifNo : Yields no post) :
    Yields (if condition then yes else no) post := by
  by_cases holds : condition
  · rw [if_pos holds]
    exact ifYes
  · rw [if_neg holds]
    exact ifNo

end Yields

/-- An encoder and a decoder that agree on the admissible values, whatever follows
them in the stream. -/
structure Codec (α : Type) where
  Admissible : α → Prop
  encode : α → List UInt8
  decode : Decoder α
  decode_encode : ∀ (value : α) (rest : List UInt8), Admissible value →
    decode.run (encode value ++ rest) = some (value, rest)

namespace Codec

variable {α β : Type}

/-- A record decoder that starts with a field consumes the field's encoding and
continues with its value. -/
theorem run_bind_encode (codec : Codec α) (next : α → Decoder β) (value : α)
    (rest : List UInt8) (admissible : codec.Admissible value) :
    (codec.decode >>= next).run (codec.encode value ++ rest) = (next value).run rest := by
  rw [StateT.run_bind, codec.decode_encode value rest admissible]
  rfl

theorem run_bind_encode_last (codec : Codec α) (next : α → Decoder β) (value : α)
    (admissible : codec.Admissible value) :
    (codec.decode >>= next).run (codec.encode value) = (next value).run [] := by
  have := codec.run_bind_encode next value [] admissible
  rwa [List.append_nil] at this

/-! ## Vectors -/

def decodeMany (codec : Codec α) : Nat → Decoder (List α)
  | 0 => pure []
  | count + 1 => do
      let head ← codec.decode
      let tail ← codec.decodeMany count
      return head :: tail

theorem decodeMany_run (codec : Codec α) (items : List α) (rest : List UInt8)
    (admissible : ∀ item ∈ items, codec.Admissible item) :
    (codec.decodeMany items.length).run (items.flatMap codec.encode ++ rest) = some (items, rest) := by
  induction items with
  | nil => rfl
  | cons head tail ih =>
    have later := ih fun item member =>
      admissible item (List.mem_cons_of_mem head member)
    rw [List.length_cons, decodeMany, List.flatMap_cons, List.append_assoc,
      codec.run_bind_encode _ head _ (admissible head List.mem_cons_self), StateT.run_bind, later]
    rfl

def vector (size : Codec Nat) (codec : Codec α) : Codec (List α) where
  Admissible := fun items => size.Admissible items.length ∧ ∀ item ∈ items, codec.Admissible item
  encode := fun items => size.encode items.length ++ items.flatMap codec.encode
  decode := size.decode >>= codec.decodeMany
  decode_encode := by
    rintro items rest ⟨sized, admissible⟩
    rw [List.append_assoc, size.run_bind_encode _ _ _ sized]
    exact codec.decodeMany_run items rest admissible

end Codec

/-! ## Little-endian words -/

/-- The lowest `count` bytes of a number, least significant first. -/
def toBytesLE : Nat → Nat → List UInt8
  | 0, _ => []
  | count + 1, n => UInt8.ofNat n :: toBytesLE count (n / 256)

/-- The number a little-endian byte string denotes. -/
def ofBytesLE : List UInt8 → Nat
  | [] => 0
  | byte :: bytes => byte.toNat + 256 * ofBytesLE bytes

@[simp] theorem toBytesLE_length (count n : Nat) : (toBytesLE count n).length = count := by
  induction count generalizing n with
  | zero => rfl
  | succ count ih => simp [toBytesLE, ih]

theorem ofBytesLE_toBytesLE (count n : Nat) : ofBytesLE (toBytesLE count n) = n % 256 ^ count := by
  induction count generalizing n with
  | zero => simp [toBytesLE, ofBytesLE, Nat.mod_one]
  | succ count ih =>
    have byte : (UInt8.ofNat n).toNat = n % 256 := UInt8.toNat_ofNat'
    rw [toBytesLE, ofBytesLE, ih, byte, Nat.pow_succ, Nat.mul_comm (256 ^ count), Nat.mod_mul]

def takeBytes (count : Nat) : Decoder (List UInt8) := fun bytes =>
  if count ≤ bytes.length then some (bytes.take count, bytes.drop count) else none

theorem takeBytes_run_append (front rest : List UInt8) :
    (takeBytes front.length).run (front ++ rest) = some (front, rest) := by
  simp [takeBytes, StateT.run]

theorem takeBytes_sized (count : Nat) : Yields (takeBytes count) (·.length = count) := by
  constructor
  intro bytes front rest runs
  obtain ⟨enough, taken⟩ := Option.ite_none_right_eq_some.mp runs
  cases taken
  exact List.length_take_of_le enough

theorem whole_8 : 8 = 8 * (8 / 8) := rfl

theorem whole_16 : 16 = 8 * (16 / 8) := rfl

theorem whole_384 : 384 = 8 * (384 / 8) := rfl

/-- Fixed-width words, least significant byte first. -/
def word (w : Nat) (whole : w = 8 * (w / 8)) : Codec (BitVec w) where
  Admissible := fun _ => True
  encode := fun value => toBytesLE (w / 8) value.toNat
  decode := do
    let bytes ← takeBytes (w / 8)
    return BitVec.ofNat w (ofBytesLE bytes)
  decode_encode := by
    intro value rest _
    have taken := takeBytes_run_append (toBytesLE (w / 8) value.toNat) rest
    rw [toBytesLE_length] at taken
    rw [StateT.run_bind, taken]
    have range : 256 ^ (w / 8) = 2 ^ w := by
      rw [show 256 = 2 ^ 8 from rfl, ← Nat.pow_mul, ← whole]
    have back : BitVec.ofNat w (ofBytesLE (toBytesLE (w / 8) value.toNat)) = value := by
      rw [ofBytesLE_toBytesLE, range, Nat.mod_eq_of_lt value.isLt, BitVec.ofNat_toNat, BitVec.setWidth_eq]
    simp [back]

theorem word_admissible (w : Nat) (whole : w = 8 * (w / 8)) (value : BitVec w) :
    (word w whole).Admissible value := trivial

theorem word_encode_injective (w : Nat) (whole : w = 8 * (w / 8)) {left right : BitVec w}
    (same : (word w whole).encode left = (word w whole).encode right) : left = right := by
  have leftRun := (word w whole).decode_encode left [] trivial
  have rightRun := (word w whole).decode_encode right [] trivial
  rw [same, rightRun] at leftRun
  exact (Prod.mk.inj (Option.some.inj leftRun)).1.symm

@[simp] theorem word_encode_length (w : Nat) (whole : w = 8 * (w / 8)) (value : BitVec w) :
    ((word w whole).encode value).length = w / 8 := toBytesLE_length _ _

/-! ## Base-128 integers -/

/-- All digits but the last, each with the continuation bit; every digit above the
lowest is stored minus one. The fuel bounds the number of digits. -/
def varIntHigh : Nat → Nat → List UInt8
  | 0, _ => []
  | fuel + 1, n =>
    if n ≤ 0x7f then [UInt8.ofNat (n + 0x80)]
    else varIntHigh fuel (n / 128 - 1) ++ [UInt8.ofNat (n % 128 + 0x80)]

def varIntEncode (n : Nat) : List UInt8 :=
  if n ≤ 0x7f then [UInt8.ofNat n]
  else varIntHigh n (n / 128 - 1) ++ [UInt8.ofNat (n % 128)]

/-- The reading loop, for an integer type whose greatest value is `max`. -/
def varIntRead (max : Nat) : Nat → List UInt8 → Option (Nat × List UInt8)
  | _, [] => none
  | n, chData :: rest =>
    if n > max / 128 then none
    else
      let shifted := n * 128 + chData.toNat % 128
      if chData.toNat ≥ 0x80 then
        if shifted = max then none else varIntRead max (shifted + 1) rest
      else some (shifted, rest)

private theorem toNat_ofNat_lt {n : Nat} (below : n < 256) : (UInt8.ofNat n).toNat = n :=
  UInt8.toNat_ofNat_of_lt' below

private theorem varIntRead_continue (max n digit : Nat) (rest : List UInt8) (small : digit < 128)
    (fits : n * 128 + digit < max) :
    varIntRead max n (UInt8.ofNat (digit + 0x80) :: rest) = varIntRead max (n * 128 + digit + 1) rest := by
  have noOverflow : ¬ n > max / 128 := by omega
  have low : (digit + 0x80) % 128 = digit := by omega
  simp only [varIntRead, toNat_ofNat_lt (show digit + 0x80 < 256 by omega), low]
  rw [if_neg noOverflow, if_pos (by omega), if_neg (by omega)]

private theorem varIntRead_stop (max n digit : Nat) (rest : List UInt8) (small : digit < 128)
    (fits : n * 128 + digit ≤ max) :
    varIntRead max n (UInt8.ofNat digit :: rest) = some (n * 128 + digit, rest) := by
  have noOverflow : ¬ n > max / 128 := by omega
  have low : digit % 128 = digit := by omega
  simp only [varIntRead, toNat_ofNat_lt (show digit < 256 by omega), low]
  rw [if_neg noOverflow, if_neg (by omega)]

private theorem varIntRead_high (max : Nat) :
    ∀ (fuel n : Nat) (rest : List UInt8), n < fuel → n < max →
      varIntRead max 0 (varIntHigh fuel n ++ rest) = varIntRead max (n + 1) rest
  | 0, _, _, enough, _ => absurd enough (Nat.not_lt_zero _)
  | fuel + 1, n, rest, enough, below => by
      unfold varIntHigh
      split
      case isTrue small =>
        have := varIntRead_continue max 0 n rest (by omega) (by omega)
        simpa using this
      case isFalse large =>
        rw [List.append_assoc, varIntRead_high max fuel (n / 128 - 1) _ (by omega) (by omega),
          show n / 128 - 1 + 1 = n / 128 by omega, List.singleton_append,
          varIntRead_continue max (n / 128) (n % 128) rest (by omega) (by omega),
          show n / 128 * 128 + n % 128 = n by omega]

/-- The variable-length codec of an integer type whose greatest value is `max`. -/
def varInt (max : Nat) : Codec Nat where
  Admissible := fun n => n ≤ max
  encode := varIntEncode
  decode := varIntRead max 0
  decode_encode := by
    intro n rest fits
    show varIntRead max 0 (varIntEncode n ++ rest) = some (n, rest)
    unfold varIntEncode
    split
    case isTrue small =>
      have := varIntRead_stop max 0 n rest (by omega) (by omega)
      simpa using this
    case isFalse large =>
      rw [List.append_assoc, varIntRead_high max n (n / 128 - 1) _ (by omega) (by omega),
        show n / 128 - 1 + 1 = n / 128 by omega, List.singleton_append,
        varIntRead_stop max (n / 128) (n % 128) rest (by omega) (by omega),
        show n / 128 * 128 + n % 128 = n by omega]

/-- Reading never returns more than the type holds, and a wider type reads the same.
The greatest value of a machine integer ends in seven one bits. -/
theorem varIntRead_widen {max wider : Nat} (ones : max % 128 = 127) (le : max ≤ wider) :
    ∀ (bytes : List UInt8) (start : Nat) {n : Nat} {rest : List UInt8},
      varIntRead max start bytes = some (n, rest) → n ≤ max ∧ varIntRead wider start bytes = some (n, rest)
  | [], _, _, _, read => by simp [varIntRead] at read
  | chData :: bytes, start, n, rest, read => by
      unfold varIntRead at read ⊢
      split at read
      · contradiction
      · next fits =>
        rw [if_neg (by omega)]
        dsimp only at read ⊢
        split at read
        · next continues =>
          split at read
          · contradiction
          · next notMax =>
            rw [if_pos continues, if_neg (by omega)]
            exact varIntRead_widen ones le bytes _ read
        · next stops =>
          obtain ⟨isValue, isRest⟩ := Prod.mk.inj (Option.some.inj read)
          rw [if_neg stops, isValue, isRest]
          exact ⟨by omega, rfl⟩

/-- The type's reader refuses what another type wrote and it cannot hold. -/
theorem varInt_decode_le {max n : Nat} (ones : max % 128 = 127) {rest : List UInt8}
    {read : Nat × List UInt8} (decoded : (varInt max).decode.run (varIntEncode n ++ rest) = some read) :
    n ≤ max := by
  rcases Nat.le_total n max with fits | large
  · exact fits
  · obtain ⟨within, wide⟩ := varIntRead_widen ones large _ 0 decoded
    have written := (varInt n).decode_encode n rest le_rfl
    have same := wide.symm.trans written
    rwa [(Prod.mk.inj (Option.some.inj same)).1] at within

def varIntWord (w : Nat) : Codec (BitVec w) where
  Admissible := fun _ => True
  encode := fun value => varIntEncode value.toNat
  decode := do
    let n ← (varInt (2 ^ w - 1)).decode
    return BitVec.ofNat w n
  decode_encode := by
    intro value rest _
    have read : (varInt (2 ^ w - 1)).decode.run (varIntEncode value.toNat ++ rest)
        = some (value.toNat, rest) :=
      (varInt (2 ^ w - 1)).decode_encode value.toNat rest (Nat.le_sub_one_of_lt value.isLt)
    rw [StateT.run_bind, read]
    simp

/-! ## Fields that are not always written -/

/-- A field written under a condition known from earlier fields; the reader keeps the
default otherwise. -/
def conditional {α : Type} (present : Bool) (codec : Codec α) (default : α) : Codec α where
  Admissible := fun value => if present then codec.Admissible value else value = default
  encode := fun value => if present then codec.encode value else []
  decode := if present then codec.decode else pure default
  decode_encode := by
    intro value rest admissible
    cases present with
    | true => exact codec.decode_encode value rest admissible
    | false =>
      have isDefault : value = default := admissible
      rw [isDefault]
      rfl

theorem conditional_admissible {α : Type} {present : Bool} {codec : Codec α} {default value : α}
    (admissible : codec.Admissible value) :
    (conditional present codec default).Admissible (if present then value else default) := by
  cases present with
  | true => exact admissible
  | false => rfl

theorem conditional_encode {α : Type} (present : Bool) (codec : Codec α) (default value : α) :
    (conditional present codec default).encode (if present then value else default)
      = (conditional present codec default).encode value := by
  cases present <;> rfl

end BlackRaven.Lib
