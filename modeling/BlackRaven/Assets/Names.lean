import BlackRaven.Lib.Outcome
import BlackRaven.Primitives.Text
import Mathlib.Data.List.TakeWhile

/-!
Contract: asset names of `assets/assets.cpp`: the regular expressions, the type a
name has, and the names derived from it.

The regular expressions are written out as tests on the bytes of the whole name.
-/

namespace BlackRaven.Assets

open Lib

inductive AssetType where
  | root
  | sub
  | unique
  | msgchannel
  | qualifier
  | subQualifier
  | restricted
  | vote
  | reissue
  | owner
  | nullAddQualifier
  | invalid
  deriving DecidableEq, Repr

def maxNameLength : Nat := 31
def maxChannelNameLength : Nat := 12
def minAssetLength : Nat := 3

-- The delimiters, by their ASCII codes.
def subNameDelimiter : UInt8 := 47
def uniqueTagDelimiter : UInt8 := 35
def msgchannelTagDelimiter : UInt8 := 126
def voteTagDelimiter : UInt8 := 94
def restrictedChar : UInt8 := 36
def qualifierChar : UInt8 := 35
def ownerChar : UInt8 := 33

def ownerTag : Bytes := [ownerChar]

/-! ## Regular expressions -/

variable (char : UInt8) (tag : Bytes)

/-- `[._]`. -/
def isPunctuation : Bool := char == 46 || char == 95

/-- `[A-Z0-9._]`. -/
def isNameChar : Bool := Ascii.isUpper char || Ascii.isDigit char || isPunctuation char

/-- `[-A-Za-z0-9@$%&*()[\]{}_.?:]`. -/
def isUniqueTagChar : Bool :=
  Ascii.isAlnum char || isPunctuation char
    || [45, 64, 36, 37, 38, 42, 40, 41, 91, 93, 123, 125, 63, 58].contains char

/-- `[A-Za-z0-9_]`. -/
def isChannelTagChar : Bool := Ascii.isAlnum char || char == 95

/-- A class repeated at least `least` times. -/
def isRun (least : Nat) (class_ : UInt8 → Bool) (name : Bytes) : Bool :=
  decide (least ≤ name.length) && name.all class_

def isMarkedRun (mark : UInt8) (least : Nat) (class_ : UInt8 → Bool) : Bytes → Bool
  | [] => false
  | char :: rest => char == mark && isRun least class_ rest

/-- `^.*[._]{2,}.*$`. -/
def doublePunctuation : Bytes → Bool
  | first :: second :: rest =>
    (isPunctuation first && isPunctuation second) || doublePunctuation (second :: rest)
  | _ => false

/-- `^[._].*$`. -/
def leadingPunctuation (name : Bytes) : Bool := name.head?.any isPunctuation

/-- `^.*[._]$`. -/
def trailingPunctuation (name : Bytes) : Bool := name.getLast?.any isPunctuation

/-- `^[#\$][._].*$`. -/
def qualifierLeadingPunctuation : Bytes → Bool
  | first :: second :: _ => (first == qualifierChar || first == restrictedChar) && isPunctuation second
  | _ => false

/-- `BLACKRAVEN_NAMES`. -/
def isReservedName (name : Bytes) : Bool :=
  [ascii "RVN", ascii "RAVEN", ascii "RAVENCOIN", ascii "#RVN", ascii "#RAVEN", ascii "#RAVENCOIN",
    ascii "BLKR", ascii "BLACKRAVEN", ascii "BLACKRAVENCOIN", ascii "#BLKR", ascii "#BLACKRAVEN",
    ascii "#BLACKRAVENCOIN"].contains name

/-- `[^^~#!]`. -/
def isBeforeTagChar : Bool :=
  char != voteTagDelimiter && char != msgchannelTagDelimiter && char != uniqueTagDelimiter && char != ownerChar

/-- `[^~#!\/]`. -/
def isTagChar : Bool :=
  char != msgchannelTagDelimiter && char != uniqueTagDelimiter && char != ownerChar && char != subNameDelimiter

/-- `^[^^~#!]+D[^~#!\/]+$` for a delimiter `D` among `^`, `~` and `#`. -/
def tagIndicator (delimiter : UInt8) (name : Bytes) : Bool :=
  let before := name.takeWhile (· != delimiter)
  isRun 1 isBeforeTagChar before && isMarkedRun delimiter 1 isTagChar (name.drop before.length)

def uniqueIndicator : Bytes → Bool := tagIndicator uniqueTagDelimiter
def msgchannelIndicator : Bytes → Bool := tagIndicator msgchannelTagDelimiter
def voteIndicator : Bytes → Bool := tagIndicator voteTagDelimiter

/-- `^[^^~#!]+!$`. -/
def ownerIndicator (name : Bytes) : Bool :=
  name.getLast? == some ownerChar && isRun 1 isBeforeTagChar name.dropLast

def qualifierIndicator : Bytes → Bool := isMarkedRun qualifierChar 3 isNameChar
def restrictedIndicator : Bytes → Bool := isMarkedRun restrictedChar 3 isNameChar

/-- `^#[A-Z0-9._]+\/#[A-Z0-9._]+$`. -/
def subQualifierIndicator (name : Bytes) : Bool :=
  let before := name.takeWhile (· != subNameDelimiter)
  isMarkedRun qualifierChar 1 isNameChar before
    && (name.drop before.length).head? == some subNameDelimiter
    && isMarkedRun qualifierChar 1 isNameChar (name.drop (before.length + 1))

/-! ## Validity of the parts -/

def isRootNameValid (name : Bytes) : Bool :=
  isRun 3 isNameChar name && !doublePunctuation name && !leadingPunctuation name
    && !trailingPunctuation name && !isReservedName name

def isQualifierNameValid (name : Bytes) : Bool :=
  isMarkedRun qualifierChar 3 isNameChar name && !doublePunctuation name
    && !qualifierLeadingPunctuation name && !trailingPunctuation name && !isReservedName name

/-- The punctuation after the `$` is not looked at: the source tests the first
character of the name. -/
def isRestrictedNameValid (name : Bytes) : Bool :=
  isMarkedRun restrictedChar 3 isNameChar name && !doublePunctuation name
    && !leadingPunctuation name && !trailingPunctuation name && !isReservedName name

def isSubQualifierNameValid (name : Bytes) : Bool :=
  isMarkedRun qualifierChar 1 isNameChar name && !doublePunctuation name
    && !leadingPunctuation name && !trailingPunctuation name

def isSubNameValid (name : Bytes) : Bool :=
  isRun 1 isNameChar name && !doublePunctuation name && !leadingPunctuation name && !trailingPunctuation name

def isUniqueTagValid : Bool := isRun 1 isUniqueTagChar tag

def isVoteTagValid : Bool := isRun 1 isNameChar tag

def isMsgChannelTagValid : Bool :=
  isRun 1 isChannelTagChar tag && !doublePunctuation tag && !leadingPunctuation tag && !trailingPunctuation tag

def frontPart (parts : List Bytes) : Bytes := parts.headD []
def backPart (parts : List Bytes) : Bytes := parts.getLastD []

def isNameValidBeforeTag (name : Bytes) : Bool :=
  let parts := splitAt subNameDelimiter name
  isRootNameValid (frontPart parts) && (parts.drop 1).all isSubNameValid

def isQualifierNameValidBeforeTag (name : Bytes) : Bool :=
  let parts := splitAt subNameDelimiter name
  isQualifierNameValid (frontPart parts) && decide (parts.length ≤ 2)
    && (parts.drop 1).all isSubQualifierNameValid

def isAssetNameASubasset (name : Bytes) : Bool :=
  let parts := splitAt subNameDelimiter name
  isRootNameValid (frontPart parts) && decide (parts.length > 1)

def isAssetNameASubQualifier (name : Bytes) : Bool :=
  let parts := splitAt subNameDelimiter name
  isQualifierNameValid (frontPart parts) && decide (parts.length > 1)

/-! ## The type of a name -/

def checkNameLength (limit : Nat) (name : Bytes) : Except String Unit :=
  if name.length > limit then
    .error ("Name is greater than max length of " ++ toString limit)
  else .ok ()

/-- A family of the cases of `IsTypeCheckNameValid`: a length limit, then one test. -/
def checkNameChars (limit : Nat) (valid : Bool) (message : String) (name : Bytes) :
    Except String Unit := do
  checkNameLength limit name
  if !valid then .error message

def isTypeCheckNameValid (type : AssetType) (name : Bytes) : Except String Unit :=
  match type with
  | .unique =>
    let parts := splitAt uniqueTagDelimiter name
    checkNameChars maxNameLength
      (isNameValidBeforeTag (frontPart parts) && isUniqueTagValid (backPart parts))
      "Unique name contains invalid characters (Valid characters are: A-Z a-z 0-9 @ $ % & * ( ) [ ] \x7b \x7d _ . ? : -)"
      name
  | .msgchannel => do
      let parts := splitAt msgchannelTagDelimiter name
      checkNameLength maxNameLength name
      if (backPart parts).length > maxChannelNameLength then
        throw ("Channel name is greater than max length of " ++ toString maxChannelNameLength)
      if !(isNameValidBeforeTag (frontPart parts) && isMsgChannelTagValid (backPart parts)) then
        throw "Message Channel name contains invalid characters (Valid characters are: A-Z 0-9 _ .) (special characters can't be the first or last characters)"
  | .owner =>
    checkNameChars maxNameLength (isNameValidBeforeTag name.dropLast)
      "Owner name contains invalid characters (Valid characters are: A-Z 0-9 _ .) (special characters can't be the first or last characters)"
      name
  | .vote =>
    let parts := splitAt voteTagDelimiter name
    checkNameChars maxNameLength
      (isNameValidBeforeTag (frontPart parts) && isVoteTagValid (backPart parts))
      "Vote name contains invalid characters (Valid characters are: A-Z 0-9 _ .) (special characters can't be the first or last characters)"
      name
  | .qualifier | .subQualifier =>
    checkNameChars maxNameLength (isQualifierNameValidBeforeTag name)
      "Qualifier name contains invalid characters (Valid characters are: A-Z 0-9 _ .) (# must be the first character, _ . special characters can't be the first or last characters)"
      name
  | .restricted =>
    checkNameChars maxNameLength (isRestrictedNameValid name)
      "Restricted name contains invalid characters (Valid characters are: A-Z 0-9 _ .) ($ must be the first character, _ . special characters can't be the first or last characters)"
      name
  | _ => do
      checkNameLength (maxNameLength - 1) name
      if !isAssetNameASubasset name && decide (name.length < minAssetLength) then
        throw ("Name must be contain " ++ toString minAssetLength ++ " characters")
      let valid := isNameValidBeforeTag name
      if !valid && isAssetNameASubasset name && decide (name.length < 3) then
        throw "Name must have at least 3 characters (Valid characters are: A-Z 0-9 _ .)"
      if !valid then
        throw "Name contains invalid characters (Valid characters are: A-Z 0-9 _ .) (special characters can't be the first or last characters)"

/-- The type the indicator expressions give a name, in the order of the source. -/
def indicatedType (name : Bytes) : AssetType :=
  if uniqueIndicator name then .unique
  else if msgchannelIndicator name then .msgchannel
  else if ownerIndicator name then .owner
  else if voteIndicator name then .vote
  else if qualifierIndicator name then
    if isAssetNameASubQualifier name then .subQualifier else .qualifier
  else if subQualifierIndicator name then
    if isAssetNameASubQualifier name then .subQualifier else .invalid
  else if restrictedIndicator name then .restricted
  else if isAssetNameASubasset name then .sub
  else .root

/-- The type whose name check `IsAssetNameValid` runs. It differs from
`indicatedType` inside the two qualifier branches only. -/
def checkedType (name : Bytes) : AssetType :=
  if uniqueIndicator name then .unique
  else if msgchannelIndicator name then .msgchannel
  else if ownerIndicator name then .owner
  else if voteIndicator name then .vote
  else if qualifierIndicator name then .qualifier
  else if subQualifierIndicator name then .subQualifier
  else if restrictedIndicator name then .restricted
  else if isAssetNameASubasset name then .sub
  else .root

/-- `IsAssetNameValid`: the type on success, the error text otherwise. -/
def isAssetNameValid (name : Bytes) : Except String AssetType := do
  if name.length > 40 then throw ""
  isTypeCheckNameValid (checkedType name) name
  return indicatedType name

def nameType (name : Bytes) : Option AssetType := (isAssetNameValid name).toOption

/-- The type callers see that ignore the verdict. For a name of more than 40 characters
the source leaves the variable as it was. -/
def assetType (name : Bytes) : AssetType := (nameType name).getD .invalid

def isValidName (name : Bytes) : Bool := (nameType name).isSome

def isAssetNameAnOwner (name : Bytes) : Bool := isValidName name && ownerIndicator name
def isAssetNameAnRestricted (name : Bytes) : Bool := isValidName name && restrictedIndicator name
def isAssetNameAnMsgChannel (name : Bytes) : Bool := isValidName name && msgchannelIndicator name

/-- `IsAssetNameAQualifier` with `fOnlyQualifiers` false, its default. -/
def isAssetNameAQualifier (name : Bytes) : Bool :=
  isValidName name && (qualifierIndicator name || subQualifierIndicator name)

/-! ## Derived names -/

/-- `find_last_of` and the part before it, the whole name when there is none. -/
def beforeLast (delimiter : UInt8) (name : Bytes) : Bytes :=
  if name.contains delimiter then
    (((name.reverse.dropWhile (· != delimiter)).drop 1).reverse)
  else name

def getParentName (name : Bytes) : Bytes :=
  match nameType name with
  | none => []
  | some .sub => beforeLast subNameDelimiter name
  | some .unique => beforeLast uniqueTagDelimiter name
  | some .msgchannel => beforeLast msgchannelTagDelimiter name
  | some .vote => beforeLast voteTagDelimiter name
  | some .subQualifier => beforeLast subNameDelimiter name
  | some _ => name

/-! ## Names and their marks -/

theorem beforeLast_append {delimiter : UInt8} {before rest : Bytes} (clean : ∀ char ∈ rest, char ≠ delimiter) :
    beforeLast delimiter (before ++ delimiter :: rest) = before := by
  have found : (before ++ delimiter :: rest).contains delimiter = true := by simp
  have skipped : ∀ char ∈ rest.reverse, (char != delimiter) = true := by
    intro char member
    rw [bne_iff_ne]
    exact clean char (List.mem_reverse.mp member)
  have reversed : (before ++ delimiter :: rest).reverse = rest.reverse ++ delimiter :: before.reverse := by simp
  rw [beforeLast, if_pos found, reversed, List.dropWhile_append_of_pos skipped]
  simp

variable {name : Bytes}

theorem nameType_eq_some {type : AssetType} (isType : nameType name = some type) :
    isTypeCheckNameValid (checkedType name) name = .ok () ∧ indicatedType name = type := by
  unfold nameType at isType
  cases outcome : isAssetNameValid name with
  | error message =>
    rw [outcome] at isType
    cases isType
  | ok found =>
    rw [outcome] at isType
    cases isType
    unfold isAssetNameValid at outcome
    by_cases long : name.length > 40
    · rw [if_pos long] at outcome
      cases outcome
    · rw [if_neg long] at outcome
      obtain ⟨_, passes, isFound⟩ := bind_eq_ok.mp outcome
      cases isFound
      exact ⟨passes, rfl⟩

theorem uniqueIndicator_of_type (isUnique : nameType name = some .unique) : uniqueIndicator name = true := by
  have indicated := (nameType_eq_some isUnique).2
  by_contra notUnique
  rw [indicatedType, if_neg notUnique] at indicated
  repeat' split at indicated
  all_goals cases indicated

theorem isMarkedRun_cons {mark : UInt8} {least : Nat} {class_ : UInt8 → Bool}
    (isRun_ : isMarkedRun mark least class_ name = true) :
    ∃ rest, name = mark :: rest ∧ isRun least class_ rest = true := by
  cases name with
  | nil => cases isRun_
  | cons char rest =>
    simp only [isMarkedRun, Bool.and_eq_true, beq_iff_eq] at isRun_
    exact ⟨rest, by rw [isRun_.1], isRun_.2⟩

theorem getParentName_unique (isUnique : nameType name = some .unique) : getParentName name ≠ [] := by
  have indicated := uniqueIndicator_of_type isUnique
  simp only [uniqueIndicator, tagIndicator, Bool.and_eq_true] at indicated
  obtain ⟨beforeRun, tagged⟩ := indicated
  obtain ⟨rest, isRest, restRun⟩ := isMarkedRun_cons tagged
  have whole : name = name.takeWhile (· != uniqueTagDelimiter) ++ uniqueTagDelimiter :: rest := by
    rw [← isRest]
    exact (List.prefix_iff_eq_append.mp (List.takeWhile_prefix _)).symm
  have clean : ∀ char ∈ rest, char ≠ uniqueTagDelimiter := by
    simp only [isRun, Bool.and_eq_true, List.all_eq_true] at restRun
    intro char member
    have isTag := restRun.2 char member
    simp only [isTagChar, Bool.and_eq_true, bne_iff_ne] at isTag
    exact isTag.1.1.2
  have isParent : getParentName name = name.takeWhile (· != uniqueTagDelimiter) := by
    rw [getParentName, isUnique]
    exact (congrArg (beforeLast uniqueTagDelimiter) whole).trans (beforeLast_append clean)
  rw [isParent]
  intro isEmpty
  rw [isEmpty] at beforeRun
  cases beforeRun

theorem isAssetNameAQualifier_cons (isQualifier : isAssetNameAQualifier name = true) :
    ∃ rest, name = qualifierChar :: rest := by
  simp only [isAssetNameAQualifier, Bool.and_eq_true, Bool.or_eq_true] at isQualifier
  rcases isQualifier.2 with plain | sub
  · obtain ⟨rest, isRest, -⟩ := isMarkedRun_cons plain
    exact ⟨rest, isRest⟩
  · simp only [subQualifierIndicator, Bool.and_eq_true] at sub
    obtain ⟨rest, isRest, -⟩ := isMarkedRun_cons sub.1.1
    have isPrefix := List.takeWhile_prefix (l := name) (· != subNameDelimiter)
    rw [isRest] at isPrefix
    obtain ⟨later, isName⟩ := isPrefix
    exact ⟨rest ++ later, by rw [← isName, List.cons_append]⟩

end BlackRaven.Assets
