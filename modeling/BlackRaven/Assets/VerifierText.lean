import BlackRaven.Assets.Checks

/-!
Contract: the verifier strings that `CheckVerifierAssetTxOut` lets onto the chain.

Owns: which of them are the stripped form of themselves. The check looks for the blank and for
`#` only; the other white space is passed over by the evaluator, and stays in the string.
-/

namespace BlackRaven.Assets

open Lib Primitives

theorem getStrippedVerifierString_eq (verifier : Bytes) : getStrippedVerifierString verifier
    = verifier.filter fun ch => ch != qualifierChar && !Ascii.isSpace ch :=
  List.filter_filter

theorem getStrippedVerifierString_eq_self_iff {verifier : Bytes} :
    getStrippedVerifierString verifier = verifier
      ↔ ∀ ch ∈ verifier, Ascii.isSpace ch = false ∧ ch ≠ qualifierChar := by
  rw [getStrippedVerifierString_eq, List.filter_eq_self]
  simp [and_comm]

/-- A string on the chain is canonical exactly if it holds no tab and no line break. -/
theorem accepted_verifier_canonical_iff {txout : CTxOut} {verifier : Bytes}
    (read : assetNullVerifierDataFromScript txout.scriptPubKey = some verifier)
    (accepted : checkVerifierAssetTxOut txout = .ok ()) :
    (getStrippedVerifierString verifier = verifier ∧ verifier.length ≤ 80
        ∧ (∀ ch ∈ verifier, Ascii.isSpace ch = false ∧ ch ≠ qualifierChar)
      ↔ ∀ ch ∈ verifier, Ascii.isBetween 9 13 ch = false)
      ∧ ∀ str, getStrippedVerifierString (getStrippedVerifierString str) = getStrippedVerifierString str := by
  simp only [checkVerifierAssetTxOut, read, ite_error_eq_ok, List.contains_iff_mem] at accepted
  obtain ⟨noBlank, noMark, checks⟩ := accepted
  obtain ⟨found, checks, -⟩ := map_eq_ok.mp checks
  have short : (getStrippedVerifierString verifier).length ≤ 80 := by
    unfold checkVerifierString at checks
    split at checks
    · rename_i isTrue
      rw [isTrue]
      decide
    · simp only [ite_error_eq_ok] at checks
      exact not_lt.mp checks.2.1
  constructor
  · constructor
    · rintro ⟨-, -, clean⟩ ch member
      have notSpace := (clean ch member).1
      simp only [Ascii.isSpace, Bool.or_eq_false_iff] at notSpace
      exact notSpace.2
    · intro noBreak
      have clean : ∀ ch ∈ verifier, Ascii.isSpace ch = false ∧ ch ≠ qualifierChar := by
        intro ch member
        refine ⟨?_, fun isMark => noMark (isMark ▸ member)⟩
        rw [Ascii.isSpace, noBreak ch member, Bool.or_false, beq_eq_false_iff_ne]
        exact fun isBlank => noBlank (isBlank ▸ member)
      have canonical := getStrippedVerifierString_eq_self_iff.mpr clean
      rw [canonical] at short
      exact ⟨canonical, short, clean⟩
  · intro str
    rw [getStrippedVerifierString_eq_self_iff, getStrippedVerifierString_eq]
    intro ch member
    simpa [and_comm] using (List.mem_filter.mp member).2

/-- A tab at the end of a verifier string gets onto the chain. -/
theorem tabbed_verifier_accepted :
    let verifier := ascii "KYC" ++ [9]
    let txout : CTxOut := ⟨0, constructVerifierTransaction verifier []⟩
    assetNullVerifierDataFromScript txout.scriptPubKey = some verifier
      ∧ checkVerifierAssetTxOut txout = .ok () ∧ getStrippedVerifierString verifier ≠ verifier := by
  decide

theorem accepted_verifier_canonical_kyc :
    getStrippedVerifierString (ascii "KYC") = ascii "KYC" ∧ (ascii "KYC").length ≤ 80 := by
  have canonical := (@accepted_verifier_canonical_iff ⟨0, constructVerifierTransaction (ascii "KYC") []⟩
    (ascii "KYC") (by decide) (by decide)).1.mpr (by decide +kernel)
  exact ⟨canonical.1, canonical.2.1⟩

end BlackRaven.Assets
