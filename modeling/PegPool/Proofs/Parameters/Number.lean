import PegPool.Parameters
import PegPool.Proofs.Text.Spelling

/-!
# Accepted numbers

A number of a curve is told by an integer or by a text that spells one, and is accepted exactly
if that integer fits a record. Whatever else is told is refused, and the cause tells why: it is
of the wrong kind, spells nothing, or lies outside the range.
-/

namespace PegPool

/-- The document denotes the integer: as such, or by a text that spells it. -/
inductive Document.Denotes : Document → Int → Prop where
  | integer (value : Int) : Denotes (.integer value) value
  | text {text : String} {value : Int} (spells : Text.Spells text.toList value) :
    Denotes (.text text) value

namespace Narrow

variable {value : Int} {number : Narrow} {document : Document} {cause : NumberError}

/-! ## Integers -/

theorem ofParameter_eq_ok_iff : ofParameter value = .ok number ↔ value = number.toNat := by
  constructor
  · intro h
    unfold ofParameter at h
    split at h
    · rename_i found
      cases h
      exact (toNat_of_ofInt? found).symm
    · cases h
  · rintro rfl
    simp only [ofParameter, ofInt?_toNat]

theorem ofParameter_eq_error_iff : ofParameter value = .error cause ↔
    value < 0 ∧ cause = .negative value ∨ (narrowMax : Int) < value ∧ cause = .tooLarge value := by
  unfold ofParameter
  cases hfound : ofInt? value with
  | some number =>
    have hnone : ¬ (value < 0 ∨ (narrowMax : Int) < value) := by
      rw [← ofInt?_eq_none_iff, hfound]
      simp
    simp only [reduceCtorEq, false_iff]
    omega
  | none =>
    by_cases hneg : value < 0
    · have hsmall : ¬ (narrowMax : Int) < value := by omega
      simp [hneg, hsmall, eq_comm]
    · have hlarge := (ofInt?_eq_none_iff.1 hfound).resolve_left hneg
      simp [hneg, hlarge, eq_comm]

/-! ## Documents -/

/-- An integer stands for the number that equals it, and a text for the one that it
writes. Nothing else stands for a number. -/
theorem ofDocument_eq_ok_iff :
    ofDocument document = .ok number ↔ document = .integer number.toNat ∨
      ∃ text, document = .text text ∧ Text.parseInt text.toList = some (number.toNat : Int) := by
  cases document with
  | integer value => simp [ofDocument, ofParameter_eq_ok_iff]
  | text text =>
    simp only [ofDocument, reduceCtorEq, false_or, Document.text.injEq, exists_eq_left']
    cases Text.parseInt text.toList with
    | none => simp
    | some value => simp [ofParameter_eq_ok_iff]
  | _ => simp [ofDocument]

theorem length_numeral_le (number : Narrow) :
    (toString number.toNat).toList.length ≤ Text.maxDigits := by
  have hmax : narrowMax < 10 ^ 39 := by decide
  have hlength : (Nat.toDigits 10 number.toNat).length ≤ 39 :=
    (Nat.length_toDigits_le_iff (by decide) (by decide)).2
      (Nat.lt_of_le_of_lt number.toNat_le hmax)
  rw [Nat.toString_eq_repr, Nat.toList_repr]
  exact Nat.le_trans hlength (by decide)

/-- The numeral of an integer stands for the same number. -/
theorem ofDocument_numeral {value : Int} {number : Narrow}
    (h : ofDocument (.integer value) = .ok number) :
    ofDocument (.text (toString value)) = .ok number := by
  obtain hvalue | ⟨_, htext, -⟩ := ofDocument_eq_ok_iff.1 h
  · cases hvalue
    exact ofDocument_eq_ok_iff.2
      (.inr ⟨_, rfl, Text.parseInt_toString number.length_numeral_le⟩)
  · cases htext

/-- What a document denotes is looked at as a number. -/
theorem ofDocument_of_denotes (h : document.Denotes value) :
    ofDocument document = ofParameter value := by
  cases h with
  | integer => rfl
  | text spells => simp only [ofDocument, Text.parseInt_eq_some_iff.2 spells]

/-- Why a document is refused: for its kind, as a text that spells nothing, or for the integer
that it denotes. -/
inductive Refused : Document → NumberError → Prop where
  | truth (value : Bool) : Refused (.bool value) .bool
  | unspelled {text : String} (nothing : ∀ value, ¬ Text.Spells text.toList value) :
    Refused (.text text) (.notANumeral text)
  | kind {document : Document} (other : document.kind ∈ [.null, .float, .list, .object]) :
    Refused document (.wrongKind document.kind)
  | negative {document : Document} {value : Int} (denotes : document.Denotes value)
    (below : value < 0) : Refused document (.negative value)
  | tooLarge {document : Document} {value : Int} (denotes : document.Denotes value)
    (above : 2 ^ 128 ≤ value) : Refused document (.tooLarge value)

theorem narrowMax_lt_iff : (narrowMax : Int) < value ↔ 2 ^ 128 ≤ value := by
  have hmax : (narrowMax : Int) + 1 = 2 ^ 128 := by decide
  omega

theorem refused_of_denotes (h : document.Denotes value)
    (herror : ofParameter value = .error cause) : Refused document cause := by
  rcases ofParameter_eq_error_iff.1 herror with ⟨hneg, rfl⟩ | ⟨hlarge, rfl⟩
  · exact .negative h hneg
  · exact .tooLarge h (narrowMax_lt_iff.1 hlarge)

theorem ofDocument_eq_error_iff : ofDocument document = .error cause ↔ Refused document cause := by
  constructor
  · intro h
    cases document with
    | bool value =>
      cases h
      exact .truth value
    | integer value => exact refused_of_denotes (.integer value) h
    | text text =>
      cases hparse : Text.parseInt text.toList with
      | some value =>
        have hdenotes : (Document.text text).Denotes value :=
          .text (Text.parseInt_eq_some_iff.1 hparse)
        rw [ofDocument_of_denotes hdenotes] at h
        exact refused_of_denotes hdenotes h
      | none =>
        simp only [ofDocument, hparse] at h
        cases h
        refine .unspelled fun value hspells => ?_
        rw [Text.parseInt_eq_some_iff.2 hspells] at hparse
        cases hparse
    | _ =>
      cases h
      exact .kind (by simp [Document.kind])
  · intro h
    cases h with
    | truth => rfl
    | @unspelled text nothing =>
      have hparse : Text.parseInt text.toList = none :=
        Option.eq_none_iff_forall_ne_some.2 fun value hvalue =>
          nothing value (Text.parseInt_eq_some_iff.1 hvalue)
      simp only [ofDocument, hparse]
    | kind other =>
      cases document with
      | bool | integer | text => simp [Document.kind] at other
      | null | float | list | object => rfl
    | negative denotes below =>
      rw [ofDocument_of_denotes denotes]
      exact ofParameter_eq_error_iff.2 (.inl ⟨below, rfl⟩)
    | tooLarge denotes above =>
      rw [ofDocument_of_denotes denotes]
      exact ofParameter_eq_error_iff.2 (.inr ⟨narrowMax_lt_iff.2 above, rfl⟩)

/-- The document is accepted as a number equal to the integer. -/
def Accepted (document : Document) (value : Int) : Prop :=
  ∃ number : Narrow, ofDocument document = .ok number ∧ (number.toNat : Int) = value

theorem accepted_iff :
    Accepted document value ↔ document.Denotes value ∧ 0 ≤ value ∧ value < 2 ^ 128 := by
  constructor
  · rintro ⟨number, hnumber, rfl⟩
    refine ⟨?_, Int.natCast_nonneg _, ?_⟩
    · rcases ofDocument_eq_ok_iff.1 hnumber with rfl | ⟨text, rfl, hparse⟩
      · exact .integer _
      · exact .text (Text.parseInt_eq_some_iff.1 hparse)
    · have hle := number.toNat_le
      rw [← Int.not_le, ← narrowMax_lt_iff]
      omega
  · rintro ⟨hdenotes, hnonneg, hlt⟩
    rw [← Int.not_le, ← narrowMax_lt_iff] at hlt
    refine ⟨⟨value.toNat, by omega⟩, ?_, Int.toNat_of_nonneg hnonneg⟩
    rw [ofDocument_of_denotes hdenotes, ofParameter_eq_ok_iff]
    exact (Int.toNat_of_nonneg hnonneg).symm

/-- A document is accepted exactly as the integer that it denotes, if that is in range, and is
refused for what is wrong with it otherwise. So a number in range may be told by its digits in
any scripts, after any zeros, with single underscores between them, under any sign that leaves
it as it is and in any blanks, as long as there are not too many digits. -/
theorem accepted_as_spelled :
    (∀ document value,
      Accepted document value ↔ document.Denotes value ∧ 0 ≤ value ∧ value < 2 ^ 128) ∧
    (∀ document cause, ofDocument document = .error cause ↔ Refused document cause) ∧
    ∀ (n zeros : Nat) (sign : Text.Sign) (before plain body after : List Char),
      n < 2 ^ 128 → (sign = .minus → n = 0) →
      zeros + (Nat.digits 10 n).length ≤ Text.maxDigits →
      List.Forall₂ Text.StandsFor plain (List.replicate zeros 0 ++ (Nat.digits 10 n).reverse) →
      Text.Parted plain body →
      (∀ c ∈ before ++ after, Text.Blank (before ++ (sign.text ++ body) ++ after) c) →
      Accepted (.text (String.ofList (before ++ (sign.text ++ body) ++ after))) n := by
  refine ⟨fun _ _ => accepted_iff, fun _ _ => ofDocument_eq_error_iff, ?_⟩
  intro n zeros sign before plain body after hn hsign hlength hstand hparted hblank
  refine accepted_iff.2 ⟨.text ?_, Int.natCast_nonneg n, by exact_mod_cast hn⟩
  rw [String.toList_ofList]
  exact .of_digits hsign hlength hstand hparted hblank

/-- Between blanks of two scripts, 7 is accepted from two zeros, the first parted from the rest,
and an Arabic digit. Two underscores in a row spell nothing, and -1 is spelled but negative. -/
theorem accepted_as_spelled_seven :
    let plain := ['0', '0', Char.ofNat 0x667]
    let body := ['0', '_', '0', Char.ofNat 0x667]
    let before := [Char.ofNat 0x3000]
    let after := ['\t', ' ']
    7 < 2 ^ 128 ∧ 2 + (Nat.digits 10 7).length ≤ Text.maxDigits ∧
      List.Forall₂ Text.StandsFor plain (List.replicate 2 0 ++ (Nat.digits 10 7).reverse) ∧
      Text.Parted plain body ∧
      (∀ c ∈ before ++ after, Text.Blank (before ++ (Text.Sign.plus.text ++ body) ++ after) c) ∧
      Accepted (.text (String.ofList (before ++ (Text.Sign.plus.text ++ body) ++ after))) 7 ∧
      Refused (.text "1__0") (.notANumeral "1__0") ∧ Refused (.text "-0_1") (.negative (-1)) := by
  intro plain body before after
  obtain ⟨-, hrefused, hdigits⟩ := accepted_as_spelled
  have hdigit : Nat.digits 10 7 = [7] := by simp
  have hstand : List.Forall₂ Text.StandsFor plain
      (List.replicate 2 0 ++ (Nat.digits 10 7).reverse) := by
    have hzero : Text.StandsFor '0' 0 := ⟨by decide, 0x30, by decide, rfl⟩
    have hseven : Text.StandsFor (Char.ofNat 0x667) 7 := ⟨by decide, 0x660, by decide, rfl⟩
    rw [hdigit]
    exact .cons hzero (.cons hzero (.cons hseven .nil))
  have hparted : Text.Parted plain body := .parted _ (.next _ (.single _))
  have hblank : ∀ c ∈ before ++ after,
      Text.Blank (before ++ (Text.Sign.plus.text ++ body) ++ after) c := by
    intro c hc
    refine Text.blanksOf_iff.1 ?_
    have hone : c = Char.ofNat 0x3000 ∨ c = '\t' ∨ c = ' ' := by simpa [before, after] using hc
    rcases hone with rfl | rfl | rfl <;> decide
  have hlength : 2 + (Nat.digits 10 7).length ≤ Text.maxDigits := by
    rw [hdigit]
    decide
  refine ⟨by decide, hlength, hstand, hparted, hblank, ?_, ?_, ?_⟩
  · exact hdigits 7 2 .plus before plain body after (by decide) (by decide) hlength hstand hparted
      hblank
  · exact (hrefused _ _).1 (by decide +kernel)
  · exact (hrefused _ _).1 (by decide +kernel)

end Narrow

end PegPool
