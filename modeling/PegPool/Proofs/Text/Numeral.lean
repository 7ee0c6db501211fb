import PegPool.Text.Numeral

/-!
# Written numbers

The written form of a natural number is a numeral for it. So it reads back as the
same number, unless it has more digits than a numeral may have.
-/

namespace PegPool.Text

/-! ## Plain digits -/

section Digit

variable {c : Char}

theorem toNat_of_isDigit (h : c.isDigit) : 48 ≤ c.toNat ∧ c.toNat ≤ 57 := by
  simpa [Char.isDigit, UInt32.le_iff_toNat_le] using h

/-- A plain digit stands for its place after zero. -/
theorem digitValue?_of_isDigit (h : c.isDigit) :
    digitValue? c = some (c.toNat - '0'.toNat) := by
  obtain ⟨hlower, hupper⟩ := toNat_of_isDigit h
  have hrow : 48 ≤ c.toNat ∧ c.toNat < 48 + 10 := by omega
  simp [digitValue?, digitZeros, hrow]

theorem isBlank_of_isDigit (h : c.isDigit) : isBlank c = false := by
  obtain ⟨hlower, hupper⟩ := toNat_of_isDigit h
  have hspace : c ≠ ' ' := by
    rintro rfl
    contradiction
  simp only [isBlank, isPlainBlank, wideBlanks]
  simp [hspace]
  omega

/-- Nothing is a blank in plain texts that is none in others. -/
theorem blanksOf_of_isBlank {text : List Char} (h : isBlank c = false) :
    blanksOf text c = false := by
  unfold blanksOf
  split
  · simp_all [isBlank]
  · exact h

end Digit

/-! ## Digits in a row -/

variable {text : List Char}

/-- Digits without underscores are read one by one. -/
theorem parseDigits_of_isDigit (hne : text ≠ []) (h : ∀ c ∈ text, c.isDigit) :
    parseDigits text = some (text.map fun c => c.toNat - '0'.toNat) := by
  fun_induction parseDigits text with
  | case1 => contradiction
  | case2 c => simp [digitValue?_of_isDigit (h c (by simp))]
  | case3 c rest ih => exact absurd (h '_' (by simp)) (by decide)
  | case4 c rest hrest _ ih =>
    have hdigit := digitValue?_of_isDigit (h c (by simp))
    have hdigits := ih (by simpa using hrest) fun d hd => h d (by simp [hd])
    simp [hdigit, hdigits]

theorem dropWhile_eq_self {drops : Char → Bool} (h : ∀ c ∈ text, drops c = false) :
    text.dropWhile drops = text := by
  cases text with
  | nil => rfl
  | cons c rest => simp [h c (by simp)]

/-- A text is trimmed of nothing if it has no blanks. -/
theorem trim_eq_self {drops : Char → Bool} (h : ∀ c ∈ text, drops c = false) :
    trim drops text = text := by
  have hreverse : ∀ c ∈ text.reverse, drops c = false := by simpa using h
  rw [trim, dropWhile_eq_self h, dropWhile_eq_self hreverse, List.reverse_reverse]

/-- A numeral of digits alone has no sign and no blanks. -/
theorem parseInt_of_isDigit (hne : text ≠ []) (h : ∀ c ∈ text, c.isDigit) :
    parseInt text = (parseMagnitude text).map fun n : Nat => (n : Int) := by
  have hblanks : ∀ c ∈ text, blanksOf text c = false := fun c hc =>
    blanksOf_of_isBlank (isBlank_of_isDigit (h c hc))
  rw [parseInt, trim_eq_self hblanks]
  unfold parseSigned
  split
  · exact absurd (h '-' (by simp)) (by decide)
  · exact absurd (h '+' (by simp)) (by decide)
  · cases parseMagnitude text <;> rfl

/-! ## Written numbers -/

theorem ofDigits_toDigits (n : Nat) :
    ofDigits ((Nat.toDigits 10 n).map fun c => c.toNat - '0'.toNat) = n := by
  rw [ofDigits, List.foldl_map]
  exact Nat.ofDigitChars_ten_toDigits

theorem toString_inj {m n : Nat} : toString m = toString n ↔ m = n := by
  constructor
  · intro h
    have hdigits := congrArg String.toList h
    rw [Nat.toString_eq_repr, Nat.toString_eq_repr, Nat.toList_repr, Nat.toList_repr] at hdigits
    rw [← ofDigits_toDigits m, hdigits, ofDigits_toDigits]
  · rintro rfl
    rfl

/-- A written number reads back, unless it has too many digits. -/
theorem parseInt_toString {n : Nat} (h : (toString n).toList.length ≤ maxDigits) :
    parseInt (toString n).toList = some (n : Int) := by
  rw [Nat.toString_eq_repr, Nat.toList_repr] at h ⊢
  have hdigit : ∀ c ∈ Nat.toDigits 10 n, c.isDigit := fun c =>
    Nat.isDigit_of_mem_toDigits (by decide) (by decide)
  have hmagnitude : parseMagnitude (Nat.toDigits 10 n) = some n := by
    rw [parseMagnitude, parseDigits_of_isDigit Nat.toDigits_ne_nil hdigit, Option.bind_eq_bind,
      Option.bind_some, List.length_map, if_pos h, ofDigits_toDigits]
  rw [parseInt_of_isDigit Nat.toDigits_ne_nil hdigit, hmagnitude, Option.map_some]

end PegPool.Text
