import Mathlib.Data.List.Forall2
import Mathlib.Data.List.Pairwise
import Mathlib.Data.List.TakeWhile
import Mathlib.Data.Nat.Digits.Defs
import PegPool.Proofs.Text.Numeral

/-!
# Spellings of integers

How an integer may be spelled: blanks, a sign, digits of any script with single underscores
between them, and blanks again. A numeral is read exactly if it spells an integer, and as that
integer; nothing else is read at all.
-/

namespace PegPool.Text

/-! ## Digits -/

/-- The character is a digit of some script: it lies so many places behind the zero there. -/
def StandsFor (c : Char) (digit : Nat) : Prop :=
  digit < 10 ∧ ∃ first ∈ digitZeros, c.toNat = first + digit

/-- No two scripts share a digit. -/
theorem digitZeros_apart :
    digitZeros.Pairwise fun first second => first + 10 ≤ second ∨ second + 10 ≤ first := by
  decide

/-- Besides the plain digits there are none in the plain alphabet. -/
theorem eq_or_le_of_mem_digitZeros : ∀ first ∈ digitZeros, first = 0x30 ∨ 0x660 ≤ first := by
  decide

theorem digitZeros_not_blank :
    ∀ first ∈ digitZeros, ∀ blank ∈ wideBlanks, blank < first ∨ first + 10 ≤ blank := by
  decide +kernel

section Digit

variable {c : Char} {digit : Nat}

theorem digitValue?_eq_some_iff : digitValue? c = some digit ↔ StandsFor c digit := by
  constructor
  · intro h
    have hlt := digitValue?_lt h
    obtain ⟨first, hfind, rfl⟩ := Option.map_eq_some_iff.1 h
    have hrow := List.find?_some hfind
    simp only [decide_eq_true_eq] at hrow
    exact ⟨hlt, first, List.mem_of_find?_eq_some hfind, by omega⟩
  · rintro ⟨hlt, first, hmem, hc⟩
    cases hvalue : digitValue? c with
    | none =>
      simp only [digitValue?, Option.map_eq_none_iff, List.find?_eq_none, decide_eq_true_eq]
        at hvalue
      exact absurd ⟨by omega, by omega⟩ (hvalue first hmem)
    | some value =>
      obtain ⟨second, hfind, rfl⟩ := Option.map_eq_some_iff.1 hvalue
      have hrow := List.find?_some hfind
      simp only [decide_eq_true_eq] at hrow
      by_cases hsame : first = second
      · rw [hc, hsame, Nat.add_sub_cancel_left]
      · have hsymm : Std.Symm fun first second : Nat => first + 10 ≤ second ∨ second + 10 ≤ first :=
          ⟨fun _ _ => Or.symm⟩
        have hapart := digitZeros_apart.forall hmem (List.mem_of_find?_eq_some hfind) hsame
        omega

/-- A digit is a plain one or lies above the plain alphabet. -/
theorem StandsFor.place (h : StandsFor c digit) :
    48 ≤ c.toNat ∧ c.toNat ≤ 57 ∨ 0x660 ≤ c.toNat := by
  obtain ⟨hlt, first, hmem, hc⟩ := h
  rcases eq_or_le_of_mem_digitZeros first hmem with hplain | hwide
  · exact .inl (by omega)
  · exact .inr (by omega)

theorem not_standsFor_underscore : ¬ StandsFor '_' digit := by
  intro h
  have hplace := h.place
  simp at hplace

theorem StandsFor.isBlank (h : StandsFor c digit) : Text.isBlank c = false := by
  have hplace := h.place
  obtain ⟨hlt, first, hmem, hc⟩ := h
  have hspace : c ≠ ' ' := by
    rintro rfl
    simp at hplace
  have hwide : c.toNat ∉ wideBlanks := by
    intro hblank
    have happart := digitZeros_not_blank first hmem _ hblank
    omega
  simp [Text.isBlank, isPlainBlank, hspace, hwide]
  omega

end Digit

/-! ## Underscores -/

/-- The text with single underscores between some of its characters. -/
inductive Parted : List Char → List Char → Prop where
  | single (c : Char) : Parted [c] [c]
  | next (c : Char) {plain text : List Char} (rest : Parted plain text) :
    Parted (c :: plain) (c :: text)
  | parted (c : Char) {plain text : List Char} (rest : Parted plain text) :
    Parted (c :: plain) (c :: '_' :: text)

theorem Parted.exists_eq_cons {plain text : List Char} {c : Char} (h : Parted plain (c :: text)) :
    ∃ rest, plain = c :: rest := by
  cases h with
  | single => exact ⟨[], rfl⟩
  | next _ rest => exact ⟨_, rfl⟩
  | parted _ rest => exact ⟨_, rfl⟩

/-- Digits are read exactly from digits with single underscores between them. -/
theorem parseDigits_eq_some_iff {text : List Char} {digits : List Nat} :
    parseDigits text = some digits ↔
      ∃ plain, Parted plain text ∧ List.Forall₂ StandsFor plain digits := by
  fun_induction parseDigits text generalizing digits with
  | case1 =>
    constructor
    · intro h
      cases h
    · rintro ⟨_, ⟨⟩, -⟩
  | case2 c =>
    rw [Option.map_eq_some_iff]
    constructor
    · rintro ⟨digit, hdigit, rfl⟩
      exact ⟨[c], .single c, .cons (digitValue?_eq_some_iff.1 hdigit) .nil⟩
    · rintro ⟨plain, hparted, hdigits⟩
      cases hparted with
      | single =>
        obtain ⟨digit, others, hdigit, ⟨⟩, rfl⟩ := List.forall₂_cons_left_iff.1 hdigits
        exact ⟨_, digitValue?_eq_some_iff.2 hdigit, rfl⟩
      | next _ rest => cases rest
  | case3 c rest ih =>
    simp only [Option.bind_eq_bind, Option.bind_eq_some_iff, Option.some.injEq]
    constructor
    · rintro ⟨digit, hdigit, others, hothers, rfl⟩
      obtain ⟨plain, hparted, hstand⟩ := ih.1 hothers
      exact ⟨c :: plain, .parted c hparted, .cons (digitValue?_eq_some_iff.1 hdigit) hstand⟩
    · rintro ⟨plain, hparted, hdigits⟩
      cases hparted with
      | next _ hrest =>
        obtain ⟨others, rfl⟩ := hrest.exists_eq_cons
        obtain ⟨_, _, -, hothers, -⟩ := List.forall₂_cons_left_iff.1 hdigits
        obtain ⟨_, _, hunderscore, -, -⟩ := List.forall₂_cons_left_iff.1 hothers
        exact absurd hunderscore not_standsFor_underscore
      | parted _ hrest =>
        obtain ⟨digit, digits, hdigit, hothers, rfl⟩ := List.forall₂_cons_left_iff.1 hdigits
        exact ⟨_, digitValue?_eq_some_iff.2 hdigit, _, ih.2 ⟨_, hrest, hothers⟩, rfl⟩
  | case4 c rest hne hunderscore ih =>
    simp only [Option.bind_eq_bind, Option.bind_eq_some_iff, Option.some.injEq]
    constructor
    · rintro ⟨digit, hdigit, others, hothers, rfl⟩
      obtain ⟨plain, hparted, hstand⟩ := ih.1 hothers
      exact ⟨c :: plain, .next c hparted, .cons (digitValue?_eq_some_iff.1 hdigit) hstand⟩
    · rintro ⟨plain, hparted, hdigits⟩
      cases hparted with
      | single => exact absurd rfl hne
      | next _ hrest =>
        obtain ⟨digit, digits, hdigit, hothers, rfl⟩ := List.forall₂_cons_left_iff.1 hdigits
        exact ⟨_, digitValue?_eq_some_iff.2 hdigit, _, ih.2 ⟨_, hrest, hothers⟩, rfl⟩
      | parted _ hrest => exact absurd rfl (hunderscore _)

theorem ofDigits_eq (digits : List Nat) : ofDigits digits = Nat.ofDigits 10 digits.reverse := by
  rw [Nat.ofDigits_eq_foldr, List.foldr_reverse, ofDigits]
  simp [Nat.add_comm]

theorem parseMagnitude_eq_some_iff {text : List Char} {n : Nat} :
    parseMagnitude text = some n ↔
      ∃ plain digits, Parted plain text ∧ List.Forall₂ StandsFor plain digits ∧
        digits.length ≤ maxDigits ∧ n = Nat.ofDigits 10 digits.reverse := by
  simp only [parseMagnitude, Option.bind_eq_bind, Option.bind_eq_some_iff,
    parseDigits_eq_some_iff, Option.ite_none_right_eq_some, Option.some.injEq, ofDigits_eq]
  constructor
  · rintro ⟨digits, ⟨plain, hparted, hstand⟩, hlength, rfl⟩
    exact ⟨plain, digits, hparted, hstand, hlength, rfl⟩
  · rintro ⟨plain, digits, hparted, hstand, hlength, rfl⟩
    exact ⟨digits, ⟨plain, hparted, hstand⟩, hlength, rfl⟩

/-! ## Signs -/

/-- The sign before digits. -/
inductive Sign where
  | none
  | plus
  | minus
  deriving DecidableEq, Repr

namespace Sign

/-- How a sign is written. -/
def text : Sign → List Char
  | none => []
  | plus => ['+']
  | minus => ['-']

/-- The number with a sign. -/
def apply : Sign → Nat → Int
  | minus, n => -(n : Int)
  | _, n => n

/-- A sign is no digit. -/
theorem not_standsFor (sign : Sign) {c : Char} {digit : Nat} (hc : c ∈ sign.text) :
    ¬ StandsFor c digit := by
  intro h
  have hplace := h.place
  cases sign with
  | none => cases hc
  | plus | minus =>
    rw [List.mem_singleton.1 hc] at hplace
    simp at hplace

/-- A sign is no blank. -/
theorem isBlank (sign : Sign) {c : Char} (hc : c ∈ sign.text) : Text.isBlank c = false := by
  cases sign with
  | none => cases hc
  | plus | minus =>
    rw [List.mem_singleton.1 hc]
    decide

end Sign

theorem Parted.head_standsFor {plain text : List Char} {digits : List Nat} {c : Char}
    (h : Parted plain (c :: text)) (hstand : List.Forall₂ StandsFor plain digits) :
    ∃ digit, StandsFor c digit := by
  obtain ⟨rest, rfl⟩ := h.exists_eq_cons
  obtain ⟨digit, _, hdigit, -, -⟩ := List.forall₂_cons_left_iff.1 hstand
  exact ⟨digit, hdigit⟩

/-- A magnitude is counted as an integer before its sign is looked at. -/
theorem map_magnitude_eq_some_iff {text : List Char} {f : Int → Int} {value : Int} :
    Option.map f (do let n ← parseMagnitude text; pure (n : Int)) = some value ↔
      ∃ n : Nat, parseMagnitude text = some n ∧ f n = value := by
  cases parseMagnitude text <;> simp

theorem parseSigned_eq_some_iff {text : List Char} {value : Int} :
    parseSigned text = some value ↔
      ∃ (sign : Sign) (body : List Char) (n : Nat), text = sign.text ++ body ∧
        parseMagnitude body = some n ∧ value = sign.apply n := by
  constructor
  · intro h
    unfold parseSigned at h
    split at h
    · obtain ⟨n, hn, rfl⟩ := map_magnitude_eq_some_iff.1 h
      exact ⟨.minus, _, n, rfl, hn, rfl⟩
    · obtain ⟨n, hn, rfl⟩ := map_magnitude_eq_some_iff.1 h
      exact ⟨.plus, _, n, rfl, hn, rfl⟩
    · obtain ⟨n, hn, rfl⟩ := map_magnitude_eq_some_iff.1 h
      exact ⟨.none, _, n, rfl, hn, rfl⟩
  · rintro ⟨sign, body, n, rfl, hn, rfl⟩
    cases sign with
    | plus => simp [Sign.text, Sign.apply, parseSigned, hn]
    | minus => simp [Sign.text, Sign.apply, parseSigned, hn]
    | none =>
      obtain ⟨plain, digits, hparted, hstand, -, -⟩ := parseMagnitude_eq_some_iff.1 hn
      -- digits alone do not begin with a sign
      show parseSigned body = some (n : Int)
      unfold parseSigned
      split
      · obtain ⟨digit, hdigit⟩ := hparted.head_standsFor hstand
        exact absurd hdigit (Sign.minus.not_standsFor (List.mem_singleton_self '-'))
      · obtain ⟨digit, hdigit⟩ := hparted.head_standsFor hstand
        exact absurd hdigit (Sign.plus.not_standsFor (List.mem_singleton_self '+'))
      · rw [hn]
        rfl

/-! ## Blanks -/

/-- The character is a blank of a text: a space, a tab, a line or page end, or, in a text that
is not of plain characters alone, a blank of any script. -/
def Blank (text : List Char) (c : Char) : Prop :=
  c.toNat = 32 ∨ 9 ≤ c.toNat ∧ c.toNat ≤ 13 ∨
    (∃ wide ∈ text, 128 ≤ wide.toNat) ∧ c.toNat ∈ wideBlanks

theorem blanksOf_iff {text : List Char} {c : Char} : blanksOf text c ↔ Blank text c := by
  have hspace : c = ' ' ↔ c.toNat = 32 := by
    constructor
    · rintro rfl
      rfl
    · intro h
      exact Char.ext (UInt32.toNat_inj.1 h)
  unfold blanksOf Blank
  by_cases hplain : ∀ wide ∈ text, wide.toNat < 128
  · have hnone : ¬ ∃ wide ∈ text, 128 ≤ wide.toNat := by
      rintro ⟨wide, hmem, hwide⟩
      have hlt := hplain wide hmem
      omega
    have hall : text.all (fun c => decide (c.toNat < 128)) = true := by simpa using hplain
    rw [if_pos hall]
    simp [isPlainBlank, hspace, hnone]
  · have hsome : ∃ wide ∈ text, 128 ≤ wide.toNat := by
      by_contra hnone
      refine hplain fun wide hmem => ?_
      by_contra hge
      exact hnone ⟨wide, hmem, by omega⟩
    have hall : ¬ text.all (fun c => decide (c.toNat < 128)) = true := by simpa using hplain
    rw [if_neg hall]
    simp [isBlank, isPlainBlank, hspace, hsome, or_assoc]

section Trim

variable {drops : Char → Bool} {before core after : List Char}

/-- What is trimmed off a text stands at its start and its end. -/
theorem exists_eq_append_trim (drops : Char → Bool) (text : List Char) :
    ∃ before after, text = before ++ trim drops text ++ after ∧
      ∀ c ∈ before ++ after, drops c := by
  have hback : trim drops text ++ ((text.dropWhile drops).reverse.takeWhile drops).reverse
      = text.dropWhile drops := by
    rw [trim, ← List.reverse_append, List.takeWhile_append_dropWhile, List.reverse_reverse]
  refine ⟨text.takeWhile drops,
    ((text.dropWhile drops).reverse.takeWhile drops).reverse, ?_, ?_⟩
  · rw [List.append_assoc, hback, List.takeWhile_append_dropWhile]
  · intro c hc
    rcases List.mem_append.1 hc with hbefore | hafter
    · exact List.mem_takeWhile_imp hbefore
    · exact List.mem_takeWhile_imp (List.mem_reverse.1 hafter)

theorem dropWhile_append_core (hbefore : ∀ c ∈ before, drops c) (hne : core ≠ [])
    (hcore : ∀ c ∈ core, drops c = false) (rest : List Char) :
    (before ++ (core ++ rest)).dropWhile drops = core ++ rest := by
  have hhead : core.dropWhile drops = core := dropWhile_eq_self hcore
  rw [List.dropWhile_append_of_pos hbefore, List.dropWhile_append, hhead]
  simp [hne]

/-- A text is trimmed to what has nothing to drop in it, if that is all around. -/
theorem trim_append (hne : core ≠ []) (hcore : ∀ c ∈ core, drops c = false)
    (hdrops : ∀ c ∈ before ++ after, drops c) : trim drops (before ++ core ++ after) = core := by
  have hbefore : ∀ c ∈ before, drops c := fun c hc => hdrops c (List.mem_append_left _ hc)
  have hafter : ∀ c ∈ after.reverse, drops c := fun c hc =>
    hdrops c (List.mem_append_right _ (List.mem_reverse.1 hc))
  have hreverse : ∀ c ∈ core.reverse, drops c = false := fun c hc =>
    hcore c (List.mem_reverse.1 hc)
  have hback : (after.reverse ++ core.reverse).dropWhile drops = core.reverse := by
    have hnone := dropWhile_append_core hafter (by simpa using hne) hreverse []
    rwa [List.append_nil] at hnone
  rw [trim, List.append_assoc, dropWhile_append_core hbefore hne hcore, List.reverse_append,
    hback, List.reverse_reverse]

end Trim

/-! ## Spellings -/

/-- The text spells the integer: in blanks, a sign and digits, the most significant first, with
single underscores between some of them. There are no more digits than a numeral may have. -/
inductive Spells : List Char → Int → Prop where
  | spelling {before plain body after : List Char} {digits : List Nat} (sign : Sign)
    (blank : ∀ c ∈ before ++ after, Blank (before ++ (sign.text ++ body) ++ after) c)
    (parted : Parted plain body) (stands : List.Forall₂ StandsFor plain digits)
    (short : digits.length ≤ maxDigits) :
    Spells (before ++ (sign.text ++ body) ++ after)
      (sign.apply (Nat.ofDigits 10 digits.reverse))

/-- Between the first digit and the last there is no blank. -/
theorem Parted.isBlank {plain body : List Char} {digits : List Nat} (h : Parted plain body)
    (hstand : List.Forall₂ StandsFor plain digits) : ∀ c ∈ body, Text.isBlank c = false := by
  induction h generalizing digits with
  | single c =>
    obtain ⟨digit, _, hdigit, -, -⟩ := List.forall₂_cons_left_iff.1 hstand
    intro other hmem
    rw [List.mem_singleton.1 hmem]
    exact hdigit.isBlank
  | next c _ ih =>
    obtain ⟨digit, others, hdigit, hothers, -⟩ := List.forall₂_cons_left_iff.1 hstand
    intro other hmem
    rcases List.mem_cons.1 hmem with rfl | hrest
    · exact hdigit.isBlank
    · exact ih hothers other hrest
  | parted c _ ih =>
    obtain ⟨digit, others, hdigit, hothers, -⟩ := List.forall₂_cons_left_iff.1 hstand
    intro other hmem
    rcases List.mem_cons.1 hmem with rfl | hmem
    · exact hdigit.isBlank
    · rcases List.mem_cons.1 hmem with rfl | hrest
      · decide
      · exact ih hothers other hrest

/-- A numeral is read exactly if it spells an integer, and as that integer. -/
theorem parseInt_eq_some_iff {text : List Char} {value : Int} :
    parseInt text = some value ↔ Spells text value := by
  rw [parseInt, parseSigned_eq_some_iff]
  constructor
  · rintro ⟨sign, body, n, hcore, hn, rfl⟩
    obtain ⟨plain, digits, hparted, hstand, hlength, rfl⟩ := parseMagnitude_eq_some_iff.1 hn
    obtain ⟨before, after, htext, hblank⟩ := exists_eq_append_trim (blanksOf text) text
    rw [hcore] at htext
    rw [htext] at hblank ⊢
    exact .spelling sign (fun c hc => blanksOf_iff.1 (hblank c hc)) hparted hstand hlength
  · intro h
    cases h with
    | @spelling before plain body after digits sign hblank hparted hstand hlength =>
      have hne : sign.text ++ body ≠ [] := by
        cases hparted <;> simp
      have hcore : ∀ c ∈ sign.text ++ body,
          blanksOf (before ++ (sign.text ++ body) ++ after) c = false := by
        intro c hc
        rcases List.mem_append.1 hc with hsign | hbody
        · exact blanksOf_of_isBlank (sign.isBlank hsign)
        · exact blanksOf_of_isBlank (hparted.isBlank hstand c hbody)
      have hdrops : ∀ c ∈ before ++ after,
          blanksOf (before ++ (sign.text ++ body) ++ after) c :=
        fun c hc => blanksOf_iff.2 (hblank c hc)
      exact ⟨sign, body, _, trim_append hne hcore hdrops,
        parseMagnitude_eq_some_iff.2 ⟨plain, digits, hparted, hstand, hlength, rfl⟩, rfl⟩

/-- The digits of a number spell it after any zeros and under any sign that leaves it as it is,
in whichever scripts, underscores and blanks. -/
theorem Spells.of_digits {before plain body after : List Char} {sign : Sign} {n zeros : Nat}
    (hsign : sign = .minus → n = 0) (hlength : zeros + (Nat.digits 10 n).length ≤ maxDigits)
    (hstand : List.Forall₂ StandsFor plain (List.replicate zeros 0 ++ (Nat.digits 10 n).reverse))
    (hparted : Parted plain body)
    (hblank : ∀ c ∈ before ++ after, Blank (before ++ (sign.text ++ body) ++ after) c) :
    Spells (before ++ (sign.text ++ body) ++ after) n := by
  have hspells := Spells.spelling sign hblank hparted hstand (by simpa using hlength)
  have hvalue : sign.apply n = n := by
    cases sign with
    | none => rfl
    | plus => rfl
    | minus =>
      rw [hsign rfl]
      rfl
  rwa [List.reverse_append, List.reverse_reverse, List.reverse_replicate,
    Nat.ofDigits_append_replicate_zero, Nat.ofDigits_digits, hvalue] at hspells

/-- Spellings are not ambiguous: a text spells one integer at most. -/
theorem Spells.unique {text : List Char} {value other : Int} (h : Spells text value)
    (hother : Spells text other) : value = other := by
  have hsome := (parseInt_eq_some_iff.2 h).symm.trans (parseInt_eq_some_iff.2 hother)
  exact Option.some.inj hsome

end PegPool.Text
