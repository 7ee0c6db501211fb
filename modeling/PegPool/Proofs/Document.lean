import PegPool.Curve.Kind
import PegPool.Document

/-!
# Entries and written forms

What stands under a name after entries were changed, and which documents are written
as the word for a kind of curve.
-/

namespace PegPool

namespace Document

/-! ## Entries -/

variable {entries : List (String × Document)} {name other : String} {value : Document}

theorem lookup?_cons :
    lookup? ((other, value) :: entries) name
      = if name = other then some value else lookup? entries name := by
  by_cases h : name = other
  · simp [lookup?, h]
  · have hne : (name == other) = false := beq_false_of_ne h
    simp [lookup?, List.lookup_cons, hne, h]

/-- Inserting changes what stands under one name. -/
theorem lookup?_insert :
    lookup? (insert entries other value) name
      = if name = other then some value else lookup? entries name := by
  induction entries with
  | nil => simp [insert, lookup?_cons]
  | cons entry rest ih =>
    obtain ⟨first, old⟩ := entry
    by_cases h : first = other
    · subst h
      by_cases hname : name = first <;> simp [insert, lookup?_cons, hname]
    · by_cases hname : name = first
      · subst hname
        simp [insert, lookup?_cons, h]
      · simp [insert, lookup?_cons, h, hname, ih]

/-- The entries without those under a name. -/
def erase (entries : List (String × Document)) (name : String) : List (String × Document) :=
  match entries with
  | [] => []
  | (other, value) :: rest =>
    if other = name then erase rest name else (other, value) :: erase rest name

/-- Erasing changes what stands under one name. -/
theorem lookup?_erase :
    lookup? (erase entries other) name
      = if name = other then none else lookup? entries name := by
  induction entries with
  | nil => simp [erase, lookup?]
  | cons entry rest ih =>
    obtain ⟨first, old⟩ := entry
    by_cases h : first = other
    · subst h
      by_cases hname : name = first <;> simp_all [erase, lookup?_cons]
    · by_cases hname : name = first
      · subst hname
        simp [erase, lookup?_cons, h]
      · simp [erase, lookup?_cons, h, hname, ih]

end Document

/-! ## Written forms

An underscore tells the word for a kind of curve from every number. -/

theorem underscore_not_mem_toString (value : Int) : '_' ∉ (toString value).toList := by
  cases value with
  | ofNat n =>
    show '_' ∉ (toString n).toList
    simp
  | negSucc n =>
    show '_' ∉ ("-" ++ toString (n + 1)).toList
    simp

namespace Double

theorem underscore_not_mem_layout {digits : List Char} (h : '_' ∉ digits) (point : Int) :
    '_' ∉ layout digits point := by
  have htake : '_' ∉ digits.take point.toNat := fun hmem => h (List.mem_of_mem_take hmem)
  have hdrop : '_' ∉ digits.drop point.toNat := fun hmem => h (List.mem_of_mem_drop hmem)
  unfold layout
  split
  · split
    · simp [zeros, h]
    · split <;> simp [zeros, h, htake, hdrop]
  · -- a mantissa with a point after its first digit, the sign and the exponent
    simp only [List.mem_append, not_or]
    refine ⟨⟨?_, ?_⟩, ?_⟩
    · split <;> simp_all
    · split <;> simp
    · split <;> simp

theorem underscore_not_mem_text (value : Double) : '_' ∉ value.text.toList := by
  cases value with
  | undefined => decide
  | infinite negative => cases negative <;> decide
  | finite negative significand exponent =>
    have hsign : '_' ∉ (if negative then "-" else "").toList := by
      cases negative <;> decide
    simp only [text]
    split
    · rw [String.toList_append, List.mem_append, not_or]
      exact ⟨hsign, by decide⟩
    · generalize shortest significand exponent = found
      have hdigits : '_' ∉ dropTrailingZeros (toString found.1).toList := by
        intro hmem
        rw [dropTrailingZeros, List.mem_reverse] at hmem
        have hmem := List.mem_reverse.1 ((List.dropWhile_sublist _).subset hmem)
        simp at hmem
      rw [String.toList_append, List.mem_append, not_or, String.toList_ofList]
      exact ⟨hsign, underscore_not_mem_layout hdigits _⟩

end Double

theorem CurveKind.underscore_mem_word (kind : CurveKind) : '_' ∈ kind.word.toList := by
  cases kind <;> decide

/-- Only a text is written as the word for a kind of curve. -/
theorem Document.display_eq_word_iff {document : Document} {kind : CurveKind} :
    document.display = kind.word ↔ document = .text kind.word := by
  constructor
  · intro h
    have hmem := kind.underscore_mem_word
    rw [← h] at hmem
    have hhead := congrArg (·.toList.head?) h
    cases document with
    | text value =>
      rw [← h]
      rfl
    | null => exact absurd hmem (by decide)
    | bool value => cases value <;> exact absurd hmem (by decide)
    | integer value => exact absurd hmem (underscore_not_mem_toString value)
    | float value => exact absurd hmem value.underscore_not_mem_text
    -- what stands in a list or an object may have underscores, but a bracket comes first
    | list items => cases kind <;> simp [display, showNested, CurveKind.word] at hhead
    | object entries => cases kind <;> simp [display, showNested, CurveKind.word] at hhead
  · rintro rfl
    rfl

end PegPool
