import Mathlib.Logic.Relation
import PegPool.Proofs.Parameters
import PegPool.Proofs.Parameters.Number
import PegPool.Record

/-!
# Curves told anew

The entries that are written for a curve tell this curve, and still do after any number
of edits that keep what they say: a number may become its numeral, the kind may move to
its other name, an entry that does not count may come in, and so may anything under the
second name of a field that has its preferred one. One edit is looked at first; a run of
edits follows by induction.
-/

namespace PegPool

namespace Parameters

open Document

variable {entries others : List (String × Document)} {kind : CurveKind} {curve : Curve}

/-! ## Edits -/

/-- One edit that keeps what entries tell. -/
inductive Retold : List (String × Document) → List (String × Document) → Prop where
  /-- An integer becomes its numeral. -/
  | numeral {entries : List (String × Document)} {name : String} {value : Int}
    (stands : lookup? entries name = some (.integer value)) :
    Retold entries (insert entries name (.text (toString value)))
  /-- The kind moves to its other name. -/
  | renamed {entries : List (String × Document)} {value : Document}
    (stands : lookup? entries "curve_type" = some value) :
    Retold entries (insert (erase entries "curve_type") "curveType" value)
  /-- Anything is put under a name that does not count. -/
  | foreign {entries : List (String × Document)} {name : String} (value : Document)
    (ignored : ¬ Counts entries name) : Retold entries (insert entries name value)
  /-- Anything is put under the second name of a field whose preferred name is there. -/
  | shadowed {entries : List (String × Document)} {kind : CurveKind} {field : Field}
    {first : Document} (value : Document) (named : NamesKind entries kind)
    (mem : field ∈ fields kind) (second : field.name ≠ field.preferred)
    (stands : lookup? entries field.preferred = some first) :
    Retold entries (insert entries field.name value)
  /-- The entries come in another order. -/
  | reordered {entries others : List (String × Document)}
    (same : ∀ name, lookup? others name = lookup? entries name) : Retold entries others

/-! ## One edit -/

namespace Field

variable {field : Field} {name : String} {value : Document} {number : Narrow}

theorem Stands.lookup?_eq (h : field.Stands entries name value) :
    lookup? entries name = some value := by
  cases h with
  | preferred first => exact first
  | named _ second => exact second

/-- A value still stands for a field, or another one in its place, if no name gains a
value. -/
theorem Stands.of_lookup? {new : Document} (h : field.Stands entries name value)
    (hnone : ∀ name, lookup? entries name = none → lookup? others name = none)
    (hnew : lookup? others name = some new) : field.Stands others name new := by
  cases h with
  | preferred _ => exact .preferred hnew
  | named absent _ => exact .named (hnone _ absent) hnew

theorem Holds.congr (h : field.Holds entries number)
    (hpreferred : lookup? others field.preferred = lookup? entries field.preferred)
    (hname : lookup? others field.name = lookup? entries field.name) :
    field.Holds others number := by
  have hread : field.read .constantPrice entries = .ok number := read_eq_ok_iff.2 h
  exact read_eq_ok_iff.1 ((read_congr hpreferred hname).trans hread)

end Field

/-- The names of the kind are not those of a field. -/
theorem ne_kind_of_mem_fields {field : Field} (h : field ∈ fields kind) :
    (field.preferred ≠ "curve_type" ∧ field.preferred ≠ "curveType") ∧
      field.name ≠ "curve_type" ∧ field.name ≠ "curveType" := by
  revert field
  cases kind <;> decide

/-- Fields of one kind that share a name share their preferred one. -/
theorem preferred_eq_of_mem_fields {field other : Field} (hfield : field ∈ fields kind)
    (hother : other ∈ fields kind) :
    (other.preferred = field.name → field.preferred = field.name) ∧
      (other.name = field.name → other.preferred = field.preferred) := by
  have hall : ∀ kind : CurveKind, ∀ field ∈ fields kind, ∀ other ∈ fields kind,
      (other.preferred = field.name → field.preferred = field.name) ∧
        (other.name = field.name → other.preferred = field.preferred) := by
    intro kind
    cases kind <;> decide
  exact hall kind field hfield other hother

theorem Tells.congr (h : Tells entries curve)
    (hsame : ∀ name, Counts entries name → lookup? others name = lookup? entries name) :
    Tells others curve := by
  rw [← value_parse_eq_ok_iff] at h ⊢
  rw [parse_congr hsame, h]

theorem NamesKind.of_numeral {name : String} {value : Int} (h : NamesKind entries kind)
    (stands : lookup? entries name = some (.integer value)) :
    NamesKind (insert entries name (.text (toString value))) kind := by
  unfold NamesKind at h ⊢
  obtain hkind | ⟨hnone, hkind⟩ := h
  · have hne : "curve_type" ≠ name := by
      rintro rfl
      simp [hkind] at stands
    exact .inl (by rw [lookup?_insert, if_neg hne, hkind])
  · have hne : "curve_type" ≠ name := by
      rintro rfl
      simp [hnone] at stands
    have hother : "curveType" ≠ name := by
      rintro rfl
      simp [hkind] at stands
    exact .inr ⟨by rw [lookup?_insert, if_neg hne, hnone],
      by rw [lookup?_insert, if_neg hother, hkind]⟩

theorem Field.Holds.of_numeral {field : Field} {number : Narrow} {name : String} {value : Int}
    (h : field.Holds entries number) (stands : lookup? entries name = some (.integer value)) :
    field.Holds (insert entries name (.text (toString value))) number := by
  have hnone : ∀ other, lookup? entries other = none →
      lookup? (insert entries name (.text (toString value))) other = none := by
    intro other hother
    have hne : other ≠ name := by
      rintro rfl
      simp [hother] at stands
    rw [lookup?_insert, if_neg hne, hother]
  cases h with
  | @given key old _ hstands accepted =>
    by_cases hkey : key = name
    · subst hkey
      obtain rfl : old = .integer value :=
        Option.some.inj (hstands.lookup?_eq.symm.trans stands)
      exact .given (hstands.of_lookup? hnone (by rw [lookup?_insert, if_pos rfl]))
        (Narrow.ofDocument_numeral accepted)
    · exact .given (hstands.of_lookup? hnone
        (by rw [lookup?_insert, if_neg hkey, hstands.lookup?_eq])) accepted
  | default absent default => exact .default ⟨hnone _ absent.1, hnone _ absent.2⟩ default

theorem NamesKind.of_renamed {value : Document} (h : NamesKind entries kind)
    (stands : lookup? entries "curve_type" = some value) :
    NamesKind (insert (erase entries "curve_type") "curveType" value) kind := by
  obtain hkind | ⟨hnone, -⟩ := h
  · refine .inr ⟨by simp [lookup?_insert, lookup?_erase], ?_⟩
    rw [lookup?_insert, if_pos rfl, ← stands, hkind]
  · simp [hnone] at stands

theorem NamesKind.of_shadowed {field : Field} (value : Document) (h : NamesKind entries kind)
    (mem : field ∈ fields kind) : NamesKind (insert entries field.name value) kind := by
  obtain ⟨-, hfirst, hsecond⟩ := ne_kind_of_mem_fields mem
  unfold NamesKind at h ⊢
  rwa [lookup?_insert, if_neg hfirst.symm, lookup?_insert, if_neg hsecond.symm]

theorem Field.Holds.of_shadowed {field other : Field} {number : Narrow} {first : Document}
    (value : Document) (h : other.Holds entries number) (mem : field ∈ fields kind)
    (hother : other ∈ fields kind) (second : field.name ≠ field.preferred)
    (stands : lookup? entries field.preferred = some first) :
    other.Holds (insert entries field.name value) number := by
  obtain ⟨hpreferred, hname⟩ := preferred_eq_of_mem_fields mem hother
  have hkept : lookup? (insert entries field.name value) other.preferred
      = lookup? entries other.preferred := by
    rw [lookup?_insert, if_neg fun heq => second (hpreferred heq).symm]
  by_cases hshared : other.name = field.name
  · -- the field itself: nothing is looked for under its second name
    rw [← hname hshared] at stands
    cases h with
    | given found accepted =>
      cases found with
      | preferred old => exact .given (.preferred (hkept.trans old)) accepted
      | named absent _ => simp [absent] at stands
    | default absent _ => simp [absent.1] at stands
  · exact h.congr hkept (by rw [lookup?_insert, if_neg hshared])

theorem Field.Holds.of_renamed {field : Field} {number : Narrow} (value : Document)
    (h : field.Holds entries number) (mem : field ∈ fields kind) :
    field.Holds (insert (erase entries "curve_type") "curveType" value) number := by
  obtain ⟨⟨hpreferred, hpreferred'⟩, hname, hname'⟩ := ne_kind_of_mem_fields mem
  refine h.congr ?_ ?_
  · rw [lookup?_insert, if_neg hpreferred', lookup?_erase, if_neg hpreferred]
  · rw [lookup?_insert, if_neg hname', lookup?_erase, if_neg hname]

theorem Tells.of_holds (h : Tells entries curve) (hkind : NamesKind others curve.kind)
    (hholds : ∀ field ∈ fields curve.kind, ∀ number, field.Holds entries number →
      field.Holds others number) : Tells others curve := by
  refine ⟨hkind, ?_⟩
  have hmem := (List.forall₂_and_left _ _).2 ⟨fun _ hmem => hmem, h.numbers⟩
  exact hmem.imp fun field number hfield => hholds field hfield.1 number hfield.2

/-- One edit keeps the curve that entries tell. -/
theorem Tells.of_retold (h : Tells entries curve) (edit : Retold entries others) :
    Tells others curve := by
  cases edit with
  | numeral stands =>
    exact h.of_holds (h.kind.of_numeral stands) fun _ _ _ holds => holds.of_numeral stands
  | @renamed value stands =>
    exact h.of_holds (h.kind.of_renamed stands) fun _ mem _ holds => holds.of_renamed value mem
  | @foreign name value ignored =>
    refine h.congr fun other counts => ?_
    have hne : other ≠ name := by
      rintro rfl
      exact ignored counts
    rw [lookup?_insert, if_neg hne]
  | shadowed value named mem second stands =>
    obtain rfl := named.unique h.kind
    exact h.of_holds (h.kind.of_shadowed value mem) fun _ hother _ holds =>
      holds.of_shadowed value mem hother second stands
  | reordered same => exact h.congr fun name _ => same name

/-! ## A run of edits -/

theorem Tells.of_retellings (h : Tells entries curve)
    (edits : Relation.ReflTransGen Retold entries others) : Tells others curve := by
  induction edits with
  | refl => exact h
  | tail _ edit ih => exact ih.of_retold edit

/-- A number is held by its field if it stands under the preferred name, or under the
other while nothing stands under the preferred one. -/
theorem Field.Holds.of_integer {field : Field} {number : Narrow} {name : String}
    (stands : lookup? entries name = some (.integer number.toNat))
    (hname : name = field.preferred ∨
      name = field.name ∧ lookup? entries field.preferred = none) :
    field.Holds entries number := by
  obtain rfl | ⟨rfl, hnone⟩ := hname
  · exact .given (.preferred stands) (Narrow.ofDocument_eq_ok_iff.2 (.inl rfl))
  · exact .given (.named hnone stands) (Narrow.ofDocument_eq_ok_iff.2 (.inl rfl))

/-- What is written for a curve tells it, whichever name of a field is chosen. -/
theorem tells_write {nameOf : Field → String} (curve : Curve)
    (hname : ∀ field, nameOf field = field.name ∨ nameOf field = field.preferred) :
    Tells (write nameOf curve) curve := by
  refine ⟨.inl rfl, ?_⟩
  cases curve with
  | constantPrice record =>
    obtain hprice | hprice := hname tokenBPrice <;>
      simp only [write, Curve.kind, fields, numbers, List.zipWith, hprice]
    · exact .cons (.of_integer rfl (.inr ⟨rfl, rfl⟩)) .nil
    · exact .cons (.of_integer rfl (.inl rfl)) .nil
  | redemptionRate record =>
    have hray : nameOf ray = "ray" := or_self_iff.1 (hname ray)
    have hssr : nameOf ssr = "ssr" := or_self_iff.1 (hname ssr)
    have hrho : nameOf rho = "rho" := or_self_iff.1 (hname rho)
    have hchi : nameOf chi = "chi" := or_self_iff.1 (hname chi)
    obtain hmaxSsr | hmaxSsr := hname maxSsr <;>
      simp only [write, Curve.kind, fields, numbers, List.zipWith, hray, hmaxSsr, hssr, hrho, hchi]
    · exact .cons (.of_integer rfl (.inl rfl)) (.cons (.of_integer rfl (.inr ⟨rfl, rfl⟩))
        (.cons (.of_integer rfl (.inl rfl)) (.cons (.of_integer rfl (.inl rfl))
          (.cons (.of_integer rfl (.inl rfl)) .nil))))
    · exact .cons (.of_integer rfl (.inl rfl)) (.cons (.of_integer rfl (.inl rfl))
        (.cons (.of_integer rfl (.inl rfl)) (.cons (.of_integer rfl (.inl rfl))
          (.cons (.of_integer rfl (.inl rfl)) .nil))))

/-- Entries that were written for a curve are read as this curve, in whatever way they
were retold in between. -/
theorem read_back_retold (curve : Curve) (nameOf : Field → String)
    (hname : ∀ field, nameOf field = field.name ∨ nameOf field = field.preferred)
    (entries : List (String × Document))
    (edits : Relation.ReflTransGen Retold (write nameOf curve) entries) :
    (parse entries).value = .ok curve ∧
      (parse entries).value.map Curve.pack = .ok curve.pack := by
  have hread : (parse entries).value = .ok curve :=
    value_parse_eq_ok_iff.2 ((tells_write curve hname).of_retellings edits)
  exact ⟨hread, by rw [hread]; rfl⟩

/-- A curve that doubles every second. -/
def doubling : Curve :=
  .redemptionRate ⟨⟨1, by decide⟩, .zero, ⟨2, by decide⟩, ⟨6, by decide⟩, ⟨7, by decide⟩⟩

/-- The doubling curve after its index was made a numeral, its kind moved, a note came in
and a truth value was put under the second name of its bound. -/
theorem read_back_retold_doubling :
    (parse [("ray", .integer 1), ("maxSsr", .integer 0), ("ssr", .integer 2), ("rho", .integer 6),
        ("chi", .text "7"), ("curveType", .text "redemption_rate"), ("note", .null),
        ("max_ssr", .bool true)]).value = .ok doubling := by
  have hnote : ∀ entries, ¬ Counts entries "note" := fun entries counts =>
    absurd counts.mem_names (by decide)
  have edits := Relation.ReflTransGen.single (@Retold.numeral (write Field.preferred doubling)
    "chi" 7 rfl)
  have edits := edits.tail (.renamed rfl)
  have edits := edits.tail (.foreign .null (hnote _))
  have edits := edits.tail (.shadowed (.bool true) (.inr ⟨rfl, rfl⟩)
    (show maxSsr ∈ fields .redemptionRate by simp [fields]) (by decide) rfl)
  exact (read_back_retold doubling Field.preferred (fun _ => .inr rfl) _ edits).1

end Parameters

end PegPool
