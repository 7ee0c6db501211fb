import Mathlib.Data.List.Forall2
import PegPool.Parameters
import PegPool.Proofs.Document

/-!
# Told curves

An object tells a curve if it names the kind and has an acceptable number for every
field of that kind. What is said here about an object is said about the values under
a few names only: whatever else it holds, and in which order, has no influence. Where
it tells no curve, each field that is missing or wrong is reported once, in the order
of the record.
-/

namespace PegPool

namespace Parameters

variable {entries : List (String × Document)} {kind : CurveKind}

/-! ## The kind -/

/-- The entries name a kind: by a text under one name, or under the other where
nothing stands under the first. -/
def NamesKind (entries : List (String × Document)) (kind : CurveKind) : Prop :=
  Document.lookup? entries "curve_type" = some (.text kind.word) ∨
    Document.lookup? entries "curve_type" = none ∧
      Document.lookup? entries "curveType" = some (.text kind.word)

/-- A kind is named by a text only: no other value is written like one. -/
theorem kindWord_eq_word_iff : kindWord entries = kind.word ↔ NamesKind entries kind := by
  unfold kindWord NamesKind
  cases Document.lookup? entries "curve_type" with
  | some value => simp [Document.display_eq_word_iff]
  | none =>
    cases Document.lookup? entries "curveType" with
    | some value => simp [Document.display_eq_word_iff]
    | none => cases kind <;> simp [CurveKind.word]

theorem word_injective {other : CurveKind} (h : kind.word = other.word) : kind = other := by
  have hkind := CurveKind.ofWord?_word kind
  rw [h, CurveKind.ofWord?_word] at hkind
  exact (Option.some.inj hkind).symm

theorem ofWord?_eq_some_iff {word : String} :
    CurveKind.ofWord? word = some kind ↔ word = kind.word := by
  constructor
  · intro h
    unfold CurveKind.ofWord? at h
    split at h
    · cases h
      assumption
    · split at h
      · cases h
        assumption
      · cases h
  · rintro rfl
    exact kind.ofWord?_word

/-! ## One field -/

namespace Field

variable {field : Field} {name : String} {value : Document} {number : Narrow}
  {problem : Problem}

/-- The value of a field stands under its preferred name, or under its other name
where nothing stands under the preferred one. -/
inductive Stands (field : Field) (entries : List (String × Document)) :
    String → Document → Prop where
  | preferred {value : Document}
    (first : Document.lookup? entries field.preferred = some value) :
    Stands field entries field.preferred value
  | named {value : Document} (absent : Document.lookup? entries field.preferred = none)
    (second : Document.lookup? entries field.name = some value) :
    Stands field entries field.name value

/-- A field has no value under either of its names. -/
def Absent (field : Field) (entries : List (String × Document)) : Prop :=
  Document.lookup? entries field.preferred = none ∧
    Document.lookup? entries field.name = none

theorem given?_eq_some_iff :
    field.given? entries = some (name, value) ↔ field.Stands entries name value := by
  constructor
  · intro h
    cases hpreferred : Document.lookup? entries field.preferred with
    | some first =>
      simp only [given?, List.findSome?_cons, hpreferred, Option.map_some, Option.some.injEq,
        Prod.mk.injEq] at h
      obtain ⟨rfl, rfl⟩ := h
      exact .preferred hpreferred
    | none =>
      simp only [given?, List.findSome?_cons, hpreferred, Option.map_none, List.findSome?_nil] at h
      cases hname : Document.lookup? entries field.name with
      | some second =>
        simp only [hname, Option.map_some, Option.some.injEq, Prod.mk.injEq] at h
        obtain ⟨rfl, rfl⟩ := h
        exact .named hpreferred hname
      | none => simp [hname] at h
  · rintro (hpreferred | ⟨hpreferred, hname⟩)
    · simp [given?, hpreferred]
    · simp [given?, hpreferred, hname]

theorem given?_eq_none_iff : field.given? entries = none ↔ field.Absent entries := by
  simp [given?, Absent]

/-- The number that entries hold for a field: the one its value stands for, which
must be acceptable, or its default, which need not be checked. -/
inductive Holds (field : Field) (entries : List (String × Document)) :
    Narrow → Prop where
  | given {name : String} {value : Document} {number : Narrow}
    (stands : field.Stands entries name value)
    (accepted : Narrow.ofDocument value = .ok number) : Holds field entries number
  | default {number : Narrow} (absent : field.Absent entries)
    (default : field.default = some number) : Holds field entries number

/-- What is wrong with a field: it is missing, or its value stands for no number. -/
inductive Fails (field : Field) (kind : CurveKind) (entries : List (String × Document)) :
    Problem → Prop where
  | missing (absent : field.Absent entries) (needed : field.default = none) :
    Fails field kind entries (.missing kind field.preferred)
  | rejected {name : String} {value : Document} {cause : NumberError}
    (stands : field.Stands entries name value)
    (refused : Narrow.ofDocument value = .error cause) :
    Fails field kind entries (.badNumber kind name cause)

theorem read_eq_ok_iff : field.read kind entries = .ok number ↔ field.Holds entries number := by
  constructor
  · intro h
    unfold read at h
    split at h
    · rename_i name value hgiven
      cases hvalue : Narrow.ofDocument value with
      | ok accepted =>
        rw [hvalue] at h
        cases h
        exact .given (given?_eq_some_iff.1 hgiven) hvalue
      | error cause =>
        rw [hvalue] at h
        cases h
    · rename_i hgiven hdefault
      cases h
      exact .default (given?_eq_none_iff.1 hgiven) hdefault
    · cases h
  · rintro (⟨stands, accepted⟩ | ⟨absent, default⟩)
    · simp [read, given?_eq_some_iff.2 stands, accepted, Except.mapError]
    · simp [read, given?_eq_none_iff.2 absent, default]

theorem read_eq_error_iff :
    field.read kind entries = .error problem ↔ field.Fails kind entries problem := by
  constructor
  · intro h
    unfold read at h
    split at h
    · rename_i name value hgiven
      cases hvalue : Narrow.ofDocument value with
      | ok accepted =>
        rw [hvalue] at h
        cases h
      | error cause =>
        rw [hvalue] at h
        cases h
        exact .rejected (given?_eq_some_iff.1 hgiven) hvalue
    · cases h
    · rename_i hgiven hdefault
      cases h
      exact .missing (given?_eq_none_iff.1 hgiven) hdefault
  · rintro (⟨absent, needed⟩ | ⟨stands, refused⟩)
    · simp [read, given?_eq_none_iff.2 absent, needed]
    · simp [read, given?_eq_some_iff.2 stands, refused, Except.mapError]

/-- What a field reads is told by what stands under its two names. -/
theorem read_congr {others : List (String × Document)}
    (hpreferred : Document.lookup? others field.preferred
      = Document.lookup? entries field.preferred)
    (hname : Document.lookup? others field.name = Document.lookup? entries field.name) :
    field.read kind others = field.read kind entries := by
  have hgiven : field.given? others = field.given? entries := by
    simp only [given?, List.findSome?_cons, List.findSome?_nil, hpreferred, hname]
  simp only [read, hgiven]

end Field

/-! ## All fields -/

/-- The problems along a list of fields: one of each field that has one. -/
inductive Reports (kind : CurveKind) (entries : List (String × Document)) :
    List Field → List Problem → Prop where
  | done : Reports kind entries [] []
  | sound {field : Field} {number : Narrow} {rest : List Field} {found : List Problem}
    (holds : field.Holds entries number) (later : Reports kind entries rest found) :
    Reports kind entries (field :: rest) found
  | wrong {field : Field} {problem : Problem} {rest : List Field} {found : List Problem}
    (fails : field.Fails kind entries problem) (later : Reports kind entries rest found) :
    Reports kind entries (field :: rest) (problem :: found)

theorem reports_iff {all : List Field} {found : List Problem} :
    Reports kind entries all found ↔ found = problems (all.map (·.read kind entries)) := by
  induction all generalizing found with
  | nil =>
    constructor
    · rintro ⟨⟩
      rfl
    · rintro rfl
      exact .done
  | cons field rest ih =>
    constructor
    · rintro (_ | ⟨holds, later⟩ | ⟨fails, later⟩)
      · rw [ih.1 later, List.map_cons, Field.read_eq_ok_iff.2 holds]
        rfl
      · rw [ih.1 later, List.map_cons, Field.read_eq_error_iff.2 fails]
        rfl
    · rintro rfl
      cases hread : field.read kind entries with
      | ok number =>
        rw [List.map_cons, hread]
        exact .sound (Field.read_eq_ok_iff.1 hread) (ih.2 rfl)
      | error problem =>
        rw [List.map_cons, hread]
        exact .wrong (Field.read_eq_error_iff.1 hread) (ih.2 rfl)

theorem problems_eq_nil_iff {numbers : List (Except Problem Narrow)} :
    problems numbers = [] ↔ ∀ number ∈ numbers, ∃ n, number = .ok n := by
  induction numbers with
  | nil => simp [problems]
  | cons number rest ih =>
    unfold problems at ih ⊢
    cases number <;> simp [ih]

/-- A kind is read as the curve whose numbers its fields hold, in their order. -/
theorem readAs_eq_ok_iff {curve : Curve} : readAs kind entries = .ok curve ↔
    curve.kind = kind ∧ List.Forall₂ (fun field number => field.Holds entries number)
      (fields kind) (numbers curve) := by
  have hread : ∀ {field : Field} {number : Narrow},
      field.Holds entries number ↔ field.read kind entries = .ok number :=
    Field.read_eq_ok_iff.symm
  simp only [hread]
  cases kind with
  | constantPrice =>
    cases curve with
    | constantPrice record =>
      simp only [readAs, fields, numbers, Curve.kind, List.forall₂_cons]
      cases tokenBPrice.read .constantPrice entries <;> cases record <;> simp
    | redemptionRate record =>
      simp only [readAs, Curve.kind]
      cases tokenBPrice.read .constantPrice entries <;> simp
  | redemptionRate =>
    simp only [readAs]
    cases curve with
    | constantPrice record => split <;> simp [Curve.kind]
    | redemptionRate record =>
      simp only [fields, numbers, Curve.kind, List.forall₂_cons]
      split
      · rename_i hray hmaxSsr hssr hrho hchi
        cases record
        simp [hray, hmaxSsr, hssr, hrho, hchi]
      · rename_i hnot
        simp only [reduceCtorEq, false_iff, true_and]
        rintro ⟨hray, hmaxSsr, hssr, hrho, hchi, -⟩
        exact hnot _ _ _ _ _ hray hmaxSsr hssr hrho hchi

/-- Otherwise all problems of its fields are found. -/
theorem readAs_eq_error_iff {found : List Problem} : readAs kind entries = .error found ↔
    found ≠ [] ∧ Reports kind entries (fields kind) found := by
  rw [reports_iff]
  cases kind with
  | constantPrice =>
    simp only [readAs, fields, List.map_cons, List.map_nil]
    cases tokenBPrice.read .constantPrice entries with
    | ok price => simp [problems]
    | error problem =>
      show Except.error [problem] = .error found ↔ found ≠ [] ∧ found = [problem]
      constructor
      · rintro ⟨⟩
        exact ⟨by simp, rfl⟩
      · rintro ⟨-, rfl⟩
        rfl
  | redemptionRate =>
    simp only [readAs, fields, List.map_cons, List.map_nil]
    split
    · rename_i hray hmaxSsr hssr hrho hchi
      simp [hray, hmaxSsr, hssr, hrho, hchi, problems]
    · rename_i hnot
      have hsome : problems [ray.read .redemptionRate entries, maxSsr.read .redemptionRate entries,
          ssr.read .redemptionRate entries, rho.read .redemptionRate entries,
          chi.read .redemptionRate entries] ≠ [] := by
        intro hnil
        simp only [problems_eq_nil_iff, List.mem_cons, List.not_mem_nil, or_false,
          forall_eq_or_imp, forall_eq] at hnil
        obtain ⟨⟨_, hray⟩, ⟨_, hmaxSsr⟩, ⟨_, hssr⟩, ⟨_, hrho⟩, ⟨_, hchi⟩⟩ := hnil
        exact hnot _ _ _ _ _ hray hmaxSsr hssr hrho hchi
      constructor
      · rintro ⟨⟩
        exact ⟨hsome, rfl⟩
      · rintro ⟨-, rfl⟩
        rfl

/-! ## All entries -/

/-- Entries tell a curve: they name its kind, and the fields of that kind hold its
numbers. -/
structure Tells (entries : List (String × Document)) (curve : Curve) : Prop where
  kind : NamesKind entries curve.kind
  numbers : List.Forall₂ (fun field number => field.Holds entries number) (fields curve.kind)
    (numbers curve)

/-- Entries are refused for these problems: a word for no kind, or else all that is
wrong with the fields of the kind that they name. -/
inductive Refused (entries : List (String × Document)) : List Problem → Prop where
  | kind (unknown : ∀ kind, ¬ NamesKind entries kind) :
    Refused entries [.unknownKind (kindWord entries)]
  | fields {kind : CurveKind} {found : List Problem} (named : NamesKind entries kind)
    (reports : Reports kind entries (fields kind) found) (some : found ≠ []) :
    Refused entries found

/-- The names that count: the two for the kind, and those of the fields of the kind
that is named. -/
inductive Counts (entries : List (String × Document)) : String → Prop where
  | kind : Counts entries "curve_type"
  | otherKind : Counts entries "curveType"
  | preferred {kind : CurveKind} {field : Field} (named : NamesKind entries kind)
    (mem : field ∈ fields kind) : Counts entries field.preferred
  | name {kind : CurveKind} {field : Field} (named : NamesKind entries kind)
    (mem : field ∈ fields kind) : Counts entries field.name

/-- All names that can count. -/
def names : List String :=
  ["curve_type", "curveType", "tokenBPrice", "token_b_price", "ray", "maxSsr", "max_ssr", "ssr",
    "rho", "chi"]

theorem Counts.mem_names {name : String} (h : Counts entries name) : name ∈ names := by
  have hfields : ∀ kind : CurveKind, ∀ field ∈ fields kind,
      field.preferred ∈ names ∧ field.name ∈ names := by
    intro kind
    cases kind <;> decide
  cases h with
  | kind => decide
  | otherKind => decide
  | preferred _ mem => exact (hfields _ _ mem).1
  | name _ mem => exact (hfields _ _ mem).2

theorem read_of_namesKind (h : NamesKind entries kind) : read entries = readAs kind entries := by
  simp only [read, kindWord_eq_word_iff.2 h, CurveKind.ofWord?_word]

theorem read_of_unknown (h : ∀ kind, ¬ NamesKind entries kind) :
    read entries = .error [.unknownKind (kindWord entries)] := by
  have hword : CurveKind.ofWord? (kindWord entries) = none :=
    Option.eq_none_iff_forall_ne_some.2 fun kind hkind =>
      h kind (kindWord_eq_word_iff.1 (ofWord?_eq_some_iff.1 hkind))
  simp only [read, hword]

theorem NamesKind.unique {other : CurveKind} (h : NamesKind entries kind)
    (hother : NamesKind entries other) : kind = other :=
  word_injective ((kindWord_eq_word_iff.2 h).symm.trans (kindWord_eq_word_iff.2 hother))

theorem read_eq_ok_iff {curve : Curve} : read entries = .ok curve ↔ Tells entries curve := by
  constructor
  · intro h
    by_cases hknown : ∃ kind, NamesKind entries kind
    · obtain ⟨kind, hkind⟩ := hknown
      rw [read_of_namesKind hkind, readAs_eq_ok_iff] at h
      obtain ⟨rfl, hnumbers⟩ := h
      exact ⟨hkind, hnumbers⟩
    · rw [read_of_unknown (not_exists.1 hknown)] at h
      cases h
  · rintro ⟨hkind, hnumbers⟩
    rw [read_of_namesKind hkind, readAs_eq_ok_iff]
    exact ⟨rfl, hnumbers⟩

theorem read_eq_error_iff {found : List Problem} :
    read entries = .error found ↔ Refused entries found := by
  constructor
  · intro h
    by_cases hknown : ∃ kind, NamesKind entries kind
    · obtain ⟨kind, hkind⟩ := hknown
      rw [read_of_namesKind hkind, readAs_eq_error_iff] at h
      exact .fields hkind h.2 h.1
    · rw [read_of_unknown (not_exists.1 hknown)] at h
      cases h
      exact .kind (not_exists.1 hknown)
  · rintro (unknown | ⟨named, reports, some⟩)
    · exact read_of_unknown unknown
    · rw [read_of_namesKind named, readAs_eq_error_iff]
      exact ⟨some, reports⟩

theorem value_parse_eq_ok_iff {curve : Curve} :
    (parse entries).value = .ok curve ↔ Tells entries curve := by
  rw [← read_eq_ok_iff]
  unfold parse
  cases read entries <;> simp

theorem value_parse_eq_error_iff {cause : CurveError} :
    (parse entries).value = .error cause
      ↔ ∃ found, cause = .badParameters found ∧ Refused entries found := by
  simp only [← read_eq_error_iff]
  unfold parse
  cases read entries <;> simp [eq_comm]

/-- Entries that agree under the names that count are told apart by nothing. -/
theorem parse_congr {others : List (String × Document)}
    (h : ∀ name, Counts entries name →
      Document.lookup? others name = Document.lookup? entries name) :
    parse others = parse entries := by
  have hword : kindWord others = kindWord entries := by
    simp only [kindWord, h _ .kind, h _ .otherKind]
  have hread : read others = read entries := by
    by_cases hknown : ∃ kind, NamesKind entries kind
    · obtain ⟨kind, hkind⟩ := hknown
      have hothers : NamesKind others kind := by
        rw [← kindWord_eq_word_iff, hword]
        exact kindWord_eq_word_iff.2 hkind
      have hfield : ∀ field ∈ fields kind, field.read kind others = field.read kind entries :=
        fun field hmem => Field.read_congr (h _ (.preferred hkind hmem)) (h _ (.name hkind hmem))
      rw [read_of_namesKind hothers, read_of_namesKind hkind]
      cases kind <;> simp only [fields, List.forall_mem_cons] at hfield <;>
        simp only [readAs, hfield]
    · have hothers : ∀ kind, ¬ NamesKind others kind := fun kind hkind =>
        hknown ⟨kind, kindWord_eq_word_iff.1 (hword ▸ kindWord_eq_word_iff.2 hkind)⟩
      rw [read_of_unknown hothers, read_of_unknown (not_exists.1 hknown), hword]
  simp only [parse, hread]

/-! ## Places -/

/-- Where a problem lies and of which kind it is. A value that is refused lies under
the name under which it stands, and a field without one under its preferred name. -/
inductive Placed (entries : List (String × Document)) (problem : Problem) : Prop where
  | kind (unknown : ∀ kind, ¬ NamesKind entries kind)
    (type : problem.type = "union_tag_invalid") (location : problem.location = [])
  | missing {kind : CurveKind} {field : Field} (named : NamesKind entries kind)
    (mem : field ∈ fields kind) (absent : field.Absent entries)
    (type : problem.type = "missing") (location : problem.location = [kind.word, field.preferred])
  | rejected {kind : CurveKind} {field : Field} {name : String} {value : Document}
    (named : NamesKind entries kind) (mem : field ∈ fields kind)
    (stands : field.Stands entries name value)
    (type : problem.type = "value_error") (location : problem.location = [kind.word, name])

theorem Reports.exists_fails {all : List Field} {found : List Problem} {problem : Problem}
    (h : Reports kind entries all found) (hmem : problem ∈ found) :
    ∃ field ∈ all, field.Fails kind entries problem := by
  induction h with
  | done => cases hmem
  | sound _ _ ih =>
    obtain ⟨field, hfield, hfails⟩ := ih hmem
    exact ⟨field, List.mem_cons_of_mem _ hfield, hfails⟩
  | @wrong field _ _ _ fails _ ih =>
    cases hmem with
    | head => exact ⟨field, List.mem_cons_self, fails⟩
    | tail _ hrest =>
      obtain ⟨field, hfield, hfails⟩ := ih hrest
      exact ⟨field, List.mem_cons_of_mem _ hfield, hfails⟩

theorem Refused.placed {found : List Problem} {problem : Problem} (h : Refused entries found)
    (hmem : problem ∈ found) : Placed entries problem := by
  obtain unknown | ⟨named, reports, -⟩ := h
  · rw [List.mem_singleton.1 hmem]
    exact .kind unknown rfl rfl
  · obtain ⟨field, hfield, ⟨absent, -⟩ | ⟨stands, -⟩⟩ := reports.exists_fails hmem
    · exact .missing named hfield absent rfl rfl
    · exact .rejected named hfield stands rfl rfl

/-- An object is read exactly if it tells a curve. Otherwise its problems are reported,
each where it lies, and nothing but the names that count has any influence. -/
theorem parse_outcome (entries : List (String × Document)) :
    (∀ curve, (parse entries).value = .ok curve ↔ Tells entries curve) ∧
      (∀ cause, (parse entries).value = .error cause
        ↔ ∃ found, cause = .badParameters found ∧ Refused entries found) ∧
      (∀ found, Refused entries found → (CurveError.badParameters found).failure = .invalidCurveData
        ∧ ∀ problem ∈ found, Placed entries problem) ∧
      ∀ others, (∀ name, Counts entries name →
          Document.lookup? others name = Document.lookup? entries name) →
        parse others = parse entries :=
  ⟨fun _ => value_parse_eq_ok_iff, fun _ => value_parse_eq_error_iff,
    fun _ refused => ⟨rfl, fun _ => refused.placed⟩, fun _ => parse_congr⟩

/-- Parameters with a truth value for a bound, no factor and a negative index. -/
def faulty : List (String × Document) :=
  [("curve_type", .text "redemption_rate"), ("max_ssr", .bool true), ("rho", .integer 0),
    ("chi", .integer (-1))]

theorem parse_outcome_of_faulty :
    (parse faulty).value = .error (.badParameters [.badNumber .redemptionRate "max_ssr" .bool,
        .missing .redemptionRate "ssr", .badNumber .redemptionRate "chi" (.negative (-1))]) ∧
      parse (faulty ++ [("ssr_note", .null)]) = parse faulty := by
  obtain ⟨-, herror, -, hothers⟩ := parse_outcome faulty
  have hkind : NamesKind faulty .redemptionRate := .inl rfl
  refine ⟨(herror _).2 ⟨_, rfl, .fields hkind ?_ (by simp)⟩, hothers _ fun name counts => ?_⟩
  · refine .sound (.default ⟨rfl, rfl⟩ rfl) ?_
    refine .wrong (.rejected (.named rfl rfl) rfl) ?_
    refine .wrong (.missing ⟨rfl, rfl⟩ rfl) ?_
    refine .sound (.given (.preferred rfl) rfl) ?_
    exact .wrong (.rejected (.preferred rfl) rfl) .done
  · have hname : name ≠ "ssr_note" := by
      rintro rfl
      exact absurd counts.mem_names (by decide)
    simp only [faulty, List.cons_append, List.nil_append, Document.lookup?_cons, hname, if_false]

/-- A value that is refused need not lie under the preferred name of a field. -/
theorem refused_elsewhere_than_preferred :
    ¬ ∀ entries found kind problem, (parse entries).value = .error (.badParameters found) →
      NamesKind entries kind → problem ∈ found →
      ∃ field ∈ fields kind, problem.location = [kind.word, field.preferred] := by
  intro h
  obtain ⟨field, hfield, hlocation⟩ := h faulty
    [.badNumber .redemptionRate "max_ssr" .bool, .missing .redemptionRate "ssr",
      .badNumber .redemptionRate "chi" (.negative (-1))]
    .redemptionRate (.badNumber .redemptionRate "max_ssr" .bool) (by decide +kernel) (.inl rfl)
    List.mem_cons_self
  revert field
  decide

end Parameters

end PegPool
