import Mathlib.Data.List.Forall2
import SearchTemplate.Placeholder.Options
import SearchTemplate.Proofs.Text.Split

/-!
# The grammar of options

`Directive.Body` is the grammar of what follows a mark, and `Directive.Row` that of a whole option
string, both without the reader. The reader accepts exactly this grammar
(`Directive.readAll?_eq_some_iff`), and an option string is made of directives in one way only
(`Directive.Written.unique`).

A directive is bad where it names no query or no word (`Directive.Bad`); reading stops at the first
bad one (`Options.ofDirectives_eq_error_iff`) and otherwise takes all in order.
-/

namespace SearchTemplate

namespace Text

theorem isDigit_of_mem_ofNat {n : Nat} {s : Symbol} (h : s ∈ ofNat n) : s.isDigit = true := by
  obtain ⟨c, hc, rfl⟩ := List.mem_map.mp h
  have hdigit : c.isDigit = true := Nat.isDigit_of_mem_toDigits (by decide) (by decide) hc
  rw [Symbol.isDigit, Symbol.digit?, if_pos hdigit]
  rfl

theorem ofNat_ne_nil (n : Nat) : ofNat n ≠ [] :=
  fun h => Nat.toDigits_ne_nil (List.map_eq_nil_iff.mp h)

theorem foldl_digits {cs : List Char} (h : ∀ c ∈ cs, c.isDigit = true) (n : Nat) :
    (cs.map Symbol.char).foldl (fun n s => n * 10 + s.digit?.getD 0) n
      = Nat.ofDigitChars 10 cs n := by
  induction cs generalizing n with
  | nil => rfl
  | cons c cs ih =>
    obtain ⟨hc, hcs⟩ := List.forall_mem_cons.mp h
    rw [List.map_cons, List.foldl_cons, ih hcs, Symbol.digit?, if_pos hc, Nat.mul_comm]
    rfl

/-- Digits write the number that they were made from. -/
theorem number_ofNat (n : Nat) : (ofNat n).number = n := by
  have hdigits : ∀ c ∈ Nat.toDigits 10 n, c.isDigit = true := fun _ hc =>
    Nat.isDigit_of_mem_toDigits (by decide) (by decide) hc
  rw [number, ofNat, foldl_digits hdigits, Nat.ofDigitChars_ten_toDigits]

end Text

namespace Directive

/-- One or two ASCII digits. -/
structure ShortNumber (t : Text) : Prop where
  ne_nil : t ≠ []
  length_le : t.length ≤ 2
  isDigit : ∀ s ∈ t, s.isDigit = true

/-- The written form of a directive after its mark. -/
inductive Body : Text → Directive → Prop where
  | query {t : Text} : ShortNumber t → Body t (.query t.number)
  | word : Body [.char 'W'] (.word none)
  | wordAt {t : Text} : ShortNumber t → Body (.char 'W' :: t) (.word (some t.number))
  | upper : Body [.char 'U'] (.upper none)
  | upperAt {t : Text} : ShortNumber t → Body (.char 'U' :: t) (.upper (some t.number))
  | capitalize : Body [.char 'C'] .capitalize
  | reverse : Body [.char 'R'] .reverse
  | stripCommas : Body [.char 'M'] .stripCommas

/-- An option string: marks, each with the body of a directive. -/
inductive Row : Text → List Directive → Prop where
  | nil : Row [] []
  | cons {body rest : Text} {d : Directive} {ds : List Directive} :
      Body body d → Row rest ds → Row (mark ++ body ++ rest) (d :: ds)

/-! ## Numbers -/

theorem digit?_of_isDigit {s : Symbol} (h : s.isDigit = true) :
    s.digit? = some (s.digit?.getD 0) := by
  obtain ⟨n, hn⟩ := Option.isSome_iff_exists.mp h
  rw [hn]
  rfl

theorem number?_eq_some_iff {t : Text} {n : Nat} :
    number? t = some n ↔ ShortNumber t ∧ n = t.number := by
  refine ⟨?_, ?_⟩
  · intro h
    match t, h with
    | [x], h =>
      have hx : x.isDigit = true := Option.isSome_iff_exists.mpr ⟨n, h⟩
      refine ⟨⟨by simp, by simp, by simpa using hx⟩, ?_⟩
      have h' : x.digit? = some n := h
      simp [Text.number, h']
    | [x, y], h =>
      obtain ⟨a, ha, h⟩ := Option.bind_eq_some_iff.mp h
      obtain ⟨b, hb, h⟩ := Option.bind_eq_some_iff.mp h
      cases h
      have hx : x.isDigit = true := Option.isSome_iff_exists.mpr ⟨a, ha⟩
      have hy : y.isDigit = true := Option.isSome_iff_exists.mpr ⟨b, hb⟩
      exact ⟨⟨by simp, by simp, by simp [hx, hy]⟩, by simp [Text.number, ha, hb]⟩
  · rintro ⟨⟨hne, hlen, hdigit⟩, rfl⟩
    match t, hne, hlen with
    | [x], _, _ =>
      have hx := digit?_of_isDigit (hdigit x (by simp))
      rw [number?, hx]
      simp [Text.number]
    | [x, y], _, _ =>
      have hx := digit?_of_isDigit (hdigit x (by simp))
      have hy := digit?_of_isDigit (hdigit y (by simp))
      rw [number?, hx, hy]
      simp [Text.number]

theorem ShortNumber.not_mem {t : Text} (h : ShortNumber t) {s : Symbol} (hs : s.isDigit = false) :
    s ∉ t := fun hm => by
  rw [h.isDigit s hm] at hs
  cases hs

theorem shortNumber_ofNat {n : Nat} (h : n < 100) : ShortNumber (.ofNat n) where
  ne_nil := Text.ofNat_ne_nil n
  length_le := by
    rw [Text.ofNat, List.length_map]
    exact (Nat.length_toDigits_le_iff (by decide) (by decide)).mpr h
  isDigit _ hs := Text.isDigit_of_mem_ofNat hs

theorem optionalNumber?_eq_some_iff {t : Text} {n : Option Nat} :
    optionalNumber? t = some n ↔ (t = [] ∧ n = none) ∨ (ShortNumber t ∧ n = some t.number) := by
  cases t with
  | nil =>
    have hnot : ¬ ShortNumber [] := fun h => h.ne_nil rfl
    simp [optionalNumber?, hnot, eq_comm]
  | cons x rest =>
    simp only [optionalNumber?, Option.map_eq_some_iff, number?_eq_some_iff, reduceCtorEq,
      false_and, false_or]
    refine ⟨?_, ?_⟩
    · rintro ⟨m, ⟨hm, rfl⟩, rfl⟩
      exact ⟨hm, rfl⟩
    · rintro ⟨hm, rfl⟩
      exact ⟨_, ⟨hm, rfl⟩, rfl⟩

/-! ## Directives -/

theorem ofBody?_eq_some_iff {t : Text} {d : Directive} : ofBody? t = some d ↔ Body t d := by
  refine ⟨?_, ?_⟩
  · intro h
    unfold ofBody? at h
    split at h
    · obtain ⟨n, hn, rfl⟩ := Option.map_eq_some_iff.mp h
      rcases optionalNumber?_eq_some_iff.mp hn with ⟨rfl, rfl⟩ | ⟨hshort, rfl⟩
      · exact .word
      · exact .wordAt hshort
    · obtain ⟨n, hn, rfl⟩ := Option.map_eq_some_iff.mp h
      rcases optionalNumber?_eq_some_iff.mp hn with ⟨rfl, rfl⟩ | ⟨hshort, rfl⟩
      · exact .upper
      · exact .upperAt hshort
    · cases h
      exact .capitalize
    · cases h
      exact .reverse
    · cases h
      exact .stripCommas
    · obtain ⟨n, hn, rfl⟩ := Option.map_eq_some_iff.mp h
      obtain ⟨hshort, rfl⟩ := number?_eq_some_iff.mp hn
      exact .query hshort
  · intro h
    cases h with
    | query hn =>
      unfold ofBody?
      split
      · exact absurd List.mem_cons_self (hn.not_mem (by decide))
      · exact absurd List.mem_cons_self (hn.not_mem (by decide))
      · exact absurd List.mem_cons_self (hn.not_mem (by decide))
      · exact absurd List.mem_cons_self (hn.not_mem (by decide))
      · exact absurd List.mem_cons_self (hn.not_mem (by decide))
      · rw [number?_eq_some_iff.mpr ⟨hn, rfl⟩]
        rfl
    | wordAt hn =>
      rw [ofBody?, optionalNumber?_eq_some_iff.mpr (.inr ⟨hn, rfl⟩)]
      rfl
    | upperAt hn =>
      rw [ofBody?, optionalNumber?_eq_some_iff.mpr (.inr ⟨hn, rfl⟩)]
      rfl
    | word | upper | capitalize | reverse | stripCommas => rfl

theorem Body.mark_not_mem {t : Text} {d : Directive} (h : Body t d) : .char '!' ∉ t := by
  cases h with
  | query hn => exact hn.not_mem (by decide)
  | wordAt hn | upperAt hn =>
    exact List.not_mem_cons_of_ne_of_not_mem (by decide) (hn.not_mem (by decide))
  | word | upper | capitalize | reverse | stripCommas => decide

theorem body_query_ofNat {n : Nat} (h : n < 100) : Body (.ofNat n) (.query n) := by
  have hbody := Body.query (shortNumber_ofNat h)
  rwa [Text.number_ofNat] at hbody

/-! ## Option strings -/

/-- An option string as the list of its bodies, each with the directive that it writes. -/
structure Written (t : Text) (bodies : List Text) (ds : List Directive) : Prop where
  text_eq : t = bodies.flatMap (mark ++ ·)
  bodies : List.Forall₂ Body bodies ds

theorem row_iff_written {t : Text} {ds : List Directive} :
    Row t ds ↔ ∃ bodies, Written t bodies ds := by
  constructor
  · intro h
    induction h with
    | nil => exact ⟨[], rfl, .nil⟩
    | @cons body rest d ds hbody _ ih =>
      obtain ⟨bodies, rfl, hbodies⟩ := ih
      exact ⟨body :: bodies, by simp, .cons hbody hbodies⟩
  · rintro ⟨bodies, rfl, hbodies⟩
    induction hbodies with
    | nil => exact .nil
    | cons hbody _ ih => exact .cons hbody ih

theorem mapM_ofBody?_eq_some_iff {bodies : List Text} {ds : List Directive} :
    bodies.mapM ofBody? = some ds ↔ List.Forall₂ Body bodies ds := by
  induction bodies generalizing ds with
  | nil => simp [eq_comm]
  | cons body bodies ih =>
    simp only [List.mapM_cons, Option.bind_eq_bind, Option.bind_eq_some_iff, Option.pure_def,
      Option.some.injEq, ofBody?_eq_some_iff, ih, List.forall₂_cons_left_iff]
    grind

/-- No body holds a mark, so that splitting at the marks gives the bodies. -/
theorem Written.splitOn {t : Text} {bodies : List Text} {ds : List Directive}
    (h : Written t bodies ds) : t.splitOn mark = [] :: bodies := by
  have hfree : ∀ body ∈ bodies, .char '!' ∉ body :=
    ((List.forall₂_and_left _ _).mp (h.bodies.imp fun _ _ hd => ⟨hd.mark_not_mem, hd⟩)).1
  exact Text.splitOn_singleton_eq_iff.mpr
    ⟨h.text_eq, List.forall_mem_cons.mpr ⟨List.not_mem_nil, hfree⟩⟩

theorem Written.unique {t : Text} {bodies bodies' : List Text} {ds ds' : List Directive}
    (h : Written t bodies ds) (h' : Written t bodies' ds') : bodies = bodies' ∧ ds = ds' := by
  obtain ⟨-, rfl⟩ := List.cons.inj (h.splitOn.symm.trans h'.splitOn)
  have hread := mapM_ofBody?_eq_some_iff.mpr h.bodies
  rw [mapM_ofBody?_eq_some_iff.mpr h'.bodies] at hread
  exact ⟨rfl, (Option.some.inj hread).symm⟩

theorem readAll?_eq_some_iff {t : Text} {ds : List Directive} :
    readAll? t = some ds ↔ Row t ds := by
  rw [row_iff_written]
  constructor
  · intro h
    rw [readAll?] at h
    split at h
    · rename_i bodies hsplit
      obtain ⟨htext, -⟩ := Text.splitOn_singleton_eq_iff.mp hsplit
      exact ⟨bodies, htext, mapM_ofBody?_eq_some_iff.mp h⟩
    · cases h
  · rintro ⟨bodies, h⟩
    rw [readAll?, h.splitOn]
    exact mapM_ofBody?_eq_some_iff.mpr h.bodies

theorem Row.unique {t : Text} {ds es : List Directive} (h : Row t ds) (h' : Row t es) :
    ds = es := by
  rw [← readAll?_eq_some_iff] at h h'
  exact Option.some.inj (h.symm.trans h')

/-! ## Bad directives -/

/-- A directive that names no query among the first `limit`, or no word. -/
inductive Bad (limit : Nat) : Directive → Placeholder.Fault → Prop where
  | query {position : Nat} : ¬ (1 ≤ position ∧ position ≤ limit) →
      Bad limit (.query position) (.queryOutOfRange position limit)
  | word : Bad limit (.word none) .missingWordPosition

/-- The first bad directive of a row is reported as `f`. -/
def FirstBad (limit : Nat) (ds : List Directive) (f : Placeholder.Fault) : Prop :=
  ∃ before d after, ds = before ++ d :: after ∧ d.Bad limit f ∧ ∀ e ∈ before, ∀ g, ¬ e.Bad limit g

theorem fault?_eq_some_iff {limit : Nat} {d : Directive} {f : Placeholder.Fault} :
    d.fault? limit = some f ↔ d.Bad limit f := by
  refine ⟨?_, ?_⟩
  · intro h
    unfold fault? at h
    split at h
    · split at h
      · cases h
      · rename_i hpos
        cases h
        exact .query hpos
    · cases h
      exact .word
    · cases h
  · intro h
    cases h with
    | query hpos => exact if_neg hpos
    | word => rfl

theorem fault?_eq_none_iff {limit : Nat} {d : Directive} :
    d.fault? limit = none ↔ ∀ f, ¬ d.Bad limit f := by
  simp only [← fault?_eq_some_iff, Option.eq_none_iff_forall_ne_some]

end Directive

namespace Options

theorem ofDirectives_eq_error_iff {limit : Nat} {o : Options} {ds : List Directive}
    {f : Placeholder.Fault} :
    ofDirectives limit o ds = .error f ↔ Directive.FirstBad limit ds f := by
  unfold Directive.FirstBad
  induction ds generalizing o with
  | nil => simp [ofDirectives]
  | cons d ds ih =>
    rw [ofDirectives]
    split
    · rename_i g hg
      rw [Directive.fault?_eq_some_iff] at hg
      refine ⟨?_, ?_⟩
      · intro h
        cases h
        exact ⟨[], d, ds, rfl, hg, by simp⟩
      · rintro ⟨_ | ⟨e, before⟩, d', after, heq, hbad, hgood⟩
        · cases heq
          rw [← Directive.fault?_eq_some_iff] at hg hbad
          exact congrArg _ (Option.some.inj (hg.symm.trans hbad))
        · cases heq
          exact absurd hg (hgood d List.mem_cons_self g)
    · rename_i hnone
      rw [ih]
      refine ⟨?_, ?_⟩
      · rintro ⟨before, d', after, rfl, hbad, hgood⟩
        exact ⟨d :: before, d', after, rfl, hbad,
          List.forall_mem_cons.mpr ⟨Directive.fault?_eq_none_iff.mp hnone, hgood⟩⟩
      · rintro ⟨_ | ⟨e, before⟩, d', after, heq, hbad, hgood⟩
        · cases heq
          exact absurd hbad (Directive.fault?_eq_none_iff.mp hnone f)
        · cases heq
          exact ⟨before, d', after, rfl, hbad, (List.forall_mem_cons.mp hgood).2⟩

theorem ofDirectives_eq_ok_iff {limit : Nat} {o o' : Options} {ds : List Directive} :
    ofDirectives limit o ds = .ok o' ↔
      (∀ d ∈ ds, ∀ f, ¬ d.Bad limit f) ∧ ds.foldl apply o = o' := by
  induction ds generalizing o with
  | nil => simp [ofDirectives]
  | cons d ds ih =>
    rw [ofDirectives, List.forall_mem_cons]
    split
    · rename_i f hf
      rw [Directive.fault?_eq_some_iff] at hf
      simp only [reduceCtorEq, false_iff]
      exact fun h => h.1.1 f hf
    · rename_i hnone
      rw [ih, List.foldl_cons]
      exact ⟨fun h => ⟨⟨Directive.fault?_eq_none_iff.mp hnone, h.1⟩, h.2⟩,
        fun h => ⟨h.1.2, h.2⟩⟩

end Options

end SearchTemplate
