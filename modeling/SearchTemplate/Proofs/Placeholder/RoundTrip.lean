import SearchTemplate.Placeholder.Writer
import SearchTemplate.Proofs.Placeholder.Decomposition
import SearchTemplate.Proofs.Placeholder.Options

/-!
# Writing options and reading them back

`Options.Arranged o ds`: the row `ds` is made of the directives for `o` in any order that leaves the
words to keep, and those to put in upper case, in theirs. Such a row sets exactly these options
(`Options.Arranged.ofRow_eq`), and every directive in it has at most two digits, so that it can be
written. A placeholder with the row written in it is found, accepted and read back from a URL that
ends with it (`Placeholder.read_back`).
-/

namespace SearchTemplate

namespace Directive

variable {d : Directive} {t : Text}

/-- The number in the directive, if there is one, has at most two digits. -/
def Short : Directive → Prop
  | query n | word (some n) | upper (some n) => n < 100
  | word none | upper none | capitalize | reverse | stripCommas => True

theorem body_of_short (h : d.Short) : Body d.body d := by
  cases d with
  | query n => exact body_query_ofNat h
  | word n =>
    cases n with
    | none => exact .word
    | some n =>
      have hbody := Body.wordAt (shortNumber_ofNat h)
      rwa [Text.number_ofNat] at hbody
  | upper n =>
    cases n with
    | none => exact .upper
    | some n =>
      have hbody := Body.upperAt (shortNumber_ofNat h)
      rwa [Text.number_ofNat] at hbody
  | capitalize => exact .capitalize
  | reverse => exact .reverse
  | stripCommas => exact .stripCommas

theorem written_writeAll {ds : List Directive} (h : ∀ d ∈ ds, d.Short) :
    Written (writeAll ds) (ds.map body) ds where
  text_eq := by
    rw [writeAll, List.flatMap_map]
    rfl
  bodies := by
    rw [List.forall₂_map_left_iff, List.forall₂_same]
    exact fun d hd => body_of_short (h d hd)

theorem Body.backslash_not_mem (h : Body t d) : Placeholder.backslash ∉ t := by
  cases h with
  | query hn => exact hn.not_mem (by decide)
  | wordAt hn | upperAt hn =>
    exact List.not_mem_cons_of_ne_of_not_mem (by decide) (hn.not_mem (by decide))
  | word | upper | capitalize | reverse | stripCommas => decide

theorem backslash_not_mem_writeAll {ds : List Directive} (h : ∀ d ∈ ds, d.Short) :
    Placeholder.backslash ∉ writeAll ds := by
  intro hmem
  obtain ⟨d, hd, hwrite⟩ := List.mem_flatMap.mp hmem
  rcases List.mem_append.mp hwrite with hmark | hbody
  · exact absurd hmark (by decide)
  · exact (body_of_short (h d hd)).backslash_not_mem hbody

def isWord : Directive → Bool
  | word _ => true
  | _ => false

def isUpper : Directive → Bool
  | upper _ => true
  | _ => false

theorem filterMap_word?_filter (ds : List Directive) :
    (ds.filter isWord).filterMap word? = ds.filterMap word? := by
  rw [List.filterMap_filter]
  refine List.filterMap_congr fun d _ => ?_
  cases d <;> rfl

theorem filterMap_upper?_filter (ds : List Directive) :
    (ds.filter isUpper).filterMap upper? = ds.filterMap upper? := by
  rw [List.filterMap_filter]
  refine List.filterMap_congr fun d _ => ?_
  cases d <;> rfl

end Directive

namespace Options

variable {limit : Nat} {o : Options} {ds : List Directive}

/-- Options that directives can set where at most `limit` queries can be named. -/
structure Writable (limit : Nat) (o : Options) : Prop where
  query : ∀ n ∈ o.queryPosition, 1 ≤ n ∧ n ≤ limit
  word : ∀ i ∈ o.wordPositions, -1 ≤ i ∧ i ≤ 98
  upper : ∀ indexes, o.uppercase = .positions indexes → ∀ i ∈ indexes, -1 ≤ i ∧ i ≤ 98

/-- The directives for the options in an order that leaves the words to keep in theirs, and the
words to put in upper case. -/
structure Arranged (o : Options) (ds : List Directive) : Prop where
  perm : ds.Perm o.directives
  word : ds.filter Directive.isWord = o.directives.filter Directive.isWord
  upper : ds.filter Directive.isUpper = o.directives.filter Directive.isUpper

theorem mem_directives {d : Directive} : d ∈ o.directives ↔
    (∃ n ∈ o.queryPosition, d = .query n.toNat) ∨
    (∃ i ∈ o.wordPositions, d = .word (some (i + 1).toNat)) ∨
    d ∈ o.uppercase.directives ∨ (o.capitalize = true ∧ d = .capitalize) ∨
    (o.reverse = true ∧ d = .reverse) ∨ (o.stripCommas = true ∧ d = .stripCommas) := by
  simp only [directives, List.mem_append, Option.mem_toList, Option.map_eq_some_iff, List.mem_map,
    List.mem_ite_nil_right, List.mem_singleton, Option.mem_def, or_assoc, eq_comm (a := d)]

/-! ## What a row sets -/

theorem filterMap_flag {g : Directive → Option Int} {d : Directive} (h : g d = none) (set : Bool) :
    (if set then [d] else []).filterMap g = [] := by
  cases set with
  | false => rfl
  | true => exact List.filterMap_cons_none h

theorem filterMap_directives {g : Directive → Option Int} (hcapitalize : g .capitalize = none)
    (hreverse : g .reverse = none) (hcommas : g .stripCommas = none) :
    o.directives.filterMap g = (o.queryPosition.bind fun n => g (.query n.toNat)).toList ++
      o.wordPositions.filterMap (fun i => g (.word (some (i + 1).toNat))) ++
      o.uppercase.directives.filterMap g := by
  have hquery : (o.queryPosition.map fun n => Directive.query n.toNat).toList.filterMap g =
      (o.queryPosition.bind fun n => g (.query n.toNat)).toList := by
    cases o.queryPosition with
    | none => rfl
    | some n => cases hn : g (.query n.toNat) <;> simp [hn]
  simp only [directives, List.filterMap_append, hquery, filterMap_flag hcapitalize,
    filterMap_flag hreverse, filterMap_flag hcommas, List.filterMap_map, List.append_nil]
  rfl

theorem filterMap_eq_nil_of_upper {g : Directive → Option Int} (hg : ∀ n, g (.upper n) = none)
    (u : Uppercase) : u.directives.filterMap g = [] := by
  rw [List.filterMap_eq_nil_iff]
  intro d hd
  cases u with
  | allWords => exact List.mem_singleton.mp hd ▸ hg none
  | positions indexes =>
    obtain ⟨i, -, rfl⟩ := List.mem_map.mp hd
    exact hg _

theorem filterMap_query?_directives (h : o.Writable limit) :
    o.directives.filterMap Directive.query? = o.queryPosition.toList := by
  have hquery : (o.queryPosition.bind fun n => Directive.query? (.query n.toNat)) =
      o.queryPosition := by
    cases hn : o.queryPosition with
    | none => rfl
    | some n =>
      have hpos := (h.query n hn).1
      exact congrArg some (Int.toNat_of_nonneg (by omega))
  rw [filterMap_directives rfl rfl rfl, hquery, filterMap_eq_nil_of_upper fun _ => rfl]
  simp [Directive.query?]

/-- A word number less one is the position again. -/
theorem filterMap_position {indexes : List Int} (h : ∀ i ∈ indexes, -1 ≤ i ∧ i ≤ 98) :
    indexes.filterMap (fun i => some (((i + 1).toNat : Int) - 1)) = indexes := by
  have hsame : ∀ i ∈ indexes, some (((i + 1).toNat : Int) - 1) = some i := by
    intro i hi
    have hlow := (h i hi).1
    congr 1
    omega
  rw [List.filterMap_congr hsame, List.filterMap_some]

theorem filterMap_word?_directives (h : o.Writable limit) :
    o.directives.filterMap Directive.word? = o.wordPositions := by
  rw [filterMap_directives rfl rfl rfl, filterMap_eq_nil_of_upper fun _ => rfl, List.append_nil]
  simp only [Directive.word?, Option.bind_fun_none, Option.toList_none, List.nil_append]
  exact filterMap_position h.word

theorem uppercase_ofRow_directives (h : o.Writable limit) :
    Uppercase.ofRow o.directives = o.uppercase := by
  cases hu : o.uppercase with
  | allWords =>
    refine if_pos (mem_directives.mpr ?_)
    simp [hu, Uppercase.directives]
  | positions indexes =>
    have hall : Directive.upper none ∉ o.directives := by
      simp [mem_directives, hu, Uppercase.directives]
    rw [Uppercase.ofRow, if_neg hall, filterMap_directives rfl rfl rfl, hu,
      Uppercase.directives, List.filterMap_map]
    simp only [Directive.upper?, Option.bind_fun_none, Option.toList_none, List.nil_append,
      List.filterMap_none, Function.comp_def]
    rw [filterMap_position (h.upper indexes hu)]

theorem ofRow_directives (h : o.Writable limit) : ofRow o.directives = o := by
  have hflag : ∀ d : Directive, ∀ set : Bool, (d ∈ o.directives ↔ set = true) →
      decide (d ∈ o.directives) = set := fun d set hd => by
    rw [Bool.eq_iff_iff, decide_eq_true_iff, hd]
  have hcapitalize := hflag .capitalize o.capitalize
    (by cases hu : o.uppercase <;> simp [mem_directives, hu, Uppercase.directives])
  have hreverse := hflag .reverse o.reverse
    (by cases hu : o.uppercase <;> simp [mem_directives, hu, Uppercase.directives])
  have hcommas := hflag .stripCommas o.stripCommas
    (by cases hu : o.uppercase <;> simp [mem_directives, hu, Uppercase.directives])
  have hlast : o.queryPosition.toList.getLast? = o.queryPosition := by
    cases o.queryPosition <;> rfl
  rw [ofRow, filterMap_query?_directives h, filterMap_word?_directives h,
    uppercase_ofRow_directives h, hcapitalize, hreverse, hcommas, hlast]

/-- Nothing but the order of the words matters, as one query at most is named. -/
theorem Arranged.ofRow_eq (hds : o.Arranged ds) (h : o.Writable limit) : ofRow ds = o := by
  have hquery : ds.filterMap Directive.query? = o.directives.filterMap Directive.query? := by
    have hperm := hds.perm.filterMap Directive.query?
    rw [filterMap_query?_directives h] at hperm ⊢
    cases hn : o.queryPosition <;> simpa [hn] using hperm
  have hword : ds.filterMap Directive.word? = o.directives.filterMap Directive.word? := by
    rw [← Directive.filterMap_word?_filter, hds.word, Directive.filterMap_word?_filter]
  have hupper : ds.filterMap Directive.upper? = o.directives.filterMap Directive.upper? := by
    rw [← Directive.filterMap_upper?_filter, hds.upper, Directive.filterMap_upper?_filter]
  calc ofRow ds = ofRow o.directives := by
        simp only [ofRow, Uppercase.ofRow, hquery, hword, hupper, hds.perm.mem_iff]
    _ = o := ofRow_directives h

/-! ## What a row is made of -/

theorem short_of_mem (hlimit : limit ≤ 99) (h : o.Writable limit) :
    ∀ d ∈ o.directives, d.Short := by
  intro d hd
  rcases mem_directives.mp hd with ⟨n, hn, rfl⟩ | ⟨i, hi, rfl⟩ | hu | ⟨-, rfl⟩ | ⟨-, rfl⟩ | ⟨-, rfl⟩
  · have hrange := h.query n hn
    simp only [Directive.Short]
    omega
  · have hrange := h.word i hi
    simp only [Directive.Short]
    omega
  · cases hupper : o.uppercase with
    | allWords =>
      rw [hupper] at hu
      exact List.mem_singleton.mp hu ▸ trivial
    | positions indexes =>
      rw [hupper] at hu
      obtain ⟨i, hi, rfl⟩ := List.mem_map.mp hu
      have hrange := h.upper indexes hupper i hi
      simp only [Directive.Short]
      omega
  all_goals trivial

theorem not_bad_of_mem (h : o.Writable limit) {d : Directive} (hd : d ∈ o.directives)
    (f : Placeholder.Fault) : ¬ d.Bad limit f := by
  intro hbad
  cases hbad with
  | @query n hn =>
    have hquery : (n : Int) ∈ o.directives.filterMap Directive.query? :=
      List.mem_filterMap.mpr ⟨_, hd, rfl⟩
    rw [filterMap_query?_directives h, Option.mem_toList] at hquery
    have hrange := h.query _ hquery
    omega
  | word => cases hu : o.uppercase <;> simp [mem_directives, hu, Uppercase.directives] at hd

end Options

namespace Placeholder

variable {c : Config} {o : Options} {ds : List Directive} {before d : Text}

/-- The rules allow placeholders with this delimiter. -/
def AllowsDelimiter (c : Config) (d : Text) : Prop :=
  ∃ p : Placeholder, p.delimiter = d ∧ p.check c = .ok ()

/-- The first placeholder of a URL, with a row of directives for its options. -/
def ofRow (before : Text) (ds : List Directive) (d : Text) : Placeholder :=
  let body : Body := ⟨Directive.writeAll ds, d⟩
  ⟨before, body.options, body.delimiter, 1, body.write⟩

theorem check_eq_ok_iff {p : Placeholder} : p.check c = .ok () ↔ p.fault? c = none := by
  unfold check
  split
  · rename_i f hf
    simp [hf]
  · rename_i hnone
    simp [hnone]

/-- The first placeholder of a URL is accepted for its delimiter if text precedes it. -/
theorem check_ofRow (hd : AllowsDelimiter c d) (hbefore : before ≠ []) :
    (ofRow before ds d).check c = .ok () := by
  obtain ⟨p, rfl, hp⟩ := hd
  obtain ⟨-, hne, hlen, hspace, -⟩ := fault?_none_iff.mp (check_eq_ok_iff.mp hp)
  have hone : ¬ (c.maxPlaceholders : Int) < 1 := by
    have hmax := c.one_le_maxPlaceholders
    omega
  exact check_eq_ok_iff.mpr (fault?_none_iff.mpr ⟨fun h => hbefore h.2, hne, hlen, hspace, hone⟩)

theorem readOptions_ofRow (ho : o.Writable c.maxPlaceholders) (hds : o.Arranged ds) :
    (ofRow before ds d).readOptions c = .ok o := by
  have hshort : ∀ e ∈ ds, e.Short := fun e he =>
    Options.short_of_mem c.maxPlaceholders_le ho e (hds.perm.mem_iff.mp he)
  refine (readOptions_eq_ok_iff (Directive.written_writeAll hshort)).mpr ⟨fun e he f => ?_, ?_⟩
  · exact Options.not_bad_of_mem ho (hds.perm.mem_iff.mp he) f
  · exact (hds.ofRow_eq ho).symm

theorem not_occurs_nil : ¬ Occurs [] := by
  rintro ⟨u, v, huv, x, y, z, rfl⟩
  exact absurd (List.append_eq_nil_iff.mp huv.symm).2 (List.cons_ne_nil _ _)

theorem ofUrl_ofRow (hrow : backslash ∉ Directive.writeAll ds) (hd : closing ∉ d)
    (hbefore : ¬ opening <:+: before) :
    Scan.ofUrl (before ++ (Body.mk (Directive.writeAll ds) d).write) =
      ⟨[ofRow before ds d], []⟩ := by
  have hscan : Scan.Grammatical ⟨[ofRow before ds d], []⟩ := by
    refine ⟨?_, ?_, not_occurs_nil⟩
    · rw [List.forall_mem_singleton]
      exact ⟨rfl, hrow, hd, hbefore⟩
    · intro i p hp
      obtain ⟨hi, rfl⟩ := List.getElem?_eq_some_iff.mp hp
      obtain rfl : i = 0 := by simpa using hi
      rfl
  have hurl := Scan.ofUrl_toUrl hscan
  simpa [Scan.toUrl, ofRow] using hurl

/-- **Options are read back as they are written.** Write options as a row of directives, in any
order that keeps that of the words, into a placeholder at the end of a URL, with text before it and
a delimiter that is allowed: the placeholder found in the URL is the only one, it has that text and
that delimiter, it is accepted, and its options are read as the ones that were written. -/
theorem read_back (ho : o.Writable c.maxPlaceholders) (hds : o.Arranged ds) (hd : closing ∉ d)
    (hallowed : AllowsDelimiter c d) (hne : before ≠ []) (hbefore : ¬ opening <:+: before) :
    ∃ p, Scan.ofUrl (before ++ (Body.mk (Directive.writeAll ds) d).write) = ⟨[p], []⟩ ∧
      p.before = before ∧ p.delimiter = d ∧ p.check c = .ok () ∧ p.readOptions c = .ok o := by
  have hshort : ∀ e ∈ ds, e.Short := fun e he =>
    Options.short_of_mem c.maxPlaceholders_le ho e (hds.perm.mem_iff.mp he)
  have hscan := ofUrl_ofRow (Directive.backslash_not_mem_writeAll hshort) hd hbefore
  exact ⟨ofRow before ds d, hscan, rfl, rfl, check_ofRow hallowed hne, readOptions_ofRow ho hds⟩

/-- Options with a directive of every kind, in which words repeat and the last one is meant. -/
def variedOptions : Options where
  queryPosition := some 8
  wordPositions := [98, -1, 98]
  uppercase := .positions [0, 9, 0]
  capitalize := true
  reverse := true
  stripCommas := true

def variedRow : List Directive :=
  [.stripCommas, .upper (some 1), .word (some 99), .upper (some 10), .query 8, .word (some 0),
    .word (some 99), .reverse, .upper (some 1), .capitalize]

/-- Part of an opening stands before the placeholder, and a backslash in its delimiter. -/
theorem read_back_varied :
    variedOptions.Writable Config.standard.maxPlaceholders ∧ variedOptions.Arranged variedRow ∧
      AllowsDelimiter .standard (.ofString " \\\x7b") ∧
      ∃ p, Scan.ofUrl (.ofString
          "\n\x7bsearc\x7bsearch!M!U1!W99!U10!8!W0!W99!R!U1!C\\ \\\x7b\x7d") = ⟨[p], []⟩ ∧
        p.before = .ofString "\n\x7bsearc" ∧ p.delimiter = .ofString " \\\x7b" ∧
        p.check .standard = .ok () ∧ p.readOptions .standard = .ok variedOptions := by
  have hwritable : variedOptions.Writable Config.standard.maxPlaceholders :=
    ⟨by decide, by decide, fun indexes h => by cases h; decide⟩
  have harranged : variedOptions.Arranged variedRow := ⟨by decide, by decide, by decide⟩
  have hallowed : AllowsDelimiter .standard (.ofString " \\\x7b") :=
    ⟨ofRow (.ofString "a") [] (.ofString " \\\x7b"), rfl, by decide⟩
  have hurl : Text.ofString "\n\x7bsearc" ++
      (Body.mk (Directive.writeAll variedRow) (.ofString " \\\x7b")).write =
        .ofString "\n\x7bsearc\x7bsearch!M!U1!W99!U10!8!W0!W99!R!U1!C\\ \\\x7b\x7d" := by decide
  have hbefore : ¬ opening <:+: Text.ofString "\n\x7bsearc" := by decide +kernel
  have hback := read_back hwritable harranged (by decide) hallowed (by decide) hbefore
  rw [hurl] at hback
  exact ⟨hwritable, harranged, hallowed, hback⟩

end Placeholder

end SearchTemplate
