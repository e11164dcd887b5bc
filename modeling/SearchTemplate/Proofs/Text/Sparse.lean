import SearchTemplate.Proofs.Text.Capitalize
import SearchTemplate.Proofs.Text.Join

/-!
# Symbols that stand alone

`Text.Sparse x t`: no two `x` stand side by side in `t`. A visible symbol that is no letter stays
sparse, or not, when blanks are taken off an end, when runs change their order
(`Text.sparse_reverseRuns`) and when symbols are put in upper case (`Text.Recased.sparse_iff`).
Erasing a text is different: it brings together what stood on its two sides
(`Text.sparse_erase_iff`).
-/

namespace SearchTemplate

theorem isChain_iff_forall_pair {α : Type} {R : α → α → Prop} {l : List α} :
    l.IsChain R ↔ ∀ a b, [a, b] <:+: l → R a b := by
  refine ⟨fun h a b hab => ?_, fun h => (List.isChain_isInfix l).imp fun a b hab => h a b hab⟩
  have hpair : [a, b].IsChain R := List.IsChain.infix h hab
  exact List.isChain_pair.mp hpair

namespace Text

variable {x s : Symbol} {d t u v : Text}

/-- No two `x` stand side by side. -/
def Sparse (x : Symbol) (t : Text) : Prop := ¬ [x, x] <:+: t

theorem sparse_iff_isChain : Sparse x t ↔ t.IsChain fun a b => ¬ (a = x ∧ b = x) := by
  rw [isChain_iff_forall_pair]
  constructor
  · rintro h a b hab ⟨rfl, rfl⟩
    exact h hab
  · exact fun h hxx => h x x hxx ⟨rfl, rfl⟩

theorem sparse_nil : Sparse x [] := sparse_iff_isChain.mpr List.isChain_nil

theorem sparse_cons : Sparse x (s :: t) ↔ ¬ (s = x ∧ t.head? = some x) ∧ Sparse x t := by
  rw [sparse_iff_isChain, sparse_iff_isChain, List.isChain_cons]
  refine and_congr_left fun _ => ⟨?_, ?_⟩
  · rintro h ⟨rfl, hhead⟩
    exact h s hhead ⟨rfl, rfl⟩
  · rintro h y hy ⟨rfl, rfl⟩
    exact h ⟨rfl, hy⟩

theorem sparse_append : Sparse x (u ++ v) ↔
    Sparse x u ∧ Sparse x v ∧ ¬ (u.getLast? = some x ∧ v.head? = some x) := by
  simp only [sparse_iff_isChain, List.isChain_append]
  refine and_congr_right fun _ => and_congr_right fun _ => ⟨?_, ?_⟩
  · rintro h ⟨hlast, hhead⟩
    exact h x hlast x hhead ⟨rfl, rfl⟩
  · rintro h y hy z hz ⟨rfl, rfl⟩
    exact h ⟨hy, hz⟩

theorem sparse_of_not_mem (h : x ∉ t) : Sparse x t :=
  fun hxx => h (hxx.subset List.mem_cons_self)

theorem sparse_append_of_not_mem_left (hu : x ∉ u) : Sparse x (u ++ v) ↔ Sparse x v := by
  rw [sparse_append]
  exact ⟨fun h => h.2.1,
    fun h => ⟨sparse_of_not_mem hu, h, fun hjoint => hu (List.mem_of_getLast? hjoint.1)⟩⟩

/-! ## Blanks at the ends, and runs -/

theorem not_mem_of_isBlank (hx : x.isBlank = false) (ht : t.isBlank = true) : x ∉ t := fun h =>
  Bool.false_ne_true (hx.symm.trans (List.all_eq_true.mp ht x h))

theorem sparse_trimStart (hx : x.isBlank = false) (t : Text) :
    Sparse x t.trimStart ↔ Sparse x t := by
  obtain ⟨lead, hlead, ht⟩ := exists_trimStart_eq t
  conv_rhs => rw [ht]
  exact (sparse_append_of_not_mem_left (not_mem_of_isBlank hx hlead)).symm

theorem sparse_reverse (t : Text) : Sparse x t.reverse ↔ Sparse x t := by
  rw [Sparse, Sparse, ← List.reverse_infix]
  simp

theorem sparse_trimEnd (hx : x.isBlank = false) (t : Text) : Sparse x t.trimEnd ↔ Sparse x t := by
  rw [trimEnd_eq, sparse_reverse, sparse_trimStart hx, sparse_reverse]

/-- Two `x` side by side stand in one run. -/
theorem sparse_flatten {rs : List Text} (h : Alternate rs) :
    Sparse x rs.flatten ↔ ∀ r ∈ rs, Sparse x r := by
  induction rs with
  | nil => exact ⟨fun _ _ hr => absurd hr List.not_mem_nil, fun _ => sparse_nil⟩
  | cons r rs ih =>
    have hjoint : ¬ (r.getLast? = some x ∧ rs.flatten.head? = some x) := fun hx =>
      h.kinds_differ x hx.1 x hx.2 rfl
    rw [List.flatten_cons, sparse_append, ih h.tail, List.forall_mem_cons,
      and_iff_left hjoint]

theorem sparse_reverseRuns (t : Text) : Sparse x t.reverseRuns ↔ Sparse x t := by
  have hruns := alternate_runs t
  conv_rhs => rw [← flatten_runs t, sparse_flatten hruns]
  rw [reverseRuns, sparse_flatten hruns.reverse]
  simp only [List.mem_reverse]

/-! ## Upper case -/

/-- The second text is the first one with some of its symbols in upper case. -/
inductive Recased : Text → Text → Prop where
  | nil : Recased [] []
  | keep (s : Symbol) {t u : Text} : Recased t u → Recased (s :: t) (s :: u)
  | raise (s : Symbol) {t u : Text} : Recased t u → Recased (s :: t) (s.uppercase ++ u)

theorem Recased.refl (t : Text) : Recased t t := by
  induction t with
  | nil => exact .nil
  | cons s t ih => exact .keep s ih

theorem Recased.append {t' u' : Text} (h : Recased t u) (h' : Recased t' u') :
    Recased (t ++ t') (u ++ u') := by
  induction h with
  | nil => exact h'
  | keep s _ ih => exact .keep s ih
  | raise s _ ih =>
    rw [List.append_assoc]
    exact .raise s ih

theorem recased_uppercase (t : Text) : Recased t t.uppercase := by
  induction t with
  | nil => exact .nil
  | cons s t ih => exact .raise s ih

theorem recased_capitalizeAfter (b : Bool) (t : Text) : Recased t (capitalizeAfter b t) := by
  induction t generalizing b with
  | nil => exact .nil
  | cons s t ih =>
    rw [capitalizeAfter]
    split
    · exact .raise s (ih _)
    · exact .keep s (ih _)

theorem recased_flatten {ts us : List Text} (h : List.Forall₂ Recased ts us) :
    Recased ts.flatten us.flatten := by
  induction h with
  | nil => exact .nil
  | cons h _ ih => exact h.append ih

/-- Upper case leaves the symbol as it is, and makes it from no other one. -/
structure Caseless (x : Symbol) : Prop where
  uppercase_eq : x.uppercase = [x]
  eq_of_mem : ∀ s : Symbol, x ∈ s.uppercase → s = x

theorem Caseless.head?_uppercase (hx : Caseless x) (s : Symbol) (t : Text) :
    (s.uppercase ++ t).head? = some x ↔ s = x := by
  rw [List.head?_append_of_ne_nil _ s.uppercase_ne_nil]
  constructor
  · exact fun h => hx.eq_of_mem s (List.mem_of_mem_head? h)
  · rintro rfl
    rw [hx.uppercase_eq]
    rfl

theorem Recased.head?_iff (hx : Caseless x) (h : Recased t u) :
    u.head? = some x ↔ t.head? = some x := by
  cases h with
  | nil => exact Iff.rfl
  | keep s _ => exact Iff.rfl
  | raise s _ => rw [hx.head?_uppercase, List.head?_cons, Option.some.injEq]

theorem Recased.sparse_iff (hx : Caseless x) (h : Recased t u) : Sparse x u ↔ Sparse x t := by
  induction h with
  | nil => exact Iff.rfl
  | keep s h ih => rw [sparse_cons, sparse_cons, ih, h.head?_iff hx]
  | raise s h ih =>
    by_cases hs : s = x
    · rw [hs, hx.uppercase_eq, List.singleton_append, sparse_cons, sparse_cons, ih,
        h.head?_iff hx]
    · have hmem : x ∉ s.uppercase := fun hmem => hs (hx.eq_of_mem s hmem)
      rw [sparse_append_of_not_mem_left hmem, ih, sparse_cons,
        and_iff_right fun hjoint => hs hjoint.1]

/-! ## Erasing -/

theorem erase_append (hd : d ≠ []) (t : Text) : (d ++ t).erase d = t.erase d := by
  rw [erase, splitOn_append hd, List.flatten_cons, List.nil_append, erase]

theorem erase_cons (hd : d ≠ []) (h : ¬ d <+: s :: t) : erase (s :: t) d = s :: t.erase d := by
  obtain ⟨w, ws, hws⟩ := List.exists_cons_of_ne_nil (splitOn_ne_nil t d)
  rw [erase, splitOn_cons hd h, erase, hws]
  rfl

theorem erase_induction (hd : d ≠ []) {P : Text → Prop} (nil : P [])
    (span : ∀ t, P t → P (d ++ t)) (symbol : ∀ s t, ¬ d <+: s :: t → P t → P (s :: t)) :
    ∀ t, P t :=
  Sections.scan_induction (P := fun t _ => P t) (Pattern.literal_recognizes hd) nil
    (fun s t hmiss ih => symbol s t ((Pattern.literal_misses_iff hd).mp hmiss) ih)
    (fun _ t _ ih => span t ih)

/-- Occurrences of `d` one after the other, and an `x`. -/
def spansBefore (d : Text) (k : Nat) (x : Symbol) : Text := (List.replicate k d).flatten ++ [x]

theorem isPrefix_spansBefore_succ (d : Text) (k : Nat) (x : Symbol) :
    d <+: spansBefore d (k + 1) x := by
  rw [spansBefore, List.replicate_succ, List.flatten_cons, List.append_assoc]
  exact List.prefix_append _ _

section

variable (hd : d ≠ []) (hx : x ∉ d)

include hd hx

theorem exists_spansBefore_isPrefix_append (t : Text) :
    (∃ k, spansBefore d k x <+: d ++ t) ↔ ∃ k, spansBefore d k x <+: t := by
  have hcancel (k : Nat) : spansBefore d (k + 1) x <+: d ++ t ↔ spansBefore d k x <+: t := by
    rw [spansBefore, List.replicate_succ, List.flatten_cons, List.append_assoc,
      List.prefix_append_right_inj, spansBefore]
  constructor
  · rintro ⟨k, hk⟩
    cases k with
    | zero =>
      obtain ⟨s, d, rfl⟩ := List.exists_cons_of_ne_nil hd
      rw [List.cons_append] at hk
      obtain rfl := (List.cons_prefix_cons.mp hk).1
      exact absurd List.mem_cons_self hx
    | succ k => exact ⟨k, (hcancel k).mp hk⟩
  · rintro ⟨k, hk⟩
    exact ⟨k + 1, (hcancel k).mpr hk⟩

theorem head?_erase_iff (t : Text) :
    (t.erase d).head? = some x ↔ ∃ k, spansBefore d k x <+: t := by
  induction t using erase_induction hd with
  | nil =>
    refine ⟨nofun, fun ⟨k, hk⟩ => ?_⟩
    exact absurd (List.prefix_nil.mp hk)
      (List.append_ne_nil_of_right_ne_nil _ (List.cons_ne_nil _ _))
  | span t ih => rw [erase_append hd, ih, exists_spansBefore_isPrefix_append hd hx]
  | symbol s t hmiss _ =>
    rw [erase_cons hd hmiss, List.head?_cons, Option.some.injEq]
    constructor
    · rintro rfl
      exact ⟨0, ⟨t, rfl⟩⟩
    · rintro ⟨k, hk⟩
      cases k with
      | zero => exact (List.cons_prefix_cons.mp hk).1.symm
      | succ k => exact absurd ((isPrefix_spansBefore_succ d k x).trans hk) hmiss

/-- **What erasing brings together.** Two `x` stand side by side in the result where they stand
with nothing but occurrences of the erased text between them. -/
theorem sparse_erase_iff (t : Text) :
    Sparse x (t.erase d) ↔ ∀ k, ¬ x :: spansBefore d k x <:+: t := by
  induction t using erase_induction hd with
  | nil => exact iff_of_true sparse_nil fun k hk => List.cons_ne_nil _ _ (List.infix_nil.mp hk)
  | span t ih =>
    rw [erase_append hd, ih]
    refine forall_congr' fun k => not_congr ⟨fun h => ?_, infix_of_infix_append hx⟩
    exact h.trans (List.suffix_append _ _).isInfix
  | symbol s t hmiss ih =>
    rw [erase_cons hd hmiss, sparse_cons, ih, head?_erase_iff hd hx]
    constructor
    · rintro ⟨hhead, hrest⟩ k hk
      rcases List.infix_cons_iff.mp hk with hp | hi
      · obtain ⟨rfl, hafter⟩ := List.cons_prefix_cons.mp hp
        exact hhead ⟨rfl, k, hafter⟩
      · exact hrest k hi
    · refine fun h => ⟨?_, fun k hk => h k (List.infix_cons hk)⟩
      rintro ⟨rfl, k, hk⟩
      exact h k (List.cons_prefix_cons.mpr ⟨rfl, hk⟩).isInfix

end

end Text

end SearchTemplate
