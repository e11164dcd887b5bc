import Mathlib.Data.Finset.Card
import SearchTemplate.Yaml.Value

/-!
# Texts without an end

A mapping with a `=` key stands for the text under it, which may be that of a mapping again, and
through an alias that of the mapping itself. `Document.textOf` gives up on the text of a node after
as many nodes as the document has. The text has no end then (`Document.endless_of_leads`), as one
that ends leads over different nodes of the document (`Document.lt_length_of_stops`).
-/

namespace SearchTemplate.Yaml

/-! ## Nodes inside of nodes -/

namespace Node

theorem mem_nodes_self (n : Node) : n ∈ n.nodes := by
  cases n <;> simp [nodes]

mutual

theorem mem_nodes_trans {n k : Node} (hk : k ∈ n.nodes) :
    ∀ {m : Node}, n ∈ m.nodes → k ∈ m.nodes
  | .scalar .., h => by
    obtain rfl := List.mem_singleton.mp h
    exact hk
  | .alias _, h => by
    obtain rfl := List.mem_singleton.mp h
    exact hk
  | .sequence _ items, h => by
    rcases List.mem_cons.mp h with rfl | h
    · exact hk
    · exact List.mem_cons_of_mem _ (mem_nodesOfItems_trans hk h)
  | .mapping _ entries, h => by
    rcases List.mem_cons.mp h with rfl | h
    · exact hk
    · exact List.mem_cons_of_mem _ (mem_nodesOfEntries_trans hk h)

theorem mem_nodesOfItems_trans {n k : Node} (hk : k ∈ n.nodes) :
    ∀ {items : List Node}, n ∈ nodesOfItems items → k ∈ nodesOfItems items
  | item :: items, h => by
    simp only [nodesOfItems, List.mem_append] at h ⊢
    exact h.imp (mem_nodes_trans hk) (mem_nodesOfItems_trans hk)

theorem mem_nodesOfEntries_trans {n k : Node} (hk : k ∈ n.nodes) :
    ∀ {entries : List (Node × Node)}, n ∈ nodesOfEntries entries → k ∈ nodesOfEntries entries
  | (key, value) :: entries, h => by
    simp only [nodesOfEntries, List.mem_append] at h ⊢
    exact h.imp (mem_nodes_trans hk) (Or.imp (mem_nodes_trans hk) (mem_nodesOfEntries_trans hk))

end

theorem mem_nodesOfItems {n : Node} {items : List Node} (h : n ∈ items) :
    n ∈ nodesOfItems items := by
  induction h with
  | head items => exact List.mem_append_left _ (mem_nodes_self n)
  | tail _ _ ih => exact List.mem_append_right _ ih

theorem mem_nodesOfEntries {e : Node × Node} {entries : List (Node × Node)} (h : e ∈ entries) :
    e.1 ∈ nodesOfEntries entries ∧ e.2 ∈ nodesOfEntries entries := by
  induction h with
  | head entries => simp [nodesOfEntries, mem_nodes_self]
  | tail f _ ih => simp [nodesOfEntries, ih]

end Node

namespace Document

variable {d : Document} {root n m : Node}

/-! ## Nodes of a document -/

/-- A node is inside of the root or of what an alias there stands for. -/
inductive Reaches (d : Document) (root : Node) : Node → Prop
  | root : Reaches d root root
  | item {tag : Tag} {items : List Node} {n : Node} :
      Reaches d root (.sequence tag items) → n ∈ items → Reaches d root n
  | key {tag : Tag} {entries : List (Node × Node)} {e : Node × Node} :
      Reaches d root (.mapping tag entries) → e ∈ entries → Reaches d root e.1
  | value {tag : Tag} {entries : List (Node × Node)} {e : Node × Node} :
      Reaches d root (.mapping tag entries) → e ∈ entries → Reaches d root e.2
  | target {name : Text} {n : Node} :
      Reaches d root (.alias name) → d.anchored.lookup name = some n → Reaches d root n
  /-- An alias far inside of others stands for a collection without its content. -/
  | hollow {n : Node} : Reaches d root n → Reaches d root n.hollow

theorem reaches_target (h : d.Reaches root n) (hm : d.target n = some m) : d.Reaches root m := by
  rcases n with _ | _ | _ | name
  · exact Option.some.inj hm ▸ h
  · exact Option.some.inj hm ▸ h
  · exact Option.some.inj hm ▸ h
  · exact .target h hm

theorem mem_nodes_trans (hn : n ∈ d.nodes) (hm : m ∈ n.nodes) : m ∈ d.nodes := by
  rw [nodes, List.mem_append, List.mem_flatMap] at hn ⊢
  refine hn.imp (Node.mem_nodes_trans hm) ?_
  rintro ⟨a, ha, hn⟩
  exact ⟨a, ha, Node.mem_nodes_trans hm hn⟩

theorem item_mem_nodes {tag : Tag} {items : List Node} (h : .sequence tag items ∈ d.nodes)
    (hn : n ∈ items) : n ∈ d.nodes :=
  mem_nodes_trans h (List.mem_cons_of_mem _ (Node.mem_nodesOfItems hn))

theorem entry_mem_nodes {tag : Tag} {entries : List (Node × Node)} {e : Node × Node}
    (h : .mapping tag entries ∈ d.nodes) (he : e ∈ entries) : e.1 ∈ d.nodes ∧ e.2 ∈ d.nodes :=
  have hinside := Node.mem_nodesOfEntries he
  ⟨mem_nodes_trans h (List.mem_cons_of_mem _ hinside.1),
    mem_nodes_trans h (List.mem_cons_of_mem _ hinside.2)⟩

theorem lookup_mem_nodes {name : Text} (h : d.anchored.lookup name = some n) : n ∈ d.nodes := by
  obtain ⟨front, back, hanchored, -⟩ := List.lookup_eq_some_iff.mp h
  have ha : (name, n) ∈ d.anchored := hanchored ▸ List.mem_append_right front List.mem_cons_self
  exact List.mem_append_right _ (List.mem_flatMap.mpr ⟨_, ha, n.mem_nodes_self⟩)

theorem target_mem_nodes (h : n ∈ d.nodes) (hm : d.target n = some m) : m ∈ d.nodes := by
  rcases n with _ | _ | _ | name
  · exact Option.some.inj hm ▸ h
  · exact Option.some.inj hm ▸ h
  · exact Option.some.inj hm ▸ h
  · exact lookup_mem_nodes hm

theorem root_mem_nodes (d : Document) : d.root ∈ d.nodes :=
  List.mem_append_left _ d.root.mem_nodes_self

/-! ## Texts of mappings -/

theorem standsFor?_eq_some (h : d.standsFor? n = some m) :
    ∃ tag entries e, d.target n = some (.mapping tag entries) ∧ e ∈ entries ∧ e.2 = m := by
  rw [standsFor?] at h
  split at h
  · rename_i tag entries htarget
    obtain ⟨e, he, hm⟩ := Option.map_eq_some_iff.mp h
    exact ⟨tag, entries, e, htarget, List.mem_of_find?_eq_some he, hm⟩
  · cases h

theorem standsFor?_mem_nodes (hn : n ∈ d.nodes) (h : d.standsFor? n = some m) : m ∈ d.nodes := by
  obtain ⟨tag, entries, e, htarget, he, rfl⟩ := standsFor?_eq_some h
  exact (entry_mem_nodes (target_mem_nodes hn htarget) he).2

/-- The text of a node is that of another one, and so on over `k` nodes. -/
def Leads (d : Document) : Nat → Node → Prop
  | 0, _ => True
  | k + 1, n => ∃ m, d.standsFor? n = some m ∧ Leads d k m

/-- The text of a node is that of another one, and so on without an end. -/
def Endless (d : Document) (n : Node) : Prop := ∀ k, d.Leads k n

/-- The node after `k` others is the last. -/
def Stops (d : Document) (k : Nat) (n : Node) : Prop := d.Leads k n ∧ ¬d.Leads (k + 1) n

theorem leads_of_le {j k : Nat} (hle : j ≤ k) (h : d.Leads k n) : d.Leads j n := by
  induction j generalizing k n with
  | zero => trivial
  | succ j ih =>
    obtain ⟨k, rfl⟩ := Nat.exists_eq_add_of_le' hle
    obtain ⟨m, hm, h⟩ := h
    exact ⟨m, hm, ih (Nat.le_add_left j k) h⟩

theorem Stops.eq {j k : Nat} (hj : d.Stops j n) (hk : d.Stops k n) : j = k := by
  rcases Nat.lt_trichotomy j k with hlt | heq | hgt
  · exact absurd (leads_of_le hlt hk.1) hj.2
  · exact heq
  · exact absurd (leads_of_le hgt hj.1) hk.2

/-- A node that stops late is followed by one that stops earlier. -/
theorem Stops.exists_le {j k : Nat} (h : d.Stops k n) (hn : n ∈ d.nodes) (hle : j ≤ k) :
    ∃ m ∈ d.nodes, d.Stops j m := by
  induction k generalizing n with
  | zero => exact ⟨n, hn, Nat.le_zero.mp hle ▸ h⟩
  | succ k ih =>
    rcases Nat.le_succ_iff.mp hle with hle | rfl
    · obtain ⟨⟨m, hm, hleads⟩, hlast⟩ := h
      exact ih ⟨hleads, fun hnext => hlast ⟨m, hm, hnext⟩⟩ (standsFor?_mem_nodes hn hm) hle
    · exact ⟨n, hn, h⟩

theorem lt_length_of_stops {k : Nat} (hn : n ∈ d.nodes) (h : d.Stops k n) : k < d.nodes.length := by
  classical
  have hnodes (j : Nat) (hj : j ≤ k) := h.exists_le hn hj
  choose! f hmem hstops using hnodes
  have hmaps : ∀ j ∈ Finset.range (k + 1), f j ∈ d.nodes.toFinset := fun j hj =>
    List.mem_toFinset.mpr (hmem j (Nat.lt_succ_iff.mp (Finset.mem_range.mp hj)))
  have hinj : Set.InjOn f (Finset.range (k + 1)) := fun i hi j hj heq =>
    have hi := hstops i (Nat.lt_succ_iff.mp (Finset.mem_range.mp hi))
    (heq ▸ hi).eq (hstops j (Nat.lt_succ_iff.mp (Finset.mem_range.mp hj)))
  calc k + 1 = (Finset.range (k + 1)).card := (Finset.card_range _).symm
    _ ≤ d.nodes.toFinset.card := Finset.card_le_card_of_injOn f hmaps hinj
    _ ≤ d.nodes.length := List.toFinset_card_le _

/-- What leads on over as many nodes as there are leads on without an end. -/
theorem endless_of_leads (hn : n ∈ d.nodes) (h : d.Leads d.nodes.length n) : d.Endless n := by
  intro k
  induction k with
  | zero => trivial
  | succ k ih =>
    rcases Nat.lt_or_ge k d.nodes.length with hlt | hge
    · exact leads_of_le hlt h
    · by_contra hlast
      exact Nat.not_lt.mpr hge (lt_length_of_stops hn ⟨ih, hlast⟩)

theorem scalarText_eq_endless_iff {fuel : Nat} :
    d.scalarText fuel n = .error .endlessText ↔ d.Leads fuel n := by
  induction fuel generalizing n with
  | zero => exact iff_of_true rfl trivial
  | succ fuel ih =>
    rw [scalarText, Leads]
    split
    · rename_i m hm
      simp [hm, ih]
    · rename_i hnone
      rw [hnone]
      split <;> simp

/-- The text of a node without an end is given up. -/
theorem textOf_eq_endless_iff (hn : n ∈ d.nodes) :
    d.textOf n = .error .endlessText ↔ d.Endless n := by
  rw [textOf, scalarText_eq_endless_iff]
  exact ⟨endless_of_leads hn, fun h => h _⟩

/-- A mapping whose text is that of the mapping itself. -/
example : let n := Node.mapping .str [(.scalar .value [], .alias [])]
    (Document.mk n [([], n)]).textOf n = .error .endlessText := rfl

/-! ## Nodes under the root -/

/-- A collection with nothing in it. -/
def IsHollow : Node → Prop
  | .sequence _ items => items = []
  | .mapping _ entries => entries = []
  | _ => False

theorem hollow_eq_or (n : Node) : n.hollow = n ∨ IsHollow n.hollow := by
  unfold Node.hollow
  split
  · exact .inr rfl
  · exact .inr rfl
  · exact .inr rfl
  · exact .inl rfl

/-- All that is under a node of the document is a node of it, or has lost its content. -/
theorem mem_nodes_of_reaches (hroot : root ∈ d.nodes) (h : d.Reaches root n) :
    n ∈ d.nodes ∨ IsHollow n := by
  induction h with
  | root => exact .inl hroot
  | item _ hn ih =>
    rcases ih with ih | rfl
    · exact .inl (item_mem_nodes ih hn)
    · cases hn
  | key _ he ih =>
    rcases ih with ih | rfl
    · exact .inl (entry_mem_nodes ih he).1
    · cases he
  | value _ he ih =>
    rcases ih with ih | rfl
    · exact .inl (entry_mem_nodes ih he).2
    · cases he
  | target _ hlookup _ => exact .inl (lookup_mem_nodes hlookup)
  | @hollow n _ ih =>
    rcases hollow_eq_or n with heq | hhollow
    · exact heq.symm ▸ ih
    · exact .inr hhollow

theorem IsHollow.standsFor?_eq_none (h : IsHollow n) : d.standsFor? n = none := by
  unfold IsHollow at h
  split at h
  · rfl
  · rw [h]
    rfl
  · cases h

/-- The text of a node under the root is given up only if it has no end. -/
theorem endless_of_textOf (hroot : root ∈ d.nodes) (hn : d.Reaches root n)
    (h : d.textOf n = .error .endlessText) : d.Endless n := by
  rcases mem_nodes_of_reaches hroot hn with hn | hhollow
  · exact (textOf_eq_endless_iff hn).mp h
  · have hpos : 1 ≤ d.nodes.length := List.length_pos_of_mem hroot
    obtain ⟨m, hm, -⟩ := leads_of_le hpos (scalarText_eq_endless_iff.mp h)
    rw [hhollow.standsFor?_eq_none] at hm
    cases hm

end Document

end SearchTemplate.Yaml
