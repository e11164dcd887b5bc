import SearchTemplate.Proofs.Yaml.Endless
import SearchTemplate.Proofs.Yaml.Lexer
import SearchTemplate.Proofs.Yaml.Parser

/-!
# The faults of values

A document that follows the grammar still has no value if a scalar in it has none under its tag, or
if a mapping in it stands for a text without an end. These are the only ways
(`Document.builds_build`): besides `Fault.malformed` and `Fault.endlessText`, the faults of a
document are those of scalars that its root leads to, and only numbers, truth values and timestamps
have such faults (`hasForm_of_scalarValue`). With the faults of the lexer these are all that reading
a text can end in (`Yaml.hasFault_of_read`).
-/

namespace SearchTemplate.Yaml

variable {α β : Type}

/-! ## Scalars -/

/-- The tags under which a text may have the form of a value and be none. -/
def Tag.HasForm (tag : Tag) : Prop := tag = .bool ∨ tag = .int ∨ tag = .float ∨ tag = .timestamp

theorem hasForm_of_scalarValue {text : Text} {tag : Tag} {fault : Fault}
    (h : scalarValue text tag = .error fault) (hf : fault ≠ .malformed) : tag.HasForm := by
  cases tag with
  | bool => exact .inl rfl
  | int => exact .inr (.inl rfl)
  | float => exact .inr (.inr (.inl rfl))
  | timestamp => exact .inr (.inr (.inr rfl))
  | null => cases h
  | str => cases h
  | binary =>
    rw [scalarValue, binaryValue] at h
    split at h
    · cases h
    · cases h
      exact absurd rfl hf
  | _ =>
    cases h
    exact absurd rfl hf

namespace Document

variable {d : Document} {root n : Node} {fault : Fault}

/-! ## Faults of a document -/

/-- A node with a tag that stands for a text, as scalars do and mappings with a `=` key. -/
def Writes (d : Document) (n : Node) (tag : Tag) (text : Text) : Prop :=
  d.hasTag tag n ∧ ∃ fuel, d.scalarText fuel n = .ok text

/-- A node under the root stands for a text that has the fault under the tag of the node. -/
def ScalarFault (d : Document) (root : Node) (fault : Fault) : Prop :=
  ∃ n tag text, d.Reaches root n ∧ d.Writes n tag text ∧ tag.HasForm ∧
    scalarValue text tag = .error fault

/-- A node under the root stands for a text without an end. -/
def EndlessFault (d : Document) (root : Node) (fault : Fault) : Prop :=
  fault = .endlessText ∧ ∃ n, d.Reaches root n ∧ d.Endless n

/-- What can be wrong with a document: its structure, a scalar, or a text without an end. -/
def Faulty (d : Document) (root : Node) (fault : Fault) : Prop :=
  fault = .malformed ∨ d.ScalarFault root fault ∨ d.EndlessFault root fault

theorem faulty_of_scalarValue {tag : Tag} {text : Text} (hn : d.Reaches root n)
    (hw : d.Writes n tag text) (h : scalarValue text tag = .error fault) : d.Faulty root fault := by
  by_cases hf : fault = .malformed
  · exact .inl hf
  · exact .inr (.inl ⟨n, tag, text, hn, hw, hasForm_of_scalarValue h hf, h⟩)

/-! ## Texts and merging -/

theorem scalarText_fault (fuel : Nat) (n : Node) :
    Ends (fun fault => fault = .malformed ∨ fault = .endlessText) (fun _ => True)
      (d.scalarText fuel n) := by
  induction fuel generalizing n with
  | zero => exact .inr rfl
  | succ fuel ih =>
    rw [scalarText]
    split
    · exact ih _
    · split
      · trivial
      · exact .inl rfl

theorem textOf_fault (hroot : root ∈ d.nodes) (hn : d.Reaches root n) :
    Ends (d.Faulty root) (fun _ => True) (d.textOf n) := by
  have hfault : Ends _ _ (d.textOf n) := d.scalarText_fault d.nodes.length n
  cases htext : d.textOf n with
  | ok text => trivial
  | error fault =>
    rw [htext] at hfault
    rcases hfault with rfl | rfl
    · exact .inl rfl
    · exact .inr (.inr ⟨rfl, n, hn, endless_of_textOf hroot hn htext⟩)

/-- Key and value of an entry are under the root. -/
def ReachesEntry (d : Document) (root : Node) (e : Node × Node) : Prop :=
  d.Reaches root e.1 ∧ d.Reaches root e.2

theorem mergedEntries_fault (fuel : Nat) (inside : List Text) {entries : List (Node × Node)}
    (h : ∀ e ∈ entries, d.ReachesEntry root e) :
    Ends (· = .malformed) (fun es => ∀ e ∈ es, d.ReachesEntry root e)
      (d.mergedEntries fuel inside entries) := by
  induction fuel generalizing inside entries with
  | zero => exact rfl
  | succ fuel ih =>
    have hmapping (inside : List Text) {n : Node} {tag : Tag} {es : List (Node × Node)}
        (hn : d.Reaches root n) (htarget : d.target n = some (.mapping tag es)) :
        Ends (· = .malformed) (fun es => ∀ e ∈ es, d.ReachesEntry root e)
          (d.mergedEntries fuel inside es) :=
      ih inside fun e he =>
        ⟨(reaches_target hn htarget).key he, (reaches_target hn htarget).value he⟩
    rw [mergedEntries]
    refine .bind (.mapM (Q := fun es => ∀ e ∈ es, d.ReachesEntry root e) fun e he => ?_)
      fun merged hmerged => .pure fun e he => ?_
    · have hvalue := (h e (List.mem_of_mem_filter he)).2
      dsimp only
      split
      · rename_i htarget
        have hreached := reaches_target hvalue htarget
        refine .bind (.mapM (Q := fun es => ∀ e ∈ es, d.ReachesEntry root e)
          fun item hitem => ?_) fun parts hparts => .pure fun e he => ?_
        · split
          · rename_i hitemTarget
            exact .ite (List.forall_mem_nil _) (hmapping _ (hreached.item hitem) hitemTarget)
          · exact rfl
        · obtain ⟨part, hpart, he⟩ := List.mem_flatten.mp he
          exact hparts part (List.mem_reverse.mp hpart) e he
      · split
        · rename_i htarget
          exact .ite (List.forall_mem_nil _) (hmapping _ hvalue htarget)
        · exact rfl
    · rcases List.mem_append.mp he with he | he
      · obtain ⟨es, hes, he⟩ := List.mem_flatten.mp he
        exact hmerged es hes e he
      · exact h e (List.mem_of_mem_filter he)

end Document

namespace Built

variable {F : Nat × Fault → Prop} {P : α → Prop} {Q : β → Prop}

theorem ends_both {x : Built α} {y : Built β} (hx : Ends F P x) (hy : Ends F Q y) :
    Ends F (fun p => P p.1 ∧ Q p.2) (both x y) := by
  cases x with
  | ok a =>
    cases y with
    | ok b => exact ⟨hx, hy⟩
    | error e => exact hy
  | error e =>
    cases y with
    | ok b => exact hx
    | error e' =>
      rw [both]
      split
      · exact hx
      · exact hy

theorem ends_all {xs : List (Built α)} (h : ∀ x ∈ xs, Ends F P x) :
    Ends F (fun as => ∀ a ∈ as, P a) (all xs) := by
  induction xs with
  | nil => exact List.forall_mem_nil _
  | cons x xs ih =>
    rw [List.forall_mem_cons] at h
    rw [all]
    exact (ends_both h.1 (ih h.2)).map fun _ hp => List.forall_mem_cons.mpr hp

theorem ends_atLevel {G : Fault → Prop} (level : Nat) {x : Except Fault α} (hx : Ends G P x) :
    Ends (fun e => G e.2) P (atLevel level x) := by
  cases x with
  | ok a => exact hx
  | error e => exact hx

end Built

namespace Document

variable {d : Document} {root n : Node}

/-- All faults of a value are those of the document. -/
abbrev Builds (d : Document) (root : Node) : Built α → Prop :=
  Ends (fun e => d.Faulty root e.2) fun _ => True

theorem builds_buildKey {value : Built Datum} (level : Nat) (n : Node)
    (h : d.Builds root value) : d.Builds root (d.buildKey level n value) := by
  unfold buildKey
  split
  · trivial
  · split
    · split
      · trivial
      · exact .inl rfl
    · change d.Faulty root (if _ then _ else _)
      split
      · exact .inl rfl
      · exact h

section Collections

variable {value : Node → Built Datum}
  (hvalue : ∀ n, d.Reaches root n → d.Builds root (value n))
include hvalue

theorem builds_map (level fuel : Nat) {entries : List (Node × Node)}
    (h : ∀ e ∈ entries, d.ReachesEntry root e) :
    d.Builds root (do
      let merged ← Built.atLevel level (d.mergedEntries fuel [] entries)
      let built ← Built.all (merged.map fun e =>
        .both (d.buildKey level e.1 (value e.1)) (value e.2))
      return built.foldl (fun es e => Datum.setEntry e.1 e.2 es) []) := by
  have hmerged := Built.ends_atLevel level (mergedEntries_fault (d := d) fuel [] h)
  refine (hmerged.imp (fun _ => .inl) fun _ => id).bind fun merged hreached => ?_
  refine .bind (Built.ends_all (P := fun _ => True) fun built hbuilt => ?_) fun _ _ => .pure trivial
  obtain ⟨e, he, rfl⟩ := List.mem_map.mp hbuilt
  obtain ⟨hkey, hvalueReached⟩ := hreached e he
  exact (Built.ends_both (builds_buildKey level e.1 (hvalue _ hkey)) (hvalue _ hvalueReached)).imp
    (fun _ => id) fun _ _ => trivial

theorem builds_pair (level : Nat) {item : Node} (hitem : d.Reaches root item) :
    d.Builds root (match d.target item with
      | some (.mapping _ [(k, v)]) =>
        (Built.both (value k) (value v)).map fun p =>
        Datum.list [p.1, p.2]
      | _ => .error (level, .malformed)) := by
  split
  · rename_i htarget
    have hreached := reaches_target hitem htarget
    have hkey := hvalue _ (hreached.key List.mem_cons_self)
    have hboth := Built.ends_both hkey (hvalue _ (hreached.value List.mem_cons_self))
    exact hboth.map fun _ _ => trivial
  · exact .inl rfl

end Collections

theorem builds_list {value : Node → Built Datum} {items : List Node}
    (h : ∀ item ∈ items, d.Builds root (value item)) :
    d.Builds root ((Built.all (items.map value)).map Datum.list) := by
  refine (Built.ends_all (P := fun _ => True) fun built hbuilt => ?_).map fun _ _ => trivial
  obtain ⟨item, hitem, rfl⟩ := List.mem_map.mp hbuilt
  exact h item hitem

theorem builds_scalar (level : Nat) {tag : Tag} {text : Text} (hn : d.Reaches root n)
    (hw : d.Writes n tag text) : d.Builds root (Built.atLevel level (scalarValue text tag)) := by
  refine Built.ends_atLevel level ?_
  cases h : scalarValue text tag with
  | ok value => trivial
  | error fault => exact faulty_of_scalarValue hn hw h

/-- A mapping with a tag of scalars has the value of the text that it stands for. -/
theorem builds_text (level : Nat) {tag : Tag} {entries : List (Node × Node)}
    (hroot : root ∈ d.nodes) (hn : d.Reaches root (.mapping tag entries)) :
    d.Builds root (Built.atLevel level do
      scalarValue (← d.textOf (.mapping tag entries)) tag) := by
  have hfault := textOf_fault hroot hn
  cases htext : d.textOf (.mapping tag entries) with
  | error fault =>
    rw [htext] at hfault
    exact hfault
  | ok text => exact builds_scalar level hn ⟨beq_self_eq_true tag, _, htext⟩

/-- The faults of the value of a node are those of nodes that it leads to. -/
theorem builds_build (fuel level : Nat) (hroot : root ∈ d.nodes) (hn : d.Reaches root n) :
    d.Builds root (d.build fuel level n) := by
  induction fuel generalizing level n with
  | zero => exact .inl rfl
  | succ fuel ih =>
    have hvalue (n : Node) (hn : d.Reaches root n) := ih (level + 1) hn
    unfold build
    dsimp only
    split
    · split
      · rename_i hlookup
        split
        · exact ih level (hn.target hlookup).hollow
        · exact ih level (hn.target hlookup)
      · exact .inl rfl
    · split
      · exact .inl rfl
      · exact builds_scalar level hn ⟨beq_self_eq_true _, 1, rfl⟩
    · exact builds_list fun _ hitem => hvalue _ (hn.item hitem)
    · exact builds_list fun _ hitem => builds_pair hvalue (level + 1) (hn.item hitem)
    · exact builds_list fun _ hitem => builds_pair hvalue (level + 1) (hn.item hitem)
    · exact .inl rfl
    · exact .inl rfl
    · exact .inl rfl
    · exact (builds_map hvalue _ _ fun e he => ⟨hn.key he, hn.value he⟩).map fun _ _ => trivial
    · exact (builds_map hvalue _ _ fun e he => ⟨hn.key he, hn.value he⟩).map fun _ _ => trivial
    · exact .inl rfl
    · exact .inl rfl
    · exact .inl rfl
    · exact .inl rfl
    · exact .inl rfl
    · exact .inl rfl
    · exact builds_text level hroot hn

end Document

/-- A reason in a text for a fault: a symbol or a version in it cannot be read, or a scalar of its
document looks like a value and is none, or a mapping of it stands for a text without an end. -/
def HasFault (text : Text) (fault : Fault) : Prop :=
  LexicalFault (normalizeBreaks text) fault ∨
    ∃ d, Document.ofTokens? (Token.ofText (normalizeBreaks text)) = .ok (some d) ∧
      (d.ScalarFault d.root fault ∨ d.EndlessFault d.root fault)

/-- **What is wrong with a text that has no value.** -/
theorem hasFault_of_read {text : Text} {fault : Fault} (h : read text = .error fault) :
    HasFault text fault := by
  rw [read] at h
  cases htokens : Document.ofTokens? (Token.ofText (normalizeBreaks text)) with
  | error fault' =>
    rw [htokens] at h
    cases h
    rcases Document.ofTokens?_eq_error htokens with rfl | hbroken
    · exact .inl .malformed
    · exact .inl (Token.lexicalFault_of_mem_ofText hbroken)
  | ok document =>
    rw [htokens] at h
    cases document with
    | none => cases h
    | some d =>
      have hbuilds := Document.builds_build (d := d) (n := d.root)
        ((Document.aliasLevels + 2) * (text.length + 2)) 0 d.root_mem_nodes .root
      dsimp only [bind, Except.bind] at h
      generalize d.build _ 0 d.root = built at h hbuilds
      cases built with
      | ok value => cases h
      | error e =>
        cases h
        rcases hbuilds with hfault | hreason
        · exact .inl (hfault ▸ .malformed)
        · exact .inr ⟨d, htokens, hreason⟩

end SearchTemplate.Yaml
