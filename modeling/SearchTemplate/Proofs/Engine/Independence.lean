import SearchTemplate.Proofs.Engine.Rejection
import SearchTemplate.Proofs.Entry.Split

/-!
# One run over many entries

A run over the text of one entry renders that entry and nothing else
(`Engine.result_run_text`). Where the entry delimiter does not overlap itself, a run over joined
texts is made of these runs, one after the other (`Engine.result_run_join`): it joins their results,
or fails as the first of them that fails (`Engine.run_join`).
-/

namespace SearchTemplate

namespace Engine

variable {c : Config} {fragments : List Text} {t : Text}

/-- What the entry in `t` is rendered to. -/
def renderText (c : Config) (fragments : List Text) (t : Text) : Except Failure Text :=
  ((Entry.ofText c t).render c (Query.split c fragments)).result

theorem renderText_nil (c : Config) (fragments : List Text) :
    renderText c fragments [] = .ok [] := rfl

theorem result_run_text (hne : t ≠ []) (hfree : ¬ c.entryDelimiter.text <:+: t) :
    (run c (t :: fragments)).result = (renderText c fragments t).map some := by
  have hsplit := Entry.split_of_not_infix hne hfree
  rw [result_run_of_ne_nil (by rw [hsplit]; exact List.cons_ne_nil _ _), hsplit, List.mapM_cons,
    List.mapM_nil]
  show _ = (((Entry.ofText c t).render c (Query.split c fragments)).result).map some
  cases ((Entry.ofText c t).render c (Query.split c fragments)).result <;> rfl

theorem result_run_eq_error_iff_renderText (hfree : ¬ c.entryDelimiter.text <:+: t)
    {failure : Failure} : (run c (t :: fragments)).result = .error failure ↔
      renderText c fragments t = .error failure := by
  by_cases hne : t = []
  · have hempty : Entry.split c [] = [] := rfl
    rw [hne, renderText_nil, result_run_of_nil hempty]
    simp
  · rw [result_run_text hne hfree, map_eq_error_iff]

theorem result_run_join (hd : c.entryDelimiter.text.Unbordered) {texts : List Text}
    (hne : texts ≠ []) (hfree : ∀ t ∈ texts, ¬ c.entryDelimiter.text <:+: t)
    (hfirst : (texts.head hne).isBlank = false) (hlast : texts.getLast hne ≠ []) :
    (run c (Text.join c.entryDelimiter.text texts :: fragments)).result =
      (texts.mapM (renderText c fragments)).map fun outputs =>
        some (Text.join c.entryDelimiter.text outputs) := by
  have hsplit := Entry.split_join hne
    (fun t ht => Text.apart_of_unbordered c.entryDelimiter.ne_nil hd (hfree t ht)) hfirst hlast
  rw [result_run_of_ne_nil (by rw [hsplit]; simpa using hne), hsplit, List.mapM_map]
  rfl

/-- **Entries are rendered independently of each other.** Where the entry delimiter does not overlap
itself and does not occur in the texts of the entries, a run over the joined texts succeeds if the
run over each text that is not empty does, and then joins their results, with nothing for an empty
text. If one of these runs fails, the run over the joined texts fails as the first of them. -/
theorem run_join (c : Config) (hd : c.entryDelimiter.text.Unbordered) (fragments : List Text)
    (texts : List Text) (hne : texts ≠ [])
    (hfree : ∀ t ∈ texts, ¬ c.entryDelimiter.text <:+: t)
    (hfirst : (texts.head hne).isBlank = false) (hlast : texts.getLast hne ≠ []) :
    ((∀ t ∈ texts, t ≠ [] → ∃ output, (run c (t :: fragments)).result = .ok output) →
      ∃ outputs : List Text,
        List.Forall₂ (fun t output => if t = [] then output = [] else
          (run c (t :: fragments)).result = .ok (some output)) texts outputs ∧
        (run c (Text.join c.entryDelimiter.text texts :: fragments)).result =
          .ok (some (Text.join c.entryDelimiter.text outputs))) ∧
    ∀ before t after failure, texts = before ++ t :: after →
      (∀ t' ∈ before, ∃ output, (run c (t' :: fragments)).result = .ok output) →
      (run c (t :: fragments)).result = .error failure →
      (run c (Text.join c.entryDelimiter.text texts :: fragments)).result = .error failure := by
  have hsucceeds : ∀ t ∈ texts, t ≠ [] →
      ((∃ output, (run c (t :: fragments)).result = .ok output) ↔
        ∃ output, renderText c fragments t = .ok output) := by
    intro t ht hnil
    rw [result_run_text hnil (hfree t ht), exists_map_eq_ok_iff]
  rw [result_run_join hd hne hfree hfirst hlast]
  constructor
  · intro hall
    have hrendered : ∀ t ∈ texts, ∃ output, renderText c fragments t = .ok output := by
      intro t ht
      by_cases hnil : t = []
      · exact ⟨[], by rw [hnil, renderText_nil]⟩
      · exact (hsucceeds t ht hnil).mp (hall t ht hnil)
    obtain ⟨outputs, houtputs⟩ := exists_mapM_eq_ok_iff.mpr hrendered
    refine ⟨outputs, ?_, by rw [houtputs]; rfl⟩
    have hboth := (List.forall₂_and_left _ _).mpr ⟨hfree, mapM_eq_ok_iff.mp houtputs⟩
    refine hboth.imp fun t output h => ?_
    by_cases hnil : t = []
    · have houtput := h.2
      rw [hnil, renderText_nil] at houtput
      rw [if_pos hnil, ← Except.ok.inj houtput]
    · rw [if_neg hnil, result_run_text hnil h.1, h.2]
      rfl
  · rintro before t after failure rfl hbefore ht
    rw [map_eq_error_iff, mapM_eq_error_iff]
    refine ⟨before, t, after, rfl, fun t' ht' => ?_, ?_⟩
    · by_cases hnil : t' = []
      · exact ⟨[], by rw [hnil, renderText_nil]⟩
      · exact (hsucceeds t' (List.mem_append_left _ ht') hnil).mp (hbefore t' ht')
    · exact (result_run_eq_error_iff_renderText (hfree t (by simp))).mp ht

/-- Texts that end and start with parts of the delimiter, with an empty one between them. -/
def raggedTexts : List Text :=
  [.ofString "a<|\x7bsearch\\+\x7d", [], .ofString "|>\x7bsearch!2\\-\x7d<>d<"]

def raggedFragments : List Text := [.ofString "x y", .ofString "%% z"]

/-- Texts of which the third and the fourth are rejected, for different reasons. -/
def brokenTexts : List Text :=
  [.ofString "a", [], .ofString "\x7bsearch\\+\x7d", .ofString "b\x7bsearch\\\x7d"]

theorem run_join_ragged :
    Config.standard.entryDelimiter.text.Unbordered ∧
      (∀ t ∈ raggedTexts ++ brokenTexts, ¬ Config.standard.entryDelimiter.text <:+: t) ∧
      (∀ t ∈ raggedTexts, t ≠ [] →
        ∃ output, (run .standard (t :: raggedFragments)).result = .ok output) ∧
      (run .standard (.ofString "a<|\x7bsearch\\+\x7d<|><|>|>\x7bsearch!2\\-\x7d<>d<" ::
        raggedFragments)).result = .ok (some (.ofString "a%3C%7Cx+y<|><|>%7C%3Ez<>d<")) ∧
      (run .standard (.ofString "a<|><|>\x7bsearch\\+\x7d<|>b\x7bsearch\\\x7d" ::
        raggedFragments)).result = .error (.placeholder
          ⟨.opensUrl, .ofString "\x7bsearch\\+\x7d", .ofString "\x7bsearch\\+\x7d"⟩) := by
  have hd : Config.standard.entryDelimiter.text.Unbordered := by decide
  have hfree : ∀ t ∈ raggedTexts ++ brokenTexts,
      ¬ Config.standard.entryDelimiter.text <:+: t := by decide +kernel
  obtain ⟨hragged, hbroken⟩ := List.forall_mem_append.mp hfree
  have hfirst : (run .standard (.ofString "a<|\x7bsearch\\+\x7d" :: raggedFragments)).result =
      .ok (some (.ofString "a%3C%7Cx+y")) := by decide +kernel
  have hthird : (run .standard (.ofString "|>\x7bsearch!2\\-\x7d<>d<" ::
      raggedFragments)).result = .ok (some (.ofString "%7C%3Ez<>d<")) := by decide +kernel
  have hall : ∀ t ∈ raggedTexts, t ≠ [] →
      ∃ output, (run .standard (t :: raggedFragments)).result = .ok output := by
    intro t ht _
    simp only [raggedTexts, List.mem_cons, List.not_mem_nil, or_false] at ht
    rcases ht with rfl | rfl | rfl
    · exact ⟨_, hfirst⟩
    · exact ⟨none, rfl⟩
    · exact ⟨_, hthird⟩
  obtain ⟨outputs, houtputs, hrun⟩ := (run_join .standard hd raggedFragments raggedTexts
    (List.cons_ne_nil _ _) hragged (by decide) (by decide)).1 hall
  refine ⟨hd, hfree, hall, ?_, ?_⟩
  · -- the results of the single runs are the only ones that can stand in the joint result
    rcases houtputs with _ | ⟨h1, _ | ⟨h2, _ | ⟨h3, _ | _⟩⟩⟩
    rw [if_neg (by decide), hfirst] at h1
    rw [if_pos rfl] at h2
    rw [if_neg (by decide), hthird] at h3
    cases h1
    cases h2
    cases h3
    exact hrun
  · refine (run_join .standard hd raggedFragments brokenTexts (List.cons_ne_nil _ _) hbroken
      (by decide) (by decide)).2 [.ofString "a", []] (.ofString "\x7bsearch\\+\x7d")
      [.ofString "b\x7bsearch\\\x7d"] _ rfl ?_ (by decide +kernel)
    simp only [List.forall_mem_cons, List.not_mem_nil, false_implies, implies_true, and_true]
    exact ⟨⟨some (.ofString "a"), by decide +kernel⟩, none, rfl⟩

end Engine

end SearchTemplate
