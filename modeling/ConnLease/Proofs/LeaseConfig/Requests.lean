import Mathlib.Data.List.DropRight
import Mathlib.Data.List.Induction
import ConnLease.LeaseConfig.Draft

/-!
# Requests for the classifier of a draft

Which classifier a draft hands out depends on its history: it judges by the extra codes that the
draft had at the first request since the classifier was last thrown away, and until it is thrown
away again every request gets the same one. The two are followed together from the end of the
history; as long as nobody writes the list of codes directly, these are the codes of the moment.
-/

namespace ConnLease

/-- The classifier is the one for the extra codes `codes`, and shared if there are none. -/
structure ClassifierRef.StandsFor (ref : ClassifierRef) (codes : List String) : Prop where
  classifier : ref.classifier = .withExtra codes
  shared : ref = .standard ↔ codes = []

namespace LeaseConfig.Draft

/-- Perform edits one after the other. -/
def run (d : Draft) (edits : List Edit) : Draft := edits.foldl (fun d e => (d.edit e).1) d

@[simp]
theorem run_nil (d : Draft) : d.run [] = d := rfl

@[simp]
theorem run_cons (d : Draft) (e : Edit) (edits : List Edit) :
    d.run (e :: edits) = (d.edit e).1.run edits := rfl

theorem run_append (d : Draft) (edits more : List Edit) :
    d.run (edits ++ more) = (d.run edits).run more := by
  simp [run]

/-! ## Histories -/

/-- Whether an edit throws the kept classifier away. -/
def Edit.resets : Edit → Bool
  | .startAnew | .addFatalState _ => true
  | .parse text => (LeaseConfig.parse text).isOk
  | _ => false

/-- The extra codes of a new draft after some edits. -/
def codesAfter (edits : List Edit) : List String := (run {} edits).config.extraFatalStates

/-- The edits since the kept classifier was last thrown away. -/
def sinceReset (edits : List Edit) : List Edit := edits.rtakeWhile (!·.resets)

/-- The edits up to the first request since the kept classifier was last thrown away; all of them
if there was no such request. -/
def upToRequest (edits : List Edit) : List Edit :=
  edits.rdropWhile (!·.resets) ++ (sinceReset edits).takeWhile (· ≠ .classifier)

/-- The extra codes that the first request found since the kept classifier was last thrown away; if
there was none, the next request is the first. -/
def codesAtRequest (edits : List Edit) : List String := codesAfter (upToRequest edits)

theorem upToRequest_of_unrequested {edits : List Edit} (h : .classifier ∉ sinceReset edits) :
    upToRequest edits = edits := by
  have htake : (sinceReset edits).takeWhile (· ≠ .classifier) = sinceReset edits := by
    rw [List.takeWhile_eq_self_iff]
    intro e he
    exact decide_eq_true (ne_of_mem_of_not_mem he h)
  unfold upToRequest
  rw [htake]
  exact List.rdropWhile_append_rtakeWhile

section Snoc

variable {edits : List Edit} {e : Edit}

theorem sinceReset_snoc_of_resets (he : e.resets = true) : sinceReset (edits ++ [e]) = [] :=
  List.rtakeWhile_concat_neg _ _ _ (by simp [he])

theorem sinceReset_snoc (he : e.resets = false) :
    sinceReset (edits ++ [e]) = sinceReset edits ++ [e] :=
  List.rtakeWhile_concat_pos _ _ _ (by simp [he])

theorem upToRequest_snoc_of_requested (he : e.resets = false)
    (h : .classifier ∈ sinceReset edits) : upToRequest (edits ++ [e]) = upToRequest edits := by
  have hshort : ((sinceReset edits).takeWhile (· ≠ .classifier)).length ≠
      (sinceReset edits).length := by
    intro hlength
    have hall := (List.takeWhile_prefix _).eq_of_length hlength
    simpa using List.takeWhile_eq_self_iff.1 hall .classifier h
  unfold upToRequest
  rw [sinceReset_snoc he, List.takeWhile_append, if_neg hshort,
    List.rdropWhile_concat_pos _ _ _ (by simp [he])]

theorem upToRequest_snoc_classifier :
    upToRequest (edits ++ [.classifier]) = upToRequest edits := by
  have htake : (sinceReset edits ++ [Edit.classifier]).takeWhile (· ≠ .classifier) =
      (sinceReset edits).takeWhile (· ≠ .classifier) := by
    rw [List.takeWhile_append, List.takeWhile_cons_of_neg (by simp), List.append_nil]
    split
    · rename_i hlength
      exact ((List.takeWhile_prefix _).eq_of_length hlength).symm
    · rfl
  unfold upToRequest
  rw [sinceReset_snoc rfl, htake, List.rdropWhile_concat_pos _ _ _ (by rfl)]

end Snoc

/-! ## One edit -/

theorem kept_edit (d : Draft) (e : Edit) :
    (d.edit e).1.kept =
      if e.resets then none else if e = .classifier then some d.classifier.2 else d.kept := by
  cases e with
  | parse text =>
    simp only [edit, Edit.resets, reduceCtorEq, if_false]
    cases LeaseConfig.parse text <;> rfl
  | classifier => exact d.kept_classifier
  | _ => rfl

theorem config_classifier (d : Draft) : d.classifier.1.config = d.config := by
  unfold classifier
  split
  · rfl
  · split <;> rfl

/-- Apart from edits that throw the classifier away, only a direct write changes the codes. -/
theorem codes_edit {e : Edit} (he : e.resets = false)
    (hwrite : ∀ codes, e ≠ .writeFatalStates codes) (d : Draft) :
    (d.edit e).1.config.extraFatalStates = d.config.extraFatalStates := by
  cases e with
  | parse text =>
    simp only [edit, Edit.resets] at he ⊢
    cases hparse : LeaseConfig.parse text with
    | ok config => rw [hparse] at he; cases he
    | error e => rfl
  | startAnew => cases he
  | addFatalState code => cases he
  | writeFatalStates codes => exact absurd rfl (hwrite codes)
  | classifier => exact congrArg extraFatalStates d.config_classifier
  | _ => rfl

theorem standsFor_classifier {d : Draft} (h : d.kept = none) :
    d.classifier.2.StandsFor d.config.extraFatalStates where
  classifier := classifier_of_not_kept h
  shared := by
    unfold classifier
    rw [h]
    dsimp only
    split
    · rename_i hempty
      exact iff_of_true rfl (List.isEmpty_iff.1 hempty)
    · rename_i hempty
      exact iff_of_false (by simp) fun hnil => hempty (List.isEmpty_iff.2 hnil)

/-! ## Whole histories -/

/-- A kept classifier stays until it is thrown away. -/
theorem kept_run_of_quiet {d : Draft} {ref : ClassifierRef} (h : d.kept = some ref)
    {edits : List Edit} (hedits : ∀ e ∈ edits, e.resets = false) :
    (d.run edits).kept = some ref := by
  induction edits generalizing d with
  | nil => exact h
  | cons e edits ih =>
    refine ih ?_ fun e' he' => hedits e' (List.mem_cons_of_mem _ he')
    rw [kept_edit, hedits e (List.mem_cons_self ..), if_neg Bool.false_ne_true,
      classifier_of_kept h, h, ite_self]

theorem codes_run_of_quiet (d : Draft) {edits : List Edit}
    (hedits : ∀ e ∈ edits, e.resets = false) (hwrite : ∀ codes, .writeFatalStates codes ∉ edits) :
    (d.run edits).config.extraFatalStates = d.config.extraFatalStates := by
  induction edits generalizing d with
  | nil => rfl
  | cons e edits ih =>
    rw [run_cons, ih, codes_edit (hedits e (List.mem_cons_self ..))]
    · rintro codes rfl
      exact hwrite codes (List.mem_cons_self ..)
    · exact fun e' he' => hedits e' (List.mem_cons_of_mem _ he')
    · exact fun codes hmem => hwrite codes (List.mem_cons_of_mem _ hmem)

/-- What a new draft keeps after some edits. -/
structure Keeps (edits : List Edit) : Prop where
  unrequested : .classifier ∉ sinceReset edits → (run {} edits).kept = none
  requested : .classifier ∈ sinceReset edits →
    ∃ ref, (run {} edits).kept = some ref ∧ ref.StandsFor (codesAtRequest edits)

theorem Keeps.standsFor {edits : List Edit} (h : Keeps edits) :
    (run {} edits).classifier.2.StandsFor (codesAtRequest edits) := by
  by_cases hmem : .classifier ∈ sinceReset edits
  · obtain ⟨ref, hkept, hstands⟩ := h.requested hmem
    rwa [classifier_of_kept hkept]
  · unfold codesAtRequest
    rw [upToRequest_of_unrequested hmem]
    exact standsFor_classifier (h.unrequested hmem)

theorem run_snoc (d : Draft) (edits : List Edit) (e : Edit) :
    d.run (edits ++ [e]) = ((d.run edits).edit e).1 :=
  run_append d edits [e]

theorem Keeps.snoc {edits : List Edit} (h : Keeps edits) (e : Edit) : Keeps (edits ++ [e]) := by
  cases he : e.resets with
  | true =>
    have hnone : (run {} (edits ++ [e])).kept = none := by
      rw [run_snoc, kept_edit, he, if_pos rfl]
    exact ⟨fun _ => hnone, fun hmem => by rw [sinceReset_snoc_of_resets he] at hmem; cases hmem⟩
  | false =>
    have hkept : (run {} (edits ++ [e])).kept =
        if e = .classifier then some (run {} edits).classifier.2 else (run {} edits).kept := by
      rw [run_snoc, kept_edit, he, if_neg Bool.false_ne_true]
    by_cases hclassifier : e = .classifier
    · subst hclassifier
      rw [if_pos rfl] at hkept
      refine ⟨fun hmem => absurd ?_ hmem, fun _ => ⟨_, hkept, ?_⟩⟩
      · rw [sinceReset_snoc rfl]
        exact List.mem_append_right _ (List.mem_singleton_self _)
      · unfold codesAtRequest
        rw [upToRequest_snoc_classifier]
        exact h.standsFor
    · rw [if_neg hclassifier] at hkept
      have hmem : .classifier ∈ sinceReset (edits ++ [e]) ↔ .classifier ∈ sinceReset edits := by
        rw [sinceReset_snoc he, List.mem_append, List.mem_singleton]
        exact or_iff_left fun h => hclassifier h.symm
      constructor
      · intro hnot
        rw [hkept]
        exact h.unrequested (mt hmem.2 hnot)
      · intro hrequested
        obtain ⟨ref, href, hstands⟩ := h.requested (hmem.1 hrequested)
        refine ⟨ref, hkept.trans href, ?_⟩
        unfold codesAtRequest
        rwa [upToRequest_snoc_of_requested he (hmem.1 hrequested)]

theorem keeps_run (edits : List Edit) : Keeps edits := by
  induction edits using List.reverseRecOn with
  | nil => exact ⟨fun _ => rfl, fun hmem => by cases hmem⟩
  | append_singleton edits e ih => exact ih.snoc e

/-- Without direct writes the codes are still those that the first request found. -/
theorem codesAtRequest_eq {edits : List Edit} (h : ∀ codes, .writeFatalStates codes ∉ edits) :
    codesAtRequest edits = codesAfter edits := by
  have hsplit :
      upToRequest edits ++ (sinceReset edits).dropWhile (· ≠ .classifier) = edits := by
    unfold upToRequest
    rw [List.append_assoc, List.takeWhile_append_dropWhile]
    exact List.rdropWhile_append_rtakeWhile
  have hquiet : ∀ e ∈ (sinceReset edits).dropWhile (· ≠ .classifier), e.resets = false := by
    intro e he
    simpa using List.mem_rtakeWhile_imp ((List.dropWhile_sublist _).mem he)
  have hcodes := codes_run_of_quiet (run {} (upToRequest edits)) hquiet fun codes hmem => by
    apply h codes
    rw [← hsplit]
    exact List.mem_append_right _ hmem
  rw [← run_append, hsplit] at hcodes
  exact hcodes.symm

/-- What a request for the classifier gets after the edits `edits` of a new draft. -/
structure CoherentRequest (edits : List Edit) (ref : ClassifierRef) : Prop where
  judges : ∀ code,
    ref.classifier.judgeCode code = (Classifier.withExtra (codesAtRequest edits)).judgeCode code
  shared : ref = .standard ↔ codesAtRequest edits = []
  /-- Until the classifier is thrown away, later requests get the same one. -/
  repeated : ∀ between, (∀ e ∈ between, e.resets = false) →
    ((run {} (edits ++ .classifier :: between)).edit .classifier).2 = .classifier ref
  current : (∀ codes, .writeFatalStates codes ∉ edits) → ∀ code,
    ref.classifier.judgeCode code = (Classifier.withExtra (codesAfter edits)).judgeCode code

theorem coherent_requests (edits : List Edit) :
    ∃ ref, ((run {} edits).edit .classifier).2 = .classifier ref ∧ CoherentRequest edits ref := by
  have hstands := (keeps_run edits).standsFor
  refine ⟨(run {} edits).classifier.2, rfl, ?_⟩
  constructor
  · intro code
    rw [hstands.classifier]
  · exact hstands.shared
  · intro between hbetween
    have hkept : ((run {} edits).edit .classifier).1.kept = some (run {} edits).classifier.2 :=
      kept_classifier _
    rw [run_append, run_cons]
    exact congrArg (Reply.classifier ·.2) (classifier_of_kept (kept_run_of_quiet hkept hbetween))
  · intro hwrite code
    rw [hstands.classifier, codesAtRequest_eq hwrite]

/-- A direct write goes unnoticed after the first request, until another code is added. -/
example :
    codesAtRequest [.classifier, .writeFatalStates ["HY000"], .copy] = [] ∧
      codesAtRequest [.classifier, .writeFatalStates ["HY000"], .addFatalState "S1000"] =
        ["HY000", "S1000"] := by
  decide

end LeaseConfig.Draft

end ConnLease
