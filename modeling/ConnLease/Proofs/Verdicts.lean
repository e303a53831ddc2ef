import Mathlib.Data.List.Forall2
import Mathlib.Data.String.Basic
import ConnLease.LeaseConfig.Draft

/-!
# Verdicts

What a classifier with given extra codes holds to be fatal, said without classes, tables and bytes:
the codes that begin with "08", the four standard codes, and the extra ones, where the case of ASCII
letters does not count. It follows which changes of a code and of the extra codes leave the verdict
as it is.
-/

namespace ConnLease

/-! ## Letters of either case -/

theorem toNat_toUpper (c : Char) :
    c.toUpper.toNat = if 97 ≤ c.toNat ∧ c.toNat ≤ 122 then c.toNat - 32 else c.toNat := by
  have hlower : ('a'.val ≤ c.val ∧ c.val ≤ 'z'.val) ↔ 97 ≤ c.toNat ∧ c.toNat ≤ 122 := by
    simp only [UInt32.le_iff_toNat_le]
    rfl
  unfold Char.toUpper
  split
  · rename_i h
    have hc := hlower.1 h
    rw [if_pos hc]
    -- the difference of the two letters wraps around
    have hshift : ('A'.val - 'a'.val).toNat = 2 ^ 32 - 32 := by decide
    show (c.val + ('A'.val - 'a'.val)).toNat = c.val.toNat - 32
    rw [UInt32.toNat_add, hshift]
    unfold Char.toNat at hc
    omega
  · rename_i h
    rw [if_neg (mt hlower.2 h)]

theorem toNat_toLower (c : Char) :
    c.toLower.toNat = if 65 ≤ c.toNat ∧ c.toNat ≤ 90 then c.toNat + 32 else c.toNat := by
  have hupper : ('A'.val ≤ c.val ∧ c.val ≤ 'Z'.val) ↔ 65 ≤ c.toNat ∧ c.toNat ≤ 90 := by
    simp only [UInt32.le_iff_toNat_le]
    rfl
  unfold Char.toLower
  split
  · rename_i h
    have hc := hupper.1 h
    rw [if_pos hc]
    have hshift : ('a'.val - 'A'.val).toNat = 32 := by decide
    show (c.val + ('a'.val - 'A'.val)).toNat = c.val.toNat + 32
    rw [UInt32.toNat_add, hshift]
    unfold Char.toNat at hc
    omega
  · rename_i h
    rw [if_neg (mt hupper.2 h)]

theorem toUpper_toUpper (c : Char) : c.toUpper.toUpper = c.toUpper := by
  apply Char.toNat_inj.1
  simp only [toNat_toUpper]
  split_ifs <;> omega

theorem toUpper_toLower (c : Char) : c.toLower.toUpper = c.toUpper := by
  apply Char.toNat_inj.1
  simp only [toNat_toUpper, toNat_toLower]
  split_ifs <;> omega

/-- What upper case turns into digits was the same before. -/
theorem eq_of_map_toUpper {cs ds : List Char} (hds : ∀ d ∈ ds, d.toNat < 65)
    (h : cs.map Char.toUpper = ds) : cs = ds := by
  have hchar : ∀ c ∈ cs, c.toUpper = c := by
    intro c hc
    have hsmall := hds c.toUpper (h ▸ List.mem_map_of_mem hc)
    apply Char.toNat_inj.1
    rw [toNat_toUpper] at hsmall ⊢
    split_ifs at hsmall ⊢ <;> omega
  rw [← h, List.map_congr_left hchar, List.map_id']

theorem toNat_lt_of_mem_zeroEight : ∀ d ∈ "08".toList, d.toNat < 65 := by
  have hlist : "08".toList = ['0', '8'] := rfl
  rw [hlist]
  simp

/-- The text `t` is the text `s` with some of its ASCII letters in the other case. -/
def Recased (s t : String) : Prop :=
  List.Forall₂ (fun c d => d = c ∨ d = c.toUpper ∨ d = c.toLower) s.toList t.toList

theorem Recased.toUpper_eq {s t : String} (h : Recased s t) : t.toUpper = s.toUpper := by
  have hchar : ∀ c d : Char, (d = c ∨ d = c.toUpper ∨ d = c.toLower) → d.toUpper = c.toUpper := by
    rintro c d (rfl | rfl | rfl)
    · rfl
    · exact toUpper_toUpper c
    · exact toUpper_toLower c
  unfold Recased at h
  apply String.toList_inj.1
  unfold String.toUpper
  rw [String.toList_map, String.toList_map]
  generalize s.toList = cs at h
  generalize t.toList = ds at h
  induction h with
  | nil => rfl
  | cons hcd _ ih => rw [List.map_cons, List.map_cons, hchar _ _ hcd, ih]

theorem foldCase_eq_iff {s t : String} : foldCase s = foldCase t ↔ s.toUpper = t.toUpper := by
  unfold foldCase String.toUpper
  rw [← String.toList_inj, String.toList_map, String.toList_map]

theorem begins_iff (s : String) :
    (∃ rest, s = "08" ++ rest) ↔ ∃ rest, s.toUpper = "08" ++ rest := by
  simp only [← String.toList_inj, String.toUpper, String.toList_map, String.toList_append]
  constructor
  · rintro ⟨rest, hs⟩
    refine ⟨rest.map Char.toUpper, ?_⟩
    rw [hs, List.map_append, String.toList_map]
    rfl
  · rintro ⟨rest, hs⟩
    obtain ⟨front, tail, hsplit, hfront, -⟩ := List.map_eq_append_iff.1 hs
    refine ⟨String.ofList tail, ?_⟩
    rw [hsplit, eq_of_map_toUpper toNat_lt_of_mem_zeroEight hfront, @String.toList_ofList tail]

/-! ## The class of a code -/

theorem utf8ByteSize_eq (s : String) :
    s.utf8ByteSize = s.toList.foldr (fun c size => c.utf8Size + size) 0 := by
  rw [← String.utf8Len_toList]
  induction s.toList with
  | nil => rfl
  | cons c rest ih =>
    rw [String.utf8Len, ih, List.foldr_cons]
    omega

namespace SqlState

/-- The class is the first two bytes where they end a character. -/
theorem className_append {front : String} (rest : String) (h : front.utf8ByteSize = 2) :
    (SqlState.mk (front ++ rest)).className = front := by
  unfold className
  rw [utf8ByteSize_eq] at h
  rw [String.toList_append, takeBytes_eq_some _ _ h]
  exact String.ofList_toList

/-- The class is the whole code where no character ends after two bytes. -/
theorem className_of_split {s : String}
    (h : ∀ front rest : String, s = front ++ rest → front.utf8ByteSize ≠ 2) :
    (SqlState.mk s).className = s := by
  unfold className
  split
  · rename_i front htake
    obtain ⟨rest, hs, hsize⟩ := takeBytes_append htake
    refine absurd ?_ (h (String.ofList front) (String.ofList rest) ?_)
    · rw [utf8ByteSize_eq, String.toList_ofList, hsize]
    · apply String.toList_inj.1
      rw [String.toList_append, String.toList_ofList, String.toList_ofList, ← hs]
  · rfl

/-- The class stands at the front of the code. -/
theorem exists_eq_className_append (s : SqlState) : ∃ rest, s.code = s.className ++ rest := by
  by_cases h : ∀ front rest : String, s.code = front ++ rest → front.utf8ByteSize ≠ 2
  · refine ⟨"", ?_⟩
    rw [String.append_empty]
    exact (className_of_split h).symm
  · push Not at h
    obtain ⟨front, rest, hs, hsize⟩ := h
    refine ⟨rest, ?_⟩
    have hclass := className_append rest hsize
    rw [← hs] at hclass
    rw [hclass, hs]

theorem foldCase_className_iff (s : SqlState) :
    foldCase s.className = foldCase "08" ↔ ∃ rest, s.code = "08" ++ rest := by
  constructor
  · intro h
    obtain ⟨rest, hs⟩ := s.exists_eq_className_append
    refine ⟨rest, ?_⟩
    have hclass : s.className = "08" := by
      apply String.toList_inj.1
      exact eq_of_map_toUpper toNat_lt_of_mem_zeroEight h
    rw [← hclass, ← hs]
  · rintro ⟨rest, hs⟩
    have hclass : s.className = "08" := by
      have happend : (SqlState.mk ("08" ++ rest)).className = "08" :=
        className_append rest (by decide)
      rw [← hs] at happend
      exact happend
    rw [hclass]

end SqlState

/-! ## Fatal codes -/

namespace Classifier

/-- The code `s` says that the connection is gone, if the codes `extra` say so too. -/
def Condemned (extra : List String) (s : String) : Prop :=
  (∃ rest, s = "08" ++ rest) ∨ s.toUpper ∈ ["57P01", "57P02", "57P03", "01002"] ∨
    ∃ code ∈ extra, s.toUpper = code.toUpper

/-- The standard codes are in upper case. -/
theorem mem_fatalStates_iff (s : String) :
    foldCase s ∈ fatalStates.map foldCase ↔ s.toUpper ∈ fatalStates := by
  have hupper : ∀ code ∈ fatalStates, code.toUpper = code := by
    have hlist : ∀ code ∈ fatalStates, code.toList.map Char.toUpper = code.toList := by decide
    intro code hcode
    apply String.toList_inj.1
    unfold String.toUpper
    rw [String.toList_map, hlist code hcode]
  rw [List.mem_map]
  constructor
  · rintro ⟨code, hcode, hfold⟩
    rwa [← foldCase_eq_iff.1 hfold, hupper code hcode]
  · intro hs
    refine ⟨s.toUpper, hs, foldCase_eq_iff.2 ?_⟩
    exact hupper _ hs

theorem mem_map_foldCase_iff (codes : List String) (s : String) :
    foldCase s ∈ codes.map foldCase ↔ ∃ code ∈ codes, s.toUpper = code.toUpper := by
  rw [List.mem_map]
  exact exists_congr fun code => and_congr_right fun _ => foldCase_eq_iff.trans eq_comm

theorem judgeState_eq_fatal_iff (extra : List String) (s : String) :
    (withExtra extra).judgeState ⟨s⟩ = .fatal ↔ Condemned extra s := by
  have hclass : foldCase (SqlState.mk s).className ∈ fatalClasses.map foldCase ↔
      ∃ rest, s = "08" ++ rest := by
    rw [fatalClasses, List.map_singleton, List.mem_singleton]
    exact (SqlState.mk s).foldCase_className_iff
  unfold judgeState Condemned
  rw [ite_eq_left_iff]
  simp only [reduceCtorEq, imp_false, not_not, Bool.or_eq_true, List.contains_iff_mem]
  show foldCase (SqlState.mk s).className ∈ fatalClasses.map foldCase ∨
    foldCase s ∈ fatalStates.map foldCase ++ extra.map foldCase ↔ _
  rw [hclass, List.mem_append, mem_fatalStates_iff, mem_map_foldCase_iff]
  rfl

/-- Verdicts are the same where the same codes are fatal. -/
theorem judgeState_congr {extra extra' : List String} {s t : String}
    (h : Condemned extra s ↔ Condemned extra' t) :
    (withExtra extra).judgeState ⟨s⟩ = (withExtra extra').judgeState ⟨t⟩ := by
  rw [← judgeState_eq_fatal_iff, ← judgeState_eq_fatal_iff] at h
  cases hs : (withExtra extra).judgeState ⟨s⟩ <;>
    cases ht : (withExtra extra').judgeState ⟨t⟩ <;> simp [hs, ht] at h ⊢

/-- A code stays fatal in another case, and with other extra codes that have the old ones among
them. -/
theorem Condemned.of_toUpper_eq {extra extra' : List String} {s t : String}
    (h : Condemned extra s) (ht : t.toUpper = s.toUpper)
    (hextra : ∀ code ∈ extra, ∃ code' ∈ extra', code'.toUpper = code.toUpper) :
    Condemned extra' t := by
  rcases h with h | h | ⟨code, hcode, heq⟩
  · rw [begins_iff, ← ht, ← begins_iff] at h
    exact .inl h
  · rw [← ht] at h
    exact .inr (.inl h)
  · obtain ⟨code', hcode', heq'⟩ := hextra code hcode
    exact .inr (.inr ⟨code', hcode', by rw [ht, heq, heq']⟩)

theorem exists_recased {extra extra' : List String} (h : List.Forall₂ Recased extra extra') :
    (∀ code ∈ extra, ∃ code' ∈ extra', code'.toUpper = code.toUpper) ∧
      ∀ code' ∈ extra', ∃ code ∈ extra, code.toUpper = code'.toUpper := by
  induction h with
  | nil => simp
  | @cons a b _ _ hab _ ih =>
    have heq := hab.toUpper_eq
    constructor
    · intro code hcode
      rcases List.mem_cons.1 hcode with rfl | hcode
      · exact ⟨b, List.mem_cons_self .., heq⟩
      · obtain ⟨code', hmem, hcode'⟩ := ih.1 code hcode
        exact ⟨code', List.mem_cons_of_mem _ hmem, hcode'⟩
    · intro code' hcode'
      rcases List.mem_cons.1 hcode' with rfl | hcode'
      · exact ⟨a, List.mem_cons_self .., heq.symm⟩
      · obtain ⟨code, hmem, hcode⟩ := ih.2 code' hcode'
        exact ⟨code, List.mem_cons_of_mem _ hmem, hcode⟩

/-- The verdicts of the classifier with the extra codes `extra`. -/
structure ExactVerdicts (extra : List String) : Prop where
  fatal : ∀ s, (withExtra extra).judgeState ⟨s⟩ = .fatal ↔ Condemned extra s
  absent : (withExtra extra).judgeCode none = .nonFatal
  /-- Codes, SQLSTATEs and errors are judged alike. -/
  code : ∀ s, (withExtra extra).judgeCode (some s) = (withExtra extra).judgeState ⟨s⟩
  error : ∀ e, (withExtra extra).judge e = (withExtra extra).judgeCode (e.sqlState.map (·.code))
  /-- A new classifier, the default one and the shared one have no extra codes. -/
  plain : standard = withExtra [] ∧ default = withExtra [] ∧
    ClassifierRef.standard.classifier = withExtra []
  recased : ∀ s t extra', Recased s t → List.Forall₂ Recased extra extra' →
    (withExtra extra').judgeState ⟨t⟩ = (withExtra extra).judgeState ⟨s⟩
  /-- Neither the order of the extra codes nor their number counts. -/
  rearranged : ∀ extra', (∀ code, code ∈ extra' ↔ code ∈ extra) →
    ∀ s, (withExtra extra').judgeState ⟨s⟩ = (withExtra extra).judgeState ⟨s⟩
  extended : ∀ more, (∀ code ∈ extra, code ∈ more) →
    ∀ s, (withExtra extra).judgeState ⟨s⟩ = .fatal → (withExtra more).judgeState ⟨s⟩ = .fatal
  /-- The class is the first two bytes of a code where a character ends after them, and the whole
  code where none does. -/
  className : ∀ s : String,
    (∀ front rest : String, s = front ++ rest → front.utf8ByteSize = 2 →
      (SqlState.mk s).className = front) ∧
    ((∀ front rest : String, s = front ++ rest → front.utf8ByteSize ≠ 2) →
      (SqlState.mk s).className = s)

theorem exact_verdicts (extra : List String) : ExactVerdicts extra where
  fatal := judgeState_eq_fatal_iff extra
  absent := rfl
  code := fun _ => rfl
  error := judgeCode_eq_judge _
  plain := ⟨rfl, rfl, rfl⟩
  recased := by
    intro s t extra' hst hextra
    obtain ⟨hforth, hback⟩ := exists_recased hextra
    exact judgeState_congr
      ⟨fun h => h.of_toUpper_eq hst.toUpper_eq.symm hback,
        fun h => h.of_toUpper_eq hst.toUpper_eq hforth⟩
  rearranged := by
    intro extra' hmem s
    exact judgeState_congr
      ⟨fun h => h.of_toUpper_eq rfl fun code hcode => ⟨code, (hmem code).1 hcode, rfl⟩,
        fun h => h.of_toUpper_eq rfl fun code hcode => ⟨code, (hmem code).2 hcode, rfl⟩⟩
  extended := by
    intro more hmore s h
    rw [judgeState_eq_fatal_iff] at h ⊢
    exact h.of_toUpper_eq rfl fun code hcode => ⟨code, hmore code hcode, rfl⟩
  className := by
    intro s
    refine ⟨?_, SqlState.className_of_split⟩
    rintro front rest rfl hsize
    exact SqlState.className_append rest hsize

/-- A character that lies across the end of the second byte keeps the code whole. -/
example :
    (SqlState.mk "0é8").className = "0é8" ∧
      (withExtra ["hy000"]).judgeCode (some "0é8") = .nonFatal ∧
      (withExtra ["hy000"]).judgeCode (some "Hy000") = .fatal := by
  decide

end Classifier

end ConnLease
