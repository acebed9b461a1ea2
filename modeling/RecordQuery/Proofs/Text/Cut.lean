import Mathlib.Data.List.TakeWhile
import RecordQuery.Text.Blank
import RecordQuery.Text.Cut

/-!
# Cutting, joining and trimming texts

Where a separator is not in the parts, cutting undoes joining. A text is trimmed to nothing if all
of it is blank.
-/

namespace RecordQuery.Text

theorem cutChars_append_sep (sep : Char) (cs ds : List Char) :
    cutChars sep (cs ++ sep :: ds) =
      ((cutChars sep cs).1, some ((cutChars sep cs).2.elim ds (· ++ sep :: ds))) := by
  induction cs with
  | nil => simp [cutChars]
  | cons c cs ih =>
    by_cases hc : c = sep
    · simp [cutChars, hc]
    · simp [cutChars, hc, ih]

theorem cutChars_append_of_notMem {sep : Char} {before : List Char} (h : sep ∉ before)
    (cs : List Char) :
    cutChars sep (before ++ cs) = (before ++ (cutChars sep cs).1, (cutChars sep cs).2) := by
  induction before with
  | nil => rfl
  | cons c before ih =>
    rw [List.mem_cons, not_or] at h
    rw [List.cons_append, cutChars, if_neg (Ne.symm h.1), ih h.2, List.cons_append]

theorem notMem_cutChars_fst (sep : Char) (cs : List Char) : sep ∉ (cutChars sep cs).1 := by
  induction cs with
  | nil => exact List.not_mem_nil
  | cons c cs ih =>
    rw [cutChars]
    split
    · exact List.not_mem_nil
    · next hc =>
      rw [List.mem_cons, not_or]
      exact ⟨Ne.symm hc, ih⟩

theorem eq_of_cutChars_eq_none {sep : Char} {cs before : List Char}
    (h : cutChars sep cs = (before, none)) : before = cs := by
  induction cs generalizing before with
  | nil => exact (Prod.mk.inj h).1.symm
  | cons c cs ih =>
    rw [cutChars] at h
    split at h
    · cases (Prod.mk.inj h).2
    · obtain ⟨rfl, hafter⟩ := Prod.mk.inj h
      exact congrArg (c :: ·) (ih (Prod.ext rfl hafter))

/-- What is cut off starts with the separator. -/
theorem eq_cutChars_fst_append (sep : Char) (cs : List Char) :
    ∃ tail, cs = (cutChars sep cs).1 ++ tail ∧ (tail = [] ∨ tail.head? = some sep) := by
  rcases hcut : cutChars sep cs with ⟨before, _ | after⟩
  · exact ⟨[], by simp [eq_of_cutChars_eq_none hcut], .inl rfl⟩
  · exact ⟨sep :: after, append_of_cutChars hcut, .inr rfl⟩

theorem cut_append {sep : Char} {before : String} (h : sep ∉ before.toList) (after : String) :
    cut sep (before ++ String.singleton sep ++ after) = (before, some after) := by
  have hchars : (before ++ String.singleton sep ++ after).toList =
      before.toList ++ sep :: after.toList := by
    simp
  rw [cut, hchars, cutChars_append h]
  simp

theorem splitAll_ne_nil (sep : Char) (s : String) : splitAll sep s ≠ [] := by
  rw [splitAll, ne_eq, List.map_eq_nil_iff]
  exact splitAllChars_ne_nil sep s.toList

theorem splitAll_of_notMem {sep : Char} {s : String} (h : sep ∉ s.toList) :
    splitAll sep s = [s] := by
  rw [splitAll, splitAllChars_of_notMem h, List.map_singleton, String.ofList_toList]

theorem splitAll_append {sep : Char} {part : String} (h : sep ∉ part.toList) (rest : String) :
    splitAll sep (part ++ String.singleton sep ++ rest) = part :: splitAll sep rest := by
  have hchars : (part ++ String.singleton sep ++ rest).toList =
      part.toList ++ sep :: rest.toList := by
    simp
  rw [splitAll, hchars, splitAllChars_append h, List.map_cons, String.ofList_toList, splitAll]

theorem splitAll_of_mem {sep : Char} {s : String} (h : sep ∈ s.toList) :
    ∃ first second rest, splitAll sep s = first :: second :: rest := by
  obtain ⟨before, after, hs, hbefore⟩ := List.eq_append_cons_of_mem h
  obtain ⟨second, rest, hafter⟩ : ∃ second rest, splitAll sep (String.ofList after) = second :: rest :=
    List.exists_cons_of_ne_nil (splitAll_ne_nil sep _)
  refine ⟨String.ofList before, second, rest, ?_⟩
  rw [splitAll, hs, splitAllChars_append hbefore, List.map_cons, ← hafter, splitAll,
    String.toList_ofList]

@[simp] theorem toList_join_singleton (sep : Char) (part : String) :
    (join sep [part]).toList = part.toList := by
  simp [join]

theorem toList_join_cons_cons (sep : Char) (part next : String) (parts : List String) :
    (join sep (part :: next :: parts)).toList =
      part.toList ++ sep :: (join sep (next :: parts)).toList := by
  simp [join]

theorem toList_join_cons (sep : Char) (part : String) (parts : List String) :
    ∃ more, (join sep (part :: parts)).toList = part.toList ++ more := by
  cases parts with
  | nil => exact ⟨[], by simp⟩
  | cons next parts => exact ⟨_, toList_join_cons_cons sep part next parts⟩

/-- Where the separator is not in the parts before it, a part is found again as it was joined. -/
theorem splitAll_join_append {sep : Char} {before : List String} {part : String}
    (hbefore : ∀ other ∈ before, sep ∉ other.toList) (hpart : sep ∉ part.toList)
    (after : List String) :
    ∃ rest, splitAll sep (join sep (before ++ part :: after)) = before ++ part :: rest := by
  have hnext (first next : String) (parts : List String) (hfirst : sep ∉ first.toList) :
      splitAll sep (join sep (first :: next :: parts)) =
        first :: splitAll sep (join sep (next :: parts)) := by
    rw [splitAll, toList_join_cons_cons, splitAllChars_append hfirst, List.map_cons,
      String.ofList_toList, splitAll]
  induction before with
  | nil =>
    cases after with
    | nil =>
      have halone : sep ∉ (join sep [part]).toList := by
        rwa [toList_join_singleton]
      have hjoin : join sep [part] = part := by
        rw [← String.toList_inj, toList_join_singleton]
      exact ⟨[], by rw [List.nil_append, splitAll_of_notMem halone, hjoin]⟩
    | cons next after => exact ⟨_, hnext part next after hpart⟩
  | cons first before ih =>
    obtain ⟨hfirst, hlater⟩ := List.forall_mem_cons.1 hbefore
    obtain ⟨rest, hrest⟩ := ih hlater
    refine ⟨rest, ?_⟩
    -- whatever comes next, the joined text goes on with the separator
    obtain ⟨next, parts, hparts⟩ : ∃ next parts, before ++ part :: after = next :: parts :=
      List.exists_cons_of_ne_nil (by simp)
    rw [List.cons_append, hparts, hnext first next parts hfirst, ← hparts, hrest]
    rfl

theorem trimStart_cons {c : Char} (h : isBlank c = false) (cs : List Char) :
    trimStart (c :: cs) = c :: cs := by
  rw [trimStart, List.dropWhile_cons_of_neg (Bool.eq_false_iff.1 h)]

theorem trimChars_of_forall {cs : List Char} (h : ∀ c ∈ cs, isBlank c = false) :
    trimChars cs = cs := by
  have hdrop (ds : List Char) (hds : ∀ c ∈ ds, isBlank c = false) : trimStart ds = ds := by
    cases ds with
    | nil => rfl
    | cons d ds => exact trimStart_cons (hds d List.mem_cons_self) ds
  have hreverse : trimStart cs.reverse = cs.reverse := by
    apply hdrop
    intro c hc
    exact h c (List.mem_reverse.1 hc)
  rw [trimChars, hdrop cs h, trimEnd, ← trimStart, hreverse, List.reverse_reverse]

theorem trimEnd_eq_nil_iff {cs : List Char} : trimEnd cs = [] ↔ ∀ c ∈ cs, isBlank c = true := by
  simp [trimEnd, List.dropWhile_eq_nil_iff]

theorem trimChars_eq_nil_iff {cs : List Char} : trimChars cs = [] ↔ ∀ c ∈ cs, isBlank c = true := by
  rw [trimChars, trimEnd_eq_nil_iff, trimStart]
  constructor
  · intro h c hc
    rw [← List.takeWhile_append_dropWhile (p := isBlank) (l := cs), List.mem_append] at hc
    rcases hc with hc | hc
    · exact List.mem_takeWhile_imp hc
    · exact h c hc
  · intro h c hc
    exact h c ((List.dropWhile_suffix _).mem hc)

end RecordQuery.Text
