import Mathlib.Data.List.Basic
import RecordQuery.Collation

/-!
# Lowered texts

Lowering takes a character out of the rows of the case table: no row leads into another one, or to
the dotted capital I. So lowered characters stay as they are, and so does a lowered text, final sigmas
included. Only these tell the lowercase of a text from its letters lowered one by one.
-/

namespace RecordQuery.Text

/-- No character of a row is lowered to one of another row: the bounds are apart, or the rows
interleave. -/
def leavesRow (other row : Nat × Nat × Nat × Int) : Bool :=
  let low := (row.1 + row.2.2.2).toNat
  let high := (row.2.1 + row.2.2.2).toNat
  Nat.blt high other.1 || (Nat.blt other.2.1 low ||
    (Nat.beq other.2.2.1 2 && ((Nat.beq row.2.2.1 2 || Nat.beq row.1 row.2.1) &&
      Nat.beq ((low + other.1) % 2) 1)))

/-- The rows of the characters that lowering changes. -/
def loweredRows : List (Nat × Nat × Nat × Int) := (0x130, 0x130, 1, 0) :: CaseTable.lowercase

theorem leavesRow_of_mem : ∀ row ∈ CaseTable.lowercase, ∀ other ∈ loweredRows,
    leavesRow other row = true := by
  have hall : (CaseTable.lowercase.all fun row => loweredRows.all fun other =>
      leavesRow other row) = true := by decide +kernel
  simpa only [List.all_eq_true] using hall

theorem nonneg_of_mem : ∀ row ∈ CaseTable.lowercase, 0 ≤ (row.1 : Int) + row.2.2.2 := by
  decide +kernel

def InSomeRow (n : Nat) : Prop := ∃ row ∈ loweredRows, inRow n (row.1, row.2.1, row.2.2.1) = true

theorem inRow_iff {n first last stride : Nat} : inRow n (first, last, stride) = true ↔
    (first ≤ n ∧ n ≤ last) ∧ (n - first) % stride = 0 := by
  simp [inRow]

theorem not_inSomeRow_add {row : Nat × Nat × Nat × Int} {n : Nat} (hrow : row ∈ CaseTable.lowercase)
    (hn : inRow n (row.1, row.2.1, row.2.2.1) = true) :
    ¬ InSomeRow (n + row.2.2.2).toNat := by
  rintro ⟨other, hother, hm⟩
  have hpos := nonneg_of_mem row hrow
  have hleaves := leavesRow_of_mem row hrow other hother
  simp only [leavesRow, Bool.or_eq_true, Bool.and_eq_true, Nat.blt_eq, Nat.beq_eq] at hleaves
  obtain ⟨hbounds, hstride⟩ := inRow_iff.1 hn
  obtain ⟨hbounds', hstride'⟩ := inRow_iff.1 hm
  rcases hleaves with hbelow | habove | ⟨htwo, hstep | hsingle, hodd⟩
  · omega
  · omega
  · rw [htwo] at hstride'
    rw [hstep] at hstride
    omega
  · rw [htwo] at hstride'
    omega

theorem toLower_of_not_inSomeRow {c : Char} (h : ¬ InSomeRow c.toNat) : c.toLower = c := by
  refine dif_neg ?_
  rintro ⟨hfirst, hlast⟩
  exact h ⟨(0x41, 0x5a, 1, 32), List.mem_cons_of_mem _ List.mem_cons_self,
    inRow_iff.2 ⟨⟨hfirst, hlast⟩, Nat.mod_one _⟩⟩

theorem lowerChar_cases {c : Char} (h : ¬ c.toNat < 0x80) :
    lowerChar c = c ∨ ∃ row ∈ CaseTable.lowercase, inRow c.toNat (row.1, row.2.1, row.2.2.1) = true ∧
      lowerChar c = Char.ofNat (c.toNat + row.2.2.2).toNat := by
  rw [lowerChar, if_neg h]
  split
  · next hfind =>
    have hc := List.find?_some hfind
    exact .inr ⟨_, List.mem_of_find?_eq_some hfind, hc, rfl⟩
  · exact .inl rfl

theorem lowerChars_of_not_inSomeRow {c : Char} (h : ¬ InSomeRow c.toNat) : lowerChars c = [c] := by
  have hdotted : c ≠ 'İ' := by
    rintro rfl
    exact h ⟨_, List.mem_cons_self, by decide⟩
  rw [lowerChars, if_neg hdotted]
  by_cases hascii : c.toNat < 0x80
  · rw [lowerChar, if_pos hascii, toLower_of_not_inSomeRow h]
  · obtain hsame | ⟨row, hrow, hc, -⟩ := lowerChar_cases hascii
    · rw [hsame]
    · exact absurd ⟨row, List.mem_cons_of_mem _ hrow, hc⟩ h

theorem lowerChars_ascii {c : Char} (h : c.toNat < 0x80) : lowerChars c.toLower = [c.toLower] := by
  have hall : ∀ n < 0x80, lowerChars (Char.ofNat n).toLower = [(Char.ofNat n).toLower] := by decide
  have hc := hall c.toNat h
  rwa [Char.ofNat_toNat] at hc

theorem lowerChars_lowerChar {c : Char} (h : c ≠ 'İ') : lowerChars (lowerChar c) = [lowerChar c] := by
  by_cases hascii : c.toNat < 0x80
  · rw [lowerChar, if_pos hascii]
    exact lowerChars_ascii hascii
  · obtain hsame | ⟨row, hrow, hc, hlower⟩ := lowerChar_cases hascii
    · rw [hsame, lowerChars, if_neg h, hsame]
    · have hfree := not_inSomeRow_add hrow hc
      rw [hlower]
      by_cases hvalid : (c.toNat + row.2.2.2).toNat.isValidChar
      · apply lowerChars_of_not_inSomeRow
        rwa [Char.ofNat, dif_pos hvalid]
      · rw [Char.ofNat, dif_neg hvalid]
        decide

/-- A lowered character is its own lowercase. -/
theorem lowerChars_of_mem_lowerChars {c d : Char} (h : d ∈ lowerChars c) : lowerChars d = [d] := by
  rw [lowerChars] at h
  split at h
  · simp only [List.mem_cons, List.not_mem_nil, or_false] at h
    rcases h with rfl | rfl <;> decide +kernel
  · next hdotted =>
    rw [List.mem_singleton.1 h]
    exact lowerChars_lowerChar hdotted

theorem lowerChars_of_mem_lowerAfter {before cs : List Char} {d : Char}
    (h : d ∈ lowerAfter before cs) : lowerChars d = [d] := by
  induction cs generalizing before with
  | nil => cases h
  | cons c cs ih =>
    rw [lowerAfter, List.mem_append] at h
    rcases h with hc | hcs
    · split at hc
      · rw [List.mem_singleton.1 hc, lowerSigma]
        split <;> decide +kernel
      · exact lowerChars_of_mem_lowerChars hc
    · exact ih hcs

/-- The letters of a lowered text are lowered already. -/
theorem letterKey_lowercase (s : String) : letterKey (lowercase s) = (lowercase s).toList := by
  have hlowered : ∀ d ∈ (lowercase s).toList, lowerChars d = [d] := by
    intro d hd
    rw [lowercase, String.toList_ofList] at hd
    exact lowerChars_of_mem_lowerAfter hd
  rw [letterKey, List.flatMap_congr hlowered]
  exact List.flatMap_singleton' _

/-- Every capital sigma is lowered like one inside a word. -/
def NoFinalSigma (s : String) : Prop :=
  ∀ before after, s.toList = before ++ 'Σ' :: after → lowerSigma before.reverse after = 'σ'

theorem lowerAfter_eq_iff {before cs : List Char} :
    lowerAfter before cs = cs.flatMap lowerChars ↔
      ∀ inner after, cs = inner ++ 'Σ' :: after →
        lowerSigma (inner.reverse ++ before) after = 'σ' := by
  induction cs generalizing before with
  | nil => simp [lowerAfter]
  | cons c cs ih =>
    have hhead : lowerAfter before (c :: cs) = (c :: cs).flatMap lowerChars ↔
        (c = 'Σ' → lowerSigma before cs = 'σ') ∧
          lowerAfter (c :: before) cs = cs.flatMap lowerChars := by
      rw [lowerAfter, List.flatMap_cons]
      by_cases hc : c = 'Σ'
      · have hsigma : lowerChars 'Σ' = ['σ'] := by decide +kernel
        simp [hc, hsigma]
      · simp [hc]
    rw [hhead, ih]
    constructor
    · rintro ⟨hfirst, hrest⟩ inner after hsplit
      rcases List.cons_eq_append_iff.1 hsplit with ⟨rfl, hc⟩ | ⟨inner, rfl, hcs⟩
      · obtain ⟨rfl, rfl⟩ := List.cons.inj hc
        exact hfirst rfl
      · simpa using hrest inner after hcs
    · intro h
      refine ⟨?_, ?_⟩
      · rintro rfl
        exact h [] cs rfl
      · rintro inner after rfl
        simpa using h (c :: inner) after rfl

theorem noFinalSigma_iff {s : String} :
    NoFinalSigma s ↔ lowercase s = String.ofList (letterKey s) := by
  rw [lowercase, String.ofList_inj, letterKey, lowerAfter_eq_iff]
  simp only [NoFinalSigma, List.append_nil]

theorem noFinalSigma_of_notMem {s : String} (h : 'Σ' ∉ s.toList) : NoFinalSigma s :=
  noFinalSigma_iff.2 (lowercase_eq h)

/-- Lowers characters that stand between others, those before them listed in reverse. -/
def lowerBetween (before : List Char) : List Char → List Char → List Char
  | [], _ => []
  | c :: cs, after =>
    (if c = 'Σ' then [lowerSigma before (cs ++ after)] else lowerChars c) ++
      lowerBetween (c :: before) cs after

theorem lowerAfter_append (before cs after : List Char) :
    lowerAfter before (cs ++ after) =
      lowerBetween before cs after ++ lowerAfter (cs.reverse ++ before) after := by
  induction cs generalizing before with
  | nil => rfl
  | cons c cs ih =>
    rw [List.cons_append, lowerAfter, ih, lowerBetween, List.reverse_cons, List.append_assoc,
      List.append_assoc, List.singleton_append]

/-- Each capital sigma of the characters is final in its place if it is final in them alone. -/
def KeepsSigmas (before cs after : List Char) : Prop :=
  ∀ inner rest, cs = inner ++ 'Σ' :: rest →
    lowerSigma (inner.reverse ++ before) (rest ++ after) = lowerSigma inner.reverse rest

theorem lowerBetween_congr {before before' cs after after' : List Char}
    (h : ∀ inner rest, cs = inner ++ 'Σ' :: rest →
      lowerSigma (inner.reverse ++ before) (rest ++ after) =
        lowerSigma (inner.reverse ++ before') (rest ++ after')) :
    lowerBetween before cs after = lowerBetween before' cs after' := by
  induction cs generalizing before before' with
  | nil => rfl
  | cons c cs ih =>
    have hrest : lowerBetween (c :: before) cs after = lowerBetween (c :: before') cs after' := by
      apply ih
      rintro inner rest rfl
      simpa using h (c :: inner) rest rfl
    rw [lowerBetween, lowerBetween, hrest]
    by_cases hc : c = 'Σ'
    · have hhead : lowerSigma before (cs ++ after) = lowerSigma before' (cs ++ after') :=
        h [] cs (congrArg (· :: cs) hc)
      rw [if_pos hc, if_pos hc, hhead]
    · rw [if_neg hc, if_neg hc]

/-- A text that keeps its sigmas is lowered inside another one as it is alone. -/
theorem lowerBetween_of_keepsSigmas {before cs after : List Char}
    (h : KeepsSigmas before cs after) : lowerBetween before cs after = lowerAfter [] cs := by
  have halone := lowerAfter_append [] cs []
  rw [List.append_nil, lowerAfter, List.append_nil] at halone
  rw [halone]
  apply lowerBetween_congr
  intro inner rest hsplit
  rw [List.append_nil, List.append_nil]
  exact h inner rest hsplit

end RecordQuery.Text
