import Mathlib.Order.Bounds.Basic
import RecordQuery.Proofs.QueryText.Group
import RecordQuery.Proofs.Text.Bytes

/-!
# The closing parenthesis

The parenthesis that closes the one at a given place stands at the first place by which as many have
been closed as opened from there on. No text before it or after it matters. Parentheses are ASCII, so
that a scan of the bytes of a text finds the same one.
-/

namespace RecordQuery.QueryText

open Text

variable {text : List Char} {opening i : Nat}

/-- The text from one place to another, both included. -/
def fromTo {α : Type} (text : List α) (first last : Nat) : List α := text.extract first (last + 1)

/-- The places by which as many have been closed as opened from `opening` on. -/
def evenPlaces {α : Type} [BEq α] (opener closer : α) (text : List α) (opening : Nat) : Set Nat :=
  {i | opening ≤ i ∧ i < text.length ∧
    (fromTo text opening i).count closer = (fromTo text opening i).count opener}

theorem fromTo_add {α : Type} (text : List α) (opening k : Nat) :
    fromTo text opening (opening + k) = (text.drop opening).take (k + 1) := by
  have hlength : opening + k + 1 - opening = k + 1 := by omega
  rw [fromTo, List.extract_eq_take_drop, hlength]

theorem fromTo_of_drop {inner rest : List Char}
    (h : text.drop opening = '(' :: (inner ++ ')' :: rest)) :
    fromTo text opening (opening + (inner.length + 1)) = '(' :: inner ++ [')'] := by
  have hgroup : '(' :: (inner ++ ')' :: rest) = ('(' :: inner ++ [')']) ++ rest := by simp
  rw [fromTo_add, h, hgroup, List.take_left' (by simp)]

theorem drop_of_opening (h : text[opening]? = some '(') :
    text.drop opening = '(' :: text.drop (opening + 1) := by
  obtain ⟨hlt, hc⟩ := List.getElem?_eq_some_iff.1 h
  rw [List.drop_eq_getElem_cons hlt, hc]

theorem closingParen_of_drop {rest : List Char} (h : text.drop opening = '(' :: rest) :
    closingParen text opening = (closeOffset 1 rest).map fun offset => opening + (offset + 1) := by
  rw [closingParen, h, closeOffset_open, Option.map_map]
  rfl

theorem closingParen_of_balanced {inner rest : List Char} (hinner : Balanced inner)
    (h : text.drop opening = '(' :: (inner ++ ')' :: rest)) :
    closingParen text opening = some (opening + (inner.length + 1)) := by
  rw [closingParen_of_drop h, closeOffset_append hinner, closeOffset_close]
  rfl

/-- What is found closes a balanced text. -/
theorem exists_balanced_of_closingParen (h : text[opening]? = some '(')
    (hclosing : closingParen text opening = some i) :
    ∃ inner rest, Balanced inner ∧ text.drop opening = '(' :: (inner ++ ')' :: rest) ∧
      i = opening + (inner.length + 1) := by
  rw [closingParen_of_drop (drop_of_opening h)] at hclosing
  obtain ⟨offset, hoffset, rfl⟩ := Option.map_eq_some_iff.1 hclosing
  obtain ⟨hlt, hc⟩ := List.getElem?_eq_some_iff.1 (getElem?_closeOffset hoffset)
  refine ⟨_, (text.drop (opening + 1)).drop (offset + 1), depthAfter_of_closeOffset hoffset, ?_, ?_⟩
  · rw [drop_of_opening h, ← hc, ← List.drop_eq_getElem_cons hlt, List.take_append_drop]
  · rw [List.length_take, Nat.min_eq_left (Nat.le_of_lt hlt)]

/-- As long as no more are closed than opened behind it, the opening parenthesis stays open. -/
theorem count_lt_of_open {rest : List Char} (h : text.drop opening = '(' :: rest) {k : Nat}
    (hopen : (rest.take k).count ')' ≤ (rest.take k).count '(') :
    (fromTo text opening (opening + k)).count ')' <
      (fromTo text opening (opening + k)).count '(' := by
  rw [fromTo_add, h, List.take_succ_cons, List.count_cons_of_ne (by decide), List.count_cons_self]
  exact Nat.lt_succ_of_le hopen

/-- The outermost parenthesis stays open if and only if the text closes only those inside it. -/
theorem closeOffset_eq_none_iff {depth : Nat} {cs : List Char} :
    closeOffset (depth + 1) cs = none ↔ ∃ inside, depthAfter depth cs = some inside := by
  induction cs generalizing depth with
  | nil => exact iff_of_true rfl ⟨depth, rfl⟩
  | cons c cs ih =>
    by_cases hopen : c = '('
    · subst hopen
      rw [closeOffset_open, Option.map_eq_none_iff, depthAfter_open, ih]
    by_cases hclose : c = ')'
    · subst hclose
      cases depth with
      | zero => simp [depthAfter]
      | succ depth => rw [closeOffset_close_inside, Option.map_eq_none_iff, depthAfter_close, ih]
    · rw [closeOffset_cons_of_ne hopen hclose, Option.map_eq_none_iff,
        depthAfter_cons_of_ne hopen hclose, ih]

/-- Before the place that closes it, the opening parenthesis is open. -/
theorem count_lt_of_closingParen (h : text[opening]? = some '(')
    (hclosing : closingParen text opening = some i) {j : Nat} (hle : opening ≤ j) (hlt : j < i) :
    (fromTo text opening j).count ')' < (fromTo text opening j).count '(' := by
  obtain ⟨inner, rest, hinner, hdrop, rfl⟩ := exists_balanced_of_closingParen h hclosing
  obtain ⟨k, rfl⟩ := Nat.exists_eq_add_of_le hle
  apply count_lt_of_open hdrop
  rw [List.take_append_of_le_length (by omega)]
  exact (balanced_iff_count.1 hinner).1 _ (List.take_prefix k inner)

theorem mem_evenPlaces_of_closingParen (h : text[opening]? = some '(')
    (hclosing : closingParen text opening = some i) : i ∈ evenPlaces '(' ')' text opening := by
  have hlt := closingParen_lt hclosing
  obtain ⟨inner, rest, hinner, hdrop, rfl⟩ := exists_balanced_of_closingParen h hclosing
  refine ⟨Nat.le_add_right _ _, hlt, ?_⟩
  rw [fromTo_of_drop hdrop]
  exact (balanced_iff_count.1 hinner.parenthesised).2

theorem isLeast_closingParen (h : text[opening]? = some '(')
    (hclosing : closingParen text opening = some i) :
    IsLeast (evenPlaces '(' ')' text opening) i := by
  refine ⟨mem_evenPlaces_of_closingParen h hclosing, ?_⟩
  rintro j ⟨hle, -, heven⟩
  by_contra hlt
  have := count_lt_of_closingParen h hclosing hle (Nat.lt_of_not_le hlt)
  omega

theorem closingParen_eq_none_iff (h : text[opening]? = some '(') :
    closingParen text opening = none ↔ evenPlaces '(' ')' text opening = ∅ := by
  constructor
  · intro hnone
    rw [closingParen_of_drop (drop_of_opening h), Option.map_eq_none_iff,
      closeOffset_eq_none_iff] at hnone
    obtain ⟨inside, hinside⟩ := hnone
    refine Set.eq_empty_of_forall_notMem ?_
    rintro j ⟨hle, -, heven⟩
    obtain ⟨k, rfl⟩ := Nat.exists_eq_add_of_le hle
    have hopen := (depthAfter_eq_some_iff.1 hinside).1 _ (List.take_prefix k _)
    have := count_lt_of_open (drop_of_opening h) (by simpa using hopen)
    omega
  · intro hempty
    refine Option.eq_none_iff_forall_ne_some.2 ?_
    intro j hclosing
    have hmem := mem_evenPlaces_of_closingParen h hclosing
    rw [hempty] at hmem
    exact hmem

theorem closingParen_eq_some_iff (h : text[opening]? = some '(') :
    closingParen text opening = some i ↔ IsLeast (evenPlaces '(' ')' text opening) i := by
  refine ⟨isLeast_closingParen h, ?_⟩
  intro hleast
  cases hclosing : closingParen text opening with
  | none =>
    rw [(closingParen_eq_none_iff h).1 hclosing] at hleast
    exact hleast.1.elim
  | some j => rw [(isLeast_closingParen h hclosing).unique hleast]

/-- The text up to the closing parenthesis decides, wherever it stands. -/
theorem closingParen_fromTo (h : text[opening]? = some '(')
    (hclosing : closingParen text opening = some i) (before after : List Char) :
    closingParen (before ++ fromTo text opening i ++ after) before.length =
      some (before.length + (i - opening)) := by
  obtain ⟨inner, rest, hinner, hdrop, rfl⟩ := exists_balanced_of_closingParen h hclosing
  have hplaced : (before ++ ('(' :: inner ++ [')']) ++ after).drop before.length =
      '(' :: (inner ++ ')' :: after) := by
    rw [List.append_assoc, List.drop_left]
    simp
  rw [Nat.add_sub_cancel_left, fromTo_of_drop hdrop]
  exact closingParen_of_balanced hinner hplaced

/-- Each byte from an opening parenthesis on belongs to a character from there on. -/
theorem exists_count_fromTo_utf8 {place : Nat} (hle : bytePlace text opening ≤ place)
    (hlt : place < (Percent.utf8 (String.ofList text)).length) :
    ∃ j, opening ≤ j ∧ j < text.length ∧ bytePlace text j ≤ place ∧ place < bytePlace text (j + 1) ∧
      ∀ b < 0x80, (fromTo (Percent.utf8 (String.ofList text)) (bytePlace text opening) place).count b =
        (fromTo text opening j).count (Char.ofNat b.toNat) := by
  have hsize : byteSize text = bytePlace text opening + byteSize (text.drop opening) := by
    rw [bytePlace, ← byteSize_append, List.take_append_drop]
  obtain ⟨behind, rfl⟩ := Nat.exists_eq_add_of_le hle
  rw [length_utf8_ofList, hsize] at hlt
  obtain ⟨k, hk, hkle, hklt, hcount⟩ := exists_count_take_utf8 (Nat.lt_of_add_lt_add_left hlt)
  rw [List.length_drop] at hk
  refine ⟨opening + k, Nat.le_add_right _ _, by omega, ?_, ?_, ?_⟩
  · rw [bytePlace_add]
    exact Nat.add_le_add_left hkle _
  · rw [Nat.add_assoc, bytePlace_add]
    exact Nat.add_lt_add_left hklt _
  · intro b hb
    rw [fromTo_add, fromTo_add, drop_utf8, hcount b hb]

/-- A byte by which as many are closed as opened belongs to a character at an even place. -/
theorem exists_even_of_mem_evenPlaces {place : Nat}
    (h : place ∈ evenPlaces 0x28 0x29 (Percent.utf8 (String.ofList text))
      (bytePlace text opening)) :
    ∃ j ∈ evenPlaces '(' ')' text opening, bytePlace text j ≤ place := by
  obtain ⟨hle, hlt, heven⟩ := h
  obtain ⟨j, hj, hjlt, hplace, -, hcount⟩ := exists_count_fromTo_utf8 hle hlt
  refine ⟨j, ⟨hj, hjlt, ?_⟩, hplace⟩
  rw [hcount 0x29 (by decide), hcount 0x28 (by decide)] at heven
  exact heven

theorem bytePlace_mem_evenPlaces (h : i ∈ evenPlaces '(' ')' text opening) :
    bytePlace text i ∈ evenPlaces 0x28 0x29 (Percent.utf8 (String.ofList text))
      (bytePlace text opening) := by
  obtain ⟨hle, hlt, heven⟩ := h
  have hbyte : bytePlace text i < (Percent.utf8 (String.ofList text)).length := by
    have hwhole : bytePlace text text.length = byteSize text := by
      rw [bytePlace, List.take_length]
    rw [length_utf8_ofList, ← hwhole]
    exact Nat.lt_of_lt_of_le (bytePlace_lt_succ hlt) (bytePlace_mono (Nat.succ_le_of_lt hlt))
  obtain ⟨j, -, hjlt, hjle, hltj, hcount⟩ := exists_count_fromTo_utf8 (bytePlace_mono hle) hbyte
  obtain rfl : j = i := by
    apply Nat.le_antisymm
    · exact Nat.le_of_lt_succ (lt_of_bytePlace_lt (Nat.lt_of_le_of_lt hjle (bytePlace_lt_succ hlt)))
    · exact Nat.le_of_lt_succ (lt_of_bytePlace_lt hltj)
  refine ⟨bytePlace_mono hle, hbyte, ?_⟩
  rw [hcount 0x29 (by decide), hcount 0x28 (by decide)]
  exact heven

/-- The least even place in characters is the least one in bytes. -/
theorem isLeast_bytePlace (h : IsLeast (evenPlaces '(' ')' text opening) i) :
    IsLeast (evenPlaces 0x28 0x29 (Percent.utf8 (String.ofList text)) (bytePlace text opening))
      (bytePlace text i) := by
  refine ⟨bytePlace_mem_evenPlaces h.1, ?_⟩
  intro place hplace
  obtain ⟨j, hj, hjle⟩ := exists_even_of_mem_evenPlaces hplace
  exact Nat.le_trans (bytePlace_mono (h.2 hj)) hjle

/-- The closing parenthesis stands at the first place by which as many are closed as opened, in
characters and in bytes, and is not found only if there is no such place. Up to there the opening one
is open, and the text in between decides on its own. -/
theorem closingParen_isLeast (h : text[opening]? = some '(') :
    (∀ i, closingParen text opening = some i ↔ IsLeast (evenPlaces '(' ')' text opening) i) ∧
    (∀ i, closingParen text opening = some i →
      text[i]? = some ')' ∧
      (∀ j, opening ≤ j → j < i →
        (fromTo text opening j).count ')' < (fromTo text opening j).count '(') ∧
      ∀ before after, closingParen (before ++ fromTo text opening i ++ after) before.length =
        some (before.length + (i - opening))) ∧
    (closingParen text opening = none ↔ evenPlaces '(' ')' text opening = ∅) ∧
    ∀ place, (closingParen text opening).map (bytePlace text) = some place ↔
      IsLeast (evenPlaces 0x28 0x29 (Percent.utf8 (String.ofList text)) (bytePlace text opening))
        place := by
  refine ⟨fun i => closingParen_eq_some_iff h, ?_, closingParen_eq_none_iff h, ?_⟩
  · intro i hclosing
    refine ⟨getElem?_closingParen hclosing, ?_, closingParen_fromTo h hclosing⟩
    intro j hle hlt
    exact count_lt_of_closingParen h hclosing hle hlt
  · intro place
    cases hclosing : closingParen text opening with
    | none =>
      rw [Option.map_none]
      refine iff_of_false (Option.some_ne_none place).symm ?_
      intro hleast
      obtain ⟨j, hj, -⟩ := exists_even_of_mem_evenPlaces hleast.1
      rw [(closingParen_eq_none_iff h).1 hclosing] at hj
      exact hj
    | some i =>
      have hleast := isLeast_bytePlace (isLeast_closingParen h hclosing)
      rw [Option.map_some, Option.some.injEq]
      constructor
      · rintro rfl
        exact hleast
      · exact hleast.unique

/-- Letters of two bytes, a group inside, and parentheses left open before and after it. -/
def overfull : List Char := "é(((ü)ß)x)v=(".toList

theorem closingParen_overfull :
    overfull[2]? = some '(' ∧ closingParen overfull 2 = some 7 ∧
      IsLeast (evenPlaces '(' ')' overfull 2) 7 ∧
      IsLeast (evenPlaces 0x28 0x29 (Percent.utf8 (String.ofList overfull)) 3) 10 ∧
      overfull[12]? = some '(' ∧ evenPlaces '(' ')' overfull 12 = ∅ := by
  have hsecond : overfull[2]? = some '(' := by decide
  have hlast : overfull[12]? = some '(' := by decide
  obtain ⟨hplace, -, -, hbyte⟩ := closingParen_isLeast hsecond
  obtain ⟨-, -, hnone, -⟩ := closingParen_isLeast hlast
  have hclosing : closingParen overfull 2 = some 7 := by decide
  refine ⟨hsecond, hclosing, (hplace 7).1 hclosing, (hbyte 10).1 ?_, hlast, hnone.1 (by decide)⟩
  rw [hclosing]
  rfl

end RecordQuery.QueryText
