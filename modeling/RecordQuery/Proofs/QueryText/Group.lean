import RecordQuery.QueryText.Group

/-!
# Balanced texts

`depthAfter` counts the parentheses that are open after a text. A text is balanced if it closes what
it opens and nothing else; put in parentheses it is a group, and the group ends there whatever
follows.
-/

namespace RecordQuery.QueryText

/-- The parentheses that are open after the text when `depth` are open before it, unless one is
closed that was never opened. -/
def depthAfter (depth : Nat) : List Char → Option Nat
  | [] => some depth
  | c :: cs =>
    if c = '(' then depthAfter (depth + 1) cs
    else if c = ')' then
      match depth with
      | 0 => none
      | depth + 1 => depthAfter depth cs
    else depthAfter depth cs

@[simp] theorem depthAfter_open (depth : Nat) (cs : List Char) :
    depthAfter depth ('(' :: cs) = depthAfter (depth + 1) cs := by
  simp [depthAfter]

@[simp] theorem depthAfter_close (depth : Nat) (cs : List Char) :
    depthAfter (depth + 1) (')' :: cs) = depthAfter depth cs := by
  simp [depthAfter]

theorem depthAfter_cons_of_ne {c : Char} (hopen : c ≠ '(') (hclose : c ≠ ')') (depth : Nat)
    (cs : List Char) : depthAfter depth (c :: cs) = depthAfter depth cs := by
  simp [depthAfter, hopen, hclose]

theorem depthAfter_append (depth : Nat) (cs ds : List Char) :
    depthAfter depth (cs ++ ds) =
      (depthAfter depth cs).bind fun inside => depthAfter inside ds := by
  fun_induction depthAfter depth cs <;> simp_all [depthAfter]

theorem depthAfter_add {depth inside : Nat} {cs : List Char} (h : depthAfter depth cs = some inside)
    (outer : Nat) : depthAfter (depth + outer) cs = some (inside + outer) := by
  fun_induction depthAfter depth cs generalizing inside <;>
    simp_all [depthAfter, Nat.add_right_comm]

theorem depthAfter_of_notMem {cs : List Char} (hopen : '(' ∉ cs) (hclose : ')' ∉ cs) (depth : Nat) :
    depthAfter depth cs = some depth := by
  induction cs with
  | nil => rfl
  | cons c cs ih =>
    rw [List.mem_cons, not_or] at hopen hclose
    rw [depthAfter_cons_of_ne (Ne.symm hopen.1) (Ne.symm hclose.1), ih hopen.2 hclose.2]

theorem forall_prefix_cons_iff {c : Char} {cs : List Char} {P : List Char → Prop} :
    (∀ p, p <+: c :: cs → P p) ↔ P [] ∧ ∀ p, p <+: cs → P (c :: p) := by
  constructor
  · intro h
    exact ⟨h [] List.nil_prefix, fun p hp => h _ (List.cons_prefix_cons.2 ⟨rfl, hp⟩)⟩
  · rintro ⟨hnil, hcons⟩ p hp
    rcases List.prefix_cons_iff.1 hp with rfl | ⟨rest, rfl, hrest⟩
    · exact hnil
    · exact hcons rest hrest

/-- The depth after a text is what it opens less what it closes, unless a beginning of it closes
too much. -/
theorem depthAfter_eq_some_iff {depth inside : Nat} {cs : List Char} :
    depthAfter depth cs = some inside ↔
      (∀ p, p <+: cs → p.count ')' ≤ depth + p.count '(') ∧
        inside + cs.count ')' = depth + cs.count '(' := by
  induction cs generalizing depth with
  | nil => simp [depthAfter, eq_comm]
  | cons c cs ih =>
    rw [forall_prefix_cons_iff]
    by_cases hopen : c = '('
    · subst hopen
      rw [depthAfter_open, ih]
      simp [Nat.add_right_comm, Nat.add_assoc]
    by_cases hclose : c = ')'
    · subst hclose
      cases depth with
      | zero =>
        constructor
        · intro h
          cases h
        · rintro ⟨⟨-, h⟩, -⟩
          simpa using h [] List.nil_prefix
      | succ depth =>
        rw [depthAfter_close, ih]
        simp [Nat.add_right_comm depth 1, ← Nat.add_assoc]
    · rw [depthAfter_cons_of_ne hopen hclose, ih]
      simp [hopen, hclose]

@[simp] theorem closeOffset_open (depth : Nat) (cs : List Char) :
    closeOffset depth ('(' :: cs) = (closeOffset (depth + 1) cs).map (· + 1) := by
  simp [closeOffset]

@[simp] theorem closeOffset_close (cs : List Char) : closeOffset 1 (')' :: cs) = some 0 := by
  simp [closeOffset]

@[simp] theorem closeOffset_close_inside (depth : Nat) (cs : List Char) :
    closeOffset (depth + 2) (')' :: cs) = (closeOffset (depth + 1) cs).map (· + 1) := by
  simp [closeOffset]

theorem closeOffset_cons_of_ne {c : Char} (hopen : c ≠ '(') (hclose : c ≠ ')') (depth : Nat)
    (cs : List Char) : closeOffset depth (c :: cs) = (closeOffset depth cs).map (· + 1) := by
  simp [closeOffset, hopen, hclose]

/-- What closes a text is looked for after the text itself, for as many as it leaves open. -/
theorem closeOffset_append {depth inside : Nat} {cs : List Char}
    (h : depthAfter depth cs = some inside) (rest : List Char) :
    closeOffset (depth + 1) (cs ++ rest) =
      (closeOffset (inside + 1) rest).map (cs.length + ·) := by
  induction cs generalizing depth with
  | nil =>
    obtain rfl := Option.some.inj h
    simp
  | cons c cs ih =>
    have shift (offset : Option Nat) :
        (offset.map (cs.length + ·)).map (· + 1) = offset.map ((c :: cs).length + ·) := by
      rw [Option.map_map, List.length_cons]
      exact congrArg (Option.map · offset) (funext fun _ => Nat.add_right_comm ..)
    rw [List.cons_append]
    by_cases hopen : c = '('
    · subst hopen
      rw [depthAfter_open] at h
      rw [closeOffset_open, ih h, shift]
    by_cases hclose : c = ')'
    · subst hclose
      cases depth with
      | zero => cases h
      | succ depth =>
        rw [depthAfter_close] at h
        rw [closeOffset_close_inside, ih h, shift]
    · rw [depthAfter_cons_of_ne hopen hclose] at h
      rw [closeOffset_cons_of_ne hopen hclose, ih h, shift]

/-- Up to the parenthesis that closes it, a text opens as many as it closes. -/
theorem depthAfter_of_closeOffset {depth i : Nat} {cs : List Char}
    (h : closeOffset (depth + 1) cs = some i) : depthAfter depth (cs.take i) = some 0 := by
  induction cs generalizing depth i with
  | nil => cases h
  | cons c cs ih =>
    by_cases hopen : c = '('
    · subst hopen
      rw [closeOffset_open] at h
      obtain ⟨j, hj, rfl⟩ := Option.map_eq_some_iff.1 h
      rw [List.take_succ_cons, depthAfter_open, ih hj]
    by_cases hclose : c = ')'
    · subst hclose
      cases depth with
      | zero =>
        rw [closeOffset_close] at h
        obtain rfl := Option.some.inj h
        rfl
      | succ depth =>
        rw [closeOffset_close_inside] at h
        obtain ⟨j, hj, rfl⟩ := Option.map_eq_some_iff.1 h
        rw [List.take_succ_cons, depthAfter_close, ih hj]
    · rw [closeOffset_cons_of_ne hopen hclose] at h
      obtain ⟨j, hj, rfl⟩ := Option.map_eq_some_iff.1 h
      rw [List.take_succ_cons, depthAfter_cons_of_ne hopen hclose, ih hj]

/-- The parentheses of the text match. -/
def Balanced (cs : List Char) : Prop := depthAfter 0 cs = some 0

instance (cs : List Char) : Decidable (Balanced cs) :=
  inferInstanceAs (Decidable (depthAfter 0 cs = some 0))

/-- No beginning of a balanced text closes more than it opens, and the whole closes all. -/
theorem balanced_iff_count {cs : List Char} :
    Balanced cs ↔ (∀ p, p <+: cs → p.count ')' ≤ p.count '(') ∧ cs.count ')' = cs.count '(' := by
  simp [Balanced, depthAfter_eq_some_iff]

namespace Balanced

theorem depthAfter_eq {cs : List Char} (h : Balanced cs) (depth : Nat) :
    depthAfter depth cs = some depth := by
  simpa using depthAfter_add h depth

theorem nil : Balanced [] := rfl

theorem of_notMem {cs : List Char} (hopen : '(' ∉ cs) (hclose : ')' ∉ cs) : Balanced cs :=
  depthAfter_of_notMem hopen hclose 0

theorem append {cs ds : List Char} (hcs : Balanced cs) (hds : Balanced ds) :
    Balanced (cs ++ ds) := by
  rw [Balanced, depthAfter_append, hcs, Option.bind_some, hds]

theorem parenthesised {cs : List Char} (h : Balanced cs) : Balanced ('(' :: cs ++ [')']) := by
  rw [Balanced, List.cons_append, depthAfter_open, depthAfter_append, h.depthAfter_eq]
  exact depthAfter_close 0 []

end Balanced

theorem splitGroup?_of_balanced {inner : List Char} (h : Balanced inner) (rest : List Char) :
    splitGroup? ('(' :: inner ++ ')' :: rest) = some (inner, rest) := by
  have hclose : closeOffset 1 (inner ++ ')' :: rest) = some inner.length := by
    rw [closeOffset_append h]
    simp
  simp [splitGroup?, closingParen, hclose]

theorem balanced_of_splitGroup? {text inner rest : List Char}
    (h : splitGroup? text = some (inner, rest)) : Balanced inner := by
  unfold splitGroup? at h
  split at h
  · next hhead =>
    obtain ⟨cs, rfl⟩ := List.head?_eq_some_iff.1 hhead
    obtain ⟨i, hi, h⟩ := Option.map_eq_some_iff.1 h
    obtain ⟨rfl, -⟩ := Prod.mk.inj h
    rw [closingParen, List.drop_zero, closeOffset_open] at hi
    simp only [Option.map_map, Option.map_eq_some_iff] at hi
    obtain ⟨j, hj, rfl⟩ := hi
    have htake : (('(' :: cs).take (0 + (j + 1))).drop 1 = cs.take j := by simp
    simp only [Function.comp, htake]
    exact depthAfter_of_closeOffset hj
  · cases h

/-- A group is a balanced text in parentheses. -/
theorem splitGroup?_eq_some_iff {text inner rest : List Char} :
    splitGroup? text = some (inner, rest) ↔
      Balanced inner ∧ text = '(' :: inner ++ ')' :: rest := by
  constructor
  · intro h
    exact ⟨balanced_of_splitGroup? h, eq_of_splitGroup? h⟩
  · rintro ⟨h, rfl⟩
    exact splitGroup?_of_balanced h rest

theorem splitGroup?_append {text inner rest : List Char} (h : splitGroup? text = some (inner, rest))
    (more : List Char) : splitGroup? (text ++ more) = some (inner, rest ++ more) := by
  obtain ⟨hinner, rfl⟩ := splitGroup?_eq_some_iff.1 h
  rw [splitGroup?_eq_some_iff]
  exact ⟨hinner, by simp⟩

end RecordQuery.QueryText
