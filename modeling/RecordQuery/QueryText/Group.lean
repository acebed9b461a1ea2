/-!
# Parenthesised groups

`closingParen` finds the parenthesis that closes the one at a given place: the first place at which
as many parentheses have been closed as opened.
-/

namespace RecordQuery.QueryText

/-- The distance to the parenthesis that closes the outermost of `depth` open ones, counting those
opened on the way. -/
def closeOffset (depth : Nat) : List Char → Option Nat
  | [] => none
  | c :: cs =>
    if c = '(' then (closeOffset (depth + 1) cs).map (· + 1)
    else if c = ')' then
      match depth with
      | 0 => none
      | 1 => some 0
      | depth + 2 => (closeOffset (depth + 1) cs).map (· + 1)
    else (closeOffset depth cs).map (· + 1)

def closingParen (text : List Char) (opening : Nat) : Option Nat :=
  (closeOffset 0 (text.drop opening)).map (opening + ·)

theorem getElem?_closeOffset {depth : Nat} {cs : List Char} {i : Nat}
    (h : closeOffset depth cs = some i) : cs[i]? = some ')' := by
  fun_induction closeOffset depth cs generalizing i with
  | case1 | case3 => cases h
  | case4 =>
    obtain rfl := Option.some.inj h
    rfl
  | case2 depth cs ih | case5 cs _ depth ih | case6 depth c cs _ _ ih =>
    obtain ⟨j, hj, rfl⟩ := Option.map_eq_some_iff.1 h
    rw [List.getElem?_cons_succ]
    exact ih hj

theorem closeOffset_lt {depth : Nat} {cs : List Char} {i : Nat}
    (h : closeOffset depth cs = some i) :
    i < cs.length := by
  obtain ⟨hlt, -⟩ := List.getElem?_eq_some_iff.1 (getElem?_closeOffset h)
  exact hlt

theorem closingParen_lt {text : List Char} {opening i : Nat}
    (h : closingParen text opening = some i) : i < text.length := by
  obtain ⟨j, hj, rfl⟩ := Option.map_eq_some_iff.1 h
  have := closeOffset_lt hj
  simp only [List.length_drop] at this
  omega

theorem getElem?_closingParen {text : List Char} {opening i : Nat}
    (h : closingParen text opening = some i) : text[i]? = some ')' := by
  obtain ⟨j, hj, rfl⟩ := Option.map_eq_some_iff.1 h
  simpa using getElem?_closeOffset hj

/-- The text between a parenthesis at the start and the one that closes it, and the text after. -/
def splitGroup? (text : List Char) : Option (List Char × List Char) :=
  if text.head? = some '(' then
    (closingParen text 0).map fun i => ((text.take i).drop 1, text.drop (i + 1))
  else none

theorem eq_of_splitGroup? {text inner rest : List Char}
    (h : splitGroup? text = some (inner, rest)) : text = '(' :: inner ++ ')' :: rest := by
  unfold splitGroup? at h
  split at h
  · next hhead =>
    obtain ⟨i, hi, h⟩ := Option.map_eq_some_iff.1 h
    obtain ⟨rfl, rfl⟩ := Prod.mk.inj h
    obtain ⟨cs, rfl⟩ := List.head?_eq_some_iff.1 hhead
    have hget := getElem?_closingParen hi
    match i with
    | 0 => simp at hget
    | i + 1 =>
      have hlt : i < cs.length := by simpa using closingParen_lt hi
      have hc : cs[i] = ')' := by simpa [List.getElem?_eq_getElem hlt] using hget
      have split := List.take_append_drop i cs
      rw [List.drop_eq_getElem_cons hlt, hc] at split
      simp [split]
  · simp at h

end RecordQuery.QueryText
