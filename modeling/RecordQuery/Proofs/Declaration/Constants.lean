import RecordQuery.Proofs.Declaration.Members
import RecordQuery.Proofs.Text.Ascii

/-!
# Names of constants

A name consists of words: it is cut at its separators, and between a small letter and a capital. The
constant of a member is the words of its name in capitals, joined by underscores, so that two members
have the same constant exactly if their names have the same words. A declaration may have such
members, as it compares whole names; it has none if the words are joined alike in all names.
-/

namespace RecordQuery

open Text

def isSeparator (c : Char) : Bool := c == '_' || c == '-' || c == '.'

/-- A small letter ends a word where a capital follows. -/
def endsWord (c : Char) (next : List Char) : Bool :=
  !isUppercase c && isLowercase c && next.head?.any isUppercase

def wordChars : List Char → List (List Char)
  | [] => [[]]
  | c :: cs =>
    if isSeparator c then [] :: wordChars cs
    else if endsWord c cs then [c] :: wordChars cs
    else (wordChars cs).modifyHead (c :: ·)

/-- The words of a name; there is an empty one between two separators. -/
def words (name : String) : List String := (wordChars name.toList).map String.ofList

/-- Word by word the names are the same. -/
def SameWords (a b : String) : Prop :=
  List.Forall₂ (fun v w => sameName v w = true) (words a) (words b)

instance (a b : String) : Decidable (SameWords a b) :=
  inferInstanceAs (Decidable (List.Forall₂ _ _ _))

/-- The name is its words with the mark between each two, as `""` in camel case or `"_"` in snake
case. -/
def JoinedBy (mark name : String) : Prop := mark.intercalate (words name) = name

instance (mark name : String) : Decidable (JoinedBy mark name) :=
  inferInstanceAs (Decidable (_ = _))

theorem exists_cons_wordChars (cs : List Char) : ∃ word rest, wordChars cs = word :: rest := by
  induction cs with
  | nil => exact ⟨[], [], rfl⟩
  | cons c cs ih =>
    obtain ⟨word, rest, hwords⟩ := ih
    rw [wordChars, hwords]
    split
    · exact ⟨[], word :: rest, rfl⟩
    · split
      · exact ⟨[c], word :: rest, rfl⟩
      · exact ⟨c :: word, rest, rfl⟩

theorem isSeparator_of_mem_wordChars {cs word : List Char} (hword : word ∈ wordChars cs) :
    ∀ c ∈ word, isSeparator c = false := by
  induction cs generalizing word with
  | nil =>
    obtain rfl := List.mem_singleton.1 hword
    exact List.forall_mem_nil _
  | cons c cs ih =>
    rw [wordChars] at hword
    split at hword
    · rcases List.mem_cons.1 hword with rfl | hword
      · exact List.forall_mem_nil _
      · exact ih hword
    · next hseparator =>
      have hc : isSeparator c = false := Bool.eq_false_iff.2 hseparator
      split at hword
      · rcases List.mem_cons.1 hword with rfl | hword
        · exact List.forall_mem_singleton.2 hc
        · exact ih hword
      · obtain ⟨first, rest, hwords⟩ := exists_cons_wordChars cs
        rw [hwords, List.modifyHead_cons] at hword
        rcases List.mem_cons.1 hword with rfl | hword
        · refine List.forall_mem_cons.2 ⟨hc, ih ?_⟩
          rw [hwords]
          exact List.mem_cons_self
        · apply ih
          rw [hwords]
          exact List.mem_cons_of_mem _ hword

theorem toUpper_of_isUppercase {c : Char} (h : isUppercase c = true) : c.toUpper = c := by
  have hsmall : ∀ n < 26, isUppercase (Char.ofNat (97 + n)) = false := by decide +kernel
  rw [← Char.toNat_inj, toNat_toUpper, if_neg]
  rintro ⟨hfirst, hlast⟩
  have hc := hsmall (c.toNat - 97) (by omega)
  rw [Nat.add_sub_cancel' hfirst, Char.ofNat_toNat, h] at hc
  cases hc

theorem isSeparator_of_isUppercase {c : Char} (h : isUppercase c = true) :
    isSeparator c = false := by
  rw [Bool.eq_false_iff]
  intro hseparator
  simp only [isSeparator, Bool.or_eq_true, beq_iff_eq] at hseparator
  have hnone : isUppercase '_' = false ∧ isUppercase '-' = false ∧ isUppercase '.' = false := by
    decide +kernel
  rcases hseparator with (rfl | rfl) | rfl
  · exact Bool.noConfusion (hnone.1.symm.trans h)
  · exact Bool.noConfusion (hnone.2.1.symm.trans h)
  · exact Bool.noConfusion (hnone.2.2.symm.trans h)

/-- That a small letter came before is looked at only where a capital follows. -/
theorem constantChars_true (cs : List Char) :
    constantChars true cs =
      (if cs.head?.any isUppercase then ['_'] else []) ++ constantChars false cs := by
  cases cs with
  | nil => rfl
  | cons c cs =>
    rw [constantChars, constantChars, List.head?_cons, Option.any_some]
    split <;> simp

/-- The words in capitals, joined by underscores. -/
theorem constantChars_eq (cs : List Char) :
    constantChars false cs = List.intercalate ['_'] ((wordChars cs).map (List.map Char.toUpper)) := by
  induction cs with
  | nil => simp [constantChars, wordChars]
  | cons c cs ih =>
    obtain ⟨word, rest, hwords⟩ := exists_cons_wordChars cs
    have hjoin (first : List Char) :
        List.intercalate ['_'] ((first :: wordChars cs).map (List.map Char.toUpper)) =
          first.map Char.toUpper ++ '_' :: constantChars false cs := by
      rw [ih, hwords]
      simp [List.intercalate_cons_cons]
    have hgrow : List.intercalate ['_'] (((wordChars cs).modifyHead (c :: ·)).map
        (List.map Char.toUpper)) = c.toUpper :: constantChars false cs := by
      rw [ih, hwords]
      cases rest <;> simp [List.intercalate_cons_cons]
    have hseparator : (c = '_' ∨ c = '-' ∨ c = '.') ↔ isSeparator c = true := by
      simp [isSeparator, or_assoc]
    rw [constantChars, wordChars]
    split
    · next hupper =>
      have hends : endsWord c cs = false := by simp [endsWord, hupper]
      simp only [isSeparator_of_isUppercase hupper, hends, Bool.false_eq_true, if_false]
      rw [hgrow, toUpper_of_isUppercase hupper]
      rfl
    · next hupper =>
      split
      · next hc =>
        rw [if_pos (hseparator.1 hc), hjoin]
        rfl
      · next hc =>
        rw [if_neg (mt hseparator.2 hc)]
        have hends : endsWord c cs = (isLowercase c && cs.head?.any isUppercase) := by
          simp [endsWord, hupper]
        rw [hends]
        cases isLowercase c with
        | false => rw [Bool.false_and, if_neg Bool.false_ne_true, hgrow]
        | true =>
          rw [Bool.true_and, constantChars_true]
          split
          · rw [hjoin]
            rfl
          · rw [hgrow]
            rfl

theorem map_toUpper_eq_iff {cs ds : List Char} :
    cs.map Char.toUpper = ds.map Char.toUpper ↔
      sameName (String.ofList cs) (String.ofList ds) = true := by
  rw [sameName_iff, asciiKey, asciiKey, String.toList_ofList, String.toList_ofList,
    map_eq_map_iff_forall₂, map_eq_map_iff_forall₂]
  simp only [toUpper_eq_toUpper_iff]

namespace Member

theorem toList_constantName (member : Member) :
    member.constantName.toList =
      List.intercalate ['_'] ((wordChars member.name.toList).map (List.map Char.toUpper)) := by
  rw [constantName, String.toList_ofList, constantChars_eq]

/-- The words are read back from the constant, in capitals. -/
theorem splitOn_constantName (member : Member) :
    member.constantName.toList.splitOn '_' =
      (wordChars member.name.toList).map (List.map Char.toUpper) := by
  rw [toList_constantName]
  apply List.splitOn_intercalate
  · intro word hword hmem
    obtain ⟨plain, hplain, rfl⟩ := List.mem_map.1 hword
    obtain ⟨c, hc, hunderscore⟩ := List.mem_map.1 hmem
    obtain rfl := (toUpper_eq_iff (by decide)).1 hunderscore
    cases isSeparator_of_mem_wordChars hplain '_' hc
  · obtain ⟨word, rest, hwords⟩ := exists_cons_wordChars member.name.toList
    rw [hwords]
    exact List.cons_ne_nil _ _

theorem constantName_eq_iff_map {a b : Member} :
    a.constantName = b.constantName ↔
      (wordChars a.name.toList).map (List.map Char.toUpper) =
        (wordChars b.name.toList).map (List.map Char.toUpper) := by
  constructor
  · intro h
    rw [← splitOn_constantName, ← splitOn_constantName, h]
  · intro h
    rw [← String.toList_inj, toList_constantName, toList_constantName, h]

/-- Two members have the same constant if and only if their names have the same words. -/
theorem constantName_eq_iff {a b : Member} :
    a.constantName = b.constantName ↔ SameWords a.name b.name := by
  rw [constantName_eq_iff_map, SameWords, words, words, List.forall₂_map_left_iff,
    List.forall₂_map_right_iff, map_eq_map_iff_forall₂]
  simp only [map_toUpper_eq_iff]

end Member

theorem map_intercalate {α β : Type} (f : α → β) (mark : List α) (parts : List (List α)) :
    (mark.intercalate parts).map f = (mark.map f).intercalate (parts.map (List.map f)) := by
  induction parts with
  | nil => rfl
  | cons part parts ih =>
    cases parts with
    | nil => simp
    | cons next parts =>
      rw [List.intercalate_cons_cons, List.map_append, List.map_append, ih]
      simp [List.intercalate_cons_cons]

theorem sameName_of_joinedBy {mark a b : String} (ha : JoinedBy mark a) (hb : JoinedBy mark b)
    (h : SameWords a b) : sameName a b = true := by
  have hkey {name : String} (hname : JoinedBy mark name) :
      asciiKey name = (asciiKey mark).intercalate ((words name).map asciiKey) := by
    rw [asciiKey, ← hname, String.toList_intercalate, map_intercalate, hname, List.map_map]
    rfl
  have hwords : (words a).map asciiKey = (words b).map asciiKey := by
    rw [map_eq_map_iff_forall₂]
    exact h.imp fun _ _ => sameName_iff.1
  rw [sameName_iff, hkey ha, hkey hb, hwords]

namespace Declaration

variable {declaration : Declaration} {members : List Member}

/-- The constants of the members are pairwise different if and only if no two names have the same
words. In a declaration that is accepted they are, as long as the words are joined by the same mark in
all names. -/
theorem nodup_constantName (h : declaration.members = .ok members) :
    ((members.map Member.constantName).Nodup ↔
      members.Pairwise fun a b => ¬ SameWords a.name b.name) ∧
    ∀ mark, (∀ member ∈ members, JoinedBy mark member.name) →
      (members.map Member.constantName).Nodup := by
  have hiff : (members.map Member.constantName).Nodup ↔
      members.Pairwise fun a b => ¬ SameWords a.name b.name := by
    rw [List.nodup_iff_pairwise_ne, List.pairwise_map]
    simp only [ne_eq, Member.constantName_eq_iff]
  refine ⟨hiff, ?_⟩
  intro mark joined
  rw [hiff]
  refine (distinct_of_members h).imp_of_mem ?_
  intro a b ha hb hapart hsame
  rw [sameName_of_joinedBy (joined a ha) (joined b hb) hsame] at hapart
  cases hapart

def invoiceFields : List Field := [
  { identifier := "orderId", type := .int },
  { identifier := "order_id", type := .string, attributes := [[.word "skip"]] },
  { identifier := "line2Total", type := .float },
  { identifier := "HTTPReferer", type := .string }]

def invoice : Declaration := ⟨"Invoice", false, .record invoiceFields⟩

def invoiceMembers : List Member := invoiceFields.filterMap Field.member?

theorem nodup_constantName_invoice :
    invoice.members = .ok invoiceMembers ∧
      (∀ member ∈ invoiceMembers, JoinedBy "" member.name) ∧
      (invoiceMembers.map Member.constantName).Nodup := by
  have hmembers : invoice.members = .ok invoiceMembers := rfl
  have joined : ∀ member ∈ invoiceMembers, JoinedBy "" member.name := by decide +kernel
  exact ⟨hmembers, joined, (nodup_constantName hmembers).2 "" joined⟩

def orderFields : List Field := [
  { identifier := "orderId", type := .int },
  { identifier := "order_id", type := .string }]

def order : Declaration := ⟨"Order", false, .record orderFields⟩

def orderMembers : List Member := orderFields.filterMap Field.member?

/-- In camel case and in snake case the same words make the same constant. -/
theorem not_nodup_constantName_order :
    order.members = .ok orderMembers ∧
      orderMembers.map Member.constantName = ["ORDER_ID", "ORDER_ID"] ∧
      ¬ (orderMembers.map Member.constantName).Nodup := by
  have hconstants : orderMembers.map Member.constantName = ["ORDER_ID", "ORDER_ID"] := by
    decide +kernel
  refine ⟨rfl, hconstants, ?_⟩
  rw [hconstants]
  decide

end Declaration

end RecordQuery
