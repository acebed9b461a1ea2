import RecordQuery.Proofs.Caseless.Occurrences
import RecordQuery.Proofs.QueryText.Segment

/-!
# Two spellings of a query

A query may be spelled in another case wherever it does not hold a value: in keys, in the texts of
all segments but those of values, and in the queries that stand as groups behind operations on
collections. Both spellings are cut into the same segments, and what is found in them is alike.
-/

namespace RecordQuery

namespace QueryText

open Text

/-- The same text but for the case of ASCII letters. -/
def SameLetters (cs ds : List Char) : Prop := cs.map Char.toLower = ds.map Char.toLower

instance (cs ds : List Char) : Decidable (SameLetters cs ds) :=
  inferInstanceAs (Decidable (cs.map Char.toLower = ds.map Char.toLower))

namespace SameLetters

variable {cs ds : List Char}

theorem mem_iff {c : Char} (hc : c.isAlpha = false) (h : SameLetters cs ds) : c ∈ cs ↔ c ∈ ds := by
  have hmem (cs : List Char) : c ∈ cs.map Char.toLower ↔ c ∈ cs := by
    simp [toLower_eq_iff hc]
  rw [← hmem cs, h, hmem]

theorem exists_append {before after : List Char} (h : SameLetters (before ++ after) ds) :
    ∃ before' after', ds = before' ++ after' ∧ SameLetters before before' ∧
      SameLetters after after' := by
  rw [SameLetters, List.map_append] at h
  obtain ⟨before', after', hds, hbefore, hafter⟩ := List.map_eq_append_iff.1 h.symm
  exact ⟨before', after', hds, hbefore.symm, hafter.symm⟩

theorem exists_cons {c : Char} (hc : c.isAlpha = false) (h : SameLetters (c :: cs) ds) :
    ∃ ds', ds = c :: ds' ∧ SameLetters cs ds' := by
  rw [SameLetters, List.map_cons, toLower_of_not_isAlpha hc] at h
  obtain ⟨d, ds', hds, hd, hrest⟩ := List.map_eq_cons_iff.1 h.symm
  exact ⟨ds', by rw [hds, (toLower_eq_iff hc).1 hd], hrest.symm⟩

theorem toLower_ofList_eq (h : SameLetters cs ds) :
    (String.ofList cs).toLower = (String.ofList ds).toLower := by
  rw [toLower_ofList, toLower_ofList, h]

theorem toLower_decodeUnless (h : SameLetters cs ds) (decoded : Bool) :
    (decodeUnless decoded cs).toLower = (decodeUnless decoded ds).toLower := by
  cases decoded with
  | true => exact h.toLower_ofList_eq
  | false =>
    have hdecode := Percent.toLower_decode (String.ofList cs)
    rw [h.toLower_ofList_eq, Percent.toLower_decode] at hdecode
    exact hdecode.symm

theorem depthAfter_eq (h : SameLetters cs ds) (depth : Nat) :
    depthAfter depth cs = depthAfter depth ds := by
  have hlower (depth : Nat) (cs : List Char) :
      depthAfter depth (cs.map Char.toLower) = depthAfter depth cs := by
    induction cs generalizing depth with
    | nil => rfl
    | cons c cs ih =>
      rw [List.map_cons]
      by_cases hopen : c = '('
      · subst hopen
        rw [toLower_of_not_isAlpha (by decide), depthAfter_open, depthAfter_open, ih]
      by_cases hclose : c = ')'
      · subst hclose
        rw [toLower_of_not_isAlpha (by decide)]
        cases depth with
        | zero => rfl
        | succ depth => rw [depthAfter_close, depthAfter_close, ih]
      · rw [depthAfter_cons_of_ne (toLower_ne (by decide) hopen) (toLower_ne (by decide) hclose),
          depthAfter_cons_of_ne hopen hclose, ih]
  rw [← hlower, h, hlower]

theorem balanced_iff (h : SameLetters cs ds) : Balanced cs ↔ Balanced ds := by
  rw [Balanced, Balanced, h.depthAfter_eq]

theorem isFullyEncoded_eq (h : SameLetters cs ds) : isFullyEncoded cs = isFullyEncoded ds := by
  have hequals : cs.contains '=' = ds.contains '=' := by
    rw [Bool.eq_iff_iff, List.contains_iff_mem, List.contains_iff_mem, h.mem_iff (by decide)]
  rw [isFullyEncoded, isFullyEncoded, hequals, h]

theorem body {query query' : String} (h : SameLetters query.toList query'.toList) :
    SameLetters (body query) (body query') := by
  by_cases hmark : query.toList.head? = some '?'
  · obtain ⟨cs, hcs⟩ := List.head?_eq_some_iff.1 hmark
    rw [hcs] at h
    obtain ⟨ds, hds, hrest⟩ := h.exists_cons (by decide)
    rw [body_of_mark hcs, body_of_mark hds]
    exact hrest
  · have hmark' : query'.toList.head? ≠ some '?' := by
      intro hhead
      obtain ⟨ds, hds⟩ := List.head?_eq_some_iff.1 hhead
      rw [hds] at h
      obtain ⟨cs, hcs, -⟩ := exists_cons (by decide) h.symm
      exact hmark (by rw [hcs]; rfl)
    rw [body_of_head? hmark, body_of_head? hmark']
    exact h

theorem trimChars_isEmpty_eq (h : SameLetters cs ds) :
    (trimChars cs).isEmpty = (trimChars ds).isEmpty := by
  have hlower (cs : List Char) : (trimChars (cs.map Char.toLower)).isEmpty =
      (trimChars cs).isEmpty := by
    rw [trimChars_map_toLower, List.isEmpty_map]
  rw [← hlower cs, h, hlower]

theorem decodedBody_snd_eq {query query' : String} (h : SameLetters query.toList query'.toList)
    (decoded : Bool) : (decodedBody query decoded).2 = (decodedBody query' decoded).2 := by
  unfold decodedBody
  dsimp only
  rw [h.body.isFullyEncoded_eq]
  split <;> rfl

end SameLetters

/-- The segments of a query as they are lexed, each behind an ampersand. -/
def segmentsOf (query : String) (decoded : Bool) : List Char :=
  '&' :: (decodedBody query decoded).1

def operationsOf (query : String) (decoded : Bool) : List String :=
  operationTokens (occurrences query decoded)

/-- A key that is read as `v`, in two spellings. -/
structure ValueKey (decoded : Bool) (key key' : List Char) : Prop where
  ampersand : '&' ∉ key
  equals : '=' ∉ key
  name : sameName (decodeUnless decoded key) "v" = true
  letters : SameLetters key key'

/-- Two spellings of the segments from one place on. The operations are those that are still to be
matched with values. -/
inductive Respelled (codes : OpCodes) : Bool → List String → List Char → List Char → Prop
  | done {decoded : Bool} {operations : List String} : Respelled codes decoded operations [] []
  /-- Any letters of a segment that holds no value. -/
  | segment {decoded : Bool} {operations : List String} {part part' rest rest' : List Char}
    (ampersand : '&' ∉ part) (letters : SameLetters part part')
    (noValue : ∀ key value, part = key ++ '=' :: value → '=' ∉ key →
      sameName (decodeUnless decoded key) "v" = false)
    (after : Respelled codes decoded operations rest rest') :
    Respelled codes decoded operations ('&' :: (part ++ rest)) ('&' :: (part' ++ rest'))
  /-- The letters of the key of a value; the value stays, whether it is a literal, a group or no
  whole group. Only at the end of the text can a group be left open. -/
  | value {decoded : Bool} {operations : List String} {key key' value rest rest' : List Char}
    {raw : RawValue} (valueKey : ValueKey decoded key key')
    (read : lex decoded (key ++ '=' :: value) = [.value raw])
    (closed : raw = .malformed .unbalanced → rest = [])
    (after : Respelled codes decoded (operations.drop 1) rest rest') :
    Respelled codes decoded operations ('&' :: (key ++ '=' :: value ++ rest))
      ('&' :: (key' ++ '=' :: value ++ rest'))
  /-- Behind an operation on collections also letters in the group, which is a query again. -/
  | group {decoded : Bool} {operation : String} {operations : List String}
    {key key' inner inner' rest rest' : List Char} (valueKey : ValueKey decoded key key')
    (takes : takesQuery codes operation = true) (balanced : Balanced inner)
    (letters : SameLetters inner inner')
    (inside : Respelled codes (decodedBody (String.ofList inner) decoded).2
      (operationsOf (String.ofList inner) decoded) (segmentsOf (String.ofList inner) decoded)
      (segmentsOf (String.ofList inner') decoded))
    (after : Respelled codes decoded operations rest rest') :
    Respelled codes decoded (operation :: operations)
      ('&' :: (key ++ '=' :: ('(' :: inner ++ [')']) ++ rest))
      ('&' :: (key' ++ '=' :: ('(' :: inner' ++ [')']) ++ rest'))

/-- Two spellings of one query. -/
structure Respells (codes : OpCodes) (query query' : String) : Prop where
  letters : SameLetters query.toList query'.toList
  segments : Respelled codes (decodedBody query false).2 (operationsOf query false)
    (segmentsOf query false) (segmentsOf query' false)

variable {codes : OpCodes} {decoded : Bool} {operations : List String}

/-- The key of a segment stands before its first equals sign. -/
theorem noValue_of_key {key value : List Char} (equals : '=' ∉ key)
    (name : sameName (decodeUnless decoded key) "v" = false) :
    ∀ other after, key ++ '=' :: value = other ++ '=' :: after → '=' ∉ other →
      sameName (decodeUnless decoded other) "v" = false := by
  intro other after h hother
  have hcut := congrArg (cutChars '=') h
  rw [cutChars_append equals, cutChars_append hother] at hcut
  rwa [← (Prod.mk.inj hcut).1]

theorem ValueKey.refl {key : List Char} (ampersand : '&' ∉ key) (equals : '=' ∉ key)
    (name : sameName (decodeUnless decoded key) "v" = true) : ValueKey decoded key key :=
  ⟨ampersand, equals, name, rfl⟩

/-- Any letters of a segment with a key that is not that of a value. -/
theorem Respelled.pair {key value part' rest rest' : List Char}
    (name : sameName (decodeUnless decoded key) "v" = false) (equals : '=' ∉ key)
    (ampersand : '&' ∉ key ++ '=' :: value) (letters : SameLetters (key ++ '=' :: value) part')
    (after : Respelled codes decoded operations rest rest') :
    Respelled codes decoded operations ('&' :: (key ++ '=' :: value ++ rest))
      ('&' :: (part' ++ rest')) :=
  .segment ampersand letters (noValue_of_key equals name) after

/-- Texts of segments start with an ampersand, unless they are empty. -/
theorem Respelled.ends {text text' : List Char}
    (h : Respelled codes decoded operations text text') :
    (text = [] ∨ text.head? = some '&') ∧ (text' = [] ∨ text'.head? = some '&') := by
  cases h with
  | done => exact ⟨.inl rfl, .inl rfl⟩
  | segment | value | group => exact ⟨.inr rfl, .inr rfl⟩

theorem Respelled.eq_nil {text text' : List Char}
    (h : Respelled codes decoded operations text text') (hnil : text = []) : text' = [] := by
  cases h with
  | done => rfl
  | segment | value | group => cases hnil

theorem eq_segment_append (text : List Char) :
    ∃ tail, text = (cutChars '&' text).1 ++ tail ∧
      (tail = [] ∨ tail = '&' :: nextSegment text) := by
  rcases hcut : cutChars '&' text with ⟨segment, _ | rest⟩
  · exact ⟨[], by simp [eq_of_cutChars_eq_none hcut], .inl rfl⟩
  · exact ⟨'&' :: rest, append_of_cutChars hcut, .inr (by simp [nextSegment, hcut])⟩

/-- Every text is cut into segments, whatever they are. -/
theorem Respelled.refl (codes : OpCodes) (decoded : Bool) (operations : List String)
    (text : List Char) : Respelled codes decoded operations ('&' :: text) ('&' :: text) := by
  fun_induction lex decoded text generalizing operations with
  | case1 =>
    exact @Respelled.segment codes decoded operations [] [] [] [] (by simp) rfl (by simp) .done
  | case2 text hne _ ih =>
    have hnext (operations : List String) {tail : List Char}
        (htail : tail = [] ∨ tail = '&' :: (lexStep decoded text).2) :
        Respelled codes decoded operations tail tail := by
      rcases htail with rfl | rfl
      · exact .done
      · exact ih operations
    have hampersand := notMem_cutChars_fst '&' text
    obtain ⟨tail, htext, htail⟩ := eq_segment_append text
    rcases lexStep_cases decoded text with ⟨hequals, hstep⟩ |
      ⟨key, value, hsegment, hequals, hgroup, hstep⟩ |
      ⟨key, rest, hgroup, hkey, hequals, hname, hstep⟩
    · rw [hstep] at hnext
      have noValue : ∀ key value, (cutChars '&' text).1 = key ++ '=' :: value → '=' ∉ key →
          sameName (decodeUnless decoded key) "v" = false := by
        intro key value hpart
        rw [hpart] at hequals
        simp at hequals
      have hself := Respelled.segment hampersand rfl noValue (hnext operations htail)
      rwa [← htext] at hself
    · rw [hstep] at hnext
      rw [hsegment] at htext hampersand
      by_cases hname : sameName (decodeUnless decoded key) "v" = true
      · have hread : lex decoded (key ++ '=' :: value) =
            [.value (groupOf (decodeUnless decoded value))] := by
          rw [lex_segment hampersand hequals hgroup, ofKey?_of_sameName hname]
          rfl
        have hkey : '&' ∉ key := fun h => hampersand (List.mem_append_left _ h)
        have hself := Respelled.value (.refl hkey hequals hname) hread
          (fun hopen => absurd hopen (groupOf_ne_malformed _ _)) (hnext (operations.drop 1) htail)
        rwa [← htext] at hself
      · have hself := Respelled.pair (Bool.eq_false_iff.2 hname) hequals hampersand rfl
          (hnext operations htail)
        rwa [← htext] at hself
    · rw [hstep] at hnext
      obtain ⟨value, tail, hrest, hvalue, htail⟩ := lexGroup_cases decoded rest
      have hread := lex_of_lexGroup hkey hequals hname hvalue
      have hclosed : (lexGroup decoded ('(' :: rest)).1 = .malformed .unbalanced → tail = [] := by
        intro hopen
        rcases htail with htail | ⟨-, hclosed⟩
        · exact htail
        · exact absurd hopen hclosed
      have hwhole : text = key ++ '=' :: '(' :: value ++ tail := by
        rw [hgroup, hrest]
        simp
      have hself := Respelled.value (.refl hkey hequals hname) hread hclosed
        (hnext (operations.drop 1) (htail.imp_right And.left))
      rwa [← hwhole] at hself

/-- Every query is a spelling of itself. -/
theorem Respells.refl (codes : OpCodes) (query : String) : Respells codes query query :=
  ⟨rfl, Respelled.refl codes _ _ _⟩

end QueryText

end RecordQuery
