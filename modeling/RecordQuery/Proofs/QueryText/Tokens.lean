import RecordQuery.Proofs.QueryText.Reading
import RecordQuery.Proofs.QueryText.Segment

/-!
# Tokens key by key

What is found in a text is taken apart by keys before it is read, so only the order among the
occurrences of one key matters. Joined texts are read one after the other, key by key, if and only if
the first leaves no group open: a group that is open takes in what comes next, up to a parenthesis
that closes it or to the end.
-/

namespace RecordQuery.QueryText

variable {decoded : Bool} {text rest : List Char} {found more : List Occurrence}

/-- What is found in a text, each key on its own. -/
@[ext] structure Tokens where
  operations : List String
  properties : List String
  values : List RawValue
  sorts : List String
  offsets : List String
  counts : List String

instance : Append Tokens where
  append first second := {
    operations := first.operations ++ second.operations
    properties := first.properties ++ second.properties
    values := first.values ++ second.values
    sorts := first.sorts ++ second.sorts
    offsets := first.offsets ++ second.offsets
    counts := first.counts ++ second.counts }

def tokens (found : List Occurrence) : Tokens where
  operations := operationTokens found
  properties := propertyTokens found
  values := rawValues found
  sorts := sortTokens found
  offsets := offsetTokens found
  counts := countTokens found

theorem tokens_append (found more : List Occurrence) :
    tokens (found ++ more) = tokens found ++ tokens more := by
  simp only [tokens, operationTokens, propertyTokens, rawValues, sortTokens, offsetTokens,
    countTokens, List.filterMap_append]
  rfl

/-- A query is read from its tokens key by key. -/
theorem interpret_eq_of_tokens (h : tokens found = tokens more) (codes : OpCodes)
    (query : String) : interpret codes query found = interpret codes query more := by
  obtain ⟨operations, properties, values, sorts, offsets, counts⟩ := Tokens.mk.inj h
  rw [interpret, interpret, assemble, assemble, operations, properties, values, sorts, offsets,
    counts]

/-- No key has tokens in both. -/
structure Tokens.Apart (first second : Tokens) : Prop where
  operations : first.operations = [] ∨ second.operations = []
  properties : first.properties = [] ∨ second.properties = []
  values : first.values = [] ∨ second.values = []
  sorts : first.sorts = [] ∨ second.sorts = []
  offsets : first.offsets = [] ∨ second.offsets = []
  counts : first.counts = [] ∨ second.counts = []

theorem append_comm_of_eq_nil {Token : Type} {first second : List Token}
    (h : first = [] ∨ second = []) : first ++ second = second ++ first := by
  rcases h with rfl | rfl <;> simp

theorem Tokens.Apart.append_comm {first second : Tokens} (h : first.Apart second) :
    first ++ second = second ++ first := by
  apply Tokens.ext
  · exact append_comm_of_eq_nil h.operations
  · exact append_comm_of_eq_nil h.properties
  · exact append_comm_of_eq_nil h.values
  · exact append_comm_of_eq_nil h.sorts
  · exact append_comm_of_eq_nil h.offsets
  · exact append_comm_of_eq_nil h.counts

theorem splitGroup?_append_eq_none (h : splitGroup? text = none) (hclose : ')' ∉ rest) :
    splitGroup? (text ++ rest) = none := by
  by_contra hsome
  obtain ⟨⟨inner, after⟩, hgroup⟩ := Option.ne_none_iff_exists'.1 hsome
  obtain ⟨hinner, htext⟩ := splitGroup?_eq_some_iff.1 hgroup
  -- the closing parenthesis is not in the text that was added, so the group closed before
  rcases List.append_eq_append_iff.1 htext with ⟨part, -, hrest⟩ | ⟨_ | ⟨c, part⟩, htext, hrest⟩
  · exact hclose (by simp [hrest])
  · rw [List.nil_append] at hrest
    exact hclose (hrest ▸ List.mem_cons_self)
  · obtain ⟨rfl, -⟩ := List.cons.inj hrest
    rw [splitGroup?_eq_some_iff.2 ⟨hinner, htext⟩] at h
    cases h

theorem splitGroup?_of_unbalanced (h : (lexGroup decoded text).1 = .malformed .unbalanced) :
    splitGroup? text = none := by
  unfold lexGroup at h
  split at h
  · next hsplit => exact hsplit
  · split at h <;> cases h

/-- An open group takes in all of a text that does not close it. -/
theorem lexStep_append_of_open
    (h : (lexStep decoded text).1 = some (.value (.malformed .unbalanced))) (hclose : ')' ∉ rest) :
    lexStep decoded (text ++ rest) = (some (.value (.malformed .unbalanced)), []) := by
  rcases lexStep_cases decoded text with ⟨-, hstep⟩ | ⟨key, value, -, -, -, hstep⟩ |
    ⟨key, group, rfl, hkey, hequals, hname, hstep⟩
  · rw [hstep] at h
    cases h
  · rw [hstep] at h
    exact absurd h (ofKey?_ne_malformed _ _ _)
  · rw [hstep] at h
    have hopen : splitGroup? ('(' :: group) = none :=
      splitGroup?_of_unbalanced (Occurrence.value.inj (Option.some.inj h))
    have hgroup : lexGroup decoded ('(' :: (group ++ rest)) = (.malformed .unbalanced, []) := by
      rw [lexGroup, ← List.cons_append, splitGroup?_append_eq_none hopen hclose]
    rw [List.append_assoc, List.cons_append, List.cons_append, lexStep_group hkey hequals hname,
      hgroup]

theorem lex_append_of_open (h : .value (.malformed .unbalanced) ∈ lex decoded text)
    (hclose : ')' ∉ rest) : lex decoded (text ++ '&' :: rest) = lex decoded text := by
  fun_induction lex decoded text with
  | case1 => cases h
  | case2 text hne _ ih =>
    have hjoined : text ++ '&' :: rest ≠ [] := by simp
    rw [lex_of_ne_nil decoded hjoined]
    by_cases hopen : (lexStep decoded text).1 = some (.value (.malformed .unbalanced))
    · have hstep := lexStep_append_of_open hopen List.not_mem_nil
      rw [List.append_nil] at hstep
      rw [lexStep_append_of_open hopen (by simp [hclose]), hstep]
    · obtain ⟨hfirst, hrest⟩ := lexStep_append hopen rest
      rw [List.mem_append, Option.mem_toList] at h
      rw [hfirst, hrest, ih (h.resolve_left hopen)]

theorem lex_operation (decoded : Bool) : lex decoded ['o', '='] = [.operation ""] := by
  have hkey : decodeUnless decoded ['o'] = "o" := by
    cases decoded with
    | true => rfl
    | false =>
      rw [decodeUnless, if_neg Bool.false_ne_true, Text.Percent.decode_plain (by decide) (by decide)]
  have hvalue : decodeUnless decoded [] = "" := by
    cases decoded <;> rfl
  have hpair := @lex_pair decoded ['o'] [] (by decide) (by decide) (by decide) (by simp)
  rw [hkey, hvalue] at hpair
  exact hpair

/-- Joined texts are read one after the other, key by key and whatever the second one is, if and
only if the first leaves no group open. The order among different keys does not count. -/
theorem tokens_lex_append_iff (decoded : Bool) (text : List Char) :
    .malformed .unbalanced ∉ rawValues (lex decoded text) ↔
      ∀ rest, tokens (lex decoded (text ++ '&' :: rest)) =
          tokens (lex decoded text) ++ tokens (lex decoded rest) ∧
        ∀ found, tokens found = tokens (lex decoded text) ++ tokens (lex decoded rest) →
          ∀ codes query, interpret codes query (lex decoded (text ++ '&' :: rest)) =
            interpret codes query found := by
  rw [mem_rawValues]
  constructor
  · intro closed rest
    have hjoined : tokens (lex decoded (text ++ '&' :: rest)) =
        tokens (lex decoded text) ++ tokens (lex decoded rest) := by
      rw [lex_append closed, tokens_append]
    refine ⟨hjoined, fun found hfound codes query => ?_⟩
    apply interpret_eq_of_tokens
    exact hjoined.trans hfound.symm
  · intro law hopen
    -- an operation behind an open group is lost in it
    have hlost : lex decoded (text ++ '&' :: ['o', '=']) = lex decoded text :=
      lex_append_of_open hopen (by decide)
    have hlaw := congrArg Tokens.operations (law ['o', '=']).1
    rw [hlost, lex_operation] at hlaw
    exact List.cons_ne_nil _ _ (List.self_eq_append_right.1 hlaw)

/-- Texts that have no key in common can change places in a query. -/
theorem interpret_lex_comm {first second : List Char}
    (hfirst : .value (.malformed .unbalanced) ∉ lex decoded first)
    (hsecond : .value (.malformed .unbalanced) ∉ lex decoded second)
    (apart : (tokens (lex decoded first)).Apart (tokens (lex decoded second))) (codes : OpCodes)
    (query : String) :
    interpret codes query (lex decoded (first ++ '&' :: second)) =
      interpret codes query (lex decoded (second ++ '&' :: first)) := by
  apply interpret_eq_of_tokens
  rw [lex_append hfirst, lex_append hsecond, tokens_append, tokens_append]
  exact apart.append_comm

end RecordQuery.QueryText
