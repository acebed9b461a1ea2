import RecordQuery.Proofs.QueryText.RoundTrip

/-!
# Nested queries

A balanced text in parentheses after an operation on collections is read as it would be on its own:
nothing around it changes what it asks for, and its failures are those of the whole.
-/

namespace RecordQuery

namespace QueryText

open Text

variable {codes : OpCodes}

/-- The tokens of one filter with a group, whatever stands in the group. -/
theorem lex_filter_group {operation property : String} (hoperation : PlainText operation)
    (hproperty : PlainText property) {inner : List Char} (balanced : Balanced inner) :
    lex false ((segment "o" operation).toList ++ '&' :: ((segment "p" property).toList ++
        '&' :: ('v' :: '=' :: ('(' :: inner ++ [')'])))) =
      [.operation operation, .property property,
        .value (.group (String.ofList inner) (decodeUnless false ('(' :: inner ++ [')']))
          false)] := by
  have hfirst : lex false (segment "o" operation).toList = [.operation operation] := by
    rw [lex_plain (by decide) hoperation]
    exact congrArg (fun token => [Occurrence.operation token]) (withoutSpaces_plain hoperation)
  have hsecond : lex false (segment "p" property).toList = [.property property] := by
    rw [lex_plain (by decide) hproperty]
    exact congrArg (fun token => [Occurrence.property token]) (withoutSpaces_plain hproperty)
  rw [lex_append (by simp [hfirst]), hfirst, lex_append (by simp [hsecond]), hsecond,
    lex_group balanced]
  rfl

/-- The canonical spelling of an operation is read in any case of its letters, and before all
codes. -/
theorem readOperation_any (query : String) :
    readOperation codes query "any" = .ok (.any, .andAlso) := by
  rw [readOperation]
  rfl

theorem readFilter_any_group (query whole : String)
    (nested : Except QueryError QueryOptions) :
    readFilter codes query ("any", "X", .group whole nested) =
      nested.map fun nested => { property := "X", value := .nested nested, operation := .any } := by
  have hproperty : readProperty query "X" = .ok ("X", false) := rfl
  rw [readFilter, readOperation_any, ok_bind]
  dsimp only
  rw [hproperty, ok_bind]
  cases nested <;> rfl

/-- A filter with a group asks for what the group asks for. -/
theorem assemble_any_group (query whole inner : String) :
    assemble codes query
        [.operation "any", .property "X", .value (.group inner whole false)]
        [.group whole (parseText codes inner false)] =
      (parseText codes inner false).map fun nested =>
        { filters := [{ property := "X", value := .nested nested, operation := .any }]
          sourceText := some query } := by
  have hfilters : [("any", "X", Argument.group whole (parseText codes inner false))].mapM
      (readFilter codes query) = (parseText codes inner false).map fun nested =>
        [{ property := "X", value := .nested nested, operation := .any }] := by
    rw [List.mapM_cons, readFilter_any_group]
    cases parseText codes inner false <;> rfl
  cases hinner : parseText codes inner false with
  | error e =>
    rw [hinner] at hfilters
    rw [assemble_of_counts rfl rfl]
    exact congrArg (· >>= _) hfilters
  | ok nested =>
    rw [hinner] at hfilters
    exact assemble_eq_ok rfl rfl hfilters rfl rfl

/-- A nested query is read exactly as it is on its own, and fails exactly as it does on its own. -/
theorem parse_any_group (codes : OpCodes) {t : String}
    (closes : ∀ p, p <+: t.toList → p.count ')' ≤ p.count '(')
    (all : t.toList.count ')' = t.toList.count '(') :
    parse codes ("o=any&p=X&v=(" ++ t ++ ")") =
      (parse codes t).map fun nested =>
        { filters := [{ property := "X", value := .nested nested, operation := .any }]
          sourceText := some ("o=any&p=X&v=(" ++ t ++ ")") } := by
  have htext : ("o=any&p=X&v=(" ++ t ++ ")").toList = (segment "o" "any").toList ++
      '&' :: ((segment "p" "X").toList ++ '&' :: ('v' :: '=' :: ('(' :: t.toList ++ [')']))) := by
    simp [segment]
  have hlex := @lex_filter_group "any" "X" (by decide) (by decide) _
    (balanced_iff_count.2 ⟨closes, all⟩)
  have hmark : 'o' ≠ '?' := by decide
  rw [parse, QueryOptions.parseText_of_lex codes htext hmark (by simp), htext, hlex,
    String.ofList_toList]
  exact assemble_any_group _ _ t

/-- A query with a mark in front, groups of its own and an encoded parenthesis. -/
def marked : String := "?o=all&p=Y&v=(o=eq&p=_&v=%29(x))&s=(b)"

theorem parse_any_group_marked :
    (∀ p, p <+: marked.toList → p.count ')' ≤ p.count '(') ∧
      marked.toList.count ')' = marked.toList.count '(' ∧
      parse {} "o=any&p=X&v=(?o=all&p=Y&v=(o=eq&p=_&v=%29(x))&s=(b))" =
        (parse {} marked).map fun nested =>
          { filters := [{ property := "X", value := .nested nested, operation := .any }]
            sourceText := some "o=any&p=X&v=(?o=all&p=Y&v=(o=eq&p=_&v=%29(x))&s=(b))" } := by
  obtain ⟨closes, all⟩ := balanced_iff_count.1 (by decide : Balanced marked.toList)
  exact ⟨closes, all, parse_any_group {} closes all⟩

end QueryText

end RecordQuery
