import RecordQuery.Proofs.Caseless.Reading
import RecordQuery.Proofs.QueryText.Reading

/-!
# Occurrences in any case

What is found in two texts is alike if keys and tokens differ in case only and the values are the
same, groups behind an operation on collections apart: these need only be alike as queries.
-/

namespace RecordQuery

namespace QueryText

open Text

/-- An occurrence in lower case, without its value if it has one. -/
def Occurrence.outline : Occurrence → Occurrence
  | operation token => operation token.toLower
  | property token => property token.toLower
  | value _ => value (.literal "")
  | sort token => sort token.toLower
  | offset token => offset token.toLower
  | count token => count token.toLower

/-- Values in pairs, with the operations that are still to be matched with them. -/
inductive ValuesAlike (codes : OpCodes) : List String → List RawValue → List RawValue → Prop
  | nil {operations : List String} : ValuesAlike codes operations [] []
  | same {operations : List String} {values values' : List RawValue} (raw : RawValue)
    (rest : ValuesAlike codes (operations.drop 1) values values') :
    ValuesAlike codes operations (raw :: values) (raw :: values')
  | group {operation : String} {operations : List String} {values values' : List RawValue}
    {inner inner' literal literal' : String} {decoded : Bool}
    (takes : takesQuery codes operation = true)
    (inside : AlikeReadings (parseText codes inner decoded) (parseText codes inner' decoded))
    (rest : ValuesAlike codes operations values values') :
    ValuesAlike codes (operation :: operations) (.group inner literal decoded :: values)
      (.group inner' literal' decoded :: values')

structure FoundAlike (codes : OpCodes) (operations : List String) (found found' : List Occurrence) :
    Prop where
  tokens : found.map Occurrence.outline = found'.map Occurrence.outline
  values : ValuesAlike codes operations (rawValues found) (rawValues found')

variable {codes : OpCodes} {operations : List String} {found found' : List Occurrence}

theorem ValuesAlike.length_eq {values values' : List RawValue}
    (h : ValuesAlike codes operations values values') : values.length = values'.length := by
  induction h with
  | nil => rfl
  | same _ _ ih => exact congrArg (· + 1) ih
  | group _ _ _ ih => exact congrArg (· + 1) ih

/-- The tokens of one key. -/
theorem FoundAlike.map_toLower_filterMap {key : Occurrence → Option String}
    (h : FoundAlike codes operations found found')
    (hkey : ∀ occurrence, key occurrence.outline = (key occurrence).map String.toLower) :
    (found.filterMap key).map String.toLower = (found'.filterMap key).map String.toLower := by
  have houtline (found : List Occurrence) :
      (found.filterMap key).map String.toLower = (found.map Occurrence.outline).filterMap key := by
    rw [List.map_filterMap, List.filterMap_map]
    exact congrArg (List.filterMap · found) (funext fun occurrence => (hkey occurrence).symm)
  rw [houtline, houtline, h.tokens]

section Tokens

variable (h : FoundAlike codes operations found found')

include h

theorem FoundAlike.operationTokens :
    (operationTokens found).map String.toLower = (operationTokens found').map String.toLower :=
  h.map_toLower_filterMap fun occurrence => by cases occurrence <;> rfl

theorem FoundAlike.propertyTokens :
    (propertyTokens found).map String.toLower = (propertyTokens found').map String.toLower :=
  h.map_toLower_filterMap fun occurrence => by cases occurrence <;> rfl

theorem FoundAlike.sortTokens :
    (sortTokens found).map String.toLower = (sortTokens found').map String.toLower :=
  h.map_toLower_filterMap fun occurrence => by cases occurrence <;> rfl

theorem FoundAlike.offsetTokens :
    (offsetTokens found).map String.toLower = (offsetTokens found').map String.toLower :=
  h.map_toLower_filterMap fun occurrence => by cases occurrence <;> rfl

theorem FoundAlike.countTokens :
    (countTokens found).map String.toLower = (countTokens found').map String.toLower :=
  h.map_toLower_filterMap fun occurrence => by cases occurrence <;> rfl

end Tokens

/-- Tokens in pairs that differ in case only. -/
abbrev TokensAlike : List String → List String → Prop :=
  List.Forall₂ fun token token' => token.toLower = token'.toLower

theorem ValuesAlike.forall₂_parts {values values' : List RawValue}
    (h : ValuesAlike codes operations values values')
    {operations' properties properties' : List String}
    (hoperations : TokensAlike operations operations')
    (hproperties : TokensAlike properties properties') :
    List.Forall₂ (PartsAlike codes)
      (operations.zip (properties.zip (values.map (RawValue.toArgument (parseText codes)))))
      (operations'.zip (properties'.zip
        (values'.map (RawValue.toArgument (parseText codes))))) := by
  induction h generalizing operations' properties properties' with
  | nil => simp
  | same raw rest ih =>
    cases hoperations with
    | nil => exact .nil
    | cons hoperation hoperations =>
      cases hproperties with
      | nil => simp
      | cons hproperty hproperties =>
        exact .cons ⟨hoperation, hproperty, .same _⟩ (ih hoperations hproperties)
  | group takes inside rest ih =>
    cases hoperations with
    | cons hoperation hoperations =>
      cases hproperties with
      | nil => simp
      | cons hproperty hproperties =>
        exact .cons ⟨hoperation, hproperty, .group takes inside⟩ (ih hoperations hproperties)

/-- Sort tokens without text are passed over in both. -/
theorem TokensAlike.filter {tokens tokens' : List String} (h : TokensAlike tokens tokens') :
    TokensAlike (tokens.filter (· ≠ "")) (tokens'.filter (· ≠ "")) := by
  induction h with
  | nil => exact .nil
  | @cons token token' tokens tokens' hfirst _ ih =>
    have hempty : token = "" ↔ token' = "" := by
      rw [← toLower_eq_empty_iff, hfirst, toLower_eq_empty_iff]
    by_cases hblank : token' = ""
    · rw [List.filter_cons_of_neg (by simp [hempty, hblank]),
        List.filter_cons_of_neg (by simp [hblank])]
      exact ih
    · rw [List.filter_cons_of_pos (by simp [hempty, hblank]),
        List.filter_cons_of_pos (by simp [hblank])]
      exact .cons hfirst ih

/-- What is found in two texts asks for the same up to the case of names, or fails alike. -/
theorem FoundAlike.interpret (distinct : codes.Distinct) (query query' : String)
    (h : FoundAlike codes (QueryText.operationTokens found) found found') :
    AlikeReadings (interpret codes query found) (interpret codes query' found') := by
  have hoperations := map_eq_map_iff_forall₂.1 h.operationTokens
  have hproperties := map_eq_map_iff_forall₂.1 h.propertyTokens
  have hsorts := TokensAlike.filter (map_eq_map_iff_forall₂.1 h.sortTokens)
  have hparts := h.values.forall₂_parts hoperations hproperties
  unfold QueryText.interpret assemble
  dsimp only
  rw [hoperations.length_eq, hproperties.length_eq, List.length_map, List.length_map,
    h.values.length_eq]
  refine .ite (fun _ => .error rfl) fun _ => ?_
  refine (Alike.mapM hparts fun _ _ hpart => hpart.readFilter query query' distinct).bind ?_
  intro filters filters' hfilters
  refine (Alike.mapM hsorts fun _ _ hsort => alike_readSort hsort query query').bind ?_
  intro sorts sorts' hsorts
  refine (alike_readPage query query' h.offsetTokens h.countTokens).bind ?_
  rintro page _ rfl
  refine .ok ?_
  rw [QueryOptions.caseless, QueryOptions.caseless, filtersCaseless_eq_map,
    filtersCaseless_eq_map, map_eq_map_iff_forall₂.2 hfilters, map_eq_map_iff_forall₂.2 hsorts]

end QueryText

end RecordQuery
