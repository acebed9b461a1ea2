import Mathlib.Data.List.Basic
import Mathlib.Logic.Relation
import RecordQuery.Document.Json
import RecordQuery.Proofs.Text.Integer

/-!
# Reading back a written JSON text

A configuration is the machine with the text in front of it. The text of a document takes the
machine over the document, whatever follows, and leaves it with the document finished.
-/

namespace RecordQuery.Document

mutual

/-- How many lists and records stand inside one another at most. -/
def depth : Document → Nat
  | .list items => depthOfItems items + 1
  | .record entries => depthOfEntries entries + 1
  | _ => 0

def depthOfItems : List Document → Nat
  | [] => 0
  | item :: items => max item.depth (depthOfItems items)

def depthOfEntries : List (String × Document) → Nat
  | [] => 0
  | (_, value) :: entries => max value.depth (depthOfEntries entries)

end

/-- Documents without a number that is not an integer of 64 bits. -/
inductive IsPlain : Document → Prop
  | null : IsPlain .null
  | bool (b : Bool) : IsPlain (.bool b)
  | integer {n : Int} (hmin : Int64.minValue.toInt ≤ n) (hmax : n < UInt64.size) :
      IsPlain (.integer n)
  | string (s : String) : IsPlain (.string s)
  | list {items : List Document} (h : ∀ item ∈ items, IsPlain item) : IsPlain (.list items)
  | record {entries : List (String × Document)} (h : ∀ entry ∈ entries, IsPlain entry.2) :
      IsPlain (.record entries)

namespace Json

open Text

theorem readHex4?_hexDigit {n : Nat} (hn : n < 0x20) (cs : List Char) :
    readHex4? ('0' :: '0' :: hexDigit (n / 16) :: hexDigit (n % 16) :: cs) = some (n, cs) := by
  have hvalue : ∀ n < 0x20,
      readBase? 16 ['0', '0', hexDigit (n / 16), hexDigit (n % 16)] = some n := by decide
  simp [readHex4?, hvalue n hn]

theorem escaped?_of_controlLetter? {c letter : Char} (h : controlLetter? c = some letter) :
    escaped? letter = some c ∧ letter ≠ 'u' ∧ letter ≠ '"' := by
  unfold controlLetter? at h
  split at h <;> simp_all <;> subst h <;> decide

/-- However a character is written, it is read back as the next character of the string. -/
theorem readString?_escape (c : Char) (cs : List Char) (bound : Nat) :
    readString? (escape c ++ cs) (bound + 1) =
      (readString? cs bound).map fun (tail, rest) => (consChar c tail, rest) := by
  by_cases hquote : c = '"' ∨ c = '\\'
  · rcases hquote with rfl | rfl <;>
      cases h : readString? cs bound <;> simp [escape, readString?, escaped?, h]
  obtain ⟨hne, hslash⟩ := not_or.1 hquote
  rw [escape, if_neg hquote]
  split
  · next letter hletter =>
    have hback := escaped?_of_controlLetter? hletter
    cases h : readString? cs bound <;> simp [readString?, hback, h]
  by_cases hcontrol : c.toNat < 0x20
  · have hcode : readCodePoint? ('0' :: '0' :: hexDigit (c.toNat / 16) ::
        hexDigit (c.toNat % 16) :: cs) = some (some c, cs) := by
      have hlow : ¬ 0xD800 ≤ c.toNat ∧ ¬ 0xDC00 ≤ c.toNat := by omega
      simp [readCodePoint?, readHex4?_hexDigit hcontrol, hlow, Char.ofNat_toNat]
    rw [if_pos hcontrol]
    cases h : readString? cs bound <;> simp [readString?, hcode, h]
  · rw [if_neg hcontrol]
    cases h : readString? cs bound <;> simp [readString?, hcontrol, hslash, h]

theorem readString?_flatMap_escape (text rest : List Char) {bound : Nat}
    (hbound : text.length ≤ bound) :
    readString? (text.flatMap escape ++ '"' :: rest) bound = some (some text, rest) := by
  induction text generalizing bound with
  | nil => simp [readString?]
  | cons c text ih =>
    obtain ⟨bound, rfl⟩ : ∃ b, bound = b + 1 := ⟨bound - 1, by simp at hbound; omega⟩
    have hbound : text.length ≤ bound := by simpa using hbound
    rw [List.flatMap_cons, List.append_assoc, readString?_escape, ih hbound]
    rfl

theorem length_le_length_flatMap_escape (text : List Char) :
    text.length ≤ (text.flatMap escape).length := by
  have hpos (c : Char) : 1 ≤ (escape c).length := by
    unfold escape
    split
    · simp
    · split
      · simp
      · split <;> simp
  induction text with
  | nil => simp
  | cons c text ih =>
    have := hpos c
    rw [List.flatMap_cons, List.length_append, List.length_cons]
    omega

theorem readToken?_stringText (s : String) (rest : List Char) :
    readToken? ((stringText s).toList ++ rest) = some (.string (some s), rest) := by
  have hbound : s.toList.length ≤ (s.toList.flatMap escape ++ '"' :: rest).length := by
    have := length_le_length_flatMap_escape s.toList
    rw [List.length_append]
    omega
  have htext : (stringText s).toList ++ rest = '"' :: (s.toList.flatMap escape ++ '"' :: rest) := by
    simp [stringText]
  rw [htext, readToken?, readString?_flatMap_escape _ _ hbound]
  simp

theorem head?_toDigits_ne_zero {n : Nat} (hn : 0 < n) :
    (Nat.toDigits 10 n).head? ≠ some '0' := by
  induction n using Nat.strongRecOn with
  | ind n ih =>
    by_cases hlt : n < 10
    · have hdigits : ∀ n < 10, 0 < n → (Nat.toDigits 10 n).head? ≠ some '0' := by decide
      exact hdigits n hlt hn
    · have hquot : 0 < n / 10 := by omega
      have hne : Nat.toDigits 10 (n / 10) ≠ [] := Nat.toDigits_ne_nil
      rw [Nat.toDigits_of_base_le (by decide) (by omega), List.head?_append_of_ne_nil _ hne]
      exact ih _ (by omega) hquot

/-- What may follow a value inside of a document, or nothing. -/
def Follows (rest : List Char) : Prop := ∀ c ∈ rest.head?, c = ',' ∨ c = ']' ∨ c = '}'

theorem Follows.dropWhile {rest : List Char} (h : Follows rest) :
    rest.takeWhile isDigit = [] ∧ rest.dropWhile isDigit = rest := by
  cases rest with
  | nil => simp
  | cons c rest =>
    have hc : isDigit c = false := by
      rcases h c rfl with rfl | rfl | rfl <;> decide
    simp [hc]

theorem Follows.readFraction {rest : List Char} (h : Follows rest) :
    readFraction? rest = some ([], rest) := by
  cases rest with
  | nil => rfl
  | cons c rest => rcases h c rfl with rfl | rfl | rfl <;> rfl

theorem Follows.readExponent {rest : List Char} (h : Follows rest) :
    readExponent? rest = some (none, rest) := by
  cases rest with
  | nil => rfl
  | cons c rest => rcases h c rfl with rfl | rfl | rfl <;> rfl

theorem digitRun_append {digits rest : List Char} (hdigits : ∀ c ∈ digits, isDigit c = true)
    (h : Follows rest) : digitRun (digits ++ rest) = (digits, rest) := by
  rw [digitRun, List.takeWhile_append_of_pos hdigits, List.dropWhile_append_of_pos hdigits,
    h.dropWhile.1, h.dropWhile.2, List.append_nil]

theorem readWhole?_toDigits (n : Nat) {rest : List Char} (h : Follows rest) :
    readWhole? (Nat.toDigits 10 n ++ rest) = some (Nat.toDigits 10 n, rest) := by
  by_cases hn : n = 0
  · subst hn
    rfl
  have hrun := digitRun_append (fun _ hc => isDigit_of_mem_toDigits (n := n) hc) h
  have hempty : (Nat.toDigits 10 n).isEmpty = false := by simp [Nat.toDigits_ne_nil]
  unfold readWhole?
  split
  · next tail hcons =>
    have hhead : (Nat.toDigits 10 n ++ rest).head? ≠ some '0' := by
      rw [List.head?_append_of_ne_nil _ Nat.toDigits_ne_nil]
      exact head?_toDigits_ne_zero (Nat.pos_of_ne_zero hn)
    rw [hcons] at hhead
    exact absurd rfl hhead
  · simp only [hrun, hempty, Bool.false_eq_true, if_false]

theorem digitsValue_toDigits (n : Nat) : digitsValue (Nat.toDigits 10 n) = n := by
  rw [digitsValue_eq_ofDigitChars, Nat.ofDigitChars_ten_toDigits]

theorem numberOf_whole {negative : Bool} {digits : List Char} {n : Int}
    (hn : (if negative then -(digitsValue digits : Int) else digitsValue digits) = n)
    (hzero : ¬ (negative = true ∧ digitsValue digits = 0))
    (hmin : Int64.minValue.toInt ≤ n) (hmax : n < UInt64.size) :
    numberOf negative digits [] none = .integer n := by
  simp only [numberOf, List.append_nil, hn]
  exact if_pos ⟨rfl, trivial, hmin, hmax, hzero⟩

theorem readNumber?_toString {n : Int} (hmin : Int64.minValue.toInt ≤ n) (hmax : n < UInt64.size)
    {rest : List Char} (h : Follows rest) :
    readNumber? ((toString n).toList ++ rest) = some (.integer n, rest) := by
  rw [toList_toString_int]
  by_cases hn : 0 ≤ n
  · have hvalue : numberOf false (Nat.toDigits 10 n.toNat) [] none = .integer n := by
      refine numberOf_whole ?_ (by simp) hmin hmax
      rw [digitsValue_toDigits]
      exact Int.toNat_of_nonneg hn
    rw [if_pos hn]
    unfold readNumber?
    split
    next negative unsigned hsign =>
    split at hsign
    · next tail hcons =>
      have hmem : '-' ∈ Nat.toDigits 10 n.toNat := by
        have hhead := congrArg List.head? hcons
        rw [List.head?_append_of_ne_nil _ Nat.toDigits_ne_nil] at hhead
        exact List.mem_of_head? hhead
      exact absurd (isDigit_of_mem_toDigits hmem) (by decide)
    · cases hsign
      simp [readWhole?_toDigits _ h, h.readFraction, h.readExponent, hvalue]
  · have hvalue : numberOf true (Nat.toDigits 10 (-n).toNat) [] none = .integer n := by
      refine numberOf_whole ?_ ?_ hmin hmax
      · rw [digitsValue_toDigits, if_pos rfl]
        omega
      · rw [digitsValue_toDigits]
        omega
    simp [readNumber?, hn, readWhole?_toDigits _ h, h.readFraction, h.readExponent, hvalue]

theorem readToken?_of_number {c : Char} (hc : c = '-' ∨ c.isDigit = true) (cs : List Char) :
    readToken? (c :: cs) =
      (readNumber? (c :: cs)).map fun (value, rest) => (.atom value, rest) := by
  unfold readToken?
  split
  all_goals first
    | rfl
    | next heq => exact absurd ((List.cons.inj heq).1 ▸ hc) (by decide)

theorem exists_cons_toString (n : Int) :
    ∃ c cs, (toString n).toList = c :: cs ∧ (c = '-' ∨ c.isDigit = true) := by
  have hne : (toString n).toList ≠ [] := by
    rw [toList_toString_int]
    split <;> simp [Nat.toDigits_ne_nil]
  obtain ⟨c, cs, hcs⟩ := List.exists_cons_of_ne_nil hne
  exact ⟨c, cs, hcs, of_mem_toString_int (hcs ▸ List.mem_cons_self)⟩

abbrev Configuration := List Char × State

/-- The next token of the text drives the machine on. -/
structure Step (a b : Configuration) : Prop where
  beginsAtToken : ∀ c ∈ a.1.head?, isSpace c = false
  shortens : b.1.length < a.1.length
  advances : ∃ token, readToken? a.1 = some (token, b.1) ∧ a.2.step? token = some b.2

abbrev Reaches : Configuration → Configuration → Prop := Relation.ReflTransGen Step

theorem tokens?_of_step {a b : Configuration} (h : Step a b) (bound : Nat) :
    ∃ token, a.2.step? token = some b.2 ∧
      tokens? (bound + 1) a.1 = (tokens? bound b.1).map (token :: ·) := by
  obtain ⟨token, htoken, hstep⟩ := h.advances
  have hspace := h.beginsAtToken
  have hshort := h.shortens
  refine ⟨token, hstep, ?_⟩
  cases hcs : a.1 with
  | nil => simp [hcs] at hshort
  | cons c cs =>
    have hc : isSpace c = false := hspace c (by simp [hcs])
    rw [hcs] at htoken
    have hdrop : (c :: cs).dropWhile isSpace = c :: cs := by simp [hc]
    rw [tokens?.eq_def, hdrop]
    simp only [htoken, Option.bind_eq_bind, Option.bind_some]
    cases tokens? bound b.1 <;> rfl

theorem foldlM_tokens?_of_reaches {a : Configuration} {document : Document}
    (h : Reaches a ([], ⟨[], .finished document⟩)) (bound : Nat) (hbound : a.1.length ≤ bound) :
    ∃ tokens, tokens? bound a.1 = some tokens ∧
      tokens.foldlM State.step? a.2 = some ⟨[], .finished document⟩ := by
  induction h using Relation.ReflTransGen.head_induction_on generalizing bound with
  | refl => exact ⟨[], by unfold tokens?; rfl, rfl⟩
  | head hstep _ ih =>
    have hshort := hstep.shortens
    obtain ⟨bound, rfl⟩ : ∃ b, bound = b + 1 := ⟨bound - 1, by omega⟩
    obtain ⟨token, hnext, htokens⟩ := tokens?_of_step hstep bound
    obtain ⟨tokens, hrest, hrun⟩ := ih bound (by omega)
    refine ⟨token :: tokens, by rw [htokens, hrest]; rfl, ?_⟩
    rw [List.foldlM_cons, hnext]
    exact hrun

theorem parse?_of_reaches {text : String} {document : Document}
    (h : Reaches (text.toList, ⟨[], .value⟩) ([], ⟨[], .finished document⟩)) :
    parse? text = some document := by
  obtain ⟨tokens, htokens, hrun⟩ := foldlM_tokens?_of_reaches h _ (Nat.le_refl _)
  simp only [parse?, htokens, Option.bind_eq_bind, Option.bind_some, hrun, State.finished?]

/-- Where a value may stand. -/
def Mode.takesValue : Mode → Prop
  | .value | .firstItem => True
  | _ => False

theorem State.step?_of_takesValue {mode : Mode} (hmode : mode.takesValue) (stack : List Frame)
    {token : Token} (htoken : token ≠ .listClose) :
    State.step? ⟨stack, mode⟩ token = State.beginValue? stack token := by
  cases mode with
  | value => rfl
  | firstItem =>
    unfold State.step?
    split <;> simp_all
  | firstKey | key | colon | afterValue | finished => exact hmode.elim

theorem step_of_token {c : Char} {cs rest : List Char} {token : Token} {state state' : State}
    (hspace : isSpace c = false) (hshort : rest.length ≤ cs.length)
    (htoken : readToken? (c :: cs) = some (token, rest)) (hstep : state.step? token = some state') :
    Step (c :: cs, state) (rest, state') := by
  refine ⟨?_, Nat.lt_succ_of_le hshort, token, htoken, hstep⟩
  simp [hspace]

theorem State.close_eq_complete {document : Document} {stack : List Frame}
    (h : stack.length < maxDepth) : State.close document stack = State.complete document stack := by
  rw [State.close, if_pos h]

/-- The text of the document takes the machine over the document. -/
def ReadsBack (document : Document) : Prop :=
  ∀ (stack : List Frame) (mode : Mode) (rest : List Char), mode.takesValue →
    document.depth + stack.length ≤ maxDepth → Follows rest →
    Reaches ((render document).toList ++ rest, ⟨stack, mode⟩) (rest, State.complete document stack)

theorem readsBack_of_token (document : Document) (token : Token) {c : Char} {cs : List Char}
    (htext : (render document).toList = c :: cs) (hspace : isSpace c = false)
    (htoken : ∀ {rest}, Follows rest → readToken? (c :: (cs ++ rest)) = some (token, rest))
    (hbegin : ∀ stack, State.beginValue? stack token = some (State.complete document stack)) :
    ReadsBack document := by
  intro stack mode rest hmode _ hrest
  have hclose : token ≠ .listClose := by
    rintro rfl
    cases hbegin []
  have hstep : State.step? ⟨stack, mode⟩ token = some (State.complete document stack) := by
    rw [State.step?_of_takesValue hmode stack hclose, hbegin]
  rw [htext]
  exact .single (step_of_token hspace (by simp) (htoken hrest) hstep)

theorem readsBack_string (s : String) : ReadsBack (.string s) := by
  have htext : (stringText s).toList = '"' :: (s.toList.flatMap escape ++ ['"']) := by
    simp [stringText]
  refine readsBack_of_token (.string s) (.string (some s)) htext (by decide) ?_ fun _ => rfl
  intro rest _
  rw [← List.cons_append, ← htext]
  exact readToken?_stringText s rest

theorem readsBack_integer {n : Int} (hmin : Int64.minValue.toInt ≤ n) (hmax : n < UInt64.size) :
    ReadsBack (.integer n) := by
  obtain ⟨c, cs, hcs, hc⟩ := exists_cons_toString n
  have hspace : isSpace c = false := by
    rcases hc with rfl | hc
    · decide
    · have : c ≠ ' ' ∧ c ≠ '\t' ∧ c ≠ '\n' ∧ c ≠ '\r' := by
        refine ⟨?_, ?_, ?_, ?_⟩ <;> rintro rfl <;> simp at hc
      simp [isSpace, this]
  refine readsBack_of_token (.integer n) (.atom (.integer n)) (by rw [render, hcs]) hspace ?_
    fun _ => rfl
  intro rest hrest
  have hnumber := readNumber?_toString hmin hmax hrest
  rw [hcs, List.cons_append] at hnumber
  rw [readToken?_of_number hc, hnumber]
  rfl

/-- The texts of the parts of a list or a record. -/
def joined (parts : List String) : List Char := [','].intercalate (parts.map String.toList)

theorem joined_cons_cons (part next : String) (parts : List String) :
    joined (part :: next :: parts) = part.toList ++ ',' :: joined (next :: parts) := by
  simp [joined]

theorem joined_singleton (part : String) : joined [part] = part.toList := by simp [joined]

theorem follows_mark (c : Char) (hc : c = ',' ∨ c = ']' ∨ c = '}') (rest : List Char) :
    Follows (c :: rest) := by
  intro c' hc'
  cases hc'
  exact hc

theorem reaches_items (item : Document) (items done : List Document) {stack : List Frame}
    (mode : Mode) (rest : List Char) (hmode : mode.takesValue)
    (h : ∀ i ∈ item :: items, ReadsBack i)
    (hdepth : depthOfItems (item :: items) + (stack.length + 1) ≤ maxDepth) :
    Reaches (joined (renderItems (item :: items)) ++ ']' :: rest, ⟨.list done :: stack, mode⟩)
      (rest, State.complete (.list (done.reverse ++ item :: items)) stack) := by
  induction items generalizing item done mode with
  | nil =>
    have hbelow : item.depth + (Frame.list done :: stack).length ≤ maxDepth := by
      simp only [depthOfItems] at hdepth
      simp only [List.length_cons]
      omega
    have hclose : State.step? ⟨.list (item :: done) :: stack, .afterValue⟩ .listClose =
        some (State.complete (.list (done.reverse ++ [item])) stack) := by
      simp only [State.step?]
      rw [State.close_eq_complete (by omega), List.reverse_cons]
    rw [renderItems, renderItems, joined_singleton]
    exact (h item List.mem_cons_self _ _ _ hmode hbelow (follows_mark ']' (by decide) rest)).tail
      (step_of_token (by decide) (Nat.le_refl _) rfl hclose)
  | cons next items ih =>
    have hbelow : item.depth + (Frame.list done :: stack).length ≤ maxDepth ∧
        depthOfItems (next :: items) + (stack.length + 1) ≤ maxDepth := by
      simp only [depthOfItems] at hdepth ⊢
      simp only [List.length_cons]
      omega
    have htail := ih next (item :: done) .value trivial
      (fun i hi => h i (List.mem_cons_of_mem _ hi)) hbelow.2
    rw [List.reverse_cons, List.append_assoc] at htail
    rw [renderItems, renderItems, joined_cons_cons, List.append_assoc, List.cons_append]
    exact (h item List.mem_cons_self _ _ _ hmode hbelow.1 (follows_mark ',' (by decide) _)).trans
      (htail.head (step_of_token (by decide) (Nat.le_refl _) rfl rfl))

theorem readsBack_list {items : List Document} (h : ∀ item ∈ items, ReadsBack item) :
    ReadsBack (.list items) := by
  intro stack mode rest hmode hdepth _
  have hopen (cs : List Char) :
      Step ('[' :: cs, ⟨stack, mode⟩) (cs, ⟨.list [] :: stack, .firstItem⟩) := by
    refine step_of_token (by decide) (Nat.le_refl _) rfl ?_
    rw [State.step?_of_takesValue hmode stack (by simp)]
    rfl
  have htext : (render (.list items)).toList ++ rest =
      '[' :: (joined (renderItems items) ++ ']' :: rest) := by
    simp [render, joined, String.toList_intercalate]
  have hdepth : depthOfItems items + (stack.length + 1) ≤ maxDepth := by
    simp only [depth] at hdepth
    omega
  rw [htext]
  refine .head (hopen _) ?_
  cases items with
  | nil =>
    have hclose : State.step? ⟨.list [] :: stack, .firstItem⟩ .listClose =
        some (State.complete (.list []) stack) := by
      simp only [State.step?]
      rw [State.close_eq_complete (by omega)]
    exact .single (step_of_token (by decide) (Nat.le_refl _) rfl hclose)
  | cons item items => exact reaches_items item items [] _ rest trivial h hdepth

/-- The entries of an open record, all of whose keys are readable. -/
def readable (entries : List (String × Document)) : List (Option String × Document) :=
  entries.map fun (key, value) => (some key, value)

theorem recordOf_readable (entries : List (String × Document)) :
    recordOf (readable entries) = .record entries := by
  have hkeys {read : Option String × Document → Option (String × Document)}
      (hread : ∀ entry : String × Document, read (some entry.1, entry.2) = some entry) :
      (readable entries).mapM read = some entries := by
    induction entries with
    | nil => rfl
    | cons entry entries ih =>
      rw [readable] at ih ⊢
      rw [List.map_cons, List.mapM_cons, ih, hread]
      rfl
  rw [recordOf, hkeys fun _ => rfl]

/-- The key of an entry, the colon and the value. -/
theorem reaches_entry (key : String) {value : Document} (h : ReadsBack value)
    (done : List (Option String × Document)) {stack : List Frame} {mode : Mode} {rest : List Char}
    (hmode : mode = .firstKey ∨ mode = .key) (hdepth : value.depth + (stack.length + 1) ≤ maxDepth)
    (hrest : Follows rest) :
    Reaches ((stringText key ++ ":" ++ render value).toList ++ rest, ⟨.record done :: stack, mode⟩)
      (rest, ⟨.record ((some key, value) :: done) :: stack, .afterValue⟩) := by
  have hcolon (cs : List Char) : Step (':' :: cs, ⟨.entry done key :: stack, .colon⟩)
      (cs, ⟨.entry done key :: stack, .value⟩) :=
    step_of_token (by decide) (Nat.le_refl _) rfl rfl
  have hkey (cs : List Char) : Step ((stringText key).toList ++ cs, ⟨.record done :: stack, mode⟩)
      (cs, ⟨.entry done key :: stack, .colon⟩) := by
    have htoken := readToken?_stringText key cs
    have htext : (stringText key).toList = '"' :: (key.toList.flatMap escape ++ ['"']) := by
      simp [stringText]
    rw [htext, List.cons_append] at htoken ⊢
    refine step_of_token (by decide) (List.suffix_append _ cs).length_le htoken ?_
    rcases hmode with rfl | rfl <;> rfl
  have hvalue := h (.entry done key :: stack) .value rest trivial hdepth hrest
  have htext : (stringText key ++ ":" ++ render value).toList ++ rest =
      (stringText key).toList ++ ':' :: ((render value).toList ++ rest) := by
    simp
  rw [htext]
  exact .head (hkey _) (.head (hcolon _) hvalue)

theorem reaches_entries (key : String) (value : Document) (entries done : List (String × Document))
    {stack : List Frame} {mode : Mode} (rest : List Char) (hmode : mode = .firstKey ∨ mode = .key)
    (h : ∀ entry ∈ (key, value) :: entries, ReadsBack entry.2)
    (hdepth : depthOfEntries ((key, value) :: entries) + (stack.length + 1) ≤ maxDepth) :
    Reaches (joined (renderEntries ((key, value) :: entries)) ++ '}' :: rest,
        ⟨.record (readable done) :: stack, mode⟩)
      (rest, State.complete (.record (done.reverse ++ (key, value) :: entries)) stack) := by
  induction entries generalizing key value done mode with
  | nil =>
    have hbelow : value.depth + (stack.length + 1) ≤ maxDepth := by
      simp only [depthOfEntries] at hdepth
      omega
    have hentry := reaches_entry key (h (key, value) List.mem_cons_self) (readable done) hmode
      hbelow (follows_mark '}' (by decide) rest)
    have hclose : State.step? ⟨.record (readable ((key, value) :: done)) :: stack, .afterValue⟩
        .recordClose = some (State.complete (.record (done.reverse ++ [(key, value)])) stack) := by
      simp only [State.step?]
      rw [State.close_eq_complete (by omega), readable, ← List.map_reverse, ← readable,
        recordOf_readable, List.reverse_cons]
    rw [renderEntries, renderEntries, joined_singleton]
    exact hentry.tail (step_of_token (by decide) (Nat.le_refl _) rfl hclose)
  | cons next entries ih =>
    obtain ⟨nextKey, nextValue⟩ := next
    have hbelow : value.depth + (stack.length + 1) ≤ maxDepth ∧
        depthOfEntries ((nextKey, nextValue) :: entries) + (stack.length + 1) ≤ maxDepth := by
      simp only [depthOfEntries] at hdepth ⊢
      omega
    have htail := ih nextKey nextValue ((key, value) :: done) (.inr rfl)
      (fun e he => h e (List.mem_cons_of_mem _ he)) hbelow.2
    rw [List.reverse_cons, List.append_assoc] at htail
    rw [renderEntries, renderEntries, joined_cons_cons, List.append_assoc, List.cons_append]
    exact (reaches_entry key (h (key, value) List.mem_cons_self) (readable done) hmode hbelow.1
      (follows_mark ',' (by decide) _)).trans
        (htail.head (step_of_token (by decide) (Nat.le_refl _) rfl rfl))

theorem readsBack_record {entries : List (String × Document)}
    (h : ∀ entry ∈ entries, ReadsBack entry.2) : ReadsBack (.record entries) := by
  intro stack mode rest hmode hdepth _
  have hopen (cs : List Char) :
      Step ('{' :: cs, ⟨stack, mode⟩) (cs, ⟨.record [] :: stack, .firstKey⟩) := by
    refine step_of_token (by decide) (Nat.le_refl _) rfl ?_
    rw [State.step?_of_takesValue hmode stack (by simp)]
    rfl
  have htext : (render (.record entries)).toList ++ rest =
      '{' :: (joined (renderEntries entries) ++ '}' :: rest) := by
    simp [render, joined, String.toList_intercalate]
  have hdepth : depthOfEntries entries + (stack.length + 1) ≤ maxDepth := by
    simp only [depth] at hdepth
    omega
  rw [htext]
  refine .head (hopen _) ?_
  cases entries with
  | nil =>
    have hclose : State.step? ⟨.record [] :: stack, .firstKey⟩ .recordClose =
        some (State.complete (.record []) stack) := by
      simp only [State.step?]
      rw [State.close_eq_complete (by omega)]
    exact .single (step_of_token (by decide) (Nat.le_refl _) rfl hclose)
  | cons entry entries =>
    exact reaches_entries entry.1 entry.2 entries [] rest (.inl rfl) h hdepth

theorem IsPlain.readsBack {document : Document} (h : document.IsPlain) : ReadsBack document := by
  induction h with
  | null => exact readsBack_of_token .null (.atom .null) rfl (by decide) (fun _ => rfl) fun _ => rfl
  | bool b =>
    cases b with
    | true =>
      exact readsBack_of_token (.bool true) (.atom (.bool true)) rfl (by decide) (fun _ => rfl)
        fun _ => rfl
    | false =>
      exact readsBack_of_token (.bool false) (.atom (.bool false)) rfl (by decide) (fun _ => rfl)
        fun _ => rfl
  | integer hmin hmax => exact readsBack_integer hmin hmax
  | string s => exact readsBack_string s
  | list _ ih => exact readsBack_list ih
  | record _ ih => exact readsBack_record ih

/-- The text of a document is read back as the document. -/
theorem parse?_render {document : Document} (h : document.IsPlain)
    (hdepth : document.depth ≤ maxDepth) : parse? (render document) = some document := by
  have hreads := IsPlain.readsBack h [] .value [] trivial hdepth (by simp [Follows])
  rw [List.append_nil] at hreads
  exact parse?_of_reaches hreads

end Json

end RecordQuery.Document
