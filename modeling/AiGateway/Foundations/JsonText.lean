import AiGateway.Foundations.Json

/-!
# Reading the text of a JSON value back

The text of a JSON value determines the value, up to infinities. The proof reads
two texts from the left: the first character says what kind of value it is, and
a value ends where a bracket, a comma or the end of the text follows.
-/

namespace AiGateway
namespace Foundations
namespace Json

section Strings

/-- The character behind a backslash. -/
def unescape : Char → Char
  | 'b' => '\x08'
  | 'f' => '\x0c'
  | 'n' => '\n'
  | 'r' => '\r'
  | 't' => '\t'
  | char => char

/-- The value of a hexadecimal digit. -/
def hexValue (digit : Char) : Nat :=
  if digit.isDigit then digit.toNat - '0'.toNat
  else digit.toNat - 'a'.toNat + 10

/-- The string up to the closing quotation mark, and what follows it. -/
def readQuoted : List Char → Option (List Char × List Char)
  | [] => none
  | '"' :: rest => some ([], rest)
  | '\\' :: 'u' :: '0' :: '0' :: high :: low :: rest =>
      (readQuoted rest).map fun (chars, rest) =>
        (Char.ofNat (16 * hexValue high + hexValue low) :: chars, rest)
  | '\\' :: char :: rest =>
      (readQuoted rest).map fun (chars, rest) => (unescape char :: chars, rest)
  | char :: rest =>
      (readQuoted rest).map fun (chars, rest) => (char :: chars, rest)

theorem hexValue_digitChar : ∀ digit < 16,
    hexValue (Nat.digitChar digit) = digit := by
  decide

/-- An escaped character is read back. -/
theorem readQuoted_escapeChar
    (char : Char)
    (rest : List Char) :
    readQuoted (escapeChar char ++ rest) =
      (readQuoted rest).map fun (chars, rest) => (char :: chars, rest) := by
  unfold escapeChar
  split_ifs with isQuote isBackslash isB isF isN isR isT isControl
  · rw [isQuote]; rfl
  · rw [isBackslash]; rfl
  · rw [isB]; rfl
  · rw [isF]; rfl
  · rw [isN]; rfl
  · rw [isR]; rfl
  · rw [isT]; rfl
  · change (readQuoted rest).map _ = _
    rw [hexValue_digitChar _ (by omega), hexValue_digitChar _ (by omega),
      Nat.div_add_mod, Char.ofNat_toNat]
  · change readQuoted (char :: rest) = _
    rw [readQuoted.eq_def]
    split <;> simp_all

/-- A quoted string is read back. -/
theorem readQuoted_flatMap_escapeChar
    (chars rest : List Char) :
    readQuoted (chars.flatMap escapeChar ++ '"' :: rest) =
      some (chars, rest) := by
  induction chars with
  | nil => rfl
  | cons char chars inductionHypothesis =>
      rw [List.flatMap_cons, List.append_assoc, readQuoted_escapeChar,
        inductionHypothesis]
      rfl

/-- A quoted string ends where it ends. -/
theorem quote_append_cancel
    {first second : String}
    {left right : List Char}
    (sameText : quote first ++ left = quote second ++ right) :
    first = second ∧ left = right := by
  simp only [quote, List.cons_append, List.append_assoc, List.nil_append,
    List.cons.injEq, true_and] at sameText
  have readBack := congrArg readQuoted sameText
  rw [readQuoted_flatMap_escapeChar, readQuoted_flatMap_escapeChar,
    Option.some.injEq, Prod.mk.injEq, String.toList_inj] at readBack
  exact readBack

end Strings

section Kinds

/-- The first character of the text of a value; all numbers count as one. -/
def leading : Json → Char
  | null => 'n'
  | bool true => 't'
  | bool false => 'f'
  | number _ => '0'
  | infinity _ => 'n'
  | string _ => '"'
  | array _ => '['
  | object _ => '{'

/-- A character, or zero for a character that starts a number. -/
def leadingClass (char : Char) : Char :=
  if char.isDigit ∨ char = '-' then '0' else char

/-- The first character of a text says what kind of value it is the text of. -/
theorem exists_leading (value : Json) :
    ∃ char rest, value.text = char :: rest ∧
      leadingClass char = value.leading := by
  cases value with
  | number value =>
      obtain ⟨char, rest, textEq, isNumber⟩ := value.exists_head_text
      exact ⟨char, rest, textEq, if_pos isNumber⟩
  | bool value => cases value <;> exact ⟨_, _, rfl, rfl⟩
  | _ => exact ⟨_, _, rfl, rfl⟩

/-- Values whose texts start alike are of the same kind. -/
theorem leading_eq_of_text_append_eq
    {first second : Json}
    {left right : List Char}
    (sameText : first.text ++ left = second.text ++ right) :
    first.leading = second.leading := by
  obtain ⟨char, rest, textEq, isLeading⟩ := exists_leading first
  obtain ⟨otherChar, otherRest, otherEq, otherLeading⟩ := exists_leading second
  rw [textEq, otherEq] at sameText
  rw [← isLeading, ← otherLeading, (List.cons.inj sameText).1]

/-- No text starts with a bracket that closes. -/
theorem text_append_ne
    {char : Char}
    (closes : char = ']' ∨ char = '}')
    (value : Json)
    (left right : List Char) :
    value.text ++ left ≠ char :: right := by
  have notLeading : leadingClass char ≠ value.leading := by
    rcases closes with rfl | rfl <;> cases value with
      | bool flag => cases flag <;> decide
      | _ => simp [leading, leadingClass]
  obtain ⟨first, rest, textEq, isLeading⟩ := exists_leading value
  rw [textEq]
  rintro sameText
  rw [(List.cons.inj sameText).1] at isLeading
  exact notLeading isLeading

end Kinds

section Cancel

/-- What follows a value: nothing, or a character that no number contains. -/
def Delimited (rest : List Char) : Prop :=
  ∀ char ∈ rest.head?, ¬ Decimal.IsTextChar char

theorem delimited_nil : Delimited [] := by simp [Delimited]

theorem delimited_cons
    {char : Char}
    (isDelimiter : char = ',' ∨ char = ']' ∨ char = '}')
    (rest : List Char) : Delimited (char :: rest) := by
  rcases isDelimiter with rfl | rfl | rfl <;>
    simp [Delimited, Decimal.IsTextChar]

/-- A prefix of characters of one kind ends where another kind begins. -/
theorem append_cancel_of_forall
    {isPart : Char → Prop}
    {first second left right : List Char}
    (firstPart : ∀ char ∈ first, isPart char)
    (secondPart : ∀ char ∈ second, isPart char)
    (leftEnds : ∀ char ∈ left.head?, ¬ isPart char)
    (rightEnds : ∀ char ∈ right.head?, ¬ isPart char)
    (equal : first ++ left = second ++ right) :
    first = second ∧ left = right := by
  induction first generalizing second with
  | nil =>
      cases second with
      | nil => exact ⟨rfl, equal⟩
      | cons char second =>
          rw [List.nil_append] at equal
          subst equal
          exact absurd (secondPart char List.mem_cons_self) (leftEnds char rfl)
  | cons char first inductionHypothesis =>
      cases second with
      | nil =>
          rw [List.nil_append] at equal
          subst equal
          exact absurd (firstPart char List.mem_cons_self) (rightEnds char rfl)
      | cons other second =>
          obtain ⟨sameChar, sameRest⟩ := List.cons.inj equal
          obtain ⟨sameFirst, sameLeft⟩ := inductionHypothesis
            (fun _ isMember => firstPart _ (List.mem_cons_of_mem _ isMember))
            (fun _ isMember => secondPart _ (List.mem_cons_of_mem _ isMember))
            sameRest
          exact ⟨by rw [sameChar, sameFirst], sameLeft⟩

/-- The elements of an array after the first. -/
theorem elementsText_cons (element : Json) (elements : List Json) :
    elementsText (element :: elements) =
      element.text ++ elements.flatMap fun other => ',' :: other.text := by
  induction elements generalizing element with
  | nil => rw [elementsText, List.flatMap_nil, List.append_nil]
  | cons other elements inductionHypothesis =>
      rw [elementsText, inductionHypothesis, List.flatMap_cons, List.cons_append]

/-- The text of an entry of an object. -/
def entryText (entry : String × Json) : List Char :=
  quote entry.1 ++ ':' :: entry.2.text

/-- The entries of an object after the first. -/
theorem entriesText_cons
    (entry : String × Json)
    (entries : List (String × Json)) :
    entriesText (entry :: entries) =
      entryText entry ++ entries.flatMap fun other => ',' :: entryText other := by
  induction entries generalizing entry with
  | nil => rw [entriesText, List.flatMap_nil, List.append_nil, entryText]
  | cons other entries inductionHypothesis =>
      rw [entriesText, inductionHypothesis, List.flatMap_cons]
      simp only [entryText, List.append_assoc, List.cons_append]

/-- Equal texts of elements stay equal with a comma before each. -/
theorem flatMap_eq_of_elementsText_eq
    {first second : List Json}
    {left right : List Char}
    (sameText :
      elementsText first ++ ']' :: left = elementsText second ++ ']' :: right) :
    (first.flatMap fun element => ',' :: element.text) ++ ']' :: left =
      (second.flatMap fun element => ',' :: element.text) ++ ']' :: right := by
  cases first with
  | nil =>
      cases second with
      | nil => exact sameText
      | cons element second =>
          rw [elementsText_cons, List.append_assoc] at sameText
          exact absurd sameText.symm (text_append_ne (.inl rfl) _ _ _)
  | cons element first =>
      rw [elementsText_cons] at sameText
      cases second with
      | nil =>
          rw [List.append_assoc] at sameText
          exact absurd sameText (text_append_ne (.inl rfl) _ _ _)
      | cons other second =>
          rw [elementsText_cons] at sameText
          rw [List.flatMap_cons, List.flatMap_cons, List.cons_append,
            List.cons_append, List.cons_append, List.cons_append, sameText]

/-- Equal texts of entries stay equal with a comma before each. -/
theorem flatMap_eq_of_entriesText_eq
    {first second : List (String × Json)}
    {left right : List Char}
    (sameText :
      entriesText first ++ '}' :: left = entriesText second ++ '}' :: right) :
    (first.flatMap fun entry => ',' :: entryText entry) ++ '}' :: left =
      (second.flatMap fun entry => ',' :: entryText entry) ++ '}' :: right := by
  cases first with
  | nil =>
      cases second with
      | nil => exact sameText
      | cons entry second =>
          rw [entriesText_cons] at sameText
          cases sameText
  | cons entry first =>
      rw [entriesText_cons] at sameText
      cases second with
      | nil => cases sameText
      | cons other second =>
          rw [entriesText_cons] at sameText
          rw [List.flatMap_cons, List.flatMap_cons, List.cons_append,
            List.cons_append, List.cons_append, List.cons_append, sameText]

mutual

/-- A value ends where it ends, and its text determines it. -/
theorem text_append_cancel
    (first second : Json)
    {left right : List Char}
    (leftEnds : Delimited left)
    (rightEnds : Delimited right)
    (sameText : first.text ++ left = second.text ++ right) :
    first.finite = second.finite ∧ left = right := by
  have sameKind := leading_eq_of_text_append_eq sameText
  cases first with
  | null =>
      cases second with
      | null => exact ⟨rfl, List.append_cancel_left sameText⟩
      | infinity negative => exact ⟨rfl, List.append_cancel_left sameText⟩
      | bool flag => cases flag <;> cases sameKind
      | _ => cases sameKind
  | infinity negative =>
      cases second with
      | null => exact ⟨rfl, List.append_cancel_left sameText⟩
      | infinity otherNegative =>
          exact ⟨rfl, List.append_cancel_left sameText⟩
      | bool flag => cases flag <;> cases sameKind
      | _ => cases sameKind
  | bool flag =>
      cases second with
      | bool otherFlag =>
          cases flag <;> cases otherFlag <;>
            first
            | exact ⟨rfl, List.append_cancel_left sameText⟩
            | cases sameKind
      | _ => cases flag <;> cases sameKind
  | number value =>
      cases second with
      | number otherValue =>
          obtain ⟨sameNumber, sameRest⟩ := append_cancel_of_forall
            value.isTextChar_text otherValue.isTextChar_text leftEnds rightEnds
            sameText
          exact ⟨congrArg number (Decimal.text_injective sameNumber), sameRest⟩
      | bool flag => cases flag <;> cases sameKind
      | _ => cases sameKind
  | string value =>
      cases second with
      | string otherValue =>
          obtain ⟨sameString, sameRest⟩ := quote_append_cancel sameText
          exact ⟨congrArg string sameString, sameRest⟩
      | bool flag => cases flag <;> cases sameKind
      | _ => cases sameKind
  | array elements =>
      cases second with
      | array others =>
          simp only [text, List.cons_append, List.append_assoc,
            List.nil_append, List.cons.injEq, true_and] at sameText
          obtain ⟨sameElements, sameRest⟩ := elements_append_cancel elements
            others (flatMap_eq_of_elementsText_eq sameText)
          exact ⟨congrArg array sameElements, sameRest⟩
      | bool flag => cases flag <;> cases sameKind
      | _ => cases sameKind
  | object entries =>
      cases second with
      | object others =>
          simp only [text, List.cons_append, List.append_assoc,
            List.nil_append, List.cons.injEq, true_and] at sameText
          obtain ⟨sameEntries, sameRest⟩ := entries_append_cancel entries
            others (flatMap_eq_of_entriesText_eq sameText)
          exact ⟨congrArg object sameEntries, sameRest⟩
      | bool flag => cases flag <;> cases sameKind
      | _ => cases sameKind

/-- The elements of an array end where it closes. -/
theorem elements_append_cancel
    (first second : List Json)
    {left right : List Char}
    (sameText :
      (first.flatMap fun element => ',' :: element.text) ++ ']' :: left =
        (second.flatMap fun element => ',' :: element.text) ++ ']' :: right) :
    finiteElements first = finiteElements second ∧ left = right := by
  have delimited (rest : List Json) (left : List Char) :
      Delimited ((rest.flatMap fun element => ',' :: element.text) ++
        ']' :: left) := by
    cases rest with
    | nil => exact delimited_cons (by simp) _
    | cons element rest => exact delimited_cons (by simp) _
  cases first with
  | nil =>
      cases second with
      | nil => exact ⟨rfl, (List.cons.inj sameText).2⟩
      | cons other second => cases sameText
  | cons element first =>
      cases second with
      | nil => cases sameText
      | cons other second =>
          rw [List.flatMap_cons, List.flatMap_cons, List.append_assoc,
            List.append_assoc, List.cons_append, List.cons_append] at sameText
          obtain ⟨sameElement, sameRest⟩ := text_append_cancel element other
            (delimited _ _) (delimited _ _) (List.cons.inj sameText).2
          obtain ⟨sameElements, sameLeft⟩ :=
            elements_append_cancel first second sameRest
          exact ⟨by rw [finiteElements, sameElement, sameElements,
            finiteElements], sameLeft⟩

/-- The entries of an object end where it closes. -/
theorem entries_append_cancel
    (first second : List (String × Json))
    {left right : List Char}
    (sameText :
      (first.flatMap fun entry => ',' :: entryText entry) ++ '}' :: left =
        (second.flatMap fun entry => ',' :: entryText entry) ++ '}' :: right) :
    finiteEntries first = finiteEntries second ∧ left = right := by
  have delimited (rest : List (String × Json)) (left : List Char) :
      Delimited ((rest.flatMap fun entry => ',' :: entryText entry) ++
        '}' :: left) := by
    cases rest with
    | nil => exact delimited_cons (by simp) _
    | cons entry rest => exact delimited_cons (by simp) _
  cases first with
  | nil =>
      cases second with
      | nil => exact ⟨rfl, (List.cons.inj sameText).2⟩
      | cons other second => cases sameText
  | cons entry first =>
      cases second with
      | nil => cases sameText
      | cons other second =>
          obtain ⟨key, value⟩ := entry
          obtain ⟨otherKey, otherValue⟩ := other
          simp only [List.flatMap_cons, entryText, List.cons_append,
            List.append_assoc, List.cons.injEq, true_and] at sameText
          obtain ⟨sameKey, sameEntry⟩ := quote_append_cancel sameText
          obtain ⟨sameValue, sameRest⟩ := text_append_cancel value otherValue
            (delimited _ _) (delimited _ _) (List.cons.inj sameEntry).2
          obtain ⟨sameEntries, sameLeft⟩ :=
            entries_append_cancel first second sameRest
          exact ⟨by rw [finiteEntries, sameKey, sameValue, sameEntries,
            finiteEntries], sameLeft⟩

end

/-- Values that `JSON.stringify` writes alike are equal up to infinities. -/
theorem finite_eq_of_stringify_eq
    {first second : Json}
    (sameText : first.stringify = second.stringify) :
    first.finite = second.finite := by
  have sameChars : first.text = second.text := by
    have := congrArg String.toList sameText
    rwa [stringify, stringify, String.toList_ofList, String.toList_ofList]
      at this
  refine (text_append_cancel first second delimited_nil delimited_nil ?_).1
  rw [sameChars]

mutual

/-- A value is written as it is without infinities. -/
theorem text_finite (value : Json) : value.finite.text = value.text := by
  cases value with
  | array elements => rw [finite, text, text, elementsText_finite elements]
  | object entries => rw [finite, text, text, entriesText_finite entries]
  | _ => rfl

theorem elementsText_finite (elements : List Json) :
    elementsText (finiteElements elements) = elementsText elements := by
  cases elements with
  | nil => rfl
  | cons element elements =>
      have laterText := elementsText_finite elements
      cases elements with
      | nil => exact text_finite element
      | cons other elements =>
          rw [finiteElements] at laterText
          rw [finiteElements, finiteElements, elementsText, elementsText,
            text_finite element, laterText]

theorem entriesText_finite (entries : List (String × Json)) :
    entriesText (finiteEntries entries) = entriesText entries := by
  cases entries with
  | nil => rfl
  | cons entry entries =>
      obtain ⟨key, value⟩ := entry
      have laterText := entriesText_finite entries
      cases entries with
      | nil =>
          rw [finiteEntries, finiteEntries, entriesText, entriesText,
            text_finite value]
      | cons other entries =>
          rw [finiteEntries] at laterText
          rw [finiteEntries, finiteEntries, entriesText, entriesText,
            text_finite value, laterText]

end

/-- The text of an object is not empty. -/
theorem stringify_object_ne_empty (entries : List (String × Json)) :
    (object entries).stringify ≠ "" := by
  intro isEmpty
  have noText := congrArg String.toList isEmpty
  rw [stringify, String.toList_ofList, text] at noText
  cases noText

/-- `JSON.stringify` tells values apart, up to infinities. -/
theorem stringify_eq_iff {first second : Json} :
    first.stringify = second.stringify ↔ first.finite = second.finite := by
  constructor
  · exact finite_eq_of_stringify_eq
  · intro sameFinite
    rw [stringify, stringify, ← text_finite first, sameFinite, text_finite]

end Cancel

section LineBreaks

/-- A text without line breaks. -/
def SingleLine (chars : List Char) : Prop :=
  ∀ char ∈ chars, char ≠ '\n' ∧ char ≠ '\r'

theorem SingleLine.append
    {first second : List Char}
    (left : SingleLine first)
    (right : SingleLine second) : SingleLine (first ++ second) :=
  List.forall_mem_append.2 ⟨left, right⟩

theorem SingleLine.cons
    {char : Char}
    {chars : List Char}
    (noBreak : char ≠ '\n' ∧ char ≠ '\r')
    (rest : SingleLine chars) : SingleLine (char :: chars) :=
  List.forall_mem_cons.2 ⟨noBreak, rest⟩

theorem singleLine_nil : SingleLine [] := nofun

/-- A given text is looked through. -/
theorem singleLine_of_all
    {chars : List Char}
    (allUnbroken :
      chars.all (fun char => char != '\n' && char != '\r') = true) :
    SingleLine chars := by
  intro char isMember
  have unbroken := List.all_eq_true.1 allUnbroken char isMember
  rwa [Bool.and_eq_true, bne_iff_ne, bne_iff_ne] at unbroken

theorem singleLine_backslash
    {char : Char}
    (noBreak : char ≠ '\n' ∧ char ≠ '\r') : SingleLine ['\\', char] :=
  .cons (by decide) (singleLine_nil.cons noBreak)

/-- A line break in a string is escaped. -/
theorem singleLine_escapeChar (char : Char) : SingleLine (escapeChar char) := by
  have digits : ∀ digit < 16,
      Nat.digitChar digit ≠ '\n' ∧ Nat.digitChar digit ≠ '\r' := by
    decide
  unfold escapeChar
  split_ifs with isQuote isBackslash isB isF isN isR isT isControl
  · exact singleLine_backslash (by decide)
  · exact singleLine_backslash (by decide)
  · exact singleLine_backslash (by decide)
  · exact singleLine_backslash (by decide)
  · exact singleLine_backslash (by decide)
  · exact singleLine_backslash (by decide)
  · exact singleLine_backslash (by decide)
  · have high := digits (char.toNat / 16) (by omega)
    have low := digits (char.toNat % 16) (Nat.mod_lt _ (by decide))
    have zeros : SingleLine ['0', '0', Nat.digitChar (char.toNat / 16),
        Nat.digitChar (char.toNat % 16)] :=
      .cons (by decide) (.cons (by decide) (.cons high (singleLine_nil.cons low)))
    exact (singleLine_backslash (by decide)).append zeros
  · exact singleLine_nil.cons ⟨isN, isR⟩

theorem singleLine_quote (value : String) : SingleLine (quote value) := by
  have isQuote : '"' ≠ '\n' ∧ '"' ≠ '\r' := by decide
  refine .cons isQuote
    (.append (fun char isMember => ?_) (.cons isQuote singleLine_nil))
  obtain ⟨source, -, isEscape⟩ := List.mem_flatMap.1 isMember
  exact singleLine_escapeChar source char isEscape

theorem singleLine_number (number : Decimal) : SingleLine number.text := by
  intro char isMember
  have isTextChar := number.isTextChar_text char isMember
  unfold Decimal.IsTextChar at isTextChar
  constructor
  · rintro rfl
    revert isTextChar
    decide
  · rintro rfl
    revert isTextChar
    decide

mutual

/-- `JSON.stringify` writes no line break. -/
theorem singleLine_text (value : Json) : SingleLine value.text := by
  cases value with
  | null => exact singleLine_of_all rfl
  | bool flag => cases flag <;> exact singleLine_of_all rfl
  | number value => exact singleLine_number value
  | infinity negative => exact singleLine_of_all rfl
  | string value => exact singleLine_quote value
  | array elements =>
      exact .cons (by decide) ((singleLine_elementsText elements).append
        (singleLine_nil.cons (by decide)))
  | object entries =>
      exact .cons (by decide) ((singleLine_entriesText entries).append
        (singleLine_nil.cons (by decide)))

theorem singleLine_elementsText (elements : List Json) :
    SingleLine (elementsText elements) := by
  cases elements with
  | nil => exact singleLine_nil
  | cons element elements =>
      cases elements with
      | nil => exact singleLine_text element
      | cons other elements =>
          exact (singleLine_text element).append
            ((singleLine_elementsText (other :: elements)).cons (by decide))

theorem singleLine_entriesText (entries : List (String × Json)) :
    SingleLine (entriesText entries) := by
  cases entries with
  | nil => exact singleLine_nil
  | cons entry entries =>
      obtain ⟨key, value⟩ := entry
      have isEntry : SingleLine (quote key ++ ':' :: value.text) :=
        (singleLine_quote key).append ((singleLine_text value).cons (by decide))
      cases entries with
      | nil => exact isEntry
      | cons other entries =>
          have rest := singleLine_entriesText (other :: entries)
          have noBreak : ',' ≠ '\n' ∧ ',' ≠ '\r' := by decide
          rw [entriesText]
          exact isEntry.append (rest.cons noBreak)

end

end LineBreaks

example : (object [("a", array [null, bool true])]).stringify =
    "\x7b\"a\":[null,true]\x7d" := by decide

end Json
end Foundations
end AiGateway
