import JobProgress.Location

/-! The text of a location tells apart all that it shows. The identifier can hold anything, also
bars, but nothing that follows it holds a bar, so it ends at the last one. The numbers that follow
end at the first character that is no digit. -/

namespace JobProgress

namespace Text

theorem eq_nil_of_append_cons_eq {β : Type} {separator : β} {between rest others : List β}
    (last : separator ∉ rest) (same : separator :: rest = between ++ separator :: others) :
    between = [] ∧ rest = others := by
  cases between with
  | nil => exact ⟨rfl, List.tail_eq_of_cons_eq same⟩
  | cons _ between =>
      have inside : separator ∈ rest := by
        rw [List.tail_eq_of_cons_eq same]
        exact List.mem_append_right between List.mem_cons_self
      exact absurd inside last

/-- Two texts with the same last separator are the same on either side of it. -/
theorem append_cons_inj_of_last {β : Type} {separator : β} {first second rest others : List β}
    (last : separator ∉ rest) (alsoLast : separator ∉ others)
    (same : first ++ separator :: rest = second ++ separator :: others) :
    first = second ∧ rest = others := by
  -- If one of the first parts were longer, the other text would have a separator in its rest.
  rcases List.append_eq_append_iff.mp same with ⟨between, rfl, tail⟩ | ⟨between, rfl, tail⟩
  · rcases eq_nil_of_append_cons_eq last tail with ⟨rfl, follows⟩
    exact ⟨(List.append_nil first).symm, follows⟩
  · rcases eq_nil_of_append_cons_eq alsoLast tail with ⟨rfl, follows⟩
    exact ⟨List.append_nil second, follows.symm⟩

/-! ## Numbers -/

def digits (number : Nat) : List Char := (toString number).toList

theorem digits_eq (number : Nat) : digits number = Nat.toDigits 10 number := Nat.toList_repr

theorem isDigit_of_mem_digits {number : Nat} {c : Char} (member : c ∈ digits number) :
    c.isDigit = true := by
  rw [digits_eq] at member
  exact Nat.isDigit_of_mem_toDigits (by decide) (by decide) member

theorem digits_inj {first second : Nat} (same : digits first = digits second) :
    first = second := by
  rw [← @Nat.ofDigitChars_ten_toDigits first, ← @Nat.ofDigitChars_ten_toDigits second,
    ← digits_eq, ← digits_eq, same]

theorem takeWhile_digits_append (number : Nat) {c : Char} (stop : c.isDigit = false)
    (rest : List Char) : (digits number ++ c :: rest).takeWhile Char.isDigit = digits number := by
  rw [List.takeWhile_append_of_pos fun _ => isDigit_of_mem_digits,
    List.takeWhile_cons_of_neg (by simp [stop]), List.append_nil]

theorem digits_append_inj {first second : Nat} {c d : Char} {rest others : List Char}
    (stop : c.isDigit = false) (alsoStop : d.isDigit = false)
    (same : digits first ++ c :: rest = digits second ++ d :: others) :
    first = second ∧ c = d ∧ rest = others := by
  have written : digits first = digits second := by
    rw [← takeWhile_digits_append first stop rest, same, takeWhile_digits_append second alsoStop]
  rw [written] at same
  have follows := List.append_cancel_left same
  exact ⟨digits_inj written, List.head_eq_of_cons_eq follows, List.tail_eq_of_cons_eq follows⟩

end Text

open Text

theorem LineColumn.text_toList (position : LineColumn) :
    position.text.toList =
      '<' :: digits position.line ++ ',' :: digits position.column ++ ['>'] := by
  simp [text, digits]

theorem CharacterSpan.text_toList (span : CharacterSpan) :
    span.text.toList = digits span.offset ++ ',' :: digits span.length := by
  simp [text, digits]

theorem LineColumn.text_append_inj {first second : LineColumn} {rest others : List Char}
    (same : first.text.toList ++ rest = second.text.toList ++ others) :
    first = second ∧ rest = others := by
  simp only [text_toList, List.cons_append, List.append_assoc, List.nil_append, List.cons.injEq,
    true_and] at same
  rcases digits_append_inj (by decide) (by decide) same with ⟨line, _, afterLine⟩
  rcases digits_append_inj (by decide) (by decide) afterLine with ⟨column, _, follows⟩
  exact ⟨congr (congrArg LineColumn.mk line) column, follows⟩

theorem CharacterSpan.text_append_inj {first second : CharacterSpan} {c d : Char}
    {rest others : List Char} (stop : c.isDigit = false) (alsoStop : d.isDigit = false)
    (same : first.text.toList ++ c :: rest = second.text.toList ++ d :: others) :
    first = second ∧ c = d ∧ rest = others := by
  simp only [text_toList, List.append_assoc, List.cons_append] at same
  rcases digits_append_inj (by decide) (by decide) same with ⟨offset, _, afterOffset⟩
  rcases digits_append_inj stop alsoStop afterOffset with ⟨length, follows⟩
  exact ⟨congr (congrArg CharacterSpan.mk offset) length, follows⟩

/-- What follows a span: a character that is no digit, and the rest up to the end. -/
def LineRange.closing : Option LineRange → Char × List Char
  | none => (')', [])
  | some lines => (',', lines.start.text.toList ++ ',' :: (lines.stop.text.toList ++ [')']))

theorem LineRange.closing_stops (lines : Option LineRange) : (closing lines).1.isDigit = false := by
  cases lines <;> rfl

theorem LineRange.closing_inj {lines others : Option LineRange}
    (same : closing lines = closing others) : lines = others := by
  cases lines with
  | none =>
      cases others with
      | none => rfl
      | some others => exact absurd (congrArg Prod.fst same) (show ')' ≠ ',' by decide)
  | some lines =>
      cases others with
      | none => exact absurd (congrArg Prod.fst same) (show ',' ≠ ')' by decide)
      | some others =>
          rcases LineColumn.text_append_inj (congrArg Prod.snd same) with ⟨start, afterStart⟩
          rcases LineColumn.text_append_inj (List.tail_eq_of_cons_eq afterStart) with ⟨stop, _⟩
          exact congrArg some (congr (congrArg LineRange.mk start) stop)

namespace SourceLocation

open LineRange

theorem text_toList (location : SourceLocation) :
    location.text.toList =
      '|' :: location.uri.text.toList ++ '|' :: location.detailText.toList := by
  simp [text]

theorem detailText_toList (uri : Uri) (span : CharacterSpan) (lines : Option LineRange) :
    (SourceLocation.mk uri (some span) lines).detailText.toList =
      '(' :: (span.text.toList ++ (closing lines).1 :: (closing lines).2) := by
  cases lines <;> simp [detailText, closing]

theorem bar_notMem_detailText (location : SourceLocation) :
    '|' ∉ location.detailText.toList := by
  have noDigit (number : Nat) : '|' ∉ digits number := fun member =>
    absurd (isDigit_of_mem_digits member) (by decide)
  rcases location with ⟨uri, _ | span, _ | lines⟩ <;>
    simp [detailText, LineColumn.text_toList, CharacterSpan.text_toList, noDigit]

theorem detailText_eq_iff (first second : SourceLocation) :
    first.detailText = second.detailText ↔
      first.span = second.span ∧
        ((first.span = none ∧ second.span = none) ∨ first.lines = second.lines) := by
  constructor
  · intro same
    have same := String.toList_inj.mpr same
    rcases first with ⟨_, span, lines⟩
    rcases second with ⟨_, other, others⟩
    cases span with
    | none =>
        cases other with
        | none => exact ⟨rfl, .inl ⟨rfl, rfl⟩⟩
        | some other => exact absurd (same.trans (detailText_toList ..)) nofun
    | some span =>
        cases other with
        | none => exact absurd ((detailText_toList ..).symm.trans same) nofun
        | some other =>
            rw [detailText_toList, detailText_toList] at same
            rcases CharacterSpan.text_append_inj (closing_stops lines) (closing_stops others)
              (List.tail_eq_of_cons_eq same) with ⟨span, stop, rest⟩
            exact ⟨congrArg some span, .inr (closing_inj (Prod.ext stop rest))⟩
  · rintro ⟨span, ⟨none, _⟩ | lines⟩
    · simp [detailText, ← span, none]
    · simp [detailText, ← span, ← lines]

/-- Locations have the same text when all that is shown of them is the same: the identifier, the
span, and the lines beside a span. In which order the span and the lines were added is not seen. -/
theorem text_eq_text_iff (first second : SourceLocation) :
    (first.text = second.text ↔
      first.uri.text = second.uri.text ∧ first.span = second.span ∧
        ((first.span = none ∧ second.span = none) ∨ first.lines = second.lines)) ∧
      ∀ span lines, ((first.withSpan span).withLines lines).text =
        ((first.withLines lines).withSpan span).text := by
  refine ⟨?_, fun _ _ => rfl⟩
  rw [← detailText_eq_iff]
  constructor
  · intro same
    have same := String.toList_inj.mpr same
    rw [text_toList, text_toList] at same
    rcases append_cons_inj_of_last (bar_notMem_detailText first) (bar_notMem_detailText second)
      (List.tail_eq_of_cons_eq same) with ⟨uri, detail⟩
    exact ⟨String.toList_inj.mp uri, String.toList_inj.mp detail⟩
  · rintro ⟨uri, detail⟩
    rw [text, text, uri, detail]

example :
    (ofUri ⟨"a|(4,2)"⟩).text = "|a|(4,2)|" ∧
      ((ofUri ⟨"a"⟩).withSpan ⟨4, 2⟩).text = "|a|(4,2)" := by
  decide +kernel

end SourceLocation

end JobProgress
