import Mathlib
import MultiWallet.Toml.Text

set_option autoImplicit false

namespace MultiWallet.Toml

variable {seen text rest more : List Char} {s : String} {c quote : Char}

theorem readCode_append {width : Nat} (read : readCode text width = some (c, rest)) :
    readCode (text ++ more) width = some (c, rest ++ more) := by
  simp only [readCode, Option.bind_eq_bind, Option.bind_eq_some_iff] at read
  obtain ⟨values, known, read⟩ := read
  split at read
  next valid =>
    cases read
    have long : width ≤ text.length := by
      have := valid.1
      rw [List.length_take] at this
      omega
    simp only [readCode, List.take_append_of_le_length long, known, Option.bind_eq_bind,
      Option.bind_some, if_pos valid, List.drop_append_of_le_length long]
  next => cases read

theorem readEscape_append (read : readEscape text = some (c, rest)) :
    readEscape (text ++ more) = some (c, rest ++ more) := by
  unfold readEscape at read
  split at read
  next => exact readCode_append read
  next => exact readCode_append read
  next first text other wide =>
    obtain ⟨found, known, same⟩ := Option.map_eq_some_iff.1 read
    cases same
    rw [List.cons_append, readEscape, known]
    · rfl
    · simpa using other
    · simpa using wide
  next => cases read

theorem readBasic_quote :
    readBasic seen ('"' :: text) = some (String.ofList seen.reverse, text) := by
  rw [readBasic]

theorem readBasic_escape (known : readEscape text = some (c, rest)) :
    readBasic seen ('\\' :: text) = readBasic (c :: seen) rest := by
  rw [readBasic]
  split
  next found _ same =>
    rw [known] at same
    cases same
    rfl
  next missing =>
    rw [known] at missing
    cases missing

theorem readBasic_char (quote : c ≠ '"') (escape : c ≠ '\\') :
    readBasic seen (c :: text) = if isPlain c then readBasic (c :: seen) text else none := by
  rw [readBasic]
  · exact quote
  · exact escape

theorem readBasic_append (read : readBasic seen text = some (s, rest)) :
    readBasic seen (text ++ more) = some (s, rest ++ more) := by
  fun_induction readBasic seen text with
  | case1 => cases read
  | case2 seen text =>
    cases read
    exact readBasic_quote
  | case3 seen text c after known ih =>
    rw [List.cons_append, readBasic_escape (readEscape_append known)]
    exact ih read
  | case4 => cases read
  | case5 seen c text quote escape plain ih =>
    rw [List.cons_append, readBasic_char quote escape, if_pos plain]
    exact ih read
  | case6 => cases read

theorem readLiteral_append (read : readLiteral seen text = some (s, rest)) :
    readLiteral seen (text ++ more) = some (s, rest ++ more) := by
  fun_induction readLiteral seen text with
  | case1 => cases read
  | case2 seen text =>
    cases read
    rw [List.cons_append, readLiteral]
  | case3 seen c text quote plain ih =>
    rw [List.cons_append, readLiteral, if_pos plain]
    · exact ih read
    · exact quote
  | case4 => cases read

theorem closing?_append (ends : more.head? ≠ some quote) :
    closing? quote (text ++ more) =
      (closing? quote text).map fun (tail, rest) => (tail, rest ++ more) := by
  have none : more.takeWhile (· == quote) = [] := by
    cases more with
    | nil => rfl
    | cons c more =>
      rw [List.takeWhile_cons, if_neg]
      simpa using ends
  have run : (text ++ more).takeWhile (· == quote) = text.takeWhile (· == quote) := by
    rw [List.takeWhile_append]
    split
    next whole => rw [none, List.append_nil, (List.takeWhile_sublist _).eq_of_length whole]
    next => rfl
  have short := (List.takeWhile_sublist (· == quote) (l := text)).length_le
  simp only [closing?, run]
  split
  next => rw [Option.map_some, List.drop_append_of_le_length (by omega)]
  next => rfl

def Cut (text : List Char) : Prop := text = [] ∨ text = ['\x0d']

theorem newline?_append (whole : ¬ Cut text) :
    newline? (text ++ more) = (newline? text).map (· ++ more) := by
  unfold Cut at whole
  rcases text with _ | ⟨c, _ | ⟨d, text⟩⟩
  · simp at whole
  · unfold newline?
    split <;> simp_all
  · unfold newline?
    split <;> simp_all

theorem skipBlankLines_append (whole : ¬ Cut (skipBlankLines text)) :
    skipBlankLines (text ++ more) = skipBlankLines text ++ more := by
  fun_induction skipBlankLines text with
  | case1 rest ih =>
    rw [List.cons_append, List.cons_append, skipBlankLines]
    exact ih whole
  | case2 c rest other blank ih =>
    rw [List.cons_append, skipBlankLines, if_pos blank]
    · exact ih whole
    · rintro _ rfl
      exact absurd blank (by decide)
  | case3 c rest other solid =>
    rw [List.cons_append, skipBlankLines, if_neg solid]
    intro after carriage same
    cases rest with
    | nil => exact whole (.inr (by rw [carriage]))
    | cons d rest =>
      obtain ⟨rfl, _⟩ := List.cons.inj same
      exact other _ carriage rfl
  | case4 => exact absurd (.inl rfl) whole

theorem joinLines?_append (joined : joinLines? text = some rest) (whole : ¬ Cut rest) :
    joinLines? (text ++ more) = some (rest ++ more) := by
  unfold joinLines? at joined
  split at joined
  next after known =>
    cases joined
    -- The line that was found ends within the text, hence so do the spaces before it.
    have stops : ¬ Cut (skipSpaces text) := by
      rintro (empty | carriage)
      · rw [empty] at known
        cases known
      · rw [carriage] at known
        cases known
    have spaces : skipSpaces (text ++ more) = skipSpaces text ++ more := by
      unfold skipSpaces
      rw [List.dropWhile_append, if_neg]
      rw [List.isEmpty_iff]
      exact fun empty => stops (.inl empty)
    unfold joinLines?
    rw [spaces, newline?_append stops, known, Option.map_some]
    exact congrArg some (skipBlankLines_append whole)
  next => cases joined

theorem joinLines?_escape (read : readEscape text = some (c, rest)) : joinLines? text = none := by
  cases text with
  | nil => cases read
  | cons first text =>
    have solid : first ∉ [' ', '\t', '\n', '\x0d'] := by
      intro blank
      fin_cases blank <;> cases read
    simp only [List.mem_cons, List.not_mem_nil, or_false, not_or] at solid
    obtain ⟨space, tab, line, carriage⟩ := solid
    have stops : skipSpaces (first :: text) = first :: text := by
      simp [skipSpaces, isSpace, space, tab]
    unfold joinLines?
    rw [stops, newline?]
    · rintro _ ⟨⟩
      exact line rfl
    · rintro _ ⟨⟩
      exact carriage rfl

theorem readLongBasic_closed {tail : List Char} (closed : closing? '"' text = some (tail, rest)) :
    readLongBasic seen text = some (String.ofList (seen.reverse ++ tail), rest) := by
  rw [readLongBasic.eq_def, closed]

theorem readLongBasic_joined (opened : closing? '"' ('\\' :: text) = none)
    (joined : joinLines? text = some rest) :
    readLongBasic seen ('\\' :: text) = readLongBasic seen rest := by
  rw [readLongBasic.eq_def]
  simp only [opened]
  split
  next after known =>
    rw [joined] at known
    cases known
    rfl
  next missing =>
    rw [joined] at missing
    cases missing

theorem readLongBasic_escape (opened : closing? '"' ('\\' :: text) = none)
    (known : readEscape text = some (c, rest)) :
    readLongBasic seen ('\\' :: text) = readLongBasic (c :: seen) rest := by
  rw [readLongBasic.eq_def]
  simp only [opened]
  split
  next after joined =>
    rw [joinLines?_escape known] at joined
    cases joined
  next =>
    split
    next found _ same =>
      rw [known] at same
      cases same
      rfl
    next missing =>
      rw [known] at missing
      cases missing

theorem readLongBasic_line (opened : closing? '"' ('\x0d' :: '\n' :: text) = none) :
    readLongBasic seen ('\x0d' :: '\n' :: text) = readLongBasic ('\n' :: seen) text := by
  rw [readLongBasic.eq_def]
  simp only [opened]

theorem readLongBasic_char (opened : closing? '"' (c :: text) = none) (escape : c ≠ '\\')
    (carriage : c ≠ '\x0d') :
    readLongBasic seen (c :: text) =
      if isPlain c || c == '\n' then readLongBasic (c :: seen) text else none := by
  rw [readLongBasic.eq_def]
  simp only [opened]
  split
  next same => cases same
  next same =>
    cases same
    exact absurd rfl escape
  next same =>
    cases same
    exact absurd rfl carriage
  next same =>
    cases same
    rfl

theorem readLongBasic_cut (cut : Cut text) : readLongBasic seen text = none := by
  rcases cut with rfl | rfl
  · rw [readLongBasic.eq_def]
    rfl
  · rw [readLongBasic.eq_def]
    rfl

theorem readLongBasic_append (read : readLongBasic seen text = some (s, rest))
    (ends : more.head? ≠ some '"') :
    readLongBasic seen (text ++ more) = some (s, rest ++ more) := by
  have stillOpen {text : List Char} (opened : closing? '"' text = none) :
      closing? '"' (text ++ more) = none := by
    rw [closing?_append ends, opened, Option.map_none]
  fun_induction readLongBasic seen text with
  | case1 seen text tail rest closed =>
    cases read
    refine readLongBasic_closed ?_
    rw [closing?_append ends, closed, Option.map_some]
  | case2 => cases read
  | case3 seen text after joined opened ih =>
    -- Blank lines at the very end could go on in what is appended, but no text ends there.
    have whole : ¬ Cut after := fun cut => by
      rw [readLongBasic_cut cut] at read
      cases read
    refine (readLongBasic_joined (stillOpen opened) (joinLines?_append joined whole)).trans ?_
    exact ih read
  | case4 seen text _ c after known opened ih =>
    refine (readLongBasic_escape (stillOpen opened) (readEscape_append known)).trans ?_
    exact ih read
  | case5 => cases read
  | case6 seen text opened ih =>
    refine (readLongBasic_line (stillOpen opened)).trans ?_
    exact ih read
  | case7 seen c text escape other plain opened ih =>
    have carriage : c ≠ '\x0d' := by
      rintro rfl
      exact absurd plain (by decide)
    refine (readLongBasic_char (stillOpen opened) escape carriage).trans ?_
    rw [if_pos plain]
    exact ih read
  | case8 => cases read

theorem readLongLiteral_append (read : readLongLiteral seen text = some (s, rest))
    (ends : more.head? ≠ some '\'') :
    readLongLiteral seen (text ++ more) = some (s, rest ++ more) := by
  have stillOpen {text : List Char} (opened : closing? '\'' text = none) :
      closing? '\'' (text ++ more) = none := by
    rw [closing?_append ends, opened, Option.map_none]
  fun_induction readLongLiteral seen text with
  | case1 seen text tail rest closed =>
    cases read
    rw [readLongLiteral.eq_def, closing?_append ends, closed, Option.map_some]
  | case2 => cases read
  | case3 seen text opened ih =>
    have opened := stillOpen opened
    rw [List.cons_append, List.cons_append] at opened ⊢
    rw [readLongLiteral.eq_def]
    simp only [opened]
    exact ih read
  | case4 seen c text other plain opened ih =>
    have opened := stillOpen opened
    rw [List.cons_append] at opened ⊢
    rw [readLongLiteral.eq_def]
    simp only [opened]
    split
    next same => cases same
    next same =>
      obtain ⟨rfl, -⟩ := List.cons.inj same
      exact absurd plain (by decide)
    next same =>
      obtain ⟨rfl, rfl⟩ := List.cons.inj same
      rw [if_pos plain]
      exact ih read
  | case5 => cases read

theorem readLongLiteral_cut (cut : Cut text) : readLongLiteral seen text = none := by
  rcases cut with rfl | rfl
  · rw [readLongLiteral.eq_def]
    rfl
  · rw [readLongLiteral.eq_def]
    rfl

theorem Cut.afterNewline (cut : Cut text) : Cut (afterNewline text) := by
  rcases cut with rfl | rfl
  · exact .inl rfl
  · exact .inr rfl

theorem afterNewline_append (whole : ¬ Cut text) :
    afterNewline (text ++ more) = afterNewline text ++ more := by
  unfold afterNewline
  rw [newline?_append whole]
  cases newline? text <;> rfl

theorem readQuoted_basic (short : ∀ rest, text ≠ '"' :: '"' :: rest) :
    readQuoted ('"' :: text) = readBasic [] text := by
  rw [readQuoted]
  exact short

theorem readQuoted_literal (short : ∀ rest, text ≠ '\'' :: '\'' :: rest) :
    readQuoted ('\'' :: text) = readLiteral [] text := by
  rw [readQuoted]
  exact short

theorem append_ne_quotes (short : ∀ rest, text ≠ quote :: quote :: rest) (some : text ≠ [])
    (ends : more.head? ≠ Option.some quote) (rest : List Char) :
    text ++ more ≠ quote :: quote :: rest := by
  rintro same
  rcases text with _ | ⟨c, _ | ⟨d, text⟩⟩
  · exact some rfl
  · rw [List.cons_append, List.nil_append] at same
    exact ends (by rw [(List.cons.inj same).2, List.head?_cons])
  · simp only [List.cons_append, List.cons.injEq] at same
    obtain ⟨rfl, rfl, -⟩ := same
    exact short text rfl

theorem readQuoted_append (read : readQuoted (quote :: text) = some (s, rest))
    (ends : more.head? ≠ some quote) :
    readQuoted (quote :: (text ++ more)) = some (s, rest ++ more) := by
  unfold readQuoted at read
  split at read
  next text same =>
    cases same
    have whole : ¬ Cut text := fun cut => by
      rw [readLongBasic_cut cut.afterNewline] at read
      cases read
    exact (congrArg _ (afterNewline_append whole)).trans (readLongBasic_append read ends)
  next text short same =>
    obtain ⟨rfl, rfl⟩ := List.cons.inj same
    have inside : text ≠ [] := by
      rintro rfl
      simp [readBasic] at read
    rw [readQuoted_basic (append_ne_quotes short inside ends)]
    exact readBasic_append read
  next text same =>
    cases same
    have whole : ¬ Cut text := fun cut => by
      rw [readLongLiteral_cut cut.afterNewline] at read
      cases read
    exact (congrArg _ (afterNewline_append whole)).trans (readLongLiteral_append read ends)
  next text short same =>
    obtain ⟨rfl, rfl⟩ := List.cons.inj same
    have inside : text ≠ [] := by
      rintro rfl
      cases read
    rw [readQuoted_literal (append_ne_quotes short inside ends)]
    exact readLiteral_append read
  next => cases read

theorem readKey_append (quoted : quote = '"' ∨ quote = '\'')
    (read : readKey (quote :: text) = some (s, rest)) :
    readKey (quote :: (text ++ more)) = some (s, rest ++ more) := by
  rcases quoted with rfl | rfl
  · exact readBasic_append read
  · exact readLiteral_append read

end MultiWallet.Toml
