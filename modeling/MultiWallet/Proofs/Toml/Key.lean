import MultiWallet.Proofs.Toml.Place
import MultiWallet.Proofs.Toml.Quoted
import MultiWallet.Toml.Document

set_option autoImplicit false

namespace MultiWallet.Toml

open Draft

variable {p : Place} {d : Draft} {text : List Char}

theorem newline?_eq (text : List Char) :
    newline? text = (expect '\n' text).elim ((expect '\x0d' text).bind (expect '\n')) some := by
  obtain ⟨rest, rfl, first⟩ | ⟨line, first⟩ := expect_cases '\n' text
  · rfl
  obtain ⟨rest, rfl, second⟩ | ⟨carriage, second⟩ := expect_cases '\x0d' text
  · obtain ⟨rest, rfl, third⟩ | ⟨line, third⟩ := expect_cases '\n' rest
    · rfl
    · rw [first, second, Option.elim_none, Option.bind_some, third, newline?]
      · simp
      · rintro after ⟨⟩
        exact line after rfl
  · rw [first, second, newline?]
    · rfl
    · exact line
    · exact fun after => carriage _

namespace Leaves

variable {e : Draft} {result : List Char → List Char}

theorem weaken (leaves : Leaves p d result) (within : NoLonger d e) : Leaves p e result := by
  obtain ⟨rest, placed, shorter, same⟩ := leaves
  exact ⟨rest, placed, shorter.noLonger_trans within, same⟩

end Leaves

namespace Placed

theorem newline? (placed : Placed p d) :
    Uniform (fun value => Toml.newline? (d.fill value)) (Leaves (p.next '\n') d) := by
  refine Uniform.congr ?_ fun value => newline?_eq (d.fill value)
  refine (placed.expect (by decide)).elim (fun result leaves => .done leaves fun _ => rfl) ?_
  refine (placed.expect (by decide)).bind ?_
  rintro _ ⟨rest, later, shorter, rfl⟩
  rw [Place.next_of_not_mem (by decide)] at later
  exact (later.expect (by decide)).weaken fun _ leaves => leaves.weaken shorter.noLonger

theorem of_hash (placed : Placed p (some '#' :: d)) :
    ∃ (text : List Char) (rest : Draft), d = text.map some ++ rest ∧
      (∀ c ∈ text, isPlain c = true) ∧ (∀ c, rest.head? = some (some c) → isPlain c = false) ∧
      Placed p rest := by
  cases placed with
  | char bare => exact absurd (by decide) bare
  | comment plain ends later => exact ⟨_, _, rfl, plain, ends, later⟩
  | key _ quoted => simp at quoted
  | text _ quoted => simp at quoted

theorem skipComment (placed : Placed p d) :
    ∃ rest, Placed p rest ∧ NoLonger rest d ∧
      ∀ value, Toml.skipComment (d.fill value) = rest.fill value := by
  rcases d with _ | ⟨_ | c, d⟩
  · exact ⟨[], placed, .refl _, fun _ => rfl⟩
  · exact placed.not_gap.elim
  · by_cases hash : c = '#'
    · subst hash
      obtain ⟨text, rest, rfl, plain, ends, later⟩ := placed.of_hash
      exact ⟨rest, later, (noLonger_append _ _).trans (shorter_cons _ _).noLonger,
        fun value => (later.fill_run plain ends value).2⟩
    · refine ⟨_, placed, .refl _, fun value => ?_⟩
      rw [fill_char, Toml.skipComment]
      rintro _ ⟨⟩
      exact hash rfl

theorem skipLinesWithin {d : Draft} (line : p.next '\n' = p) {limit : List Char → Nat}
    (within : Within d limit) (placed : Placed p d) :
    ∃ rest, Placed p rest ∧ NoLonger rest d ∧
      ∀ value, Toml.skipLinesWithin (limit value) (d.fill value) = rest.fill value := by
  obtain ⟨spaced, inLine, noLonger, spaces, -⟩ := placed.skipSpaces
  obtain ⟨commented, atEnd, noLonger', comments⟩ := inLine.skipComment
  have step (value : List Char) :
      Toml.skipLinesWithin (limit value) (d.fill value) =
        (Toml.newline? (commented.fill value)).elim (spaced.fill value)
          (Toml.skipLinesWithin (limit value - 1)) := by
    rw [within.limit_eq value, Toml.skipLinesWithin, spaces, comments, Nat.add_sub_cancel]
    cases Toml.newline? (commented.fill value) <;> rfl
  -- A comment is only skipped with the end of its line; else the text is left before it.
  rcases atEnd.newline? with none | ⟨_, ⟨rest, later, shorter, rfl⟩, some⟩ <;> beta_reduce at *
  · refine ⟨spaced, inLine, noLonger, fun value => ?_⟩
    rw [step, none, Option.elim_none]
  · rw [line] at later
    have shorter : Shorter rest d := shorter.noLonger_trans (noLonger'.trans noLonger)
    obtain ⟨last, there, noLonger, skips⟩ := later.skipLinesWithin line (shorter.within within)
    refine ⟨last, there, noLonger.trans shorter.noLonger, fun value => ?_⟩
    rw [step, some, Option.elim_some, skips]
termination_by (d.fill []).length
decreasing_by exact shorter []

theorem skipLines (line : p.next '\n' = p) (placed : Placed p d) :
    ∃ rest, Placed p rest ∧ NoLonger rest d ∧
      ∀ value, Toml.skipLines (d.fill value) = rest.fill value :=
  placed.skipLinesWithin line (within_length d)

end Placed

theorem readKey_bare (double : text.head? ≠ some '"') (single : text.head? ≠ some '\'') :
    readKey text =
      if (text.takeWhile isBareKey).isEmpty then none
      else some (String.ofList (text.takeWhile isBareKey), text.dropWhile isBareKey) := by
  rw [readKey]
  · rintro rest rfl
    exact double rfl
  · rintro rest rfl
    exact single rfl

theorem readKeysWithin_succ (limit : Nat) (text : List Char) :
    readKeysWithin (limit + 1) text =
      (readKey (skipSpaces text)).bind fun first =>
        (expect '.' (skipSpaces first.2)).elim (some ([first.1], skipSpaces first.2)) fun rest =>
          (readKeysWithin limit rest).map fun later => (first.1 :: later.1, later.2) := by
  rw [readKeysWithin]
  refine congrArg _ (funext fun first => ?_)
  dsimp only
  obtain ⟨rest, same, found⟩ | ⟨other, missing⟩ := expect_cases '.' (skipSpaces first.2)
  · rw [found, same]
    exact (Option.map_eq_bind ..).symm
  · rw [missing]
    split
    next same => exact absurd same (other _)
    next => rfl

namespace Placed

theorem readKey (due : p.value = false) (placed : Placed p d) :
    Uniform (fun value => Toml.readKey (d.fill value)) (Passes p d Fixed) := by
  have bare (double : d.head? ≠ some (some '"')) (single : d.head? ≠ some (some '\'')) :
      Uniform (fun value => Toml.readKey (d.fill value)) (Passes p d Fixed) := by
    have double := placed.fill_head_ne double
    have single := placed.fill_head_ne single
    have steady : Steady isBareKey := by decide
    obtain ⟨run, rest, rfl, later, all, stops⟩ := exists_run steady placed
    have reads (value : List Char) :
        Toml.readKey (fill value (run.map some ++ rest)) =
          if run.isEmpty then none else some (String.ofList run, rest.fill value) := by
      obtain ⟨taken, left⟩ := later.fill_run all stops value
      rw [readKey_bare (double value) (single value), taken, left]
    cases run with
    | nil => exact .failed reads
    | cons c run =>
      refine .done ⟨_, ⟨String.ofList (c :: run), rfl⟩, rest, later, ?_, rfl⟩ reads
      exact (noLonger_append _ _).shorter (shorter_cons _ _)
  rcases d with _ | ⟨_ | c, d⟩
  · exact bare (by simp) (by simp)
  · exact placed.not_gap.elim
  · cases placed with
    | char opener =>
      refine bare ?_ ?_ <;>
      · rintro ⟨⟩
        exact opener (by decide)
    | comment => exact bare (by simp) (by simp)
    | @key _ _ text key rest _ quoted known later =>
      refine .done ⟨_, ⟨key, rfl⟩, rest, later, ?_, rfl⟩ fun value => ?_
      · exact (noLonger_append _ _).shorter (shorter_cons _ _)
      · rw [fill_char, fill_append, fill_chars]
        exact readKey_append quoted known
    | text value =>
      rw [due] at value
      cases value
    | basic value =>
      rw [due] at value
      cases value

theorem readKeysWithin {d : Draft} (due : p.value = false) {limit : List Char → Nat}
    (within : Within d limit) (placed : Placed p d) :
    Uniform (fun value => Toml.readKeysWithin (limit value) (d.fill value)) (Passes p d Fixed) := by
  refine Uniform.congr ?_ fun value =>
    (congrArg (Toml.readKeysWithin · (d.fill value)) (within.limit_eq value)).trans
      (readKeysWithin_succ (limit value - 1) (d.fill value))
  obtain ⟨spaced, there, noLonger, spaces, -⟩ := placed.skipSpaces
  simp only [spaces]
  refine (there.readKey due).bind ?_
  rintro _ ⟨_, ⟨first, rfl⟩, behind, placed, shorter, rfl⟩
  obtain ⟨rest, placed, noLonger', spaces, -⟩ := placed.skipSpaces
  have shorter : Shorter rest d := (noLonger'.shorter shorter).noLonger_trans noLonger
  simp only [spaces]
  -- Without a dot the first key is the only one. Behind a dot the text is shorter for all values,
  -- so that one less than the limit of each is a limit there.
  refine (placed.expect (by decide)).elim ?_
    (.done ⟨_, ⟨[first], rfl⟩, rest, placed, shorter, rfl⟩ fun _ => rfl)
  rintro _ ⟨after, placed, shorter', rfl⟩
  rw [Place.next_of_not_mem (by decide)] at placed
  have shorter : Shorter after d := shorter'.noLonger_trans shorter.noLonger
  refine (placed.readKeysWithin due (shorter.within within)).map ?_
  rintro _ ⟨_, ⟨later, rfl⟩, last, placed, shorter', rfl⟩
  exact ⟨_, ⟨first :: later, rfl⟩, last, placed, shorter'.noLonger_trans shorter.noLonger, rfl⟩
termination_by (d.fill []).length
decreasing_by exact shorter []

theorem readKeys (due : p.value = false) (placed : Placed p d) :
    Uniform (fun value => Toml.readKeys (d.fill value)) (Passes p d Fixed) := by
  refine (placed.readKeysWithin due (within_length d)).filter ?_
  rintro _ ⟨_, ⟨keys, rfl⟩, _, _, _, rfl⟩
  exact ⟨_, fun _ => rfl⟩

end Placed

end MultiWallet.Toml
