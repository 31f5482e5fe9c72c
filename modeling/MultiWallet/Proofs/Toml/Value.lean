import MultiWallet.Proofs.Toml.Key
import MultiWallet.Proofs.Toml.Source

set_option autoImplicit false

namespace MultiWallet.Toml

open Draft

variable {p : Place} {d : Draft} {value seen rest more : List Char} {s : String}

theorem readBasic_unquoted (unquoted : Unquoted value) :
    readBasic seen (value ++ more) = readBasic (value.reverse ++ seen) more ∨
      ¬ Plain value ∧ readBasic seen (value ++ more) = none := by
  induction value generalizing seen with
  | nil => exact .inl rfl
  | cons c value ih =>
    obtain ⟨⟨quote, escape⟩, unquoted⟩ := List.forall_mem_cons.1 unquoted
    rw [List.cons_append, readBasic_char quote escape, List.reverse_cons, List.append_assoc]
    by_cases plain : isPlain c = true
    · rw [if_pos plain]
      refine (ih unquoted).imp_right fun ⟨odd, fails⟩ => ⟨fun all => odd ?_, fails⟩
      exact (List.forall_mem_cons.1 all).2
    · rw [if_neg plain]
      exact .inr ⟨fun all => plain (List.forall_mem_cons.1 all).1, rfl⟩

theorem Spelled.readBasic {body text : Draft} (spelled : Spelled body text)
    (unquoted : Unquoted value) (seen : List Char) :
    Toml.readBasic seen (body.fill value ++ '"' :: more) =
        some (String.ofList (seen.reverse ++ text.fill value), more) ∨
      ¬ Plain value ∧ Toml.readBasic seen (body.fill value ++ '"' :: more) = none := by
  induction spelled generalizing seen with
  | nil =>
    rw [fill_nil, List.nil_append, readBasic_quote]
    simp
  | gap _ ih =>
    rw [fill_gap, List.append_assoc]
    rcases readBasic_unquoted unquoted with same | fails
    · rw [same]
      simpa using ih (value.reverse ++ seen)
    · exact .inr fails
  | @char c _ _ plain quote escape _ ih =>
    rw [fill_char, List.cons_append, readBasic_char quote escape, if_pos plain]
    simpa using ih (c :: seen)
  | @escape _ c _ _ known _ ih =>
    rw [fill_char, fill_append, fill_chars, List.cons_append, List.append_assoc,
      readBasic_escape (readEscape_append known)]
    simpa using ih (c :: seen)

theorem Spelled.head_ne_quote {body text : Draft} (spelled : Spelled body text)
    (unquoted : Unquoted value) : (body.fill value).head? ≠ some '"' := by
  induction spelled with
  | nil => simp
  | gap _ ih =>
    cases value with
    | nil => exact ih
    | cons c value => simpa using (unquoted c List.mem_cons_self).1
  | char _ quote => simpa using quote
  | escape => simp

theorem Spelled.readQuoted {body text : Draft} (spelled : Spelled body text)
    (unquoted : Unquoted value) (ends : more.head? ≠ some '"') :
    Toml.readQuoted ('"' :: (body.fill value ++ '"' :: more)) =
        some (String.ofList (text.fill value), more) ∨
      ¬ Plain value ∧ Toml.readQuoted ('"' :: (body.fill value ++ '"' :: more)) = none := by
  have short (after : List Char) : body.fill value ++ '"' :: more ≠ '"' :: '"' :: after := by
    intro same
    have head := spelled.head_ne_quote unquoted
    cases filled : body.fill value with
    | nil =>
      rw [filled] at same
      simp_all
    | cons c text =>
      rw [filled] at same head
      simp_all
  rw [readQuoted_basic short]
  exact spelled.readBasic unquoted []

def Sourced (values : List Char → Json) : Prop := ∃ source : Source, values = source.fill

theorem sourced_inRange {n : Int} {j : Json} (known : inRange n = some j) :
    ∃ source : Source, ∀ value, source.fill value = j := by
  unfold inRange at known
  split at known
  next =>
    cases known
    exact ⟨.number _, fun _ => rfl⟩
  next => cases known

theorem sourced_readInteger {text : List Char} {j : Json} (known : readInteger text = some j) :
    ∃ source : Source, ∀ value, source.fill value = j := by
  unfold readInteger at known
  split at known
  next =>
    obtain ⟨_, _, known⟩ := Option.bind_eq_some_iff.1 known
    exact sourced_inRange known
  next =>
    obtain ⟨_, _, known⟩ := Option.bind_eq_some_iff.1 known
    exact sourced_inRange known
  next =>
    obtain ⟨_, _, known⟩ := Option.bind_eq_some_iff.1 known
    exact sourced_inRange known
  next =>
    obtain ⟨_, _, known⟩ := Option.bind_eq_some_iff.1 known
    split at known
    next => exact sourced_inRange known
    next => cases known

theorem sourced_readScalar {text : List Char} {j : Json} (known : readScalar text = some j) :
    ∃ source : Source, ∀ value, source.fill value = j := by
  unfold readScalar at known
  split at known
  next =>
    cases known
    exact ⟨.bool true, fun _ => rfl⟩
  next =>
    split at known
    next =>
      cases known
      exact ⟨.bool false, fun _ => rfl⟩
    next =>
      split at known
      next integer =>
        cases known
        exact sourced_readInteger integer
      next =>
        split at known
        next =>
          split at known
          next => cases known
          next =>
            cases known
            exact ⟨.number _, fun _ => rfl⟩
        next =>
          split at known
          next =>
            cases known
            refine ⟨.object [("moment", .text (text.map some))], fun value => ?_⟩
            rw [Source.fill, Source.fillMembers_eq]
            simp [Source.fill]
          next => cases known

theorem splitScalar_moment {first text : List Char} {c : Char}
    (taken : text.takeWhile isScalarChar = first)
    (left : text.dropWhile isScalarChar = ' ' :: c :: rest) (date : isDate first = true)
    (digit : c.isDigit = true) :
    splitScalar text =
      (first ++ ' ' :: (c :: rest).takeWhile isScalarChar, (c :: rest).dropWhile isScalarChar) := by
  simp only [splitScalar, taken, left, date, digit, Bool.and_self, if_true]

theorem splitScalar_single {text : List Char}
    (single : ∀ c rest, text.dropWhile isScalarChar = ' ' :: c :: rest →
      ¬ (isDate (text.takeWhile isScalarChar) = true ∧ c.isDigit = true)) :
    splitScalar text = (text.takeWhile isScalarChar, text.dropWhile isScalarChar) := by
  unfold splitScalar
  dsimp only
  split
  next c rest left => rw [if_neg (by simpa using single c rest left), left]
  next => rfl

namespace Placed

theorem splitScalar (placed : Placed p d) :
    ∃ (scalar : List Char) (rest : Draft), d = scalar.map some ++ rest ∧ Placed p rest ∧
      ∀ value, Toml.splitScalar (d.fill value) = (scalar, rest.fill value) := by
  have steady : Steady isScalarChar := by decide
  obtain ⟨first, rest, rfl, placed, all, stops⟩ := exists_run steady placed
  by_cases moment : ∃ c after, rest = some ' ' :: some c :: after ∧
      isDate first = true ∧ c.isDigit = true
  · obtain ⟨c, after, rfl, date, digit⟩ := moment
    have later := placed.later (by decide)
    rw [Place.next_of_not_mem (by decide)] at later
    obtain ⟨second, last, same, there, all', stops'⟩ := exists_run steady later
    refine ⟨first ++ ' ' :: second, last, by simp [same], there, fun value => ?_⟩
    obtain ⟨taken, left⟩ := placed.fill_run all stops value
    obtain ⟨taken', left'⟩ := there.fill_run all' stops' value
    rw [← same, fill_char] at taken' left'
    rw [fill_char, fill_char] at left
    rw [splitScalar_moment taken left date digit, taken', left']
  · refine ⟨first, rest, rfl, placed, fun value => ?_⟩
    obtain ⟨taken, left⟩ := placed.fill_run all stops value
    rw [splitScalar_single, taken, left]
    -- What follows a date decides where it ends, and it is the same for all values too.
    rintro c after same ⟨date, digit⟩
    rw [left] at same
    rw [taken] at date
    rcases rest with _ | ⟨_ | blank, rest⟩
    · cases same
    · exact placed.not_gap
    · rw [fill_char] at same
      obtain ⟨rfl, same⟩ := List.cons.inj same
      have later := placed.later (by decide)
      rcases rest with _ | ⟨_ | other, rest⟩
      · cases same
      · exact later.not_gap
      · simp only [fill_char, List.cons.injEq, true_and] at same
        obtain ⟨rfl, -⟩ := same
        exact moment ⟨_, rest, rfl, date, digit⟩

theorem readQuoted {quote : Char} (quoted : quote = '"' ∨ quote = '\'') (due : p.value = true)
    (placed : Placed p (some quote :: d)) :
    Formed (fun value => Toml.readQuoted (quote :: d.fill value))
      (Passes p (some quote :: d) fun texts =>
        ∃ text : Draft, texts = fun value => String.ofList (text.fill value)) := by
  cases placed with
  | char bare => rcases quoted with rfl | rfl <;> exact absurd (by decide) bare
  | comment => simp at quoted
  | key other =>
    rw [due] at other
    cases other
  | @text _ _ text s rest _ _ known ends later =>
    refine Uniform.formed (.done ⟨fun _ => s, ⟨s.toList.map some, ?_⟩, rest, later, ?_, rfl⟩ ?_)
    · simp
    · exact (noLonger_append _ _).shorter (shorter_cons _ _)
    · intro value
      rw [fill_append, fill_chars]
      exact readQuoted_append known (later.fill_head_ne ends value)
  | @basic _ body text rest _ spelled ends later =>
    refine .inr ⟨_, ⟨_, ⟨text, rfl⟩, rest, later, ?_, rfl⟩, fun value unquoted => ?_⟩
    · exact (shorter_cons _ _).noLonger.trans (noLonger_append _ _) |>.shorter (shorter_cons _ _)
    · beta_reduce
      rw [fill_append, fill_char]
      exact spelled.readQuoted unquoted (later.fill_head_ne ends value)

theorem readPlain (due : p.value = true) (placed : Placed p d) :
    Formed (fun value => Toml.readPlain (d.fill value)) (Passes p d Sourced) := by
  by_cases quoted : ∃ quote d', d = some quote :: d' ∧ (quote = '"' ∨ quote = '\'')
  · obtain ⟨quote, d, rfl, quoted⟩ := quoted
    have reads (value : List Char) :
        Toml.readPlain (fill value (some quote :: d)) =
          (Toml.readQuoted (quote :: fill value d)).map fun read => (.string read.1, read.2) := by
      unfold Toml.readPlain
      rw [fill_char, if_pos (by simpa using quoted)]
    refine Formed.congr ?_ reads
    refine (placed.readQuoted quoted due).map ?_
    rintro _ ⟨_, ⟨text, rfl⟩, rest, later, shorter, rfl⟩
    exact ⟨_, ⟨.text text, rfl⟩, rest, later, shorter, rfl⟩
  · have unquoted (value : List Char) :
        ¬ ((d.fill value).head? = some '"' ∨ (d.fill value).head? = some '\'') := by
      refine not_or.2 ⟨placed.fill_ne_cons ?_ value, placed.fill_ne_cons ?_ value⟩
      · exact fun rest same => quoted ⟨'"', rest, same, .inl rfl⟩
      · exact fun rest same => quoted ⟨'\'', rest, same, .inr rfl⟩
    obtain ⟨scalar, rest, rfl, later, splits⟩ := placed.splitScalar
    have reads (value : List Char) :
        Toml.readPlain (fill value (scalar.map some ++ rest)) =
          (readScalar scalar).map (·, rest.fill value) := by
      unfold Toml.readPlain
      rw [if_neg (unquoted value), splits]
    cases known : readScalar scalar with
    | none => exact .inl fun value _ => (reads value).trans (by rw [known, Option.map_none])
    | some j =>
      obtain ⟨source, filled⟩ := sourced_readScalar known
      refine Uniform.formed (.done ⟨_, ⟨source, rfl⟩, rest, later, ?_, rfl⟩ fun value => ?_)
      · cases scalar with
        | nil => cases known
        | cons c scalar => exact (noLonger_append _ _).shorter (shorter_cons _ _)
      · rw [reads, known, Option.map_some, filled]

end Placed

def ReadsSources (readValue : ValueReader) : Prop :=
  ∀ (p : Place) (d : Draft), p.value = true → Placed p d →
    Formed (fun value => readValue (d.fill value)) (Passes p d Sourced)

def SourcedItems (items : List Char → List Json) : Prop :=
  ∃ sources : List Source, items = fun value => sources.map (Source.fill value)

def SourcedPair (pairs : List Char → Pair Json) : Prop :=
  ∃ pair : Pair Source, pairs = fun value => pair.map (Source.fill value)

def SourcedPairs (pairs : List Char → List (Pair Json)) : Prop :=
  ∃ sources : List (Pair Source), pairs = fun value => sources.map (Pair.map (Source.fill value))

variable {readValue : ValueReader}

theorem readItems_succ (limit : Nat) (text : List Char) :
    readItems readValue (limit + 1) text =
      (expect ']' (skipLines text)).elim
        ((readValue (skipLines text)).bind fun item =>
          (expect ',' (skipLines item.2)).elim
            ((expect ']' (skipLines item.2)).map fun rest => ([item.1], rest))
            fun rest => (readItems readValue limit rest).map fun items =>
              (item.1 :: items.1, items.2))
        fun rest => some ([], rest) := by
  rw [readItems]
  obtain ⟨rest, same, found⟩ | ⟨other, missing⟩ := expect_cases ']' (skipLines text)
  · rw [found, same]
    rfl
  · rw [missing, Option.elim_none]
    split
    next same => exact absurd same (other _)
    next =>
      refine congrArg _ (funext fun item => ?_)
      dsimp only
      obtain ⟨rest, same, found⟩ | ⟨comma, missing⟩ := expect_cases ',' (skipLines item.2)
      · rw [found, same]
        exact (Option.map_eq_bind ..).symm
      · obtain ⟨rest, same, found⟩ | ⟨closed, absent⟩ := expect_cases ']' (skipLines item.2)
        · rw [missing, found, same]
          rfl
        · rw [missing, absent]
          split
          next same => exact absurd same (comma _)
          next same => exact absurd same (closed _)
          next => rfl

theorem readPair_eq (text : List Char) :
    readPair readValue text =
      (readKeys text).bind fun keys => keys.1.getLast?.bind fun key =>
        (expect '=' keys.2).bind fun rest => (readValue (skipSpaces rest)).map fun found =>
          ({ path := keys.1.dropLast, key, value := found.1 }, found.2) := by
  unfold readPair
  refine congrArg _ (funext fun keys => ?_)
  dsimp only
  refine congrArg _ (funext fun key => ?_)
  obtain ⟨rest, same, found⟩ | ⟨other, missing⟩ := expect_cases '=' keys.2
  · rw [found, same]
    exact (Option.map_eq_bind ..).symm
  · rw [missing]
    split
    next same => exact absurd same (other _)
    next => rfl

theorem readPairs_succ (limit : Nat) (text : List Char) :
    readPairs readValue (limit + 1) text =
      (readPair readValue text).bind fun pair =>
        (expect ',' (skipSpaces pair.2)).elim
          ((expect '\x7d' (skipSpaces pair.2)).map fun rest => ([pair.1], rest))
          fun rest => (readPairs readValue limit rest).map fun pairs =>
            (pair.1 :: pairs.1, pairs.2) := by
  rw [readPairs]
  refine congrArg _ (funext fun pair => ?_)
  dsimp only
  obtain ⟨rest, same, found⟩ | ⟨comma, missing⟩ := expect_cases ',' (skipSpaces pair.2)
  · rw [found, same]
    exact (Option.map_eq_bind ..).symm
  · obtain ⟨rest, same, found⟩ | ⟨closed, absent⟩ := expect_cases '\x7d' (skipSpaces pair.2)
    · rw [missing, found, same]
      rfl
    · rw [missing, absent]
      split
      next same => exact absurd same (comma _)
      next same => exact absurd same (closed _)
      next => rfl

namespace Placed

variable {opened : List Bracket}

theorem readItems {d : Draft} (sound : ReadsSources readValue) {limit : List Char → Nat}
    (within : Within d limit) (placed : Placed ⟨.array :: opened, true⟩ d) :
    Formed (fun value => Toml.readItems readValue (limit value) (d.fill value))
      (Passes ⟨opened, true⟩ d SourcedItems) := by
  obtain ⟨first, placed, noLonger, skips⟩ := placed.skipLines rfl
  refine Formed.congr ?_ fun value =>
    (congrArg (Toml.readItems readValue · (d.fill value)) (within.limit_eq value)).trans
      (readItems_succ (limit value - 1) (d.fill value))
  simp only [skips]
  refine (placed.expect (by decide)).elim_formed ?_ ?_
  · rintro _ ⟨rest, placed, shorter, rfl⟩
    exact Uniform.formed (.done ⟨_, ⟨[], rfl⟩, rest, placed, shorter.noLonger_trans noLonger, rfl⟩
      fun _ => rfl)
  · refine (sound _ _ rfl placed).bind ?_
    rintro _ ⟨_, ⟨item, rfl⟩, rest, placed, shorter, rfl⟩
    obtain ⟨behind, placed, noLonger', skips⟩ := placed.skipLines rfl
    simp only [skips]
    have shorter : Shorter behind d := (noLonger'.shorter shorter).noLonger_trans noLonger
    refine (placed.expect (by decide)).elim_formed ?_ ?_
    · rintro _ ⟨rest, placed, shorter', rfl⟩
      have shorter : Shorter rest d := shorter'.noLonger_trans shorter.noLonger
      refine (placed.readItems sound (shorter.within within)).map ?_
      rintro _ ⟨_, ⟨items, rfl⟩, last, placed, shorter', rfl⟩
      exact ⟨_, ⟨item :: items, rfl⟩, last, placed, shorter'.noLonger_trans shorter.noLonger, rfl⟩
    · refine ((placed.expect (c := ']') (by decide)).map ?_).formed
      rintro _ ⟨rest, placed, shorter', rfl⟩
      exact ⟨_, ⟨[item], rfl⟩, rest, placed, shorter'.noLonger_trans shorter.noLonger, rfl⟩
termination_by (d.fill []).length
decreasing_by exact shorter []

theorem readPair (sound : ReadsSources readValue) (due : p.value = false) (placed : Placed p d) :
    Formed (fun value => Toml.readPair readValue (d.fill value))
      (Passes ⟨p.opened, true⟩ d SourcedPair) := by
  refine Formed.congr ?_ fun value => readPair_eq (d.fill value)
  refine (placed.readKeys due).formed.bind ?_
  rintro _ ⟨_, ⟨keys, rfl⟩, rest, placed, shorter, rfl⟩
  dsimp only
  cases keys.getLast? with
  | none => exact .inl fun _ _ => rfl
  | some key =>
    refine (placed.expect (by decide)).formed.bind ?_
    rintro _ ⟨after, placed, shorter', rfl⟩
    obtain ⟨spaced, placed, noLonger, spaces, -⟩ := placed.skipSpaces
    simp only [spaces]
    refine (sound _ _ rfl placed).map ?_
    rintro _ ⟨_, ⟨source, rfl⟩, last, placed, shorter'', rfl⟩
    refine ⟨_, ⟨{ path := keys.dropLast, key, value := source }, rfl⟩, last, placed, ?_, rfl⟩
    exact (shorter''.noLonger_trans noLonger).noLonger_trans
      (shorter'.noLonger_trans shorter.noLonger).noLonger

theorem readPairs {d : Draft} (sound : ReadsSources readValue) {limit : List Char → Nat}
    (within : Within d limit) (placed : Placed ⟨.table :: opened, false⟩ d) :
    Formed (fun value => Toml.readPairs readValue (limit value) (d.fill value))
      (Passes ⟨opened, true⟩ d SourcedPairs) := by
  refine Formed.congr ?_ fun value =>
    (congrArg (Toml.readPairs readValue · (d.fill value)) (within.limit_eq value)).trans
      (readPairs_succ (limit value - 1) (d.fill value))
  refine (placed.readPair sound rfl).bind ?_
  rintro _ ⟨_, ⟨pair, rfl⟩, rest, placed, shorter, rfl⟩
  obtain ⟨behind, placed, noLonger, spaces, -⟩ := placed.skipSpaces
  simp only [spaces]
  have shorter : Shorter behind d := noLonger.shorter shorter
  refine (placed.expect (by decide)).elim_formed ?_ ?_
  · rintro _ ⟨rest, placed, shorter', rfl⟩
    have shorter : Shorter rest d := shorter'.noLonger_trans shorter.noLonger
    refine (placed.readPairs sound (shorter.within within)).map ?_
    rintro _ ⟨_, ⟨pairs, rfl⟩, last, placed, shorter', rfl⟩
    exact ⟨_, ⟨pair :: pairs, rfl⟩, last, placed, shorter'.noLonger_trans shorter.noLonger, rfl⟩
  · refine ((placed.expect (c := '\x7d') (by decide)).map ?_).formed
    rintro _ ⟨rest, placed, shorter', rfl⟩
    exact ⟨_, ⟨[pair], rfl⟩, rest, placed, shorter'.noLonger_trans shorter.noLonger, rfl⟩
termination_by (d.fill []).length
decreasing_by exact shorter []

end Placed

theorem readValueWithin_array (depth : Nat) (text : List Char) :
    readValueWithin (depth + 1) ('[' :: text) =
      (readItems (readValueWithin depth) (text.length + 1) text).map fun items =>
        (.array items.1, items.2) := by
  rw [readValueWithin]
  exact (Option.map_eq_bind ..).symm

theorem readValueWithin_table (depth : Nat) (text : List Char) :
    readValueWithin (depth + 1) ('\x7b' :: text) =
      (expect '\x7d' (skipSpaces text)).elim
        ((readPairs (readValueWithin depth) (text.length + 1) text).bind fun pairs =>
          (Entries.ofPairs? pairs.1).map fun entries => (entries.toJson, pairs.2))
        fun rest => some (.object [], rest) := by
  rw [readValueWithin]
  obtain ⟨rest, same, found⟩ | ⟨other, missing⟩ := expect_cases '\x7d' (skipSpaces text)
  · rw [found, same]
    rfl
  · rw [missing]
    split
    next same => exact absurd same (other _)
    next => exact congrArg _ (funext fun pairs => (Option.map_eq_bind ..).symm)

theorem readValueWithin_plain (depth : Nat) {text : List Char} (array : text.head? ≠ some '[')
    (table : text.head? ≠ some '\x7b') : readValueWithin depth text = readPlain text := by
  cases depth with
  | zero => rw [readValueWithin, if_neg (not_or.2 ⟨array, table⟩)]
  | succ depth =>
    rw [readValueWithin]
    · rintro rest rfl
      exact array rfl
    · rintro rest rfl
      exact table rfl

theorem Placed.readValueWithin_plain {depth : Nat} (due : p.value = true) (placed : Placed p d)
    (array : ∀ rest, d ≠ some '[' :: rest) (table : ∀ rest, d ≠ some '\x7b' :: rest) :
    Formed (fun value => readValueWithin depth (d.fill value)) (Passes p d Sourced) := by
  have array := placed.fill_ne_cons array
  have table := placed.fill_ne_cons table
  exact (placed.readPlain due).congr fun value =>
    Toml.readValueWithin_plain depth (array value) (table value)

theorem readsSources (depth : Nat) : ReadsSources (readValueWithin depth) := by
  -- On the brackets that may still be opened: what stands in one is read with one less.
  induction depth with
  | zero =>
    intro p d due placed
    by_cases opens : ∃ rest, d = some '[' :: rest ∨ d = some '\x7b' :: rest
    · obtain ⟨rest, rfl | rfl⟩ := opens
      · exact .inl fun _ _ => rfl
      · exact .inl fun _ _ => rfl
    · simp only [not_exists, not_or] at opens
      exact placed.readValueWithin_plain due (fun rest => (opens rest).1) fun rest => (opens rest).2
  | succ depth sound =>
    intro p d due placed
    obtain ⟨opened, _⟩ := p
    cases due
    by_cases array : ∃ rest, d = some '[' :: rest
    · obtain ⟨rest, rfl⟩ := array
      have inside := placed.later (by decide)
      refine Formed.congr ?_ fun value => readValueWithin_array depth (fill value rest)
      refine (inside.readItems sound (within_length rest)).map ?_
      rintro _ ⟨_, ⟨sources, rfl⟩, last, placed, shorter, rfl⟩
      refine ⟨_, ⟨.array sources, rfl⟩, last, placed, ?_, ?_⟩
      · exact shorter.noLonger_trans (shorter_cons _ _).noLonger
      · simp only [Source.fill, Source.fillItems_eq]
    by_cases table : ∃ rest, d = some '\x7b' :: rest
    · obtain ⟨rest, rfl⟩ := table
      have inside := placed.later (by decide)
      refine Formed.congr ?_ fun value => readValueWithin_table depth (fill value rest)
      obtain ⟨spaced, first, noLonger, spaces, -⟩ := inside.skipSpaces
      simp only [spaces]
      refine (first.expect (by decide)).elim_formed ?_ ?_
      · rintro _ ⟨last, placed, shorter, rfl⟩
        have shorter := shorter.noLonger_trans (noLonger.trans (shorter_cons '\x7b' _).noLonger)
        exact Uniform.formed (.done ⟨_, ⟨.object [], rfl⟩, last, placed, shorter, rfl⟩ fun _ => rfl)
      · refine (inside.readPairs sound (within_length rest)).bind ?_
        rintro _ ⟨_, ⟨pairs, rfl⟩, last, placed, shorter, rfl⟩
        -- Whether keys clash is decided by the draft, since there are no gaps in keys.
        simp only [Entries.ofPairs?_map]
        cases Entries.ofPairs? pairs with
        | none => exact .inl fun _ _ => rfl
        | some entries =>
          have shorter := shorter.noLonger_trans (shorter_cons '\x7b' _).noLonger
          refine Uniform.formed (.done ⟨_, ⟨(Node.table .dotted entries).toSource, rfl⟩, last,
            placed, shorter, rfl⟩ fun value => ?_)
          rw [← Node.toJson_map]
          rfl
    · exact placed.readValueWithin_plain rfl (fun rest same => array ⟨rest, same⟩)
        fun rest same => table ⟨rest, same⟩

end MultiWallet.Toml
