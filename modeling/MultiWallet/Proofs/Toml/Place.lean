import MultiWallet.Proofs.Toml.Draft

/-!
Where in a document a gap may stand: within a basic string that is a value. Outside of texts and
comments there are no gaps, so the steps of the reader there are the same for all values.
-/

set_option autoImplicit false

namespace MultiWallet.Toml

open Draft

inductive Bracket where
  | array
  | table
deriving DecidableEq, Repr

/-- A point of a document outside of texts and comments: the brackets that are open there, and
whether a value is due there or a key. -/
structure Place where
  opened : List Bracket
  value : Bool
deriving DecidableEq, Repr

namespace Place

def start : Place := { opened := [], value := false }

def next (p : Place) (c : Char) : Place :=
  match c, p with
  | '=', ⟨opened, _⟩ => ⟨opened, true⟩
  | '[', ⟨opened, true⟩ => ⟨.array :: opened, true⟩
  | '{', ⟨opened, true⟩ => ⟨.table :: opened, false⟩
  | ',', ⟨.table :: opened, _⟩ => ⟨.table :: opened, false⟩
  | ']', ⟨.array :: opened, _⟩ => ⟨opened, true⟩
  | '}', ⟨.table :: opened, _⟩ => ⟨opened, true⟩
  | '\n', ⟨[], _⟩ => start
  | _, p => p

end Place

def openers : List Char := ['"', '\'', '#']

def movers : List Char := ['=', '[', ']', '{', '}', ',', '\n']

theorem Place.next_of_not_mem {c : Char} (still : c ∉ movers) (p : Place) : p.next c = p := by
  simp only [movers, List.mem_cons, List.not_mem_nil, or_false, not_or] at still
  unfold next
  split <;> simp_all

inductive Spelled : Draft → Draft → Prop where
  | nil : Spelled [] []
  | gap {body text : Draft} (rest : Spelled body text) : Spelled (none :: body) (none :: text)
  | char {c : Char} {body text : Draft} (plain : isPlain c = true) (quote : c ≠ '"')
      (escape : c ≠ '\\') (rest : Spelled body text) : Spelled (some c :: body) (some c :: text)
  | escape {code : List Char} {c : Char} {body text : Draft}
      (known : readEscape code = some (c, [])) (rest : Spelled body text) :
      Spelled (some '\\' :: (code.map some ++ body)) (some c :: text)

/-- From the place on, gaps stand only within basic strings that are values. -/
inductive Placed : Place → Draft → Prop where
  | nil {p : Place} : Placed p []
  | char {p : Place} {c : Char} {rest : Draft} (bare : c ∉ openers)
      (later : Placed (p.next c) rest) : Placed p (some c :: rest)
  | comment {p : Place} {text : List Char} {rest : Draft} (plain : ∀ c ∈ text, isPlain c = true)
      (ends : ∀ c, rest.head? = some (some c) → isPlain c = false) (later : Placed p rest) :
      Placed p (some '#' :: (text.map some ++ rest))
  | key {p : Place} {quote : Char} {text : List Char} {key : String} {rest : Draft}
      (due : p.value = false) (quoted : quote = '"' ∨ quote = '\'')
      (known : readKey (quote :: text) = some (key, [])) (later : Placed p rest) :
      Placed p (some quote :: (text.map some ++ rest))
  | text {p : Place} {quote : Char} {text : List Char} {value : String} {rest : Draft}
      (due : p.value = true) (quoted : quote = '"' ∨ quote = '\'')
      (known : readQuoted (quote :: text) = some (value, []))
      (ends : rest.head? ≠ some (some quote)) (later : Placed p rest) :
      Placed p (some quote :: (text.map some ++ rest))
  | basic {p : Place} {body text rest : Draft} (due : p.value = true) (spelled : Spelled body text)
      (ends : rest.head? ≠ some (some '"')) (later : Placed p rest) :
      Placed p (some '"' :: (body ++ some '"' :: rest))

theorem Spelled.plain {body : Draft}
    (plain : ∀ c, some c ∈ body → isPlain c = true ∧ c ≠ '"' ∧ c ≠ '\\') : Spelled body body := by
  induction body with
  | nil => exact .nil
  | cons c body ih =>
    have rest := ih fun c member => plain c (List.mem_cons_of_mem _ member)
    cases c with
    | none => exact .gap rest
    | some c =>
      obtain ⟨plain, quote, escape⟩ := plain c List.mem_cons_self
      exact .char plain quote escape rest

namespace Placed

variable {p : Place} {d : Draft}

theorem run {text : List Char} (bare : ∀ c ∈ text, c ∉ openers)
    (later : Placed (text.foldl Place.next p) d) : Placed p (text.map some ++ d) := by
  induction text generalizing p with
  | nil => exact later
  | cons c text ih =>
    obtain ⟨bare, rest⟩ := List.forall_mem_cons.1 bare
    exact .char bare (ih rest later)

theorem not_gap {rest : Draft} (placed : Placed p (none :: rest)) : False := by
  cases placed

theorem fill_head_ne {c : Char} (placed : Placed p d) (other : d.head? ≠ some (some c))
    (value : List Char) : (d.fill value).head? ≠ some c := by
  rcases d with _ | ⟨_ | first, d⟩
  · simp
  · exact placed.not_gap.elim
  · simpa using other

theorem fill_ne_cons {c : Char} (placed : Placed p d) (other : ∀ rest, d ≠ some c :: rest)
    (value : List Char) : (d.fill value).head? ≠ some c :=
  placed.fill_head_ne (fun head => other d.tail (List.cons_head?_tail head).symm) value

theorem fill_eq_nil (placed : Placed p d) (value : List Char) : d.fill value = [] ↔ d = [] := by
  rcases d with _ | ⟨_ | first, d⟩
  · simp
  · exact placed.not_gap.elim
  · simp

theorem later {c : Char} {rest : Draft} (bare : c ∉ openers) (placed : Placed p (some c :: rest)) :
    Placed (p.next c) rest := by
  have quote {quote : Char} (quoted : quote = '"' ∨ quote = '\'') : quote ∈ openers := by
    rcases quoted with rfl | rfl <;> decide
  cases placed with
  | char _ later => exact later
  | comment => exact absurd (by decide) bare
  | key _ quoted => exact absurd (quote quoted) bare
  | text _ quoted => exact absurd (quote quoted) bare
  | basic => exact absurd (by decide) bare

end Placed

def Steady (skips : Char → Bool) : Prop := ∀ c ∈ openers ++ movers, skips c = false

instance (skips : Char → Bool) : Decidable (Steady skips) :=
  List.decidableBAll _ _

namespace Steady

variable {skips : Char → Bool} {c : Char}

theorem not_opener (steady : Steady skips) (skipped : skips c = true) : c ∉ openers := by
  intro opener
  rw [steady c (List.mem_append_left _ opener)] at skipped
  cases skipped

theorem next (steady : Steady skips) (skipped : skips c = true) (p : Place) : p.next c = p :=
  Place.next_of_not_mem (fun mover => by
    rw [steady c (List.mem_append_right _ mover)] at skipped
    cases skipped) p

end Steady

namespace Placed

variable {p : Place} {d : Draft} {skips : Char → Bool}

theorem exists_run (steady : Steady skips) (placed : Placed p d) :
    ∃ (run : List Char) (rest : Draft), d = run.map some ++ rest ∧ Placed p rest ∧
      (∀ c ∈ run, skips c = true) ∧ ∀ c, rest.head? = some (some c) → skips c = false := by
  induction d generalizing p with
  | nil => exact ⟨[], [], rfl, placed, by simp, by simp⟩
  | cons c d ih =>
    cases c with
    | none => exact placed.not_gap.elim
    | some c =>
      cases skipped : skips c with
      | true =>
        have later := placed.later (steady.not_opener skipped)
        rw [steady.next skipped] at later
        obtain ⟨run, rest, rfl, placed, all, stops⟩ := ih later
        exact ⟨c :: run, rest, rfl, placed, List.forall_mem_cons.2 ⟨skipped, all⟩, stops⟩
      | false => exact ⟨[], _, rfl, placed, by simp, by rintro _ ⟨⟩; exact skipped⟩

theorem fill_stops (placed : Placed p d)
    (stops : ∀ c, d.head? = some (some c) → skips c = false) (value : List Char) :
    (d.fill value).takeWhile skips = [] ∧ (d.fill value).dropWhile skips = d.fill value := by
  cases d with
  | nil => simp
  | cons c d =>
    cases c with
    | none => exact placed.not_gap.elim
    | some c => simp [stops c rfl]

theorem fill_run {run : List Char} {rest : Draft} (placed : Placed p rest)
    (all : ∀ c ∈ run, skips c = true) (stops : ∀ c, rest.head? = some (some c) → skips c = false)
    (value : List Char) :
    (fill value (run.map some ++ rest)).takeWhile skips = run ∧
      (fill value (run.map some ++ rest)).dropWhile skips = rest.fill value := by
  obtain ⟨none, whole⟩ := placed.fill_stops stops value
  rw [fill_append, fill_chars, List.takeWhile_append_of_pos all, List.dropWhile_append_of_pos all,
    none, whole, List.append_nil]
  exact ⟨rfl, rfl⟩

theorem skipSpaces (placed : Placed p d) :
    ∃ rest, Placed p rest ∧ NoLonger rest d ∧
      (∀ value, Toml.skipSpaces (d.fill value) = rest.fill value) ∧
      ∀ c, rest.head? = some (some c) → isSpace c = false := by
  have steady : Steady isSpace := by decide
  obtain ⟨run, rest, rfl, placed, all, stops⟩ := exists_run steady placed
  exact ⟨rest, placed, noLonger_append _ _, fun value => (placed.fill_run all stops value).2, stops⟩

end Placed

def expect (c : Char) : List Char → Option (List Char)
  | first :: rest => if first = c then some rest else none
  | [] => none

theorem expect_cases (c : Char) (text : List Char) :
    (∃ rest, text = c :: rest ∧ expect c text = some rest) ∨
      (∀ rest, text ≠ c :: rest) ∧ expect c text = none := by
  rcases text with _ | ⟨first, text⟩
  · exact .inr ⟨by simp, rfl⟩
  · by_cases same : first = c
    · exact .inl ⟨text, by rw [same], if_pos same⟩
    · exact .inr ⟨fun _ other => same (List.cons.inj other).1, if_neg same⟩

def Leaves (p : Place) (d : Draft) (result : List Char → List Char) : Prop :=
  ∃ rest, Placed p rest ∧ Shorter rest d ∧ result = fun value => rest.fill value

def Passes {α : Type} (p : Place) (d : Draft) (form : (List Char → α) → Prop)
    (result : List Char → α × List Char) : Prop :=
  ∃ a, form a ∧ ∃ rest, Placed p rest ∧ Shorter rest d ∧
    result = fun value => (a value, rest.fill value)

def Fixed {α : Type} (result : List Char → α) : Prop := ∃ a, result = fun _ => a

namespace Placed

variable {p : Place} {d : Draft} {c : Char}

theorem expect (placed : Placed p d) (bare : c ∉ openers) :
    Uniform (fun value => Toml.expect c (d.fill value)) (Leaves (p.next c) d) := by
  cases d with
  | nil => exact .failed fun _ => rfl
  | cons first rest =>
    cases first with
    | none => exact placed.not_gap.elim
    | some first =>
      by_cases same : first = c
      · subst same
        exact .done ⟨rest, placed.later bare, shorter_cons _ _, rfl⟩ fun _ => by
          simp [Toml.expect]
      · exact .failed fun _ => by simp [Toml.expect, same]

end Placed

end MultiWallet.Toml
