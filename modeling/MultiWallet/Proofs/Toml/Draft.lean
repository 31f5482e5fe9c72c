import Mathlib
import MultiWallet.Toml.Text

set_option autoImplicit false

namespace MultiWallet.Toml

/-- A text with gaps, for each of which the same value stands. -/
abbrev Draft := List (Option Char)

namespace Draft

def fill (value : List Char) (draft : Draft) : List Char :=
  draft.flatMap fun c => c.elim value fun c => [c]

variable {value : List Char} {d e : Draft} {c : Char}

@[simp] theorem fill_nil : fill value [] = [] := rfl

@[simp] theorem fill_char : fill value (some c :: d) = c :: fill value d := rfl

@[simp] theorem fill_gap : fill value (none :: d) = value ++ fill value d := rfl

@[simp] theorem fill_append : fill value (d ++ e) = fill value d ++ fill value e :=
  List.flatMap_append

@[simp] theorem fill_chars (text : List Char) : fill value (text.map some) = text := by
  induction text with
  | nil => rfl
  | cons c text ih => rw [List.map_cons, fill_char, ih]

theorem fill_of_no_gap {value' : List Char} (whole : none ∉ d) : d.fill value = d.fill value' := by
  induction d with
  | nil => rfl
  | cons c d ih =>
    rw [List.mem_cons, not_or] at whole
    cases c with
    | none => exact absurd rfl whole.1
    | some c => rw [fill_char, fill_char, ih whole.2]

def Shorter (d e : Draft) : Prop := ∀ value, (d.fill value).length < (e.fill value).length

def NoLonger (d e : Draft) : Prop := ∀ value, (d.fill value).length ≤ (e.fill value).length

theorem NoLonger.refl (d : Draft) : NoLonger d d := fun _ => Nat.le_refl _

theorem Shorter.noLonger (shorter : Shorter d e) : NoLonger d e := fun value => (shorter value).le

theorem NoLonger.trans {f : Draft} (first : NoLonger d e) (second : NoLonger e f) : NoLonger d f :=
  fun value => (first value).trans (second value)

theorem NoLonger.shorter {f : Draft} (first : NoLonger d e) (second : Shorter e f) : Shorter d f :=
  fun value => (first value).trans_lt (second value)

theorem Shorter.noLonger_trans {f : Draft} (first : Shorter d e) (second : NoLonger e f) :
    Shorter d f := fun value => (first value).trans_le (second value)

def Within (d : Draft) (limit : List Char → Nat) : Prop :=
  ∀ value, (d.fill value).length < limit value

theorem within_length (d : Draft) : Within d fun value => (d.fill value).length + 1 :=
  fun _ => Nat.lt_succ_self _

theorem Within.limit_eq {limit : List Char → Nat} (within : Within d limit) (value : List Char) :
    limit value = limit value - 1 + 1 :=
  (Nat.sub_one_add_one_eq_of_pos (Nat.zero_lt_of_lt (within value))).symm

theorem Shorter.within {limit : List Char → Nat} (shorter : Shorter d e) (within : Within e limit) :
    Within d fun value => limit value - 1 := fun value =>
  Nat.lt_sub_of_add_lt ((Nat.succ_le_of_lt (shorter value)).trans_lt (within value))

theorem shorter_cons (c : Char) (d : Draft) : Shorter d (some c :: d) := fun _ => by simp

theorem noLonger_append (d e : Draft) : NoLonger e (d ++ e) := fun _ => by simp

end Draft

def Unquoted (value : List Char) : Prop := ∀ c ∈ value, c ≠ '"' ∧ c ≠ '\\'

instance (value : List Char) : Decidable (Unquoted value) := List.decidableBAll _ _

/-- A value that has characters for texts of one line only. -/
def Plain (value : List Char) : Prop := ∀ c ∈ value, isPlain c = true

variable {α β : Type} {read other : List Char → Option α} {form : (List Char → α) → Prop}
  {form' : (List Char → β) → Prop}

/-- The reading fails for all values, or it succeeds for all and its result has the form. -/
def Uniform (read : List Char → Option α) (form : (List Char → α) → Prop) : Prop :=
  (∀ value, read value = none) ∨ ∃ result, form result ∧ ∀ value, read value = some (result value)

def Formed (read : List Char → Option α) (form : (List Char → α) → Prop) : Prop :=
  (∀ value, Unquoted value → read value = none) ∨
    ∃ result, form result ∧ ∀ value, Unquoted value →
      read value = some (result value) ∨ ¬ Plain value ∧ read value = none

namespace Uniform

theorem failed (fails : ∀ value, read value = none) : Uniform read form := .inl fails

theorem done {result : List Char → α} (formed : form result)
    (reads : ∀ value, read value = some (result value)) : Uniform read form :=
  .inr ⟨result, formed, reads⟩

theorem congr (uniform : Uniform read form) (same : ∀ value, other value = read value) :
    Uniform other form := by
  rwa [funext same]

theorem weaken {other : (List Char → α) → Prop} (uniform : Uniform read form)
    (fits : ∀ result, form result → other result) : Uniform read other :=
  uniform.imp_right fun ⟨result, formed, reads⟩ => ⟨result, fits result formed, reads⟩

theorem elim {next : List Char → α → Option β} {instead : List Char → Option β}
    (first : Uniform read form)
    (onward : ∀ result, form result → Uniform (fun value => next value (result value)) form')
    (otherwise : Uniform instead form') :
    Uniform (fun value => (read value).elim (instead value) (next value)) form' := by
  rcases first with fails | ⟨result, formed, reads⟩
  · exact otherwise.congr fun value => by rw [fails value, Option.elim_none]
  · exact (onward result formed).congr fun value => by rw [reads value, Option.elim_some]

theorem bind {next : List Char → α → Option β} (first : Uniform read form)
    (onward : ∀ result, form result → Uniform (fun value => next value (result value)) form') :
    Uniform (fun value => (read value).bind (next value)) form' :=
  (first.elim onward (failed fun _ => rfl)).congr fun value => by cases read value <;> rfl

theorem map {f : List Char → α → β} (first : Uniform read form)
    (fits : ∀ result, form result → form' fun value => f value (result value)) :
    Uniform (fun value => (read value).map (f value)) form' := by
  rcases first with fails | ⟨result, formed, reads⟩
  · exact failed fun value => by simp only [fails value, Option.map_none]
  · exact done (fits result formed) fun value => by simp only [reads value, Option.map_some]

theorem filter {keep : α → Bool} (first : Uniform read form)
    (alike : ∀ result, form result → ∃ kept, ∀ value, keep (result value) = kept) :
    Uniform (fun value => (read value).filter keep) form := by
  rcases first with fails | ⟨result, formed, reads⟩
  · exact failed fun value => by simp only [fails value, Option.filter_none]
  · obtain ⟨_ | _, same⟩ := alike result formed
    · exact failed fun value => by simp [reads value, Option.filter_some, same value]
    · exact done formed fun value => by simp [reads value, Option.filter_some, same value]

theorem formed (uniform : Uniform read form) : Formed read form := by
  rcases uniform with fails | ⟨result, formed, reads⟩
  · exact .inl fun value _ => fails value
  · exact .inr ⟨result, formed, fun value _ => .inl (reads value)⟩

end Uniform

namespace Formed

theorem congr (formed : Formed read form) (same : ∀ value, other value = read value) :
    Formed other form := by
  rwa [funext same]

theorem weaken {other : (List Char → α) → Prop} (formed : Formed read form)
    (fits : ∀ result, form result → other result) : Formed read other :=
  formed.imp_right fun ⟨result, formed, reads⟩ => ⟨result, fits result formed, reads⟩

theorem bind {next : List Char → α → Option β} (first : Formed read form)
    (onward : ∀ result, form result → Formed (fun value => next value (result value)) form') :
    Formed (fun value => (read value).bind (next value)) form' := by
  rcases first with fails | ⟨result, formed, reads⟩
  · exact .inl fun value unquoted => by simp only [fails value unquoted, Option.bind_none]
  rcases onward result formed with fails | ⟨result', formed', reads'⟩
  · refine .inl fun value unquoted => ?_
    rcases reads value unquoted with read | ⟨-, read⟩
    · simp only [read, Option.bind_some, fails value unquoted]
    · simp only [read, Option.bind_none]
  · refine .inr ⟨result', formed', fun value unquoted => ?_⟩
    rcases reads value unquoted with read | ⟨odd, read⟩
    · simpa only [read, Option.bind_some] using reads' value unquoted
    · exact .inr ⟨odd, by simp only [read, Option.bind_none]⟩

theorem map {f : List Char → α → β} (first : Formed read form)
    (fits : ∀ result, form result → form' fun value => f value (result value)) :
    Formed (fun value => (read value).map (f value)) form' :=
  (first.bind fun result formed => .inr ⟨_, fits result formed, fun _ _ => .inl rfl⟩).congr
    fun _ => Option.map_eq_bind ..

end Formed

theorem Uniform.elim_formed {next : List Char → α → Option β} {instead : List Char → Option β}
    (first : Uniform read form)
    (onward : ∀ result, form result → Formed (fun value => next value (result value)) form')
    (otherwise : Formed instead form') :
    Formed (fun value => (read value).elim (instead value) (next value)) form' := by
  rcases first with fails | ⟨result, formed, reads⟩
  · exact otherwise.congr fun value => by rw [fails value, Option.elim_none]
  · exact (onward result formed).congr fun value => by rw [reads value, Option.elim_some]

end MultiWallet.Toml
