import Mathlib
import MultiWallet.Dialogue.Basic

set_option autoImplicit false

namespace MultiWallet

theorem Checked.bind_eq_ok {α β : Type} {r : Checked α} {f : α → Checked β} {b : β} :
    (r >>= f) = .ok b ↔ ∃ a, r = .ok a ∧ f a = .ok b := by
  cases r <;> simp [bind, Except.bind]

@[simp] theorem orOverflow_eq_ok {α : Type} {o : Option α} {a : α} :
    orOverflow o = .ok a ↔ o = some a := by
  cases o <;> simp [orOverflow]

@[simp] theorem fail_ne_ok {α : Type} {cause : Failure} {a : α} :
    (fail cause : Checked α) ≠ .ok a := by
  simp [fail]

namespace Dialogue

variable {α β : Type} {oracle : Oracle} {s t : Session}

theorem run_bind_eq_ok {d : Dialogue α} {f : α → Dialogue β} {b : β} :
    (d >>= f).run oracle s = (.ok b, t) ↔
      ∃ a u, d.run oracle s = (.ok a, u) ∧ (f a).run oracle u = (.ok b, t) := by
  rw [run_bind]
  rcases d.run oracle s with ⟨halt | a, u⟩
  · simp
  · constructor
    · intro h
      exact ⟨a, u, rfl, h⟩
    · rintro ⟨_, _, ⟨⟩, h⟩
      exact h

theorem run_bind_cases {d : Dialogue α} {f : α → Dialogue β} {result : Checked β}
    (run : (d >>= f).run oracle s = (result, t)) :
    (∃ halt, d.run oracle s = (.error halt, t) ∧ result = .error halt) ∨
      ∃ a u, d.run oracle s = (.ok a, u) ∧ (f a).run oracle u = (result, t) := by
  rw [run_bind] at run
  rcases first : d.run oracle s with ⟨halt | a, u⟩ <;> rw [first] at run
  · cases run
    exact .inl ⟨halt, rfl, rfl⟩
  · exact .inr ⟨a, u, rfl, run⟩

theorem run_map_eq_ok {d : Dialogue α} {f : α → β} {b : β} :
    (f <$> d).run oracle s = (.ok b, t) ↔ ∃ a, d.run oracle s = (.ok a, t) ∧ f a = b := by
  rw [← bind_pure_comp, run_bind_eq_ok]
  simp

theorem run_map_eq_error {d : Dialogue α} {f : α → β} {halt : Halt} :
    (f <$> d).run oracle s = (.error halt, t) ↔ d.run oracle s = (.error halt, t) := by
  rw [← bind_pure_comp, run_bind]
  rcases d.run oracle s with ⟨other | a, u⟩ <;> simp

@[simp] theorem run_liftM (result : Checked α) :
    (liftM result : Dialogue α).run oracle s = (result, s) := rfl

theorem liftM_ok_bind (a : α) (f : α → Dialogue β) :
    ((liftM (.ok a : Checked α) : Dialogue α) >>= f) = f a := rfl

theorem run_liftM_bind_cases {r : Checked α} {f : α → Dialogue β} {result : Checked β}
    (run : ((liftM r : Dialogue α) >>= f).run oracle s = (result, t)) :
    (∃ halt, r = .error halt ∧ result = .error halt ∧ t = s) ∨
      ∃ a, r = .ok a ∧ (f a).run oracle s = (result, t) := by
  cases r with
  | error halt =>
    cases run
    exact .inl ⟨halt, rfl, rfl, rfl⟩
  | ok a => exact .inr ⟨a, rfl, run⟩

end Dialogue

def Call.refused : (c : Call) → c.Reply
  | .http _ => .unreachable
  | .report _ _ => ()
  | .walletEntries _ | .custodianReachable | .fiatCurrencies | .tradingBalance _
  | .interestBalance _ | .fiatBalance _ | .depositAddress _ | .withdrawalFee _ | .withdraw _ _ _
  | .placeOrder _ | .feeSchedule _ | .sign _ | .accountAddress _ | .accountBalance _
  | .accountActivity _ | .chainHealth _ | .chainExists _ _ | .chainBalance _ _
  | .chainHistory _ _ | .chainBuild _ _ | .chainSubmit _ _ | .chainMaximum _ _ _
  | .stellarRoot _ | .stellarAccount _ _ | .stellarOperations _ _ | .stellarSubmit _ _
  | .assetInit _ | .assetNonCustodial _ _ | .assetCustodial _ _ | .assetInterest _ _
  | .assetEngine _ | .engineValidate _ | .engineFee _ _ _ | .engineMaximum _ _
  | .engineExecute _ _ _ => .error (.internal "nobody answers")

def Oracle.web (reply : Http.Request → Http.Outcome) : Oracle
  | _, .http request => reply request
  | _, c => c.refused

-- The web answers with one of the bodies after the other.
def Oracle.bodies (texts : List String) : Oracle := fun calls =>
  Oracle.web (fun _ => .reply { status := 200, body := texts.getD calls.length "" }) calls

end MultiWallet
