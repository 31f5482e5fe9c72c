import MultiWallet.Dialogue.Call
import MultiWallet.Metric

/-!
Operations that talk to the parties around a wallet. A dialogue is run against an oracle, which
knows what each party answers after the calls made so far; the session that it carries along
remembers those calls, the loaded accounts and the counted events, also when the dialogue fails.
-/

set_option autoImplicit false

namespace MultiWallet

abbrev Oracle := List Call → (c : Call) → c.Reply

structure Session where
  calls : List Call
  nextId : Nat
  loaded : Currency → Option (List Account)
  loadedFiat : Option (List Account)
  registered : List (Currency × Bool)
  counted : List Metric

def Session.empty : Session :=
  { calls := [], nextId := 0, loaded := fun _ => none, loadedFiat := none, registered := [],
    counted := [] }

def Dialogue (α : Type) := Oracle → Session → Checked α × Session

namespace Dialogue

variable {α β : Type}

def run (d : Dialogue α) (oracle : Oracle) (s : Session) : Checked α × Session := d oracle s

protected def pure (a : α) : Dialogue α := fun _ s => (.ok a, s)

protected def bind (d : Dialogue α) (f : α → Dialogue β) : Dialogue β := fun oracle s =>
  match d oracle s with
  | (.ok a, s) => f a oracle s
  | (.error halt, s) => (.error halt, s)

instance : Monad Dialogue where
  pure := Dialogue.pure
  bind := Dialogue.bind

@[simp] theorem run_pure (a : α) (oracle : Oracle) (s : Session) :
    (pure a : Dialogue α).run oracle s = (.ok a, s) := rfl

theorem run_bind (d : Dialogue α) (f : α → Dialogue β) (oracle : Oracle) (s : Session) :
    (d >>= f).run oracle s =
      match d.run oracle s with
      | (.ok a, s) => (f a).run oracle s
      | (.error halt, s) => (.error halt, s) := rfl

theorem run_bind_ok {d : Dialogue α} {oracle : Oracle} {s t : Session} {a : α}
    (h : d.run oracle s = (.ok a, t)) (f : α → Dialogue β) :
    (d >>= f).run oracle s = (f a).run oracle t := by
  rw [run_bind, h]

theorem run_bind_error {d : Dialogue α} {oracle : Oracle} {s t : Session} {halt : Halt}
    (h : d.run oracle s = (.error halt, t)) (f : α → Dialogue β) :
    (d >>= f).run oracle s = (.error halt, t) := by
  rw [run_bind, h]

instance : LawfulMonad Dialogue := LawfulMonad.mk' Dialogue
  (fun d => by
    funext oracle s
    change Dialogue.bind d (fun a => Dialogue.pure a) oracle s = d oracle s
    simp only [Dialogue.bind, Dialogue.pure]
    rcases d oracle s with ⟨_ | _, _⟩ <;> rfl)
  (fun _ _ => rfl)
  (fun d f g => by
    funext oracle s
    change Dialogue.bind (Dialogue.bind d f) g oracle s =
      Dialogue.bind d (fun a => Dialogue.bind (f a) g) oracle s
    simp only [Dialogue.bind]
    rcases d oracle s with ⟨_ | _, _⟩ <;> rfl)

def ofChecked (result : Checked α) : Dialogue α := fun _ s => (result, s)

instance : MonadLift (Except Halt) Dialogue where
  monadLift := ofChecked

@[simp] theorem run_ofChecked (result : Checked α) (oracle : Oracle) (s : Session) :
    (ofChecked result).run oracle s = (result, s) := rfl

def fail (cause : Failure) : Dialogue α := ofChecked (MultiWallet.fail cause)

@[simp] theorem run_fail (cause : Failure) (oracle : Oracle) (s : Session) :
    (fail cause : Dialogue α).run oracle s = (.error (.failure cause), s) := rfl

def ask (c : Call) : Dialogue c.Reply := fun oracle s =>
  (.ok (oracle s.calls c), { s with calls := s.calls ++ [c] })

@[simp] theorem run_ask (c : Call) (oracle : Oracle) (s : Session) :
    (ask c).run oracle s = (.ok (oracle s.calls c), { s with calls := s.calls ++ [c] }) := rfl

def ofAnswer : Answer α → Dialogue α
  | .ok a => pure a
  | .error cause => fail cause

def attempt (d : Dialogue α) : Dialogue (Answer α) := fun oracle s =>
  match d oracle s with
  | (.ok a, s) => (.ok (.ok a), s)
  | (.error (.failure cause), s) => (.ok (.error cause), s)
  | (.error .overflow, s) => (.error .overflow, s)

theorem run_attempt (d : Dialogue α) (oracle : Oracle) (s : Session) :
    d.attempt.run oracle s =
      match d.run oracle s with
      | (.ok a, s) => (.ok (.ok a), s)
      | (.error (.failure cause), s) => (.ok (.error cause), s)
      | (.error .overflow, s) => (.error .overflow, s) := rfl

theorem run_attempt_ok {d : Dialogue α} {oracle : Oracle} {s t : Session} {a : α}
    (h : d.run oracle s = (.ok a, t)) : d.attempt.run oracle s = (.ok (.ok a), t) := by
  rw [run_attempt, h]

theorem run_attempt_failure {d : Dialogue α} {oracle : Oracle} {s t : Session} {cause : Failure}
    (h : d.run oracle s = (.error (.failure cause), t)) :
    d.attempt.run oracle s = (.ok (.error cause), t) := by
  rw [run_attempt, h]

theorem run_attempt_overflow {d : Dialogue α} {oracle : Oracle} {s t : Session}
    (h : d.run oracle s = (.error .overflow, t)) :
    d.attempt.run oracle s = (.error .overflow, t) := by
  rw [run_attempt, h]

def orElse (d : Dialogue α) (value : α) : Dialogue α := do
  match ← d.attempt with
  | .ok a => return a
  | .error _ => return value

theorem run_orElse_ok {d : Dialogue α} {oracle : Oracle} {s t : Session} {a : α}
    (h : d.run oracle s = (.ok a, t)) (value : α) :
    (d.orElse value).run oracle s = (.ok a, t) := by
  rw [orElse, run_bind_ok (run_attempt_ok h)]
  rfl

theorem run_orElse_failure {d : Dialogue α} {oracle : Oracle} {s t : Session} {cause : Failure}
    (h : d.run oracle s = (.error (.failure cause), t)) (value : α) :
    (d.orElse value).run oracle s = (.ok value, t) := by
  rw [orElse, run_bind_ok (run_attempt_failure h)]
  rfl

def session : Dialogue Session := fun _ s => (.ok s, s)

def modify (f : Session → Session) : Dialogue Unit := fun _ s => (.ok (), f s)

def count (m : Metric) : Dialogue Unit :=
  modify fun s => { s with counted := s.counted ++ [m] }

@[simp] theorem run_count (m : Metric) (oracle : Oracle) (s : Session) :
    (count m).run oracle s = (.ok (), { s with counted := s.counted ++ [m] }) := rfl

def freshId : Dialogue Nat := fun _ s => (.ok s.nextId, { s with nextId := s.nextId + 1 })

@[simp] theorem run_freshId (oracle : Oracle) (s : Session) :
    freshId.run oracle s = (.ok s.nextId, { s with nextId := s.nextId + 1 }) := rfl

def exchange (request : Http.Request) : Dialogue Http.Reply := do
  let outcome : Http.Outcome ← ask (.http request)
  match outcome with
  | .reply r => return r
  | .unreachable => fail (.http none)

def decodeBody (decode : Json → Option α) (r : Http.Reply) : Dialogue α :=
  match (Json.ofString r.body).bind decode with
  | some a => pure a
  | none => fail (.http none)

end Dialogue

end MultiWallet
