import MultiWallet.Proofs.Capacity
import MultiWallet.Proofs.Chain.Overflow

set_option autoImplicit false

namespace MultiWallet

open Dialogue

namespace Session

def counting (s : Session) (m : Metric) : Session := { s with counted := s.counted ++ [m] }

def reported (s : Session) (reporter : Reporter) (tag : String) (cause : Failure) : Session :=
  match reporter with
  | .external => s.after [.report tag cause]
  | .counting => s.counting (.swallowed tag)

theorem reported_calls (s : Session) (reporter : Reporter) (tag : String) (cause : Failure) :
    ∃ advice, (s.reported reporter tag cause).calls = s.calls ++ advice ∧
      ∀ c ∈ advice, c.To [.reporter] := by
  cases reporter with
  | external => exact ⟨_, rfl, by simp [Call.To, Call.party]⟩
  | counting => exact ⟨[], (List.append_nil _).symm, by simp⟩

end Session

theorem Reporter.run_report (reporter : Reporter) (tag : String) (cause : Failure)
    (oracle : Oracle) (s : Session) :
    (reporter.report tag cause).run oracle s = (.ok (), s.reported reporter tag cause) := by
  cases reporter <;> rfl

namespace MeteredPayment

variable {x : MeteredPayment} {sender : Sender} {oracle : Oracle} {s t : Session}

theorem tryMaximum_plain (x : MeteredPayment) (sender : Sender) :
    (x.tryMaximum sender).Plain (Call.To [.web, .fees, .network]) :=
  .bind ((x.fees.schedule_plain _).toward (by decide)) fun _ =>
    (x.payment.chain.maximum_plain _ _).widen (by decide)

theorem run_maximum_ok {m : Amount} (found : (x.tryMaximum sender).run oracle s = (.ok m, t)) :
    (x.maximum sender).run oracle s = (.ok m, t) := by
  rw [maximum, run_bind_ok (run_attempt_ok found)]
  rfl

theorem run_maximum_failure {cause : Failure}
    (failed : (x.tryMaximum sender).run oracle s = (.error (.failure cause), t)) :
    (x.maximum sender).run oracle s =
      (.ok (.zero sender.currency), (t.reported x.reporter sender.currency.ticker cause).counting
        (.fallback sender.currency)) := by
  rw [maximum, run_bind_ok (run_attempt_failure failed)]
  exact run_bind_ok (x.reporter.run_report _ _ _ _) _

theorem run_maximum_overflow (halted : (x.tryMaximum sender).run oracle s = (.error .overflow, t)) :
    (x.maximum sender).run oracle s = (.error .overflow, t) := by
  rw [maximum, run_bind_error (run_attempt_overflow halted)]

def Overflows (x : MeteredPayment) (sender : Sender) (oracle : Oracle) (s : Session) : Prop :=
  ∃ schedule t, (x.fees.schedule sender.currency).run oracle s = (.ok schedule, t) ∧
    x.payment.chain.Overflows sender.address (schedule.rate x.type) oracle t

theorem tryMaximum_overflow_iff :
    ((x.tryMaximum sender).run oracle s).1 = .error .overflow ↔ x.Overflows sender oracle s := by
  rw [tryMaximum, (x.fees.schedule_bounded _).bind_overflow_iff]
  simp only [Payment.maximum, ChainClient.maximum_overflow_iff, Overflows]

theorem maximum_overflow_of (overflows : x.Overflows sender oracle s) :
    ((x.maximum sender).run oracle s).1 = .error .overflow := by
  have halted := tryMaximum_overflow_iff.2 overflows
  rw [run_maximum_overflow (Prod.ext halted rfl)]

inductive Advice (x : MeteredPayment) (sender : Sender) (oracle : Oracle) (s : Session) :
    Checked Amount → Session → Prop where
  | known (m : Amount) (calls : List Call) (inRange : ¬ x.Overflows sender oracle s)
      (found : (x.tryMaximum sender).run oracle s = (.ok m, s.after calls))
      (unreported : ∀ c ∈ calls, c.party ≠ .reporter) :
      Advice x sender oracle s (.ok m) (s.after calls)
  | unknown (cause : Failure) (calls : List Call) (inRange : ¬ x.Overflows sender oracle s)
      (failed : (x.tryMaximum sender).run oracle s = (.error (.failure cause), s.after calls))
      (unreported : ∀ c ∈ calls, c.party ≠ .reporter) :
      Advice x sender oracle s (.ok (.zero sender.currency))
        (((s.after calls).reported x.reporter sender.currency.ticker cause).counting
          (.fallback sender.currency))
  | halted (calls : List Call) (overflows : x.Overflows sender oracle s)
      (unreported : ∀ c ∈ calls, c.party ≠ .reporter) :
      Advice x sender oracle s (.error .overflow) (s.after calls)

/-- Advice is given, except where a number is out of range: then the request comes to nothing. -/
theorem maximum_advice (x : MeteredPayment) (sender : Sender) (oracle : Oracle) (s : Session) :
    x.Advice sender oracle s ((x.maximum sender).run oracle s).1
      ((x.maximum sender).run oracle s).2 := by
  obtain ⟨calls, log, kinds⟩ := (x.tryMaximum_plain sender).leaves oracle s
  have unreported (c : Call) (member : c ∈ calls) : c.party ≠ .reporter := by
    intro same
    have kind := kinds c member
    simp [Call.To, same] at kind
  have overflow : ((x.tryMaximum sender).run oracle s).1 = .error .overflow ↔
      x.Overflows sender oracle s := tryMaximum_overflow_iff
  rcases tried : (x.tryMaximum sender).run oracle s with ⟨(cause | _) | m, t⟩ <;>
    rw [tried] at log overflow <;> subst log
  · rw [run_maximum_failure tried]
    exact .unknown cause calls (fun overflows => by cases overflow.2 overflows) tried unreported
  · rw [run_maximum_overflow tried]
    exact .halted calls (overflow.1 rfl) unreported
  · rw [run_maximum_ok tried]
    exact .known m calls (fun overflows => by cases overflow.2 overflows) tried unreported

def etherAdvice : MeteredPayment :=
  { payment := Evm.node.payment .external, fees := .external, type := .regular, reporter := .external }

def ledgerAdvice : MeteredPayment :=
  { payment := { chain := .stellar (.external "ledger") .test, signer := .external }
    fees := .external, type := .regular, reporter := .external }

def ledgerHolder : Sender := { currency := .xlm, label := "mine", address := "GSRC" }

-- As many gwei as a unit of gas would have to cost.
def hugeRate : Decimal := .ofNat (10 ^ 20) (by decide)

def lowest : Decimal := (Decimal.ofNat (2 ^ 96 - 1) (by decide)).neg

-- The account owes as much as can be written down.
def debtor : StellarAccount :=
  { id := "GSRC", sequence := "41", subentries := 0
    balances := [{ balance := "-79228162514264337593543950335", assetType := "native"
                   assetCode := none }] }

theorem debtor_overflows : debtor.Overflows :=
  ⟨lowest, by decide +kernel, .inr ⟨{ negative := false, coefficient := 10, scale := 1 },
    by decide +kernel, by decide +kernel⟩⟩

def indebted : Oracle
  | _, .stellarAccount _ _ => .ok debtor
  | _, .feeSchedule currency =>
    .ok { currency, regular := .ofUInt64 100, priority := .ofUInt64 200, limits := none
          gasLimit := none }
  | _, c => c.refused

theorem advice_withheld :
    ((etherAdvice.maximum Evm.holder).run (Engine.etherAt hugeRate) .empty).1 =
        .error .overflow ∧
      ((ledgerAdvice.maximum ledgerHolder).run indebted .empty).1 = .error .overflow := by
  constructor
  · have balance : (Evm.node.balance Evm.holder.address).run (Engine.etherAt hugeRate)
        Engine.afterRates = (.ok { currency := .eth, value := .ofUInt64 1 }, Engine.afterFunds) := by
      rw [Evm.balance_eq, run_bind_ok (Engine.run_held_etherAt hugeRate)]
      rfl
    refine maximum_overflow_of ⟨_, Engine.afterRates, rfl, ⟨_, _, balance⟩, .inl ?_⟩
    change 2 ^ 96 ≤ |hugeRate.toRat| * 10 ^ 9
    norm_num [hugeRate]
  · exact maximum_overflow_of ⟨_, _, rfl, _, _, rfl, debtor_overflows⟩

end MeteredPayment

end MultiWallet
