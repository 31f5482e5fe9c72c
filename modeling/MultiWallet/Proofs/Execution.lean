import MultiWallet.Proofs.Handover
import MultiWallet.Proofs.Trade

set_option autoImplicit false

namespace MultiWallet

open Dialogue

structure Remittance where
  payment : Payment
  source : CryptoAccount
  fees : FeeSource
  address : Address

namespace Remittance

def terms (x : Remittance) (amount : Amount) (sender : Sender) (schedule : FeeSchedule)
    (type : FeeType) : Payment.Terms :=
  { amount, sender, destination := x.address.text, memo := x.address.memo, schedule, type }

inductive Course (x : Remittance) (amount : Amount) (type : FeeType) (oracle : Oracle)
    (s : Session) : Checked String → Session → Prop where
  | unresolved {t : Session} (halt : Halt)
      (resolving : x.source.sender.run oracle s = (.error halt, t)) :
      Course x amount type oracle s (.error halt) t
  | unpriced {t : Session} (halt : Halt) (sender : Sender) (resolved : Session)
      (resolving : x.source.sender.run oracle s = (.ok sender, resolved))
      (pricing : (x.fees.schedule x.source.currency).run oracle resolved = (.error halt, t)) :
      Course x amount type oracle s (.error halt) t
  | paid {t : Session} {result : Checked String} (sender : Sender) (schedule : FeeSchedule)
      (resolved priced : Session)
      (resolving : x.source.sender.run oracle s = (.ok sender, resolved))
      (pricing : (x.fees.schedule x.source.currency).run oracle resolved = (.ok schedule, priced))
      (course : x.payment.Course (x.terms amount sender schedule type) oracle priced result t) :
      Course x amount type oracle s result t

theorem course_of_run {x : Remittance} {amount : Amount} {type : FeeType} {oracle : Oracle}
    {s t : Session} {result : Checked String}
    (executed : (do
      let sender ← x.source.sender
      let schedule ← x.fees.schedule x.source.currency
      x.payment.execute amount sender x.address.text x.address.memo schedule type).run oracle s =
        (result, t)) :
    x.Course amount type oracle s result t := by
  obtain ⟨halt, resolving, rfl⟩ | ⟨sender, resolved, resolving, executed⟩ :=
    run_bind_cases executed
  · exact .unresolved halt resolving
  obtain ⟨halt, pricing, rfl⟩ | ⟨schedule, priced, pricing, executed⟩ := run_bind_cases executed
  · exact .unpriced halt sender resolved resolving pricing
  · have course : x.payment.Course (x.terms amount sender schedule type) oracle priced result t :=
      Payment.execute_course executed
    exact .paid sender schedule resolved priced resolving pricing course

end Remittance

theorem StellarTransfer.source_of_destination {x : StellarTransfer} {address found : Address}
    (target : x.target = .address address) (checked : x.destination = .ok found) :
    x.source.currency = .xlm := by
  obtain ⟨other, known, fits⟩ := Checked.bind_eq_ok.1 checked
  rw [target] at known
  obtain ⟨rfl, -, same⟩ := chainAddress_eq_ok.1 known
  by_cases lumens : address.currency = .xlm
  · rw [← same, lumens]
  · simp [lumens, MultiWallet.fail] at fits

namespace Engine

variable {x : Remittance} {engine : Engine} {amount : Amount} {level : FeeLevel} {oracle : Oracle}
  {s t : Session} {result : Checked String}

inductive Remits (x : Remittance) : Engine → Prop where
  | onChain (reporter : Reporter) (preference : Option Int) :
      Remits x (.onChain { source := x.source, target := .address x.address
                           payment := x.payment, fees := x.fees, reporter, preference })
  | stellar (preference : Option Int) :
      Remits x (.stellar { source := x.source, target := .address x.address
                           payment := x.payment, fees := x.fees, preference })

theorem Remits.directed (remits : engine.Remits x) : engine.Directed x.address := by
  cases remits with
  | onChain reporter preference => exact .onChain _ rfl
  | stellar preference => exact .stellar _ rfl

theorem Remits.course {valid : Session} {checking : Oracle} (remits : engine.Remits x)
    (currency : amount.currency = x.source.currency)
    (checked : engine.validate.run checking valid = (.ok (), valid))
    (executed : (engine.execute amount level).run oracle s = (result, t)) :
    x.Course amount level.type oracle s result t := by
  cases remits with
  | onChain reporter preference =>
    obtain ⟨_, -, failed, -⟩ | ⟨found, known, -⟩ := run_liftM_bind_cases checked
    · cases failed
    obtain ⟨halt, failed, -⟩ | ⟨_, again, executed⟩ := run_liftM_bind_cases executed
    · cases known.symm.trans failed
    obtain ⟨rfl, -⟩ := chainAddress_eq_ok.1 again
    simp only [OnChainTransfer.metered, MeteredPayment.execute, currency] at executed
    exact Remittance.course_of_run executed
  | stellar preference =>
    obtain ⟨_, -, failed, -⟩ | ⟨found, known, -⟩ := run_liftM_bind_cases checked
    · cases failed
    obtain ⟨halt, failed, -⟩ | ⟨_, again, executed⟩ := run_liftM_bind_cases executed
    · cases known.symm.trans failed
    obtain rfl := StellarTransfer.destination_eq_ok rfl again
    have lumens : x.source.currency = .xlm := StellarTransfer.source_of_destination rfl again
    rw [← lumens] at executed
    exact Remittance.course_of_run executed

theorem Remits.uninstructed (remits : engine.Remits x)
    (executed : (engine.execute amount level).run oracle s = (result, t)) :
    ∃ calls, t.calls = s.calls ++ calls ∧ calls.countP Call.instructs = 0 := by
  obtain ⟨calls, log, none⟩ := remits.directed.uninstructed executed
  exact ⟨calls, log, List.countP_eq_zero.2 fun c member => by simp [none c member]⟩

end Engine

namespace Processor

section Execution

variable (asset : Asset) (custodian : Custodian) (source : CryptoAccount) (target : Target)
  (action : Action) (creation : Oracle) (s : Session) (amount : Amount) (level : FeeLevel)
  (oracle : Oracle) (u : Session)

end Execution

variable {asset : Asset} {custodian : Custodian} {source : CryptoAccount} {target : Target}
  {action : Action} {creation oracle : Oracle} {s t u v : Session} {amount : Amount}
  {level : FeeLevel} {result : Checked String} {p : Processor}

section Engines

variable {address : Address} {text : String} {x y : Session}

end Engines

end Processor

end MultiWallet
