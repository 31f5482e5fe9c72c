import MultiWallet.Proofs.Advice
import MultiWallet.Proofs.Execution
import MultiWallet.Proofs.Replay

set_option autoImplicit false

namespace MultiWallet

open Dialogue

namespace Payment

theorem settle_determined (amount : Amount) (receipt : Receipt) :
    (settle amount receipt).Determined := by
  unfold settle
  split
  · exact (determined_count _).bind fun _ => replays_pure id _
  · exact (determined_count _).bind fun _ => determined_ofChecked _

variable (p : Payment) (amount : Amount) (sender : Sender) (destination : String)
  (memo : Option String) (schedule : FeeSchedule) (type : FeeType)

theorem build_determined :
    (p.build amount sender destination memo schedule type).Determined :=
  (p.chain.build_plain _).determined.bind fun _ => replays_pure id _

theorem fee_determined : (p.fee amount sender destination schedule type).Determined :=
  (p.build_determined _ _ _ _ _ _).bind fun _ => determined_ofChecked _

theorem execute_determined :
    (p.execute amount sender destination memo schedule type).Determined :=
  (p.build_determined _ _ _ _ _ _).bind fun tx => (p.signer.sign_plain tx).determined.bind
    fun signed => (p.chain.submit_plain signed).determined.bind fun receipt =>
      settle_determined amount receipt

end Payment

theorem Reporter.report_determined (reporter : Reporter) (tag : String) (cause : Failure) :
    (reporter.report tag cause).Determined := by
  cases reporter with
  | external => exact (determined_ask _).bind fun answer => replays_pure id answer
  | counting => exact determined_count _

theorem MeteredPayment.maximum_determined (m : MeteredPayment) (sender : Sender) :
    (m.maximum sender).Determined := by
  refine (m.tryMaximum_plain sender).determined.attempt.bind fun answer => ?_
  cases answer with
  | ok amount => exact replays_pure id _
  | error cause =>
    exact (m.reporter.report_determined _ _).bind fun _ => (determined_count _).bind fun _ =>
      replays_pure id _

namespace Engine

inductive Task where
  | estimate (amount : Amount) (level : FeeLevel)
  | capacity (level : FeeLevel)
  | transfer (amount : Amount) (level : FeeLevel)

inductive Yield where
  | amount (amount : Amount)
  | hash (text : String)

namespace Task

def level : Task → FeeLevel
  | estimate _ level | capacity level | transfer _ level => level

def amount? : Task → Option Amount
  | estimate amount _ | transfer amount _ => some amount
  | capacity _ => none

def perform (engine : Engine) : Task → Dialogue Yield
  | estimate amount level => .amount <$> engine.fee amount level
  | capacity level => .amount <$> engine.maximum level
  | transfer amount level => .hash <$> engine.execute amount level

def carry (x : Remittance) (sender : Sender) (rate : Decimal) (limit : Option UInt64) :
    Task → Dialogue Yield
  | estimate amount _ => do
    let tx ← x.payment.chain.build
      { source := sender.address, destination := x.address.text, amount, rate, memo := none }
    .amount <$> ofChecked (tx.withGasLimit limit).fee
  | capacity _ => .amount <$> x.payment.chain.maximum sender.address rate
  | transfer amount _ => do
    let tx ← x.payment.chain.build
      { source := sender.address, destination := x.address.text, amount, rate
        memo := x.address.memo }
    let signed ← x.payment.signer.sign (tx.withGasLimit limit)
    let receipt ← x.payment.chain.submit signed
    .hash <$> Payment.settle amount receipt

theorem estimate_carry (x : Remittance) (amount : Amount) (level : FeeLevel) (sender : Sender)
    (schedule : FeeSchedule) :
    Yield.amount <$> x.payment.fee amount sender x.address.text schedule level.type =
      (estimate amount level).carry x sender (schedule.rate level.type) schedule.gasLimit := by
  simp only [Payment.fee, Payment.build, carry, map_bind, bind_assoc, pure_bind]

theorem transfer_carry (x : Remittance) (amount : Amount) (level : FeeLevel) (sender : Sender)
    (schedule : FeeSchedule) :
    Yield.hash <$> x.payment.execute amount sender x.address.text x.address.memo schedule
        level.type =
      (transfer amount level).carry x sender (schedule.rate level.type) schedule.gasLimit := by
  simp only [Payment.execute, Payment.build, carry, map_bind, bind_assoc, pure_bind]

def price (task : Task) (x : Remittance) (sender : Sender) : Dialogue Yield := do
  let schedule ← x.fees.schedule x.source.currency
  task.carry x sender (schedule.rate task.level.type) schedule.gasLimit

end Task

variable {x : Remittance} {engine : Engine} {task : Task} {oracle : Oracle} {s t u : Session}
  {result : Checked Yield} {sender : Sender}

namespace Task

def Denominated (task : Task) (x : Remittance) : Prop :=
  ∀ amount, task.amount? = some amount → amount.currency = x.source.currency

def Priced (task : Task) (x : Remittance) (sender : Sender) (oracle : Oracle) (u : Session)
    (result : Checked Yield) (t : Session) : Prop :=
  ∃ planned v advice, (task.price x sender).run oracle u = (planned, v) ∧
    t.calls = v.calls ++ advice ∧ (∀ c ∈ advice, c.To [.reporter]) ∧
    ∀ y, planned = .ok y → result = .ok y

theorem priced_of_run (run : (task.price x sender).run oracle u = (result, t)) :
    task.Priced x sender oracle u result t :=
  ⟨result, t, [], run, (List.append_nil _).symm, by simp, fun _ ok => ok⟩

theorem priced_of_advice {reporter : Reporter} {level : FeeLevel}
    (same : sender.currency = x.source.currency)
    (run : (Yield.amount <$> ({ payment := x.payment, fees := x.fees, type := level.type, reporter } :
      MeteredPayment).maximum sender).run oracle u = (result, t)) :
    (Task.capacity level).Priced x sender oracle u result t := by
  generalize advisor : ({ payment := x.payment, fees := x.fees, type := level.type, reporter } :
    MeteredPayment) = m at run
  have price : (Task.capacity level).price x sender = Yield.amount <$> m.tryMaximum sender := by
    simp only [← advisor, Task.price, MeteredPayment.tryMaximum, Task.carry, map_bind, same,
      Task.level]
    rfl
  have planned := run_map (m.tryMaximum sender) Yield.amount oracle u
  rw [← price] at planned
  rw [run_map] at run
  rcases tried : (m.tryMaximum sender).run oracle u with ⟨(cause | _) | a, v⟩ <;>
    rw [tried] at planned
  · rw [MeteredPayment.run_maximum_failure tried] at run
    cases run
    obtain ⟨advice, log, reports⟩ := v.reported_calls m.reporter sender.currency.ticker cause
    exact ⟨_, v, advice, planned, log, reports, by rintro _ ⟨⟩⟩
  · rw [MeteredPayment.run_maximum_overflow tried] at run
    cases run
    exact priced_of_run planned
  · rw [MeteredPayment.run_maximum_ok tried] at run
    cases run
    exact priced_of_run planned

def Resolved (task : Task) (x : Remittance) (oracle : Oracle) (s : Session)
    (result : Checked Yield) (t : Session) : Prop :=
  (∃ halt, x.source.sender.run oracle s = (.error halt, t) ∧ result = .error halt) ∨
    ∃ sender u, x.source.sender.run oracle s = (.ok sender, u) ∧
      task.Priced x sender oracle u result t

theorem resolved_of_run (run : (x.source.sender >>= task.price x).run oracle s = (result, t)) :
    task.Resolved x oracle s result t := by
  obtain ⟨halt, resolving, ended⟩ | ⟨sender, u, resolving, priced⟩ := run_bind_cases run
  · exact .inl ⟨halt, resolving, ended⟩
  · exact .inr ⟨sender, u, resolving, priced_of_run priced⟩

end Task

theorem Remits.resolved (remits : engine.Remits x) {valid : Session} {checking : Oracle}
    (checked : engine.validate.run checking valid = (.ok (), valid))
    (denominated : task.Denominated x)
    (run : (task.perform engine).run oracle s = (result, t)) :
    task.Resolved x oracle s result t := by
  have plainly (same : task.perform engine = x.source.sender >>= task.price x) :
      task.Resolved x oracle s result t := Task.resolved_of_run (same ▸ run)
  cases remits with
  | onChain reporter preference =>
    obtain ⟨_, -, failed, -⟩ | ⟨found, known, -⟩ := run_liftM_bind_cases checked
    · cases failed
    obtain ⟨rfl, -⟩ := chainAddress_eq_ok.1 known
    cases task with
    | estimate amount level =>
      refine plainly ?_
      simp only [Task.perform, Engine.fee, OnChainTransfer.fee, known, liftM_ok_bind,
        OnChainTransfer.metered, MeteredPayment.fee, denominated amount rfl, map_bind,
        Task.estimate_carry]
      rfl
    -- Here a failure is reported, and the answer is zero.
    | capacity level =>
      simp only [Task.perform, Engine.maximum, OnChainTransfer.maximum, map_bind] at run
      obtain ⟨halt, resolving, ended⟩ | ⟨sender, u, resolving, advised⟩ := run_bind_cases run
      · exact .inl ⟨halt, resolving, ended⟩
      · exact .inr ⟨sender, u, resolving,
          Task.priced_of_advice (CryptoAccount.sender_currency resolving) advised⟩
    | transfer amount level =>
      refine plainly ?_
      simp only [Task.perform, Engine.execute, OnChainTransfer.execute, known, liftM_ok_bind,
        OnChainTransfer.metered, MeteredPayment.execute, denominated amount rfl, map_bind,
        Task.transfer_carry]
      rfl
  | stellar preference =>
    obtain ⟨_, -, failed, -⟩ | ⟨found, known, -⟩ := run_liftM_bind_cases checked
    · cases failed
    obtain rfl := StellarTransfer.destination_eq_ok rfl known
    have lumens : x.source.currency = .xlm := StellarTransfer.source_of_destination rfl known
    refine plainly ?_
    cases task with
    | estimate amount level =>
      simp only [Task.perform, Engine.fee, StellarTransfer.fee, known, liftM_ok_bind, ← lumens,
        map_bind, Task.estimate_carry]
      rfl
    | capacity level =>
      simp only [Task.perform, Engine.maximum, StellarTransfer.maximum, ← lumens, map_bind]
      rfl
    | transfer amount level =>
      simp only [Task.perform, Engine.execute, StellarTransfer.execute, known, liftM_ok_bind,
        ← lumens, map_bind, Task.transfer_carry]
      rfl

theorem Pays.remits {p : Payment} {source : CryptoAccount} {fees : FeeSource} {currency : Currency}
    (pays : engine.Pays p source fees currency) {valid : Session} {checking : Oracle}
    (checked : engine.validate.run checking valid = (.ok (), valid)) :
    ∃ address, engine.Remits { payment := p, source, fees, address } := by
  have named {target : Target} {found : Address}
      (known : chainAddress source target = .ok found) : ∃ address, target = .address address := by
    cases target with
    | account other => cases known
    | address address => exact ⟨address, rfl⟩
  cases pays with
  | onChain target reporter preference =>
    obtain ⟨_, -, failed, -⟩ | ⟨found, known, -⟩ := run_liftM_bind_cases checked
    · cases failed
    obtain ⟨address, rfl⟩ := named known
    exact ⟨address, .onChain reporter preference⟩
  | stellar target preference =>
    obtain ⟨_, -, failed, -⟩ | ⟨found, known, -⟩ := run_liftM_bind_cases checked
    · cases failed
    obtain ⟨_, known, -⟩ := Checked.bind_eq_ok.1 known
    obtain ⟨address, rfl⟩ := named known
    exact ⟨address, .stellar preference⟩

theorem Pays.determined {p : Payment} {source : CryptoAccount} {fees : FeeSource}
    {currency : Currency} (pays : engine.Pays p source fees currency) (task : Task) :
    (task.perform engine).Determined := by
  have yields {α : Type} {d : Dialogue α} (f : α → Yield) (determined : d.Determined) :
      (f <$> d).Determined := determined.map fun _ => rfl
  have sender := source.sender_plain.determined
  cases pays with
  | onChain target reporter preference =>
    cases task with
    | estimate amount level =>
      exact yields _ ((determined_ofChecked _).bind fun address => sender.bind fun sender =>
        (fees.schedule_plain _).determined.bind fun _ => p.fee_determined _ _ _ _ _)
    | capacity level => exact yields _ (sender.bind fun sender =>
      MeteredPayment.maximum_determined _ _)
    | transfer amount level =>
      exact yields _ ((determined_ofChecked _).bind fun address => sender.bind fun sender =>
        (fees.schedule_plain _).determined.bind fun _ => p.execute_determined _ _ _ _ _ _)
  | stellar target preference =>
    cases task with
    | estimate amount level =>
      exact yields _ ((determined_ofChecked _).bind fun address => sender.bind fun sender =>
        (fees.schedule_plain _).determined.bind fun _ => p.fee_determined _ _ _ _ _)
    | capacity level =>
      exact yields _ (sender.bind fun sender => (fees.schedule_plain _).determined.bind fun _ =>
        (p.chain.maximum_plain _ _).determined)
    | transfer amount level =>
      exact yields _ ((determined_ofChecked _).bind fun address => sender.bind fun sender =>
        (fees.schedule_plain _).determined.bind fun _ => p.execute_determined _ _ _ _ _ _)

structure Consulted (x : Remittance) (oracle : Oracle) (s : Session) (sender : Sender)
    (earlier : List Call) (answer : Checked FeeSchedule) : Prop where
  resolving : x.source.sender.run oracle s = (.ok sender, s.after earlier)
  resolvers : ∀ c ∈ earlier, c.To [.web, .custodian, .account]
  pricing : (x.fees.schedule x.source.currency).run oracle (s.after earlier) =
    (answer, s.after (earlier ++ (x.fees.lookup? x.source.currency).toList))

/-- The calls of a task in their order. Without a sender nobody is asked for rates, and without rates
neither the chain nor the signer is asked for anything. -/
inductive Fresh (x : Remittance) (task : Task) (oracle : Oracle) (s : Session)
    (result : Checked Yield) : List Call → Prop where
  | unresolved (halt : Halt) (calls : List Call)
      (resolving : x.source.sender.run oracle s = (.error halt, s.after calls))
      (resolvers : ∀ c ∈ calls, c.To [.web, .custodian, .account])
      (failed : result = .error halt) : Fresh x task oracle s result calls
  | unpriced (sender : Sender) (halt : Halt) (earlier advice : List Call)
      (consulted : Consulted x oracle s sender earlier (.error halt))
      (reports : ∀ c ∈ advice, c.To [.reporter]) :
      Fresh x task oracle s result
        (earlier ++ ((x.fees.lookup? x.source.currency).toList ++ advice))
  | carried (sender : Sender) (schedule : FeeSchedule) (earlier traffic advice : List Call)
      (planned : Checked Yield) (ended : Session)
      (consulted : Consulted x oracle s sender earlier (.ok schedule))
      (carrying : (task.carry x sender (schedule.rate task.level.type) schedule.gasLimit).run oracle
        (s.after (earlier ++ (x.fees.lookup? x.source.currency).toList)) = (planned, ended))
      (log : ended.calls =
        s.calls ++ (earlier ++ (x.fees.lookup? x.source.currency).toList ++ traffic))
      (addressees : ∀ c ∈ traffic, c.To [.web, .network, .signer])
      (reports : ∀ c ∈ advice, c.To [.reporter])
      (kept : ∀ y, planned = .ok y → result = .ok y) :
      Fresh x task oracle s result
        (earlier ++ ((x.fees.lookup? x.source.currency).toList ++ (traffic ++ advice)))

theorem Task.carry_asks (task : Task) (x : Remittance) (sender : Sender) (rate : Decimal)
    (limit : Option UInt64) :
    (task.carry x sender rate limit).Asks (Call.To [.web, .network, .signer]) := by
  have reached {α : Type} {d : Dialogue α} (plain : d.Plain ChainClient.Reached) :
      d.Asks (Call.To [.web, .network, .signer]) := (plain.widen (by decide)).asks
  cases task with
  | estimate amount level =>
    exact .bind (reached (x.payment.chain.build_plain _)) fun _ => .map (asks_ofChecked _)
  | capacity level => exact .map (reached (x.payment.chain.maximum_plain _ _))
  | transfer amount level =>
    refine .bind (reached (x.payment.chain.build_plain _)) fun tx => .bind ?_ fun signed =>
      .bind (reached (x.payment.chain.submit_plain signed)) fun receipt => .map ?_
    · refine (x.payment.signer.sign_plain _).asks.mono fun c same => ?_
      subst same
      exact Call.To.widen (x.payment.signer.request_to _) (by decide)
    · exact (Payment.settle_silent _ _).mono fun _ => False.elim

theorem Task.Priced.fresh {earlier : List Call}
    (resolving : x.source.sender.run oracle s = (.ok sender, s.after earlier))
    (resolvers : ∀ c ∈ earlier, c.To [.web, .custodian, .account])
    (priced : task.Priced x sender oracle (s.after earlier) result t) :
    ∃ calls, t.calls = s.calls ++ calls ∧ Fresh x task oracle s result calls := by
  obtain ⟨planned, v, advice, run, log, reports, kept⟩ := priced
  obtain ⟨answer, -, pricing, -⟩ :=
    x.fees.run_schedule x.source.currency oracle (s.after earlier)
  rw [Session.after_after] at pricing
  have consulted : Consulted x oracle s sender earlier answer := ⟨resolving, resolvers, pricing⟩
  cases answer with
  | error halt =>
    rw [Task.price, run_bind_error pricing] at run
    cases run
    exact ⟨_, by simp [log], .unpriced sender halt earlier advice consulted reports⟩
  | ok schedule =>
    rw [Task.price, run_bind_ok pricing] at run
    obtain ⟨traffic, more, addressees⟩ := (task.carry_asks x sender _ _).of_run run
    refine ⟨_, ?_, .carried sender schedule earlier traffic advice planned v consulted run ?_
      addressees reports kept⟩
    · simp [log, more]
    · simp [more]

theorem Remits.fresh (remits : engine.Remits x) {valid : Session} {checking : Oracle}
    (checked : engine.validate.run checking valid = (.ok (), valid))
    (denominated : task.Denominated x)
    (run : (task.perform engine).run oracle s = (result, t)) :
    ∃ calls, t.calls = s.calls ++ calls ∧ Fresh x task oracle s result calls := by
  have sender : x.source.sender.Plain (Call.To [.web, .custodian, .account]) :=
    x.source.sender_plain.toward (List.Subset.refl _)
  obtain ⟨halt, resolving, failed⟩ | ⟨_, u, resolving, priced⟩ :=
    remits.resolved checked denominated run
  · obtain ⟨calls, rfl, resolvers⟩ := sender.leaves_run resolving
    exact ⟨calls, rfl, .unresolved halt calls resolving resolvers failed⟩
  · obtain ⟨earlier, rfl, resolvers⟩ := sender.leaves_run resolving
    exact priced.fresh resolving resolvers

theorem filter_fees {parties : List Party} {calls : List Call} (other : .fees ∉ parties)
    (kinds : ∀ c ∈ calls, c.To parties) : calls.filter (fun c => c.party = .fees) = [] := by
  refine List.filter_eq_nil_iff.2 fun c member => ?_
  have kind := kinds c member
  intro same
  exact other (by simpa [Call.To, of_decide_eq_true same] using kind)

theorem Fresh.lookups {calls : List Call} (fresh : Fresh x task oracle s result calls)
    (external : x.fees = .external) (resolved : x.source.sender.run oracle s = (.ok sender, u)) :
    calls.filter (fun c => c.party = .fees) = [.feeSchedule x.source.currency] := by
  have lookup : (x.fees.lookup? x.source.currency).toList = [.feeSchedule x.source.currency] := by
    rw [external]
    rfl
  have looked : [Call.feeSchedule x.source.currency].filter (fun c => c.party = .fees) =
      [.feeSchedule x.source.currency] := rfl
  cases fresh with
  | unresolved halt calls resolving resolvers failed => cases resolved.symm.trans resolving
  | unpriced sender halt earlier advice consulted reports =>
    rw [List.filter_append, List.filter_append, lookup, looked,
      filter_fees (by decide) consulted.resolvers, filter_fees (by decide) reports]
    rfl
  | carried sender schedule earlier traffic advice planned ended consulted carrying log addressees
      reports kept =>
    rw [List.filter_append, List.filter_append, List.filter_append, lookup, looked,
      filter_fees (by decide) consulted.resolvers, filter_fees (by decide) addressees,
      filter_fees (by decide) reports]
    rfl

structure Turn where
  engine : Engine
  task : Task
  before : Session
  result : Checked Yield
  after : Session

def serve (oracle : Oracle) : List (Engine × Task) → Session → List Turn
  | [], _ => []
  | (engine, task) :: rest, s =>
    let ran := (task.perform engine).run oracle s
    { engine, task, before := s, result := ran.1, after := ran.2 } :: serve oracle rest ran.2

end Engine

end MultiWallet
