import MultiWallet.Processor
import MultiWallet.Proofs.Payment

set_option autoImplicit false

namespace MultiWallet

open Dialogue

theorem chainAddress_eq_ok {source : CryptoAccount} {address found : Address} :
    chainAddress source (.address address) = .ok found ↔
      address = found ∧ (Text.trim address.text.toList).isEmpty = false ∧
        address.currency = source.currency := by
  by_cases blank : (Text.trim address.text.toList).isEmpty = true
  · simp [chainAddress, blank]
  · by_cases same : address.currency = source.currency <;> simp [chainAddress, blank, same]

section Transfers

variable {oracle : Oracle} {s t : Session} {result : Checked String} {address : Address}
  {amount : Amount} {level : FeeLevel}

theorem Payment.scheduled_outcome {p : Payment} (source : CryptoAccount) (fees : FeeSource)
    (currency : Currency) (destination : String) (memo : Option String) (type : FeeType)
    (executed : (do
      let sender ← source.sender
      let schedule ← fees.schedule currency
      p.execute amount sender destination memo schedule type).run oracle s = (result, t)) :
    p.Outcome destination amount oracle s result t := by
  refine .bind (source.sender_asks.mono fun _ => Signer.quiet_of_reads) ?_ executed
  intro sender u executed
  refine .bind ((fees.schedule_asks currency).mono fun _ => Signer.quiet_of_reads) ?_ executed
  intro schedule v executed
  exact execute_outcome executed

theorem OnChainTransfer.execute_outcome {x : OnChainTransfer} (target : x.target = .address address)
    (executed : (x.execute amount level).run oracle s = (result, t)) :
    x.payment.Outcome address.text amount oracle s result t := by
  rw [execute, target] at executed
  obtain ⟨halt, -, rfl, rfl⟩ | ⟨found, checked, executed⟩ := run_liftM_bind_cases executed
  · exact .unprepared halt [] (List.append_nil _).symm (by simp)
  · obtain ⟨rfl, -⟩ := chainAddress_eq_ok.1 checked
    exact Payment.scheduled_outcome x.source x.fees amount.currency address.text address.memo
      level.type executed

theorem StellarTransfer.destination_eq_ok {x : StellarTransfer} {found : Address}
    (target : x.target = .address address) (checked : x.destination = .ok found) :
    address = found := by
  obtain ⟨_, checked, fits⟩ := Checked.bind_eq_ok.1 checked
  rw [target] at checked
  obtain ⟨rfl, -⟩ := chainAddress_eq_ok.1 checked
  split at fits
  next => cases fits
  next =>
    split at fits
    next => cases fits
    next =>
      cases fits
      rfl

theorem StellarTransfer.execute_outcome {x : StellarTransfer} (target : x.target = .address address)
    (executed : (x.execute amount level).run oracle s = (result, t)) :
    x.payment.Outcome address.text amount oracle s result t := by
  obtain ⟨halt, -, rfl, rfl⟩ | ⟨found, checked, executed⟩ := run_liftM_bind_cases executed
  · exact .unprepared halt [] (List.append_nil _).symm (by simp)
  · obtain rfl := destination_eq_ok target checked
    exact Payment.scheduled_outcome x.source x.fees .xlm address.text address.memo level.type
      executed

end Transfers

namespace Engine

variable {oracle : Oracle} {s t u : Session} {result : Checked String} {address : Address}
  {amount : Amount} {level : FeeLevel} {hash : String}

/-- The engine moves funds to this address, on a chain or by other means than this program's. -/
inductive Directed (address : Address) : Engine → Prop where
  | onChain (x : OnChainTransfer) (target : x.target = .address address) :
      Directed address (.onChain x)
  | stellar (x : StellarTransfer) (target : x.target = .address address) :
      Directed address (.stellar x)
  | external (name : String) (level : FeeLevel) : Directed address (.external name level)

theorem directed_of_engine {a : Asset} {source : CryptoAccount} {engine : Engine}
    (chosen : (a.engine source (.address address)).run oracle s = (.ok engine, t)) :
    engine.Directed address := by
  unfold Asset.engine at chosen
  split at chosen
  next =>
    cases chosen
    exact .onChain _ rfl
  next =>
    cases chosen
    exact .stellar _ rfl
  next => cases chosen
  next =>
    simp only [run_bind_eq_ok, run_pure, Prod.mk.injEq, Except.ok.injEq] at chosen
    obtain ⟨_, _, -, name, _, -, rfl, -⟩ := chosen
    exact .external name .regular

/-- A network accepted a transfer of the engine between two points of a conversation, or the party
that carries it out reported it, and this is its hash. -/
def Accepted (engine : Engine) (oracle : Oracle) (before after : List Call) (hash : String) :
    Prop :=
  match engine with
  | onChain x => x.payment.Accepted oracle before after hash
  | stellar x => x.payment.Accepted oracle before after hash
  | external name _ => ∃ amount level calls, before <+: calls ∧
      calls ++ [.engineExecute name amount level] <+: after ∧
      (oracle calls (.engineExecute name amount level) : Answer String) = .ok hash
  | fundedTrade _ deposit => deposit.Accepted oracle before after hash
  | withdrawal _ | trade _ => False

theorem Directed.validate_asks {engine : Engine} (directed : engine.Directed address) :
    engine.validate.Asks Call.Reads := by
  cases directed with
  | onChain x target => exact .bind (asks_liftM _) fun _ => asks_pure _
  | stellar x target => exact .bind (asks_liftM _) fun _ => asks_pure _
  | external name level => exact .bind (asks_ask rfl) fun _ => asks_ofAnswer _

theorem Directed.not_accepted {engine : Engine} (directed : engine.Directed address)
    {before after calls : List Call} (window : after = before ++ calls)
    (reads : ∀ c ∈ calls, c.Reads) : ¬ engine.Accepted oracle before after hash := by
  have unasked (p : Payment) : ¬ p.Accepted oracle before after hash := by
    rintro ⟨a, -⟩
    obtain ⟨c, member, asked⟩ := a.asks window
    exact Signer.not_asked_of_reads (reads c member) asked
  cases directed with
  | onChain x target => exact unasked x.payment
  | stellar x target => exact unasked x.payment
  | external name default =>
    rintro ⟨amount, level, _, ⟨earlier, rfl⟩, ⟨rest, ends⟩, -⟩
    have member : Call.engineExecute name amount level ∈ calls := by
      have : earlier ++ .engineExecute name amount level :: rest = calls := by
        simpa [window] using ends
      simp [← this]
    cases reads _ member

theorem external_traces (name : String) (default level : FeeLevel) (amount : Amount) :
    ((external name default).execute amount level).Traces fun _ calls =>
      calls = [.engineExecute name amount level] :=
  .bind_silent (traces_ask _) asks_ofAnswer

theorem run_external {name : String} {default : FeeLevel}
    (answer : (oracle s.calls (.engineExecute name amount level) : Answer String) = .ok hash) :
    ((external name default).execute amount level).run oracle s =
      (.ok hash, { s with calls := s.calls ++ [.engineExecute name amount level] }) := by
  change (ofAnswer (oracle s.calls (.engineExecute name amount level))).run oracle _ = _
  rw [answer]
  rfl

theorem run_external_eq_ok {name : String} {default : FeeLevel}
    (executed : ((external name default).execute amount level).run oracle s = (.ok hash, t)) :
    (oracle s.calls (.engineExecute name amount level) : Answer String) = .ok hash := by
  change (ofAnswer (oracle s.calls (.engineExecute name amount level))).run oracle _ = _ at executed
  cases answer : (oracle s.calls (.engineExecute name amount level) : Answer String) with
  | ok found =>
    rw [answer] at executed
    cases executed
    rfl
  | error cause =>
    rw [answer] at executed
    cases executed

theorem Directed.accepted_iff {engine : Engine} (directed : engine.Directed address)
    {calls later after : List Call} (log : s.calls = u.calls ++ calls)
    (reads : ∀ c ∈ calls, c.Reads)
    (executed : (engine.execute amount level).run oracle s = (result, t))
    (instructs : ∀ c ∈ later, c.instructs = true) (window : after = t.calls ++ later) :
    engine.Accepted oracle u.calls after hash ↔ result = .ok hash := by
  have quiet (signer : Signer) (c : Call) (member : c ∈ calls) : signer.Quiet c :=
    Signer.quiet_of_reads (reads c member)
  cases directed with
  | onChain x target =>
    have outcome := (x.execute_outcome target executed).preceded log (quiet _)
    exact outcome.accepted_iff instructs window
  | stellar x target =>
    have outcome := (x.execute_outcome target executed).preceded log (quiet _)
    exact outcome.accepted_iff instructs window
  | external name default =>
    obtain ⟨_, asked, rfl⟩ := (external_traces name default level amount).of_run executed
    constructor
    · rintro ⟨amount', level', _, ⟨earlier, rfl⟩, ⟨rest, ends⟩, answer⟩
      have before : Call.engineExecute name amount' level' ∉ calls := fun member => by
        cases reads _ member
      have after : Call.engineExecute name amount' level' ∉ later := fun member => by
        cases instructs _ member
      have same : calls ++ .engineExecute name amount level :: later =
          earlier ++ .engineExecute name amount' level' :: rest := by
        simpa [window, asked, log] using ends.symm
      obtain ⟨rfl, same, -⟩ := (List.append_cons_inj_of_notMem before after).1 same
      cases same
      rw [← log] at answer
      rw [run_external answer] at executed
      exact (Prod.mk.inj executed).1.symm
    · rintro rfl
      refine ⟨amount, level, s.calls, ⟨calls, log.symm⟩, ⟨later, ?_⟩, run_external_eq_ok executed⟩
      rw [window, asked]

def payment? : Engine → Option Payment
  | onChain x => some x.payment
  | stellar x => some x.payment
  | withdrawal _ | trade _ | fundedTrade _ _ | external _ _ => none

theorem Directed.outcome {engine : Engine} {p : Payment} (directed : engine.Directed address)
    (carries : engine.payment? = some p)
    (executed : (engine.execute amount level).run oracle s = (result, t)) :
    p.Outcome address.text amount oracle s result t := by
  cases directed with
  | onChain x target =>
    cases carries
    exact x.execute_outcome target executed
  | stellar x target =>
    cases carries
    exact x.execute_outcome target executed
  | external name default => cases carries

theorem Directed.requests {engine : Engine} {p : Payment} {paid : ℚ}
    (directed : engine.Directed address)
    (carries : engine.payment? = some p) (positive : amount.isPositive = true)
    (pays : p.chain.payout? amount = some paid)
    (executed : (engine.execute amount level).run oracle s = (result, t)) :
    ∃ calls, t.calls = s.calls ++ calls ∧ ∀ c ∈ calls, p.signer.Asked c →
      ∃ tx, c = p.signer.request tx ∧ tx.payout? = some (address.text, paid) := by
  obtain ⟨calls, log, only⟩ := (directed.outcome carries executed).requests
  refine ⟨calls, log, ?_⟩
  intro c member asked
  obtain ⟨tx, built, prepared, same⟩ := only c member asked
  exact ⟨tx, same, prepared.pays positive pays⟩

/-- The amount was moved to the address once: one transaction was built for it, handed to the signer
and submitted, and the network accepted it under this hash. A party that carries transfers out
itself was asked for it once, and reported the hash. -/
inductive Settled (address : Address) (amount : Amount) (level : FeeLevel) (oracle : Oracle)
    (s t : Session) (hash : String) : Engine → Prop where
  | payment (engine : Engine) (p : Payment) (carries : engine.payment? = some p) (receipt : Receipt)
      (x : p.Submission address.text amount oracle s t) (answered : x.answer = .ok receipt)
      (accepted : receipt.accepted = true) (named : receipt.transaction.hash = hash)
      (earlier : List Call) (c : Call) (quiet : ∀ c ∈ earlier, p.signer.Quiet c)
      (submits : p.chain.submission? x.signed = some c)
      (log : t.calls = s.calls ++ (earlier ++ [p.signer.request x.tx, c])) :
      Settled address amount level oracle s t hash engine
  | external (name : String) (default : FeeLevel)
      (answered : (oracle s.calls (.engineExecute name amount level) : Answer String) = .ok hash)
      (log : t.calls = s.calls ++ [.engineExecute name amount level]) :
      Settled address amount level oracle s t hash (.external name default)

theorem Settled.pays {engine : Engine} {p : Payment} {paid : ℚ}
    (settled : engine.Settled address amount level oracle s t hash)
    (carries : engine.payment? = some p) (positive : amount.isPositive = true)
    (pays : p.chain.payout? amount = some paid) :
    ∃ earlier tx submission,
      t.calls = s.calls ++ (earlier ++ [p.signer.request tx, submission]) ∧
        (∀ d ∈ earlier ++ [submission], ¬ p.signer.Asked d) ∧
        tx.payout? = some (address.text, paid) := by
  cases settled with
  | external name default => cases carries
  | payment _ _ carried receipt x answered accepted named earlier submission quiet submits log =>
    cases carries.symm.trans carried
    refine ⟨earlier, x.tx, submission, log, ?_, x.prepared.pays positive pays⟩
    intro d member
    rcases List.mem_append.1 member with member | member
    · exact (quiet d member).unasked
    · rw [List.mem_singleton.1 member]
      exact (ChainClient.submission_quiet submits _).unasked

theorem settled_of_outcome {engine : Engine} {p : Payment} (carries : engine.payment? = some p)
    (outcome : p.Outcome address.text amount oracle s (.ok hash) t) :
    engine.Settled address amount level oracle s t hash := by
  cases outcome with
  | settled receipt x answered accepted =>
    obtain ⟨earlier, built, quiet, handed, submitted⟩ := x.log
    obtain ⟨last, submitting, -⟩ := x.submitting
    obtain ⟨_, -, -, unsent⟩ := (p.chain.submit_traces x.signed).of_run submitting
    cases submits : p.chain.submission? x.signed with
    | none =>
      obtain ⟨halt, failed⟩ := unsent submits
      rw [answered] at failed
      cases failed
    | some c =>
      refine .payment engine p carries receipt x answered accepted rfl earlier c quiet submits ?_
      simp [submitted, submits, handed, built]

theorem Directed.settled {engine : Engine} (directed : engine.Directed address)
    (executed : (engine.execute amount level).run oracle s = (.ok hash, t)) :
    engine.Settled address amount level oracle s t hash := by
  cases directed with
  | onChain x target => exact settled_of_outcome rfl (x.execute_outcome target executed)
  | stellar x target => exact settled_of_outcome rfl (x.execute_outcome target executed)
  | external name default =>
    obtain ⟨_, log, rfl⟩ := (external_traces name default level amount).of_run executed
    exact .external name default (run_external_eq_ok executed) log

theorem Directed.uninstructed {engine : Engine} (directed : engine.Directed address)
    (executed : (engine.execute amount level).run oracle s = (result, t)) :
    ∃ calls, t.calls = s.calls ++ calls ∧ ∀ c ∈ calls, c.instructs = false := by
  cases directed with
  | onChain x target => exact (x.execute_outcome target executed).uninstructed
  | stellar x target => exact (x.execute_outcome target executed).uninstructed
  | external name default =>
    obtain ⟨_, log, rfl⟩ := (external_traces name default level amount).of_run executed
    exact ⟨_, log, by simp [Call.instructs]⟩

end Engine

def Asset.chain? (a : Asset) : Option ChainClient :=
  match a.kind with
  | .onChain chain _ | .stellar chain _ => some chain
  | .stacks | .external => none

theorem Asset.engine_payment? {a : Asset} {chain : ChainClient} {source : CryptoAccount}
    {target : Target} {engine : Engine} {oracle : Oracle} {s t : Session}
    (known : a.chain? = some chain) (chosen : (a.engine source target).run oracle s = (.ok engine, t)) :
    engine.payment? = some (a.payment chain) := by
  unfold chain? at known
  unfold Asset.engine at chosen
  split at known
  next kind =>
    cases known
    rw [kind] at chosen
    cases chosen
    rfl
  next kind =>
    cases known
    rw [kind] at chosen
    cases chosen
    rfl
  next => cases known
  next => cases known

namespace Processor

theorem requireCurrency_eq_ok {p : Processor} {amount : Amount} :
    p.requireCurrency amount = .ok () ↔ amount.currency = p.source.currency := by
  unfold requireCurrency
  split
  next same => simp [same, pure, Except.pure]
  next other => simp [other, MultiWallet.fail]

theorem requirePositive_eq_ok {amount : Amount} :
    requirePositive amount = .ok () ↔ amount.isPositive = true := by
  unfold requirePositive
  split
  next positive => simp [positive, pure, Except.pure]
  next refused => simp [refused, MultiWallet.fail]

theorem run_execute_accepted {p : Processor} {amount : Amount} {level : FeeLevel} {oracle : Oracle}
    {s t : Session} {result : Checked String} (checks : p.engine.validate.Asks Call.Reads)
    (executed : (p.execute amount level).run oracle s = (result, t)) :
    ∃ calls u, u.calls = s.calls ++ calls ∧ (∀ c ∈ calls, c.Reads) ∧
      ((t = u ∧ ∃ halt, result = .error halt) ∨
        amount.currency = p.source.currency ∧ amount.isPositive = true ∧
          (p.engine.execute amount level).run oracle u = (result, t)) := by
  obtain ⟨halt, -, rfl, rfl⟩ | ⟨_, currency, executed⟩ := run_liftM_bind_cases executed
  · exact ⟨[], t, (List.append_nil _).symm, by simp, .inl ⟨rfl, halt, rfl⟩⟩
  obtain ⟨halt, -, rfl, rfl⟩ | ⟨_, positive, executed⟩ := run_liftM_bind_cases executed
  · exact ⟨[], t, (List.append_nil _).symm, by simp, .inl ⟨rfl, halt, rfl⟩⟩
  obtain ⟨halt, checked, rfl⟩ | ⟨_, u, checked, executed⟩ := run_bind_cases executed
  · obtain ⟨calls, log, reads⟩ := checks.of_run checked
    exact ⟨calls, t, log, reads, .inl ⟨rfl, halt, rfl⟩⟩
  · obtain ⟨calls, log, reads⟩ := checks.of_run checked
    exact ⟨calls, u, log, reads, .inr ⟨requireCurrency_eq_ok.1 currency,
      requirePositive_eq_ok.1 positive, executed⟩⟩

theorem run_create_eq_ok {asset : Asset} {custodian : Custodian} {source : CryptoAccount}
    {target : Target} {action : Action} {oracle : Oracle} {s t : Session} {p : Processor} :
    (create asset custodian source target action).run oracle s = (.ok p, t) ↔
      source.permits action = true ∧
        ∃ engine u, (chooseEngine asset custodian source target action).run oracle s =
            (.ok engine, u) ∧
          p = { id := u.nextId, source, target, action, engine } ∧
          t = { u with counted := u.counted ++ [.created action], nextId := u.nextId + 1 } := by
  unfold create
  split
  next permitted =>
    simp only [permitted, bind, run_bind_eq_ok, run_count, run_freshId, run_pure, Prod.mk.injEq,
      Except.ok.injEq]
    constructor
    · rintro ⟨engine, u, chosen, _, _, ⟨-, rfl⟩, _, _, ⟨rfl, rfl⟩, rfl, rfl⟩
      exact ⟨trivial, engine, u, chosen, rfl, rfl⟩
    · rintro ⟨-, engine, u, chosen, rfl, rfl⟩
      exact ⟨engine, u, chosen, (), _, ⟨trivial, rfl⟩, _, _, ⟨rfl, rfl⟩, rfl, rfl⟩
  next refused => simp [refused]

end Processor

end MultiWallet
