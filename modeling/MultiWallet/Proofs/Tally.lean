import MultiWallet.Proofs.Watched

set_option autoImplicit false

namespace MultiWallet

open Dialogue Watched

namespace Metric

theorem mem_insertByLabel {s t : Sample} {listed : List Sample} :
    s ∈ insertByLabel t listed ↔ s = t ∨ s ∈ listed := by
  induction listed with
  | nil => simp [insertByLabel]
  | cons first rest ih =>
    rw [insertByLabel]
    split
    next => exact List.mem_cons
    next => rw [List.mem_cons, ih, List.mem_cons, or_left_comm]

theorem mem_sortByLabel {s : Sample} {listed : List Sample} :
    s ∈ sortByLabel listed ↔ s ∈ listed := by
  induction listed with
  | nil => rfl
  | cons first rest ih =>
    change s ∈ insertByLabel first (sortByLabel rest) ↔ _
    rw [mem_insertByLabel, ih, List.mem_cons]

theorem eq_of_label {m n : Metric} (family : m.family = n.family)
    (label : m.labelValue = n.labelValue) : m = n := by
  cases m <;> cases n <;> first
    | exact congrArg _ (Currency.ticker_injective label)
    | exact congrArg _ (Action.name_injective label)
    | exact congrArg swallowed label
    | simp [Metric.family, initFailureFamily, swallowedFamily, fallbackFamily, createdFamily,
        submittedFamily, rejectedFamily] at family

theorem count_label (counted : List Metric) (m : Metric) :
    ((counted.filter (·.family == m.family)).map labelValue).count m.labelValue =
      counted.count m := by
  rw [List.count, List.countP_map, List.countP_filter, List.count]
  refine List.countP_congr fun n _ => ?_
  simp only [Function.comp_apply, Bool.and_eq_true, beq_iff_eq]
  exact ⟨fun same => eq_of_label same.2 same.1, fun same => same ▸ ⟨rfl, rfl⟩⟩

/-- The number that stands under the label of a metric, zero where there is none. -/
def published (counted : List Metric) (m : Metric) : Nat :=
  ((samples counted m.family).find? (·.label == m.labelValue)).elim 0 (·.value)

theorem published_eq (counted : List Metric) (m : Metric) :
    published counted m = counted.count m := by
  rw [published, ← count_label]
  generalize labels : (counted.filter (·.family == m.family)).map labelValue = listed
  have member (s : Sample) : s ∈ samples counted m.family ↔
      ∃ l ∈ listed, { label := l, value := listed.count l } = s := by
    rw [samples, mem_sortByLabel, labels, List.mem_map]
    simp only [List.mem_eraseDups]
  cases found : (samples counted m.family).find? (·.label == m.labelValue) with
  | some s =>
    obtain ⟨l, -, rfl⟩ := (member s).1 (List.mem_of_find?_eq_some found)
    have label : l = m.labelValue := by simpa using List.find?_some found
    rw [Option.elim_some, label]
  | none =>
    rw [Option.elim_none, eq_comm, List.count_eq_zero]
    intro counts
    have missing := List.find?_eq_none.1 found _ ((member _).2 ⟨_, counts, rfl⟩)
    exact missing (beq_self_eq_true _)

end Metric

inductive Query where
  | page (r : Registry) (method target : String)
  | address (account : Account)
  | balance (account : CryptoAccount)
  | savings (account : InterestAccount)
  | money (account : FiatAccount)
  | activity (account : CryptoAccount)
  | totals (group : AccountGroup)
  | reference (account : CryptoAccount)
  | engineFor (a : Asset) (source : CryptoAccount) (target : Target)
  | engineValidate (engine : Engine)
  | engineFee (engine : Engine) (amount : Amount) (level : FeeLevel)
  | validate (p : Processor)
  | fee (p : Processor) (amount : Amount) (level : FeeLevel)
  | paymentFee (p : Payment) (x : Payment.Terms)
  | paymentMaximum (p : Payment) (sender : Sender) (schedule : FeeSchedule) (type : FeeType)
  | meteredFee (m : MeteredPayment) (amount : Amount) (sender : Sender) (destination : String)

namespace Query

def dialogue : Query → Dialogue Unit
  | page r method target => Functor.discard (Status.respond r method target)
  | address account => Functor.discard account.receiveAddress
  | balance account => Functor.discard account.balance
  | savings account => Functor.discard account.balance
  | money account => Functor.discard account.balance
  | activity account => Functor.discard account.activity
  | totals group => Functor.discard group.cryptoBalances
  | reference account => Functor.discard account.sender
  | engineFor a source target => Functor.discard (a.engine source target)
  | engineValidate engine => engine.validate
  | engineFee engine amount level => Functor.discard (engine.fee amount level)
  | validate p => p.validate
  | fee p amount level => Functor.discard (p.fee amount level)
  | paymentFee p x =>
    Functor.discard (p.fee x.amount x.sender x.destination x.schedule x.type)
  | paymentMaximum p sender schedule type => Functor.discard (p.maximum sender schedule type)
  | meteredFee m amount sender destination => Functor.discard (m.fee amount sender destination)

theorem uncounted_discard {α : Type} {d : Dialogue α} (uncounted : d.Uncounted) :
    (Functor.discard d).Uncounted := uncounted.bind fun _ => uncounted_pure _

theorem uncounted (q : Query) : q.dialogue.Uncounted := by
  cases q with
  | page r method target => exact uncounted_discard (Status.uncounted_respond r method target)
  | address account => exact uncounted_discard account.uncounted_receiveAddress
  | balance account =>
    exact uncounted_discard (Account.uncounted_balance (.crypto account) rfl)
  | savings account =>
    exact uncounted_discard (Account.uncounted_balance (.interest account) rfl)
  | money account => exact uncounted_discard (account.custodian.fiatBalance_single _).uncounted.map
  | activity account => exact uncounted_discard account.backend.uncounted_activity
  | totals group => exact uncounted_discard (AccountGroup.uncounted_addBalances _ _)
  | reference account => exact uncounted_discard account.uncounted_sender
  | engineFor a source target => exact uncounted_discard (a.uncounted_engine source target)
  | engineValidate engine => exact engine.uncounted_validate
  | engineFee engine amount level => exact uncounted_discard (engine.uncounted_fee amount level)
  | validate p => exact p.engine.uncounted_validate
  | fee p amount level =>
    exact uncounted_discard ((uncounted_ofChecked _).bind fun _ =>
      p.engine.uncounted_validate.bind fun _ => p.engine.uncounted_fee amount level)
  | paymentFee p x => exact uncounted_discard (p.uncounted_fee _ _ _ _ _)
  | paymentMaximum p sender schedule type =>
    exact uncounted_discard (p.uncounted_maximum sender schedule type)
  | meteredFee m amount sender destination =>
    exact uncounted_discard (m.uncounted_fee amount sender destination)

end Query

inductive Request where
  | query (q : Query)
  | operation (r : Registry) (o : Operation)
  | transfer (r : Registry) (source : Account) (target : Target) (action : Action)
  | create (asset : Asset) (custodian : Custodian) (source : CryptoAccount) (target : Target)
      (action : Action)
  | maximum (p : Processor) (level : FeeLevel)
  | execute (p : Processor) (amount : Amount) (level : FeeLevel)
  | engineMaximum (engine : Engine) (level : FeeLevel)
  | engineExecute (engine : Engine) (amount : Amount) (level : FeeLevel)
  | meteredMaximum (m : MeteredPayment) (sender : Sender)
  | meteredPayment (m : MeteredPayment) (amount : Amount) (sender : Sender) (destination : String)
      (memo : Option String)
  | payment (p : Payment) (x : Payment.Terms)

namespace Request

def dialogue : Request → Dialogue Unit
  | query q => q.dialogue
  | operation r o => Functor.discard (r.perform o)
  | transfer r source target action => Functor.discard (r.startTransfer source target action)
  | create asset custodian source target action =>
    Functor.discard (Processor.create asset custodian source target action)
  | maximum p level => Functor.discard (p.maximum level)
  | execute p amount level => Functor.discard (p.execute amount level)
  | engineMaximum engine level => Functor.discard (engine.maximum level)
  | engineExecute engine amount level => Functor.discard (engine.execute amount level)
  | meteredMaximum m sender => Functor.discard (m.maximum sender)
  | meteredPayment m amount sender destination memo =>
    Functor.discard (m.execute amount sender destination memo)
  | payment p x =>
    Functor.discard (p.execute x.amount x.sender x.destination x.memo x.schedule x.type)

def watched : Request → Watched Unit
  | query q => .ofDialogue q.dialogue
  | operation r o => Functor.discard (r.watchedPerform o)
  | transfer r source target action => Functor.discard (r.watchedTransfer source target action)
  | create asset custodian source target action =>
    Functor.discard (Processor.watchedCreate asset custodian source target action)
  | maximum p level => Functor.discard (p.watchedMaximum level)
  | execute p amount level => Functor.discard (p.watchedExecute amount level)
  | engineMaximum engine level => Functor.discard (engine.watchedMaximum level)
  | engineExecute engine amount level => Functor.discard (engine.watchedExecute amount level)
  | meteredMaximum m sender => Functor.discard (m.watchedMaximum sender)
  | meteredPayment m amount sender destination memo =>
    Functor.discard (m.watchedExecute amount sender destination memo)
  | payment p x => Functor.discard (p.watched x)

theorem dialogue_watched (q : Request) : q.watched.dialogue = q.dialogue := by
  cases q with
  | operation r o => exact congrArg Functor.discard (r.dialogue_watchedPerform o)
  | transfer r source target action =>
    exact congrArg Functor.discard (r.dialogue_watchedTransfer source target action)
  | maximum p level => exact congrArg Functor.discard (p.dialogue_watchedMaximum level)
  | execute p amount level =>
    exact congrArg Functor.discard (p.dialogue_watchedExecute amount level)
  | engineMaximum engine level =>
    exact congrArg Functor.discard (engine.dialogue_watchedMaximum level)
  | engineExecute engine amount level =>
    exact congrArg Functor.discard (engine.dialogue_watchedExecute amount level)
  | query q => rfl
  | create asset custodian source target action => rfl
  | meteredMaximum m sender => rfl
  | meteredPayment m amount sender destination memo => rfl
  | payment p x => rfl

theorem faithful_discard {α : Type} {w : Watched α} (faithful : w.Faithful) :
    (Functor.discard w).Faithful := faithful.bind fun _ => faithful_ofDialogue (uncounted_pure _)

theorem faithful_watched (q : Request) : q.watched.Faithful := by
  cases q with
  | query q => exact faithful_ofDialogue q.uncounted
  | operation r o => exact faithful_discard (r.faithful_watchedPerform o)
  | transfer r source target action =>
    exact faithful_discard (r.faithful_watchedTransfer source target action)
  | create asset custodian source target action =>
    exact faithful_discard
      (Processor.faithful_watchedCreate asset custodian source target action)
  | maximum p level => exact faithful_discard (p.faithful_watchedMaximum level)
  | execute p amount level => exact faithful_discard (p.faithful_watchedExecute amount level)
  | engineMaximum engine level =>
    exact faithful_discard (engine.faithful_watchedMaximum level)
  | engineExecute engine amount level =>
    exact faithful_discard (engine.faithful_watchedExecute amount level)
  | meteredMaximum m sender => exact faithful_discard (m.faithful_watchedMaximum sender)
  | meteredPayment m amount sender destination memo =>
    exact faithful_discard (m.faithful_watchedExecute amount sender destination memo)
  | payment p x => exact faithful_discard (p.faithful_watched x)

def conduct (oracle : Oracle) : List Request → Session → Session
  | [], s => s
  | q :: rest, s => conduct oracle rest (q.dialogue.run oracle s).2

def incidents (oracle : Oracle) : List Request → Session → List Incident
  | [], _ => []
  | q :: rest, s => q.watched.record oracle s ++ incidents oracle rest (q.dialogue.run oracle s).2

theorem counted_conduct {m : Metric} (outcome : m.IsOutcome) (oracle : Oracle)
    (requests : List Request) (s : Session) :
    (conduct oracle requests s).counted.count m =
      s.counted.count m + (incidents oracle requests s).countP (Incident.counts m) := by
  induction requests generalizing s with
  | nil => rfl
  | cons q rest ih =>
    have step := q.faithful_watched.counted oracle s m outcome
    rw [dialogue_watched] at step
    rw [conduct, ih, step, incidents, List.countP_append, Nat.add_assoc]

theorem settled_incidents (oracle : Oracle) (requests : List Request) (s : Session) :
    ∀ i ∈ incidents oracle requests s, i.Settled := by
  induction requests generalizing s with
  | nil => exact fun i member => absurd member List.not_mem_nil
  | cons q rest ih =>
    intro i member
    rcases List.mem_append.1 member with member | member
    · exact q.faithful_watched.settled oracle s i member
    · exact ih _ i member

end Request

namespace Incident

theorem returnsRejected_eq {i : Incident} (settled : i.Settled) (currency : Currency) :
    i.returnsRejected currency = (i.isRefused currency || i.isPassedOn currency) := by
  cases i with
  | payment c submission returned =>
    cases settled
    rcases submission with halt | receipt
    next =>
      rcases halt with cause | _
      next => cases cause <;> simp [Payment.settled]
      next => simp [Payment.settled]
    next => cases accepted : receipt.accepted <;> simp [Payment.settled, accepted, MultiWallet.fail]
  | advice c tried returned => rfl
  | creation action returned => rfl
  | preparation c returned => rfl

theorem not_isPassedOn (i : Incident) (currency : Currency) (refused : i.isRefused currency) :
    ¬ i.isPassedOn currency := by
  cases i with
  | payment c submission returned => cases submission <;> simp at refused ⊢
  | advice c tried returned => cases refused
  | creation action returned => cases refused
  | preparation c returned => cases refused

theorem countP_returnsRejected {happened : List Incident} (settled : ∀ i ∈ happened, i.Settled)
    (currency : Currency) : happened.countP (returnsRejected currency) =
      happened.countP (isRefused currency) + happened.countP (isPassedOn currency) := by
  induction happened with
  | nil => rfl
  | cons i rest ih =>
    have others := ih fun j member => settled j (List.mem_cons_of_mem i member)
    rw [List.countP_cons, List.countP_cons, List.countP_cons, others,
      returnsRejected_eq (settled i List.mem_cons_self)]
    by_cases refused : i.isRefused currency = true
    next =>
      rw [refused, Bool.true_or, if_pos rfl, if_neg (i.not_isPassedOn currency refused)]
      omega
    next =>
      rw [Bool.eq_false_iff.2 refused, Bool.false_or, if_neg Bool.false_ne_true]
      omega

end Incident

def Session.counter (s : Session) (m : Metric) : Nat := Metric.published s.counted m

/-- Each counter stands at the number of incidents that it is named for. A payment is counted as
rejected where the network has not accepted it, and it then says that it was rejected; otherwise
only a payment says so that had failed with this before the network could answer. -/
structure Tallies (s : Session) (happened : List Incident) : Prop where
  submitted : ∀ c, s.counter (.submitted c) = happened.countP (Incident.isAccepted c)
  rejected : ∀ c, s.counter (.rejected c) = happened.countP (Incident.isRefused c)
  returned : ∀ c, ∀ i ∈ happened, i.isRefused c → i.returnsRejected c
  passedOn : ∀ c, happened.countP (Incident.returnsRejected c) =
    s.counter (.rejected c) + happened.countP (Incident.isPassedOn c)
  created : ∀ a, s.counter (.created a) = happened.countP (Incident.isCreated a)
  fallbacks : ∀ c, s.counter (.fallback c) = happened.countP (Incident.isFallback c)
  failures : ∀ c, s.counter (.initFailure c) = happened.countP (Incident.isUnprepared c)

/-- Whatever is asked and whatever everybody answers, from empty counters on, the counters tally
with what has happened. -/
theorem counters_tally (oracle : Oracle) (requests : List Request) (s : Session) :
    Tallies (Request.conduct oracle requests { s with counted := [] })
      (Request.incidents oracle requests { s with counted := [] }) := by
  have counter (m : Metric) (outcome : m.IsOutcome) :
      (Request.conduct oracle requests { s with counted := [] }).counter m =
        (Request.incidents oracle requests { s with counted := [] }).countP
          (Incident.counts m) := by
    rw [Session.counter, Metric.published_eq, Request.counted_conduct outcome, List.count_nil,
      Nat.zero_add]
  have settled := Request.settled_incidents oracle requests { s with counted := [] }
  exact
    { submitted := fun c => counter (.submitted c) trivial
      rejected := fun c => counter (.rejected c) trivial
      returned := fun c i member refused => by
        rw [Incident.returnsRejected_eq (settled i member), refused, Bool.true_or]
      passedOn := fun c => by
        rw [Incident.countP_returnsRejected settled, counter (.rejected c) trivial]
        rfl
      created := fun a => counter (.created a) trivial
      fallbacks := fun c => counter (.fallback c) trivial
      failures := fun c => counter (.initFailure c) trivial }

namespace Payment

def someBitcoin : Terms :=
  { amount := { currency := .btc, value := .ofUInt64 1 }
    sender := { currency := .btc, label := "mine", address := "bc1qmine" }
    destination := "bc1qyours"
    memo := none
    schedule := { currency := .btc, regular := .ofUInt64 5, priority := .ofUInt64 9
                  limits := none, gasLimit := none }
    type := .regular }

-- The node calls the payment rejected before there is anything to submit.
def unbuilt : Oracle
  | _, .chainBuild _ _ => .error (.rejected .btc "x")
  | _, c => c.refused

def bitcoinRequest : Request :=
  .payment { chain := .external "node" .btc, signer := .external } someBitcoin

theorem rejection_uncounted :
    (Request.incidents unbuilt [bitcoinRequest] .empty).countP (Incident.returnsRejected .btc) = 1 ∧
      (Request.conduct unbuilt [bitcoinRequest] .empty).counter (.rejected .btc) = 0 :=
  ⟨rfl, rfl⟩

end Payment

end MultiWallet
