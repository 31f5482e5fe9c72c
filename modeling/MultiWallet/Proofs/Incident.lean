import MultiWallet.Proofs.Handover
import MultiWallet.Proofs.Selection
import MultiWallet.Proofs.Uncounted

/-!
What happens in the course of an operation, beside its result. A watched dialogue is a dialogue that
keeps a record of the payments, the advice, the processors and the preparations that it came to, and
of what came of them. Main statement: what is counted while it runs is what its record says.
-/

set_option autoImplicit false

namespace MultiWallet

open Dialogue

/-- A payment was to be carried out, advice was asked for, a processor was to be created, or an
asset was to be prepared. Of a payment it is recorded how its submission ended, and what was
returned; of advice, what the attempt to find it came to, and what was returned. -/
inductive Incident where
  | payment (currency : Currency) (submission : Checked Receipt) (returned : Checked String)
  | advice (currency : Currency) (tried returned : Checked Amount)
  | creation (action : Action) (returned : Checked Processor)
  | preparation (currency : Currency) (returned : Checked Unit)

namespace Incident

@[simp] def isAccepted (currency : Currency) : Incident → Bool
  | payment c _ (.ok _) => c = currency
  | _ => false

@[simp] def isRefused (currency : Currency) : Incident → Bool
  | payment c (.ok receipt) _ => c = currency && !receipt.accepted
  | _ => false

@[simp] def returnsRejected (currency : Currency) : Incident → Bool
  | payment c _ (.error (.failure (.rejected _ _))) => c = currency
  | _ => false

/-- A payment of this currency was called rejected by whoever had to build, sign or submit it, and
there is no answer of the network to it. -/
@[simp] def isPassedOn (currency : Currency) : Incident → Bool
  | payment c (.error (.failure (.rejected _ _))) _ => c = currency
  | _ => false

@[simp] def isFallback (currency : Currency) : Incident → Bool
  | advice c (.error (.failure _)) (.ok amount) => c = currency && amount = .zero c
  | _ => false

@[simp] def isCreated (action : Action) : Incident → Bool
  | creation a (.ok _) => a = action
  | _ => false

@[simp] def isUnprepared (currency : Currency) : Incident → Bool
  | preparation c (.error (.failure _)) => c = currency
  | _ => false

@[simp] def counts : Metric → Incident → Bool
  | .submitted currency => isAccepted currency
  | .rejected currency => isRefused currency
  | .fallback currency => isFallback currency
  | .created action => isCreated action
  | .initFailure currency => isUnprepared currency
  | .swallowed _ => fun _ => false

end Incident

@[simp] def MeteredPayment.advised (currency : Currency) : Checked Amount → Checked Amount
  | .error (.failure _) => .ok (.zero currency)
  | .error .overflow => .error .overflow
  | .ok amount => .ok amount

@[simp] def Incident.Settled : Incident → Prop
  | payment currency submission returned => returned = Payment.settled currency submission
  | advice currency tried returned => returned = MeteredPayment.advised currency tried
  | creation _ _ | preparation _ _ => True

@[simp] def Metric.IsOutcome : Metric → Prop
  | swallowed _ => False
  | submitted _ | rejected _ | fallback _ | created _ | initFailure _ => True

def Incident.metric? : Incident → Option Metric
  | payment currency (.ok _) (.ok _) => some (.submitted currency)
  | payment currency (.ok _) (.error _) => some (.rejected currency)
  | advice currency (.error (.failure _)) _ => some (.fallback currency)
  | creation action (.ok _) => some (.created action)
  | preparation currency (.error (.failure _)) => some (.initFailure currency)
  | _ => none

theorem Incident.count_metric? {i : Incident} {m : Metric} (settled : i.Settled)
    (outcome : m.IsOutcome) : i.metric?.toList.count m = if counts m i then 1 else 0 := by
  cases i with
  | payment currency submission returned =>
    cases settled
    rcases submission with halt | receipt
    next => cases m <;> simp [Payment.settled, metric?]
    next =>
      cases accepted : receipt.accepted <;> cases m <;>
        simp [Payment.settled, metric?, accepted, MultiWallet.fail, List.count_singleton]
  | advice currency tried returned =>
    cases settled
    rcases tried with (cause | _) | amount <;> cases m <;> simp [metric?, List.count_singleton]
  | creation action returned =>
    rcases returned with halt | p <;> cases m <;> simp [metric?, List.count_singleton]
  | preparation currency returned =>
    rcases returned with (cause | _) | _ <;> cases m <;> simp [metric?, List.count_singleton]

/-- A dialogue, and the record that is kept of each of its runs. -/
structure Watched (α : Type) where
  dialogue : Dialogue α
  record : Oracle → Session → List Incident

namespace Watched

variable {α β : Type}

def ofDialogue (d : Dialogue α) : Watched α := { dialogue := d, record := fun _ _ => [] }

def recorded (d : Dialogue α) (incident : Oracle → Session → Incident) : Watched α :=
  { dialogue := d, record := fun oracle s => [incident oracle s] }

def after (d : Dialogue α) (f : α → Watched β) (oracle : Oracle) (s : Session) : List Incident :=
  match d.run oracle s with
  | (.ok a, t) => (f a).record oracle t
  | (.error _, _) => []

protected def bind (w : Watched α) (f : α → Watched β) : Watched β :=
  { dialogue := w.dialogue >>= fun a => (f a).dialogue
    record := fun oracle s => w.record oracle s ++ after w.dialogue f oracle s }

instance : Monad Watched where
  pure a := ofDialogue (pure a)
  bind := Watched.bind

instance : MonadLift Dialogue Watched where
  monadLift := ofDialogue

/-- What is counted in a run is what its record says, and each payment and advice in the record has
ended as it had to. -/
structure Faithful (w : Watched α) : Prop where
  counted : ∀ oracle s (m : Metric), m.IsOutcome →
    (w.dialogue.run oracle s).2.counted.count m =
      s.counted.count m + (w.record oracle s).countP (Incident.counts m)
  settled : ∀ oracle s, ∀ i ∈ w.record oracle s, i.Settled

theorem faithful_ofDialogue {d : Dialogue α} (uncounted : d.Uncounted) :
    (ofDialogue d).Faithful where
  counted oracle s m _ := congrArg (List.count m) (uncounted oracle s)
  settled _ _ _ member := absurd member List.not_mem_nil

theorem Faithful.bind {w : Watched α} {f : α → Watched β} (first : w.Faithful)
    (rest : ∀ a, (f a).Faithful) : (w >>= f).Faithful where
  counted oracle s m outcome := by
    have before := first.counted oracle s m outcome
    change ((w.dialogue >>= fun a => (f a).dialogue).run oracle s).2.counted.count m =
      s.counted.count m +
        (w.record oracle s ++ after w.dialogue f oracle s).countP (Incident.counts m)
    rw [List.countP_append]
    rcases run : w.dialogue.run oracle s with ⟨halt | a, t⟩ <;> rw [run] at before
    · rw [run_bind_error run, after, run]
      exact before
    · rw [run_bind_ok run, after, run, (rest a).counted oracle t m outcome, before, Nat.add_assoc]
  settled oracle s i member := by
    rcases List.mem_append.1 member with member | member
    · exact first.settled oracle s i member
    · unfold after at member
      split at member
      · exact (rest _).settled oracle _ i member
      · cases member

theorem faithful_ofChecked (result : Checked α) :
    (ofDialogue (ofChecked result)).Faithful := faithful_ofDialogue (uncounted_ofChecked result)

theorem faithful_recorded {d : Dialogue α} {incident : Oracle → Session → Incident}
    (settled : ∀ oracle s, (incident oracle s).Settled)
    (counted : ∀ oracle s, ∃ tags : List String, (d.run oracle s).2.counted =
      s.counted ++ (tags.map .swallowed ++ (incident oracle s).metric?.toList)) :
    (recorded d incident).Faithful where
  counted oracle s m outcome := by
    obtain ⟨tags, log⟩ := counted oracle s
    have unreported : (tags.map Metric.swallowed).count m = 0 := by
      rw [List.count_eq_zero, List.mem_map]
      rintro ⟨tag, -, rfl⟩
      exact outcome
    change (d.run oracle s).2.counted.count m =
      s.counted.count m + [incident oracle s].countP (Incident.counts m)
    rw [log, List.count_append, List.count_append, unreported, Nat.zero_add,
      Incident.count_metric? (settled oracle s) outcome, List.countP_singleton]
  settled oracle s i member := by
    cases List.mem_singleton.1 member
    exact settled oracle s

end Watched

namespace Payment

variable (p : Payment) (x : Terms)

def carryOut : Dialogue String :=
  p.execute x.amount x.sender x.destination x.memo x.schedule x.type

def submission : Dialogue Receipt := do
  let tx ← p.prepare x
  let signed ← p.signer.sign tx
  p.chain.submit signed

theorem carryOut_eq : p.carryOut x = p.submission x >>= settle x.amount := by
  simp only [carryOut, execute, submission, prepare, bind_assoc]

theorem uncounted_submission : (p.submission x).Uncounted :=
  (p.uncounted_build _ _ _ _ _ _).bind fun tx => (p.signer.sign_plain tx).uncounted.bind
    fun signed => (p.chain.submit_plain signed).uncounted

theorem carryOut_settled (oracle : Oracle) (s : Session) :
    ((p.carryOut x).run oracle s).1 =
      settled x.amount.currency ((p.submission x).run oracle s).1 := by
  rw [carryOut_eq]
  rcases run : (p.submission x).run oracle s with ⟨halt | receipt, t⟩
  · rw [run_bind_error run, settled]
  · rw [run_bind_ok run, settle, settled]
    by_cases accepted : receipt.accepted = true
    next => simp [accepted]; rfl
    next => simp [accepted]; rfl

def watched : Watched String :=
  .recorded (p.carryOut x) fun oracle s =>
    .payment x.amount.currency ((p.submission x).run oracle s).1 ((p.carryOut x).run oracle s).1

theorem faithful_watched : (p.watched x).Faithful := by
  apply Watched.faithful_recorded
  next => exact fun oracle s => p.carryOut_settled x oracle s
  next =>
    intro oracle s
    refine ⟨[], ?_⟩
    have before := p.uncounted_submission x oracle s
    rw [carryOut_settled, carryOut_eq]
    rcases run : (p.submission x).run oracle s with ⟨halt | receipt, t⟩ <;> rw [run] at before
    next => simpa [run_bind_error run, Incident.metric?] using before
    next =>
      rw [run_bind_ok run, settle, settled, ← before]
      by_cases accepted : receipt.accepted = true
      next =>
        rw [if_pos accepted, if_pos accepted]
        rfl
      next =>
        rw [if_neg accepted, if_neg accepted]
        rfl

end Payment

theorem Session.counted_reported (s : Session) (reporter : Reporter) (tag : String)
    (cause : Failure) : ∃ tags : List String,
      (s.reported reporter tag cause).counted = s.counted ++ tags.map .swallowed := by
  cases reporter with
  | external => exact ⟨[], (List.append_nil _).symm⟩
  | counting => exact ⟨[tag], rfl⟩

namespace MeteredPayment

variable (m : MeteredPayment) (sender : Sender)

theorem maximum_advised (oracle : Oracle) (s : Session) :
    ((m.maximum sender).run oracle s).1 =
      advised sender.currency ((m.tryMaximum sender).run oracle s).1 := by
  rcases run : (m.tryMaximum sender).run oracle s with ⟨(cause | _) | amount, t⟩
  · rw [run_maximum_failure run, advised]
  · rw [run_maximum_overflow run, advised]
  · rw [run_maximum_ok run, advised]

def watchedMaximum : Watched Amount :=
  .recorded (m.maximum sender) fun oracle s =>
    .advice sender.currency ((m.tryMaximum sender).run oracle s).1
      ((m.maximum sender).run oracle s).1

theorem faithful_watchedMaximum : (m.watchedMaximum sender).Faithful := by
  apply Watched.faithful_recorded
  next => exact fun oracle s => m.maximum_advised sender oracle s
  next =>
    intro oracle s
    have before := (m.tryMaximum_plain sender).uncounted oracle s
    rcases run : (m.tryMaximum sender).run oracle s with ⟨(cause | _) | amount, t⟩ <;>
      rw [run] at before
    next =>
      obtain ⟨tags, reported⟩ := t.counted_reported m.reporter sender.currency.ticker cause
      refine ⟨tags, ?_⟩
      rw [run_maximum_failure run, Session.counting, reported, before, List.append_assoc]
      rfl
    next => exact ⟨[], by simpa [run_maximum_overflow run, Incident.metric?] using before⟩
    next => exact ⟨[], by simpa [run_maximum_ok run, Incident.metric?] using before⟩

end MeteredPayment

namespace Processor

variable (asset : Asset) (custodian : Custodian) (source : CryptoAccount) (target : Target)
  (action : Action)

def watchedCreate : Watched Processor :=
  .recorded (create asset custodian source target action) fun oracle s =>
    .creation action ((create asset custodian source target action).run oracle s).1

theorem faithful_watchedCreate :
    (watchedCreate asset custodian source target action).Faithful := by
  apply Watched.faithful_recorded
  next => exact fun oracle s => trivial
  next =>
    intro oracle s
    refine ⟨[], ?_⟩
    obtain ⟨result, t, run, creation⟩ := run_create asset custodian source target action oracle s
    rw [run]
    cases creation with
    | refused forbidden => exact (List.append_nil _).symm
    | failed calls cause permitted selected => exact (List.append_nil _).symm
    | created calls engine permitted selected => rfl

end Processor

namespace Registry

variable (reporter : Reporter) (a : Asset)

def prepareOne : Dialogue Unit := prepareAll reporter [a]

theorem prepareAll_cons (rest : List Asset) :
    prepareAll reporter (a :: rest) =
      prepareOne reporter a >>= fun _ => prepareAll reporter rest := by
  simp only [prepareOne, prepareAll, bind_assoc]
  refine congrArg (a.prepare.attempt >>= ·) (funext fun answer => ?_)
  cases answer with
  | ok _ => rfl
  | error cause =>
    simp only [bind_assoc]
    rfl

def watchedOne : Watched Unit :=
  .recorded (prepareOne reporter a) fun oracle s =>
    .preparation a.currency (a.prepare.run oracle s).1

theorem faithful_watchedOne : (watchedOne reporter a).Faithful := by
  apply Watched.faithful_recorded
  next => exact fun oracle s => trivial
  next =>
    intro oracle s
    have before := a.prepare_makes.uncounted oracle s
    rcases run : a.prepare.run oracle s with ⟨(cause | _) | _, t⟩ <;> rw [run] at before
    next =>
      obtain ⟨tags, reported⟩ :=
        t.counted_reported reporter a.currency.ticker (.assetInit a.currency cause)
      refine ⟨tags, ?_⟩
      rw [prepareOne, run_prepareAll_failed run, Session.counting, reported, before,
        List.append_assoc]
      rfl
    next =>
      refine ⟨[], ?_⟩
      rw [prepareOne, prepareAll, run_bind_error (run_attempt_overflow run), before]
      simp [Incident.metric?]
    next =>
      refine ⟨[], ?_⟩
      rw [prepareOne, run_prepareAll_ready run]
      simpa [prepareAll, Incident.metric?] using before

end Registry

end MultiWallet
