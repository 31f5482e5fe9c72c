import MultiWallet.Proofs.Chain.Payout
import MultiWallet.Proofs.Chain.Submission

set_option autoImplicit false

namespace MultiWallet

open Dialogue

namespace Payment

variable {p : Payment} {destination hash : String} {amount : Amount} {oracle : Oracle}
  {s t u : Session} {result : Checked String}

/-- The transaction was built for this destination and amount, and nothing was done about it yet. -/
structure Prepared (p : Payment) (destination : String) (amount : Amount) (oracle : Oracle)
    (s t : Session) (tx : UnsignedTransaction) : Prop where
  built : ∃ u sender memo schedule type,
    (p.build amount sender destination memo schedule type).run oracle u = (.ok tx, t)
  quiet : ∃ calls, t.calls = s.calls ++ calls ∧ ∀ c ∈ calls, p.signer.Quiet c

theorem Prepared.preceded {tx : UnsignedTransaction} {calls : List Call}
    (log : u.calls = s.calls ++ calls) (quiet : ∀ c ∈ calls, p.signer.Quiet c)
    (prepared : p.Prepared destination amount oracle u t tx) :
    p.Prepared destination amount oracle s t tx := by
  obtain ⟨built, later, more, further⟩ := prepared
  refine ⟨built, calls ++ later, by rw [more, log, List.append_assoc], ?_⟩
  intro c member
  rcases List.mem_append.1 member with member | member
  · exact quiet c member
  · exact further c member

theorem Prepared.pays {tx : UnsignedTransaction} {paid : ℚ}
    (prepared : p.Prepared destination amount oracle s t tx) (positive : amount.isPositive = true)
    (pays : p.chain.payout? amount = some paid) : tx.payout? = some (destination, paid) := by
  obtain ⟨_, _, _, _, _, built⟩ := prepared.built
  exact build_pays built (Amount.signed_nonneg_of_isPositive positive) pays

theorem build_asks (p : Payment) (amount : Amount) (sender : Sender) (destination : String)
    (memo : Option String) (schedule : FeeSchedule) (type : FeeType) :
    (p.build amount sender destination memo schedule type).Asks p.signer.Quiet :=
  .bind (p.chain.build_quiet _ _) fun _ => asks_pure _

theorem sign_once (p : Payment) (amount : Amount) (tx : UnsignedTransaction) :
    (do
      let signed ← p.signer.sign tx
      let receipt ← p.chain.submit signed
      settle amount receipt).Traces fun _ calls => ∃ later, calls = p.signer.request tx :: later ∧
        ∀ c ∈ later, ¬ p.signer.Asked c := by
  have submitted (signed : SignedTransaction) :
      (p.chain.submit signed >>= settle amount).Asks fun c => ¬ p.signer.Asked c :=
    .bind ((p.chain.submit_quiet signed p.signer).mono fun _ quiet => quiet.unasked) fun receipt =>
      (settle_silent _ _).mono fun _ => False.elim
  refine Traces.bind (p.signer.sign_traces tx) submitted ?_ ?_
  · rintro halt _ rfl
    exact ⟨[], rfl, by simp⟩
  · rintro a result _ later rfl silent
    exact ⟨later, rfl, silent⟩

structure Submission (p : Payment) (destination : String) (amount : Amount) (oracle : Oracle)
    (s t : Session) where
  tx : UnsignedTransaction
  signed : SignedTransaction
  answer : Checked Receipt
  built : Session
  handed : Session
  prepared : p.Prepared destination amount oracle s built tx
  signing : (p.signer.sign tx).run oracle built = (.ok signed, handed)
  submitting : ∃ answered, (p.chain.submit signed).run oracle handed = (answer, answered) ∧
    t.calls = answered.calls

inductive Outcome (p : Payment) (destination : String) (amount : Amount) (oracle : Oracle)
    (s : Session) : Checked String → Session → Prop where
  | unprepared {t : Session} (halt : Halt) (calls : List Call) (log : t.calls = s.calls ++ calls)
      (quiet : ∀ c ∈ calls, p.signer.Quiet c) :
      Outcome p destination amount oracle s (.error halt) t
  | unsigned {t : Session} (halt : Halt) (tx : UnsignedTransaction) (built : Session)
      (prepared : p.Prepared destination amount oracle s built tx)
      (signing : (p.signer.sign tx).run oracle built = (.error halt, t)) :
      Outcome p destination amount oracle s (.error halt) t
  | refused {t : Session} (halt : Halt) (x : p.Submission destination amount oracle s t)
      (refused : ∀ receipt, x.answer = .ok receipt → receipt.accepted = false) :
      Outcome p destination amount oracle s (.error halt) t
  | settled {t : Session} (receipt : Receipt) (x : p.Submission destination amount oracle s t)
      (answered : x.answer = .ok receipt) (accepted : receipt.accepted = true) :
      Outcome p destination amount oracle s (.ok receipt.transaction.hash) t

namespace Outcome

theorem preceded {calls : List Call} (log : u.calls = s.calls ++ calls)
    (quiet : ∀ c ∈ calls, p.signer.Quiet c)
    (outcome : p.Outcome destination amount oracle u result t) :
    p.Outcome destination amount oracle s result t := by
  cases outcome with
  | unprepared halt later more further =>
    refine .unprepared halt (calls ++ later) (by rw [more, log, List.append_assoc]) ?_
    intro c member
    rcases List.mem_append.1 member with member | member
    · exact quiet c member
    · exact further c member
  | unsigned halt tx built prepared signing =>
    exact .unsigned halt tx built (prepared.preceded log quiet) signing
  | refused halt x refused =>
    exact .refused halt { x with prepared := x.prepared.preceded log quiet } refused
  | settled receipt x answered accepted =>
    exact .settled receipt { x with prepared := x.prepared.preceded log quiet } answered accepted

theorem bind {α : Type} {d : Dialogue α} {f : α → Dialogue String} (first : d.Asks p.signer.Quiet)
    (rest : ∀ a u, (f a).run oracle u = (result, t) →
      p.Outcome destination amount oracle u result t)
    (run : (d >>= f).run oracle s = (result, t)) :
    p.Outcome destination amount oracle s result t := by
  obtain ⟨halt, ran, rfl⟩ | ⟨a, u, ran, run⟩ := run_bind_cases run
  · obtain ⟨calls, log, quiet⟩ := first.of_run ran
    exact .unprepared halt calls log quiet
  · obtain ⟨calls, log, quiet⟩ := first.of_run ran
    exact (rest a u run).preceded log quiet

end Outcome

theorem run_settle (amount : Amount) (receipt : Receipt) (oracle : Oracle) (s : Session) :
    ∃ t, t.calls = s.calls ∧ (settle amount receipt).run oracle s =
      (if receipt.accepted then .ok receipt.transaction.hash
        else MultiWallet.fail (.rejected amount.currency (receipt.resultCode.getD "rejected")),
        t) := by
  unfold settle
  split
  · exact ⟨{ s with counted := s.counted ++ [.submitted amount.currency] }, rfl, rfl⟩
  · exact ⟨{ s with counted := s.counted ++ [.rejected amount.currency] }, rfl, rfl⟩

theorem execute_outcome {sender : Sender} {memo : Option String} {schedule : FeeSchedule}
    {type : FeeType}
    (executed : (p.execute amount sender destination memo schedule type).run oracle s =
      (result, t)) :
    p.Outcome destination amount oracle s result t := by
  have asks := p.build_asks amount sender destination memo schedule type
  obtain ⟨halt, building, rfl⟩ | ⟨tx, built, building, executed⟩ := run_bind_cases executed
  · obtain ⟨calls, log, quiet⟩ := asks.of_run building
    exact .unprepared halt calls log quiet
  have prepared : p.Prepared destination amount oracle s built tx :=
    ⟨⟨s, sender, memo, schedule, type, building⟩, asks.of_run building⟩
  obtain ⟨halt, signing, rfl⟩ | ⟨signed, handed, signing, executed⟩ := run_bind_cases executed
  · exact .unsigned halt tx built prepared signing
  obtain ⟨halt, submitting, rfl⟩ | ⟨receipt, answered, submitting, executed⟩ :=
    run_bind_cases executed
  · refine .refused halt ⟨tx, signed, .error halt, built, handed, prepared, signing, _, submitting,
      rfl⟩ ?_
    intro receipt ok
    cases ok
  · obtain ⟨last, same, settling⟩ := run_settle amount receipt oracle answered
    let x : p.Submission destination amount oracle s last :=
      ⟨tx, signed, .ok receipt, built, handed, prepared, signing, _, submitting, same⟩
    rw [settling] at executed
    split at executed
    next accepted =>
      cases executed
      exact .settled receipt x rfl accepted
    next rejected =>
      cases executed
      refine .refused _ x ?_
      rintro _ ⟨⟩
      simpa using rejected

theorem Submission.log (x : p.Submission destination amount oracle s t) :
    ∃ earlier, x.built.calls = s.calls ++ earlier ∧ (∀ c ∈ earlier, p.signer.Quiet c) ∧
      x.handed.calls = x.built.calls ++ [p.signer.request x.tx] ∧
      t.calls = x.handed.calls ++ (p.chain.submission? x.signed).toList := by
  obtain ⟨earlier, before, quiet⟩ := x.prepared.quiet
  obtain ⟨_, handed, rfl⟩ := (p.signer.sign_traces x.tx).of_run x.signing
  obtain ⟨answered, submitting, same⟩ := x.submitting
  obtain ⟨_, submitted, rfl, -⟩ := (p.chain.submit_traces x.signed).of_run submitting
  exact ⟨earlier, before, quiet, handed, same.trans submitted⟩

theorem Submission.uninstructed (x : p.Submission destination amount oracle s t) :
    ∃ calls, t.calls = s.calls ++ calls ∧ ∀ c ∈ calls, c.instructs = false := by
  obtain ⟨earlier, built, quiet, handed, submitted⟩ := x.log
  refine ⟨earlier ++ p.signer.request x.tx :: (p.chain.submission? x.signed).toList,
    by simp [submitted, handed, built], ?_⟩
  intro c member
  rcases List.mem_append.1 member with member | member
  · exact (quiet c member).uninstructed
  rcases List.mem_cons.1 member with rfl | member
  · exact p.signer.request_not_instructs x.tx
  · exact (ChainClient.submission_quiet (Option.mem_toList.1 member) p.signer).uninstructed

theorem Outcome.uninstructed (outcome : p.Outcome destination amount oracle s result t) :
    ∃ calls, t.calls = s.calls ++ calls ∧ ∀ c ∈ calls, c.instructs = false := by
  cases outcome with
  | unprepared halt calls log quiet =>
    exact ⟨calls, log, fun c member => (quiet c member).uninstructed⟩
  | unsigned halt tx built prepared signing =>
    obtain ⟨earlier, before, quiet⟩ := prepared.quiet
    obtain ⟨_, handed, rfl⟩ := (p.signer.sign_traces tx).of_run signing
    refine ⟨earlier ++ [p.signer.request tx], by simp [handed, before], ?_⟩
    intro c member
    rcases List.mem_append.1 member with member | member
    · exact (quiet c member).uninstructed
    · rw [List.mem_singleton.1 member]
      exact p.signer.request_not_instructs tx
  | refused halt x refused => exact x.uninstructed
  | settled receipt x answered accepted => exact x.uninstructed

theorem Prepared.only_request {built : Session} {tx : UnsignedTransaction} {c : Call}
    {earlier later : List Call} (quiet : ∀ c ∈ earlier, p.signer.Quiet c)
    (silent : ∀ c ∈ later, ¬ p.signer.Asked c)
    (prepared : p.Prepared destination amount oracle s built tx)
    (member : c ∈ earlier ++ p.signer.request tx :: later) (asked : p.signer.Asked c) :
    ∃ tx built, p.Prepared destination amount oracle s built tx ∧ c = p.signer.request tx := by
  rcases List.mem_append.1 member with member | member
  · exact absurd asked (quiet c member).unasked
  rcases List.mem_cons.1 member with rfl | member
  · exact ⟨tx, built, prepared, rfl⟩
  · exact absurd asked (silent c member)

theorem Submission.requests (x : p.Submission destination amount oracle s t) :
    ∃ calls, t.calls = s.calls ++ calls ∧ ∀ c ∈ calls, p.signer.Asked c →
      ∃ tx built, p.Prepared destination amount oracle s built tx ∧ c = p.signer.request tx := by
  obtain ⟨earlier, built, quiet, handed, submitted⟩ := x.log
  refine ⟨earlier ++ p.signer.request x.tx :: (p.chain.submission? x.signed).toList,
    by simp [submitted, handed, built], ?_⟩
  intro c member asked
  refine Prepared.only_request quiet ?_ x.prepared member asked
  intro c member
  exact (ChainClient.submission_quiet (Option.mem_toList.1 member) p.signer).unasked

theorem Outcome.requests (outcome : p.Outcome destination amount oracle s result t) :
    ∃ calls, t.calls = s.calls ++ calls ∧ ∀ c ∈ calls, p.signer.Asked c →
      ∃ tx built, p.Prepared destination amount oracle s built tx ∧ c = p.signer.request tx := by
  cases outcome with
  | unprepared halt calls log quiet =>
    refine ⟨calls, log, ?_⟩
    intro c member asked
    exact absurd asked (quiet c member).unasked
  | unsigned halt tx built prepared signing =>
    obtain ⟨earlier, before, quiet⟩ := prepared.quiet
    obtain ⟨_, handed, rfl⟩ := (p.signer.sign_traces tx).of_run signing
    refine ⟨earlier ++ [p.signer.request tx], by simp [handed, before], ?_⟩
    intro c member asked
    exact prepared.only_request quiet (by simp) member asked
  | refused halt x refused => exact x.requests
  | settled receipt x answered accepted => exact x.requests

/-- Between two points of a conversation, a transaction was signed and afterwards submitted, and the
network accepted it. -/
structure Acceptance (p : Payment) (oracle : Oracle) (before after : List Call) where
  tx : UnsignedTransaction
  signed : SignedTransaction
  receipt : Receipt
  asked : Session
  handed : Session
  sent : Session
  answered : Session
  begins : before <+: asked.calls
  signing : (p.signer.sign tx).run oracle asked = (.ok signed, handed)
  follows : handed.calls <+: sent.calls
  submitting : (p.chain.submit signed).run oracle sent = (.ok receipt, answered)
  ends : answered.calls <+: after
  accepted : receipt.accepted = true

def Accepted (p : Payment) (oracle : Oracle) (before after : List Call) (hash : String) : Prop :=
  ∃ x : p.Acceptance oracle before after, x.receipt.transaction.hash = hash

namespace Acceptance

variable {before after calls earlier rest : List Call}

theorem log (x : p.Acceptance oracle before after) (window : after = before ++ calls) :
    ∃ earlier between c rest, calls = earlier ++ p.signer.request x.tx :: (between ++ c :: rest) ∧
      x.asked.calls = before ++ earlier ∧ p.chain.submission? x.signed = some c ∧
      x.sent.calls = before ++ (earlier ++ p.signer.request x.tx :: between) := by
  obtain ⟨earlier, begins⟩ := x.begins
  obtain ⟨_, handed, rfl⟩ := (p.signer.sign_traces x.tx).of_run x.signing
  obtain ⟨between, follows⟩ := x.follows
  obtain ⟨_, answered, rfl, unsent⟩ := (p.chain.submit_traces x.signed).of_run x.submitting
  obtain ⟨rest, ends⟩ := x.ends
  cases submits : p.chain.submission? x.signed with
  | none =>
    obtain ⟨halt, failed⟩ := unsent submits
    cases failed
  | some c =>
    have sent : x.sent.calls = before ++ (earlier ++ p.signer.request x.tx :: between) := by
      simp [← follows, handed, ← begins]
    refine ⟨earlier, between, c, rest, ?_, begins.symm, rfl, sent⟩
    rw [answered, submits, sent] at ends
    simpa using (ends.trans window).symm

theorem asks (x : p.Acceptance oracle before after) (window : after = before ++ calls) :
    ∃ c ∈ calls, p.signer.Asked c := by
  obtain ⟨earlier, between, c, rest, split, -⟩ := x.log window
  exact ⟨p.signer.request x.tx, by simp [split], x.tx, rfl⟩

-- Nothing but the one request can be taken for it, so the acceptance speaks of that one.
theorem after_request (x : p.Acceptance oracle before after) (tx : UnsignedTransaction)
    (window : after = before ++ (earlier ++ p.signer.request tx :: rest))
    (unasked : ∀ c ∈ earlier, ¬ p.signer.Asked c) (silent : ∀ c ∈ rest, ¬ p.signer.Asked c) :
    p.signer.request tx = p.signer.request x.tx ∧ x.asked.calls = before ++ earlier ∧
      ∃ between c later, rest = between ++ c :: later ∧ p.chain.submission? x.signed = some c ∧
        x.sent.calls = before ++ (earlier ++ p.signer.request tx :: between) := by
  obtain ⟨_, between, c, later, same, asked, submits, sent⟩ := x.log window
  have apart (l : List Call) (none : ∀ c ∈ l, ¬ p.signer.Asked c) : p.signer.request x.tx ∉ l :=
    fun member => none _ member ⟨x.tx, rfl⟩
  obtain ⟨rfl, request, rfl⟩ :=
    (List.append_cons_inj_of_notMem (apart _ unasked) (apart _ silent)).1 same
  rw [← request] at sent
  exact ⟨request, asked, between, c, later, rfl, submits, sent⟩

end Acceptance

section After

variable {before after later : List Call}

theorem Submission.verdict (x : p.Submission destination amount oracle s t)
    (instructs : ∀ c ∈ later, c.instructs = true) (a : p.Acceptance oracle s.calls after)
    (window : after = t.calls ++ later) : x.answer.map Receipt.verdict = .ok a.receipt.verdict := by
  obtain ⟨earlier, built, quiet, handed, submitted⟩ := x.log
  have silent : ∀ c ∈ (p.chain.submission? x.signed).toList ++ later, ¬ p.signer.Asked c := by
    intro c member
    rcases List.mem_append.1 member with member | member
    · exact (ChainClient.submission_quiet (Option.mem_toList.1 member) p.signer).unasked
    · exact Signer.not_asked_of_instructs (instructs c member)
  obtain ⟨request, asked, between, c, rest, split, submits, sent⟩ :=
    a.after_request x.tx (by simp [window, submitted, handed, built])
      (fun c member => (quiet c member).unasked) silent
  have last : c ∉ later := fun member =>
    ((ChainClient.submission_quiet submits p.signer).not_instructs) (instructs c member)
  cases submission : p.chain.submission? x.signed with
  | none => exact absurd (by simp [submission] at split; simp [split]) last
  | some d =>
    rw [submission] at split
    obtain ⟨rfl, rfl, -⟩ := (List.append_cons_inj_of_notMem (List.not_mem_nil) last).1 split
    obtain ⟨hash, -⟩ := p.signer.sign_alike request oracle x.built a.asked (built.trans asked.symm)
    rw [x.signing, a.signing] at hash
    obtain ⟨answered, submitting, -⟩ := x.submitting
    obtain ⟨verdict, -⟩ := ChainClient.submit_alike submission submits (Except.ok.inj hash) oracle
      x.handed a.sent (by simp [sent, handed, built])
    rw [submitting, a.submitting] at verdict
    exact verdict

theorem Outcome.of_accepted (outcome : p.Outcome destination amount oracle s result t)
    (instructs : ∀ c ∈ later, c.instructs = true) (window : after = t.calls ++ later)
    (accepted : p.Accepted oracle s.calls after hash) : result = .ok hash := by
  obtain ⟨a, rfl⟩ := accepted
  cases outcome with
  | unprepared halt calls log quiet =>
    have split : after = s.calls ++ (calls ++ later) := by simp [window, log]
    obtain ⟨c, member, asked⟩ := a.asks split
    rcases List.mem_append.1 member with member | member
    · exact absurd asked (quiet c member).unasked
    · exact absurd asked (Signer.not_asked_of_instructs (instructs c member))
  | unsigned halt tx built prepared signing =>
    obtain ⟨earlier, before, quiet⟩ := prepared.quiet
    obtain ⟨_, handed, rfl⟩ := (p.signer.sign_traces tx).of_run signing
    obtain ⟨-, -, between, c, rest, split, submits, -⟩ :=
      a.after_request tx (by simp [window, handed, before])
        (fun c member => (quiet c member).unasked)
        (fun c member => Signer.not_asked_of_instructs (instructs c member))
    exact absurd (instructs c (by simp [split]))
      (ChainClient.submission_quiet submits p.signer).not_instructs
  | refused halt x refused =>
    have verdict := x.verdict instructs a window
    cases answer : x.answer with
    | error halt =>
      rw [answer] at verdict
      cases verdict
    | ok receipt =>
      rw [answer] at verdict
      obtain ⟨same, -⟩ := Prod.mk.inj (Except.ok.inj verdict)
      rw [refused receipt answer, a.accepted] at same
      cases same
  | settled receipt x answered accepted =>
    have verdict := x.verdict instructs a window
    rw [answered] at verdict
    obtain ⟨-, same⟩ := Prod.mk.inj (Except.ok.inj verdict)
    exact congrArg Except.ok same

theorem Submission.toAccepted {receipt : Receipt}
    (x : p.Submission destination amount oracle s t) (answered : x.answer = .ok receipt)
    (accepted : receipt.accepted = true) (window : after = t.calls ++ later) :
    p.Accepted oracle s.calls after receipt.transaction.hash := by
  obtain ⟨earlier, before, -⟩ := x.prepared.quiet
  obtain ⟨last, submitting, same⟩ := x.submitting
  rw [answered] at submitting
  refine ⟨⟨x.tx, x.signed, receipt, x.built, x.handed, x.handed, last, ⟨earlier, before.symm⟩,
    x.signing, List.prefix_rfl, submitting, ⟨later, ?_⟩, accepted⟩, rfl⟩
  rw [window, same]

theorem Outcome.accepted_iff (outcome : p.Outcome destination amount oracle s result t)
    (instructs : ∀ c ∈ later, c.instructs = true) (window : after = t.calls ++ later) :
    p.Accepted oracle s.calls after hash ↔ result = .ok hash := by
  constructor
  · exact outcome.of_accepted instructs window
  · intro succeeded
    cases outcome with
    | unprepared halt calls log quiet => cases succeeded
    | unsigned halt tx built prepared signing => cases succeeded
    | refused halt x refused => cases succeeded
    | settled receipt x answered accepted =>
      cases succeeded
      exact x.toAccepted answered accepted window

end After

end Payment

end MultiWallet
