import MultiWallet.Proofs.Chain.Verdict
import MultiWallet.Proofs.Payment

set_option autoImplicit false

namespace MultiWallet.Payment

open Dialogue

structure Terms where
  amount : Amount
  sender : Sender
  destination : String
  memo : Option String
  schedule : FeeSchedule
  type : FeeType

variable {p : Payment} {x : Terms} {oracle : Oracle} {s t : Session} {result : Checked String}

def prepare (p : Payment) (x : Terms) : Dialogue UnsignedTransaction :=
  p.build x.amount x.sender x.destination x.memo x.schedule x.type

structure Handover (p : Payment) (x : Terms) (oracle : Oracle) (s : Session) where
  tx : UnsignedTransaction
  signed : SignedTransaction
  built : Session
  handed : Session
  building : (p.prepare x).run oracle s = (.ok tx, built)
  signing : (p.signer.sign tx).run oracle built = (.ok signed, handed)

theorem Handover.pays {paid : ℚ} (h : p.Handover x oracle s)
    (nonnegative : 0 ≤ x.amount.value.signed) (pays : p.chain.payout? x.amount = some paid) :
    h.tx.payout? = some (x.destination, paid) :=
  build_pays h.building nonnegative pays

/-- Nothing was submitted: the transaction could not be built or signed, or the chain has no call
for what was signed. -/
inductive Withheld (p : Payment) (x : Terms) (oracle : Oracle) (s t : Session) : Prop where
  | unbuilt (halt : Halt) (building : (p.prepare x).run oracle s = (.error halt, t))
  | unsigned (tx : UnsignedTransaction) (built : Session) (halt : Halt)
      (building : (p.prepare x).run oracle s = (.ok tx, built))
      (signing : (p.signer.sign tx).run oracle built = (.error halt, t))
  | unsent (h : p.Handover x oracle s) (nothing : p.chain.submission? h.signed = none)
      (log : t.calls = h.handed.calls)

def settled (currency : Currency) : Checked Receipt → Checked String
  | .error halt => .error halt
  | .ok receipt =>
    if receipt.accepted then .ok receipt.transaction.hash
    else fail (.rejected currency (receipt.resultCode.getD "rejected"))

inductive Course (p : Payment) (x : Terms) (oracle : Oracle) (s : Session) :
    Checked String → Session → Prop where
  | withheld {t : Session} (halt : Halt) (withheld : p.Withheld x oracle s t) :
      Course p x oracle s (.error halt) t
  | submitted {t : Session} (h : p.Handover x oracle s) (c : Call) (answer : Checked Receipt)
      (answered : Session) (submits : p.chain.submission? h.signed = some c)
      (submitting : (p.chain.submit h.signed).run oracle h.handed = (answer, answered))
      (log : t.calls = h.handed.calls ++ [c]) :
      Course p x oracle s (settled x.amount.currency answer) t

theorem execute_course
    (executed : (p.execute x.amount x.sender x.destination x.memo x.schedule x.type).run oracle s =
      (result, t)) :
    p.Course x oracle s result t := by
  obtain ⟨halt, building, rfl⟩ | ⟨tx, built, building, executed⟩ := run_bind_cases executed
  · exact .withheld halt (.unbuilt halt building)
  obtain ⟨halt, signing, rfl⟩ | ⟨signed, handed, signing, executed⟩ := run_bind_cases executed
  · exact .withheld halt (.unsigned tx built halt building signing)
  let h : p.Handover x oracle s := ⟨tx, signed, built, handed, building, signing⟩
  -- The count of the outcome makes no call.
  have course {answer : Checked Receipt} {answered : Session}
      (submitting : (p.chain.submit signed).run oracle handed = (answer, answered))
      (log : t.calls = answered.calls) (ended : result = settled x.amount.currency answer) :
      p.Course x oracle s result t := by
    obtain ⟨_, calls, rfl, unsent⟩ := (p.chain.submit_traces signed).of_run submitting
    cases submits : p.chain.submission? signed with
    | none =>
      obtain ⟨halt, rfl⟩ := unsent submits
      rw [submits] at calls
      rw [ended]
      exact .withheld halt (.unsent h submits (by simpa [calls] using log))
    | some c =>
      rw [submits] at calls
      rw [ended]
      exact .submitted h c answer answered submits submitting (log.trans calls)
  obtain ⟨halt, submitting, rfl⟩ | ⟨receipt, answered, submitting, executed⟩ :=
    run_bind_cases executed
  · exact course submitting rfl rfl
  · obtain ⟨last, same, settling⟩ := run_settle x.amount receipt oracle answered
    rw [settling] at executed
    cases executed
    exact course submitting same rfl

theorem settled_eq_ok {currency : Currency} {answer : Checked Receipt} {hash : String} :
    settled currency answer = .ok hash ↔
      ∃ receipt, answer = .ok receipt ∧ receipt.accepted = true ∧
        receipt.transaction.hash = hash := by
  rcases answer with halt | receipt
  · simp [settled]
  · cases accepted : receipt.accepted <;> simp [settled, accepted]

theorem settled_eq_rejected {currency other : Currency} {answer : Checked Receipt}
    {reason : String} (unrejected : answer.Unrejected) :
    settled currency answer = .error (.failure (.rejected other reason)) ↔
      other = currency ∧ ∃ receipt, answer = .ok receipt ∧ receipt.accepted = false ∧
        receipt.resultCode.getD "rejected" = reason := by
  rcases answer with halt | receipt
  · have plain := unrejected other reason
    simpa [settled] using plain
  · cases accepted : receipt.accepted with
    | true => simp [settled, accepted]
    | false =>
      have rejected : settled currency (.ok receipt) =
          fail (.rejected currency (receipt.resultCode.getD "rejected")) := by
        simp [settled, accepted]
      rw [rejected]
      constructor
      · rintro ⟨⟩
        exact ⟨rfl, receipt, rfl, accepted, rfl⟩
      · rintro ⟨rfl, _, ⟨rfl⟩, -, rfl⟩
        rfl

/-- A payment over the web that is submitted is one call, and the reply to it decides: the payment
succeeds exactly where the reply accepts the transaction, with the hash that it names, and fails as
rejected exactly where the reply rejects it, which is where the chain's answer is a receipt that is
not accepted. -/
theorem execute_verdict (p : Payment) (x : Terms) (web : p.chain.OnWeb) (oracle : Oracle)
    (s t : Session) (result : Checked String)
    (executed : (p.execute x.amount x.sender x.destination x.memo x.schedule x.type).run oracle s =
      (result, t)) :
    (p.Withheld x oracle s t ∧ ∃ halt, result = .error halt) ∨
      ∃ (h : p.Handover x oracle s) (request : Http.Request),
        p.chain.submission? h.signed = some (.http request) ∧
        t.calls = h.handed.calls ++ [.http request] ∧
        (∀ hash, result = .ok hash ↔
          p.chain.Accepts (oracle h.handed.calls (.http request)) hash) ∧
        (∀ currency reason, result = .error (.failure (.rejected currency reason)) ↔
          currency = x.amount.currency ∧ ∃ code,
            p.chain.Rejects (oracle h.handed.calls (.http request)) code ∧
              code.getD "rejected" = reason) ∧
        ((∃ currency reason, result = .error (.failure (.rejected currency reason))) ↔
          ∃ receipt u, (p.chain.submit h.signed).run oracle h.handed = (.ok receipt, u) ∧
            receipt.accepted = false) := by
  cases execute_course executed with
  | withheld halt withheld => exact .inl ⟨withheld, halt, rfl⟩
  | submitted h c answer answered submits submitting log =>
    obtain ⟨request, rfl, verdict⟩ := ChainClient.submit_verdict web submits submitting
    refine .inr ⟨h, request, submits, log, fun hash => ?_, fun currency reason => ?_, ?_⟩
    · rw [settled_eq_ok, verdict.accepts]
    · rw [settled_eq_rejected verdict.unrejected]
      simp only [verdict.rejects]
      constructor
      · rintro ⟨rfl, receipt, ok, rejected, named⟩
        exact ⟨rfl, _, ⟨receipt, ok, rejected, rfl⟩, named⟩
      · rintro ⟨rfl, _, ⟨receipt, ok, rejected, rfl⟩, named⟩
        exact ⟨rfl, receipt, ok, rejected, named⟩
    · simp only [settled_eq_rejected verdict.unrejected, submitting]
      constructor
      · rintro ⟨_, _, rfl, receipt, rfl, rejected, -⟩
        exact ⟨receipt, answered, rfl, rejected⟩
      · rintro ⟨receipt, _, ⟨rfl, -⟩, rejected⟩
        exact ⟨_, _, rfl, receipt, rfl, rejected, rfl⟩

def lumens : Payment := { chain := .stellar (.http "http://h") .test, signer := .external }

def tenLumens : Terms :=
  { amount := { currency := .xlm, value := .ofUInt64 10 }
    sender := { currency := .xlm, label := "mine", address := "GSRC" }
    destination := "GDEST"
    memo := none
    schedule := { currency := .xlm, regular := .ofUInt64 100, priority := .ofUInt64 200
                  limits := none, gasLimit := none }
    type := .regular }

-- The ledger knows both accounts, and refuses the transaction.
def refusing : Oracle
  | _, .http request =>
    if request.method = .post then
      .reply
        { status := 400
          body := "\x7b\"extras\":\x7b\"result_codes\":\x7b\"transaction\":\"bad\"\x7d\x7d\x7d" }
    else .reply { status := 200, body := "\x7b\"account_id\":\"GSRC\",\"sequence\":\"41\"\x7d" }
  | _, .sign _ => .ok { currency := .xlm, hash := "h", encoded := "signed" }
  | _, c => c.refused

def looked (account : String) : Call := .http (Http.get ("http://h/accounts/" ++ account) none)

def lumensBuilt : Session := { Session.empty with calls := [looked "GSRC", looked "GDEST"] }

def lumensTx : UnsignedTransaction :=
  .ledger
    { network := .test, passphrase := "Test SDF Network ; September 2015", source := "GSRC"
      sequence := 42, feeStroops := 100, memo := none
      operations := [.payment "GDEST" (.ofUInt64 10)] }

theorem run_prepare_tenLumens :
    (lumens.prepare tenLumens).run refusing .empty = (.ok lumensTx, lumensBuilt) := rfl

def lumensSigned : SignedTransaction := { currency := .xlm, hash := "h", encoded := "signed" }

def lumensHanded : Session := { lumensBuilt with calls := lumensBuilt.calls ++ [.sign lumensTx] }

theorem run_sign_tenLumens :
    (lumens.signer.sign lumensTx).run refusing lumensBuilt = (.ok lumensSigned, lumensHanded) := rfl

def lumensRefused : Session :=
  { lumensHanded with
    calls := lumensHanded.calls ++
      [.http (Http.postForm "http://h/transactions" [("tx", "signed")])]
    counted := [.rejected .xlm] }

theorem run_execute_tenLumens :
    (lumens.execute tenLumens.amount tenLumens.sender tenLumens.destination tenLumens.memo
        tenLumens.schedule tenLumens.type).run refusing .empty =
      (.error (.failure (.rejected .xlm "bad")), lumensRefused) := by
  rw [execute]
  change (lumens.prepare tenLumens >>= _).run refusing .empty = _
  rw [run_bind_ok run_prepare_tenLumens, run_bind_ok run_sign_tenLumens]
  rfl

theorem execute_verdict_refusing :
    lumens.chain.OnWeb ∧
      (lumens.execute tenLumens.amount tenLumens.sender tenLumens.destination tenLumens.memo
          tenLumens.schedule tenLumens.type).run refusing .empty =
        (.error (.failure (.rejected .xlm "bad")), lumensRefused) ∧
      ∃ (h : lumens.Handover tenLumens refusing .empty) (request : Http.Request),
        lumensRefused.calls = h.handed.calls ++ [.http request] ∧
        ∃ code, lumens.chain.Rejects (refusing h.handed.calls (.http request)) code ∧
          code.getD "rejected" = "bad" := by
  refine ⟨.stellar _ _, run_execute_tenLumens, ?_⟩
  obtain ⟨withheld, -⟩ | ⟨h, request, -, log, -, rejected, -⟩ :=
    execute_verdict lumens tenLumens (.stellar _ _) refusing .empty _ _ run_execute_tenLumens
  · cases withheld with
    | unbuilt halt building => cases run_prepare_tenLumens.symm.trans building
    | unsigned tx built halt building signing =>
      cases run_prepare_tenLumens.symm.trans building
      cases run_sign_tenLumens.symm.trans signing
    | unsent h nothing log => cases nothing
  · exact ⟨h, request, log, ((rejected .xlm "bad").1 rfl).2⟩

end MultiWallet.Payment
