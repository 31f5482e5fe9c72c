import MultiWallet.Proofs.Chain.Reply
import MultiWallet.Proofs.Chain.Submission
import MultiWallet.Proofs.Inquiry

set_option autoImplicit false

namespace MultiWallet

open Dialogue

def Checked.Unrejected {α : Type} (result : Checked α) : Prop :=
  ∀ currency reason, result ≠ .error (.failure (.rejected currency reason))

namespace Checked.Unrejected

variable {α β : Type}

theorem of_ok (a : α) : Unrejected (.ok a : Checked α) := by
  intro currency reason same
  cases same

theorem bind {result : Checked α} {f : α → Checked β} (first : result.Unrejected)
    (rest : ∀ a, (f a).Unrejected) : (result >>= f).Unrejected := by
  cases result with
  | ok a => exact rest a
  | error halt =>
    intro currency reason same
    cases same
    exact first currency reason rfl

theorem orFail {cause : Failure} (plain : ∀ currency reason, cause ≠ .rejected currency reason)
    (found : Option α) : (orFail cause found).Unrejected := by
  cases found with
  | some a => exact of_ok a
  | none =>
    intro currency reason same
    cases same
    exact plain currency reason rfl

theorem heard (outcome : Http.Outcome) : outcome.heard.Unrejected := by
  intro currency reason same
  cases outcome <;> cases same

theorem decode (read : Json → Option α) (r : Http.Reply) : (r.decode read).Unrejected :=
  orFail (by simp) _

end Checked.Unrejected

namespace ChainClient

inductive OnWeb : ChainClient → Prop where
  | indexer (currency : Currency) (base : String) : OnWeb (.indexer currency base)
  | stellar (base : String) (network : Network) : OnWeb (.stellar (.http base) network)
  | evm (currency : Currency) (url : String) (gasLimit : UInt64) :
      OnWeb (.evm currency url gasLimit)

/-- The reply accepts a transaction, and names this hash for it. A ledger accepts unless it says
that it does not; an indexer names a result; a node answers the call. -/
inductive Accepts : ChainClient → Http.Outcome → String → Prop where
  | stellar (base : String) (network : Network) (r : Http.Reply) (record : Json.Record)
      (hash : String) (success : r.isSuccess = true)
      (carries : r.Carries ["hash", "successful"] record)
      (named : record.fields.lookup "hash" = some (.string hash))
      (approved : record.fields.lookup "successful" = none ∨
        record.fields.lookup "successful" = some (.bool true)) :
      Accepts (.stellar (.http base) network) (.reply r) hash
  | indexer (currency : Currency) (base : String) (r : Http.Reply) (record : Json.Record)
      (hash : String) (remark : Option String) (success : r.isSuccess = true)
      (carries : r.Carries ["result", "error"] record) (named : record.Says "result" (some hash))
      (remarked : record.Says "error" remark) : Accepts (.indexer currency base) (.reply r) hash
  | evm (currency : Currency) (url : String) (gasLimit : UInt64) (r : Http.Reply)
      (response value : Json) (hash : String) (written : Json.ofString r.body = some response)
      (answered : JsonRpc.Answers response value)
      (named : JsonRpc.NamesHash value hash) :
      Accepts (.evm currency url gasLimit) (.reply r) hash

/-- The reply rejects a transaction, and may give a reason for it. No node does so: what it does not
accept is an error of the call. -/
inductive Rejects : ChainClient → Http.Outcome → Option String → Prop where
  | disapproved (base : String) (network : Network) (r : Http.Reply) (record : Json.Record)
      (hash : String) (success : r.isSuccess = true)
      (carries : r.Carries ["hash", "successful"] record)
      (named : record.fields.lookup "hash" = some (.string hash))
      (flag : record.fields.lookup "successful" = some (.bool false)) :
      Rejects (.stellar (.http base) network) (.reply r) none
  | refused (base : String) (network : Network) (r : Http.Reply) (record : Json.Record)
      (code : Option String) (status : r.status = 400) (carries : r.Carries ["extras"] record)
      (stated : record.Tells "extras" StellarServer.ReasonOf code) :
      Rejects (.stellar (.http base) network) (.reply r) code
  | unlisted (currency : Currency) (base : String) (r : Http.Reply) (record : Json.Record)
      (named remark : Option String) (carries : r.Carries ["result", "error"] record)
      (stated : record.Says "result" named) (remarked : record.Says "error" remark)
      (missing : r.isSuccess = true → named = none) :
      Rejects (.indexer currency base) (.reply r)
        (some (remark.getD (Http.statusText r.status)))

structure Verdict (chain : ChainClient) (outcome : Http.Outcome) (answer : Checked Receipt) :
    Prop where
  accepts : ∀ hash, chain.Accepts outcome hash ↔
    ∃ receipt, answer = .ok receipt ∧ receipt.accepted = true ∧ receipt.transaction.hash = hash
  rejects : ∀ code, chain.Rejects outcome code ↔
    ∃ receipt, answer = .ok receipt ∧ receipt.accepted = false ∧ receipt.resultCode = code
  unrejected : answer.Unrejected

end ChainClient

namespace Indexer

def receipt (signed : SignedTransaction) (r : Http.Reply) (broadcast : Broadcast) : Receipt :=
  match r.isSuccess, broadcast.result with
  | true, some txid =>
    { accepted := true, transaction := { signed with hash := txid }, resultCode := none }
  | _, _ =>
    { accepted := false, transaction := signed
      resultCode := some (broadcast.error.getD (Http.statusText r.status)) }

def judge (signed : SignedTransaction) (outcome : Http.Outcome) : Checked Receipt := do
  let r ← outcome.heard
  let broadcast ← r.decode readBroadcast
  return receipt signed r broadcast

theorem submit_eq (x : Indexer) (signed : SignedTransaction) :
    x.submit signed = (do
      let outcome : Http.Outcome ←
        ask (.http (Http.get (x.base ++ "/api/v2/sendtx/" ++ signed.encoded) none))
      ofChecked (judge signed outcome)) := by
  simp only [submit, exchange_eq, decodeBody_eq, bind_assoc]
  refine congrArg (ask _ >>= ·) (funext fun outcome => ?_)
  simp only [judge, ← ofChecked_bind]
  refine congrArg (ofChecked _ >>= ·) (funext fun r => ?_)
  refine congrArg (ofChecked _ >>= ·) (funext fun broadcast => ?_)
  unfold receipt
  cases r.isSuccess <;> cases broadcast.result <;> rfl

theorem readBroadcast_iff {r : Http.Reply} {broadcast : Broadcast} :
    (Json.ofString r.body).bind readBroadcast = some broadcast ↔
      ∃ record, r.Carries ["result", "error"] record ∧ record.Says "result" broadcast.result ∧
        record.Says "error" broadcast.error := by
  simp only [Http.Reply.Carries, ← Json.Record.defaulted_asText_iff]
  rcases broadcast with ⟨result, error⟩
  cases Json.ofString r.body with
  | none => simp
  | some j => simp [readBroadcast, Option.bind_eq_some_iff]

theorem judge_eq_ok {signed : SignedTransaction} {outcome : Http.Outcome} {receipt : Receipt} :
    judge signed outcome = .ok receipt ↔
      ∃ r broadcast, outcome = .reply r ∧
        (Json.ofString r.body).bind readBroadcast = some broadcast ∧
        Indexer.receipt signed r broadcast = receipt := by
  simp [judge, Checked.bind_eq_ok, Http.heard_eq_ok, Http.decode_eq_ok, pure, Except.pure]

theorem receipt_accepted {signed : SignedTransaction} {r : Http.Reply} {broadcast : Broadcast} :
    (receipt signed r broadcast).accepted = true ↔
      r.isSuccess = true ∧
        broadcast.result = some (receipt signed r broadcast).transaction.hash := by
  unfold receipt
  cases r.isSuccess <;> cases broadcast.result <;> simp

theorem receipt_rejected {signed : SignedTransaction} {r : Http.Reply} {broadcast : Broadcast} :
    (receipt signed r broadcast).accepted = false ↔
      (r.isSuccess = true → broadcast.result = none) ∧
        (receipt signed r broadcast).resultCode =
          some (broadcast.error.getD (Http.statusText r.status)) := by
  unfold receipt
  cases r.isSuccess <;> cases broadcast.result <;> simp

theorem verdict (currency : Currency) (base : String) (signed : SignedTransaction)
    (outcome : Http.Outcome) :
    (ChainClient.indexer currency base).Verdict outcome (judge signed outcome) where
  accepts hash := by
    constructor
    · intro accepts
      cases accepts with
      | indexer _ _ r record hash remark success carries named remarked =>
        have read : (Json.ofString r.body).bind readBroadcast = some ⟨some hash, remark⟩ :=
          readBroadcast_iff.2 ⟨record, carries, named, remarked⟩
        refine ⟨_, judge_eq_ok.2 ⟨r, _, rfl, read, rfl⟩, ?_⟩
        simp [receipt, success]
    · rintro ⟨_, judged, accepted, rfl⟩
      obtain ⟨r, broadcast, rfl, read, rfl⟩ := judge_eq_ok.1 judged
      obtain ⟨record, carries, named, remarked⟩ := readBroadcast_iff.1 read
      obtain ⟨success, result⟩ := receipt_accepted.1 accepted
      rw [result] at named
      exact .indexer currency base r record _ _ success carries named remarked
  rejects code := by
    constructor
    · intro rejects
      cases rejects with
      | unlisted _ _ r record named remark carries stated remarked missing =>
        have read : (Json.ofString r.body).bind readBroadcast = some ⟨named, remark⟩ :=
          readBroadcast_iff.2 ⟨record, carries, stated, remarked⟩
        have judged : judge signed (.reply r) = .ok _ := judge_eq_ok.2 ⟨r, _, rfl, read, rfl⟩
        have rejected : (receipt signed r ⟨named, remark⟩).accepted = false := by
          unfold receipt
          cases success : r.isSuccess with
          | false => rfl
          | true => rw [missing success]
        exact ⟨_, judged, rejected, (receipt_rejected.1 rejected).2⟩
    · rintro ⟨_, judged, rejected, rfl⟩
      obtain ⟨r, broadcast, rfl, read, rfl⟩ := judge_eq_ok.1 judged
      obtain ⟨record, carries, stated, remarked⟩ := readBroadcast_iff.1 read
      obtain ⟨missing, code⟩ := receipt_rejected.1 rejected
      rw [code]
      exact .unlisted currency base r record _ _ carries stated remarked missing
  unrejected :=
    .bind (.heard outcome) fun r => .bind (.decode _ r) fun broadcast => .of_ok _

end Indexer

namespace Stellar

open StellarServer

def heed (r : Http.Reply) : Checked StellarSubmission :=
  if r.isSuccess then r.decode readSuccess
  else if r.status = 400 then r.decode readRefusal
  else fail (.ledger r.status r.body)

def receipt (signed : SignedTransaction) (submission : StellarSubmission) : Receipt :=
  { accepted := submission.successful
    transaction := { signed with hash := submission.hash.getD signed.hash }
    resultCode := submission.resultCode }

def judge (signed : SignedTransaction) (outcome : Http.Outcome) : Checked Receipt := do
  let r ← outcome.heard
  let submission ← heed r
  return receipt signed submission

theorem submit_eq (base : String) (network : Network) (signed : SignedTransaction) :
    ({ server := .http base, network } : Stellar).submit signed = (do
      let outcome : Http.Outcome ←
        ask (.http (Http.postForm (base ++ "/transactions") [("tx", signed.encoded)]))
      ofChecked (judge signed outcome)) := by
  simp only [submit, StellarServer.submit, exchange_eq, decodeBody_eq, bind_assoc]
  refine congrArg (ask _ >>= ·) (funext fun outcome => ?_)
  simp only [judge, ← ofChecked_bind]
  refine congrArg (ofChecked _ >>= ·) (funext fun r => ?_)
  unfold heed
  split
  · rfl
  · split <;> rfl

def Approval (record : Json.Record) (approval : Bool) : Prop :=
  record.fields.lookup "successful" = none ∧ approval = true ∨
    record.fields.lookup "successful" = some (.bool approval)

theorem defaulted_asBool_iff {record : Json.Record} {approval : Bool} :
    record.defaulted "successful" Json.asBool true = some approval ↔ Approval record approval := by
  unfold Json.Record.defaulted Approval
  cases record.fields.lookup "successful" with
  | none => simp [eq_comm]
  | some j => cases j <;> simp [Json.asBool]

theorem readSuccess_iff {r : Http.Reply} {submission : StellarSubmission} :
    (Json.ofString r.body).bind readSuccess = some submission ↔
      ∃ record hash, r.Carries ["hash", "successful"] record ∧
        record.fields.lookup "hash" = some (.string hash) ∧
        Approval record submission.successful ∧
        submission.hash = some hash ∧ submission.resultCode = none := by
  simp only [Http.Reply.Carries, ← Json.Record.required_asText_iff, ← defaulted_asBool_iff]
  rcases submission with ⟨successful, hash, code⟩
  cases Json.ofString r.body with
  | none => simp
  | some j =>
    rw [Option.bind_some, Option.bind_some]
    constructor
    · intro read
      simp only [readSuccess, Option.bind_eq_bind, Option.bind_eq_some_iff] at read
      obtain ⟨record, carries, approval, approved, hash, named, ⟨⟩⟩ := read
      exact ⟨record, _, carries, named, approved, rfl, rfl⟩
    · rintro ⟨record, hash, carries, named, approved, rfl, rfl⟩
      simp [readSuccess, carries, named, approved]

theorem heed_eq_ok {r : Http.Reply} {submission : StellarSubmission} :
    heed r = .ok submission ↔
      r.isSuccess = true ∧ (Json.ofString r.body).bind readSuccess = some submission ∨
        r.status = 400 ∧ (Json.ofString r.body).bind readRefusal = some submission := by
  unfold heed
  by_cases refused : r.status = 400
  · have short : r.isSuccess = false := by simp [Http.Reply.isSuccess, refused]
    simp [refused, short, Http.decode_eq_ok]
  · cases r.isSuccess <;> simp [refused, Http.decode_eq_ok]

theorem judge_eq_ok {signed : SignedTransaction} {outcome : Http.Outcome} {receipt : Receipt} :
    judge signed outcome = .ok receipt ↔
      ∃ r submission, outcome = .reply r ∧ heed r = .ok submission ∧
        Stellar.receipt signed submission = receipt := by
  simp [judge, Checked.bind_eq_ok, Http.heard_eq_ok, pure, Except.pure]

theorem verdict (base : String) (network : Network) (signed : SignedTransaction)
    (outcome : Http.Outcome) :
    (ChainClient.stellar (.http base) network).Verdict outcome (judge signed outcome) where
  accepts hash := by
    constructor
    · intro accepts
      cases accepts with
      | stellar _ _ r record hash success carries named approved =>
        have read : (Json.ofString r.body).bind readSuccess = some ⟨true, some hash, none⟩ := by
          refine readSuccess_iff.2 ⟨record, hash, carries, named, ?_, rfl, rfl⟩
          simpa [Approval] using approved
        exact ⟨_, judge_eq_ok.2 ⟨r, _, rfl, heed_eq_ok.2 (.inl ⟨success, read⟩), rfl⟩, rfl, rfl⟩
    · rintro ⟨_, judged, accepted, rfl⟩
      obtain ⟨r, submission, rfl, heeded, rfl⟩ := judge_eq_ok.1 judged
      change submission.successful = true at accepted
      obtain ⟨success, read⟩ | ⟨-, read⟩ := heed_eq_ok.1 heeded
      · obtain ⟨record, hash, carries, named, approval, carried, -⟩ := readSuccess_iff.1 read
        have same : submission.hash.getD signed.hash = hash := by rw [carried, Option.getD_some]
        rw [accepted] at approval
        simp only [receipt, same]
        exact .stellar base network r record hash success carries named
          (by simpa [Approval] using approval)
      · obtain ⟨-, -, -, rejected, -⟩ := readRefusal_iff.1 read
        rw [rejected] at accepted
        cases accepted
  rejects code := by
    constructor
    · intro rejects
      cases rejects with
      | disapproved _ _ r record hash success carries named flag =>
        have read : (Json.ofString r.body).bind readSuccess = some ⟨false, some hash, none⟩ :=
          readSuccess_iff.2 ⟨record, hash, carries, named, .inr flag, rfl, rfl⟩
        exact ⟨_, judge_eq_ok.2 ⟨r, _, rfl, heed_eq_ok.2 (.inl ⟨success, read⟩), rfl⟩, rfl, rfl⟩
      | refused _ _ r record code status carries stated =>
        have read : (Json.ofString r.body).bind readRefusal = some ⟨false, none, code⟩ :=
          readRefusal_iff.2 ⟨record, carries, stated, rfl, rfl⟩
        exact ⟨_, judge_eq_ok.2 ⟨r, _, rfl, heed_eq_ok.2 (.inr ⟨status, read⟩), rfl⟩, rfl, rfl⟩
    · rintro ⟨_, judged, rejected, rfl⟩
      obtain ⟨r, submission, rfl, heeded, rfl⟩ := judge_eq_ok.1 judged
      change submission.successful = false at rejected
      change ChainClient.Rejects _ _ submission.resultCode
      obtain ⟨success, read⟩ | ⟨status, read⟩ := heed_eq_ok.1 heeded
      · obtain ⟨record, hash, carries, named, approval, -, code⟩ := readSuccess_iff.1 read
        rw [rejected] at approval
        rw [code]
        exact .disapproved base network r record hash success carries named
          (by simpa [Approval] using approval)
      · obtain ⟨record, carries, stated, -, -⟩ := readRefusal_iff.1 read
        exact .refused base network r record _ status carries stated
  unrejected := by
    refine .bind (.heard outcome) fun r => .bind ?_ fun submission => .of_ok _
    unfold heed
    split
    · exact .decode _ r
    · split
      · exact .decode _ r
      · intro currency reason same
        cases same

end Stellar

namespace Evm

def judge (currency : Currency) (signed : SignedTransaction) (outcome : Http.Outcome) :
    Checked Receipt := do
  let hash ← JsonRpc.readOutcome currency JsonRpc.readHash outcome
  return { accepted := true, transaction := { signed with hash }, resultCode := none }

theorem submit_eq (x : Evm) {signed : SignedTransaction} {digits : List Char}
    (raw : rawDigits signed.encoded = .ok digits) (sent : Http.refusal? x.url = none) :
    x.submit signed = (do
      let outcome : Http.Outcome ← ask (.http (Http.postJson x.url none
        (JsonRpc.request "eth_sendRawTransaction"
          (.array [.string (String.ofList ('0' :: 'x' :: digits))]))))
      ofChecked (judge x.currency signed outcome)) := by
  simp only [submit, raw, call, JsonRpc.call_sent sent, bind_assoc, judge, ← ofChecked_bind]
  rfl

theorem readOutcome_eq_ok {α : Type} {currency : Currency} {decode : Json → Option α}
    {outcome : Http.Outcome} {a : α} :
    JsonRpc.readOutcome currency decode outcome = .ok a ↔
      ∃ r value, outcome = .reply r ∧
        (Json.ofString r.body).bind JsonRpc.readResponse = some (.result value) ∧
        decode value = some a := by
  cases outcome with
  | unreachable => simp [JsonRpc.readOutcome, MultiWallet.fail]
  | reply r =>
    simp only [JsonRpc.readOutcome, Http.Outcome.reply.injEq, exists_and_left, exists_eq_left']
    rcases (Json.ofString r.body).bind JsonRpc.readResponse with _ | value | e
    · simp [MultiWallet.fail]
    · cases read : decode value <;> simp [orFail, MultiWallet.fail, read]
    · simp [MultiWallet.fail]

theorem verdict (currency : Currency) (url : String) (gasLimit : UInt64)
    (signed : SignedTransaction) (outcome : Http.Outcome) :
    (ChainClient.evm currency url gasLimit).Verdict outcome (judge currency signed outcome) where
  accepts hash := by
    simp only [judge, Checked.bind_eq_ok, readOutcome_eq_ok]
    constructor
    · intro accepts
      cases accepts with
      | evm _ _ _ r response value hash written answered named =>
        have answered : (Json.ofString r.body).bind JsonRpc.readResponse = some (.result value) :=
          Option.bind_eq_some_iff.2 ⟨response, written, JsonRpc.readResponse_iff.2 answered⟩
        have read : JsonRpc.readHash value = some hash := JsonRpc.readHash_iff.2 named
        exact ⟨_, ⟨hash, ⟨r, value, rfl, answered, read⟩, rfl⟩, rfl, rfl⟩
    · rintro ⟨_, ⟨hash, ⟨r, value, rfl, answered, read⟩, ⟨⟩⟩, -, rfl⟩
      obtain ⟨response, written, answered⟩ := Option.bind_eq_some_iff.1 answered
      exact .evm currency url gasLimit r response value hash written
        (JsonRpc.readResponse_iff.1 answered) (JsonRpc.readHash_iff.1 read)
  rejects code := by
    constructor
    · intro rejects
      cases rejects
    · rintro ⟨receipt, judged, rejected, -⟩
      obtain ⟨hash, -, ⟨⟩⟩ := Checked.bind_eq_ok.1 judged
      cases rejected
  unrejected := by
    refine .bind ?_ fun hash => .of_ok _
    intro currency' reason same
    unfold JsonRpc.readOutcome at same
    split at same
    · cases same
    · split at same
      · cases same
      · cases same
      · exact Checked.Unrejected.orFail (by simp) _ currency' reason same

end Evm

namespace ChainClient

variable {chain : ChainClient} {signed : SignedTransaction} {c : Call} {oracle : Oracle}
  {s t : Session} {answer : Checked Receipt}

theorem judged_of_eq {request : Http.Request} {judge : Http.Outcome → Checked Receipt}
    (submitted : chain.submit signed = (do
      let outcome : Http.Outcome ← ask (.http request)
      ofChecked (judge outcome)))
    (verdict : ∀ outcome, chain.Verdict outcome (judge outcome))
    (run : (chain.submit signed).run oracle s = (answer, t)) :
    chain.Verdict (oracle s.calls (.http request)) answer := by
  rw [submitted] at run
  cases run
  exact verdict _

theorem submit_verdict (web : chain.OnWeb) (submits : chain.submission? signed = some c)
    (run : (chain.submit signed).run oracle s = (answer, t)) :
    ∃ request, c = .http request ∧ chain.Verdict (oracle s.calls (.http request)) answer := by
  cases web with
  | indexer currency base =>
    cases submits
    exact ⟨_, rfl, judged_of_eq (Indexer.submit_eq ⟨currency, base⟩ signed)
      (Indexer.verdict currency base signed) run⟩
  | stellar base network =>
    cases submits
    exact ⟨_, rfl, judged_of_eq (Stellar.submit_eq base network signed)
      (Stellar.verdict base network signed) run⟩
  | evm currency url gasLimit =>
    simp only [submission?] at submits
    split at submits
    next digits _ raw sent =>
      cases submits
      exact ⟨_, rfl, judged_of_eq (Evm.submit_eq ⟨currency, url, gasLimit⟩ raw sent)
        (Evm.verdict currency url gasLimit signed) run⟩
    next => cases submits

end ChainClient

end MultiWallet
