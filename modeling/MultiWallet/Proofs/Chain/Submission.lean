import MultiWallet.Proofs.Chain.Inquiry
import MultiWallet.Proofs.Signer

set_option autoImplicit false

namespace MultiWallet

open Dialogue

/-- The call makes the custodial backend move funds. Over the web this is what is posted in the
owner's name. -/
def Call.instructs : Call → Bool
  | .http request => request.method == .post && request.authorization.isSome
  | .withdraw _ _ _ | .placeOrder _ => true
  | _ => false

theorem Call.not_instructs_of_reads {c : Call} (reads : c.Reads) : c.instructs = false := by
  cases c with
  | http request =>
    have get : request.method = .get := eq_of_beq reads
    simp [instructs, get]
  | withdraw currency address amount => cases reads
  | placeOrder order => cases reads
  | _ => rfl

/-- The call hands nothing to the signer, and the custodial backend moves no funds for it. -/
structure Signer.Quiet (signer : Signer) (c : Call) : Prop where
  unasked : ¬ signer.Asked c
  uninstructed : c.instructs = false

theorem Signer.Quiet.not_instructs {signer : Signer} {c : Call} (quiet : signer.Quiet c) :
    ¬ c.instructs = true := by
  simp [quiet.uninstructed]

namespace Signer

variable {signer : Signer}

theorem quiet_of_reads {c : Call} (reads : c.Reads) : signer.Quiet c :=
  ⟨not_asked_of_reads reads, Call.not_instructs_of_reads reads⟩

theorem request_not_instructs (signer : Signer) (tx : UnsignedTransaction) :
    (signer.request tx).instructs = false := by
  cases signer <;> rfl

theorem not_asked_of_instructs {c : Call} (instructs : c.instructs = true) : ¬ signer.Asked c := by
  rintro ⟨tx, rfl⟩
  rw [request_not_instructs] at instructs
  cases instructs

-- The two objects begin with different names.
theorem quiet_rpc (signer : Signer) (url method : String) (params : Json) :
    signer.Quiet (.http (Http.postJson url none (JsonRpc.request method params))) := by
  refine ⟨?_, rfl⟩
  rintro ⟨tx, same⟩
  cases signer with
  | external => cases same
  | http other =>
    have version : Json.writeText "jsonrpc" = "\"jsonrpc\"".toList := by decide
    have name : Json.writeText "transaction" = "\"transaction\"".toList := by decide
    have bodies := congrArg (fun request => request.body.toList[2]?) (Call.http.inj same)
    simp [Http.postJson, JsonRpc.request, Json.render, Json.write, Json.writeMembers, version,
      name] at bodies

end Signer

namespace JsonRpc

variable {α : Type} {url method : String} {params params' : Json}

theorem call_alike
    (same : Http.postJson url none (request method params) =
      Http.postJson url none (request method params'))
    (currency : Currency) (decode : Json → Option α) :
    Alike id (call currency url method params decode)
      (call currency url method params' decode) := by
  cases sent : Http.refusal? url with
  | some refusal =>
    rw [call_refused sent, call_refused sent]
    exact alike_ofChecked rfl
  | none =>
    rw [call_sent sent, call_sent sent, same]
    exact (alike_ask _).bind_same fun _ => alike_ofChecked rfl

end JsonRpc

def Receipt.verdict (r : Receipt) : Bool × String := (r.accepted, r.transaction.hash)

namespace ChainClient

theorem build_quiet (chain : ChainClient) (transfer : Transfer) (signer : Signer) :
    (chain.build transfer).Asks signer.Quiet := by
  have quiet (c : Call) (reads : c.Reads) : signer.Quiet c := Signer.quiet_of_reads reads
  cases chain with
  | external name currency => exact .bind (asks_ask (quiet _ rfl)) fun _ => asks_ofAnswer _
  | indexer currency base => exact (Asks.map (Indexer.build_asks _ _)).mono quiet
  | stellar server network => exact (Asks.map (Stellar.build_asks _ _)).mono quiet
  | evm currency url gasLimit =>
    exact .map (Evm.build_plain (fun _ _ => signer.quiet_rpc _ _ _) _).asks

def submission? (chain : ChainClient) (signed : SignedTransaction) : Option Call :=
  match chain with
  | .external name _ => some (.chainSubmit name signed)
  | .indexer _ base =>
    some (.http (Http.get (base ++ "/api/v2/sendtx/" ++ signed.encoded) none))
  | .stellar (.external name) _ => some (.stellarSubmit name signed.encoded)
  | .stellar (.http base) _ =>
    some (.http (Http.postForm (base ++ "/transactions") [("tx", signed.encoded)]))
  | .evm _ url _ =>
    match Evm.rawDigits signed.encoded, Http.refusal? url with
    | .ok digits, none =>
      some (.http (Http.postJson url none
        (JsonRpc.request "eth_sendRawTransaction"
          (.array [.string (String.ofList ('0' :: 'x' :: digits))]))))
    | _, _ => none

theorem submission_quiet {chain : ChainClient} {signed : SignedTransaction} {c : Call}
    (submits : chain.submission? signed = some c) (signer : Signer) : signer.Quiet c := by
  have unasked (c : Call) (other : ∀ request, c ≠ .http request) (unsigned : ∀ tx, c ≠ .sign tx) :
      ¬ signer.Asked c := by
    rintro ⟨tx, same⟩
    cases signer with
    | external => exact unsigned _ same
    | http url => exact other _ same
  cases chain with
  | external name currency =>
    cases submits
    exact ⟨unasked _ (by simp) (by simp), rfl⟩
  | indexer currency base =>
    cases submits
    exact Signer.quiet_of_reads rfl
  | stellar server network =>
    cases server with
    | external name =>
      cases submits
      exact ⟨unasked _ (by simp) (by simp), rfl⟩
    | http base =>
      cases submits
      exact ⟨signer.not_asked_form _ _, rfl⟩
  | evm currency url gasLimit =>
    simp only [submission?] at submits
    split at submits
    next =>
      cases submits
      exact signer.quiet_rpc _ _ _
    next => cases submits

theorem submit_alike {chain : ChainClient} {signed signed' : SignedTransaction} {c : Call}
    (submits : chain.submission? signed = some c) (again : chain.submission? signed' = some c)
    (hash : signed.hash = signed'.hash) :
    Alike Receipt.verdict (chain.submit signed) (chain.submit signed') := by
  cases chain with
  | external name currency =>
    cases submits
    cases again
    exact (alike_ask _).bind_same fun answer => alike_ofAnswer _ _
  | indexer currency base =>
    cases submits
    have requests := Call.http.inj (Option.some.inj again)
    simp only [submit, Indexer.submit, requests]
    refine (alike_exchange _).bind_same fun r => ?_
    refine (alike_decodeBody id r fun _ => rfl).bind_same fun broadcast => ?_
    split
    · exact alike_pure rfl
    · exact alike_pure (congrArg (Prod.mk false) hash)
  | stellar server network =>
    have submission : Alike id (server.submit signed.encoded) (server.submit signed'.encoded) := by
      cases server with
      | external name =>
        cases submits
        simp only [submission?, Option.some.injEq, Call.stellarSubmit.injEq, true_and] at again
        rw [again]
        exact (alike_ask _).bind_same fun answer => alike_ofAnswer _ _
      | http base =>
        cases submits
        have requests := Call.http.inj (Option.some.inj again)
        simp only [StellarServer.submit, requests]
        refine (alike_exchange _).bind_same fun r => ?_
        split
        · exact alike_decodeBody _ r fun _ => rfl
        · split
          · exact alike_decodeBody _ r fun _ => rfl
          · exact alike_ofChecked rfl
    refine submission.bind_same fun submission => alike_pure ?_
    simp [Receipt.verdict, hash]
  | evm currency url gasLimit =>
    simp only [submission?] at submits again
    split at submits
    next digits _ raw _ =>
      split at again
      next digits' _ raw' _ =>
        cases submits
        simp only [submit, Evm.submit, raw, raw']
        refine (JsonRpc.call_alike ?_ _ _).bind_same fun hash => alike_pure rfl
        exact Call.http.inj (Option.some.inj again).symm
      next => cases again
    next => cases submits

theorem submit_traces (chain : ChainClient) (signed : SignedTransaction) :
    (chain.submit signed).Traces fun result calls =>
      calls = (chain.submission? signed).toList ∧
        (chain.submission? signed = none → ∃ halt, result = .error halt) := by
  have once {d : Dialogue Receipt} {c : Call} (traces : d.Traces fun _ calls => calls = [c])
      (submits : chain.submission? signed = some c) :
      d.Traces fun result calls => calls = (chain.submission? signed).toList ∧
        (chain.submission? signed = none → ∃ halt, result = .error halt) := by
    refine traces.mono ?_
    rintro _ _ rfl
    simp [submits]
  cases chain with
  | external name currency => exact once (.bind_silent (traces_ask _) asks_ofAnswer) rfl
  | indexer currency base =>
    refine once (.bind_silent (traces_exchange _) fun r => ?_) rfl
    refine .bind (asks_decodeBody _ _) fun broadcast => ?_
    split <;> exact asks_pure _
  | stellar server network =>
    cases server with
    | external name =>
      refine once (.bind_silent (.bind_silent (traces_ask _) asks_ofAnswer) ?_) rfl
      exact fun submission => asks_pure _
    | http base =>
      refine once (.bind_silent (.bind_silent (traces_exchange _) fun r => ?_) ?_) rfl
      · split
        · exact asks_decodeBody _ _
        · split
          · exact asks_decodeBody _ _
          · exact asks_fail _
      · exact fun submission => asks_pure _
  | evm currency url gasLimit =>
    simp only [submit, Evm.submit, submission?] at once ⊢
    rcases raw : Evm.rawDigits signed.encoded with e | digits
    · refine (traces_ofChecked _).mono ?_
      rintro _ _ ⟨rfl, rfl⟩
      exact ⟨rfl, fun _ => ⟨_, rfl⟩⟩
    · cases sent : Http.refusal? url with
      | none =>
        rw [raw, sent] at once
        refine once (.bind_silent (JsonRpc.call_inquires sent _ _).traces fun hash => asks_pure _) rfl
      | some refusal =>
        simp only [Evm.call, JsonRpc.call, sent]
        refine (traces_ofChecked _).mono ?_
        rintro _ _ ⟨rfl, rfl⟩
        exact ⟨rfl, fun _ => ⟨_, rfl⟩⟩

theorem submit_quiet (chain : ChainClient) (signed : SignedTransaction) (signer : Signer) :
    (chain.submit signed).Asks signer.Quiet := by
  refine (submit_traces chain signed).mono ?_
  rintro _ _ ⟨rfl, -⟩ c member
  exact submission_quiet (Option.mem_toList.1 member) signer

end ChainClient

end MultiWallet
