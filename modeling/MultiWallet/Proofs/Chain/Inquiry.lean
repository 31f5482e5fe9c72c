import MultiWallet.Chain
import MultiWallet.Proofs.Queries

set_option autoImplicit false

namespace MultiWallet

open Dialogue

def Http.Reply.taken {α : Type} (read : Json → Option α) (r : Http.Reply) : Checked α :=
  if r.isSuccess then r.decode read else fail (.ledger r.status r.body)

theorem Checked.bounded_taken {α : Type} (read : Json → Option α) (r : Http.Reply) :
    (r.taken read).Bounded := by
  unfold Http.Reply.taken
  split
  · exact bounded_decode _ _
  · exact bounded_fail _

namespace Answer

variable {α β : Type}

def known (absent : β) (view : α → β) : Answer α → Checked β
  | .ok a => .ok (view a)
  | .error cause => if cause.isNotFound then .ok absent else fail cause

theorem bounded_known (absent : β) (view : α → β) (answer : Answer α) :
    (answer.known absent view).Bounded := by
  cases answer with
  | ok a => exact Checked.bounded_ok _
  | error cause =>
    simp only [known]
    split
    · exact Checked.bounded_ok _
    · exact Checked.bounded_fail _

theorem ofChecked_known (absent : β) (view : α → β) (answer : Answer α) :
    ofChecked (answer.known absent view) =
      match answer with
      | .ok a => pure (view a)
      | .error cause => if cause.isNotFound then pure absent else Dialogue.fail cause := by
  cases answer with
  | ok a => rfl
  | error cause =>
    simp only [known]
    split <;> rfl

end Answer

namespace JsonRpc

variable {α : Type} {url method : String} {params : Json} {P : Call → Prop}

def readOutcome (currency : Currency) (decode : Json → Option α) : Http.Outcome → Checked α
  | .unreachable => MultiWallet.fail (.network currency unsent)
  | .reply r =>
    match (Json.ofString r.body).bind readResponse with
    | none => MultiWallet.fail (.network currency unreadable)
    | some (.error e) => MultiWallet.fail (.network currency e.text)
    | some (.result value) => orFail (.network currency unreadable) (decode value)

theorem call_refused {refusal : String} (refused : Http.refusal? url = some refusal)
    (currency : Currency) (decode : Json → Option α) :
    call currency url method params decode =
      ofChecked (MultiWallet.fail (.network currency refusal)) := by
  simp [call, refused, Dialogue.fail]

theorem call_sent (sent : Http.refusal? url = none) (currency : Currency)
    (decode : Json → Option α) :
    call currency url method params decode = (do
      let outcome : Http.Outcome ← ask (.http (Http.postJson url none (request method params)))
      ofChecked (readOutcome currency decode outcome)) := by
  unfold call
  rw [sent]
  refine congrArg (ask _ >>= ·) (funext fun outcome => ?_)
  cases outcome with
  | unreachable => rfl
  | reply r =>
    simp only [readOutcome]
    rcases (Json.ofString r.body).bind readResponse with _ | value | e
    · rfl
    · simp only
      cases decode value <;> rfl
    · rfl

theorem bounded_readOutcome (currency : Currency) (decode : Json → Option α)
    (outcome : Http.Outcome) : (readOutcome currency decode outcome).Bounded := by
  unfold readOutcome
  split
  next => exact Checked.bounded_fail _
  next =>
    split
    next => exact Checked.bounded_fail _
    next => exact Checked.bounded_fail _
    next => exact Checked.bounded_orFail _ _

theorem call_inquires (sent : Http.refusal? url = none) (currency : Currency)
    (decode : Json → Option α) :
    (call currency url method params decode).Inquires
      (.http (Http.postJson url none (request method params))) (readOutcome currency decode) :=
  ⟨call_sent sent currency decode, bounded_readOutcome currency decode⟩

theorem call_plain (kind : P (.http (Http.postJson url none (request method params))))
    (currency : Currency) (decode : Json → Option α) :
    (call currency url method params decode).Plain P := by
  cases sent : Http.refusal? url with
  | none => exact (call_inquires sent currency decode).plain kind
  | some refusal =>
    rw [call_refused sent]
    exact .calculation _

theorem call_bounded (currency : Currency) (url method : String) (params : Json)
    (decode : Json → Option α) : (call currency url method params decode).Bounded := by
  cases sent : Http.refusal? url with
  | none => exact (call_inquires sent currency decode).stays
  | some refusal =>
    rw [call_refused sent]
    exact bounded_ofChecked (Checked.bounded_fail _)

end JsonRpc

namespace Indexer

variable {α : Type}

def readFound (read : Json → Option α) (r : Http.Reply) : Checked (Option α) :=
  if r.status = 404 then .ok none else some <$> r.taken read

theorem bounded_readFound (read : Json → Option α) (r : Http.Reply) :
    (readFound read r).Bounded := by
  unfold readFound
  split
  next => exact Checked.bounded_ok _
  next =>
    rw [← bind_pure_comp]
    exact (Checked.bounded_taken read r).bind fun a => Checked.bounded_ok _

theorem find_inquires (x : Indexer) (path : String) (read : Json → Option α) :
    (x.find path read).Inquires (.http (Http.get (x.base ++ path) none)) fun outcome =>
      outcome.heard >>= readFound read := by
  have reads : x.find path read = (do
      let r ← exchange (Http.get (x.base ++ path) none)
      ofChecked (readFound read r)) := by
    refine congrArg (exchange _ >>= ·) (funext fun r => ?_)
    simp only [readFound, Http.Reply.taken, decodeBody_eq]
    split
    · rfl
    · split
      · cases r.decode read <;> rfl
      · rfl
  exact reads ▸ (inquires_exchange _).calculate (bounded_readFound read)

theorem bounded_toCoin (c : ListedCoin) : c.toCoin.Bounded := by
  unfold ListedCoin.toCoin
  split
  next => exact Checked.bounded_ok _
  next => exact Checked.bounded_fail _

theorem coins_inquires (x : Indexer) (address : String) :
    (x.coins address).Inquires (.http (Http.get (x.base ++ ("/api/v2/utxo/" ++ address)) none))
      fun outcome => (outcome.heard >>= readFound (Json.asArray readCoin)) >>= fun listed =>
        (listed.getD []).mapM ListedCoin.toCoin :=
  (x.find_inquires _ _).calculate fun _ => Checked.bounded_mapM bounded_toCoin _

end Indexer

namespace StellarServer

def accountUrl (base id : String) : String := base ++ "/accounts/" ++ id

def accountCall (server : StellarServer) (id : String) : Call :=
  match server with
  | external name => .stellarAccount name id
  | http base => .http (Http.get (accountUrl base id) none)

theorem taken_inquires {α : Type} (request : Http.Request) (read : Json → Option α) :
    (do
      let r ← exchange request
      if r.isSuccess then decodeBody read r else refused r).Inquires (.http request) fun outcome =>
        outcome.heard >>= Http.Reply.taken read := by
  have reads : (do
      let r ← exchange request
      if r.isSuccess then decodeBody read r else refused r) = (do
        let r ← exchange request
        ofChecked (r.taken read)) := by
    refine congrArg (exchange _ >>= ·) (funext fun r => ?_)
    simp only [Http.Reply.taken, decodeBody_eq]
    split <;> rfl
  exact reads ▸ (inquires_exchange _).calculate (Checked.bounded_taken read)

theorem account_inquires (server : StellarServer) (id : String) :
    ∃ read, (server.account id).Inquires (server.accountCall id) read := by
  cases server with
  | external name => exact ⟨_, inquires_answer (c := .stellarAccount name id) fun reply => reply⟩
  | http base => exact ⟨_, taken_inquires _ _⟩

theorem accountCall_readsFrom (server : StellarServer) (id : String) :
    (server.accountCall id).ReadsFrom [.web, .network] := by
  cases server <;> exact ⟨by simp [Call.To, Call.party, accountCall], rfl⟩

theorem account_plain (server : StellarServer) (id : String) :
    (server.account id).Plain (Call.ReadsFrom [.web, .network]) := by
  obtain ⟨read, inquires⟩ := server.account_inquires id
  exact inquires.plain (server.accountCall_readsFrom id)

theorem account?_inquires {server : StellarServer} {id : String} {c : Call}
    {read : c.Reply → Checked StellarAccount} (inquires : (server.account id).Inquires c read) :
    (server.account? id).Inquires c fun reply => (read reply).tried >>= Answer.known none some := by
  have asks : server.account? id =
      (server.account id).attempt >>= fun answer => ofChecked (answer.known none some) := by
    refine congrArg ((server.account id).attempt >>= ·) (funext fun answer => ?_)
    rw [Answer.ofChecked_known]
    cases answer <;> rfl
  exact asks ▸ inquires.attempt.calculate (Answer.bounded_known none some)

theorem account?_bounded (server : StellarServer) (id : String) : (server.account? id).Bounded := by
  obtain ⟨read, inquires⟩ := server.account_inquires id
  exact (account?_inquires inquires).stays

theorem account?_plain (server : StellarServer) (id : String) :
    (server.account? id).Plain (Call.ReadsFrom [.web, .network]) := by
  obtain ⟨read, inquires⟩ := server.account_inquires id
  exact (account?_inquires inquires).plain (server.accountCall_readsFrom id)

end StellarServer

namespace Indexer

theorem coins_plain (x : Indexer) (address : String) :
    (x.coins address).Plain (Call.ReadsFrom [.web]) :=
  (x.coins_inquires address).plain (Call.get_readsFrom _ _ _)

theorem build_plain (x : Indexer) (transfer : Transfer) :
    (x.build transfer).Plain (Call.ReadsFrom [.web]) :=
  .bind (.calculation _) fun _ => .bind (.calculation _) fun _ =>
    .bind (x.coins_plain _) fun _ => .bind (.calculation _) fun _ => .pure _

theorem build_asks (x : Indexer) (transfer : Transfer) : (x.build transfer).Asks Call.Reads :=
  (x.build_plain transfer).reads

end Indexer

namespace Stellar

theorem operationFor_plain (x : Stellar) (destination : String) (amount : Decimal) :
    (x.operationFor destination amount).Plain (Call.ReadsFrom [.web, .network]) := by
  refine .bind (.bind (x.server.account?_plain _) fun _ => .pure _) fun known => ?_
  split
  · exact .pure _
  · exact .pure _

theorem build_plain (x : Stellar) (transfer : Transfer) :
    (x.build transfer).Plain (Call.ReadsFrom [.web, .network]) := by
  unfold build
  split
  · exact .fail _
  · exact .bind (x.server.account_plain _) fun _ => .bind (.calculation _) fun _ =>
      .bind (x.operationFor_plain _ _) fun _ => .pure _

theorem build_asks (x : Stellar) (transfer : Transfer) : (x.build transfer).Asks Call.Reads :=
  (x.build_plain transfer).reads

theorem maximum_plain (x : Stellar) (id : String) (rate : Decimal) :
    (x.maximum id rate).Plain (Call.ReadsFrom [.web, .network]) := by
  refine .bind (x.server.account?_plain _) fun known => ?_
  split
  · exact .calculation _
  · exact .pure _

theorem submit_plain (x : Stellar) (signed : SignedTransaction) :
    (x.submit signed).Plain (Call.To [.web, .network]) := by
  refine .bind ?_ fun _ => .pure _
  cases x.server with
  | external name =>
    exact .bind (.call _ (by simp [Call.To, Call.party])) fun answer => .ofAnswer answer
  | http base =>
    refine .bind ((inquires_exchange _).plain (Call.to_web _ _)) fun r => ?_
    simp only [decodeBody_eq]
    split
    · exact .calculation _
    · split
      · exact .calculation _
      · exact .fail _

end Stellar

namespace Evm

variable {P : Call → Prop} {x : Evm}
  (kind : ∀ method params, P (.http (Http.postJson x.url none (JsonRpc.request method params))))

include kind

theorem build_plain (transfer : Transfer) : (x.build transfer).Plain P := by
  unfold build
  split
  · exact .fail _
  · exact .bind (.calculation _) fun _ => .bind (.calculation _) fun _ =>
      .bind (JsonRpc.call_plain (kind _ _) _ _) fun _ => .bind (.calculation _) fun _ =>
        .bind (.calculation _) fun _ => .bind (.calculation _) fun _ => .pure _

theorem balance_plain (account : String) : (x.balance account).Plain P :=
  .bind (.calculation _) fun _ => .bind (JsonRpc.call_plain (kind _ _) _ _) fun _ =>
    .calculation _

theorem maximum_plain (account : String) (rate : Decimal) :
    (x.maximum account rate).Plain P :=
  .bind (balance_plain kind _) fun _ => .bind (.calculation _) fun _ => .calculation _

theorem submit_plain (signed : SignedTransaction) : (x.submit signed).Plain P := by
  unfold submit
  split
  · exact .fail _
  · exact .bind (JsonRpc.call_plain (kind _ _) _ _) fun _ => .pure _

end Evm

namespace ChainClient

abbrev Reached : Call → Prop := Call.To [.web, .network]

theorem build_plain (chain : ChainClient) (transfer : Transfer) :
    (chain.build transfer).Plain Reached := by
  cases chain with
  | external name currency =>
    exact .bind (.call _ (by simp [Call.To, Call.party])) fun answer => .ofAnswer answer
  | indexer currency base => exact .map ((Indexer.build_plain _ _).toward (by decide))
  | stellar server network => exact .map ((Stellar.build_plain _ _).toward (by decide))
  | evm currency url gasLimit => exact .map (Evm.build_plain (fun _ _ => Call.to_web _ _) _)

theorem maximum_plain (chain : ChainClient) (account : String) (rate : Decimal) :
    (chain.maximum account rate).Plain Reached := by
  cases chain with
  | external name currency =>
    exact .bind (.call _ (by simp [Call.To, Call.party])) fun answer => .ofAnswer answer
  | indexer currency base =>
    exact .bind ((Indexer.coins_plain _ _).toward (by decide)) fun _ => .pure _
  | stellar server network => exact (Stellar.maximum_plain _ _ _).toward (by decide)
  | evm currency url gasLimit => exact Evm.maximum_plain (fun _ _ => Call.to_web _ _) _ _

theorem submit_plain (chain : ChainClient) (signed : SignedTransaction) :
    (chain.submit signed).Plain Reached := by
  cases chain with
  | external name currency =>
    exact .bind (.call _ (by simp [Call.To, Call.party])) fun answer => .ofAnswer answer
  | indexer currency base =>
    refine .bind ((inquires_exchange _).plain (Call.to_web _ _)) fun r => ?_
    rw [decodeBody_eq]
    refine .bind (.calculation _) fun broadcast => ?_
    split
    · exact .pure _
    · exact .pure _
  | stellar server network => exact Stellar.submit_plain _ _
  | evm currency url gasLimit => exact Evm.submit_plain (fun _ _ => Call.to_web _ _) _

end ChainClient

end MultiWallet
