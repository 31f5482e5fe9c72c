import MultiWallet.Proofs.Queries

set_option autoImplicit false

namespace MultiWallet

open Dialogue

def UnsignedTransaction.memo? : UnsignedTransaction → Option String
  | .ledger tx => tx.memo
  | .evm _ | .coins _ => none

namespace Signer

def request (signer : Signer) (tx : UnsignedTransaction) : Call :=
  match signer with
  | external => .sign tx
  | http url => .http (Http.postJson url none (.object [("transaction", tx.toJson)]))

theorem sign_inquires (signer : Signer) (tx : UnsignedTransaction) :
    ∃ read, (signer.sign tx).Inquires (signer.request tx) read := by
  cases signer with
  | external => exact ⟨_, inquires_answer (c := .sign tx) fun reply => reply⟩
  | http url =>
    let read (r : Http.Reply) : Checked SignedTransaction :=
      if r.isSuccess then r.decode (SignedTransaction.ofSignature? tx.currency)
      else MultiWallet.fail (.signing (Http.statusText r.status ++ ": " ++ r.body))
    have reads : (Signer.http url).sign tx = (do
        let r ← exchange (Http.postJson url none (.object [("transaction", tx.toJson)]))
        ofChecked (read r)) := by
      refine congrArg (exchange _ >>= ·) (funext fun r => ?_)
      simp only [decodeBody_eq, read]
      split <;> rfl
    have bounded (r : Http.Reply) : (read r).Bounded := by
      simp only [read]
      split
      · exact Checked.bounded_decode _ _
      · exact Checked.bounded_fail _
    exact ⟨_, reads ▸ (inquires_exchange _).calculate bounded⟩

theorem sign_plain (signer : Signer) (tx : UnsignedTransaction) :
    (signer.sign tx).Plain fun c => c = signer.request tx := by
  obtain ⟨read, inquires⟩ := signer.sign_inquires tx
  exact inquires.plain rfl

theorem request_to (signer : Signer) (tx : UnsignedTransaction) :
    (signer.request tx).To [.web, .signer] := by
  cases signer <;> simp [Call.To, Call.party, request]

theorem sign_traces (signer : Signer) (tx : UnsignedTransaction) :
    (signer.sign tx).Traces fun _ calls => calls = [signer.request tx] := by
  obtain ⟨read, inquires⟩ := signer.sign_inquires tx
  exact inquires.traces

-- The transactions may differ in what the request leaves out; only the hash is read below.
theorem sign_alike {signer : Signer} {tx tx' : UnsignedTransaction}
    (same : signer.request tx = signer.request tx') :
    Alike SignedTransaction.hash (signer.sign tx) (signer.sign tx') := by
  cases signer with
  | external =>
    cases same
    exact (alike_ask _).bind_same fun answer => alike_ofAnswer _ _
  | http url =>
    have requests := Call.http.inj same
    unfold sign
    dsimp only
    rw [requests]
    refine (alike_exchange _).bind_same fun r => ?_
    split
    · refine alike_decodeBody _ r fun j => ?_
      simp [SignedTransaction.ofSignature?]
    · exact alike_ofChecked rfl

def Asked (signer : Signer) (c : Call) : Prop := ∃ tx, c = signer.request tx

theorem not_asked_of_reads {signer : Signer} {c : Call} (reads : c.Reads) : ¬ signer.Asked c := by
  rintro ⟨tx, rfl⟩
  cases signer <;> cases reads

-- A form starts with the name of its first field, and never like an object.
theorem not_asked_form (signer : Signer) (url envelope : String) :
    ¬ signer.Asked (.http (Http.postForm url [("tx", envelope)])) := by
  rintro ⟨tx, same⟩
  cases signer with
  | external => cases same
  | http other =>
    have field : Http.encodeForm "tx" = "tx" := by decide
    have bodies := congrArg (fun request => request.body.toList.head?) (Call.http.inj same)
    simp [Http.postForm, Http.postJson, Http.query, Json.render, Json.write, field] at bodies

end Signer

theorem Payment.settle_silent (amount : Amount) (receipt : Receipt) :
    (Payment.settle amount receipt).Silent := by
  unfold settle
  split
  · exact .bind (asks_count _) fun _ => asks_pure _
  · exact .bind (asks_count _) fun _ => asks_fail _

end MultiWallet
