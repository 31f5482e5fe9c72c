import MultiWallet.Proofs.Parties

set_option autoImplicit false

namespace MultiWallet

open Dialogue

namespace FeeSource

variable {source : FeeSource} {currency : Currency}

def lookup? (source : FeeSource) (currency : Currency) : Option Call :=
  match source with
  | external => some (.feeSchedule currency)
  | http base =>
    match Http.refusal? (url base currency) with
    | some _ => none
    | none => some (.http (Http.get (url base currency) none))

def readOutcome (currency : Currency) (url : String) : Http.Outcome → Checked FeeSchedule
  | .unreachable => MultiWallet.fail (.feeLookup currency "error sending request")
  | .reply r =>
    if r.isError then MultiWallet.fail (.feeLookup currency (statusProblem r.status url))
    else
      orFail (.feeLookup currency "error decoding response body")
        ((Json.ofString r.body).bind (readSchedule currency))

theorem bounded_readOutcome (url : String) (outcome : Http.Outcome) :
    (readOutcome currency url outcome).Bounded := by
  cases outcome with
  | unreachable => exact Checked.bounded_fail _
  | reply r =>
    simp only [readOutcome]
    split
    · exact Checked.bounded_fail _
    · exact Checked.bounded_orFail _ _

theorem schedule_refused (none : source.lookup? currency = none) :
    ∃ cause, source.schedule currency = Dialogue.fail cause := by
  cases source with
  | external => cases none
  | http base =>
    cases refused : Http.refusal? (url base currency) with
    | none => simp [lookup?, refused] at none
    | some refusal => exact ⟨_, by simp only [schedule, refused]; rfl⟩

theorem schedule_inquires {c : Call} (looks : source.lookup? currency = some c) :
    ∃ read, (source.schedule currency).Inquires c read := by
  cases source with
  | external =>
    cases looks
    exact ⟨_, inquires_answer (c := .feeSchedule currency) fun reply => reply⟩
  | http base =>
    cases sent : Http.refusal? (url base currency) with
    | some refusal => simp [lookup?, sent] at looks
    | none =>
      simp only [lookup?, sent, Option.some.injEq] at looks
      subst looks
      refine ⟨readOutcome currency (url base currency), ?_, bounded_readOutcome _⟩
      simp only [schedule, sent]
      refine congrArg (ask _ >>= ·) (funext fun outcome => ?_)
      cases outcome with
      | unreachable => rfl
      | reply r =>
        simp only [readOutcome]
        split
        · rfl
        · cases (Json.ofString r.body).bind (readSchedule currency) <;> rfl

theorem run_schedule (source : FeeSource) (currency : Currency) (oracle : Oracle) (s : Session) :
    ∃ result, result.Bounded ∧ (source.schedule currency).run oracle s =
        (result, s.after (source.lookup? currency).toList) ∧
      (source.lookup? currency = none → ∃ cause, result = MultiWallet.fail cause) := by
  cases looks : source.lookup? currency with
  | none =>
    obtain ⟨cause, refused⟩ := schedule_refused looks
    exact ⟨_, Checked.bounded_fail cause, by rw [refused]; simp [MultiWallet.fail], fun _ => ⟨_, rfl⟩⟩
  | some c =>
    obtain ⟨read, inquires⟩ := schedule_inquires looks
    exact ⟨_, inquires.bounded _, inquires.run _ _, by simp⟩

theorem lookup_readsFrom {c : Call} (looks : source.lookup? currency = some c) :
    c.ReadsFrom [.web, .fees] := by
  cases source with
  | external =>
    cases looks
    exact ⟨by simp [Call.To, Call.party], rfl⟩
  | http base =>
    simp only [lookup?] at looks
    split at looks
    · cases looks
    · cases looks
      exact Call.get_readsFrom _ _ _

theorem schedule_plain (source : FeeSource) (currency : Currency) :
    (source.schedule currency).Plain (Call.ReadsFrom [.web, .fees]) := by
  cases looks : source.lookup? currency with
  | none =>
    obtain ⟨cause, refused⟩ := schedule_refused looks
    rw [refused]
    exact .fail cause
  | some c =>
    obtain ⟨read, inquires⟩ := schedule_inquires looks
    exact inquires.plain (lookup_readsFrom looks)

theorem schedule_asks (source : FeeSource) (currency : Currency) :
    (source.schedule currency).Asks Call.Reads := (source.schedule_plain currency).reads

theorem schedule_bounded (source : FeeSource) (currency : Currency) :
    (source.schedule currency).Bounded := by
  intro oracle s
  obtain ⟨result, bounded, run, -⟩ := source.run_schedule currency oracle s
  rw [run]
  exact bounded

end FeeSource

namespace Custodian

theorem find_plain {α : Type} (e : Endpoint) (path : String) (fields : List (String × String))
    (decode : Json → Option α) : (e.find path fields decode).Plain (Call.ReadsFrom [.web]) := by
  refine .bind ((inquires_exchange _).plain (Call.get_readsFrom _ _ _)) fun r => ?_
  split
  · exact .pure _
  · split
    · exact .fail _
    · rw [decodeBody_eq]
      exact .map (.calculation _)

theorem depositAddress_plain (custodian : Custodian) (currency : Currency) :
    (custodian.depositAddress currency).Plain (Call.ReadsFrom [.web, .custodian]) := by
  cases custodian with
  | external => exact .bind (.call _ ⟨by simp [Call.To, Call.party], rfl⟩) fun answer => .ofAnswer answer
  | http base token =>
    refine .bind ((find_plain _ _ _ _).mono fun _ kind => kind.widen (by decide)) fun found => ?_
    split
    · exact .pure _
    · exact .fail _

theorem depositAddress_asks (custodian : Custodian) (currency : Currency) :
    (custodian.depositAddress currency).Asks Call.Reads :=
  (custodian.depositAddress_plain currency).reads

end Custodian

namespace CryptoAccount

theorem sender_plain (a : CryptoAccount) :
    a.sender.Plain (Call.ReadsFrom [.web, .custodian, .account]) := by
  have address : (a.backend.receiveAddress a.currency).Plain
      (Call.ReadsFrom [.web, .custodian, .account]) := by
    cases a.backend with
    | onChain chain address => exact .pure _
    | trading custodian =>
      exact (custodian.depositAddress_plain _).mono fun _ kind => kind.widen (by decide)
    | addressOnly address => exact .pure _
    | external name => exact .bind (.call _ ⟨by simp [Call.To, Call.party], rfl⟩) fun answer => .ofAnswer answer
  exact .bind (.bind address fun _ => .pure _) fun _ => .pure _

theorem sender_asks (a : CryptoAccount) : a.sender.Asks Call.Reads := a.sender_plain.reads

end CryptoAccount

end MultiWallet
