import MultiWallet.Proofs.Chain.Absence
import MultiWallet.Proofs.Chain.Rate
import MultiWallet.Proofs.Chain.Reserve

set_option autoImplicit false

namespace MultiWallet

open Dialogue

variable {oracle : Oracle} {s t : Session}

@[simp] theorem Answer.tried_checked {α : Type} (answer : Answer α) :
    answer.checked.tried = .ok answer := by
  cases answer <;> rfl

def Answer.Missing {α : Type} (answer : Answer α) : Prop :=
  ∃ cause, answer = .error cause ∧ cause.isNotFound

namespace StellarServer

def readAccount : Http.Outcome → Answer StellarAccount
  | .unreachable => .error (.http none)
  | .reply r =>
    if r.isSuccess then
      match (Json.ofString r.body).bind StellarAccount.ofJson? with
      | some account => .ok account
      | none => .error (.http none)
    else .error (.ledger r.status r.body)

theorem checked_readAccount (outcome : Http.Outcome) :
    (readAccount outcome).checked = outcome.heard >>= Http.Reply.taken StellarAccount.ofJson? := by
  cases outcome with
  | unreachable => rfl
  | reply r =>
    change _ = r.taken StellarAccount.ofJson?
    simp only [readAccount, Http.Reply.taken, Http.Reply.decode]
    split
    · cases (Json.ofString r.body).bind StellarAccount.ofJson? <;> rfl
    · rfl

def answer (server : StellarServer) (oracle : Oracle) (calls : List Call) (id : String) :
    Answer StellarAccount :=
  match server with
  | external name => oracle calls (.stellarAccount name id)
  | http base => readAccount (oracle calls (.http (Http.get (accountUrl base id) none)))

theorem run_account (server : StellarServer) (id : String) (oracle : Oracle) (s : Session) :
    (server.account id).run oracle s =
      ((server.answer oracle s.calls id).checked, s.after [server.accountCall id]) := by
  cases server with
  | external name =>
    exact (inquires_answer (c := .stellarAccount name id) fun reply => reply).run oracle s
  | http base =>
    rw [(account_inquires_page base id).run, ← checked_readAccount]
    rfl

theorem run_account? (server : StellarServer) (id : String) (oracle : Oracle) (s : Session) :
    (server.account? id).run oracle s =
      ((server.answer oracle s.calls id).known none some, s.after [server.accountCall id]) := by
  have tried := run_attempt_eq (server.account id) oracle s
  rw [run_account, Answer.tried_checked] at tried
  rw [account?, run_bind_ok tried]
  cases server.answer oracle s.calls id with
  | ok account => rfl
  | error cause =>
    simp only [Answer.known]
    split <;> rfl

end StellarServer

namespace StellarAccount

variable {a : StellarAccount}

theorem nextSequence_overflow_iff :
    a.nextSequence = .error .overflow ↔
      Text.readSigned (2 ^ 63 - 1) a.sequence.toList = .ok (2 ^ 63 - 1) := by
  unfold nextSequence
  cases read : Text.readSigned (2 ^ 63 - 1) a.sequence.toList with
  | error e => simp [fail]
  | ok n =>
    have most := Text.readSigned_le read
    simp only [Except.ok.injEq]
    split
    next inRange => exact iff_of_false (by simp) (by omega)
    next last => exact iff_of_true rfl (by omega)

theorem overflows_iff :
    a.Overflows ↔ ∃ native, a.nativeBalance = .ok native ∧
      (2 ^ 32 ≤ 2 + a.subentries.toNat ∨
        Decimal.overflowThreshold ≤ a.reserved - native.toRat) := by
  refine exists_congr fun native => and_congr_right fun _ => ?_
  obtain ⟨large, -⟩ | ⟨inRange, minimum, kept, value⟩ := a.minimumBalance_cases
  · exact iff_of_true (.inl large) (.inl large)
  · refine or_congr_right ?_
    have most := (abs_lt.1 native.abs_toRat_lt_overflowThreshold).2
    have reserved : 0 ≤ a.reserved := by
      rw [reserved]
      positivity
    -- A balance above what is kept is no farther from it than from zero.
    have below : Decimal.overflowThreshold ≤ |native.toRat - a.reserved| ↔
        Decimal.overflowThreshold ≤ a.reserved - native.toRat := by
      rw [le_abs']
      constructor
      · rintro (far | far) <;> linarith
      · intro far
        exact .inl (by linarith)
    rw [← below, ← value, ← Decimal.sub?_eq_none_iff]
    constructor
    · rintro ⟨_, again, refused⟩
      cases kept.symm.trans again
      exact refused
    · intro refused
      exact ⟨minimum, kept, refused⟩

end StellarAccount

namespace Stellar

variable {x : Stellar} {transfer : Transfer}

def sourceAnswer (x : Stellar) (transfer : Transfer) (oracle : Oracle) (s : Session) :
    Answer StellarAccount := x.server.answer oracle s.calls transfer.source

def destinationAnswer (x : Stellar) (transfer : Transfer) (oracle : Oracle) (s : Session) :
    Answer StellarAccount :=
  x.server.answer oracle (s.calls ++ [x.server.accountCall transfer.source]) transfer.destination

def lookups (x : Stellar) (transfer : Transfer) : List Call :=
  [x.server.accountCall transfer.source, x.server.accountCall transfer.destination]

def chosen (destination : String) (value : Decimal) (found : Answer StellarAccount) :
    Checked LedgerOperation :=
  found.known (.createAccount destination value) fun _ => .payment destination value

def assemble (x : Stellar) (transfer : Transfer) (account : StellarAccount) (sequence : ℤ)
    (operation : LedgerOperation) : LedgerTransaction :=
  { network := x.network, passphrase := x.network.passphrase, source := account.id, sequence
    feeStroops := baseFee transfer.rate, memo := transfer.memo, operations := [operation] }

theorem run_operationFor_answer (x : Stellar) (destination : String) (value : Decimal)
    (oracle : Oracle) (s : Session) :
    (x.operationFor destination value).run oracle s =
      (chosen destination value (x.server.answer oracle s.calls destination),
        s.after [x.server.accountCall destination]) := by
  rw [operationFor, exists?, bind_assoc, run_bind, x.server.run_account?, chosen]
  cases x.server.answer oracle s.calls destination with
  | ok account => rfl
  | error cause =>
    simp only [Answer.known]
    by_cases absent : cause.isNotFound <;> simp [absent, fail]

theorem run_build_refused (lumens : transfer.amount.currency = .xlm) {cause : Failure}
    (refused : x.sourceAnswer transfer oracle s = .error cause) :
    (x.build transfer).run oracle s =
      (fail cause, s.after [x.server.accountCall transfer.source]) := by
  have asked := x.server.run_account transfer.source oracle s
  rw [← sourceAnswer, refused] at asked
  rw [build, if_neg (not_not.2 lumens)]
  exact run_bind_error asked _

theorem run_build_asked (lumens : transfer.amount.currency = .xlm) {account : StellarAccount}
    (found : x.sourceAnswer transfer oracle s = .ok account) :
    (x.build transfer).run oracle s =
      (do
        let sequence ← account.nextSequence
        let operation ← x.operationFor transfer.destination transfer.amount.value
        return x.assemble transfer account sequence operation : Dialogue LedgerTransaction).run
          oracle (s.after [x.server.accountCall transfer.source]) := by
  have asked := x.server.run_account transfer.source oracle s
  rw [← sourceAnswer, found] at asked
  rw [build, if_neg (not_not.2 lumens)]
  exact run_bind_ok asked _

theorem run_build_unnumbered (lumens : transfer.amount.currency = .xlm) {account : StellarAccount}
    {halt : Halt} (found : x.sourceAnswer transfer oracle s = .ok account)
    (unnumbered : account.nextSequence = .error halt) :
    (x.build transfer).run oracle s =
      (.error halt, s.after [x.server.accountCall transfer.source]) := by
  rw [run_build_asked lumens found, unnumbered]
  rfl

theorem run_build_found (lumens : transfer.amount.currency = .xlm) {account : StellarAccount}
    {sequence : ℤ} (found : x.sourceAnswer transfer oracle s = .ok account)
    (numbered : account.nextSequence = .ok sequence) :
    (x.build transfer).run oracle s =
      ((chosen transfer.destination transfer.amount.value
          (x.destinationAnswer transfer oracle s)).map (x.assemble transfer account sequence),
        s.after (x.lookups transfer)) := by
  have operation := x.run_operationFor_answer transfer.destination transfer.amount.value oracle
    (s.after [x.server.accountCall transfer.source])
  rw [Session.after_calls, ← destinationAnswer, Session.after_after] at operation
  rw [run_build_asked lumens found, numbered, liftM_ok_bind, bind_pure_comp, run_map, operation]
  rfl

theorem chosen_eq_ok {destination : String} {value : Decimal} {found : Answer StellarAccount}
    {operation : LedgerOperation} :
    chosen destination value found = .ok operation ↔
      operation = .createAccount destination value ∧ found.Missing ∨
        operation = .payment destination value ∧ ∃ account, found = .ok account := by
  rw [eq_comm (a := operation), eq_comm (a := operation)]
  cases found with
  | ok account => simp [chosen, Answer.known, Answer.Missing]
  | error cause =>
    cases absent : cause.isNotFound <;>
      simp [chosen, Answer.known, Answer.Missing, absent, fail]

structure Assembled (x : Stellar) (transfer : Transfer) (source : StellarAccount)
    (destination : Answer StellarAccount) (tx : LedgerTransaction) : Prop where
  network : tx.network = x.network
  passphrase : tx.passphrase = x.network.passphrase
  payer : tx.source = source.id
  successor : Text.readSigned (2 ^ 63 - 1) source.sequence.toList = .ok (tx.sequence - 1)
  inRange : tx.sequence < 2 ^ 63
  fee : tx.feeStroops.toNat =
    if transfer.rate.toRat < 2 ^ 32 then max ⌊transfer.rate.toRat⌋₊ lowestFee else lowestFee
  memo : tx.memo = transfer.memo
  single : tx.operations = [.createAccount transfer.destination transfer.amount.value] ∨
    tx.operations = [.payment transfer.destination transfer.amount.value]
  creates : tx.operations = [.createAccount transfer.destination transfer.amount.value] ↔
    destination.Missing
  pays : tx.operations = [.payment transfer.destination transfer.amount.value] ↔
    ∃ account, destination = .ok account

theorem assembled_iff {account : StellarAccount} {destination : Answer StellarAccount}
    {tx : LedgerTransaction} :
    x.Assembled transfer account destination tx ↔ ∃ sequence operation,
      account.nextSequence = .ok sequence ∧
        chosen transfer.destination transfer.amount.value destination = .ok operation ∧
          tx = x.assemble transfer account sequence operation := by
  constructor
  · intro built
    have same (operation : LedgerOperation) (single : tx.operations = [operation]) :
        tx = x.assemble transfer account tx.sequence operation := by
      have fee : tx.feeStroops = baseFee transfer.rate :=
        UInt32.toNat_inj.1 (built.fee.trans (toNat_baseFee _).symm)
      obtain ⟨network, passphrase, source, sequence, stroops, memo, operations⟩ := tx
      simp only at single fee
      simp only [assemble, LedgerTransaction.mk.injEq]
      exact ⟨built.network, built.passphrase, built.payer, trivial, fee, built.memo, single⟩
    have numbered := StellarAccount.nextSequence_eq_ok.2 ⟨built.successor, built.inRange⟩
    rcases built.single with creates | pays
    · exact ⟨_, _, numbered, chosen_eq_ok.2 (.inl ⟨rfl, built.creates.1 creates⟩), same _ creates⟩
    · exact ⟨_, _, numbered, chosen_eq_ok.2 (.inr ⟨rfl, built.pays.1 pays⟩), same _ pays⟩
  · rintro ⟨sequence, operation, numbered, choice, rfl⟩
    obtain ⟨successor, inRange⟩ := StellarAccount.nextSequence_eq_ok.1 numbered
    have fee := toNat_baseFee transfer.rate
    rcases chosen_eq_ok.1 choice with ⟨rfl, missing⟩ | ⟨rfl, present⟩
    · refine ⟨rfl, rfl, rfl, successor, inRange, fee, rfl, .inl rfl, iff_of_true rfl missing,
        iff_of_false (by simp [assemble]) ?_⟩
      rintro ⟨account, rfl⟩
      obtain ⟨cause, refused, -⟩ := missing
      cases refused
    · refine ⟨rfl, rfl, rfl, successor, inRange, fee, rfl, .inr rfl,
        iff_of_false (by simp [assemble]) ?_, iff_of_true rfl present⟩
      rintro ⟨cause, refused, -⟩
      obtain ⟨account, found⟩ := present
      cases found.symm.trans refused

/-- What is built carries the transfer in one operation, which creates the destination where it is
not found and pays it where it is; any other word on the source or the destination is passed on, and
nothing is built. -/
theorem build_looks_up (lumens : transfer.amount.currency = .xlm) (oracle : Oracle) (s : Session) :
    (∀ tx t, (x.build transfer).run oracle s = (.ok tx, t) ↔
      t = s.after (x.lookups transfer) ∧ ∃ account,
        x.sourceAnswer transfer oracle s = .ok account ∧
          x.Assembled transfer account (x.destinationAnswer transfer oracle s) tx) ∧
    (∀ cause, x.sourceAnswer transfer oracle s = .error cause →
      (x.build transfer).run oracle s =
        (fail cause, s.after [x.server.accountCall transfer.source])) ∧
    ∀ account sequence cause, x.sourceAnswer transfer oracle s = .ok account →
      account.nextSequence = .ok sequence →
      x.destinationAnswer transfer oracle s = .error cause → cause.isNotFound = false →
        (x.build transfer).run oracle s = (fail cause, s.after (x.lookups transfer)) := by
  refine ⟨?_, fun cause refused => run_build_refused lumens refused, ?_⟩
  · intro tx t
    simp only [assembled_iff]
    cases found : x.sourceAnswer transfer oracle s with
    | error cause =>
      rw [run_build_refused lumens found]
      exact iff_of_false (by simp [fail]) (by simp)
    | ok account =>
      cases numbered : account.nextSequence with
      | error halt =>
        rw [run_build_unnumbered lumens found numbered]
        exact iff_of_false (by simp) (by simp [numbered])
      | ok sequence =>
        rw [run_build_found lumens found numbered]
        cases chosen transfer.destination transfer.amount.value
          (x.destinationAnswer transfer oracle s) with
        | error halt => exact iff_of_false (by simp [Except.map]) (by simp)
        | ok operation => simp [Except.map, numbered, eq_comm, and_comm]
  · intro account sequence cause found numbered refused other
    rw [run_build_found lumens found numbered, refused, chosen, Answer.known, other]
    rfl

def ledger : Stellar := { server := .external "ledger", network := .test }

def homeward : Transfer :=
  { source := "GSRC", destination := "GSRC", amount := { currency := .xlm, value := .ofUInt64 1 }
    rate := .ofUInt64 200, memo := some "home" }

def keeper : StellarAccount :=
  { id := "GSRC", sequence := "41", subentries := 0
    balances := [{ balance := "10", assetType := "native", assetCode := none }] }

def forgetful (status : Nat) : Oracle
  | [], .stellarAccount _ _ => .ok keeper
  | _, .stellarAccount _ _ => .error (.ledger status "gone")
  | _, c => c.refused

-- The second lookup decides on what is built, whatever the first has said of the same account.
theorem build_looks_up_forgetful :
    homeward.amount.currency = .xlm ∧
      ledger.Assembled homeward keeper (.error (.ledger 404 "gone"))
        { network := .test, passphrase := Network.test.passphrase, source := "GSRC", sequence := 42
          feeStroops := 200, memo := some "home"
          operations := [.createAccount "GSRC" (.ofUInt64 1)] } ∧
      (ledger.build homeward).run (forgetful 503) .empty =
        (fail (.ledger 503 "gone"), Session.empty.after (ledger.lookups homeward)) ∧
      (ledger.build homeward).run (fun _ c => c.refused) .empty =
        (fail (.internal "nobody answers"),
          Session.empty.after [ledger.server.accountCall "GSRC"]) := by
  have source (status : Nat) :
      ledger.sourceAnswer homeward (forgetful status) .empty = .ok keeper := rfl
  have numbered : keeper.nextSequence = .ok 42 := by decide +kernel
  refine ⟨rfl, ?_, ?_, ?_⟩
  · have created : (ledger.build homeward).run (forgetful 404) .empty =
        (.ok (ledger.assemble homeward keeper 42 (.createAccount "GSRC" (.ofUInt64 1))),
          Session.empty.after (ledger.lookups homeward)) := run_build_found rfl (source 404) numbered
    obtain ⟨-, account, found, built⟩ :=
      ((@build_looks_up ledger homeward rfl (forgetful 404) .empty).1 _ _).1 created
    cases found
    exact built
  · exact (@build_looks_up ledger homeward rfl (forgetful 503) .empty).2.2 keeper 42 _ (source 503)
      numbered rfl rfl
  · exact (@build_looks_up ledger homeward rfl _ .empty).2.1 _ rfl

/-- Building leaves the range of the numbers only behind the last sequence number, and the most that
can be paid does where what the account keeps cannot be counted, or what it holds is too far below
that. -/
theorem overflow_iff (x : Stellar) (oracle : Oracle) (s : Session) :
    (∀ transfer, ((x.build transfer).run oracle s).1 = .error .overflow ↔
      transfer.amount.currency = .xlm ∧ ∃ account, x.sourceAnswer transfer oracle s = .ok account ∧
        Text.readSigned (2 ^ 63 - 1) account.sequence.toList = .ok (2 ^ 63 - 1)) ∧
    ∀ id rate, ((x.maximum id rate).run oracle s).1 = .error .overflow ↔
      ∃ account native, x.server.answer oracle s.calls id = .ok account ∧
        account.nativeBalance = .ok native ∧
          (2 ^ 32 ≤ 2 + account.subentries.toNat ∨
            Decimal.overflowThreshold ≤ account.reserved - native.toRat) := by
  constructor
  · intro transfer
    by_cases lumens : transfer.amount.currency = .xlm
    · rw [and_iff_right lumens]
      cases found : x.sourceAnswer transfer oracle s with
      | error cause =>
        rw [run_build_refused lumens found]
        exact iff_of_false (by simp [fail]) (by simp)
      | ok account =>
        simp only [Except.ok.injEq, exists_eq_left', ← StellarAccount.nextSequence_overflow_iff]
        cases numbered : account.nextSequence with
        | error halt => simp [run_build_unnumbered lumens found numbered]
        | ok sequence =>
          rw [run_build_found lumens found numbered]
          refine iff_of_false ?_ (by simp)
          exact (Answer.bounded_known _ _ _).bind fun operation => Checked.bounded_ok _
    · rw [build, if_pos lumens]
      exact iff_of_false (by simp) (by simp [lumens])
  · intro id rate
    rw [maximum_overflow_iff, x.server.run_account?]
    simp only [StellarAccount.overflows_iff]
    cases x.server.answer oracle s.calls id with
    | ok account => simp [Answer.known]
    | error cause =>
      refine iff_of_false ?_ (by simp)
      simp only [Answer.known]
      split <;> simp

def answering (account : StellarAccount) : Oracle
  | _, .stellarAccount _ _ => .ok account
  | _, c => c.refused

-- The last sequence number, as many entries as can be counted, a debt as large as can be written.
theorem overflow_answered :
    ((ledger.build homeward).run (answering { keeper with sequence := "9223372036854775807" })
        .empty).1 = .error .overflow ∧
      ((ledger.maximum "GSRC" (.ofUInt64 100)).run
        (answering { keeper with subentries := 4294967294 }) .empty).1 = .error .overflow ∧
      ((ledger.maximum "GSRC" (.ofUInt64 100)).run
        (answering { keeper with balances := [{ balance := "-79228162514264337593543950335"
                                                assetType := "native", assetCode := none }] })
        .empty).1 = .error .overflow := by
  refine ⟨by decide +kernel, by decide +kernel, by decide +kernel⟩

end Stellar

end MultiWallet
