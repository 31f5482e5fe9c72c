import MultiWallet.Proofs.Chain.Inquiry

set_option autoImplicit false

namespace MultiWallet

open Dialogue

/-- The page cannot be read. If it is missing, a value may stand in for it. -/
def Http.Reply.denied {α : Type} (absent : Option α) (r : Http.Reply) : Checked α :=
  match absent with
  | some a => if r.status = 404 then .ok a else fail (.ledger r.status r.body)
  | none => fail (.ledger r.status r.body)

theorem Http.Reply.denied_of_ne {α : Type} {r : Http.Reply} (status : r.status ≠ 404)
    (absent : Option α) : r.denied absent = fail (.ledger r.status r.body) := by
  cases absent with
  | none => rfl
  | some a => exact if_neg status

theorem Http.Reply.taken_of_failed {α : Type} {r : Http.Reply} (failed : r.isSuccess = false)
    (read : Json → Option α) : r.taken read = fail (.ledger r.status r.body) := by
  simp [Http.Reply.taken, failed]

namespace Dialogue

variable {α β : Type} {request : Http.Request} {absent : Option α} {d : Dialogue α}

def Consults (request : Http.Request) (absent : Option α) (d : Dialogue α) : Prop :=
  ∀ (oracle : Oracle) (s : Session) (r : Http.Reply),
    oracle s.calls (.http request) = Http.Outcome.reply r → r.isSuccess = false →
      d.run oracle s = (r.denied absent, s.after [.http request])

theorem Consults.demand (consults : d.Consults request none) (f : α → Dialogue β) :
    (d >>= f).Consults request none := fun oracle s r answered failed =>
  run_bind_error (consults oracle s r answered failed) f

theorem Consults.bind {a : α} {b : β} {f : α → Dialogue β} (consults : d.Consults request (some a))
    (empty : f a = pure b) : (d >>= f).Consults request (some b) := by
  intro oracle s r answered failed
  have run := consults oracle s r answered failed
  by_cases status : r.status = 404
  · simp only [Http.Reply.denied, if_pos status] at run ⊢
    rw [run_bind_ok run, empty, run_pure]
  · rw [Http.Reply.denied_of_ne status] at run ⊢
    exact run_bind_error run f

/-- A page that cannot be read, and is not missing, is the last thing asked for. It is what comes of
the dialogue. -/
def Heeds (d : Dialogue α) : Prop :=
  ∀ (oracle : Oracle) (s : Session), ∃ calls, (d.run oracle s).2.calls = s.calls ++ calls ∧
    ∀ before request r later, calls = before ++ .http request :: later →
      oracle (s.calls ++ before) (.http request) = Http.Outcome.reply r → r.isSuccess = false →
      r.status ≠ 404 → later = [] ∧ (d.run oracle s).1 = MultiWallet.fail (.ledger r.status r.body)

theorem heeds_ofChecked (result : Checked α) : (ofChecked result).Heeds :=
  fun _ _ => ⟨[], (List.append_nil _).symm, fun _ _ _ _ cut => by simp at cut⟩

theorem heeds_pure (a : α) : (pure a : Dialogue α).Heeds := heeds_ofChecked (.ok a)

theorem Heeds.bind {f : α → Dialogue β} (first : d.Heeds) (rest : ∀ a, (f a).Heeds) :
    (d >>= f).Heeds := by
  intro oracle s
  obtain ⟨earlier, log, heeds⟩ := first oracle s
  rcases run : d.run oracle s with ⟨halt | a, t⟩ <;> rw [run] at log heeds
  · rw [run_bind_error run]
    refine ⟨earlier, log, fun before request r later cut answered failed status => ?_⟩
    obtain ⟨nothing, same⟩ := heeds before request r later cut answered failed status
    cases same
    exact ⟨nothing, rfl⟩
  · rw [run_bind_ok run]
    obtain ⟨more, further, heeded⟩ := rest a oracle t
    refine ⟨earlier ++ more, by rw [further, log, List.append_assoc], ?_⟩
    intro before request r later cut answered failed status
    rcases List.append_eq_append_iff.1 cut with ⟨between, rfl, same⟩ | ⟨between, apart, same⟩
    · refine heeded between request r later same ?_ failed status
      rwa [log, List.append_assoc]
    · cases between with
      | nil =>
        obtain rfl : earlier = before := by simpa using apart
        refine heeded [] request r later same.symm ?_ failed status
        rwa [log, List.append_nil]
      | cons c between =>
        -- The first part has ended well, so all its pages could be read.
        obtain ⟨rfl, -⟩ := List.cons.inj same
        cases (heeds before request r between apart answered failed status).2

theorem Heeds.map {f : α → β} (heeds : d.Heeds) : (f <$> d).Heeds := by
  rw [← bind_pure_comp]
  exact heeds.bind fun a => heeds_pure (f a)

variable {read : Http.Outcome → Checked α}

theorem Inquires.consults (inquires : d.Inquires (.http request) read)
    (denies : ∀ r : Http.Reply, r.isSuccess = false → read (.reply r) = r.denied absent) :
    d.Consults request absent := by
  intro oracle s r answered failed
  rw [inquires.run, answered, denies r failed]

theorem Inquires.heeds (inquires : d.Inquires (.http request) read)
    (denies : ∀ r : Http.Reply, r.isSuccess = false → read (.reply r) = r.denied absent) :
    d.Heeds := by
  intro oracle s
  refine ⟨[.http request], by rw [inquires.run, Session.after_calls], ?_⟩
  intro before asked r later cut answered failed status
  obtain ⟨rfl, same⟩ : before = [] ∧ [Call.http request] = .http asked :: later := by
    cases before with
    | nil => exact ⟨rfl, cut⟩
    | cons c before => simp at cut
  cases same
  rw [List.append_nil] at answered
  rw [inquires.consults denies oracle s r answered failed, Http.Reply.denied_of_ne status]
  exact ⟨rfl, rfl⟩

end Dialogue

namespace Indexer

variable {α : Type}

theorem readFound_denied (read : Json → Option α) {r : Http.Reply} (failed : r.isSuccess = false) :
    (Http.Outcome.heard (.reply r) >>= readFound read) = r.denied (some none) := by
  change readFound read r = r.denied (some none)
  unfold readFound Http.Reply.denied
  split
  · rfl
  · rw [Http.Reply.taken_of_failed failed]
    rfl

theorem find_consults (x : Indexer) (path : String) (read : Json → Option α) :
    (x.find path read).Consults (Http.get (x.base ++ path) none) (some none) :=
  (x.find_inquires path read).consults fun _ => readFound_denied read

theorem find_heeds (x : Indexer) (path : String) (read : Json → Option α) :
    (x.find path read).Heeds :=
  (x.find_inquires path read).heeds fun _ => readFound_denied read

theorem coins_consults (x : Indexer) (address : String) :
    (x.coins address).Consults (Http.get (x.base ++ ("/api/v2/utxo/" ++ address)) none) (some []) :=
  (x.find_consults _ _).bind rfl

theorem balance_consults (x : Indexer) (address : String) :
    (x.balance address).Consults (Http.get (x.base ++ ("/api/v2/address/" ++ address)) none)
      (some (.zero x.currency)) :=
  (x.find_consults _ _).bind rfl

theorem history_consults (x : Indexer) (address : String) :
    (x.history address).Consults
      (Http.get (x.base ++ ("/api/v2/address/" ++ address ++ "?details=txs")) none) (some []) :=
  (x.find_consults _ _).bind rfl

theorem maximum_consults (x : Indexer) (address : String) (rate : Decimal) :
    (x.maximum address rate).Consults (Http.get (x.base ++ ("/api/v2/utxo/" ++ address)) none)
      (some (.zero x.currency)) := by
  have nothing : Amount.ofMinor x.currency (.ofNat (Coin.sweep [] (Coin.wholeRate rate))) =
      .zero x.currency := by
    cases x.currency <;> rfl
  exact (x.coins_consults address).bind (congrArg pure nothing)

theorem build_heeds (x : Indexer) (transfer : Transfer) : (x.build transfer).Heeds :=
  .bind (heeds_ofChecked _) fun _ => .bind (heeds_ofChecked _) fun _ =>
    .bind (.bind (x.find_heeds _ _) fun _ => heeds_ofChecked _) fun _ =>
      .bind (heeds_ofChecked _) fun _ => heeds_pure _

end Indexer

namespace StellarServer

def operationsUrl (base id : String) : String :=
  accountUrl base id ++ "/operations?" ++ Http.query [("order", "desc"), ("limit", "50")]

variable {α β : Type} (read : Json → Option α) (base id : String)

theorem taken_denied {r : Http.Reply} (failed : r.isSuccess = false) :
    (Http.Outcome.heard (.reply r) >>= Http.Reply.taken read) = r.denied none :=
  Http.Reply.taken_of_failed failed _

theorem known_denied (absent : β) (view : α → β) {r : Http.Reply} (failed : r.isSuccess = false) :
    ((Http.Outcome.heard (.reply r) >>= Http.Reply.taken read).tried >>= Answer.known absent view) =
      r.denied (some absent) := by
  rw [taken_denied read failed]
  by_cases status : r.status = 404
  · simp only [Http.Reply.denied, if_pos status]
    exact if_pos (beq_iff_eq.2 status)
  · simp only [Http.Reply.denied, if_neg status]
    exact if_neg fun same => status (beq_iff_eq.1 same)

theorem account_inquires_page :
    ((http base).account id).Inquires (.http (Http.get (accountUrl base id) none))
      fun outcome => outcome.heard >>= Http.Reply.taken StellarAccount.ofJson? :=
  taken_inquires _ _

theorem account_consults :
    ((http base).account id).Consults (Http.get (accountUrl base id) none) none :=
  (account_inquires_page base id).consults fun _ => taken_denied _

theorem account_heeds : ((http base).account id).Heeds :=
  (account_inquires_page base id).heeds fun _ => taken_denied _

theorem account?_consults :
    ((http base).account? id).Consults (Http.get (accountUrl base id) none) (some none) :=
  (account?_inquires (account_inquires_page base id)).consults fun _ => known_denied _ none some

theorem account?_heeds : ((http base).account? id).Heeds :=
  (account?_inquires (account_inquires_page base id)).heeds fun _ => known_denied _ none some

theorem operations_inquires_page :
    ((http base).operations id).Inquires (.http (Http.get (operationsUrl base id) none))
      fun outcome => outcome.heard >>= Http.Reply.taken readPage :=
  taken_inquires _ _

end StellarServer

namespace Stellar

variable {base : String} {network : Network}

theorem exists_consults (id : String) :
    (({ server := .http base, network } : Stellar).exists? id).Consults
      (Http.get (StellarServer.accountUrl base id) none) (some false) :=
  (StellarServer.account?_consults base id).bind rfl

theorem balance_consults (id : String) :
    (({ server := .http base, network } : Stellar).balance id).Consults
      (Http.get (StellarServer.accountUrl base id) none) (some (.zero .xlm)) :=
  (StellarServer.account?_consults base id).bind rfl

theorem maximum_consults (id : String) (rate : Decimal) :
    (({ server := .http base, network } : Stellar).maximum id rate).Consults
      (Http.get (StellarServer.accountUrl base id) none) (some (.zero .xlm)) :=
  (StellarServer.account?_consults base id).bind rfl

theorem history_consults (id : String) :
    (({ server := .http base, network } : Stellar).history id).Consults
      (Http.get (StellarServer.operationsUrl base id) none) (some []) := by
  have asks : ({ server := .http base, network } : Stellar).history id =
      ((StellarServer.http base).operations id).attempt >>= fun answer =>
        ofChecked (answer.known [] fun found => found.map StellarOperation.toEntry) := by
    refine congrArg (((StellarServer.http base).operations id).attempt >>= ·)
      (funext fun answer => ?_)
    rw [Answer.ofChecked_known]
    cases answer <;> rfl
  rw [asks]
  exact ((StellarServer.operations_inquires_page base id).attempt.calculate
    (Answer.bounded_known _ _)).consults fun _ => StellarServer.known_denied _ _ _

theorem operationFor_consults (destination : String) (amount : Decimal) :
    (({ server := .http base, network } : Stellar).operationFor destination amount).Consults
      (Http.get (StellarServer.accountUrl base destination) none)
      (some (.createAccount destination amount)) :=
  (exists_consults destination).bind rfl

theorem build_consults {transfer : Transfer} (lumens : transfer.amount.currency = .xlm) :
    (ChainClient.build (.stellar (.http base) network) transfer).Consults
      (Http.get (StellarServer.accountUrl base transfer.source) none) none := by
  simp only [ChainClient.build, build, lumens, ne_eq, not_true_eq_false, if_false,
    ← bind_pure_comp, bind_assoc]
  exact (StellarServer.account_consults base _).demand _

theorem build_heeds (transfer : Transfer) :
    (({ server := .http base, network } : Stellar).build transfer).Heeds := by
  unfold build
  split
  · exact heeds_ofChecked _
  · refine .bind (StellarServer.account_heeds base _) fun _ => .bind (heeds_ofChecked _) fun _ =>
      .bind (.bind ?_ fun known => ?_) fun _ => heeds_pure _
    · exact .bind (StellarServer.account?_heeds base _) fun _ => heeds_pure _
    · split
      · exact heeds_pure _
      · exact heeds_pure _

end Stellar

namespace ChainClient

inductive Lookup where
  | balance
  | history
  | maximum (rate : Decimal)
  | existence

namespace Lookup

def Value : Lookup → Type
  | balance | maximum _ => Amount
  | history => List HistoryEntry
  | existence => Bool

def perform (chain : ChainClient) (account : String) : (q : Lookup) → Dialogue q.Value
  | balance => chain.balance account
  | history => chain.history account
  | maximum rate => chain.maximum account rate
  | existence => chain.exists? account

def absent (currency : Currency) : (q : Lookup) → q.Value
  | balance | maximum _ => Amount.zero currency
  | history => ([] : List HistoryEntry)
  | existence => false

def page? (chain : ChainClient) (account : String) (q : Lookup) : Option String :=
  match chain, q with
  | .indexer _ base, balance => some (base ++ ("/api/v2/address/" ++ account))
  | .indexer _ base, history => some (base ++ ("/api/v2/address/" ++ account ++ "?details=txs"))
  | .indexer _ base, maximum _ => some (base ++ ("/api/v2/utxo/" ++ account))
  | .stellar (.http base) _, history =>
    some (StellarServer.operationsUrl base account)
  | .stellar (.http base) _, _ => some (StellarServer.accountUrl base account)
  | _, _ => none

end Lookup

inductive Paged : ChainClient → Prop where
  | indexer (currency : Currency) (base : String) : Paged (.indexer currency base)
  | stellar (base : String) (network : Network) : Paged (.stellar (.http base) network)

variable {chain : ChainClient}

theorem Paged.build_heeds (paged : chain.Paged) (transfer : Transfer) :
    (chain.build transfer).Heeds := by
  cases paged with
  | indexer currency base => exact (Indexer.build_heeds _ transfer).map
  | stellar base network => exact (Stellar.build_heeds transfer).map

theorem Lookup.perform_consults {account url : String} {q : Lookup}
    (page : q.page? chain account = some url) :
    (q.perform chain account).Consults (Http.get url none) (some (q.absent chain.currency)) := by
  match chain with
  | .external name currency => cases q <;> cases page
  | .evm currency url gasLimit => cases q <;> cases page
  | .stellar (.external name) network => cases q <;> cases page
  | .indexer currency base =>
    cases q with
    | balance =>
      cases page
      exact Indexer.balance_consults { currency, base } account
    | history =>
      cases page
      exact Indexer.history_consults { currency, base } account
    | maximum rate =>
      cases page
      exact Indexer.maximum_consults { currency, base } account rate
    | existence => cases page
  | .stellar (.http base) network =>
    cases q with
    | balance =>
      cases page
      exact Stellar.balance_consults account
    | history =>
      cases page
      exact Stellar.history_consults account
    | maximum rate =>
      cases page
      exact Stellar.maximum_consults account rate
    | existence =>
      cases page
      exact Stellar.exists_consults account

/-- Whatever is looked up of an account whose page is missing, there is nothing of it, and any other
reply that is not a success ends the lookup with its status and its text, also where a transaction is
built. On the ledger nothing is built for a source that is missing, and a destination that is missing
is created. -/
theorem page_denied (chain : ChainClient) :
    (∀ (account : String) (q : Lookup) (url : String), q.page? chain account = some url →
      (q.perform chain account).Consults (Http.get url none) (some (q.absent chain.currency))) ∧
    (chain.Paged → ∀ transfer, (chain.build transfer).Heeds) ∧
    ∀ (base : String) (network : Network), chain = .stellar (.http base) network →
      (∀ transfer : Transfer, transfer.amount.currency = .xlm →
        (chain.build transfer).Consults
          (Http.get (StellarServer.accountUrl base transfer.source) none) none) ∧
      ∀ (destination : String) (amount : Decimal),
        (({ server := .http base, network } : Stellar).operationFor destination amount).Consults
          (Http.get (StellarServer.accountUrl base destination) none)
          (some (.createAccount destination amount)) := by
  refine ⟨fun account q url page => Lookup.perform_consults page, Paged.build_heeds, ?_⟩
  rintro base network rfl
  exact ⟨fun transfer lumens => Stellar.build_consults lumens,
    fun destination amount => Stellar.operationFor_consults _ _⟩

def denying (status : Nat) : Oracle := .web fun _ => .reply { status, body := "denied" }

def testnet : ChainClient := .stellar (.http "https://horizon-testnet.stellar.org") .test

def oneLumen : Transfer :=
  { source := "GSRC", destination := "GNEW", amount := { currency := .xlm, value := .ofUInt64 1 }
    rate := .ofUInt64 100, memo := none }

-- A missing account is empty, an outage is not, and neither is a source to pay from.
theorem page_denied_testnet :
    ((testnet.balance "GNEW").run (denying 404) .empty).1 = .ok (.zero .xlm) ∧
      ((testnet.balance "GNEW").run (denying 503) .empty).1 = fail (.ledger 503 "denied") ∧
      ((testnet.build oneLumen).run (denying 404) .empty).1 = fail (.ledger 404 "denied") ∧
      ((testnet.build oneLumen).run (denying 503) .empty).1 = fail (.ledger 503 "denied") := by
  obtain ⟨lookups, builds, ledger⟩ := page_denied testnet
  have balance := lookups "GNEW" .balance _ rfl
  have demanded := (ledger _ _ rfl).1 oneLumen rfl
  refine ⟨?_, ?_, ?_, ?_⟩
  · exact congrArg Prod.fst (balance (denying 404) .empty _ rfl rfl)
  · exact congrArg Prod.fst (balance (denying 503) .empty _ rfl rfl)
  · exact congrArg Prod.fst (demanded (denying 404) .empty _ rfl rfl)
  · obtain ⟨calls, log, heeds⟩ := builds (.stellar _ _) oneLumen (denying 503) .empty
    rw [demanded (denying 503) .empty _ rfl rfl] at log
    exact (heeds [] _ _ [] log.symm rfl rfl (by decide)).2

end ChainClient

end MultiWallet
