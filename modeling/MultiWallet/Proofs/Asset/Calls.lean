import MultiWallet.Proofs.Asset.Shelf
import MultiWallet.Proofs.Traces

set_option autoImplicit false

namespace MultiWallet

open Dialogue

namespace Custodian

def savingsCall (custodian : Custodian) (currency : Currency) : Call :=
  match custodian with
  | external => .interestBalance currency
  | http base token =>
    .http (Http.get (Endpoint.url { base, token } "/accounts/savings" [("ccy", currency.ticker)])
      (Http.bearer token))

def fiatCall : Custodian → Call
  | external => .fiatCurrencies
  | http base token =>
    .http (Http.get (Endpoint.url { base, token } "/trades/fiat-currencies" [])
      (Http.bearer token))

variable {P : Call → Prop}

theorem asks_find {α : Type} {e : Endpoint} {path : String} {fields : List (String × String)}
    (decode : Json → Option α)
    (kind : P (.http (Http.get (e.url path fields) (Http.bearer e.token)))) :
    (e.find path fields decode).Asks P := by
  apply Asks.bind
  next =>
    apply (traces_exchange _).mono
    rintro _ _ rfl c member
    rwa [List.mem_singleton.1 member]
  next =>
    intro r
    by_cases missing : r.status = 404
    next =>
      rw [if_pos missing]
      exact asks_pure _
    next =>
      rw [if_neg missing]
      by_cases refused : r.isError = true
      next =>
        rw [if_pos refused]
        exact asks_fail _
      next =>
        rw [if_neg refused]
        exact (asks_decodeBody _ _).map

theorem asks_interestBalance {custodian : Custodian} {currency : Currency}
    (kind : P (custodian.savingsCall currency)) : (custodian.interestBalance currency).Asks P := by
  cases custodian with
  | external => exact .bind (asks_ask kind) fun answer => asks_ofAnswer answer
  | http base token => exact asks_find _ kind

theorem asks_fiatCurrencies {custodian : Custodian} (kind : P custodian.fiatCall) :
    custodian.fiatCurrencies.Asks P := by
  cases custodian with
  | external => exact .bind (asks_ask kind) fun answer => asks_ofAnswer answer
  | http base token => exact .bind (asks_find _ kind) fun found => asks_pure _

end Custodian

inductive Listing.Loads : Listing → Call → Prop where
  | entries (a : Asset) : Loads (.crypto a) (.walletEntries a.currency)
  | nonCustodial (a : Asset) (label : String) :
      Loads (.crypto a) (.assetNonCustodial a.currency label)
  | custodial (a : Asset) (label : String) : Loads (.crypto a) (.assetCustodial a.currency label)
  | interest (a : Asset) (label : String) : Loads (.crypto a) (.assetInterest a.currency label)
  | savings (a : Asset) : Loads (.crypto a) (a.parties.custodian.savingsCall a.currency)
  | currencies (a : FiatAsset) : Loads (.fiat a) a.custodian.fiatCall

section Asking

variable {P : Call → Prop}

theorem asks_freshId : freshId.Asks P :=
  fun _ s => ⟨[], (List.append_nil s.calls).symm, by simp⟩

theorem Asset.asks_openAll {α β : Type} {f : α → Dialogue β} (each : ∀ a, (f a).Asks P)
    (l : List α) : (openAll f l).Asks P := by
  induction l with
  | nil => exact asks_pure _
  | cons a rest ih => exact .bind (each a) fun b => .bind ih fun more => asks_pure _

theorem Asset.asks_openAccount (a : Asset) (label : String) (custody : Custody)
    (permissions : Permissions) (backend : Backend) :
    (a.openAccount label custody permissions backend).Asks P :=
  .bind asks_freshId fun _ => asks_pure _

theorem WalletRecords.asks_entries {records : WalletRecords} {currency : Currency}
    (kind : P (.walletEntries currency)) : (records.entries currency).Asks P := by
  cases records with
  | payload p => exact asks_ofChecked _
  | external => exact .bind (asks_ask kind) fun answer => asks_ofAnswer answer

end Asking

namespace Asset

theorem asks_nonCustodialAccounts (a : Asset) (labels : Labels) :
    (a.nonCustodialAccounts labels).Asks (Listing.crypto a).Loads := by
  have read : (a.parties.records.entries a.currency).Asks (Listing.crypto a).Loads :=
    WalletRecords.asks_entries (.entries a)
  have opens (chain : ChainClient) (entries : List WalletEntry) :
      (openAll (a.openWalletAccount labels chain) entries).Asks (Listing.crypto a).Loads :=
    asks_openAll (fun entry => a.asks_openAccount _ _ _ _) entries
  unfold nonCustodialAccounts
  split
  next chain preference kind => exact .bind read fun entries => opens chain _
  next chain preference kind => exact .bind read fun entries => opens chain _
  next =>
    apply Asks.bind read.attempt
    intro answer
    split
    next => exact .bind (a.asks_openAccount _ _ _ _) fun account => asks_pure _
    next => exact asks_pure _
  next => exact .bind (asks_ask (.nonCustodial a _)) fun answer => asks_ofAnswer answer

theorem asks_custodialAccounts (a : Asset) (labels : Labels) :
    (a.custodialAccounts labels).Asks (Listing.crypto a).Loads := by
  unfold custodialAccounts
  split
  next => exact .bind (asks_ask (.custodial a _)) fun answer => asks_ofAnswer answer
  next => exact .bind (a.asks_openAccount _ _ _ _) fun account => asks_pure _

theorem asks_interestAccounts (a : Asset) (labels : Labels) :
    (a.interestAccounts labels).Asks (Listing.crypto a).Loads := by
  unfold interestAccounts
  split
  next => exact asks_pure _
  next => exact .bind (asks_ask (.interest a _)) fun answer => asks_ofAnswer answer
  next =>
    apply Asks.bind (Custodian.asks_interestBalance (.savings a))
    intro balance
    cases balance with
    | none => exact asks_pure _
    | some paid => exact .bind asks_freshId fun id => asks_pure _

end Asset

def Text.lastLetters (text : String) : String :=
  String.ofList (text.toList.drop (text.toList.length - 3))

theorem Text.lastLetters_append (base : String) {tail : String} (size : tail.toList.length = 3) :
    lastLetters (base ++ tail) = tail := by
  simp [lastLetters, ← size]

def Call.shelf? : Call → Option Shelf
  | .walletEntries currency | .assetNonCustodial currency _ | .assetCustodial currency _
  | .assetInterest currency _ | .interestBalance currency => some (.crypto currency)
  | .fiatCurrencies => some .fiat
  | .http request =>
    some ((Currency.ofExactTicker? (Text.lastLetters request.url)).elim .fiat .crypto)
  | _ => none

namespace Custodian

theorem lastLetters_savings (e : Endpoint) (currency : Currency) :
    Text.lastLetters (e.url "/accounts/savings" [("ccy", currency.ticker)]) = currency.ticker := by
  have query : Http.query [("ccy", currency.ticker)] = "ccy=" ++ currency.ticker := by
    cases currency <;> decide
  have size : currency.ticker.toList.length = 3 := by cases currency <;> decide
  simp only [Endpoint.url, query, List.isEmpty_cons, Bool.false_eq_true, if_false,
    ← String.append_assoc]
  exact Text.lastLetters_append _ size

theorem lastLetters_fiat (e : Endpoint) :
    Text.lastLetters (e.url "/trades/fiat-currencies" []) = "ies" := by
  have path : "/trades/fiat-currencies" = "/trades/fiat-currenc" ++ "ies" := by decide
  simp only [Endpoint.url, List.isEmpty_nil, if_true, String.append_empty]
  rw [path, ← String.append_assoc]
  exact Text.lastLetters_append _ (by decide)

theorem savingsCall_shelf? (custodian : Custodian) (currency : Currency) :
    (custodian.savingsCall currency).shelf? = some (.crypto currency) := by
  cases custodian with
  | external => rfl
  | http base token =>
    have known : Currency.ofExactTicker? currency.ticker = some currency := by
      cases currency <;> decide
    simp [savingsCall, Http.get, Call.shelf?, lastLetters_savings, known]

theorem fiatCall_shelf? (custodian : Custodian) : custodian.fiatCall.shelf? = some .fiat := by
  cases custodian with
  | external => rfl
  | http base token =>
    have unknown : Currency.ofExactTicker? "ies" = none := by decide
    simp [fiatCall, Http.get, Call.shelf?, lastLetters_fiat, unknown]

end Custodian

theorem Listing.Loads.shelf? {l : Listing} {c : Call} (loads : l.Loads c) :
    c.shelf? = some l.shelf := by
  cases loads with
  | entries a | nonCustodial a label | custodial a label | interest a label => rfl
  | savings a => exact Custodian.savingsCall_shelf? a.parties.custodian a.currency
  | currencies a => exact a.custodian.fiatCall_shelf?

theorem Listing.Loads.shelf_eq {l m : Listing} {c : Call} (one : l.Loads c) (other : m.Loads c) :
    l.shelf = m.shelf :=
  Option.some.inj (one.shelf?.symm.trans other.shelf?)

end MultiWallet
