import MultiWallet.Proofs.Registry.Lookup
import MultiWallet.Proofs.Text.Split
import MultiWallet.Status

set_option autoImplicit false

namespace MultiWallet

open Dialogue

theorem Currency.ofTicker?_eq_some_iff {currency : Currency} {text : String} :
    Currency.ofTicker? text = some currency ↔
      Text.foldCase currency.ticker = Text.foldCase text := by
  constructor
  next =>
    intro found
    simpa [Text.sameIgnoringCase] using List.find?_some found
  next =>
    intro same
    have folded : Currency.ofTicker? text = Currency.ofTicker? currency.ticker := by
      simp only [Currency.ofTicker?, Text.sameIgnoringCase, same]
    rw [folded, Currency.ofTicker?_ticker]

namespace Status

def Names (segment : String) (currency : Currency) : Prop :=
  ∃ text, Http.decodeSegment? segment = some text ∧
    Text.foldCase currency.ticker = Text.foldCase text

section Reading

variable {segment raw path query : String}

theorem ofPath?_accounts (single : '/' ∉ segment.toList) :
    Page.ofPath? ("/assets/" ++ segment ++ "/accounts") = some (.accounts segment) := by
  have pieces := Text.splitOn_intercalate '/'
    [[], "assets".toList, segment.toList, "accounts".toList] (by simp) (by simp [single])
  have path : String.ofList
      (['/'].intercalate [[], "assets".toList, segment.toList, "accounts".toList]) =
        "/assets/" ++ segment ++ "/accounts" := by
    apply String.toList_injective
    simp [List.intercalate]
  rw [path] at pieces
  unfold Page.ofPath?
  rw [show "/" = String.singleton '/' from rfl, pieces]
  simp

theorem fields_address (single : '&' ∉ raw.toList) :
    Http.fields ("address=" ++ raw) = [("address", Http.decodeForm raw.toList)] := by
  have pieces := Text.splitOn_intercalate '&' [("address=" ++ raw).toList]
    (by simp) (by simp [single])
  have whole : String.ofList (['&'].intercalate [("address=" ++ raw).toList]) =
      "address=" ++ raw := by
    apply String.toList_injective
    simp [List.intercalate]
  have name : Http.decodeForm ['a', 'd', 'd', 'r', 'e', 's', 's'] = "address" := by decide +kernel
  rw [whole] at pieces
  unfold Http.fields
  rw [show "&" = String.singleton '&' from rfl, pieces]
  simp [Http.splitField, name]

theorem readAddress_eq (single : '&' ∉ raw.toList) :
    readAddress ("address=" ++ raw) = .ok (Http.decodeForm raw.toList) := by
  simp [readAddress, fields_address single]

theorem respond_get {page : Page} (r : Registry) (plain : '?' ∉ path.toList)
    (known : Page.ofPath? path = some page) :
    respond r "GET" (path ++ "?" ++ query) = visit r page query := by
  have marked : (path ++ "?" ++ query).toList = path.toList ++ '?' :: query.toList := by simp
  have before : ∀ c ∈ path.toList, (c != '?') = true := by
    intro c inside
    simp only [bne_iff_ne, ne_eq]
    rintro rfl
    exact plain inside
  unfold respond
  rw [marked, List.takeWhile_append_of_pos before, List.dropWhile_append_of_pos before]
  simp [known]

theorem respond_accounts (r : Registry) (plain : '?' ∉ segment.toList)
    (single : '/' ∉ segment.toList) :
    respond r "GET" ("/assets/" ++ segment ++ "/accounts?address=" ++ raw) =
      findAccount r segment ("address=" ++ raw) := by
  have target : "/assets/" ++ segment ++ "/accounts?address=" ++ raw =
      "/assets/" ++ segment ++ "/accounts" ++ "?" ++ ("address=" ++ raw) := by
    apply String.toList_injective
    simp
  rw [target, respond_get r (by simp [plain]) (ofPath?_accounts single)]
  rfl

end Reading

section Finding

variable {segment query address : String} {oracle : Oracle} {s t : Session} {r : Registry}
  {currency : Currency}

theorem run_findAccount_unnamed (r : Registry) (read : readAddress query = .ok address)
    (nobody : ∀ currency, ¬ Names segment currency) :
    ∃ body, (findAccount r segment query).run oracle s = (.ok { status := 400, body }, s) := by
  unfold findAccount
  cases decoded : Http.decodeSegment? segment with
  | none => exact ⟨_, rfl⟩
  | some text =>
    cases known : Currency.ofTicker? text with
    | none => exact ⟨_, by simp only [read, known]; rfl⟩
    | some currency =>
      exact absurd ⟨text, decoded, Currency.ofTicker?_eq_some_iff.1 known⟩ (nobody currency)

def response (currency : Currency) (address : String) : Answer (Option Account) → Response
  | .ok (some account) => { status := 200, body := .account account }
  | .ok none => refuse 404 ("No " ++ currency.ticker ++ " account for " ++ address)
  | .error cause => ofFailure cause

theorem findAccount_eq (read : readAddress query = .ok address) (named : Names segment currency) :
    findAccount r segment query =
      response currency address <$> (r.findByAddress currency address).attempt := by
  obtain ⟨text, decoded, same⟩ := named
  unfold findAccount
  rw [decoded, ← bind_pure_comp]
  simp only [read, Currency.ofTicker?_eq_some_iff.2 same]
  refine congrArg _ (funext fun answer => ?_)
  rcases answer with cause | _ | account <;> rfl

theorem run_findAccount (read : readAddress query = .ok address) (named : Names segment currency)
    {found : Checked (Option Account)} {answer : Answer (Option Account)}
    (run : (r.findByAddress currency address).run oracle s = (found, t))
    (tried : found.tried = .ok answer) :
    (findAccount r segment query).run oracle s = (.ok (response currency address answer), t) := by
  rw [findAccount_eq read named]
  refine run_map_eq_ok.2 ⟨answer, ?_, rfl⟩
  rw [run_attempt_eq, run, tried]

structure Tells (found : Checked (Option Account)) (response : Response) : Prop where
  account : ∀ account, response = { status := 200, body := .account account } ↔
    found = .ok (some account)
  ok : response.status = 200 ↔ ∃ account, found = .ok (some account)
  notFound : response.status = 404 ↔ found = .ok none
  badRequest : response.status = 400 ↔
    ∃ cause, found = .error (.failure cause) ∧ cause.isContractViolation = true
  badGateway : response.status = 502 ↔
    ∃ cause, found = .error (.failure cause) ∧ cause.isContractViolation = false

theorem tells_response {found : Checked (Option Account)} {answer : Answer (Option Account)}
    (tried : found.tried = .ok answer) : Tells found (response currency address answer) := by
  rcases found with (cause | _) | _ | account <;> cases tried
  next =>
    cases wrong : cause.isContractViolation <;>
      constructor <;> simp [response, ofFailure, refuse, wrong]
  next => constructor <;> simp [response, refuse]
  next => constructor <;> simp [response]

end Finding

/-- Whoever asks which account of a currency receives at an address is told the first one whose
address it is, where capitals count as small letters; an account that has no address to tell is
passed over. The page of the currency answers with the same account, and its status tells apart that
there is none, that the request is wrong, and that the accounts cannot be had. -/
theorem address_page_agrees (r : Registry) (oracle : Oracle) (s : Session) (segment raw : String)
    (plain : '?' ∉ segment.toList) (single : '/' ∉ segment.toList) (last : '&' ∉ raw.toList) :
    (∀ currency text, ∃ found t, (r.findByAddress currency text).run oracle s = (found, t) ∧
      r.Lookup currency text oracle s found t) ∧
    (∀ currency a b, Text.foldCase a = Text.foldCase b →
      r.findByAddress currency a = r.findByAddress currency b) ∧
    ((∀ currency, ¬ Names segment currency) → ∃ body,
      (respond r "GET" ("/assets/" ++ segment ++ "/accounts?address=" ++ raw)).run oracle s =
        (.ok { status := 400, body }, s)) ∧
    ∀ currency, Names segment currency → ∃ found response t,
      (r.findByAddress currency (Http.decodeForm raw.toList)).run oracle s = (found, t) ∧
      (respond r "GET" ("/assets/" ++ segment ++ "/accounts?address=" ++ raw)).run oracle s =
        (.ok response, t) ∧
      Tells found response ∧
      ((∀ a ∈ r.assets, a.currency ≠ currency) → response.status = 400 ∧ t = s) := by
  rw [respond_accounts r plain single]
  have read := readAddress_eq last
  let address := Http.decodeForm raw.toList
  refine ⟨fun currency text => r.run_findByAddress currency text oracle s,
    fun currency a b same => Registry.findByAddress_congr same r currency,
    run_findAccount_unnamed r read, fun currency named => ?_⟩
  obtain ⟨found, t, run, lookup⟩ := r.run_findByAddress currency address oracle s
  obtain ⟨answer, tried⟩ := lookup.tried
  have tells : Tells found (response currency address answer) := tells_response tried
  refine ⟨found, _, t, run, run_findAccount read named run tried, tells, fun absent => ?_⟩
  obtain ⟨rfl, rfl⟩ := lookup.of_unregistered absent
  exact ⟨tells.badRequest.2 ⟨_, rfl, rfl⟩, rfl⟩

def bitcoins : Registry :=
  { records := .external, custodian := .external, reporter := .external, labels := {}
    assets := [Asset.foreign] }

def silentAccount : CryptoAccount := { Asset.ownAccount with id := 0, backend := .external "gone" }

def silent : Oracle
  | _, .assetNonCustodial _ _ => .ok [silentAccount, Asset.ownAccount]
  | _, .assetCustodial _ _ => .ok []
  | _, .assetInterest _ _ => .ok []
  | _, c => c.refused

theorem address_page_agrees_bitcoin :
    ∃ t, (respond bitcoins "GET" "/assets/bTc/accounts?address=BC1Q%4dine").run silent .empty =
      (.ok { status := 200, body := .account (.crypto Asset.ownAccount) }, t) := by
  obtain ⟨-, -, -, named⟩ := address_page_agrees bitcoins silent .empty "bTc" "BC1Q%4dine"
    (by decide) (by decide) (by decide)
  obtain ⟨found, response, t, run, answered, tells, -⟩ :=
    named .btc ⟨"bTc", by decide +kernel, by decide⟩
  have address : Http.decodeForm "BC1Q%4dine".toList = "BC1QMine" := by decide +kernel
  rw [address] at run
  have first : found = .ok (some (.crypto Asset.ownAccount)) := (congrArg Prod.fst run).symm
  rw [(tells.account _).2 first] at answered
  exact ⟨t, answered⟩

end Status

end MultiWallet
