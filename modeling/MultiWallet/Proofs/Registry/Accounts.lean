import MultiWallet.Asset.Configured
import MultiWallet.Proofs.Dialogue
import MultiWallet.Registry.Basic

set_option autoImplicit false

namespace MultiWallet

open Dialogue

structure Session.KeepsAs (t s : Session) : Prop where
  loaded : t.loaded = s.loaded
  loadedFiat : t.loadedFiat = s.loadedFiat

namespace Session.KeepsAs

theorem refl (s : Session) : s.KeepsAs s := ⟨rfl, rfl⟩

theorem trans {s t u : Session} (later : u.KeepsAs t) (earlier : t.KeepsAs s) : u.KeepsAs s :=
  ⟨later.loaded.trans earlier.loaded, later.loadedFiat.trans earlier.loadedFiat⟩

end Session.KeepsAs

inductive Checked.Meets {α : Type} (p : α → Prop) : Checked α → Prop where
  | ok (a : α) (holds : p a) : Meets p (.ok a)
  | failure (cause : Failure) : Meets p (.error (.failure cause))

namespace Dialogue

variable {α β : Type} {oracle : Oracle} {p : α → Prop} {q : β → Prop}

theorem run_session_bind (f : Session → Dialogue β) (s : Session) :
    (session >>= f).run oracle s = (f s).run oracle s := rfl

def Yields (oracle : Oracle) (p : α → Prop) (d : Dialogue α) : Prop :=
  ∀ s result t, d.run oracle s = (result, t) → t.KeepsAs s ∧ Checked.Meets p result

theorem yields_ofChecked {result : Checked α} (meets : Checked.Meets p result) :
    Yields oracle p (ofChecked result) := by
  rintro s _ _ ⟨⟩
  exact ⟨.refl s, meets⟩

theorem yields_pure {a : α} (holds : p a) : Yields oracle p (pure a) :=
  yields_ofChecked (.ok a holds)

theorem yields_fail (cause : Failure) : Yields oracle p (fail cause) :=
  yields_ofChecked (.failure cause)

theorem Yields.bind {d : Dialogue α} {f : α → Dialogue β} (first : Yields oracle p d)
    (rest : ∀ a, p a → Yields oracle q (f a)) : Yields oracle q (d >>= f) := by
  intro s result t run
  obtain ⟨halt, ran, rfl⟩ | ⟨a, u, ran, run⟩ := run_bind_cases run
  · obtain ⟨same, meets⟩ := first s _ t ran
    cases meets with
    | failure cause => exact ⟨same, .failure cause⟩
  · obtain ⟨same, meets⟩ := first s _ u ran
    cases meets with
    | ok a holds =>
      obtain ⟨later, meets⟩ := rest a holds u result t run
      exact ⟨later.trans same, meets⟩

theorem Yields.also {p' : α → Prop} {d : Dialogue α} (yields : Yields oracle p d)
    (holds : ∀ s a t, d.run oracle s = (.ok a, t) → p' a) : Yields oracle p' d := by
  intro s result t run
  obtain ⟨same, meets⟩ := yields s result t run
  cases meets with
  | ok a _ => exact ⟨same, .ok a (holds s a t run)⟩
  | failure cause => exact ⟨same, .failure cause⟩

theorem yields_ask (c : Call) : Yields oracle (fun _ => True) (ask c) := by
  rintro s _ _ ⟨⟩
  exact ⟨⟨rfl, rfl⟩, .ok _ trivial⟩

theorem yields_ofAnswer (answer : Answer α) : Yields oracle (fun _ => True) (ofAnswer answer) := by
  cases answer with
  | ok a => exact yields_pure trivial
  | error cause => exact yields_fail cause

theorem yields_freshId : Yields oracle (fun _ => True) freshId := by
  rintro s _ _ ⟨⟩
  exact ⟨⟨rfl, rfl⟩, .ok _ trivial⟩

theorem yields_exchange (request : Http.Request) :
    Yields oracle (fun _ => True) (exchange request) := by
  refine (yields_ask _).bind fun outcome _ => ?_
  cases outcome with
  | reply r => exact yields_pure trivial
  | unreachable => exact yields_fail _

theorem yields_decodeBody (decode : Json → Option α) (r : Http.Reply) :
    Yields oracle (fun _ => True) (decodeBody decode r) := by
  unfold decodeBody
  split
  · exact yields_pure trivial
  · exact yields_fail _

theorem Yields.attempt {d : Dialogue α} (yields : Yields oracle p d) :
    Yields oracle (fun answer => ∀ a, answer = .ok a → p a) d.attempt := by
  intro s result t run
  rw [run_attempt] at run
  rcases ran : d.run oracle s with ⟨result', u⟩
  rw [ran] at run
  obtain ⟨same, meets⟩ := yields s _ u ran
  cases meets with
  | ok a holds =>
    cases run
    refine ⟨same, .ok _ ?_⟩
    rintro _ ⟨⟩
    exact holds
  | failure cause =>
    cases run
    refine ⟨same, .ok _ ?_⟩
    rintro _ ⟨⟩

/-- Every run succeeds as well. -/
structure Gives (oracle : Oracle) (p : α → Prop) (d : Dialogue α) : Prop where
  yields : Yields oracle p d
  succeeds : ∀ s, ∃ a t, d.run oracle s = (.ok a, t)

theorem Gives.run {d : Dialogue α} (gives : Gives oracle p d) (s : Session) :
    ∃ a t, d.run oracle s = (.ok a, t) ∧ p a ∧ t.KeepsAs s := by
  obtain ⟨a, t, run⟩ := gives.succeeds s
  obtain ⟨same, meets⟩ := gives.yields s _ t run
  cases meets with
  | ok a holds => exact ⟨a, t, run, holds, same⟩

theorem gives_pure {a : α} (holds : p a) : Gives oracle p (pure a) :=
  ⟨yields_pure holds, fun s => ⟨a, s, rfl⟩⟩

theorem gives_freshId : Gives oracle (fun _ => True) freshId :=
  ⟨yields_freshId, fun _ => ⟨_, _, rfl⟩⟩

theorem Gives.bind {d : Dialogue α} {f : α → Dialogue β} (first : Gives oracle p d)
    (rest : ∀ a, p a → Gives oracle q (f a)) : Gives oracle q (d >>= f) := by
  refine ⟨first.yields.bind fun a holds => (rest a holds).yields, ?_⟩
  intro s
  obtain ⟨a, t, run, holds, -⟩ := first.run s
  obtain ⟨b, u, more⟩ := (rest a holds).succeeds t
  exact ⟨b, u, by rw [run_bind_ok run, more]⟩

theorem Gives.mono {p' : α → Prop} {d : Dialogue α} (gives : Gives oracle p d)
    (weaker : ∀ a, p a → p' a) : Gives oracle p' d := by
  rw [← bind_pure d]
  exact gives.bind fun a holds => gives_pure (weaker a holds)

theorem Yields.orElse {d : Dialogue α} {value : α} (yields : Yields oracle p d) (holds : p value) :
    Gives oracle p (d.orElse value) := by
  constructor
  · refine yields.attempt.bind fun answer found => ?_
    cases answer with
    | ok a => exact yields_pure (found a rfl)
    | error cause => exact yields_pure holds
  · intro s
    rcases run : d.run oracle s with ⟨result, t⟩
    obtain ⟨-, meets⟩ := yields s _ t run
    cases meets with
    | ok a _ => exact ⟨a, t, run_orElse_ok run value⟩
    | failure cause => exact ⟨value, t, run_orElse_failure run value⟩

end Dialogue

def Text.Visible (text : String) : Prop := (Text.trim text.toList).isEmpty = false

instance (text : String) : Decidable (Text.Visible text) :=
  inferInstanceAs (Decidable ((Text.trim text.toList).isEmpty = false))

theorem WalletRecords.yields_entries (records : WalletRecords) (currency : Currency)
    (oracle : Oracle) : Yields oracle (fun _ => True) (records.entries currency) := by
  cases records with
  | payload p =>
    refine yields_ofChecked ?_
    unfold Payload.entriesFor
    cases p.entries.lookup currency with
    | some listed => exact .ok listed trivial
    | none => exact .failure _
  | external => exact (yields_ask _).bind fun answer _ => yields_ofAnswer answer

theorem Custodian.yields_find {α : Type} (e : Endpoint) (path : String)
    (fields : List (String × String)) (decode : Json → Option α) (oracle : Oracle) :
    Yields oracle (fun _ => True) (e.find path fields decode) := by
  refine (yields_exchange _).bind fun r _ => ?_
  split
  · exact yields_pure trivial
  · split
    · exact yields_fail _
    · exact (yields_decodeBody _ _).bind fun _ _ => yields_pure trivial

theorem Custodian.yields_interestBalance (custodian : Custodian) (currency : Currency)
    (oracle : Oracle) : Yields oracle (fun _ => True) (custodian.interestBalance currency) := by
  cases custodian with
  | external => exact (yields_ask _).bind fun answer _ => yields_ofAnswer answer
  | http base token => exact yields_find _ _ _ _ _

theorem Custodian.yields_fiatCurrencies (custodian : Custodian) (oracle : Oracle) :
    Yields oracle (fun _ => True) custodian.fiatCurrencies := by
  cases custodian with
  | external => exact (yields_ask _).bind fun answer _ => yields_ofAnswer answer
  | http base token => exact (yields_find _ _ _ _ _).bind fun _ _ => yields_pure trivial

def CryptoAccount.Addressed (c : CryptoAccount) (custodian : Custodian) : Prop :=
  match c.backend with
  | .onChain _ address | .addressOnly address => Text.Visible address
  | .trading other => other = custodian
  | .external _ => False

namespace Asset

section Opening

variable {α β : Type} {oracle : Oracle} {p : β → Prop}

theorem gives_openEach {R : α → β → Prop} {f : α → Dialogue β} {l : List α}
    (each : ∀ a ∈ l, Gives oracle (R a) (f a)) : Gives oracle (List.Forall₂ R l) (openAll f l) := by
  induction l with
  | nil => exact gives_pure .nil
  | cons a rest ih =>
    refine (each a (by simp)).bind fun b holds => ?_
    refine (ih fun x member => each x (List.mem_cons_of_mem a member)).bind fun more all => ?_
    exact gives_pure (.cons holds all)

theorem gives_openAll {f : α → Dialogue β} {l : List α} (each : ∀ a ∈ l, Gives oracle p (f a)) :
    Gives oracle (fun opened => ∀ b ∈ opened, p b) (openAll f l) := by
  refine (gives_openEach (R := fun _ => p) each).mono fun opened all => ?_
  clear each
  induction all with
  | nil => simp
  | cons holds _ ih => simpa using ⟨holds, ih⟩

end Opening

def Configured (a : Asset) : Prop := ∃ parties settings, ofSettings parties settings = .ok a

inductive Standard (a : Asset) : Prop where
  | onChain (chain : ChainClient) (preference : Option Int)
      (kind : a.kind = .onChain chain preference) (currency : a.currency ≠ .stx)
  | stellar (chain : ChainClient) (preference : Option Int)
      (kind : a.kind = .stellar chain preference) (currency : a.currency = .xlm)
  | addressOnly (kind : a.kind = .stacks) (currency : a.currency = .stx)

theorem Configured.standard {a : Asset} (configured : a.Configured) : a.Standard := by
  obtain ⟨parties, settings, made⟩ := configured
  obtain ⟨kind, found, made⟩ := Checked.bind_eq_ok.1 made
  cases made
  unfold AssetSettings.kind at found
  split at found
  next currency =>
    obtain ⟨_, -, made⟩ := Checked.bind_eq_ok.1 found
    cases made
    exact .onChain _ _ rfl (by simp [currency])
  next currency =>
    obtain ⟨_, -, made⟩ := Checked.bind_eq_ok.1 found
    cases made
    exact .onChain _ _ rfl (by simp [currency])
  next currency =>
    obtain ⟨_, -, made⟩ := Checked.bind_eq_ok.1 found
    obtain ⟨_, -, made⟩ := Checked.bind_eq_ok.1 made
    cases made
    exact .onChain _ _ rfl (by simp [currency])
  next currency =>
    obtain ⟨_, -, made⟩ := Checked.bind_eq_ok.1 found
    cases made
    exact .stellar _ _ rfl currency
  next currency =>
    cases found
    exact .addressOnly rfl currency

inductive Opened (a : Asset) : Account → Prop where
  | crypto (c : CryptoAccount) (currency : c.currency = a.currency)
      (addressed : c.Addressed a.parties.custodian)
      (frozen : a.currency = .stx → c.permissions = .none) : Opened a (.crypto c)
  | interest (i : InterestAccount) : Opened a (.interest i)

variable {a : Asset} {labels : Labels} {oracle : Oracle}

theorem gives_openAccount {p : CryptoAccount → Prop} {label : String} {custody : Custody}
    {permissions : Permissions} {backend : Backend}
    (opened : ∀ id, p { id, label, currency := a.currency, custody, permissions, backend }) :
    Gives oracle p (a.openAccount label custody permissions backend) :=
  gives_freshId.bind fun id _ => gives_pure (opened id)

/-- The entries that the wallet's records may show have visible addresses. -/
def Recorded (a : Asset) (oracle : Oracle) : Prop :=
  ∀ s entries t, (a.parties.records.entries a.currency).run oracle s = (.ok entries, t) →
    ∀ e ∈ entries, Text.Visible e.address

theorem yields_entries (recorded : a.Recorded oracle) :
    Yields oracle (fun entries => ∀ e ∈ entries, Text.Visible e.address)
      (a.parties.records.entries a.currency) :=
  (WalletRecords.yields_entries _ _ _).also recorded

theorem gives_openWalletAccounts (other : a.currency ≠ .stx) (chain : ChainClient)
    {entries : List WalletEntry} (visible : ∀ e ∈ entries, Text.Visible e.address) :
    Gives oracle (fun opened => ∀ c ∈ opened, a.Opened (.crypto c))
      (openAll (a.openWalletAccount labels chain) entries) :=
  gives_openAll fun e member => gives_openAccount fun _ =>
    .crypto _ rfl (visible e member) fun stx => absurd stx other

theorem yields_nonCustodialAccounts (standard : a.Standard) (recorded : a.Recorded oracle) :
    Yields oracle (fun opened => ∀ c ∈ opened, a.Opened (.crypto c))
      (a.nonCustodialAccounts labels) := by
  unfold nonCustodialAccounts
  cases standard with
  | onChain chain preference kind currency =>
    rw [kind]
    refine (yields_entries recorded).bind fun entries visible => ?_
    exact (gives_openWalletAccounts currency chain fun e member =>
      visible e (List.mem_of_mem_filter member)).yields
  | stellar chain preference kind currency =>
    rw [kind]
    refine (yields_entries recorded).bind fun entries visible => ?_
    exact (gives_openWalletAccounts (by simp [currency]) chain fun e member =>
      visible e (List.mem_of_mem_filter (List.mem_of_mem_take member))).yields
  | addressOnly kind currency =>
    rw [kind]
    refine (yields_entries recorded).attempt.bind fun answer visible => ?_
    split
    next entry rest =>
      have opens : Gives oracle (fun c => a.Opened (.crypto c))
          (a.openAccount (a.entryLabel labels entry) .nonCustodial .none
            (.addressOnly entry.address)) :=
        gives_openAccount fun _ => .crypto _ rfl (visible _ rfl entry (by simp)) fun _ => rfl
      refine opens.yields.bind fun c opened => yields_pure ?_
      simpa using opened
    next => exact yields_pure (by simp)

theorem gives_custodialAccounts (standard : a.Standard) :
    Gives oracle (fun opened => ∀ c ∈ opened, a.Opened (.crypto c))
      (a.custodialAccounts labels) := by
  have frozen : a.currency = .stx → a.custodialPermissions = .none := by
    intro stx
    cases standard with
    | onChain chain preference kind currency => exact absurd stx currency
    | stellar chain preference kind currency => simp [currency] at stx
    | addressOnly kind currency => simp [custodialPermissions, kind]
  have opens : Gives oracle (fun c => a.Opened (.crypto c))
      (a.openAccount (labels.custodialFor a.currency) .custodial a.custodialPermissions
        (.trading a.parties.custodian)) :=
    gives_openAccount fun _ => .crypto _ rfl rfl frozen
  unfold custodialAccounts
  cases standard with
  | onChain _ _ kind _ | stellar _ _ kind _ | addressOnly kind _ =>
    rw [kind]
    exact opens.bind fun c opened => gives_pure (by simpa using opened)

theorem yields_interestAccounts (a : Asset) (labels : Labels) :
    Yields oracle (fun _ => True) (a.interestAccounts labels) := by
  unfold interestAccounts
  split
  · exact yields_pure trivial
  · exact (yields_ask _).bind fun answer _ => yields_ofAnswer answer
  · refine (Custodian.yields_interestBalance _ _ _).bind fun balance _ => ?_
    split
    · exact yields_freshId.bind fun _ _ => yields_pure trivial
    · exact yields_pure trivial

theorem gives_load (standard : a.Standard) (recorded : a.Recorded oracle) :
    Gives oracle (fun opened => ∀ account ∈ opened, a.Opened account) (a.load labels) := by
  have own : Gives oracle (fun opened => ∀ c ∈ opened, a.Opened (.crypto c))
      ((a.nonCustodialAccounts labels).orElse []) :=
    (yields_nonCustodialAccounts standard recorded).orElse (by simp)
  refine own.bind fun own opened => ?_
  refine (gives_custodialAccounts standard).bind fun held also => ?_
  refine ((a.yields_interestAccounts labels).orElse trivial).bind fun interest _ => gives_pure ?_
  intro account member
  simp only [List.mem_append, List.mem_map] at member
  obtain ⟨c, member | member, rfl⟩ | ⟨i, -, rfl⟩ := member
  · exact opened c member
  · exact also c member
  · exact .interest i

end Asset

namespace Registry

def Configured (r : Registry) : Prop := ∀ a ∈ r.assets, a.Configured

def custodians (r : Registry) : List Custodian := r.custodian :: r.assets.map (·.parties.custodian)

/-- Whoever is asked answers, and no address that is given out is blank. -/
structure Obliging (r : Registry) (oracle : Oracle) : Prop where
  fiat : ∀ s, ∃ codes t, r.custodian.fiatCurrencies.run oracle s = (.ok codes, t)
  deposits : ∀ custodian ∈ r.custodians, ∀ currency s, ∃ address t,
    (custodian.depositAddress currency).run oracle s = (.ok address, t) ∧ Text.Visible address
  entries : ∀ a ∈ r.assets, a.Recorded oracle

variable {α β : Type} {r : Registry} {oracle : Oracle} {s t : Session} {currency : Currency}
  {accounts : List Account} {p : α → Prop} {q : β → Prop}

def Loaded (r : Registry) (oracle : Oracle) (currency : Currency) (accounts : List Account) :
    Prop :=
  ∃ a ∈ r.assets, a.currency = currency ∧
    ∃ s t, (a.load r.labels).run oracle s = (.ok accounts, t)

def LoadedFiat (r : Registry) (oracle : Oracle) (accounts : List Account) : Prop :=
  ∃ s t, s.loadedFiat = none ∧ (r.fiat.accounts r.labels).run oracle s = (.ok accounts, t)

structure Keeps (r : Registry) (oracle : Oracle) (s : Session) : Prop where
  crypto : ∀ currency accounts, s.loaded currency = some accounts →
    r.Loaded oracle currency accounts
  fiat : ∀ accounts, s.loadedFiat = some accounts → r.LoadedFiat oracle accounts

theorem keeps_empty (r : Registry) (oracle : Oracle) : r.Keeps oracle .empty where
  crypto currency accounts kept := by cases kept
  fiat accounts kept := by cases kept

theorem Keeps.of_keepsAs (keeps : r.Keeps oracle s) (same : t.KeepsAs s) : r.Keeps oracle t where
  crypto currency accounts kept := keeps.crypto currency accounts (by rw [← same.loaded, kept])
  fiat accounts kept := keeps.fiat accounts (by rw [← same.loadedFiat, kept])

theorem Loaded.opened (configured : r.Configured) (obliging : r.Obliging oracle)
    (loaded : r.Loaded oracle currency accounts) {account : Account} (member : account ∈ accounts) :
    ∃ a ∈ r.assets, a.currency = currency ∧ a.Opened account := by
  obtain ⟨a, listed, same, s, t, run⟩ := loaded
  have loads : Gives oracle (fun opened => ∀ account ∈ opened, a.Opened account)
      (a.load r.labels) :=
    Asset.gives_load (configured a listed).standard (obliging.entries a listed)
  obtain ⟨-, meets⟩ := loads.yields s _ t run
  cases meets with
  | ok _ opened => exact ⟨a, listed, same, opened account member⟩

/-- Where only what was loaded is kept, runs succeed, and it stays so. -/
def Answers (r : Registry) (oracle : Oracle) (p : α → Prop) (d : Dialogue α) : Prop :=
  ∀ s, r.Keeps oracle s → ∃ a t, d.run oracle s = (.ok a, t) ∧ p a ∧ r.Keeps oracle t

theorem answers_pure {a : α} (holds : p a) : r.Answers oracle p (pure a) :=
  fun s keeps => ⟨a, s, rfl, holds, keeps⟩

theorem Answers.bind {d : Dialogue α} {f : α → Dialogue β} (first : r.Answers oracle p d)
    (rest : ∀ a, p a → r.Answers oracle q (f a)) : r.Answers oracle q (d >>= f) := by
  intro s keeps
  obtain ⟨a, t, run, holds, kept⟩ := first s keeps
  obtain ⟨b, u, more, further⟩ := rest a holds t kept
  exact ⟨b, u, by rw [run_bind_ok run, more], further⟩

section Listing

variable (configured : r.Configured) (obliging : r.Obliging oracle)

include configured obliging

theorem answers_accounts {a : Asset} (listed : a ∈ r.assets) :
    r.Answers oracle (r.Loaded oracle a.currency) (a.accounts r.labels) := by
  intro s keeps
  rw [Asset.accounts, run_session_bind]
  cases kept : s.loaded a.currency with
  | some accounts => exact ⟨accounts, s, rfl, keeps.crypto _ _ kept, keeps⟩
  | none =>
    have loads : Gives oracle (fun opened => ∀ account ∈ opened, a.Opened account)
        (a.load r.labels) :=
      Asset.gives_load (configured a listed).standard (obliging.entries a listed)
    obtain ⟨accounts, t, run, -, same⟩ := loads.run s
    have loaded : r.Loaded oracle a.currency accounts := ⟨a, listed, rfl, s, t, run⟩
    refine ⟨accounts, Asset.keep a.currency accounts t, ?_, loaded, ?_, ?_⟩
    · rw [run_bind_ok run]
      rfl
    · intro currency others found
      simp only [Asset.keep] at found
      split at found
      next same =>
        cases found
        exact same ▸ loaded
      next => exact (keeps.of_keepsAs same).crypto currency others found
    · exact (keeps.of_keepsAs same).fiat

omit configured in
theorem run_fiat (unloaded : s.loadedFiat = none) :
    ∃ (accounts : List Account) (t : Session), (r.fiat.accounts r.labels).run oracle s =
        (.ok accounts, { t with loadedFiat := some accounts }) ∧ t.KeepsAs s ∧
      ∀ account ∈ accounts, account.isFiat = true := by
  have codes : Gives oracle (fun _ => True) r.fiat.custodian.fiatCurrencies :=
    ⟨Custodian.yields_fiatCurrencies _ _, obliging.fiat⟩
  have opens (codes : List String) :
      Gives oracle (fun accounts => ∀ account ∈ accounts, account.isFiat = true)
        (Asset.openAll (r.fiat.openAccount r.labels) codes) :=
    Asset.gives_openAll fun _ _ => gives_freshId.bind fun _ _ => gives_pure rfl
  obtain ⟨accounts, t, run, isFiat, same⟩ := (codes.bind fun codes _ => opens codes).run s
  refine ⟨accounts, t, ?_, same, isFiat⟩
  rw [FiatAsset.accounts, run_session_bind, unloaded]
  obtain ⟨codes, u, asked, opened⟩ := run_bind_eq_ok.1 run
  simp only [run_bind_ok asked, run_bind_ok opened]
  rfl

omit configured in
theorem LoadedFiat.isFiat (loaded : r.LoadedFiat oracle accounts) {account : Account}
    (member : account ∈ accounts) : account.isFiat = true := by
  obtain ⟨s, t, unloaded, run⟩ := loaded
  obtain ⟨_, _, again, -, isFiat⟩ := run_fiat obliging unloaded
  rw [run] at again
  cases again
  exact isFiat account member

omit configured in
theorem answers_fiat :
    r.Answers oracle (fun accounts => ∀ account ∈ accounts, account.isFiat = true)
      (r.fiat.accounts r.labels) := by
  intro s keeps
  cases kept : s.loadedFiat with
  | some accounts =>
    refine ⟨accounts, s, ?_, fun _ => (keeps.fiat accounts kept).isFiat obliging, keeps⟩
    rw [FiatAsset.accounts, run_session_bind, kept]
    rfl
  | none =>
    obtain ⟨accounts, t, run, same, isFiat⟩ := run_fiat obliging kept
    refine ⟨accounts, _, run, isFiat, (keeps.of_keepsAs same).crypto, ?_⟩
    rintro _ ⟨⟩
    exact ⟨s, _, kept, run⟩

omit configured obliging in
theorem members_ofAccounts? (label : String) (accounts : List Account) :
    members (AccountGroup.ofAccounts? label accounts) = accounts := by
  cases accounts <;> rfl

theorem answers_gather {assets : List Asset} (registered : ∀ a ∈ assets, a ∈ r.assets) :
    r.Answers oracle (fun accounts => ∀ account ∈ accounts,
        ∃ currency own, r.Loaded oracle currency own ∧ account ∈ own)
      (gather r.labels assets) := by
  induction assets with
  | nil => exact answers_pure (by simp)
  | cons a rest ih =>
    have own : r.Answers oracle (fun group => ∃ own, r.Loaded oracle a.currency own ∧
        members group = own) (a.group r.labels .all) :=
      (answers_accounts configured obliging (registered a (by simp))).bind fun own loaded =>
        answers_pure ⟨own, loaded, by simp [members_ofAccounts?, AccountFilter.selects]⟩
    refine own.bind fun group known => ?_
    obtain ⟨own, loaded, same⟩ := known
    refine (ih fun b member => registered b (List.mem_cons_of_mem a member)).bind fun more all => ?_
    refine answers_pure fun account member => ?_
    rcases List.mem_append.1 member with member | member
    · exact ⟨a.currency, own, loaded, same ▸ member⟩
    · exact all account member

end Listing

end Registry

end MultiWallet
