import MultiWallet.Proofs.Registry.Accounts

set_option autoImplicit false

namespace MultiWallet

open Dialogue

namespace AssetKind

def listed (entries : List WalletEntry) : AssetKind → List WalletEntry
  | .onChain _ _ => Asset.activeEntries entries
  | .stellar _ _ => (Asset.activeEntries entries).take 1
  | .stacks => entries.take 1
  | .external => []

/-- The entries that are to become accounts: those in use, or one of them. -/
def due (entries : List WalletEntry) : AssetKind → List WalletEntry
  | .onChain _ _ => Asset.activeEntries entries
  | .stellar _ _ | .stacks => (Asset.activeEntries entries).take 1
  | .external => []

theorem take_eq_take_activeEntries_iff (entries : List WalletEntry) :
    entries.take 1 = (Asset.activeEntries entries).take 1 ↔
      ∀ entry ∈ entries.head?, entry.archived = false := by
  cases entries with
  | nil => simp [Asset.activeEntries]
  | cons entry rest =>
    cases archived : entry.archived with
    | false => simp [Asset.activeEntries, archived]
    | true =>
      refine iff_of_false ?_ (by simp [archived])
      intro same
      have kept : entry ∈ Asset.activeEntries (entry :: rest) := by
        refine List.mem_of_mem_take (i := 1) ?_
        rw [← same]
        exact List.mem_cons_self
      simp [Asset.activeEntries, archived] at kept

theorem listed_eq_due_iff (kind : AssetKind) (entries : List WalletEntry) :
    kind.listed entries = kind.due entries ↔
      (kind = .stacks → ∀ entry ∈ entries.head?, entry.archived = false) := by
  match kind with
  | .stacks => simpa [listed, due] using take_eq_take_activeEntries_iff entries
  | .onChain _ _ | .stellar _ _ | .external => simp [listed, due]

end AssetKind

namespace Asset

variable {a : Asset} {labels : Labels} {oracle : Oracle} {s t : Session}

structure Opens (a : Asset) (labels : Labels) (entry : WalletEntry) (account : CryptoAccount) :
    Prop where
  label : account.label = entry.label.getD (labels.nonCustodialFor a.currency)
  currency : account.currency = a.currency
  custody : account.custody = .nonCustodial
  address : ∀ oracle s,
    account.receiveAddress.run oracle s = (.ok (.of a.currency entry.address), s)

theorem gives_openWallet (a : Asset) (labels : Labels) (chain : ChainClient)
    (entries : List WalletEntry) :
    Gives oracle (List.Forall₂ (a.Opens labels) entries)
      (openAll (a.openWalletAccount labels chain) entries) :=
  gives_openEach fun _ _ => gives_openAccount fun _ => ⟨rfl, rfl, rfl, fun _ _ => rfl⟩

theorem run_nonCustodialAccounts_listed {entries : List WalletEntry} (own : a.kind ≠ .external)
    (found : (a.parties.records.entries a.currency).run oracle s = (.ok entries, t)) :
    ∃ accounts u, (a.nonCustodialAccounts labels).run oracle s = (.ok accounts, u) ∧
      List.Forall₂ (a.Opens labels) (a.kind.listed entries) accounts := by
  unfold nonCustodialAccounts
  match kind : a.kind with
  | .onChain chain _ =>
    obtain ⟨accounts, u, opened, opens, -⟩ :=
      (a.gives_openWallet labels chain (activeEntries entries)).run t
    exact ⟨accounts, u, (run_bind_ok found _).trans opened, opens⟩
  | .stellar chain _ =>
    obtain ⟨accounts, u, opened, opens, -⟩ :=
      (a.gives_openWallet labels chain ((activeEntries entries).take 1)).run t
    exact ⟨accounts, u, (run_bind_ok found _).trans opened, opens⟩
  | .stacks =>
    have tried := run_attempt_ok found
    cases entries with
    | nil => exact ⟨[], t, run_bind_ok tried _, .nil⟩
    | cons entry rest =>
      have gives : Gives oracle (a.Opens labels entry)
          (a.openAccount (a.entryLabel labels entry) .nonCustodial .none
            (.addressOnly entry.address)) :=
        gives_openAccount fun _ => ⟨rfl, rfl, rfl, fun _ _ => rfl⟩
      obtain ⟨account, u, opened, opens, -⟩ := gives.run t
      exact ⟨[account], u, (run_bind_ok tried _).trans (run_bind_ok opened _), .cons opens .nil⟩
  | .external => exact absurd kind own

theorem run_nonCustodialAccounts_refused {cause : Failure}
    (refused : (a.parties.records.entries a.currency).run oracle s = (fail cause, t))
    (own : a.kind ≠ .external) :
    (a.nonCustodialAccounts labels).run oracle s =
      (if a.kind = .stacks then .ok [] else MultiWallet.fail cause, t) := by
  unfold nonCustodialAccounts
  match kind : a.kind with
  | .onChain chain preference => exact run_bind_error refused _
  | .stellar chain preference => exact run_bind_error refused _
  | .stacks => exact run_bind_ok (run_attempt_failure refused) _
  | .external => exact absurd kind own

/-- One account is opened for each entry that is listed. What is listed is what is in use, but for
Stacks, where it is the first entry of all. Where the records cannot be read, nothing is opened. -/
theorem nonCustodialAccounts_listed (a : Asset) (labels : Labels) (oracle : Oracle) (s t : Session)
    (own : a.kind ≠ .external) :
    (∀ entries, (a.parties.records.entries a.currency).run oracle s = (.ok entries, t) →
      (∃ accounts u, (a.nonCustodialAccounts labels).run oracle s = (.ok accounts, u) ∧
        List.Forall₂ (a.Opens labels) (a.kind.listed entries) accounts) ∧
      (a.kind.listed entries = a.kind.due entries ↔
        (a.kind = .stacks → ∀ entry ∈ entries.head?, entry.archived = false))) ∧
    ∀ cause, (a.parties.records.entries a.currency).run oracle s = (MultiWallet.fail cause, t) →
      (a.nonCustodialAccounts labels).run oracle s =
        (if a.kind = .stacks then .ok [] else MultiWallet.fail cause, t) :=
  ⟨fun entries found =>
      ⟨run_nonCustodialAccounts_listed own found, a.kind.listed_eq_due_iff entries⟩,
    fun _ refused => run_nonCustodialAccounts_refused refused own⟩

def archived : WalletEntry := { label := some "Old", address := "SPold", archived := true }

def savings : WalletEntry := { label := some "Savings", address := "SPsavings", archived := false }

def nameless : WalletEntry := { label := none, address := "SPnameless", archived := false }

def holding (currency : Currency) (kind : AssetKind) (entries : List WalletEntry) : Asset :=
  { currency, enabled := true, kind
    parties :=
      { records := .payload
          { sharedKey := "k", passwordDigest := none, passwordIterations := none
            entries := [(currency, entries)] }
        custodian := .external, signer := .external, fees := .external, reporter := .external } }

def silent : Oracle := fun _ c => c.refused

def bitcoins : Asset :=
  holding .btc (.onChain (.external "n" .btc) none) [archived, nameless, savings]

-- The archived entry is passed over, and there is nothing to list of another currency.
theorem nonCustodialAccounts_listed_bitcoins :
    bitcoins.kind ≠ .external ∧
      (∃ accounts u, (bitcoins.nonCustodialAccounts {}).run silent .empty = (.ok accounts, u) ∧
        List.Forall₂ (bitcoins.Opens {}) [nameless, savings] accounts) ∧
      (({ bitcoins with currency := .eth }).nonCustodialAccounts {}).run silent .empty =
        (MultiWallet.fail (.wallet "No ETH accounts in wallet"), .empty) :=
  ⟨nofun,
    ((nonCustodialAccounts_listed bitcoins {} silent .empty .empty nofun).1 _ rfl).1,
    (nonCustodialAccounts_listed { bitcoins with currency := .eth } {} silent .empty .empty
      nofun).2 _ rfl⟩

def stxWallet : Asset := holding .stx .stacks [archived, savings]

-- The archived entry becomes an account, and the one that is in use does not.
theorem archived_listed :
    (stxWallet.parties.records.entries .stx).run silent .empty =
        (.ok [archived, savings], .empty) ∧
      archived.archived = true ∧ stxWallet.kind.due [archived, savings] = [savings] ∧
      ∃ account u, (stxWallet.nonCustodialAccounts {}).run silent .empty = (.ok [account], u) ∧
        stxWallet.Opens {} archived account ∧ ¬ stxWallet.Opens {} savings account := by
  refine ⟨rfl, rfl, rfl, _, _, rfl, ⟨rfl, rfl, rfl, fun _ _ => rfl⟩, ?_⟩
  intro opens
  exact absurd opens.label (by decide)

end Asset

end MultiWallet
