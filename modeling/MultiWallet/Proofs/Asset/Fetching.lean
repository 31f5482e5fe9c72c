import MultiWallet.Proofs.Asset.Calls

set_option autoImplicit false

namespace MultiWallet

open Dialogue

/-- What loading may have done to a session: such calls were made, and such shelves filled. -/
structure Session.Passes (touched : Shelf → Prop) (made : Call → Prop) (s t : Session) : Prop where
  log : ∃ calls, t.calls = s.calls ++ calls ∧ ∀ c ∈ calls, made c
  kept : ∀ shelf, ¬ touched shelf → t.kept shelf = s.kept shelf

namespace Session.Passes

variable {touched : Shelf → Prop} {made : Call → Prop} {s t u : Session}

theorem refl (s : Session) : s.Passes touched made s where
  log := ⟨[], (List.append_nil s.calls).symm, by simp⟩
  kept _ _ := rfl

theorem trans (first : s.Passes touched made t) (rest : t.Passes touched made u) :
    s.Passes touched made u where
  log := by
    obtain ⟨earlier, before, all⟩ := first.log
    obtain ⟨later, after, others⟩ := rest.log
    refine ⟨earlier ++ later, ?_, ?_⟩
    · rw [after, before, List.append_assoc]
    · intro c member
      rcases List.mem_append.1 member with member | member
      · exact all c member
      · exact others c member
  kept shelf spared := (rest.kept shelf spared).trans (first.kept shelf spared)

theorem mono {touched' : Shelf → Prop} {made' : Call → Prop} (passes : s.Passes touched made t)
    (shelves : ∀ shelf, touched shelf → touched' shelf) (calls : ∀ c, made c → made' c) :
    s.Passes touched' made' t where
  log := by
    obtain ⟨added, log, all⟩ := passes.log
    exact ⟨added, log, fun c member => calls c (all c member)⟩
  kept shelf spared := passes.kept shelf fun filled => spared (shelves shelf filled)

theorem keep (passes : s.Passes touched made t) {shelf : Shelf} (filled : touched shelf)
    (accounts : List Account) : s.Passes touched made (t.keep accounts shelf) where
  log := by
    cases shelf <;> exact passes.log
  kept other spared := by
    have different : other ≠ shelf := by
      rintro rfl
      exact spared filled
    rw [kept_keep_of_ne accounts different, passes.kept other spared]

theorem of_run {α : Type} {p : α → Prop} {d : Dialogue α} {oracle : Oracle} {result : Checked α}
    (asks : d.Asks made) (yields : Yields oracle p d) (run : d.run oracle s = (result, t)) :
    s.Passes touched made t where
  log := asks.of_run run
  kept _ _ := (yields s result t run).1.kept

end Session.Passes

namespace FiatAsset

def Opens (a : FiatAsset) (labels : Labels) (code : String) (account : Account) : Prop :=
  ∃ id, account = .fiat { id, label := labels.fiatFor code, code, custodian := a.custodian }

inductive Opening (a : FiatAsset) (labels : Labels) (oracle : Oracle) (s : Session) :
    Checked (List Account) → Session → Prop where
  | refused (t : Session) (cause : Failure)
      (failed : a.custodian.fiatCurrencies.run oracle s = (.error (.failure cause), t)) :
      Opening a labels oracle s (.error (.failure cause)) t
  | kept (codes : List String) (accounts : List Account) (t u : Session)
      (listed : a.custodian.fiatCurrencies.run oracle s = (.ok codes, t))
      (opened : (Asset.openAll (a.openAccount labels) codes).run oracle t = (.ok accounts, u))
      (each : List.Forall₂ (a.Opens labels) codes accounts) :
      Opening a labels oracle s (.ok accounts) { u with loadedFiat := some accounts }

theorem gives_opened (a : FiatAsset) (labels : Labels) (oracle : Oracle) (codes : List String) :
    Gives oracle (List.Forall₂ (a.Opens labels) codes)
      (Asset.openAll (a.openAccount labels) codes) :=
  Asset.gives_openEach fun _ _ => gives_freshId.bind fun id _ => gives_pure ⟨id, rfl⟩

variable {a : FiatAsset} {labels : Labels} {oracle : Oracle} {s t : Session}
  {result : Checked (List Account)}

theorem opening_of_unloaded (unloaded : s.loadedFiat = none)
    (called : (a.accounts labels).run oracle s = (result, t)) :
    a.Opening labels oracle s result t := by
  rw [accounts, run_session_bind, unloaded] at called
  rcases listed : a.custodian.fiatCurrencies.run oracle s with ⟨asked, u⟩
  have meets := (a.custodian.yields_fiatCurrencies oracle s asked u listed).2
  cases meets with
  | failure cause =>
    simp only [run_bind_error listed] at called
    cases called
    exact .refused _ cause listed
  | ok codes known =>
    obtain ⟨accounts, v, opened, each, -⟩ := (a.gives_opened labels oracle codes).run u
    simp only [run_bind_ok listed, run_bind_ok opened] at called
    cases called
    exact .kept codes accounts u v listed opened each

theorem Opening.passes (opening : a.Opening labels oracle s result t) :
    s.Passes (· = .fiat) (Listing.fiat a).Loads t := by
  have asks : a.custodian.fiatCurrencies.Asks (Listing.fiat a).Loads :=
    Custodian.asks_fiatCurrencies (.currencies a)
  have yields := a.custodian.yields_fiatCurrencies oracle
  cases opening with
  | refused t cause failed => exact .of_run asks yields failed
  | kept codes accounts t u listed opened each =>
    have silent : (Asset.openAll (a.openAccount labels) codes).Asks (Listing.fiat a).Loads :=
      Asset.asks_openAll (fun code => .bind asks_freshId fun _ => asks_pure _) codes
    have first : s.Passes (· = .fiat) (Listing.fiat a).Loads t := .of_run asks yields listed
    have second : t.Passes (· = .fiat) (Listing.fiat a).Loads u :=
      .of_run silent (a.gives_opened labels oracle codes).yields opened
    exact (first.trans second).keep rfl accounts

end FiatAsset

namespace Asset

variable {a : Asset} {labels : Labels} {oracle : Oracle} {s t : Session}

theorem passes_own {result : Checked (Answer (List CryptoAccount))}
    (run : (a.nonCustodialAccounts labels).attempt.run oracle s = (result, t)) :
    s.Passes (· = .crypto a.currency) (Listing.crypto a).Loads t :=
  .of_run (a.asks_nonCustodialAccounts labels).attempt
    (a.nonCustodialAccounts_yields labels).attempt run

theorem passes_held {result : Checked (List CryptoAccount)}
    (run : (a.custodialAccounts labels).run oracle s = (result, t)) :
    s.Passes (· = .crypto a.currency) (Listing.crypto a).Loads t :=
  .of_run (a.asks_custodialAccounts labels) (a.custodialAccounts_yields labels) run

theorem passes_interest {result : Checked (Answer (List InterestAccount))}
    (run : (a.interestAccounts labels).attempt.run oracle s = (result, t)) :
    s.Passes (· = .crypto a.currency) (Listing.crypto a).Loads t :=
  .of_run (a.asks_interestAccounts labels).attempt (a.yields_interestAccounts labels).attempt run

theorem Loading.passes {result : Checked (List Account)}
    (loading : a.Loading labels oracle s result t) :
    s.Passes (· = .crypto a.currency) (Listing.crypto a).Loads t := by
  cases loading with
  | refused own u cause first failed => exact (passes_own first).trans (passes_held failed)
  | kept own held interest u v w first second third =>
    have loaded : s.Passes (· = .crypto a.currency) (Listing.crypto a).Loads w :=
      ((passes_own first).trans (passes_held second)).trans (passes_interest third)
    exact loaded.keep rfl (merge own held interest)

end Asset

namespace Listing

/-- How the accounts of a listing are come by: they are taken as they were kept at the start, and
loaded where they were not. -/
inductive Fetched (labels : Labels) (oracle : Oracle) (start : Session) :
    Listing → Session → Checked (List Account) → Session → Prop where
  | kept (l : Listing) (s : Session) (known : List Account)
      (there : start.kept l.shelf = some known) : Fetched labels oracle start l s (.ok known) s
  | crypto (a : Asset) (s t : Session) (result : Checked (List Account))
      (missing : start.loaded a.currency = none) (loading : a.Loading labels oracle s result t) :
      Fetched labels oracle start (.crypto a) s result t
  | fiat (a : FiatAsset) (s t : Session) (result : Checked (List Account))
      (missing : start.loadedFiat = none) (opening : a.Opening labels oracle s result t) :
      Fetched labels oracle start (.fiat a) s result t

variable {labels : Labels} {oracle : Oracle} {start s t : Session} {l : Listing}
  {result : Checked (List Account)}

theorem fetched_of_run (same : s.kept l.shelf = start.kept l.shelf)
    (run : (l.accounts labels).run oracle s = (result, t)) :
    l.Fetched labels oracle start s result t := by
  cases there : s.kept l.shelf with
  | some known =>
    rw [run_accounts_kept there] at run
    cases run
    exact .kept l s known (same.symm.trans there)
  | none =>
    have missing : start.kept l.shelf = none := same.symm.trans there
    cases l with
    | crypto a => exact .crypto a s t result missing (Asset.loading_of_unloaded there run)
    | fiat a => exact .fiat a s t result missing (FiatAsset.opening_of_unloaded there run)

theorem Fetched.failure {halt : Halt} (fetched : l.Fetched labels oracle start s (.error halt) t) :
    ∃ cause, halt = .failure cause := by
  cases fetched with
  | crypto a s t result missing loading =>
    cases loading
    exact ⟨_, rfl⟩
  | fiat a s t result missing opening =>
    cases opening
    exact ⟨_, rfl⟩

theorem Fetched.passes (fetched : l.Fetched labels oracle start s result t) :
    s.Passes (· = l.shelf) (fun c => start.kept l.shelf = none ∧ l.Loads c) t := by
  cases fetched with
  | kept l s known there => exact .refl s
  | crypto a s t result missing loading =>
    exact loading.passes.mono (fun _ same => same) fun c loads => ⟨missing, loads⟩
  | fiat a s t result missing opening =>
    exact opening.passes.mono (fun _ same => same) fun c loads => ⟨missing, loads⟩

end Listing

end MultiWallet
