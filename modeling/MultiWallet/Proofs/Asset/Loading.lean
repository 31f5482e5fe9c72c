import MultiWallet.Proofs.Registry.Accounts

set_option autoImplicit false

namespace MultiWallet.Asset

open Dialogue

section Loaders

variable {oracle : Oracle}

-- No loader touches the accounts that are kept, and none of them halts otherwise than by failing.
theorem openAll_yields {α β : Type} {f : α → Dialogue β} {l : List α}
    (each : ∀ a, Gives oracle (fun _ => True) (f a)) :
    Yields oracle (fun _ => True) (openAll f l) :=
  (gives_openAll fun a _ => each a).yields.also fun _ _ _ _ => trivial

theorem nonCustodialAccounts_yields (a : Asset) (labels : Labels) :
    Yields oracle (fun _ => True) (a.nonCustodialAccounts labels) := by
  have entries := WalletRecords.yields_entries a.parties.records a.currency oracle
  unfold nonCustodialAccounts
  split
  · exact entries.bind fun _ _ => openAll_yields fun _ => gives_openAccount fun _ => trivial
  · exact entries.bind fun _ _ => openAll_yields fun _ => gives_openAccount fun _ => trivial
  · refine entries.attempt.bind fun answer _ => ?_
    split
    · refine Yields.bind (p := fun _ => True) ?_ fun _ _ => yields_pure trivial
      exact (gives_openAccount fun _ => trivial).yields
    · exact yields_pure trivial
  · exact (yields_ask _).bind fun answer _ => yields_ofAnswer answer

theorem custodialAccounts_yields (a : Asset) (labels : Labels) :
    Yields oracle (fun _ => True) (a.custodialAccounts labels) := by
  unfold custodialAccounts
  split
  · exact (yields_ask _).bind fun answer _ => yields_ofAnswer answer
  · refine Yields.bind (p := fun _ => True) ?_ fun _ _ => yields_pure trivial
    exact (gives_openAccount fun _ => trivial).yields

end Loaders

def found {α : Type} : Answer (List α) → List α
  | .ok found => found
  | .error _ => []

def merge (own : Answer (List CryptoAccount)) (held : List CryptoAccount)
    (interest : Answer (List InterestAccount)) : List Account :=
  (found own ++ held).map .crypto ++ (found interest).map .interest

/-- A load as it is made, loader by loader: it ends where the custodial accounts cannot be had, and
otherwise keeps what was found. -/
inductive Loading (a : Asset) (labels : Labels) (oracle : Oracle) (s : Session) :
    Checked (List Account) → Session → Prop where
  | refused {t : Session} (own : Answer (List CryptoAccount)) (u : Session) (cause : Failure)
      (first : (a.nonCustodialAccounts labels).attempt.run oracle s = (.ok own, u))
      (failed : (a.custodialAccounts labels).run oracle u = (.error (.failure cause), t)) :
      Loading a labels oracle s (.error (.failure cause)) t
  | kept (own : Answer (List CryptoAccount)) (held : List CryptoAccount)
      (interest : Answer (List InterestAccount)) (u v w : Session)
      (first : (a.nonCustodialAccounts labels).attempt.run oracle s = (.ok own, u))
      (second : (a.custodialAccounts labels).run oracle u = (.ok held, v))
      (third : (a.interestAccounts labels).attempt.run oracle v = (.ok interest, w)) :
      Loading a labels oracle s (.ok (merge own held interest))
        (keep a.currency (merge own held interest) w)

variable {a : Asset} {labels : Labels} {oracle : Oracle} {s t : Session}
  {result : Checked (List Account)}

theorem run_orElse_found {α : Type} {d : Dialogue (List α)} {answer : Answer (List α)}
    (attempted : d.attempt.run oracle s = (.ok answer, t)) :
    (d.orElse []).run oracle s = (.ok (found answer), t) := by
  rw [orElse, run_bind_ok attempted]
  cases answer <;> rfl

theorem attempt_answers {α : Type} {p : α → Prop} {d : Dialogue α} (yields : Yields oracle p d)
    (s : Session) : ∃ answer t, d.attempt.run oracle s = (.ok answer, t) ∧ t.KeepsAs s := by
  rcases run : d.run oracle s with ⟨result, t⟩
  obtain ⟨same, meets⟩ := yields s result t run
  cases meets with
  | ok a _ => exact ⟨.ok a, t, run_attempt_ok run, same⟩
  | failure cause => exact ⟨.error cause, t, run_attempt_failure run, same⟩

theorem loading_of_unloaded (unloaded : s.loaded a.currency = none)
    (called : (a.accounts labels).run oracle s = (result, t)) :
    a.Loading labels oracle s result t := by
  rw [accounts, run_session_bind, unloaded] at called
  obtain ⟨own, u, first, -⟩ := attempt_answers (a.nonCustodialAccounts_yields labels) s
  rcases second : (a.custodialAccounts labels).run oracle u with ⟨opened, v⟩
  obtain ⟨-, meets⟩ := a.custodialAccounts_yields labels u opened v second
  cases meets with
  | failure cause =>
    have failed : (a.load labels).run oracle s = (.error (.failure cause), v) := by
      rw [load, run_bind_ok (run_orElse_found first), run_bind_error second]
    rw [run_bind_error failed] at called
    cases called
    exact .refused own u cause first second
  | ok held _ =>
    obtain ⟨interest, w, third, -⟩ := attempt_answers (a.yields_interestAccounts labels) v
    have loaded : (a.load labels).run oracle s = (.ok (merge own held interest), w) := by
      rw [load, run_bind_ok (run_orElse_found first), run_bind_ok second,
        run_bind_ok (run_orElse_found third)]
      rfl
    rw [run_bind_ok loaded] at called
    cases called
    exact .kept own held interest u v w first second third

theorem run_accounts_loaded {known : List Account} (loaded : s.loaded a.currency = some known) :
    (a.accounts labels).run oracle s = (.ok known, s) := by
  rw [accounts, run_session_bind, loaded]
  rfl

theorem Loading.loaded (loading : a.Loading labels oracle s result t)
    (unloaded : s.loaded a.currency = none) : t.loaded a.currency = result.toOption := by
  cases loading with
  | refused own u cause first failed =>
    obtain ⟨_, _, again, before⟩ := attempt_answers (a.nonCustodialAccounts_yields labels) s
    cases first.symm.trans again
    obtain ⟨after, -⟩ := a.custodialAccounts_yields labels u _ t failed
    rw [after.loaded, before.loaded, unloaded]
    rfl
  | kept own held interest u v w first second third => simp [keep, Except.toOption]

/-- A load that fails, which it does only for the custodial accounts, leaves nothing behind, and the
loaders are asked again when the accounts are next called for. Where another loader failed, its
accounts are missing from then on: what was found is remembered, and no loader is asked again. -/
theorem failed_load_repeated (a : Asset) (labels : Labels) (oracle : Oracle) (s t : Session)
    (result : Checked (List Account)) (unloaded : s.loaded a.currency = none)
    (called : (a.accounts labels).run oracle s = (result, t)) :
    a.Loading labels oracle s result t ∧
      (∀ halt, result = .error halt → t.loaded a.currency = none ∧
        ∀ later u, u.loaded a.currency = none →
          ∀ next v, (a.accounts labels).run later u = (next, v) →
            a.Loading labels later u next v) ∧
      ∀ known, result = .ok known → t.loaded a.currency = some known ∧
        ∀ later u, u.loaded a.currency = some known →
          (a.accounts labels).run later u = (.ok known, u) := by
  have loading := loading_of_unloaded unloaded called
  have left := loading.loaded unloaded
  refine ⟨loading, ?_, ?_⟩
  · rintro halt rfl
    refine ⟨left, ?_⟩
    intro later u since next v again
    exact loading_of_unloaded since again
  · rintro known rfl
    refine ⟨left, ?_⟩
    intro later u since
    exact run_accounts_loaded since

def foreign : Asset :=
  { currency := .btc, enabled := true, kind := .external
    parties := { records := .external, custodian := .external, signer := .external
                 fees := .external, reporter := .external } }

def ownAccount : CryptoAccount :=
  { id := 1, label := "mine", currency := .btc, custody := .nonCustodial
    permissions := .nonCustodial, backend := .addressOnly "bc1qmine" }

-- The custodial accounts cannot be had at first.
def recovering : Oracle
  | _, .assetNonCustodial _ _ => .ok [ownAccount]
  | calls, .assetCustodial _ _ =>
    if calls.length < 2 then .error (.custodial "down") else .ok []
  | _, .assetInterest _ _ => .ok []
  | _, c => c.refused

theorem failed_load_repeated_foreign :
    Session.empty.loaded .btc = none ∧
      ∃ t v, (foreign.accounts {}).run recovering .empty =
          (.error (.failure (.custodial "down")), t) ∧
        t.loaded .btc = none ∧
        (foreign.accounts {}).run recovering t = (.ok [.crypto ownAccount], v) ∧
        foreign.Loading {} recovering t (.ok [.crypto ownAccount]) v := by
  refine ⟨rfl, _, _, rfl, rfl, rfl, ?_⟩
  obtain ⟨-, failed, -⟩ := failed_load_repeated foreign {} recovering .empty _ _ rfl rfl
  obtain ⟨left, again⟩ := failed _ rfl
  exact again recovering _ left _ _ rfl

-- The wallet's own accounts cannot be had at first.
def unlocking : Oracle
  | calls, .assetNonCustodial _ _ =>
    if calls.isEmpty then .error (.internal "locked") else .ok [ownAccount]
  | _, .assetCustodial _ _ => .ok []
  | _, .assetInterest _ _ => .ok []
  | _, c => c.refused

theorem degraded_load_kept :
    ∃ t u v, (foreign.nonCustodialAccounts {}).run unlocking .empty =
          (.error (.failure (.internal "locked")), u) ∧
        (foreign.accounts {}).run unlocking .empty = (.ok [], t) ∧
        t.loaded .btc = some [] ∧
        (foreign.accounts {}).run unlocking t = (.ok [], t) ∧
        (foreign.nonCustodialAccounts {}).run unlocking t = (.ok [ownAccount], v) :=
  ⟨_, _, _, rfl, rfl, rfl, rfl, rfl⟩

end MultiWallet.Asset
