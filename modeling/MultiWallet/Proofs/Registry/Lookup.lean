import MultiWallet.Proofs.Addresses
import MultiWallet.Proofs.Asset.Loading
import MultiWallet.Proofs.Registry.Offers

set_option autoImplicit false

namespace MultiWallet

open Dialogue

theorem Asset.accounts_failure (a : Asset) {labels : Labels} {oracle : Oracle} {s t : Session}
    {halt : Halt} (run : (a.accounts labels).run oracle s = (.error halt, t)) :
    ∃ cause, halt = .failure cause := by
  cases known : s.loaded a.currency with
  | some accounts => cases (run_accounts_loaded known).symm.trans run
  | none =>
    obtain ⟨own, u, cause, -, -⟩ := loading_of_unloaded known run
    exact ⟨cause, rfl⟩

namespace Registry

inductive Resolved (oracle : Oracle) :
    List Account → Session → List (Answer Address) → Session → Prop where
  | done (s : Session) : Resolved oracle [] s [] s
  | next (account : Account) (rest : List Account) (s t u : Session) (answer : Answer Address)
      (answers : List (Answer Address))
      (asked : account.receiveAddress.attempt.run oracle s = (.ok answer, t))
      (more : Resolved oracle rest t answers u) :
      Resolved oracle (account :: rest) s (answer :: answers) u

def Matches (text : String) (answers : List (Answer Address)) (i : Nat) : Prop :=
  ∃ address, answers[i]? = some (.ok address) ∧ Text.foldCase address.text = Text.foldCase text

def First (text : String) (accounts : List Account) (answers : List (Answer Address)) :
    Option Account → Prop
  | some account =>
    ∃ i, accounts[i]? = some account ∧ Matches text answers i ∧ ∀ j < i, ¬ Matches text answers j
  | none => ∀ i, ¬ Matches text answers i

/-- How the account at an address is looked up, and what comes of it. It is an error that the
currency is not registered, or that its accounts cannot be had; that one of them has no address to
tell is none. -/
inductive Lookup (r : Registry) (currency : Currency) (text : String) (oracle : Oracle)
    (s : Session) : Checked (Option Account) → Session → Prop where
  | unregistered (absent : ∀ a ∈ r.assets, a.currency ≠ currency) :
      Lookup r currency text oracle s (.error (.failure (.unknownAsset currency))) s
  | unloaded (a : Asset) (t : Session) (cause : Failure)
      (registered : r.asset? currency = some a)
      (failed : (a.accounts r.labels).run oracle s = (.error (.failure cause), t)) :
      Lookup r currency text oracle s (.error (.failure cause)) t
  | searched (a : Asset) (accounts : List Account) (answers : List (Answer Address))
      (found : Option Account) (t : Session) (registered : r.asset? currency = some a)
      (loaded : (a.accounts r.labels).run oracle s = (.ok accounts, t))
      (resolved : Resolved oracle accounts t answers
        (t.after (accounts.filterMap Account.addressCall?)))
      (first : First text accounts answers found) :
      Lookup r currency text oracle s (.ok found)
        (t.after (accounts.filterMap Account.addressCall?))

section Resolving

variable {oracle : Oracle} {accounts : List Account} {s t : Session}
  {answers : List (Answer Address)} {text : String}

theorem Resolved.length_eq (resolved : Resolved oracle accounts s answers t) :
    answers.length = accounts.length := by
  induction resolved with
  | done s => rfl
  | next account rest s t u answer answers asked more ih => simp [ih]

theorem Resolved.run (resolved : Resolved oracle accounts s answers t) :
    (resolveAll accounts).run oracle s = (.ok (accounts.zip answers), t) := by
  induction resolved with
  | done s => rfl
  | next account rest s t u answer answers asked more ih =>
    rw [resolveAll, run_bind_ok asked, run_bind_ok ih]
    rfl

theorem run_attempt_receiveAddress (account : Account) (oracle : Oracle) (s : Session) :
    ∃ answer, account.receiveAddress.attempt.run oracle s =
      (.ok answer, s.after account.addressCall?.toList) := by
  obtain ⟨(cause | _) | address, bounded, run⟩ := account.receiveAddress_makes oracle s
  next => exact ⟨.error cause, run_attempt_failure run⟩
  next => exact absurd rfl bounded
  next => exact ⟨.ok address, run_attempt_ok run⟩

theorem resolved_exists (accounts : List Account) (oracle : Oracle) (s : Session) :
    ∃ answers, Resolved oracle accounts s answers
      (s.after (accounts.filterMap Account.addressCall?)) := by
  induction accounts generalizing s with
  | nil =>
    refine ⟨[], ?_⟩
    simpa using Resolved.done s
  | cons account rest ih =>
    obtain ⟨answer, asked⟩ := run_attempt_receiveAddress account oracle s
    obtain ⟨answers, more⟩ := ih (s.after account.addressCall?.toList)
    have last : (s.after account.addressCall?.toList).after (rest.filterMap Account.addressCall?) =
        s.after ((account :: rest).filterMap Account.addressCall?) := by
      rw [Session.after_after]
      cases called : account.addressCall? <;> simp [called]
    exact ⟨answer :: answers, last ▸ .next account rest s _ _ answer answers asked more⟩

theorem isAt_iff (answer : Answer Address) : isAt text answer = true ↔
    ∃ address, answer = .ok address ∧ Text.foldCase address.text = Text.foldCase text := by
  cases answer <;> simp [isAt, Address.isAt, Text.sameIgnoringCase]

theorem matches_zero (answer : Answer Address) :
    Matches text (answer :: answers) 0 ↔ isAt text answer = true := by
  simp [Matches, isAt_iff]

theorem matches_succ (answer : Answer Address) (i : Nat) :
    Matches text (answer :: answers) (i + 1) ↔ Matches text answers i := by
  simp [Matches]

theorem First.here {account : Account} {rest : List Account} {answer : Answer Address}
    (found : isAt text answer = true) :
    First text (account :: rest) (answer :: answers) (some account) :=
  ⟨0, rfl, (matches_zero answer).2 found, fun j before => absurd before (Nat.not_lt_zero j)⟩

theorem First.there {account : Account} {rest : List Account} {answer : Answer Address}
    {found : Option Account} (passed : ¬ isAt text answer = true)
    (first : First text rest answers found) :
    First text (account :: rest) (answer :: answers) found := by
  cases found with
  | none =>
    intro i
    cases i with
    | zero => rwa [matches_zero]
    | succ i =>
      rw [matches_succ]
      exact first i
  | some found =>
    obtain ⟨i, there, matching, earliest⟩ := first
    refine ⟨i + 1, there, (matches_succ answer i).2 matching, fun j before => ?_⟩
    cases j with
    | zero => rwa [matches_zero]
    | succ j =>
      rw [matches_succ]
      exact earliest j (Nat.lt_of_succ_lt_succ before)

theorem first_firstAt (sameLength : answers.length = accounts.length) :
    First text accounts answers (firstAt text (accounts.zip answers)) := by
  induction accounts generalizing answers with
  | nil =>
    obtain rfl := List.eq_nil_of_length_eq_zero sameLength
    simp [First, firstAt, Matches]
  | cons account rest ih =>
    obtain _ | ⟨answer, answers⟩ := answers
    next => cases sameLength
    next =>
      by_cases found : isAt text answer = true
      next =>
        have chosen : firstAt text ((account :: rest).zip (answer :: answers)) = some account := by
          simp [firstAt, found]
        rw [chosen]
        exact .here found
      next =>
        have passed : firstAt text ((account :: rest).zip (answer :: answers)) =
            firstAt text (rest.zip answers) := by
          simp [firstAt, found]
        rw [passed]
        exact .there found (ih (Nat.succ.inj sameLength))

end Resolving

theorem findByAddress_eq (r : Registry) (currency : Currency) (text : String) :
    r.findByAddress currency text = (liftM (r.asset currency) : Dialogue Asset) >>= fun a =>
      a.accounts r.labels >>= fun accounts => firstAt text <$> resolveAll accounts := by
  unfold findByAddress
  refine congrArg _ (funext fun a => ?_)
  rw [Asset.group, bind_assoc]
  refine congrArg _ (funext fun accounts => ?_)
  rw [pure_bind, filter_all]
  cases accounts with
  | nil => rfl
  | cons first rest => simp [AccountGroup.ofAccounts?]

theorem isAt_congr {a b : String} (same : Text.foldCase a = Text.foldCase b) : isAt a = isAt b := by
  funext answer
  cases answer <;> simp [isAt, Address.isAt, Text.sameIgnoringCase, same]

theorem findByAddress_congr {a b : String} (same : Text.foldCase a = Text.foldCase b) (r : Registry)
    (currency : Currency) : r.findByAddress currency a = r.findByAddress currency b := by
  have first : firstAt a = firstAt b := by
    funext resolved
    rw [firstAt, firstAt, isAt_congr same]
  rw [findByAddress_eq, findByAddress_eq, first]

theorem run_findByAddress (r : Registry) (currency : Currency) (text : String) (oracle : Oracle)
    (s : Session) : ∃ result t, (r.findByAddress currency text).run oracle s = (result, t) ∧
      Lookup r currency text oracle s result t := by
  rw [findByAddress_eq]
  cases registered : r.asset? currency with
  | none =>
    have absent : r.asset currency = fail (.unknownAsset currency) := by
      rw [asset, registered]
      rfl
    rw [absent]
    refine ⟨_, s, rfl, .unregistered ?_⟩
    simpa [asset?] using registered
  | some a =>
    rw [asset_eq_ok.2 registered, liftM_ok_bind]
    rcases run : (a.accounts r.labels).run oracle s with ⟨halt | accounts, t⟩
    next =>
      obtain ⟨cause, rfl⟩ := a.accounts_failure run
      exact ⟨_, t, run_bind_error run _, .unloaded a t cause registered run⟩
    next =>
      obtain ⟨answers, resolved⟩ := resolved_exists accounts oracle t
      refine ⟨_, _, ?_, .searched a accounts answers _ t registered run resolved
        (first_firstAt resolved.length_eq)⟩
      rw [run_bind_ok run]
      exact run_map_eq_ok.2 ⟨_, resolved.run, rfl⟩

namespace Lookup

variable {r : Registry} {currency : Currency} {text : String} {oracle : Oracle} {s t : Session}
  {result : Checked (Option Account)}

theorem tried (lookup : r.Lookup currency text oracle s result t) :
    ∃ answer, result.tried = .ok answer := by
  cases lookup with
  | unregistered absent => exact ⟨_, rfl⟩
  | unloaded a t cause registered failed => exact ⟨_, rfl⟩
  | searched a accounts answers found t registered loaded resolved first => exact ⟨_, rfl⟩

theorem of_unregistered (lookup : r.Lookup currency text oracle s result t)
    (absent : ∀ a ∈ r.assets, a.currency ≠ currency) :
    result = .error (.failure (.unknownAsset currency)) ∧ t = s := by
  have never {a : Asset} (registered : r.asset? currency = some a) : False := by
    apply absent a (List.mem_of_find?_eq_some registered)
    simpa using List.find?_some registered
  cases lookup with
  | unregistered absent => exact ⟨rfl, rfl⟩
  | unloaded a t cause registered failed => exact (never registered).elim
  | searched a accounts answers found t registered loaded resolved first =>
    exact (never registered).elim

end Lookup

end Registry

end MultiWallet
