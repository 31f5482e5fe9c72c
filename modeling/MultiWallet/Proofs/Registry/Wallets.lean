import MultiWallet.Proofs.Asset.Fetching
import MultiWallet.Proofs.Registry.Identity

set_option autoImplicit false

namespace MultiWallet

open Dialogue

inductive Round (labels : Labels) (oracle : Oracle) (start : Session) :
    List Listing → Session → List (List Account) → Session → Prop where
  | done (s : Session) : Round labels oracle start [] s [] s
  | next (l : Listing) (rest : List Listing) (s t u : Session) (own : List Account)
      (lists : List (List Account)) (first : l.Fetched labels oracle start s (.ok own) t)
      (more : Round labels oracle start rest t lists u) :
      Round labels oracle start (l :: rest) s (own :: lists) u

def collect (labels : Labels) : List Listing → Dialogue (List Account)
  | [] => return []
  | l :: rest => do
    let own ← l.accounts labels
    return own ++ (← collect labels rest)

section Collecting

variable {labels : Labels} {oracle : Oracle} {start s t : Session} {wanted : List Listing}
  {lists : List (List Account)} {result : Checked (List Account)}

theorem collect_append (labels : Labels) (first rest : List Listing) :
    collect labels (first ++ rest) = do
      let found ← collect labels first
      return found ++ (← collect labels rest) := by
  induction first with
  | nil => simp [collect]
  | cons l more ih =>
    simp only [List.cons_append, collect, ih, bind_assoc, pure_bind, List.append_assoc]

abbrev Visits (start : Session) (visited : List Listing) (s t : Session) : Prop :=
  s.Passes (fun shelf => shelf ∈ visited.map Listing.shelf)
    (fun c => ∃ l ∈ visited, start.kept l.shelf = none ∧ l.Loads c) t

theorem Listing.Fetched.visits {l : Listing} (fetched : l.Fetched labels oracle start s result t)
    {visited : List Listing} (member : l ∈ visited) : Visits start visited s t := by
  apply fetched.passes.mono
  · rintro _ rfl
    exact List.mem_map_of_mem member
  · intro c loads
    exact ⟨l, member, loads⟩

theorem Visits.mono {visited others : List Listing} (visits : Visits start visited s t)
    (inside : ∀ l ∈ visited, l ∈ others) : Visits start others s t := by
  apply Session.Passes.mono visits
  · intro shelf member
    obtain ⟨l, visited, same⟩ := List.mem_map.1 member
    exact List.mem_map.2 ⟨l, inside l visited, same⟩
  · rintro c ⟨l, visited, loads⟩
    exact ⟨l, inside l visited, loads⟩

theorem Round.visits (round : Round labels oracle start wanted s lists t) :
    Visits start wanted s t := by
  induction round with
  | done s => exact .refl s
  | next l rest s t u own lists first more ih =>
    have later : Visits start (l :: rest) t u := ih.mono fun _ => List.mem_cons_of_mem l
    exact (first.visits List.mem_cons_self).trans later

theorem round_of_run (distinct : (wanted.map Listing.shelf).Nodup)
    (same : ∀ l ∈ wanted, s.kept l.shelf = start.kept l.shelf)
    (run : (collect labels wanted).run oracle s = (result, t)) :
    (∃ lists, Round labels oracle start wanted s lists t ∧ result = .ok lists.flatten) ∨
      ∃ before l after lists u cause, wanted = before ++ l :: after ∧
        Round labels oracle start before s lists u ∧
        l.Fetched labels oracle start u (.error (.failure cause)) t ∧
        result = .error (.failure cause) := by
  induction wanted generalizing s t result with
  | nil =>
    cases run
    exact .inl ⟨[], .done _, rfl⟩
  | cons l rest ih =>
    obtain ⟨apart, distinct⟩ := List.nodup_cons.1 distinct
    obtain ⟨first, later⟩ := List.forall_mem_cons.1 same
    rw [collect] at run
    obtain ⟨halt, got, rfl⟩ | ⟨own, u, got, run⟩ := run_bind_cases run
    · have fetched := Listing.fetched_of_run first got
      obtain ⟨cause, rfl⟩ := fetched.failure
      exact .inr ⟨[], l, rest, [], s, cause, rfl, .done s, fetched, rfl⟩
    · have fetched : l.Fetched labels oracle start s (.ok own) u := Listing.fetched_of_run first got
      have untouched : ∀ m ∈ rest, u.kept m.shelf = start.kept m.shelf := by
        intro m member
        have other : m.shelf ≠ l.shelf := by
          intro same
          exact apart (same ▸ List.mem_map_of_mem member)
        rw [fetched.passes.kept m.shelf other, later m member]
      rcases more : (collect labels rest).run oracle u with ⟨ended, v⟩
      obtain ⟨lists, round, rfl⟩ | ⟨before, m, after, lists, w, cause, rfl, round, failed, rfl⟩ :=
        ih distinct untouched more
      · rw [run_bind_ok more] at run
        cases run
        exact .inl ⟨own :: lists, .next l rest s u _ own lists fetched round, rfl⟩
      · rw [run_bind_error more] at run
        cases run
        exact .inr ⟨l :: before, m, after, own :: lists, w, cause, rfl,
          .next l before s u w own lists fetched round, failed, rfl⟩

end Collecting

namespace Registry

theorem gather_eq (labels : Labels) (assets : List Asset) :
    gather labels assets = collect labels (assets.map .crypto) := by
  induction assets with
  | nil => rfl
  | cons a rest ih =>
    simp [gather, collect, Asset.group, Listing.accounts, members_ofAccounts?, filter_all, ih]

theorem allWallets_eq (r : Registry) :
    r.allWallets = do
      let accounts ← collect r.labels r.everything
      return { label := r.labels.allWallets, accounts } := by
  simp [allWallets, everything, gather_eq, collect_append, collect, FiatAsset.group,
    Listing.accounts, members_ofAccounts?]

def listings (r : Registry) : List Listing := r.assets.map .crypto ++ [.fiat r.fiat]

theorem everything_sublist (r : Registry) : r.everything.Sublist r.listings :=
  (List.filter_sublist.map Listing.crypto).append (List.Sublist.refl [Listing.fiat r.fiat])

theorem nodup_of_repeated? {assets : List Asset} {seen : List Currency}
    (none : repeated? assets seen = none) :
    (assets.map (·.currency)).Nodup ∧ ∀ a ∈ assets, a.currency ∉ seen := by
  induction assets generalizing seen with
  | nil => simp
  | cons a rest ih =>
    unfold repeated? at none
    by_cases known : seen.elem a.currency = true
    next =>
      rw [if_pos known] at none
      cases none
    next =>
      rw [if_neg known] at none
      obtain ⟨distinct, unseen⟩ := ih none
      have new : a.currency ∉ rest.map (·.currency) := by
        intro member
        obtain ⟨b, later, same⟩ := List.mem_map.1 member
        exact unseen b later (by simp [same])
      refine ⟨List.nodup_cons.2 ⟨new, distinct⟩, List.forall_mem_cons.2 ⟨by simpa using known, ?_⟩⟩
      intro b member before
      exact unseen b member (List.mem_cons_of_mem _ before)

variable {records : WalletRecords} {custodian : Custodian} {reporter : Reporter} {labels : Labels}
  {assets : List Asset} {r : Registry}

theorem distinct_of_make (made : make records custodian reporter labels assets = .ok r) :
    (r.assets.map (·.currency)).Nodup := by
  unfold make at made
  split at made
  next => cases made
  next none =>
    cases made
    exact (nodup_of_repeated? none).1

theorem distinct_shelves (distinct : (r.assets.map (·.currency)).Nodup) :
    (r.listings.map Listing.shelf).Nodup := by
  have shelves : r.listings.map Listing.shelf =
      (r.assets.map (·.currency)).map Shelf.crypto ++ [.fiat] := by
    simp [listings, Listing.shelf]
  rw [shelves]
  apply List.Nodup.append
  · exact distinct.map fun _ _ same => Shelf.crypto.inj same
  · exact List.nodup_singleton _
  · simp

-- What is visited fills no shelf of another listing, and calls none of its loaders.
theorem visits_spare {visited : List Listing} {s t : Session}
    (distinct : (r.assets.map (·.currency)).Nodup) (inside : ∀ l ∈ visited, l ∈ r.everything)
    (visits : Visits s visited s t) :
    ∃ calls, t.calls = s.calls ++ calls ∧
      (∀ c ∈ calls, ∃ l ∈ visited, s.kept l.shelf = none ∧ l.Loads c) ∧
      ∀ l ∈ r.listings, l ∉ visited →
        t.kept l.shelf = s.kept l.shelf ∧ ∀ c ∈ calls, ¬ l.Loads c := by
  obtain ⟨calls, log, made⟩ := visits.log
  refine ⟨calls, log, made, ?_⟩
  intro l registered spared
  have elsewhere : ∀ m ∈ visited, l.shelf ≠ m.shelf := by
    intro m member same
    have among : m ∈ r.listings := r.everything_sublist.subset (inside m member)
    have equal := List.inj_on_of_nodup_map (distinct_shelves distinct) registered among same
    exact spared (equal ▸ member)
  constructor
  · apply visits.kept
    intro member
    obtain ⟨m, member, same⟩ := List.mem_map.1 member
    exact elsewhere m member same.symm
  · intro c member loads
    obtain ⟨m, member, -, loaded⟩ := made c member
    exact elsewhere m member (loads.shelf_eq loaded)

/-- All wallets are the accounts of the assets in use, in the order in which they were registered,
and the fiat accounts after them; they can be had as long as each of them can. Otherwise the first
that cannot be had is the end of it. The loaders of no other asset are called, and what is kept of
its accounts stays as it was. -/
theorem allWallets_concatenates
    (made : make records custodian reporter labels assets = .ok r) (oracle : Oracle)
    (s t : Session) (result : Checked AccountGroup)
    (run : r.allWallets.run oracle s = (result, t)) :
    ∃ visited,
      ((visited = r.everything ∧ ∃ lists, Round r.labels oracle s visited s lists t ∧
          result = .ok { label := r.labels.allWallets, accounts := lists.flatten }) ∨
        ∃ before l after lists u cause, r.everything = before ++ l :: after ∧
          visited = before ++ [l] ∧ Round r.labels oracle s before s lists u ∧
          l.Fetched r.labels oracle s u (.error (.failure cause)) t ∧
          result = .error (.failure cause)) ∧
      ∃ calls, t.calls = s.calls ++ calls ∧
        (∀ c ∈ calls, ∃ l ∈ visited, s.kept l.shelf = none ∧ l.Loads c) ∧
        ∀ l ∈ r.listings, l ∉ visited →
          t.kept l.shelf = s.kept l.shelf ∧ ∀ c ∈ calls, ¬ l.Loads c := by
  have currencies := distinct_of_make made
  have shelves : (r.everything.map Listing.shelf).Nodup :=
    (distinct_shelves currencies).sublist (r.everything_sublist.map Listing.shelf)
  rcases ran : (collect r.labels r.everything).run oracle s with ⟨got, u⟩
  rw [allWallets_eq, run_bind, ran] at run
  obtain ⟨lists, round, rfl⟩ | ⟨before, l, after, lists, v, cause, all, round, failed, rfl⟩ :=
    round_of_run shelves (fun _ _ => rfl) ran
  · cases run
    exact ⟨r.everything, .inl ⟨rfl, lists, round, rfl⟩,
      visits_spare currencies (fun l member => member) round.visits⟩
  · cases run
    have visits : Visits s (before ++ [l]) s t := by
      apply Session.Passes.trans
      · exact round.visits.mono fun m member => List.mem_append_left [l] member
      · exact failed.visits (List.mem_append_right before List.mem_cons_self)
    have inside : ∀ m ∈ before ++ [l], m ∈ r.everything := by
      intro m member
      rw [all, List.append_cons]
      exact List.mem_append_left after member
    exact ⟨before ++ [l],
      .inr ⟨before, l, after, lists, v, cause, all, rfl, round, failed, rfl⟩,
      visits_spare currencies inside visits⟩

def idleEther : Asset := { Asset.foreign with currency := .eth, enabled := false }

def severalAssets : List Asset :=
  [Asset.foreign, idleEther, { Asset.foreign with currency := .xlm }]

def several : Registry :=
  { records := .external, custodian := .external, reporter := .external, labels := {}
    assets := severalAssets }

def heldLumens : CryptoAccount :=
  { Asset.ownAccount with id := 2, currency := .xlm, custody := .custodial }

-- The wallet holds bitcoins only, and the custodian answers this for lumens.
def answering (held : Answer (List CryptoAccount)) : Oracle
  | _, .assetNonCustodial .btc _ => .ok [Asset.ownAccount]
  | _, .assetCustodial .btc _ => .ok []
  | _, .assetCustodial .xlm _ => held
  | _, .fiatCurrencies => .ok ["USD"]
  | _, c => c.refused

theorem allWallets_concatenates_several :
    make .external .external .external {} severalAssets = .ok several ∧
      ∃ group t, several.allWallets.run (answering (.ok [heldLumens])) .empty = (.ok group, t) ∧
        group.accounts.map Account.currency? = [some .btc, some .xlm, none] ∧
        t.loaded .eth = none ∧ ∀ c ∈ t.calls, ¬ (Listing.crypto idleEther).Loads c := by
  have made : make .external .external .external {} severalAssets = .ok several := rfl
  obtain ⟨group, t, run, currencies⟩ :
      ∃ group t, several.allWallets.run (answering (.ok [heldLumens])) .empty = (.ok group, t) ∧
        group.accounts.map Account.currency? = [some .btc, some .xlm, none] := ⟨_, _, rfl, rfl⟩
  obtain ⟨visited, gone, calls, log, -, spared⟩ :=
    allWallets_concatenates made (answering (.ok [heldLumens])) .empty t _ run
  obtain ⟨rfl, -⟩ | ⟨_, _, _, _, _, _, -, -, -, -, impossible⟩ := gone
  · have registered : .crypto idleEther ∈ several.listings := by
      simp [listings, several, severalAssets]
    have idle : .crypto idleEther ∉ several.everything := by
      simp [everything, enabledAssets, idleEther]
    obtain ⟨kept, uncalled⟩ := spared (.crypto idleEther) registered idle
    have all : t.calls = calls := log
    exact ⟨made, group, t, run, currencies, kept, all ▸ uncalled⟩
  · cases impossible

-- The custodian is down, and nobody asks it for the fiat currencies any more.
example :
    ∃ t, several.allWallets.run (answering (.error (.custodial "down"))) .empty =
        (.error (.failure (.custodial "down")), t) ∧ .fiatCurrencies ∉ t.calls :=
  ⟨_, rfl, by decide⟩

end Registry

end MultiWallet
