import MultiWallet.Proofs.Asset.Shelf

set_option autoImplicit false

namespace MultiWallet

open Dialogue

inductive Operation where
  | prepare
  | allWallets
  | accounts (currency : Currency)
  | group (currency : Currency) (filter : AccountFilter)
  | targets (source : CryptoAccount) (action : Action)
  | findByAddress (currency : Currency) (text : String)
  | fiatAccounts
  | fiatGroup

namespace Registry

variable {r : Registry} {oracle : Oracle} {s t : Session}

def perform (r : Registry) : Operation → Dialogue (List Account)
  | .prepare => do
    r.prepare
    return []
  | .allWallets => do return (← r.allWallets).accounts
  | .accounts currency => do
    let asset ← r.asset currency
    asset.accounts r.labels
  | .group currency filter => do
    let asset ← r.asset currency
    return members (← asset.group r.labels filter)
  | .targets source action => r.targets source action
  | .findByAddress currency text => do return (← r.findByAddress currency text).toList
  | .fiatAccounts => r.fiat.accounts r.labels
  | .fiatGroup => do return members (← r.fiat.group r.labels)

def everything (r : Registry) : List Listing := r.enabledAssets.map .crypto ++ [.fiat r.fiat]

/-- The accounts that the operation has to have at hand, in the order in which it gets them. An
operation on a currency that is not registered needs none. -/
def wanted (r : Registry) : Operation → List Listing
  | .prepare => []
  | .allWallets | .targets _ .swap => r.everything
  | .accounts currency | .group currency _ | .findByAddress currency _ =>
    (r.asset? currency).elim [] fun asset => [.crypto asset]
  | .targets source _ =>
    (r.asset? source.currency).elim [] fun asset => [.crypto asset, .fiat r.fiat]
  | .fiatAccounts | .fiatGroup => [.fiat r.fiat]

def walletsOf (r : Registry) (lists : Shelf → List Account) : List Account :=
  r.everything.flatMap fun l => lists l.shelf

def candidatesOf (r : Registry) (lists : Shelf → List Account) (source : CryptoAccount) :
    Action → Dialogue (List Account)
  | .swap => return r.walletsOf lists
  | _ => do
    let asset ← r.asset source.currency
    return (lists (.crypto asset.currency)).filter (fun account => account.id != source.id) ++
      lists .fiat

def finish (r : Registry) (lists : Shelf → List Account) : Operation → Dialogue (List Account)
  | .prepare => do
    r.prepare
    return []
  | .allWallets => return r.walletsOf lists
  | .accounts currency => do
    let asset ← r.asset currency
    return lists (.crypto asset.currency)
  | .group currency filter => do
    let asset ← r.asset currency
    return (lists (.crypto asset.currency)).filter filter.selects
  | .targets source action => do
    return (← r.candidatesOf lists source action).filter (isEligible action source)
  | .findByAddress currency text => do
    let asset ← r.asset currency
    return (firstAt text (← resolveAll (lists (.crypto asset.currency)))).toList
  | .fiatAccounts | .fiatGroup => return lists .fiat

theorem filter_all (accounts : List Account) :
    accounts.filter AccountFilter.all.selects = accounts := by
  simp [AccountFilter.selects]

theorem draws_group (labels : Labels) (a : Asset) (filter : AccountFilter) :
    Draws labels [.crypto a] (a.group labels filter) fun lists =>
      return AccountGroup.ofAccounts? (labels.assetGroupFor a.currency)
        ((lists (.crypto a.currency)).filter filter.selects) :=
  (draws_accounts (.crypto a)).bind _

theorem draws_gather (labels : Labels) (assets : List Asset) :
    Draws labels (assets.map .crypto) (gather labels assets) fun lists =>
      return assets.flatMap fun a => lists (.crypto a.currency) := by
  induction assets with
  | nil => exact draws_nothing labels _
  | cons a rest ih =>
    have draws := (draws_group labels a .all).append fun group =>
      ih.bind fun found => pure (members group ++ found)
    simp only [members_ofAccounts?, filter_all] at draws
    exact draws

theorem draws_fiatGroup (r : Registry) :
    Draws r.labels [.fiat r.fiat] (r.fiat.group r.labels) fun lists =>
      return AccountGroup.ofAccounts? r.labels.fiatGroup (lists .fiat) :=
  (draws_accounts (.fiat r.fiat)).bind _

theorem walletsOf_eq (r : Registry) (lists : Shelf → List Account) :
    r.walletsOf lists =
      (r.enabledAssets.flatMap fun a => lists (.crypto a.currency)) ++ lists .fiat := by
  simp [walletsOf, everything, List.flatMap_map, Listing.shelf]

theorem draws_allWallets (r : Registry) :
    Draws r.labels r.everything r.allWallets fun lists =>
      return { label := r.labels.allWallets, accounts := r.walletsOf lists } := by
  have draws := (draws_gather r.labels r.enabledAssets).append fun crypto =>
    r.draws_fiatGroup.bind fun fiat =>
      pure ({ label := r.labels.allWallets, accounts := crypto ++ members fiat } : AccountGroup)
  simp only [pure_bind, members_ofAccounts?, ← walletsOf_eq] at draws
  exact draws

theorem draws_asset {α : Type} {own : Asset → List Listing} {d : Asset → Dialogue α}
    {rest : Asset → (Shelf → List Account) → Dialogue α}
    (each : ∀ a, Draws r.labels (own a) (d a) (rest a)) (currency : Currency) :
    Draws r.labels ((r.asset? currency).elim [] own)
      (do let a ← r.asset currency; d a)
      (fun lists => do let a ← r.asset currency; rest a lists) := by
  unfold asset
  cases r.asset? currency with
  | none => exact draws_nothing r.labels (Dialogue.fail (.unknownAsset currency) >>= d)
  | some a => exact each a

theorem draws_candidates (r : Registry) (source : CryptoAccount) (action : Action) :
    Draws r.labels (r.wanted (.targets source action)) (r.candidates source action) fun lists =>
      r.candidatesOf lists source action := by
  have others := draws_asset (r := r) (fun a =>
    ((draws_accounts (.crypto a)).bind fun accounts =>
      pure (accounts.filter fun account => account.id != source.id)).append fun own =>
        (draws_accounts (.fiat r.fiat)).bind fun fiat => pure (own ++ fiat)) source.currency
  cases action with
  | swap => exact r.draws_allWallets.bind _
  | viewActivity | send | receive | sell | interestDeposit | summary => exact others

def lookIn (text : String) : Option AccountGroup → Dialogue (List Account)
  | none => return []
  | some group => do return (firstAt text (← resolveAll group.accounts)).toList

theorem lookIn_ofAccounts? (text label : String) (accounts : List Account) :
    lookIn text (AccountGroup.ofAccounts? label accounts) =
      (do return (firstAt text (← resolveAll accounts)).toList) := by
  cases accounts <;> rfl

theorem perform_findByAddress (r : Registry) (currency : Currency) (text : String) :
    r.perform (.findByAddress currency text) = (do
      let asset ← r.asset currency
      let group ← asset.group r.labels .all
      lookIn text group) := by
  simp only [perform, findByAddress, bind_assoc]
  congr; funext a; congr; funext group
  cases group <;> simp [lookIn]

theorem draws_perform (r : Registry) (o : Operation) :
    Draws r.labels (r.wanted o) (r.perform o) fun lists => r.finish lists o := by
  cases o with
  | prepare => exact draws_nothing r.labels _
  | allWallets => exact r.draws_allWallets.bind _
  | accounts currency => exact draws_asset (fun a => draws_accounts (.crypto a)) currency
  | group currency filter =>
    have each (a : Asset) := (draws_group r.labels a filter).bind fun group => pure (members group)
    simp only [pure_bind, members_ofAccounts?] at each
    exact draws_asset each currency
  | targets source action => exact (r.draws_candidates source action).bind _
  | findByAddress currency text =>
    rw [perform_findByAddress]
    have each (a : Asset) := (draws_group r.labels a .all).bind (lookIn text)
    simp only [pure_bind, lookIn_ofAccounts?, filter_all] at each
    exact draws_asset each currency
  | fiatAccounts => exact draws_accounts (.fiat r.fiat)
  | fiatGroup =>
    have draws := r.draws_fiatGroup.bind fun group => pure (members group)
    simp only [pure_bind, members_ofAccounts?] at draws
    exact draws

end Registry

section Finishing

variable (oracle : Oracle)

theorem ChainClient.yields_health (chain : ChainClient) :
    Yields oracle (fun _ => True) chain.health := by
  cases chain with
  | external name currency => exact (yields_ask _).bind fun answer _ => yields_ofAnswer answer
  | indexer currency base =>
    refine Yields.bind (p := fun _ => True) ?_ fun found _ => ?_
    · refine (yields_exchange _).bind fun r _ => ?_
      split
      · exact yields_pure trivial
      · split
        · exact (yields_decodeBody _ _).bind fun _ _ => yields_pure trivial
        · exact yields_fail _
    · split
      · exact yields_pure trivial
      · exact yields_fail _
  | stellar server network =>
    cases server with
    | external name => exact (yields_ask _).bind fun answer _ => yields_ofAnswer answer
    | http base =>
      refine (yields_exchange _).bind fun r _ => ?_
      split
      · exact yields_pure trivial
      · exact yields_fail _
  | evm currency url gasLimit =>
    refine Yields.bind (p := fun _ => True) ?_ fun _ _ => yields_pure trivial
    unfold Evm.call JsonRpc.call
    split
    · exact yields_fail _
    · refine (yields_ask _).bind fun outcome _ => ?_
      split
      · exact yields_fail _
      · split
        · exact yields_fail _
        · exact yields_fail _
        · split
          · exact yields_pure trivial
          · exact yields_fail _

theorem Asset.yields_prepare (a : Asset) : Yields oracle (fun _ => True) a.prepare := by
  unfold prepare
  split
  · exact ChainClient.yields_health oracle _
  · exact ChainClient.yields_health oracle _
  · exact yields_pure trivial
  · exact (yields_ask _).bind fun answer _ => yields_ofAnswer answer

theorem yields_count (m : Metric) : Yields oracle (fun _ => True) (count m) := by
  rintro s _ _ ⟨⟩
  exact ⟨⟨rfl, rfl⟩, .ok _ trivial⟩

theorem Reporter.yields_report (reporter : Reporter) (tag : String) (cause : Failure) :
    Yields oracle (fun _ => True) (reporter.report tag cause) := by
  cases reporter with
  | external => exact yields_ask (.report tag cause)
  | counting => exact yields_count oracle _

theorem Custodian.yields_depositAddress (custodian : Custodian) (currency : Currency) :
    Yields oracle (fun _ => True) (custodian.depositAddress currency) := by
  cases custodian with
  | external => exact (yields_ask _).bind fun answer _ => yields_ofAnswer answer
  | http base token =>
    refine (yields_find _ _ _ _ oracle).bind fun found _ => ?_
    split
    · exact yields_pure trivial
    · exact yields_fail _

theorem Account.yields_receiveAddress (account : Account) :
    Yields oracle (fun _ => True) account.receiveAddress := by
  cases account with
  | crypto a =>
    have asked : Yields oracle (fun _ => True) (a.backend.receiveAddress a.currency) := by
      unfold Backend.receiveAddress
      split
      · exact yields_pure trivial
      · exact Custodian.yields_depositAddress oracle _ _
      · exact yields_pure trivial
      · exact (yields_ask _).bind fun answer _ => yields_ofAnswer answer
    exact asked.bind fun _ _ => yields_pure trivial
  | interest a => exact yields_fail _
  | fiat a => exact yields_fail _

namespace Registry

theorem yields_prepareAll (reporter : Reporter) (assets : List Asset) :
    Yields oracle (fun _ => True) (prepareAll reporter assets) := by
  induction assets with
  | nil => exact yields_pure trivial
  | cons a rest ih =>
    refine (a.yields_prepare oracle).attempt.bind fun answer _ => ?_
    cases answer with
    | ok _ => exact ih
    | error cause =>
      refine (reporter.yields_report oracle _ _).bind fun _ _ => ?_
      exact (yields_count oracle _).bind fun _ _ => yields_fail _

theorem yields_resolveAll (accounts : List Account) :
    Yields oracle (fun resolved => resolved.map (·.1) = accounts) (resolveAll accounts) := by
  induction accounts with
  | nil => exact yields_pure rfl
  | cons account rest ih =>
    refine (account.yields_receiveAddress oracle).attempt.bind fun answer _ => ?_
    refine ih.bind fun resolved all => yields_pure ?_
    rw [List.map_cons, all]

theorem firstAt_sublist (text : String) (resolved : List (Account × Answer Address)) :
    (firstAt text resolved).toList.Sublist (resolved.map (·.1)) := by
  unfold firstAt
  generalize found : resolved.find? _ = hit
  cases hit with
  | none => exact List.nil_sublist _
  | some entry =>
    exact List.singleton_sublist.2 (List.mem_map_of_mem (List.mem_of_find?_eq_some found))

theorem yields_asset {α : Type} {p : α → Prop} {d : Asset → Dialogue α} (r : Registry)
    (currency : Currency) (each : ∀ a, r.asset? currency = some a → Yields oracle p (d a)) :
    Yields oracle p (do let a ← r.asset currency; d a) := by
  unfold asset
  cases found : r.asset? currency with
  | none => exact yields_fail _
  | some a => exact each a found

theorem yields_finish (r : Registry) (lists : Shelf → List Account) (o : Operation) :
    Yields oracle (fun shown => shown.Sublist ((r.wanted o).flatMap fun l => lists l.shelf))
      (r.finish lists o) := by
  cases o with
  | prepare =>
    exact (yields_prepareAll oracle _ _).bind fun _ _ => yields_pure (List.nil_sublist _)
  | allWallets => exact yields_pure (List.Sublist.refl _)
  | accounts currency =>
    refine yields_asset oracle r currency fun a found => yields_pure ?_
    simp [wanted, found, Listing.shelf]
  | group currency filter =>
    refine yields_asset oracle r currency fun a found => yields_pure ?_
    simp [wanted, found, Listing.shelf]
  | targets source action =>
    have stays : Yields oracle
        (fun found => found.Sublist (((r.asset? source.currency).elim [] fun a =>
          [Listing.crypto a, .fiat r.fiat]).flatMap fun l => lists l.shelf))
        (do
          let a ← r.asset source.currency
          return (lists (.crypto a.currency)).filter (fun account => account.id != source.id) ++
            lists .fiat) := by
      refine yields_asset oracle r source.currency fun a found => yields_pure ?_
      simp [found, Listing.shelf]
    have candidates : Yields oracle
        (fun found => found.Sublist ((r.wanted (.targets source action)).flatMap
          fun l => lists l.shelf)) (r.candidatesOf lists source action) := by
      cases action with
      | swap => exact yields_pure (List.Sublist.refl _)
      | viewActivity | send | receive | sell | interestDeposit | summary => exact stays
    exact candidates.bind fun found among => yields_pure (List.filter_sublist.trans among)
  | findByAddress currency text =>
    refine yields_asset oracle r currency fun a found => ?_
    refine (yields_resolveAll oracle _).bind fun resolved all => yields_pure ?_
    simpa [wanted, found, Listing.shelf, ← all] using firstAt_sublist text resolved
  | fiatAccounts | fiatGroup => exact yields_pure (by simp [wanted, Listing.shelf])

end Registry

end Finishing

structure Event where
  operation : Operation
  before : Session
  loads : List Load
  drawn : Checked Unit
  ready : Session
  result : Checked (List Account)
  after : Session

/-- The accounts are drawn that the operation has to have at hand. Where one load fails, so does the
operation; otherwise it is finished with what lies on the shelves, and leaves that as it is. -/
structure Event.Happens (r : Registry) (oracle : Oracle) (e : Event) : Prop where
  performed : (r.perform e.operation).run oracle e.before = (e.result, e.after)
  drawing : Drawing r.labels oracle (r.wanted e.operation) e.before e.loads e.drawn e.ready
  stopped : ∀ halt, e.drawn = .error halt → e.result = .error halt ∧ e.after = e.ready
  finished : e.drawn = .ok () →
    (r.finish e.ready.lists e.operation).run oracle e.ready = (e.result, e.after)
  kept : ∀ shelf, e.after.kept shelf = e.ready.kept shelf

inductive History (r : Registry) (oracle : Oracle) : Session → List Event → Session → Prop where
  | done (s : Session) : History r oracle s [] s
  | next (e : Event) (rest : List Event) (t : Session) (first : e.Happens r oracle)
      (more : History r oracle e.after rest t) : History r oracle e.before (e :: rest) t

variable {r : Registry} {oracle : Oracle} {s t : Session} {events : List Event}

theorem event_happens (r : Registry) (oracle : Oracle) (o : Operation) (s : Session) :
    ∃ e : Event, e.operation = o ∧ e.before = s ∧ e.Happens r oracle := by
  rcases ran : (drawAll r.labels (r.wanted o)).run oracle s with ⟨drawn, u⟩
  obtain ⟨loads, drawing⟩ := drawing_of_run ran
  rcases performed : (r.perform o).run oracle s with ⟨result, t⟩
  have whole := (r.draws_perform o).run oracle s u drawn ran
  rw [performed] at whole
  refine ⟨⟨o, s, loads, drawn, u, result, t⟩, rfl, rfl, performed, drawing, ?_, ?_, ?_⟩
  · rintro halt rfl
    exact Prod.ext_iff.1 whole
  · rintro rfl
    exact whole.symm
  · intro shelf
    cases drawn with
    | error halt =>
      cases whole
      rfl
    | ok _ => exact ((r.yields_finish oracle u.lists o) u result t whole.symm).1.kept

theorem Event.Happens.attempts {e : Event} (happens : e.Happens r oracle) (shelf : Shelf) :
    Attempts (e.before.kept shelf) (loadsOn shelf e.loads) (e.after.kept shelf) := by
  rw [happens.kept]
  exact happens.drawing.attempts shelf

theorem History.attempts (history : History r oracle s events t) (shelf : Shelf) :
    Attempts (s.kept shelf) (loadsOn shelf (events.flatMap (·.loads))) (t.kept shelf) := by
  induction history with
  | done s => exact .refl _
  | next e rest t first more ih =>
    rw [List.flatMap_cons, loadsOn_append]
    exact (first.attempts shelf).trans ih

theorem history_exists (r : Registry) (oracle : Oracle) (operations : List Operation)
    (s : Session) :
    ∃ events t, events.map (·.operation) = operations ∧ History r oracle s events t := by
  induction operations generalizing s with
  | nil => exact ⟨[], s, rfl, .done s⟩
  | cons o rest ih =>
    obtain ⟨e, rfl, rfl, first⟩ := event_happens r oracle o s
    obtain ⟨events, t, rfl, more⟩ := ih e.after
    exact ⟨e :: events, t, rfl, .next e events t first more⟩

theorem History.happens (history : History r oracle s events t) :
    ∀ e ∈ events, e.Happens r oracle := by
  induction history with
  | done s => simp
  | next e rest t first more ih => exact List.forall_mem_cons.2 ⟨first, ih⟩

theorem History.kept_on (history : History r oracle s events t) :
    ∀ e ∈ events, ∀ shelf known, e.ready.kept shelf = some known → t.kept shelf = some known := by
  induction history with
  | done s => simp
  | next e rest t first more ih =>
    refine List.forall_mem_cons.2 ⟨?_, ih⟩
    intro shelf known there
    have attempts := more.attempts shelf
    rw [first.kept, there] at attempts
    exact attempts.of_some.2

/-- Whatever is asked of the registry, one operation after the other, and whatever everybody
answers: the accounts of a shelf are loaded, by any operation that needs them, until that succeeds
once. They stay on the shelf and are never loaded again; and every operation that had its accounts
at hand shows what it would show of the accounts on the shelves in the end, which are always the
same accounts in the same order. -/
theorem identities_stable (r : Registry) (oracle : Oracle) (s : Session)
    (operations : List Operation) :
    ∃ events t, events.map (·.operation) = operations ∧ History r oracle s events t ∧
      (∀ shelf, Attempts (s.kept shelf) (loadsOn shelf (events.flatMap (·.loads)))
        (t.kept shelf)) ∧
      ∀ e ∈ events, e.drawn = .ok () →
        (∀ l ∈ r.wanted e.operation, (t.kept l.shelf).isSome) ∧
        (r.finish t.lists e.operation).run oracle e.ready = (e.result, e.after) ∧
        ∀ shown, e.result = .ok shown →
          shown.Sublist ((r.wanted e.operation).flatMap fun l => t.lists l.shelf) := by
  obtain ⟨events, t, asked, history⟩ := history_exists r oracle operations s
  refine ⟨events, t, asked, history, history.attempts, ?_⟩
  intro e member drawn
  have happens := history.happens e member
  have drawing := happens.drawing
  rw [drawn] at drawing
  have there (l : Listing) (needed : l ∈ r.wanted e.operation) :
      ∃ known, e.ready.kept l.shelf = some known ∧ t.kept l.shelf = some known := by
    obtain ⟨known, there⟩ := Option.isSome_iff_exists.1 (drawing.complete l needed)
    exact ⟨known, there, history.kept_on e member _ known there⟩
  have same : r.finish t.lists e.operation = r.finish e.ready.lists e.operation := by
    refine (r.draws_perform e.operation).rest_congr _ _ fun l needed => ?_
    obtain ⟨known, ready, final⟩ := there l needed
    rw [Session.lists_of_kept ready, Session.lists_of_kept final]
  have finished : (r.finish t.lists e.operation).run oracle e.ready = (e.result, e.after) := by
    rw [same]
    exact happens.finished drawn
  refine ⟨fun l needed => ?_, finished, fun shown ok => ?_⟩
  · obtain ⟨known, -, final⟩ := there l needed
    rw [final, Option.isSome_some]
  · rw [ok] at finished
    obtain ⟨-, meets⟩ := r.yields_finish oracle t.lists e.operation _ _ _ finished
    cases meets with
    | ok _ among => exact among

end MultiWallet
