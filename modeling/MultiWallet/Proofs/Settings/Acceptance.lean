import MultiWallet.Asset.Configured
import MultiWallet.Proofs.Dialogue
import MultiWallet.Registry.Basic

set_option autoImplicit false

namespace MultiWallet

variable {parties : Parties} {a : AssetSettings}

namespace AssetSettings

def url (a : AssetSettings) : String := a.networkUrl.getD ""

def Served (a : AssetSettings) : Prop := a.needsNetwork = true → a.url.isEmpty = false

theorem address_of_url (given : a.url.isEmpty = false) : a.address = .ok a.url := by
  unfold url at given
  unfold address url
  cases known : a.networkUrl with
  | none =>
    rw [known] at given
    cases given
  | some text =>
    rw [known] at given
    rw [Option.filter_some, if_pos (by simpa using given)]
    rfl

theorem Served.address (served : a.Served) (needed : a.currency ≠ .stx) : a.address = .ok a.url :=
  address_of_url (served (by simpa [needsNetwork] using needed))

theorem kind_of_ethereum (served : a.Served) (ethereum : a.currency = .eth) :
    a.kind = (do return .onChain (← ChainClient.evmAt .eth a.url a.gasLimit) a.feePreference) := by
  unfold kind
  rw [ethereum, served.address (by simp [ethereum])]
  rfl

theorem kind_of_node {u : Http.Url} (served : a.Served) (ethereum : a.currency = .eth)
    (parsed : Http.Url.parse a.url = .ok u) : ∃ kind, a.kind = .ok kind := by
  rw [kind_of_ethereum served ethereum, ChainClient.evmAt, parsed]
  exact ⟨_, rfl⟩

theorem kind_of_other (served : a.Served) (other : a.currency ≠ .eth) :
    ∃ kind, a.kind = .ok kind := by
  unfold kind
  cases currency : a.currency with
  | btc | bch | xlm =>
    rw [served.address (by simp [currency])]
    exact ⟨_, rfl⟩
  | eth => exact absurd currency other
  | stx => exact ⟨_, rfl⟩

end AssetSettings

namespace Asset

theorem ofSettings_eq_ok {asset : Asset} :
    ofSettings parties a = .ok asset ↔
      ∃ kind, a.kind = .ok kind ∧
        { currency := a.currency, enabled := a.enabled, kind, parties } = asset := by
  unfold ofSettings
  rw [Checked.bind_eq_ok]
  simp [pure, Except.pure]

theorem ofSettings_served (served : a.Served)
    (node : a.currency = .eth → ∃ u, Http.Url.parse a.url = .ok u) :
    ∃ kind, ofSettings parties a =
      .ok { currency := a.currency, enabled := a.enabled, kind, parties } := by
  have known : ∃ kind, a.kind = .ok kind := by
    by_cases ethereum : a.currency = .eth
    · obtain ⟨u, parsed⟩ := node ethereum
      exact AssetSettings.kind_of_node served ethereum parsed
    · exact AssetSettings.kind_of_other served ethereum
  obtain ⟨kind, known⟩ := known
  exact ⟨kind, ofSettings_eq_ok.2 ⟨kind, known, rfl⟩⟩

theorem ofSettings_refused {problem : Http.UrlProblem} (served : a.Served)
    (ethereum : a.currency = .eth) (refused : Http.Url.parse a.url = .error problem) :
    ofSettings parties a =
      fail (.config ("invalid RPC url " ++ a.url ++ ": " ++ problem.message)) := by
  unfold ofSettings
  rw [AssetSettings.kind_of_ethereum served ethereum, ChainClient.evmAt, refused]
  rfl

end Asset

namespace Settings

theorem checkAssets_eq_ok {assets : List AssetSettings} {seen : List Currency}
    (checked : checkAssets assets seen = .ok ()) :
    (∀ a ∈ assets, a.Served) ∧ (assets.map (·.currency)).Nodup ∧
      ∀ a ∈ assets, a.currency ∉ seen := by
  induction assets generalizing seen with
  | nil => simp
  | cons a rest ih =>
    unfold checkAssets at checked
    split at checked
    next => cases checked
    next new =>
      split at checked
      next => cases checked
      next given =>
        obtain ⟨served, distinct, unseen⟩ := ih checked
        have named : a.Served := fun needed => by
          cases known : a.url.isEmpty with
          | false => rfl
          | true => exact absurd ⟨needed, known⟩ given
        refine ⟨List.forall_mem_cons.2 ⟨named, served⟩, ?_, ?_⟩
        · rw [List.map_cons, List.nodup_cons]
          refine ⟨?_, distinct⟩
          intro repeated
          obtain ⟨other, member, same⟩ := List.mem_map.1 repeated
          exact unseen other member (same ▸ List.mem_cons_self)
        · refine List.forall_mem_cons.2 ⟨by simpa using new, ?_⟩
          intro other member known
          exact unseen other member (List.mem_cons_of_mem _ known)

theorem read_of_ofText {env : Environment} {text : String} {settings : Settings}
    (accepted : ofText env text = .ok settings) :
    (Toml.read (env.fillIn text.toList)).bind ofJson? = some settings ∧
      settings.validate = .ok () := by
  unfold ofText at accepted
  split at accepted
  next => cases accepted
  next found known =>
    cases checked : found.validate with
    | error problem =>
      rw [checked] at accepted
      cases accepted
    | ok =>
      rw [checked] at accepted
      cases accepted
      exact ⟨known, checked⟩

theorem checked_of_validate {settings : Settings} (valid : settings.validate = .ok ()) :
    checkAssets settings.assets [] = .ok () := by
  unfold validate at valid
  cases checked : checkAssets settings.assets [] with
  | ok => rfl
  | error problem =>
    rw [checked] at valid
    by_cases empty : settings.enabledAssets.isEmpty = true
    · rw [if_pos empty] at valid
      cases valid
    · rw [if_neg empty] at valid
      cases valid

end Settings

namespace Registry

theorem repeated?_eq_none {assets : List Asset} {seen : List Currency}
    (distinct : (assets.map (·.currency)).Nodup) (unseen : ∀ a ∈ assets, a.currency ∉ seen) :
    repeated? assets seen = none := by
  induction assets generalizing seen with
  | nil => rfl
  | cons a rest ih =>
    obtain ⟨new, distinct⟩ := List.nodup_cons.1 distinct
    obtain ⟨first, later⟩ := List.forall_mem_cons.1 unseen
    unfold repeated?
    rw [if_neg (by simpa using first)]
    refine ih distinct ?_
    intro other member known
    rcases List.mem_cons.1 known with same | old
    · exact new (List.mem_map.2 ⟨other, member, same⟩)
    · exact later other member old

end Registry

/-- The assets that can be made, in the order of the settings. -/
def Settings.made (settings : Settings) (parties : Parties) : List Asset :=
  settings.assets.filterMap fun a => (Asset.ofSettings parties a).toOption

theorem Settings.made_currencies (settings : Settings) (parties : Parties) :
    ((settings.made parties).map (·.currency)).Sublist (settings.assets.map (·.currency)) := by
  unfold made
  induction settings.assets with
  | nil => exact .slnil
  | cons a rest ih =>
    rw [List.filterMap_cons]
    cases known : Asset.ofSettings parties a with
    | error halt => exact ih.cons _
    | ok asset =>
      obtain ⟨_, _, rfl⟩ := Asset.ofSettings_eq_ok.1 known
      exact ih.cons_cons _

/-- Of accepted settings every asset can be made, except where the node of Ethereum stands under an
address that is none, which is said then; and no currency is registered twice. -/
theorem Settings.accepted_buildable {env : Environment} {text : String} {settings : Settings}
    (accepted : Settings.ofText env text = .ok settings) (parties : Parties)
    (records : WalletRecords) (custodian : Custodian) (reporter : Reporter) (labels : Labels) :
    (∀ a ∈ settings.assets, (a.currency = .eth → ∃ u, Http.Url.parse a.url = .ok u) →
      ∃ kind, Asset.ofSettings parties a =
        .ok { currency := a.currency, enabled := a.enabled, kind, parties }) ∧
    (∀ a ∈ settings.assets, ∀ problem, a.currency = .eth →
      Http.Url.parse a.url = .error problem →
      Asset.ofSettings parties a =
        fail (.config ("invalid RPC url " ++ a.url ++ ": " ++ problem.message))) ∧
    Registry.make records custodian reporter labels (settings.made parties) =
      .ok { records, custodian, reporter, labels, assets := settings.made parties } := by
  obtain ⟨-, valid⟩ := read_of_ofText accepted
  obtain ⟨served, distinct, -⟩ := checkAssets_eq_ok (checked_of_validate valid)
  refine ⟨fun a member => Asset.ofSettings_served (served a member),
    fun a member _ => Asset.ofSettings_refused (served a member), ?_⟩
  -- What could not be made is left out, which repeats no currency.
  have new : Registry.repeated? (settings.made parties) [] = none :=
    Registry.repeated?_eq_none (distinct.sublist (settings.made_currencies parties)) (by simp)
  rw [Registry.make, new]

def settingsText (assets : String) : String :=
  "[api]\nenabled=true\nhost=\"h\"\nport=1\n[metrics]\nenabled=true\nport=2\n" ++
    "[wallet]\npayload_path=\"w\"\n[custodial]\nbase_url=\"c\"\nauth_token=\"t\"\n" ++
    "[fees]\nurl=\"f\"\n[signer]\nurl=\"s\"\n" ++ assets

def etherAt (url : String) : AssetSettings :=
  { currency := .eth, enabled := true, networkUrl := some url, feePreference := none
    gasLimit := none, timeout := 30 }

def etherText (url : String) : String :=
  settingsText ("[[assets]]\ncurrency=\"ETH\"\nnetwork_url=\"" ++ url ++ "\"")

def externalParties : Parties :=
  { records := .external, custodian := .external, signer := .external, fees := .external
    reporter := .external }

theorem Settings.accepted_of_map {env : Environment} {text : String} {α : Type} {f : Settings → α}
    {a : α} (read : (ofText env text).toOption.map f = some a) :
    ∃ settings, ofText env text = .ok settings ∧ f settings = a := by
  cases accepted : ofText env text with
  | error problem =>
    rw [accepted] at read
    cases read
  | ok settings =>
    rw [accepted] at read
    exact ⟨settings, rfl, Option.some.inj read⟩

theorem Settings.accepted_buildable_etherNode :
    ∃ settings, ofText (fun _ => none) (etherText "http://node") = .ok settings ∧
      settings.assets = [etherAt "http://node"] ∧
      (∃ u, Http.Url.parse "http://node" = .ok u) ∧
      ∃ kind, Asset.ofSettings externalParties (etherAt "http://node") =
        .ok { currency := .eth, enabled := true, kind, parties := externalParties } := by
  have read : (ofText (fun _ => none) (etherText "http://node")).toOption.map (·.assets) =
      some [etherAt "http://node"] := by decide +kernel
  obtain ⟨settings, accepted, assets⟩ := accepted_of_map read
  have node : ∃ u, Http.Url.parse "http://node" = .ok u := by
    have web : (Http.Url.parse "http://node").toOption.isSome = true := by decide +kernel
    cases parsed : Http.Url.parse "http://node" with
    | ok u => exact ⟨u, rfl⟩
    | error problem =>
      rw [parsed] at web
      cases web
  refine ⟨settings, accepted, assets, node, ?_⟩
  exact (accepted_buildable accepted externalParties .external .external .external {}).1 _
    (assets ▸ List.mem_cons_self) fun _ => node

theorem Settings.accepted_unbuildable :
    ∃ settings, ofText (fun _ => none) (etherText "node") = .ok settings ∧
      settings.assets = [etherAt "node"] ∧
      Asset.ofSettings externalParties (etherAt "node") =
        fail (.config "invalid RPC url node: relative URL without a base") := by
  have read : (ofText (fun _ => none) (etherText "node")).toOption.map (·.assets) =
      some [etherAt "node"] := by decide +kernel
  obtain ⟨settings, accepted, assets⟩ := accepted_of_map read
  exact ⟨settings, accepted, assets, rfl⟩

end MultiWallet
