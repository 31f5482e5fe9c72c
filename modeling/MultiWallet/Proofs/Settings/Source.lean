import MultiWallet.Proofs.Toml.Source
import MultiWallet.Settings

set_option autoImplicit false

namespace MultiWallet

namespace Toml.Source

variable {value value' : List Char} {source : Source} {names : List String} {s : String}

def field? (names : List String) (name : String) : Source → Option Source
  | .object members => (members.filter fun member => names.elem member.1).lookup name
  | .array items => (names.zip items).lookup name
  | .bool _ | .number _ | .text _ => none

def isArray : Source → Bool
  | .array _ => true
  | .bool _ | .number _ | .text _ | .object _ => false

def toDraft : Source → Draft
  | .text draft => draft
  | .bool _ | .number _ | .array _ | .object _ => []

def draft (source : Source) (names : List String) (name : String) (default : String := "") :
    Draft :=
  ((source.field? names name).map toDraft).getD (default.toList.map some)

def part (source : Source) (names : List String) (name : String) : Source :=
  (source.field? names name).getD (.object [])

theorem asText_fill (known : (source.fill value).asText = some s) :
    s = String.ofList (source.toDraft.fill value) := by
  cases source <;> cases known
  rfl

end Toml.Source

open Toml

structure Json.Record.Fills (r : Json.Record) (names : List String) (source : Source)
    (value : List Char) : Prop where
  lookup : ∀ name, r.fields.lookup name = (source.field? names name).map (Source.fill value)
  positional : r.positional = source.isArray

namespace Json.Record

variable {α : Type} {value value' : List Char} {source : Source} {names : List String}
  {r r' : Json.Record} {name s : String} {decode : Json → Option α} {a : α}

theorem fills_of_ofJson? (read : Json.Record.ofJson? names (source.fill value) = some r) :
    r.Fills names source value := by
  cases source with
  | bool | number | text => cases read
  | array items =>
    unfold ofJson? Source.fill at read
    dsimp only at read
    split at read
    next =>
      cases read
      refine ⟨fun name => ?_, rfl⟩
      rw [Source.fillItems_eq, List.zip_map_right]
      exact Toml.lookup_map (names.zip items) name
    next => cases read
  | object members =>
    unfold ofJson? Source.fill at read
    dsimp only at read
    split at read
    next =>
      cases read
      refine ⟨fun name => ?_, rfl⟩
      rw [Source.fillMembers_eq, List.filter_map]
      exact Toml.lookup_map (members.filter fun member => names.elem member.1) name
    next => cases read

namespace Fills

theorem required (fills : r.Fills names source value) (read : r.required name decode = some a) :
    ∃ found, source.field? names name = some found ∧ decode (found.fill value) = some a := by
  unfold Record.required at read
  rw [fills.lookup] at read
  cases known : source.field? names name with
  | none =>
    rw [known] at read
    cases read
  | some found =>
    rw [known] at read
    exact ⟨found, rfl, read⟩

theorem defaulted {default : α} (fills : r.Fills names source value)
    (read : r.defaulted name decode default = some a) :
    (∃ found, source.field? names name = some found ∧ decode (found.fill value) = some a) ∨
      source.field? names name = none ∧ a = default := by
  unfold Record.defaulted at read
  rw [fills.lookup] at read
  cases known : source.field? names name with
  | none =>
    rw [known] at read
    exact .inr ⟨rfl, (Option.some.inj read).symm⟩
  | some found =>
    rw [known] at read
    exact .inl ⟨found, rfl, read⟩

theorem required_part (fills : r.Fills names source value)
    (read : r.required name decode = some a) :
    decode ((source.part names name).fill value) = some a := by
  obtain ⟨found, known, read⟩ := fills.required read
  rw [Source.part, known]
  exact read

theorem required_text (fills : r.Fills names source value)
    (read : r.required name Json.asText = some s) (default : String := "") :
    s = String.ofList ((source.draft names name default).fill value) := by
  obtain ⟨found, known, read⟩ := fills.required read
  rw [Source.asText_fill read, Source.draft, known]
  rfl

theorem defaulted_text {default : String} (fills : r.Fills names source value)
    (read : r.defaulted name Json.asText default = some s) :
    s = String.ofList ((source.draft names name default).fill value) := by
  obtain ⟨found, known, read⟩ | ⟨missing, rfl⟩ := fills.defaulted read
  · rw [Source.asText_fill read, Source.draft, known]
    rfl
  · rw [Source.draft, missing]
    simp

theorem optional_text {text : Option String} (fills : r.Fills names source value)
    (read : r.optional name Json.asText = some text) :
    text =
      (source.field? names name).map fun found => String.ofList (found.toDraft.fill value) := by
  unfold Record.optional at read
  rw [fills.lookup] at read
  cases known : source.field? names name with
  | none =>
    rw [known, Option.map_none] at read
    dsimp only at read
    split at read
    next => cases read
    next =>
      cases read
      rfl
  | some found =>
    rw [known] at read
    cases found <;> cases read
    rfl

end Fills

def Fixed (decode : Json → Option α) : Prop :=
  ∀ (source : Source) (value value' : List Char),
    decode (source.fill value) = decode (source.fill value')

theorem fixed_asBool : Fixed Json.asBool := fun source _ _ => by cases source <;> rfl

theorem fixed_intBetween (low high : Int) : Fixed (Json.intBetween low high) := fun source _ _ => by
  cases source <;> rfl

theorem fixed_asUInt64 : Fixed Json.asUInt64 := fun source value value' =>
  congrArg (Option.map _) (fixed_intBetween 0 (2 ^ 64 - 1) source value value')

theorem fixed_asPort : Fixed Settings.asPort := fun source value value' =>
  congrArg (Option.map _) (fixed_intBetween 0 (2 ^ 16 - 1) source value value')

namespace Fixed

variable {a' : α}

theorem required (fixed : Fixed decode) (fills : r.Fills names source value)
    (fills' : r'.Fills names source value') (read : r.required name decode = some a)
    (read' : r'.required name decode = some a') : a = a' := by
  obtain ⟨found, known, read⟩ := fills.required read
  obtain ⟨found', known', read'⟩ := fills'.required read'
  cases known.symm.trans known'
  rw [fixed found value value', read'] at read
  exact (Option.some.inj read).symm

theorem defaulted {default : α} (fixed : Fixed decode) (fills : r.Fills names source value)
    (fills' : r'.Fills names source value') (read : r.defaulted name decode default = some a)
    (read' : r'.defaulted name decode default = some a') : a = a' := by
  have same : r.defaulted name decode default = r'.defaulted name decode default := by
    unfold Record.defaulted
    rw [fills.lookup, fills'.lookup]
    cases source.field? names name with
    | none => rfl
    | some found => exact fixed found value value'
  rw [same, read'] at read
  exact (Option.some.inj read).symm

theorem optional {a a' : Option α} (fixed : Fixed decode) (fills : r.Fills names source value)
    (fills' : r'.Fills names source value') (read : r.optional name decode = some a)
    (read' : r'.optional name decode = some a') : a = a' := by
  have same : r.optional name decode = r'.optional name decode := by
    unfold Record.optional
    rw [fills.lookup, fills'.lookup, fills.positional, fills'.positional]
    cases source.field? names name with
    | none => rfl
    | some found =>
      have same := congrArg (Option.map some) (fixed found value value')
      cases found <;> exact same
  rw [same, read'] at read
  exact (Option.some.inj read).symm

end Fixed

end Json.Record

namespace Settings

open Json.Record

variable {value value' : List Char} {source : Source}

theorem readApi_fill {a a' : ApiSettings} (read : readApi (source.fill value) = some a)
    (read' : readApi (source.fill value') = some a') :
    a.host = String.ofList ((source.draft apiFields "host").fill value) ∧
      a.enabled = a'.enabled ∧ a.port = a'.port := by
  simp only [readApi, Option.bind_eq_bind, Option.bind_eq_some_iff, Option.pure_def,
    Option.some.injEq] at read read'
  obtain ⟨r, record, enabled, isEnabled, host, isHost, port, isPort, rfl⟩ := read
  obtain ⟨r', record', enabled', isEnabled', host', isHost', port', isPort', rfl⟩ := read'
  have fills := fills_of_ofJson? record
  have fills' := fills_of_ofJson? record'
  exact ⟨fills.required_text isHost, fixed_asBool.required fills fills' isEnabled isEnabled',
    fixed_asPort.required fills fills' isPort isPort'⟩

theorem readMetrics_fill {m m' : MetricSettings} (read : readMetrics (source.fill value) = some m)
    (read' : readMetrics (source.fill value') = some m') : m = m' := by
  simp only [readMetrics, Option.bind_eq_bind, Option.bind_eq_some_iff, Option.pure_def,
    Option.some.injEq] at read read'
  obtain ⟨r, record, enabled, isEnabled, port, isPort, rfl⟩ := read
  obtain ⟨r', record', enabled', isEnabled', port', isPort', rfl⟩ := read'
  have fills := fills_of_ofJson? record
  have fills' := fills_of_ofJson? record'
  rw [fixed_asBool.required fills fills' isEnabled isEnabled',
    fixed_asPort.required fills fills' isPort isPort']

theorem readLog_fill {l l' : LogSettings} (read : readLog (source.fill value) = some l)
    (read' : readLog (source.fill value') = some l') :
    l.level = String.ofList ((source.draft logFields "level" ({} : LogSettings).level).fill value) ∧
      l.json = l'.json := by
  simp only [readLog, Option.bind_eq_bind, Option.bind_eq_some_iff, Option.pure_def,
    Option.some.injEq] at read read'
  obtain ⟨r, record, level, isLevel, json, isJson, rfl⟩ := read
  obtain ⟨r', record', level', isLevel', json', isJson', rfl⟩ := read'
  have fills := fills_of_ofJson? record
  have fills' := fills_of_ofJson? record'
  exact ⟨fills.required_text isLevel _, fixed_asBool.required fills fills' isJson isJson'⟩

theorem readPayloadPath_fill {path : String}
    (read : readPayloadPath (source.fill value) = some path) :
    path = String.ofList ((source.draft walletFields "payload_path").fill value) := by
  obtain ⟨r, record, read⟩ := Option.bind_eq_some_iff.1 read
  exact (fills_of_ofJson? record).required_text read

theorem readCustodian_fill {c c' : CustodianSettings}
    (read : readCustodian (source.fill value) = some c)
    (read' : readCustodian (source.fill value') = some c') :
    c.base = String.ofList ((source.draft custodianFields "base_url").fill value) ∧
      c.token = String.ofList ((source.draft custodianFields "auth_token").fill value) ∧
      c.timeout = c'.timeout := by
  simp only [readCustodian, Option.bind_eq_bind, Option.bind_eq_some_iff, Option.pure_def,
    Option.some.injEq] at read read'
  obtain ⟨r, record, base, isBase, token, isToken, timeout, isTimeout, rfl⟩ := read
  obtain ⟨r', record', base', isBase', token', isToken', timeout', isTimeout', rfl⟩ := read'
  have fills := fills_of_ofJson? record
  have fills' := fills_of_ofJson? record'
  exact ⟨fills.required_text isBase, fills.required_text isToken,
    fixed_asUInt64.defaulted fills fills' isTimeout isTimeout'⟩

theorem readService_fill {x x' : ServiceSettings} (read : readService (source.fill value) = some x)
    (read' : readService (source.fill value') = some x') :
    x.url = String.ofList ((source.draft serviceFields "url").fill value) ∧
      x.timeout = x'.timeout := by
  simp only [readService, Option.bind_eq_bind, Option.bind_eq_some_iff, Option.pure_def,
    Option.some.injEq] at read read'
  obtain ⟨r, record, url, isUrl, timeout, isTimeout, rfl⟩ := read
  obtain ⟨r', record', url', isUrl', timeout', isTimeout', rfl⟩ := read'
  have fills := fills_of_ofJson? record
  have fills' := fills_of_ofJson? record'
  exact ⟨fills.required_text isUrl, fixed_asUInt64.defaulted fills fills' isTimeout isTimeout'⟩

def told (value : List Char) (drafts : List (String × Draft)) : List (String × String) :=
  drafts.map fun entry => (entry.1, String.ofList (entry.2.fill value))

theorem told_append (drafts later : List (String × Draft)) :
    told value (drafts ++ later) = told value drafts ++ told value later := List.map_append

end Settings

open Settings Json.Record

def Labels.texts (labels : Labels) : List (String × String) :=
  [("labels.non_custodial", labels.nonCustodial), ("labels.custodial", labels.custodial),
   ("labels.interest", labels.interest), ("labels.asset_group", labels.assetGroup),
   ("labels.fiat", labels.fiat), ("labels.fiat_group", labels.fiatGroup),
   ("labels.all_wallets", labels.allWallets)]

def AssetSettings.texts (a : AssetSettings) : List (String × String) :=
  ("assets.currency", a.currency.ticker) ::
    a.networkUrl.toList.map fun url => ("assets.network_url", url)

def AssetSettings.withoutTexts (a : AssetSettings) : AssetSettings :=
  { a with currency := .btc, networkUrl := a.networkUrl.map fun _ => "" }

namespace Settings

variable {value value' : List Char} {source : Source}

def labelDrafts (source : Source) : List (String × Draft) :=
  let labels : Labels := {}
  [("labels.non_custodial", source.draft labelFields "non_custodial" labels.nonCustodial),
   ("labels.custodial", source.draft labelFields "custodial" labels.custodial),
   ("labels.interest", source.draft labelFields "interest" labels.interest),
   ("labels.asset_group", source.draft labelFields "asset_group" labels.assetGroup),
   ("labels.fiat", source.draft labelFields "fiat" labels.fiat),
   ("labels.fiat_group", source.draft labelFields "fiat_group" labels.fiatGroup),
   ("labels.all_wallets", source.draft labelFields "all_wallets" labels.allWallets)]

theorem readLabels_fill {labels : Labels} (read : readLabels (source.fill value) = some labels) :
    labels.texts = told value (labelDrafts source) := by
  simp only [readLabels, Option.bind_eq_bind, Option.bind_eq_some_iff, Option.pure_def,
    Option.some.injEq] at read
  obtain ⟨r, record, a, isA, b, isB, c, isC, d, isD, e, isE, f, isF, g, isG, rfl⟩ := read
  have fills := fills_of_ofJson? record
  simp only [Labels.texts, told, labelDrafts, List.map_cons, List.map_nil,
    ← fills.defaulted_text isA, ← fills.defaulted_text isB, ← fills.defaulted_text isC,
    ← fills.defaulted_text isD, ← fills.defaulted_text isE, ← fills.defaulted_text isF,
    ← fills.defaulted_text isG]

def tickerDraft : Source → Draft
  | .text draft => draft
  | .object [(name, _)] => name.toList.map some
  | _ => []

theorem ticker_of_ofExactTicker? {ticker : String} {c : Currency}
    (known : Currency.ofExactTicker? ticker = some c) : c.ticker = ticker := by
  simpa using List.find?_some known

theorem asCurrency_fill {c : Currency} (known : asCurrency (source.fill value) = some c) :
    c.ticker = String.ofList ((tickerDraft source).fill value) := by
  cases source with
  | bool | number | array => cases known
  | text draft => exact ticker_of_ofExactTicker? known
  | object members =>
    -- A name beside nothing is read in two forms, of an empty object and of an empty array.
    have single {name : String} {j : Json} (ticker : Currency.ofExactTicker? name = some c)
        (same : (Source.object members).fill value = .object [(name, j)]) :
        c.ticker = String.ofList ((tickerDraft (.object members)).fill value) := by
      rw [Source.fill, Source.fillMembers_eq] at same
      obtain ⟨member, rfl, same⟩ := List.map_eq_singleton_iff.1 (Json.object.inj same)
      cases same
      rw [ticker_of_ofExactTicker? ticker, tickerDraft, Draft.fill_chars, String.ofList_toList]
    unfold asCurrency at known
    split at known
    next same => cases same
    next name same => exact single known same
    next name same => exact single known same
    next => cases known

def assetDrafts (source : Source) : List (String × Draft) :=
  ("assets.currency", ((source.field? assetFields "currency").map tickerDraft).getD []) ::
    (source.field? assetFields "network_url").toList.map fun found =>
      ("assets.network_url", found.toDraft)

theorem readAsset_fill {a a' : AssetSettings} (read : readAsset (source.fill value) = some a)
    (read' : readAsset (source.fill value') = some a') :
    a.texts = told value (assetDrafts source) ∧ a.withoutTexts = a'.withoutTexts := by
  simp only [readAsset, Option.bind_eq_bind, Option.bind_eq_some_iff, Option.pure_def,
    Option.some.injEq] at read read'
  obtain ⟨r, record, c, isC, enabled, isEnabled, url, isUrl, fee, isFee, gas, isGas, timeout,
    isTimeout, rfl⟩ := read
  obtain ⟨r', record', c', isC', enabled', isEnabled', url', isUrl', fee', isFee', gas', isGas',
    timeout', isTimeout', rfl⟩ := read'
  have fills := fills_of_ofJson? record
  have fills' := fills_of_ofJson? record'
  obtain ⟨found, known, isC⟩ := fills.required isC
  have ticker := asCurrency_fill isC
  cases fills.optional_text isUrl
  cases fills'.optional_text isUrl'
  constructor
  · simp only [AssetSettings.texts, told, assetDrafts, known, ticker, List.map_cons]
    cases source.field? assetFields "network_url" <;> rfl
  · rw [AssetSettings.withoutTexts, AssetSettings.withoutTexts,
      fixed_asBool.defaulted fills fills' isEnabled isEnabled',
      (fixed_intBetween _ _).optional fills fills' isFee isFee',
      fixed_asUInt64.optional fills fills' isGas isGas',
      fixed_asUInt64.defaulted fills fills' isTimeout isTimeout', Option.map_map, Option.map_map]
    rfl

def assetsDrafts : Source → List (String × Draft)
  | .array items => items.flatMap assetDrafts
  | _ => []

theorem readAssets_fill {assets assets' : List AssetSettings}
    (read : (source.fill value).asArray readAsset = some assets)
    (read' : (source.fill value').asArray readAsset = some assets') :
    assets.flatMap AssetSettings.texts = told value (assetsDrafts source) ∧
      assets.map AssetSettings.withoutTexts = assets'.map AssetSettings.withoutTexts := by
  cases source with
  | bool | number | text | object => cases read
  | array items =>
    rw [Source.fill, Source.fillItems_eq, Json.asArray] at read read'
    dsimp only [assetsDrafts]
    induction items generalizing assets assets' with
    | nil =>
      cases read
      cases read'
      exact ⟨rfl, rfl⟩
    | cons item items ih =>
      simp only [List.map_cons, List.mapM_cons, Option.bind_eq_bind, Option.bind_eq_some_iff,
        Option.pure_def, Option.some.injEq] at read read'
      obtain ⟨a, first, rest, later, rfl⟩ := read
      obtain ⟨a', first', rest', later', rfl⟩ := read'
      obtain ⟨texts, others⟩ := readAsset_fill first first'
      obtain ⟨allTexts, allOthers⟩ := ih later later'
      constructor
      · rw [List.flatMap_cons, List.flatMap_cons, texts, allTexts, told_append]
      · rw [List.map_cons, List.map_cons, others, allOthers]

def texts (s : Settings) : List (String × String) :=
  [("api.host", s.api.host), ("logging.level", s.log.level),
   ("wallet.payload_path", s.payloadPath), ("custodial.base_url", s.custodian.base),
   ("custodial.auth_token", s.custodian.token), ("fees.url", s.fees.url),
   ("signer.url", s.signer.url)] ++
    s.labels.texts ++ s.assets.flatMap AssetSettings.texts

def withoutTexts (s : Settings) : Settings :=
  { s with
    api := { s.api with host := "" }
    log := { s.log with level := "" }
    labels := {}
    payloadPath := ""
    custodian := { s.custodian with base := "", token := "" }
    fees := { s.fees with url := "" }
    signer := { s.signer with url := "" }
    assets := s.assets.map AssetSettings.withoutTexts }

/-- Where the texts stand in the document, gaps and all. -/
def drafts (document : Source) : List (String × Draft) :=
  let custodian := document.part sections "custodial"
  [("api.host", (document.part sections "api").draft apiFields "host"),
   ("logging.level",
     (document.part sections "logging").draft logFields "level" ({} : LogSettings).level),
   ("wallet.payload_path", (document.part sections "wallet").draft walletFields "payload_path"),
   ("custodial.base_url", custodian.draft custodianFields "base_url"),
   ("custodial.auth_token", custodian.draft custodianFields "auth_token"),
   ("fees.url", (document.part sections "fees").draft serviceFields "url"),
   ("signer.url", (document.part sections "signer").draft serviceFields "url")] ++
    labelDrafts (document.part sections "labels") ++
      assetsDrafts (document.part sections "assets")

-- A part that is left out is left out for all values, and an empty object has the same defaults.
theorem readLog_part {document : Source} {r r' : Json.Record} {log log' : LogSettings}
    (fills : r.Fills sections document value) (fills' : r'.Fills sections document value')
    (read : r.defaulted "logging" readLog {} = some log)
    (read' : r'.defaulted "logging" readLog {} = some log') :
    log.level = String.ofList (((document.part sections "logging").draft logFields "level"
        ({} : LogSettings).level).fill value) ∧ log.json = log'.json := by
  obtain ⟨found, known, read⟩ | ⟨missing, rfl⟩ := fills.defaulted read
  · obtain ⟨found', known', read'⟩ | ⟨missing, -⟩ := fills'.defaulted read'
    · cases known.symm.trans known'
      rw [Source.part, known]
      exact readLog_fill read read'
    · cases known.symm.trans missing
  · obtain ⟨found', known', -⟩ | ⟨-, rfl⟩ := fills'.defaulted read'
    · cases missing.symm.trans known'
    · rw [Source.part, missing]
      exact ⟨by simp [Source.draft, Source.field?], rfl⟩

theorem readLabels_part {document : Source} {r : Json.Record} {labels : Labels}
    (fills : r.Fills sections document value)
    (read : r.defaulted "labels" readLabels {} = some labels) :
    labels.texts = told value (labelDrafts (document.part sections "labels")) := by
  obtain ⟨found, known, read⟩ | ⟨missing, rfl⟩ := fills.defaulted read
  · rw [Source.part, known]
    exact readLabels_fill read
  · rw [Source.part, missing]
    simp [Labels.texts, told, labelDrafts, Source.draft, Source.field?]

theorem ofJson?_fill {document : Source} {s s' : Settings}
    (read : ofJson? (document.fill value) = some s)
    (read' : ofJson? (document.fill value') = some s') :
    s.texts = told value (drafts document) ∧ s.withoutTexts = s'.withoutTexts := by
  simp only [ofJson?, Option.bind_eq_bind, Option.bind_eq_some_iff, Option.pure_def,
    Option.some.injEq] at read read'
  obtain ⟨r, record, api, isApi, metrics, isMetrics, log, isLog, labels, isLabels, path, isPath,
    custodian, isCustodian, fees, isFees, signer, isSigner, assets, isAssets, rfl⟩ := read
  obtain ⟨r', record', api', isApi', metrics', isMetrics', log', isLog', labels', isLabels', path',
    isPath', custodian', isCustodian', fees', isFees', signer', isSigner', assets', isAssets',
    rfl⟩ := read'
  have fills := fills_of_ofJson? record
  have fills' := fills_of_ofJson? record'
  obtain ⟨host, enabled, port⟩ :=
    readApi_fill (fills.required_part isApi) (fills'.required_part isApi')
  have measured :=
    readMetrics_fill (fills.required_part isMetrics) (fills'.required_part isMetrics')
  have level := readLog_part fills fills' isLog isLog'
  have named := readLabels_part fills isLabels
  have stored := readPayloadPath_fill (fills.required_part isPath)
  obtain ⟨base, token, timeout⟩ :=
    readCustodian_fill (fills.required_part isCustodian) (fills'.required_part isCustodian')
  obtain ⟨feesUrl, feesTimeout⟩ :=
    readService_fill (fills.required_part isFees) (fills'.required_part isFees')
  obtain ⟨signerUrl, signerTimeout⟩ :=
    readService_fill (fills.required_part isSigner) (fills'.required_part isSigner')
  obtain ⟨listed, others⟩ :=
    readAssets_fill (fills.required_part isAssets) (fills'.required_part isAssets')
  constructor
  · simp only [texts, drafts, told_append, host, level.1, named, stored, base, token, feesUrl,
      signerUrl, listed]
    rfl
  · simp only [withoutTexts, enabled, port, measured, level.2, timeout, feesTimeout, signerTimeout,
      others]

end Settings

end MultiWallet
