import MultiWallet.Action
import MultiWallet.Currency

set_option autoImplicit false

namespace MultiWallet

inductive Metric where
  | initFailure (currency : Currency)
  | swallowed (tag : String)
  | fallback (currency : Currency)
  | created (action : Action)
  | submitted (currency : Currency)
  | rejected (currency : Currency)
deriving DecidableEq, Repr

namespace Metric

inductive Kind where
  | gauge
  | counter
deriving DecidableEq, Repr

structure Family where
  name : String
  help : String
  label : String
  kind : Kind
deriving DecidableEq, Repr

def enabledFamily : Family :=
  { name := "coincore_asset_enabled"
    help := "Registered asset status (1=enabled, 0=disabled)"
    label := "currency"
    kind := .gauge }

def initFailureFamily : Family :=
  { name := "coincore_asset_init_failures_total"
    help := "Asset initialisation failures"
    label := "currency"
    kind := .counter }

def fallbackFamily : Family :=
  { name := "coincore_max_spendable_fallbacks_total"
    help := "Maximum spendable queries answered with zero after a failure"
    label := "currency"
    kind := .counter }

def swallowedFamily : Family :=
  { name := "coincore_swallowed_errors_total"
    help := "Errors reported to the crash reporter and not surfaced"
    label := "tag"
    kind := .counter }

def rejectedFamily : Family :=
  { name := "coincore_transactions_rejected_total"
    help := "Transactions rejected by the network"
    label := "currency"
    kind := .counter }

def submittedFamily : Family :=
  { name := "coincore_transactions_submitted_total"
    help := "Transactions accepted by the network"
    label := "currency"
    kind := .counter }

def createdFamily : Family :=
  { name := "coincore_tx_processors_created_total"
    help := "Transaction processors created by action"
    label := "action"
    kind := .counter }

def family : Metric → Family
  | initFailure _ => initFailureFamily
  | swallowed _ => swallowedFamily
  | fallback _ => fallbackFamily
  | created _ => createdFamily
  | submitted _ => submittedFamily
  | rejected _ => rejectedFamily

def labelValue : Metric → String
  | initFailure currency | fallback currency | submitted currency | rejected currency =>
      currency.ticker
  | swallowed tag => tag
  | created action => action.name

structure Sample where
  label : String
  value : Nat
deriving DecidableEq, Repr

-- Families in the order of their names.
def counterFamilies : List Family :=
  [initFailureFamily, fallbackFamily, swallowedFamily, rejectedFamily, submittedFamily,
   createdFamily]

def insertByLabel (s : Sample) : List Sample → List Sample
  | [] => [s]
  | t :: rest => if s.label < t.label then s :: t :: rest else t :: insertByLabel s rest

def sortByLabel (samples : List Sample) : List Sample := samples.foldr insertByLabel []

def samples (counted : List Metric) (f : Family) : List Sample :=
  let labels := (counted.filter (·.family == f)).map labelValue
  sortByLabel (labels.eraseDups.map fun l => { label := l, value := labels.count l })

def escapeLabel (c : Char) : List Char :=
  if c = '\\' then ['\\', '\\']
  else if c = '"' then ['\\', '"']
  else if c = '\n' then ['\\', 'n']
  else [c]

def Kind.name : Kind → String
  | gauge => "gauge"
  | counter => "counter"

def familyLines (f : Family) (samples : List Sample) : List String :=
  if samples.isEmpty then []
  else
    ("# HELP " ++ f.name ++ " " ++ f.help) :: ("# TYPE " ++ f.name ++ " " ++ f.kind.name) ::
      samples.map fun s =>
        f.name ++ "\x7b" ++ f.label ++ "=\"" ++
          String.ofList (s.label.toList.flatMap escapeLabel) ++ "\"\x7d " ++ toString s.value

def enabledSamples (registered : List (Currency × Bool)) : List Sample :=
  Currency.all.filterMap fun c =>
    (registered.reverse.lookup c).map fun enabled =>
      { label := c.ticker, value := if enabled then 1 else 0 }

def lines (registered : List (Currency × Bool)) (counted : List Metric) : List String :=
  familyLines enabledFamily (sortByLabel (enabledSamples registered)) ++
    counterFamilies.flatMap fun f => familyLines f (samples counted f)

end Metric

end MultiWallet
