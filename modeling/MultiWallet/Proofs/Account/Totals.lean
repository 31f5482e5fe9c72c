import MultiWallet.Proofs.Account.Balances
import MultiWallet.Proofs.Account.Sums

set_option autoImplicit false

namespace MultiWallet

open Dialogue

namespace AccountGroup

variable {oracle : Oracle} {start totals : Totals} {members before rest : List Account}
  {s t u : Session} {reports others : List (Account × Amount)} {result : Checked Totals}

inductive Reported (oracle : Oracle) :
    List Account → Session → List (Account × Amount) → Session → Prop where
  | done (s : Session) : Reported oracle [] s [] s
  | passed (account : Account) (rest : List Account) (s t : Session)
      (reports : List (Account × Amount)) (unasked : account.cryptoBalance? = none)
      (more : Reported oracle rest s reports t) : Reported oracle (account :: rest) s reports t
  | asked (account : Account) (rest : List Account) (s u t : Session) (query : Dialogue Amount)
      (amount : Amount) (reports : List (Account × Amount))
      (asked : account.cryptoBalance? = some query)
      (answered : query.run oracle s = (.ok amount, u)) (more : Reported oracle rest u reports t) :
      Reported oracle (account :: rest) s ((account, amount) :: reports) t

theorem Reported.accounts (reported : Reported oracle members s reports t) :
    reports.map Prod.fst = members.filter (·.cryptoBalance?.isSome) := by
  induction reported with
  | done s => rfl
  | passed account rest s t reports unasked more ih => simp [unasked, ih]
  | asked account rest s u t query amount reports asked answered more ih => simp [asked, ih]

theorem Reported.currencies (reported : Reported oracle members s reports t) (c : Currency) :
    c ∈ (reports.map Prod.snd).map Amount.currency ↔
      ∃ account ∈ members, account.currency? = some c := by
  induction reported with
  | done s => simp
  | passed account rest s t reports unasked more ih =>
    rw [ih, List.exists_mem_cons_iff, Account.currency?_of_unasked unasked]
    simp
  | asked account rest s u t query amount reports asked answered more ih =>
    rw [List.map_cons, List.map_cons, List.mem_cons, ih, List.exists_mem_cons_iff,
      Account.currency?_of_balance asked answered, Option.some_inj, eq_comm]

/-- The accounts before it have reported their balances, their totals are in range, and now this
account is asked. -/
structure Turn (oracle : Oracle) (start : Totals) (accounts : List Account) (s : Session) where
  before : List Account
  account : Account
  after : List Account
  reports : List (Account × Amount)
  totals : Totals
  query : Dialogue Amount
  session : Session
  split : accounts = before ++ account :: after
  reported : Reported oracle before s reports session
  added : start.addAll (reports.map Prod.snd) = .ok totals
  asked : account.cryptoBalance? = some query

inductive Outcome (oracle : Oracle) (start : Totals) (members : List Account) (s : Session) :
    Checked Totals → Session → Prop where
  | summed (reports : List (Account × Amount)) (totals : Totals) (t : Session)
      (reported : Reported oracle members s reports t)
      (added : start.addAll (reports.map Prod.snd) = .ok totals) :
      Outcome oracle start members s (.ok totals) t
  | failed (turn : Turn oracle start members s) (cause : Failure) (t : Session)
      (failed : turn.query.run oracle turn.session = (.error (.failure cause), t)) :
      Outcome oracle start members s (.error (.failure cause)) t
  | overflowed (turn : Turn oracle start members s) (amount : Amount) (t : Session)
      (answered : turn.query.run oracle turn.session = (.ok amount, t))
      (large : Decimal.overflowThreshold ≤
        |(turn.totals.held amount.currency).toRat + amount.value.toRat|) :
      Outcome oracle start members s (.error .overflow) t

theorem addBalances_passed {account : Account} (unasked : account.cryptoBalance? = none)
    (totals : Totals) (rest : List Account) :
    addBalances totals (account :: rest) = addBalances totals rest := by
  rw [addBalances, unasked]

theorem addBalances_asked {account : Account} {query : Dialogue Amount}
    (asked : account.cryptoBalance? = some query) (totals : Totals) (rest : List Account) :
    addBalances totals (account :: rest) = (do
      let amount ← query
      let totals ← totals.add amount
      addBalances totals rest) := by
  rw [addBalances, asked]

theorem Reported.run_addBalances (reported : Reported oracle before s reports u)
    (added : start.addAll (reports.map Prod.snd) = .ok totals) (rest : List Account) :
    (addBalances start (before ++ rest)).run oracle s = (addBalances totals rest).run oracle u := by
  induction reported generalizing start with
  | done s =>
    cases added
    rfl
  | passed account more s t reports unasked reported ih =>
    rw [List.cons_append, addBalances_passed unasked, ih added]
  | asked account more s u t query amount reports asked answered reported ih =>
    rw [List.map_cons, Totals.addAll_cons] at added
    obtain ⟨next, step, added⟩ := Checked.bind_eq_ok.1 added
    rw [List.cons_append, addBalances_asked asked, run_bind_ok answered, step, liftM_ok_bind,
      ih added]

theorem Turn.run_addBalances (turn : Turn oracle start members s) :
    (addBalances start members).run oracle s =
      (addBalances turn.totals (turn.account :: turn.after)).run oracle turn.session := by
  rw [← turn.reported.run_addBalances turn.added, ← turn.split]

theorem Outcome.run (outcome : Outcome oracle start members s result t) :
    (addBalances start members).run oracle s = (result, t) := by
  cases outcome with
  | summed reports totals t reported added =>
    simpa [addBalances] using reported.run_addBalances added []
  | failed turn cause t failed =>
    rw [turn.run_addBalances, addBalances_asked turn.asked, run_bind_error failed]
  | overflowed turn amount t answered large =>
    rw [turn.run_addBalances, addBalances_asked turn.asked, run_bind_ok answered]
    obtain ⟨halted, -⟩ | ⟨v, found, -⟩ := turn.totals.add_cases amount
    next =>
      rw [halted]
      rfl
    next =>
      rw [← Decimal.add?_eq_none_iff, found] at large
      cases large

section Steps

variable {account : Account} {query : Dialogue Amount} {amount : Amount}

def Turn.behindPassed (turn : Turn oracle start rest s) (unasked : account.cryptoBalance? = none) :
    Turn oracle start (account :: rest) s where
  before := account :: turn.before
  account := turn.account
  after := turn.after
  reports := turn.reports
  totals := turn.totals
  query := turn.query
  session := turn.session
  split := congrArg (account :: ·) turn.split
  reported := .passed account turn.before s turn.session turn.reports unasked turn.reported
  added := turn.added
  asked := turn.asked

def Turn.behindAdded (turn : Turn oracle totals rest u)
    (asked : account.cryptoBalance? = some query) (answered : query.run oracle s = (.ok amount, u))
    (added : start.add amount = .ok totals) : Turn oracle start (account :: rest) s where
  before := account :: turn.before
  account := turn.account
  after := turn.after
  reports := (account, amount) :: turn.reports
  totals := turn.totals
  query := turn.query
  session := turn.session
  split := congrArg (account :: ·) turn.split
  reported := .asked account turn.before s u turn.session query amount turn.reports asked answered
    turn.reported
  added := by rw [List.map_cons, Totals.addAll_cons, added]; exact turn.added
  asked := turn.asked

def Turn.first (asked : account.cryptoBalance? = some query) :
    Turn oracle start (account :: rest) s where
  before := []
  account := account
  after := rest
  reports := []
  totals := start
  query := query
  session := s
  split := rfl
  reported := .done s
  added := rfl
  asked := asked

theorem Outcome.behindPassed (outcome : Outcome oracle start rest s result t)
    (unasked : account.cryptoBalance? = none) :
    Outcome oracle start (account :: rest) s result t := by
  cases outcome with
  | summed reports totals t reported added =>
    exact .summed reports totals t (.passed account rest s t reports unasked reported) added
  | failed turn cause t failed => exact .failed (turn.behindPassed unasked) cause t failed
  | overflowed turn amount t answered large =>
    exact .overflowed (turn.behindPassed unasked) amount t answered large

theorem Outcome.behindAdded (outcome : Outcome oracle totals rest u result t)
    (asked : account.cryptoBalance? = some query) (answered : query.run oracle s = (.ok amount, u))
    (added : start.add amount = .ok totals) :
    Outcome oracle start (account :: rest) s result t := by
  cases outcome with
  | summed reports totals t reported more =>
    refine .summed ((account, amount) :: reports) totals t
      (.asked account rest s u t query amount reports asked answered reported) ?_
    rw [List.map_cons, Totals.addAll_cons, added]
    exact more
  | failed turn cause t failed =>
    exact .failed (turn.behindAdded asked answered added) cause t failed
  | overflowed turn last t again large =>
    exact .overflowed (turn.behindAdded asked answered added) last t again large

end Steps

theorem outcome_of_run (run : (addBalances start members).run oracle s = (result, t)) :
    Outcome oracle start members s result t := by
  induction members generalizing start s with
  | nil =>
    cases run
    exact .summed [] start _ (.done _) rfl
  | cons account rest ih =>
    cases asked : account.cryptoBalance? with
    | none =>
      rw [addBalances_passed asked] at run
      exact (ih run).behindPassed asked
    | some query =>
      rw [addBalances_asked asked] at run
      obtain ⟨halt, ended, rfl⟩ | ⟨amount, u, answered, run⟩ := run_bind_cases run
      next =>
        have bounded := Account.cryptoBalance?_bounded asked oracle s
        rw [ended] at bounded
        cases halt with
        | failure cause => exact .failed (.first asked) cause t ended
        | overflow => exact absurd rfl bounded
      next =>
        obtain ⟨halted, large⟩ | ⟨v, -, added⟩ := start.add_cases amount
        next =>
          rw [halted] at run
          cases run
          exact .overflowed (.first asked) amount _ answered large
        next =>
          rw [added, liftM_ok_bind] at run
          exact (ih run).behindAdded asked answered added

def told (reports : List (Account × Amount)) (account : Account) : Option Amount :=
  (reports.find? (·.1 = account)).map Prod.snd

theorem told_of_mem {report : Account × Amount} (member : report ∈ reports)
    (one : ∀ account amount other, (account, amount) ∈ reports → (account, other) ∈ reports →
      other = amount) : told reports report.1 = some report.2 := by
  have reported : (reports.find? (·.1 = report.1)).isSome = true :=
    List.find?_isSome.2 ⟨report, member, decide_eq_true rfl⟩
  obtain ⟨first, found⟩ := Option.isSome_iff_exists.1 reported
  have whose : first.1 = report.1 := by simpa using List.find?_some found
  have value : first.2 = report.2 :=
    one report.1 _ _ member (by rw [← whose]; exact List.mem_of_find?_eq_some found)
  rw [told, found, Option.map_some, value]

theorem perm_of_told (holding : Account → Option Amount)
    (accounts : (others.map Prod.fst).Perm (reports.map Prod.fst))
    (first : ∀ report ∈ reports, holding report.1 = some report.2)
    (second : ∀ report ∈ others, holding report.1 = some report.2) : others.Perm reports := by
  have paired {l : List (Account × Amount)}
      (all : ∀ report ∈ l, holding report.1 = some report.2) :
      l.map (Prod.map id some) = (l.map Prod.fst).map fun account => (account, holding account) := by
    rw [List.map_map]
    refine List.map_congr_left fun report member => ?_
    rw [Function.comp_apply, all report member]
    rfl
  have injective : Function.Injective (Prod.map id some : Account × Amount → _) :=
    Function.injective_id.prodMap (Option.some_injective _)
  rw [← List.map_perm_map_iff injective, paired second, paired first]
  exact accounts.map _

theorem perm_of_same (accounts : (others.map Prod.fst).Perm (reports.map Prod.fst))
    (same : ∀ account amount other, (account, amount) ∈ reports → (account, other) ∈ others →
      other = amount) : others.Perm reports := by
  have one (account : Account) (amount other : Amount) (first : (account, amount) ∈ reports)
      (second : (account, other) ∈ reports) : other = amount := by
    have member := accounts.mem_iff.2 (List.mem_map_of_mem (f := Prod.fst) first)
    obtain ⟨⟨_, again⟩, reported, rfl⟩ := List.mem_map.1 member
    exact (same _ _ _ second reported).symm.trans (same _ _ _ first reported)
  refine perm_of_told (told reports) accounts (fun report member => told_of_mem member one)
    fun report member => ?_
  have listed := accounts.mem_iff.1 (List.mem_map_of_mem (f := Prod.fst) member)
  obtain ⟨first, reported, whose⟩ := List.mem_map.1 listed
  have value : report.2 = first.2 := same report.1 _ _ (by rw [← whose]; exact reported) member
  rw [← whose, told_of_mem reported one, value]

theorem Reported.run_countable (reported : Reported oracle members s reports t)
    (countable : Totals.Countable (reports.map Prod.snd)) :
    ∃ totals, (addBalances .empty members).run oracle s = (.ok totals, t) ∧
      ∀ c, (totals c).map Decimal.toRat =
        if ∃ account ∈ members, account.currency? = some c then
          some (Totals.sum (reports.map Prod.snd) c) else none := by
  obtain ⟨totals, added, correct⟩ := countable.summed
  refine ⟨totals, (Outcome.summed reports totals t reported added).run, fun c => ?_⟩
  rw [correct c]
  exact if_congr (reported.currencies c) rfl rfl

/-- Balances in whole smallest units, whose sums are in range, are added up exactly: there is a
total for every currency that is held, and it is the same number in whatever order the accounts
stand. The query fails exactly where an account in its turn cannot say its balance: with that
failure, and without a call for any account behind it. An account has its turn at the latest when
those before it have reported such balances. -/
theorem cryptoBalances_exact (group : AccountGroup) (oracle : Oracle) (s : Session) :
    (∀ reports t, Reported oracle group.accounts s reports t →
      Totals.Countable (reports.map Prod.snd) →
        ∃ totals, group.cryptoBalances.run oracle s = (.ok totals, t) ∧
          (∀ c, (totals c).map Decimal.toRat =
            if ∃ account ∈ group.accounts, account.currency? = some c then
              some (Totals.sum (reports.map Prod.snd) c) else none) ∧
          ∀ order : List Account, order.Perm group.accounts → ∀ later u others v,
            Reported later order u others v →
            (∀ account amount other, (account, amount) ∈ reports → (account, other) ∈ others →
              other = amount) →
            ∃ again, { group with accounts := order }.cryptoBalances.run later u = (.ok again, v) ∧
              ∀ c, (again c).map Decimal.toRat = (totals c).map Decimal.toRat) ∧
    (∀ cause t, group.cryptoBalances.run oracle s = (.error (.failure cause), t) ↔
      ∃ turn : Turn oracle .empty group.accounts s,
        turn.query.run oracle turn.session = (.error (.failure cause), t)) ∧
    ∀ before account after reports u query cause t, group.accounts = before ++ account :: after →
      Reported oracle before s reports u → Totals.Countable (reports.map Prod.snd) →
      account.cryptoBalance? = some query →
      query.run oracle u = (.error (.failure cause), t) →
        group.cryptoBalances.run oracle s = (.error (.failure cause), t) := by
  refine ⟨?_, ?_, ?_⟩
  next =>
    intro reports t reported countable
    obtain ⟨totals, run, sums⟩ := reported.run_countable countable
    refine ⟨totals, run, sums, ?_⟩
    intro order permuted later u others v again same
    have accounts : (others.map Prod.fst).Perm (reports.map Prod.fst) := by
      rw [reported.accounts, again.accounts]
      exact permuted.filter _
    have amounts : (others.map Prod.snd).Perm (reports.map Prod.snd) :=
      (perm_of_same accounts same).map _
    obtain ⟨other, run, others⟩ := again.run_countable (countable.perm amounts)
    refine ⟨other, run, fun c => ?_⟩
    rw [others c, sums c, Totals.sum_perm amounts]
    exact if_congr (by simp only [permuted.mem_iff]) rfl rfl
  next =>
    intro cause t
    constructor
    next =>
      intro run
      cases outcome_of_run run with
      | failed turn cause t failed => exact ⟨turn, failed⟩
    next =>
      rintro ⟨turn, failed⟩
      exact (Outcome.failed turn cause t failed).run
  next =>
    intro before account after reports u query cause t split reported countable asked failed
    obtain ⟨totals, added, -⟩ := countable.summed
    let turn : Turn oracle .empty group.accounts s :=
      { before, account, after, reports, totals, query, session := u, split, reported, added
        asked }
    exact (Outcome.failed turn cause t failed).run

def spender (name : String) (currency : Currency) : Account :=
  .crypto { id := 1, label := name, currency, custody := .nonCustodial
            permissions := .nonCustodial, backend := .external name }

def savings : Account :=
  .interest { id := 2, label := "savings", currency := .btc, custodian := .external }

def dollars : Account :=
  .fiat { id := 3, label := "dollars", code := "USD", custodian := .external }

def household : AccountGroup :=
  { label := "all", accounts := [spender "purse" .btc, dollars, savings, spender "chest" .eth] }

def half : Decimal := { negative := false, coefficient := 5000, scale := 4 }

def quarter : Decimal := { negative := false, coefficient := 25000000, scale := 8 }

def two : Decimal := { negative := false, coefficient := 20000, scale := 4 }

def reporting (interest : Answer (Option Decimal)) : Oracle
  | _, .accountBalance "purse" => .ok half
  | _, .accountBalance "chest" => .ok two
  | _, .interestBalance _ => interest
  | _, c => c.refused

def statements : List (Account × Amount) :=
  [(spender "purse" .btc, { currency := .btc, value := half }),
   (savings, { currency := .btc, value := quarter }),
   (spender "chest" .eth, { currency := .eth, value := two })]

theorem reported_household : ∃ t,
    Reported (reporting (.ok (some quarter))) household.accounts .empty statements t :=
  ⟨_, .asked _ _ _ _ _ _ _ _ rfl rfl (.passed _ _ _ _ _ rfl (.asked _ _ _ _ _ _ _ _ rfl rfl
    (.asked _ _ _ _ _ _ _ _ rfl rfl (.done _))))⟩

theorem countable_statements : Totals.Countable (statements.map Prod.snd) where
  whole := by
    simp only [statements, List.map_cons, List.map_nil, List.forall_mem_cons]
    refine ⟨⟨50000000, ?_⟩, ⟨25000000, ?_⟩, ⟨2000000000000000000, ?_⟩, by simp⟩ <;>
      norm_num [Amount.units, Decimal.toRat, Decimal.ratio, Currency.places, half, quarter, two]
  inRange c := by
    cases c <;>
      simp [statements, Totals.sum_cons, Decimal.toRat, Decimal.ratio, Currency.places, half,
        quarter, two] <;>
      norm_num

theorem one_statement (account : Account) (amount other : Amount)
    (first : (account, amount) ∈ statements) (second : (account, other) ∈ statements.reverse) :
    other = amount := by
  simp only [statements, List.mem_reverse, List.mem_cons, List.not_mem_nil, or_false,
    Prod.mk.injEq] at first second
  rcases first with ⟨rfl, rfl⟩ | ⟨rfl, rfl⟩ | ⟨rfl, rfl⟩ <;>
    simpa [spender, savings] using second

-- The accounts are added up from both ends; then the savings cannot be had.
theorem cryptoBalances_exact_household :
    (∃ totals again t v,
      household.cryptoBalances.run (reporting (.ok (some quarter))) .empty = (.ok totals, t) ∧
        (totals .btc).map Decimal.toRat = some (3 / 4) ∧
        (totals .eth).map Decimal.toRat = some 2 ∧ totals .xlm = none ∧
        { household with accounts := household.accounts.reverse }.cryptoBalances.run
          (reporting (.ok (some quarter))) .empty = (.ok again, v) ∧
        ∀ c, (again c).map Decimal.toRat = (totals c).map Decimal.toRat) ∧
      ∃ t, household.cryptoBalances.run (reporting (.error (.custodial "down"))) .empty =
          (.error (.failure (.custodial "down")), t) ∧
        t.calls = [.accountBalance "purse", .interestBalance .btc] := by
  constructor
  next =>
    obtain ⟨t, reported⟩ := reported_household
    have backwards : ∃ v, Reported (reporting (.ok (some quarter))) household.accounts.reverse
        .empty statements.reverse v :=
      ⟨_, .asked _ _ _ _ _ _ _ _ rfl rfl (.asked _ _ _ _ _ _ _ _ rfl rfl
        (.passed _ _ _ _ _ rfl (.asked _ _ _ _ _ _ _ _ rfl rfl (.done _))))⟩
    obtain ⟨v, backwards⟩ := backwards
    obtain ⟨exact, -, -⟩ :=
      cryptoBalances_exact household (reporting (.ok (some quarter))) .empty
    obtain ⟨totals, run, sums, order⟩ := exact statements t reported countable_statements
    obtain ⟨again, other, same⟩ := order household.accounts.reverse (List.reverse_perm _)
      (reporting (.ok (some quarter))) .empty statements.reverse v backwards one_statement
    refine ⟨totals, again, t, v, run, ?_, ?_, ?_, other, same⟩
    next =>
      rw [sums]
      simp [household, spender, Account.currency?, statements, Totals.sum_cons, Decimal.toRat,
        Decimal.ratio, half, quarter]
      norm_num
    next =>
      rw [sums]
      simp [household, spender, Account.currency?, statements, Totals.sum_cons, Decimal.toRat,
        Decimal.ratio, two]
      norm_num
    next =>
      rw [← Option.map_eq_none_iff (f := Decimal.toRat), sums]
      simp [household, spender, savings, dollars, Account.currency?]
  next =>
    obtain ⟨-, -, fails⟩ :=
      cryptoBalances_exact household (reporting (.error (.custodial "down"))) .empty
    have all : Totals.Countable ([({ currency := .btc, value := half } : Amount)] ++
        [{ currency := .btc, value := quarter }, { currency := .eth, value := two }]) :=
      countable_statements
    refine ⟨_, fails [spender "purse" .btc, dollars] savings [spender "chest" .eth]
      [(spender "purse" .btc, { currency := .btc, value := half })] _ _ _ _ rfl
      (.asked _ _ _ _ _ _ _ _ rfl rfl (.passed _ _ _ _ _ rfl (.done _))) all.first rfl rfl, rfl⟩

/-- A query halts exactly where the total of a currency leaves the range of the numbers: no failure
is answered there, whatever the other balances are. -/
theorem cryptoBalances_overflow_iff (group : AccountGroup) (oracle : Oracle) (s : Session) :
    (group.cryptoBalances.run oracle s).1 = .error .overflow ↔
      ∃ (turn : Turn oracle .empty group.accounts s) (amount : Amount) (t : Session),
        turn.query.run oracle turn.session = (.ok amount, t) ∧
          Decimal.overflowThreshold ≤
            |(turn.totals.held amount.currency).toRat + amount.value.toRat| := by
  constructor
  next =>
    intro halted
    have outcome := outcome_of_run (Prod.eta (group.cryptoBalances.run oracle s)).symm
    rw [halted] at outcome
    cases outcome with
    | overflowed turn amount t answered large => exact ⟨turn, amount, _, answered, large⟩
  next =>
    rintro ⟨turn, amount, t, answered, large⟩
    exact congrArg Prod.fst (Outcome.overflowed turn amount t answered large).run

def hoards : AccountGroup :=
  { label := "g", accounts := [spender "h1" .btc, spender "h2" .btc] }

def most : Decimal := .ofNat 79228162514264337593543950335 (by decide)

def hoarding : Oracle
  | _, .accountBalance "h1" => .ok most
  | _, .accountBalance "h2" => .ok (.ofUInt64 1)
  | _, c => c.refused

theorem cryptoBalances_halted :
    (hoards.cryptoBalances.run hoarding .empty).1 = .error .overflow ∧
      Amount.add { currency := .btc, value := most } { currency := .btc, value := .ofUInt64 1 } =
        fail (.invalidAmount "79228162514264337593543950335 BTC + 1 BTC out of range") := by
  constructor
  next => rfl
  next => decide +kernel

end AccountGroup

end MultiWallet
