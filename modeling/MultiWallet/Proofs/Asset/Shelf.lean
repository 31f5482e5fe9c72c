import MultiWallet.Proofs.Asset.Loading

/-!
Accounts as they are kept and drawn. A shelf holds the accounts of a currency, or the fiat accounts;
it is filled by the first load that succeeds, and is not touched afterwards. A dialogue that draws
its accounts can be read as one that gets all of them first and then goes on with what lies on the
shelves.
-/

set_option autoImplicit false

namespace MultiWallet

open Dialogue

inductive Shelf where
  | crypto (currency : Currency)
  | fiat
deriving DecidableEq

namespace Session

variable {s t : Session} {shelf other : Shelf}

def kept (s : Session) : Shelf → Option (List Account)
  | .crypto currency => s.loaded currency
  | .fiat => s.loadedFiat

def keep (s : Session) (accounts : List Account) : Shelf → Session
  | .crypto currency => Asset.keep currency accounts s
  | .fiat => { s with loadedFiat := some accounts }

def lists (s : Session) (shelf : Shelf) : List Account := (s.kept shelf).getD []

theorem kept_keep (accounts : List Account) :
    (s.keep accounts shelf).kept shelf = some accounts := by
  cases shelf <;> simp [keep, kept, Asset.keep]

theorem kept_keep_of_ne (accounts : List Account) (different : other ≠ shelf) :
    (s.keep accounts shelf).kept other = s.kept other := by
  cases shelf <;> cases other <;> simp_all [keep, kept, Asset.keep]

theorem KeepsAs.kept (same : t.KeepsAs s) : t.kept shelf = s.kept shelf := by
  cases shelf with
  | crypto currency => exact congrFun same.loaded currency
  | fiat => exact same.loadedFiat

theorem lists_of_kept {accounts : List Account} (kept : s.kept shelf = some accounts) :
    s.lists shelf = accounts := by
  rw [lists, kept, Option.getD_some]

end Session

/-- Loads for one shelf, one after the other: as long as they fail, nothing is kept. The first that
succeeds is the last one, and what it has found is kept. -/
inductive Attempts :
    Option (List Account) → List (Checked (List Account)) → Option (List Account) → Prop where
  | kept (accounts : List Account) : Attempts (some accounts) [] (some accounts)
  | failed (halts : List Halt) : Attempts none (halts.map .error) none
  | settled (halts : List Halt) (accounts : List Account) :
      Attempts none (halts.map .error ++ [.ok accounts]) (some accounts)

namespace Attempts

variable {a b c : Option (List Account)} {l m : List (Checked (List Account))}

theorem refl : (a : Option (List Account)) → Attempts a [] a
  | none => .failed []
  | some accounts => .kept accounts

theorem trans (first : Attempts a l b) (rest : Attempts b m c) : Attempts a (l ++ m) c := by
  cases first with
  | kept accounts => exact rest
  | settled halts accounts =>
    cases rest
    rw [List.append_nil]
    exact .settled halts accounts
  | failed halts =>
    cases rest with
    | failed more =>
      rw [← List.map_append]
      exact .failed (halts ++ more)
    | settled more accounts =>
      rw [← List.append_assoc, ← List.map_append]
      exact .settled (halts ++ more) accounts

theorem of_some {accounts : List Account} (attempts : Attempts (some accounts) l b) :
    l = [] ∧ b = some accounts := by
  cases attempts
  exact ⟨rfl, rfl⟩

end Attempts

inductive Listing where
  | crypto (asset : Asset)
  | fiat (asset : FiatAsset)

namespace Listing

def shelf : Listing → Shelf
  | crypto a => .crypto a.currency
  | fiat _ => .fiat

def accounts (labels : Labels) : Listing → Dialogue (List Account)
  | crypto a => a.accounts labels
  | fiat a => a.accounts labels

def load (labels : Labels) : Listing → Dialogue (List Account)
  | crypto a => a.load labels
  | fiat a => do
    let codes ← a.custodian.fiatCurrencies
    Asset.openAll (a.openAccount labels) codes

variable {labels : Labels} {oracle : Oracle} {s t : Session} {result : Checked (List Account)}

theorem yields_load (l : Listing) : Yields oracle (fun _ => True) (l.load labels) := by
  cases l with
  | crypto a =>
    refine ((a.nonCustodialAccounts_yields labels).orElse trivial).yields.bind fun _ _ => ?_
    refine (a.custodialAccounts_yields labels).bind fun _ _ => ?_
    refine ((a.yields_interestAccounts labels).orElse trivial).yields.bind fun _ _ => ?_
    exact yields_pure trivial
  | fiat a =>
    refine (a.custodian.yields_fiatCurrencies oracle).bind fun codes _ => ?_
    exact Asset.openAll_yields fun _ => gives_freshId.bind fun _ _ => gives_pure trivial

theorem accounts_eq (l : Listing) (labels : Labels) :
    l.accounts labels = do
      match (← session).kept l.shelf with
      | some accounts => return accounts
      | none =>
        let accounts ← l.load labels
        modify fun s => s.keep accounts l.shelf
        return accounts := by
  cases l with
  | crypto a => rfl
  | fiat a =>
    simp only [accounts, FiatAsset.accounts, load, bind_assoc]
    rfl

theorem run_accounts_kept {l : Listing} {known : List Account}
    (kept : s.kept l.shelf = some known) :
    (l.accounts labels).run oracle s = (.ok known, s) := by
  rw [accounts_eq, run_session_bind, kept]
  rfl

theorem run_accounts_loaded {l : Listing} {found : List Account} (empty : s.kept l.shelf = none)
    (loaded : (l.load labels).run oracle s = (.ok found, t)) :
    (l.accounts labels).run oracle s = (.ok found, t.keep found l.shelf) := by
  rw [accounts_eq, run_session_bind, empty]
  simp only [run_bind_ok loaded]
  rfl

theorem run_accounts_refused {l : Listing} {halt : Halt} (empty : s.kept l.shelf = none)
    (refused : (l.load labels).run oracle s = (.error halt, t)) :
    (l.accounts labels).run oracle s = (.error halt, t) := by
  rw [accounts_eq, run_session_bind, empty]
  simp only [run_bind_error refused]

end Listing

structure Load where
  shelf : Shelf
  result : Checked (List Account)

def loadsOn (shelf : Shelf) (loads : List Load) : List (Checked (List Account)) :=
  (loads.filter (·.shelf = shelf)).map (·.result)

theorem loadsOn_append (shelf : Shelf) (loads more : List Load) :
    loadsOn shelf (loads ++ more) = loadsOn shelf loads ++ loadsOn shelf more := by
  simp [loadsOn]

/-- Accounts are taken where they are kept, and loaded where they are not; the first load that fails
is the end of it. -/
inductive Drawing (labels : Labels) (oracle : Oracle) :
    List Listing → Session → List Load → Checked Unit → Session → Prop where
  | done (s : Session) : Drawing labels oracle [] s [] (.ok ()) s
  | kept (l : Listing) (rest : List Listing) (s t : Session) (known : List Account)
      (loads : List Load) (drawn : Checked Unit) (there : s.kept l.shelf = some known)
      (more : Drawing labels oracle rest s loads drawn t) :
      Drawing labels oracle (l :: rest) s loads drawn t
  | loaded (l : Listing) (rest : List Listing) (s t u : Session) (found : List Account)
      (loads : List Load) (drawn : Checked Unit) (missing : s.kept l.shelf = none)
      (load : (l.load labels).run oracle s = (.ok found, u))
      (more : Drawing labels oracle rest (u.keep found l.shelf) loads drawn t) :
      Drawing labels oracle (l :: rest) s (⟨l.shelf, .ok found⟩ :: loads) drawn t
  | refused (l : Listing) (rest : List Listing) (s t : Session) (halt : Halt)
      (missing : s.kept l.shelf = none) (load : (l.load labels).run oracle s = (.error halt, t)) :
      Drawing labels oracle (l :: rest) s [⟨l.shelf, .error halt⟩] (.error halt) t

def drawAll (labels : Labels) : List Listing → Dialogue Unit
  | [] => return ()
  | l :: rest => do
    let _ ← l.accounts labels
    drawAll labels rest

section Drawing

variable {labels : Labels} {oracle : Oracle} {s t : Session} {wanted : List Listing}
  {loads : List Load} {drawn : Checked Unit}

theorem drawing_of_run (run : (drawAll labels wanted).run oracle s = (drawn, t)) :
    ∃ loads, Drawing labels oracle wanted s loads drawn t := by
  induction wanted generalizing s with
  | nil =>
    cases run
    exact ⟨[], .done _⟩
  | cons l rest ih =>
    rw [drawAll] at run
    cases there : s.kept l.shelf with
    | some known =>
      rw [run_bind_ok (Listing.run_accounts_kept there)] at run
      obtain ⟨loads, more⟩ := ih run
      exact ⟨loads, .kept l rest s t known loads drawn there more⟩
    | none =>
      rcases load : (l.load labels).run oracle s with ⟨halt | found, u⟩
      · rw [run_bind_error (Listing.run_accounts_refused there load)] at run
        cases run
        exact ⟨_, .refused l rest s _ halt there load⟩
      · rw [run_bind_ok (Listing.run_accounts_loaded there load)] at run
        obtain ⟨loads, more⟩ := ih run
        exact ⟨_, .loaded l rest s t u found loads drawn there load more⟩

theorem kept_of_load {l : Listing} {result : Checked (List Account)}
    (load : (l.load labels).run oracle s = (result, t)) (shelf : Shelf) :
    t.kept shelf = s.kept shelf :=
  (l.yields_load s result t load).1.kept

theorem Drawing.attempts (drawing : Drawing labels oracle wanted s loads drawn t) (shelf : Shelf) :
    Attempts (s.kept shelf) (loadsOn shelf loads) (t.kept shelf) := by
  induction drawing with
  | done s => exact .refl _
  | kept l rest s t known loads drawn there more ih => exact ih
  | loaded l rest s t u found loads drawn missing load more ih =>
    by_cases same : l.shelf = shelf
    · subst same
      rw [Session.kept_keep] at ih
      have first : Attempts (s.kept l.shelf) [.ok found] (some found) := by
        rw [missing]
        exact .settled [] found
      simpa [loadsOn] using first.trans ih
    · rw [Session.kept_keep_of_ne found (Ne.symm same), kept_of_load load] at ih
      simpa [loadsOn, same] using ih
  | refused l rest s t halt missing load =>
    rw [kept_of_load load]
    by_cases same : l.shelf = shelf
    · subst same
      rw [missing]
      simpa [loadsOn] using Attempts.failed [halt]
    · simpa [loadsOn, same] using Attempts.refl (s.kept shelf)

theorem Drawing.kept_on (drawing : Drawing labels oracle wanted s loads drawn t) {shelf : Shelf}
    {known : List Account} (there : s.kept shelf = some known) : t.kept shelf = some known := by
  have attempts := drawing.attempts shelf
  rw [there] at attempts
  exact attempts.of_some.2

theorem Drawing.complete (drawing : Drawing labels oracle wanted s loads (.ok ()) t) :
    ∀ l ∈ wanted, (t.kept l.shelf).isSome := by
  generalize ended : Except.ok () = drawn at drawing
  induction drawing with
  | done s => simp
  | kept l rest s t known loads drawn there more ih =>
    refine List.forall_mem_cons.2 ⟨?_, ih ended⟩
    rw [more.kept_on there, Option.isSome_some]
  | loaded l rest s t u found loads drawn missing load more ih =>
    refine List.forall_mem_cons.2 ⟨?_, ih ended⟩
    rw [more.kept_on (Session.kept_keep found), Option.isSome_some]
  | refused l rest s t halt missing load => cases ended

theorem drawAll_append (labels : Labels) (first rest : List Listing) :
    drawAll labels (first ++ rest) = drawAll labels first >>= fun _ => drawAll labels rest := by
  induction first with
  | nil => rfl
  | cons l more ih => simp only [List.cons_append, drawAll, ih, bind_assoc]

end Drawing

structure Draws {α : Type} (labels : Labels) (wanted : List Listing) (d : Dialogue α)
    (rest : (Shelf → List Account) → Dialogue α) : Prop where
  run : ∀ (oracle : Oracle) (s t : Session) (drawn : Checked Unit),
    (drawAll labels wanted).run oracle s = (drawn, t) →
      d.run oracle s =
        match drawn with
        | .ok _ => (rest t.lists).run oracle t
        | .error halt => (.error halt, t)
  rest_congr : ∀ lists others : Shelf → List Account,
    (∀ l ∈ wanted, lists l.shelf = others l.shelf) → rest lists = rest others

section Draws

variable {α β : Type} {labels : Labels} {wanted more : List Listing}

theorem draws_nothing (labels : Labels) (d : Dialogue α) : Draws labels [] d fun _ => d where
  run oracle s t drawn run := by
    cases run
    rfl
  rest_congr _ _ _ := rfl

theorem draws_accounts (l : Listing) :
    Draws labels [l] (l.accounts labels) fun lists => pure (lists l.shelf) where
  run oracle s t drawn run := by
    rw [drawAll] at run
    cases kept : s.kept l.shelf with
    | some known =>
      have there : (l.accounts labels).run oracle s = (.ok known, s) :=
        Listing.run_accounts_kept kept
      rw [run_bind_ok there] at run
      cases run
      rw [there, Session.lists_of_kept kept]
      rfl
    | none =>
      rcases load : (l.load labels).run oracle s with ⟨halt | found, u⟩
      · have refused := Listing.run_accounts_refused kept load
        rw [run_bind_error refused] at run
        cases run
        exact refused
      · have loaded := Listing.run_accounts_loaded kept load
        rw [run_bind_ok loaded] at run
        cases run
        rw [loaded, Session.lists_of_kept (Session.kept_keep found)]
        rfl
  rest_congr lists others same := by rw [same l List.mem_cons_self]

theorem Draws.run_eq_ok {value : (Shelf → List Account) → α} {d : Dialogue α} {oracle : Oracle}
    {s t : Session} {a : α} (draws : Draws labels wanted d fun lists => pure (value lists))
    (run : d.run oracle s = (.ok a, t)) : a = value t.lists := by
  rcases ran : (drawAll labels wanted).run oracle s with ⟨drawn, u⟩
  have whole := draws.run oracle s u drawn ran
  rw [run] at whole
  cases drawn <;> cases whole
  rfl

theorem Draws.bind {d : Dialogue α} {rest : (Shelf → List Account) → Dialogue α}
    (draws : Draws labels wanted d rest) (f : α → Dialogue β) :
    Draws labels wanted (d >>= f) fun lists => rest lists >>= f where
  run oracle s t drawn run := by
    rw [run_bind, draws.run oracle s t drawn run]
    cases drawn <;> rfl
  rest_congr lists others same := by rw [draws.rest_congr lists others same]

theorem Draws.append {value : (Shelf → List Account) → α} {d : Dialogue α} {f : α → Dialogue β}
    {rest : α → (Shelf → List Account) → Dialogue β}
    (first : Draws labels wanted d fun lists => pure (value lists))
    (second : ∀ a, Draws labels more (f a) (rest a)) :
    Draws labels (wanted ++ more) (d >>= f) fun lists => rest (value lists) lists := by
  have first_congr (x lists others : Shelf → List Account)
      (same : ∀ l ∈ wanted, lists l.shelf = others l.shelf) :
      rest (value lists) x = rest (value others) x :=
    congrArg (· >>= fun a => rest a x) (first.rest_congr lists others same)
  constructor
  · intro oracle s t drawn run
    rw [drawAll_append] at run
    obtain ⟨halt, ran, rfl⟩ | ⟨_, u, ran, run⟩ := run_bind_cases run
    · rw [run_bind_error (first.run oracle s t _ ran)]
    · rw [run_bind_ok (first.run oracle s u _ ran), (second _).run oracle u t drawn run]
      cases drawn with
      | error halt => rfl
      | ok _ =>
        -- What was drawn first has not changed since.
        obtain ⟨_, earlier⟩ := drawing_of_run ran
        obtain ⟨_, later⟩ := drawing_of_run run
        have same : rest (value u.lists) t.lists = rest (value t.lists) t.lists := by
          refine first_congr _ _ _ fun l member => ?_
          obtain ⟨known, there⟩ := Option.isSome_iff_exists.1 (earlier.complete l member)
          rw [Session.lists_of_kept there, Session.lists_of_kept (later.kept_on there)]
        simp only [same]
  · intro lists others same
    rw [first_congr lists lists others fun l member => same l (List.mem_append_left _ member)]
    exact (second _).rest_congr lists others fun l member => same l (List.mem_append_right _ member)

end Draws

end MultiWallet
