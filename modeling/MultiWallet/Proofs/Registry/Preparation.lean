import MultiWallet.Proofs.Advice
import MultiWallet.Registry.Basic

set_option autoImplicit false

namespace MultiWallet

open Dialogue

namespace ChainClient

def healthCall? : ChainClient → Option Call
  | external name _ => some (.chainHealth name)
  | indexer _ base => some (.http (Http.get (base ++ "/api/v2") none))
  | stellar (.external name) _ => some (.stellarRoot name)
  | stellar (.http base) _ => some (.http (Http.get base none))
  | evm _ url _ =>
    match Http.refusal? url with
    | some _ => none
    | none => some (.http (Http.postJson url none (JsonRpc.request "eth_blockNumber" .null)))

theorem health_makes (chain : ChainClient) : chain.health.Makes chain.healthCall?.toList := by
  cases chain with
  | external name currency =>
    exact (inquires_answer (c := .chainHealth name) fun reply => reply).makes
  | indexer currency base =>
    apply ((Indexer.find_inquires _ _ _).makes).bind
    intro found
    cases found with
    | some status => exact makes_pure ()
    | none => exact makes_fail _
  | stellar server network =>
    cases server with
    | external name => exact (inquires_answer (c := .stellarRoot name) fun reply => reply).makes
    | http base =>
      apply ((inquires_exchange _).makes).bind
      intro r
      split
      next => exact makes_pure ()
      next => exact makes_fail _
  | evm currency url gasLimit =>
    apply Makes.bind _ fun _ => makes_pure ()
    cases sent : Http.refusal? url with
    | some refusal =>
      simp only [healthCall?, sent, Evm.call, JsonRpc.call_refused sent]
      exact makes_ofChecked (Checked.bounded_fail _)
    | none =>
      simp only [healthCall?, sent]
      exact (JsonRpc.call_inquires sent currency _).makes

theorem healthCall?_party {chain : ChainClient} {c : Call} (asked : chain.healthCall? = some c) :
    c.To [.web, .network] := by
  unfold healthCall? at asked
  split at asked
  next name currency =>
    cases asked
    simp [Call.To, Call.party]
  next =>
    cases asked
    exact Call.to_web _ _
  next name network =>
    cases asked
    simp [Call.To, Call.party]
  next =>
    cases asked
    exact Call.to_web _ _
  next =>
    split at asked
    next => cases asked
    next =>
      cases asked
      exact Call.to_web _ _

end ChainClient

namespace Asset

def prepareCall? (a : Asset) : Option Call :=
  match a.kind with
  | .onChain chain _ | .stellar chain _ => chain.healthCall?
  | .stacks => none
  | .external => some (.assetInit a.currency)

theorem prepare_makes (a : Asset) : a.prepare.Makes a.prepareCall?.toList := by
  rcases kind : a.kind with ⟨chain, preference⟩ | ⟨chain, preference⟩ | _ | _ <;>
    simp only [prepare, prepareCall?, kind]
  next => exact chain.health_makes
  next => exact chain.health_makes
  next => exact makes_pure ()
  next => exact (inquires_answer (c := .assetInit a.currency) fun reply => reply).makes

theorem prepareCall?_unreported {a : Asset} {c : Call} (asked : a.prepareCall? = some c) :
    c.party ≠ .reporter := by
  have reached {chain : ChainClient} (asked : chain.healthCall? = some c) :
      c.party ≠ .reporter := by
    intro same
    have reached := ChainClient.healthCall?_party asked
    simp [Call.To, same] at reached
  unfold prepareCall? at asked
  split at asked
  next => exact reached asked
  next => exact reached asked
  next => cases asked
  next =>
    cases asked
    simp [Call.party]

end Asset

namespace Registry

inductive Prepared (oracle : Oracle) : List Asset → Session → Session → Prop where
  | done (s : Session) : Prepared oracle [] s s
  | next (a : Asset) (rest : List Asset) (s t u : Session)
      (first : a.prepare.run oracle s = (.ok (), t)) (more : Prepared oracle rest t u) :
      Prepared oracle (a :: rest) s u

section Preparing

variable {reporter : Reporter} {oracle : Oracle} {a : Asset} {rest assets : List Asset}
  {s t u : Session} {cause : Failure}

theorem run_prepareAll_ready (ready : a.prepare.run oracle s = (.ok (), t)) :
    (prepareAll reporter (a :: rest)).run oracle s = (prepareAll reporter rest).run oracle t := by
  rw [prepareAll, run_bind_ok (run_attempt_ok ready)]

theorem run_prepareAll_failed (failed : a.prepare.run oracle s = (.error (.failure cause), t)) :
    (prepareAll reporter (a :: rest)).run oracle s =
      (.error (.failure (.assetInit a.currency cause)),
        (t.reported reporter a.currency.ticker (.assetInit a.currency cause)).counting
          (.initFailure a.currency)) := by
  rw [prepareAll, run_bind_ok (run_attempt_failure failed)]
  exact run_bind_ok (reporter.run_report _ _ _ _) _

theorem Prepared.run (prepared : Prepared oracle assets s t) :
    (prepareAll reporter assets).run oracle s = (.ok (), t) := by
  induction prepared with
  | done s => rfl
  | next a rest s t u first more ih => rw [run_prepareAll_ready first, ih]

theorem Prepared.after (prepared : Prepared oracle assets s t) :
    t = s.after (assets.filterMap Asset.prepareCall?) := by
  induction prepared with
  | done s => simp
  | next a rest s t u first more ih =>
    obtain ⟨-, rfl⟩ := a.prepare_makes.of_run first
    rw [ih, Session.after_after]
    cases asked : a.prepareCall? <;> simp [asked]

theorem run_prepareAll (reporter : Reporter) (oracle : Oracle) (assets : List Asset) (s : Session) :
    (∃ t, Prepared oracle assets s t) ∨
      ∃ before a after t u cause, assets = before ++ a :: after ∧ Prepared oracle before s t ∧
        a.prepare.run oracle t = (.error (.failure cause), u) ∧
        (prepareAll reporter assets).run oracle s =
          (.error (.failure (.assetInit a.currency cause)),
            (u.reported reporter a.currency.ticker (.assetInit a.currency cause)).counting
              (.initFailure a.currency)) := by
  induction assets generalizing s with
  | nil => exact .inl ⟨s, .done s⟩
  | cons a rest ih =>
    obtain ⟨(cause | _) | _, bounded, run⟩ := a.prepare_makes oracle s
    next => exact .inr ⟨[], a, rest, s, _, cause, rfl, .done s, run, run_prepareAll_failed run⟩
    next => exact absurd rfl bounded
    next =>
      obtain ⟨t, all⟩ | ⟨before, b, after, t, u, cause, rfl, earlier, failed, ended⟩ :=
        ih (s.after _)
      next => exact .inl ⟨t, .next a rest s _ t run all⟩
      next =>
        refine .inr ⟨a :: before, b, after, t, u, cause, rfl, .next a before s _ t run earlier,
          failed, ?_⟩
        rw [run_prepareAll_ready run, ended]

end Preparing

theorem prepareCalls_unreported (assets : List Asset) :
    ∀ c ∈ assets.filterMap Asset.prepareCall?, c.party ≠ .reporter := by
  intro c member
  obtain ⟨a, -, asked⟩ := List.mem_filterMap.1 member
  exact Asset.prepareCall?_unreported asked

/-- The assets are prepared in the order in which they were registered, up to the first that fails,
and the calls are theirs, one after the other. If none fails, nothing is reported and nothing is
counted. Otherwise the failure is passed on under the currency of the asset, after one report and
one count of it. -/
theorem prepare_fails_fast (r : Registry) (oracle : Oracle) (s : Session) :
    ((r.prepare.run oracle s).1 = .ok () ↔ ∃ t, Prepared oracle r.assets s t) ∧
    ∃ visited calls t, visited <+: r.assets ∧ calls = visited.filterMap Asset.prepareCall? ∧
      (∀ c ∈ calls, c.party ≠ .reporter) ∧ t = s.after calls ∧
      ((visited = r.assets ∧ Prepared oracle visited s t ∧ r.prepare.run oracle s = (.ok (), t)) ∨
        ∃ before a u cause, visited = before ++ [a] ∧ Prepared oracle before s u ∧
          a.prepare.run oracle u = (.error (.failure cause), t) ∧
          r.prepare.run oracle s =
            (.error (.failure (.assetInit a.currency cause)),
              (t.reported r.reporter a.currency.ticker (.assetInit a.currency cause)).counting
                (.initFailure a.currency))) := by
  have ready (t : Session) (all : Prepared oracle r.assets s t) :
      r.prepare.run oracle s = (.ok (), t) := all.run
  obtain ⟨t, all⟩ | ⟨before, a, after, u, t, cause, split, earlier, failed, ended⟩ :=
    run_prepareAll r.reporter oracle r.assets s
  next =>
    refine ⟨⟨fun _ => ⟨t, all⟩, fun _ => congrArg Prod.fst (ready t all)⟩, r.assets, _, t,
      List.prefix_rfl, rfl, prepareCalls_unreported _, all.after, .inl ⟨rfl, all, ready t all⟩⟩
  next =>
    have never : ¬ ∃ t, Prepared oracle r.assets s t := by
      rintro ⟨v, all⟩
      cases ended.symm.trans (ready v all)
    have calls : t = s.after ((before ++ [a]).filterMap Asset.prepareCall?) := by
      obtain ⟨-, rfl⟩ := a.prepare_makes.of_run failed
      rw [earlier.after, Session.after_after]
      cases asked : a.prepareCall? <;> simp [asked]
    have result : (r.prepare.run oracle s).1 = .error (.failure (.assetInit a.currency cause)) :=
      congrArg Prod.fst ended
    refine ⟨?_, before ++ [a], _, t, ⟨after, by simp [split]⟩, rfl, prepareCalls_unreported _,
      calls, .inr ⟨before, a, u, cause, rfl, earlier, failed, ended⟩⟩
    rw [result]
    simp [never]

end Registry

end MultiWallet
