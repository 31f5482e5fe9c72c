import MultiWallet.Proofs.Inquiry

set_option autoImplicit false

namespace MultiWallet

def Oracle.Repeats (later oracle : Oracle) (u s calls : List Call) : Prop :=
  ∀ before c, before ++ [c] <+: calls → later (u ++ before) c = oracle (s ++ before) c

namespace Oracle.Repeats

variable {later oracle : Oracle} {u s earlier more : List Call} {c : Call}

theorem first (repeats : later.Repeats oracle u s [c]) : later u c = oracle s c := by
  simpa using repeats [] c (List.prefix_refl _)

theorem left (repeats : later.Repeats oracle u s (earlier ++ more)) :
    later.Repeats oracle u s earlier :=
  fun before c begins => repeats before c (begins.trans (List.prefix_append _ _))

theorem right (repeats : later.Repeats oracle u s (earlier ++ more)) :
    later.Repeats oracle (u ++ earlier) (s ++ earlier) more := by
  intro before c begins
  have answers := repeats (earlier ++ before) c (by simpa using begins)
  rwa [← List.append_assoc, ← List.append_assoc] at answers

end Oracle.Repeats

namespace Dialogue

variable {α β γ δ : Type} {f : α → β} {g : γ → δ}

/-- Where its calls are answered as those of the first dialogue were, the second one makes the same
calls and comes to the same, seen through the view. -/
def Replays (view : α → β) (d : Dialogue α) (e : Dialogue β) : Prop :=
  ∀ (oracle : Oracle) (s : Session), ∃ calls, (d.run oracle s).2.calls = s.calls ++ calls ∧
    ∀ (later : Oracle) (u : Session), later.Repeats oracle u.calls s.calls calls →
      (e.run later u).1 = (d.run oracle s).1.map view ∧
        (e.run later u).2.calls = u.calls ++ calls

abbrev Determined (d : Dialogue α) : Prop := Replays id d d

theorem Replays.of_run {d : Dialogue α} {e : Dialogue β} {oracle later : Oracle} {s t u : Session}
    {result : Checked α} {calls : List Call} (replays : Replays f d e)
    (run : d.run oracle s = (result, t)) (log : t.calls = s.calls ++ calls)
    (repeats : later.Repeats oracle u.calls s.calls calls) :
    ∃ v, e.run later u = (result.map f, v) ∧ v.calls = u.calls ++ calls := by
  obtain ⟨made, same, again⟩ := replays oracle s
  rw [run] at same again
  obtain rfl := List.append_cancel_left (log.symm.trans same)
  obtain ⟨result, calls⟩ := again later u repeats
  exact ⟨_, Prod.ext result rfl, calls⟩

theorem replays_ofChecked (view : α → β) (result : Checked α) :
    Replays view (ofChecked result) (ofChecked (result.map view)) :=
  fun _ _ => ⟨[], (List.append_nil _).symm, fun _ _ _ => ⟨rfl, (List.append_nil _).symm⟩⟩

theorem replays_pure (view : α → β) (a : α) :
    Replays view (pure a) (pure (view a)) := replays_ofChecked view (.ok a)

theorem determined_ofChecked (result : Checked α) : (ofChecked result).Determined := by
  cases result <;> exact replays_ofChecked id _

theorem determined_ask (c : Call) : (ask c).Determined := by
  intro oracle s
  refine ⟨[c], rfl, fun later u repeats => ⟨?_, rfl⟩⟩
  rw [run_ask, run_ask, repeats.first]
  rfl

theorem determined_count (m : Metric) : (count m).Determined :=
  fun _ _ => ⟨[], (List.append_nil _).symm, fun _ _ _ => ⟨rfl, (List.append_nil _).symm⟩⟩

theorem Replays.bind {d : Dialogue α} {e : Dialogue β} {k : α → Dialogue γ} {l : β → Dialogue δ}
    (first : Replays f d e) (rest : ∀ a, Replays g (k a) (l (f a))) :
    Replays g (d >>= k) (e >>= l) := by
  intro oracle s
  obtain ⟨earlier, log, again⟩ := first oracle s
  rcases run : d.run oracle s with ⟨halt | a, t⟩ <;> rw [run] at log again
  · refine ⟨earlier, by rw [run_bind_error run]; exact log, fun later u repeats => ?_⟩
    obtain ⟨result, calls⟩ := again later u repeats
    rw [run_bind_error run, run_bind_error (Prod.ext result rfl)]
    exact ⟨rfl, calls⟩
  · obtain ⟨more, further, same⟩ := rest a oracle t
    refine ⟨earlier ++ more, by rw [run_bind_ok run, further, log, List.append_assoc], ?_⟩
    intro later u repeats
    obtain ⟨result, calls⟩ := again later u repeats.left
    have continued := same later (e.run later u).2 (by rw [calls, log]; exact repeats.right)
    rw [run_bind_ok run, run_bind_ok (Prod.ext result rfl)]
    exact ⟨continued.1, by rw [continued.2, calls, List.append_assoc]⟩

theorem Replays.map {d : Dialogue α} {e : Dialogue β} {k : α → γ} {l : β → δ}
    (first : Replays f d e) (same : ∀ a, l (f a) = g (k a)) :
    Replays g (k <$> d) (l <$> e) := by
  rw [← bind_pure_comp, ← bind_pure_comp]
  refine first.bind fun a => ?_
  rw [same]
  exact replays_pure g (k a)

theorem Determined.bind {d : Dialogue α} {k : α → Dialogue γ} {l : α → Dialogue δ}
    (first : d.Determined) (rest : ∀ a, Replays g (k a) (l a)) : Replays g (d >>= k) (d >>= l) :=
  Replays.bind first rest

theorem Determined.attempt {d : Dialogue α} (determined : d.Determined) : d.attempt.Determined := by
  intro oracle s
  obtain ⟨calls, log, again⟩ := determined oracle s
  refine ⟨calls, by rw [run_attempt_eq, log], fun later u repeats => ?_⟩
  obtain ⟨result, same⟩ := again later u repeats
  rw [run_attempt_eq, run_attempt_eq, result, same]
  refine ⟨?_, rfl⟩
  rcases (d.run oracle s).1 with (cause | _) | a <;> rfl

theorem Plain.determined {P : Call → Prop} {d : Dialogue α} (plain : d.Plain P) :
    d.Determined := by
  induction plain with
  | calculation result => exact determined_ofChecked result
  | call c kind => exact determined_ask c
  | bind first rest ihFirst ihRest => exact ihFirst.bind ihRest
  | attempt first ih => exact ih.attempt

end Dialogue

end MultiWallet
