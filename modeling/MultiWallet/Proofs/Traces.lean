import MultiWallet.Proofs.Dialogue

/-!
What a dialogue asks for, whatever it is answered. A trace relates the result of a run to the calls
that the run has made; a dialogue that asks only for calls of some kind is the common case. Two
dialogues are alike if runs of them cannot be told apart.
-/

set_option autoImplicit false

namespace MultiWallet.Dialogue

variable {α β : Type} {P Q : Call → Prop} {R : Checked α → List Call → Prop}

/-- In every run, the result and the calls made stand in the relation. -/
def Traces (R : Checked α → List Call → Prop) (d : Dialogue α) : Prop :=
  ∀ (oracle : Oracle) (s : Session), ∃ calls,
    (d.run oracle s).2.calls = s.calls ++ calls ∧ R (d.run oracle s).1 calls

theorem Traces.of_run {d : Dialogue α} {oracle : Oracle} {s t : Session} {result : Checked α}
    (traces : d.Traces R) (run : d.run oracle s = (result, t)) :
    ∃ calls, t.calls = s.calls ++ calls ∧ R result calls := by
  have := traces oracle s
  rwa [run] at this

theorem Traces.mono {S : Checked α → List Call → Prop} {d : Dialogue α} (traces : d.Traces R)
    (weaker : ∀ result calls, R result calls → S result calls) : d.Traces S := by
  intro oracle s
  obtain ⟨calls, log, related⟩ := traces oracle s
  exact ⟨calls, log, weaker _ _ related⟩

theorem traces_ofChecked (result : Checked α) :
    (ofChecked result).Traces fun r calls => r = result ∧ calls = [] :=
  fun _ s => ⟨[], (List.append_nil s.calls).symm, rfl, rfl⟩

theorem traces_ask (c : Call) : (ask c).Traces fun _ calls => calls = [c] :=
  fun _ _ => ⟨[c], rfl, rfl⟩

theorem Traces.bind {S : α → Checked β → List Call → Prop} {T : Checked β → List Call → Prop}
    {d : Dialogue α} {f : α → Dialogue β} (first : d.Traces R) (second : ∀ a, (f a).Traces (S a))
    (halted : ∀ halt calls, R (.error halt) calls → T (.error halt) calls)
    (continued : ∀ a result earlier later, R (.ok a) earlier → S a result later →
      T result (earlier ++ later)) : (d >>= f).Traces T := by
  intro oracle s
  obtain ⟨earlier, log, related⟩ := first oracle s
  rw [run_bind]
  rcases run : d.run oracle s with ⟨halt | a, t⟩
  · rw [run] at log related
    exact ⟨earlier, log, halted _ _ related⟩
  · rw [run] at log related
    obtain ⟨later, more, further⟩ := second a oracle t
    refine ⟨earlier ++ later, ?_, continued _ _ _ _ related further⟩
    rw [more, log, List.append_assoc]

theorem Traces.bind_liftM {result : Checked α} {f : α → Dialogue β}
    {T : Checked β → List Call → Prop} (halted : ∀ halt, T (.error halt) [])
    (continued : ∀ a, result = .ok a → (f a).Traces T) :
    ((liftM result : Dialogue α) >>= f).Traces T := by
  cases result with
  | ok a => exact continued a rfl
  | error halt => exact fun _ s => ⟨[], (List.append_nil s.calls).symm, halted halt⟩

def Asks (P : Call → Prop) (d : Dialogue α) : Prop := d.Traces fun _ calls => ∀ c ∈ calls, P c

theorem Asks.mono {d : Dialogue α} (asks : d.Asks P) (weaker : ∀ c, P c → Q c) : d.Asks Q :=
  Traces.mono asks fun _ _ all c member => weaker c (all c member)

theorem asks_ofChecked (result : Checked α) : (ofChecked result).Asks P := by
  refine (traces_ofChecked result).mono ?_
  rintro _ _ ⟨-, rfl⟩ c member
  cases member

theorem asks_pure (a : α) : (pure a : Dialogue α).Asks P := asks_ofChecked (.ok a)

theorem asks_fail (cause : Failure) : (fail cause : Dialogue α).Asks P := asks_ofChecked _

theorem asks_liftM (result : Checked α) : (liftM result : Dialogue α).Asks P :=
  asks_ofChecked result

theorem asks_ofAnswer (answer : Answer α) : (ofAnswer answer).Asks P := by
  cases answer with
  | ok a => exact asks_pure a
  | error cause => exact asks_fail cause

theorem asks_ask {c : Call} (kind : P c) : (ask c).Asks P := by
  refine (traces_ask c).mono ?_
  rintro _ _ rfl other member
  rwa [List.mem_singleton.1 member]

theorem Asks.bind {d : Dialogue α} {f : α → Dialogue β} (first : d.Asks P)
    (second : ∀ a, (f a).Asks P) : (d >>= f).Asks P := by
  refine Traces.bind first second (fun _ _ all => all) ?_
  intro a result earlier later before after c member
  rcases List.mem_append.1 member with member | member
  · exact before c member
  · exact after c member

theorem Asks.map {d : Dialogue α} {f : α → β} (asks : d.Asks P) : (f <$> d).Asks P := by
  rw [← bind_pure_comp]
  exact .bind asks fun a => asks_pure (f a)

theorem Asks.attempt {d : Dialogue α} (asks : d.Asks P) : d.attempt.Asks P := by
  intro oracle s
  obtain ⟨calls, log, all⟩ := asks oracle s
  rw [run_attempt]
  rcases run : d.run oracle s with ⟨(cause | _) | a, t⟩ <;> rw [run] at log <;>
    exact ⟨calls, log, all⟩

theorem asks_count (m : Metric) : (count m).Asks P :=
  fun _ s => ⟨[], (List.append_nil s.calls).symm, by simp⟩

theorem asks_decodeBody (decode : Json → Option α) (r : Http.Reply) :
    (decodeBody decode r).Asks P := by
  unfold decodeBody
  split
  · exact asks_pure _
  · exact asks_fail _

theorem Asks.yielding {d : Dialogue α} {p : α → Prop} (asks : d.Asks P)
    (yields : ∀ oracle s a t, d.run oracle s = (.ok a, t) → p a) :
    d.Traces fun result calls => (∀ c ∈ calls, P c) ∧ ∀ a, result = .ok a → p a := by
  intro oracle s
  obtain ⟨calls, log, all⟩ := asks oracle s
  refine ⟨calls, log, all, ?_⟩
  intro a ok
  exact yields oracle s a _ (Prod.ext ok rfl)

abbrev Silent (d : Dialogue α) : Prop := d.Asks fun _ => False

theorem Traces.bind_silent {l : List Call} {d : Dialogue α} {f : α → Dialogue β}
    (first : d.Traces fun _ calls => calls = l) (rest : ∀ a, (f a).Silent) :
    (d >>= f).Traces fun _ calls => calls = l := by
  refine Traces.bind first rest (fun _ _ same => same) ?_
  rintro a result earlier later rfl none
  rw [List.eq_nil_iff_forall_not_mem.2 none, List.append_nil]

theorem traces_exchange (request : Http.Request) :
    (exchange request).Traces fun _ calls => calls = [.http request] := by
  refine .bind_silent (traces_ask _) ?_
  intro outcome
  cases outcome with
  | reply r => exact asks_pure r
  | unreachable => exact asks_fail _

section Alike

variable {γ δ : Type}

/-- After the same calls, two runs make the same calls, and their results look the same through the
view. -/
def Alike (view : α → γ) (d e : Dialogue α) : Prop :=
  ∀ (oracle : Oracle) (s t : Session), s.calls = t.calls →
    (d.run oracle s).1.map view = (e.run oracle t).1.map view ∧
      (d.run oracle s).2.calls = (e.run oracle t).2.calls

theorem alike_ofChecked {view : α → γ} {r r' : Checked α} (same : r.map view = r'.map view) :
    Alike view (ofChecked r) (ofChecked r') :=
  fun _ _ _ log => ⟨same, log⟩

theorem alike_pure {view : α → γ} {a b : α} (same : view a = view b) :
    Alike view (pure a) (pure b) :=
  alike_ofChecked (congrArg Except.ok same)

theorem alike_ask (c : Call) : Alike id (ask c) (ask c) := by
  intro oracle s t log
  simp [run_ask, log]

theorem Alike.bind {view : α → γ} {seen : β → δ} {d e : Dialogue α} {f g : α → Dialogue β}
    (first : Alike view d e) (rest : ∀ a b, view a = view b → Alike seen (f a) (g b)) :
    Alike seen (d >>= f) (e >>= g) := by
  intro oracle s t log
  obtain ⟨same, calls⟩ := first oracle s t log
  rw [run_bind, run_bind]
  rcases run : d.run oracle s with ⟨halt | a, u⟩ <;>
    rcases other : e.run oracle t with ⟨halt' | b, v⟩ <;> rw [run, other] at same calls
  · cases same
    exact ⟨rfl, calls⟩
  · cases same
  · cases same
  · exact rest a b (Except.ok.inj same) oracle u v calls

theorem Alike.bind_same {seen : β → δ} {d e : Dialogue α} {f g : α → Dialogue β}
    (first : Alike id d e) (rest : ∀ a, Alike seen (f a) (g a)) :
    Alike seen (d >>= f) (e >>= g) := by
  refine first.bind ?_
  rintro a _ rfl
  exact rest a

theorem alike_exchange (request : Http.Request) :
    Alike id (exchange request) (exchange request) := by
  refine (alike_ask _).bind_same ?_
  rintro (r | _)
  · exact alike_pure rfl
  · exact alike_ofChecked rfl

theorem alike_ofAnswer (view : α → γ) (answer : Answer α) :
    Alike view (ofAnswer answer) (ofAnswer answer) := by
  cases answer with
  | ok a => exact alike_pure rfl
  | error cause => exact alike_ofChecked rfl

theorem alike_decodeBody (view : α → γ) {decode decode' : Json → Option α} (r : Http.Reply)
    (same : ∀ j, (decode j).map view = (decode' j).map view) :
    Alike view (decodeBody decode r) (decodeBody decode' r) := by
  unfold decodeBody
  cases Json.ofString r.body with
  | none => exact alike_ofChecked rfl
  | some j =>
    have := same j
    simp only [Option.bind_some]
    cases d : decode j <;> cases e : decode' j <;> rw [d, e] at this <;> simp at this
    · exact alike_ofChecked rfl
    · exact alike_pure this

end Alike

end MultiWallet.Dialogue
