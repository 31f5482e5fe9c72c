import MultiWallet.Proofs.Traces

set_option autoImplicit false

namespace MultiWallet

def Session.after (s : Session) (calls : List Call) : Session :=
  { s with calls := s.calls ++ calls }

namespace Session

@[simp] theorem after_calls (s : Session) (calls : List Call) :
    (s.after calls).calls = s.calls ++ calls := rfl

@[simp] theorem after_nil (s : Session) : s.after [] = s := by
  simp [after]

@[simp] theorem after_after (s : Session) (earlier later : List Call) :
    (s.after earlier).after later = s.after (earlier ++ later) := by
  simp [after]

end Session

namespace Http

variable {α : Type} {read : Json → Option α} {a : α} {r : Reply} {outcome : Outcome}

def Outcome.heard : Outcome → Checked Reply
  | .reply r => .ok r
  | .unreachable => fail (.http none)

def Reply.decode (r : Reply) (read : Json → Option α) : Checked α :=
  orFail (.http none) ((Json.ofString r.body).bind read)

theorem heard_eq_ok : outcome.heard = .ok r ↔ outcome = .reply r := by
  cases outcome <;> simp [Outcome.heard, fail]

theorem decode_eq_ok : r.decode read = .ok a ↔ (Json.ofString r.body).bind read = some a := by
  unfold Reply.decode
  cases (Json.ofString r.body).bind read <;> simp [orFail, fail]

end Http

namespace Checked

variable {α β : Type} {r : Checked α} {f : α → Checked β}

def Bounded (r : Checked α) : Prop := r ≠ .error .overflow

@[simp] theorem bounded_ok (a : α) : Bounded (.ok a : Checked α) := by
  simp [Bounded]

@[simp] theorem bounded_fail (cause : Failure) : (fail cause : Checked α).Bounded := by
  simp [Bounded, fail]

theorem bounded_orFail (cause : Failure) (found : Option α) : (orFail cause found).Bounded := by
  cases found
  · exact bounded_fail cause
  · exact bounded_ok _

theorem Bounded.of_error {halt : Halt} (bounded : Bounded (.error halt : Checked α)) :
    Bounded (.error halt : Checked β) := by
  rintro ⟨⟩
  exact bounded rfl

theorem Bounded.bind (first : r.Bounded) (rest : ∀ a, (f a).Bounded) : (r >>= f).Bounded := by
  rcases r with halt | a
  · exact first.of_error
  · exact rest a

theorem bounded_mapM (each : ∀ a, (f a).Bounded) (l : List α) : (l.mapM f).Bounded := by
  induction l with
  | nil => exact bounded_ok _
  | cons a rest ih =>
    rw [List.mapM_cons]
    exact (each a).bind fun b => ih.bind fun more => bounded_ok _

def tried : Checked α → Checked (Answer α)
  | .ok a => .ok (.ok a)
  | .error (.failure cause) => .ok (.error cause)
  | .error .overflow => .error .overflow

theorem Bounded.tried (bounded : r.Bounded) : r.tried.Bounded := by
  rcases r with (cause | _) | a
  · exact bounded_ok _
  · exact absurd rfl bounded
  · exact bounded_ok _

theorem bounded_heard (outcome : Http.Outcome) : outcome.heard.Bounded := by
  cases outcome
  · exact bounded_ok _
  · exact bounded_fail _

theorem bounded_decode (reply : Http.Reply) (read : Json → Option α) :
    (reply.decode read).Bounded := bounded_orFail _ _

end Checked

namespace Dialogue

variable {α β : Type} {P Q : Call → Prop} {oracle : Oracle} {s t : Session}

theorem ofChecked_bind (result : Checked α) (f : α → Checked β) :
    (ofChecked result >>= fun a => ofChecked (f a)) = ofChecked (result >>= f) := by
  cases result <;> rfl

theorem exchange_eq (request : Http.Request) :
    exchange request = (do
      let outcome : Http.Outcome ← ask (.http request)
      ofChecked outcome.heard) := by
  refine congrArg (ask _ >>= ·) (funext fun outcome => ?_)
  cases outcome <;> rfl

theorem decodeBody_eq (read : Json → Option α) (r : Http.Reply) :
    decodeBody read r = ofChecked (r.decode read) := by
  unfold decodeBody Http.Reply.decode
  cases (Json.ofString r.body).bind read <;> rfl

theorem run_map (d : Dialogue α) (f : α → β) (oracle : Oracle) (s : Session) :
    (f <$> d).run oracle s = ((d.run oracle s).1.map f, (d.run oracle s).2) := by
  rw [← bind_pure_comp, run_bind]
  rcases d.run oracle s with ⟨halt | a, t⟩ <;> rfl

theorem run_attempt_eq (d : Dialogue α) (oracle : Oracle) (s : Session) :
    d.attempt.run oracle s = ((d.run oracle s).1.tried, (d.run oracle s).2) := by
  rw [run_attempt]
  rcases d.run oracle s with ⟨(cause | _) | a, t⟩ <;> rfl

inductive Plain (P : Call → Prop) : {α : Type} → Dialogue α → Prop where
  | calculation {α : Type} (result : Checked α) : Plain P (ofChecked result)
  | call (c : Call) (kind : P c) : Plain P (ask c)
  | bind {α β : Type} {d : Dialogue α} {f : α → Dialogue β} (first : Plain P d)
      (rest : ∀ a, Plain P (f a)) : Plain P (d >>= f)
  | attempt {α : Type} {d : Dialogue α} (first : Plain P d) : Plain P d.attempt

namespace Plain

theorem pure (a : α) : Plain P (Pure.pure a : Dialogue α) := .calculation (.ok a)

theorem fail (cause : Failure) : Plain P (Dialogue.fail cause : Dialogue α) := .calculation _

theorem ofAnswer (answer : Answer α) : Plain P (Dialogue.ofAnswer answer) := by
  cases answer
  · exact .fail _
  · exact .pure _

theorem map {d : Dialogue α} {f : α → β} (plain : d.Plain P) : (f <$> d).Plain P := by
  rw [← bind_pure_comp]
  exact .bind plain fun a => .pure (f a)

theorem mono {d : Dialogue α} (plain : d.Plain P) (weaker : ∀ c, P c → Q c) : d.Plain Q := by
  induction plain with
  | calculation result => exact .calculation result
  | call c kind => exact .call c (weaker c kind)
  | bind first rest ihFirst ihRest => exact .bind ihFirst ihRest
  | attempt first ih => exact .attempt ih

theorem leaves {d : Dialogue α} (plain : d.Plain P) (oracle : Oracle) (s : Session) :
    ∃ calls, (d.run oracle s).2 = s.after calls ∧ ∀ c ∈ calls, P c := by
  induction plain generalizing s with
  | calculation result => exact ⟨[], s.after_nil.symm, by simp⟩
  | call c kind => exact ⟨[c], rfl, by simpa using kind⟩
  | @bind α β d f first rest ihFirst ihRest =>
    obtain ⟨earlier, log, kinds⟩ := ihFirst s
    rw [run_bind]
    rcases run : d.run oracle s with ⟨halt | a, t⟩ <;> rw [run] at log <;> subst log
    · exact ⟨earlier, rfl, kinds⟩
    · obtain ⟨later, log, more⟩ := ihRest a (s.after earlier)
      refine ⟨earlier ++ later, by rw [log, Session.after_after], ?_⟩
      intro c member
      rcases List.mem_append.1 member with member | member
      · exact kinds c member
      · exact more c member
  | @attempt α d first ih =>
    rw [run_attempt_eq]
    exact ih s

theorem leaves_run {d : Dialogue α} {result : Checked α} (plain : d.Plain P)
    (run : d.run oracle s = (result, t)) : ∃ calls, t = s.after calls ∧ ∀ c ∈ calls, P c := by
  have := plain.leaves oracle s
  rwa [run] at this

theorem asks {d : Dialogue α} (plain : d.Plain P) : d.Asks P := by
  intro oracle s
  obtain ⟨calls, log, kinds⟩ := plain.leaves oracle s
  exact ⟨calls, by rw [log, Session.after_calls], kinds⟩

end Plain

def Bounded (d : Dialogue α) : Prop := ∀ oracle s, (d.run oracle s).1.Bounded

theorem bounded_ofChecked {result : Checked α} (bounded : result.Bounded) :
    (ofChecked result).Bounded := fun _ _ => bounded

theorem Bounded.bind {d : Dialogue α} {f : α → Dialogue β} (first : d.Bounded)
    (rest : ∀ a, (f a).Bounded) : (d >>= f).Bounded := by
  intro oracle s
  have bounded := first oracle s
  rw [run_bind]
  rcases run : d.run oracle s with ⟨halt | a, t⟩ <;> rw [run] at bounded
  · exact bounded.of_error
  · exact rest a oracle t

structure Inquires (c : Call) (read : c.Reply → Checked α) (d : Dialogue α) : Prop where
  form : d = (do
    let reply ← ask c
    ofChecked (read reply))
  bounded : ∀ reply, (read reply).Bounded

namespace Inquires

variable {c : Call} {read : c.Reply → Checked α} {d : Dialogue α}

theorem run (inquires : d.Inquires c read) (oracle : Oracle) (s : Session) :
    d.run oracle s = (read (oracle s.calls c), s.after [c]) := by
  rw [inquires.form]
  rfl

theorem plain (inquires : d.Inquires c read) (kind : P c) : d.Plain P := by
  rw [inquires.form]
  exact .bind (.call c kind) fun reply => .calculation _

theorem traces (inquires : d.Inquires c read) : d.Traces fun _ calls => calls = [c] :=
  fun oracle s => ⟨[c], by rw [inquires.run, Session.after_calls], rfl⟩

theorem stays (inquires : d.Inquires c read) : d.Bounded := by
  intro oracle s
  rw [inquires.run]
  exact inquires.bounded _

theorem calculate {f : α → Checked β} (inquires : d.Inquires c read)
    (bounded : ∀ a, (f a).Bounded) :
    (d >>= fun a => ofChecked (f a)).Inquires c fun reply => read reply >>= f where
  form := by
    rw [inquires.form, bind_assoc]
    exact congrArg (ask c >>= ·) (funext fun reply => ofChecked_bind _ _)
  bounded reply := (inquires.bounded reply).bind bounded

theorem attempt (inquires : d.Inquires c read) :
    d.attempt.Inquires c fun reply => (read reply).tried where
  form := by
    rw [inquires.form]
    funext oracle s
    change _ = ((read (oracle s.calls c)).tried, s.after [c])
    exact run_attempt_eq (ask c >>= fun reply => ofChecked (read reply)) oracle s
  bounded reply := (inquires.bounded reply).tried

end Inquires

theorem inquires_exchange (request : Http.Request) :
    (exchange request).Inquires (.http request) Http.Outcome.heard :=
  ⟨exchange_eq request, Checked.bounded_heard⟩

def Makes (calls : List Call) (d : Dialogue α) : Prop :=
  ∀ oracle s, ∃ result, result.Bounded ∧ d.run oracle s = (result, s.after calls)

theorem Inquires.makes {c : Call} {read : c.Reply → Checked α} {d : Dialogue α}
    (inquires : d.Inquires c read) : d.Makes [c] :=
  fun oracle s => ⟨_, inquires.bounded _, inquires.run oracle s⟩

theorem makes_ofChecked {result : Checked α} (bounded : result.Bounded) :
    (ofChecked result).Makes [] :=
  fun _ s => ⟨result, bounded, by simp⟩

theorem makes_pure (a : α) : (pure a : Dialogue α).Makes [] :=
  makes_ofChecked (Checked.bounded_ok a)

theorem makes_fail (cause : Failure) : (fail cause : Dialogue α).Makes [] :=
  makes_ofChecked (Checked.bounded_fail cause)

namespace Makes

variable {calls : List Call} {d : Dialogue α}

theorem bind {f : α → Dialogue β} (first : d.Makes calls) (rest : ∀ a, (f a).Makes []) :
    (d >>= f).Makes calls := by
  intro oracle s
  obtain ⟨halt | a, bounded, run⟩ := first oracle s
  · exact ⟨_, bounded.of_error, run_bind_error run f⟩
  · obtain ⟨result, bounded, later⟩ := rest a oracle (s.after calls)
    exact ⟨result, bounded, by rw [run_bind_ok run f, later, Session.after_nil]⟩

theorem map {f : α → β} (first : d.Makes calls) : (f <$> d).Makes calls := by
  rw [← bind_pure_comp]
  exact first.bind fun a => makes_pure (f a)

theorem of_run {result : Checked α} (makes : d.Makes calls)
    (run : d.run oracle s = (result, t)) : result.Bounded ∧ t = s.after calls := by
  obtain ⟨_, bounded, made⟩ := makes oracle s
  cases run.symm.trans made
  exact ⟨bounded, rfl⟩

end Makes

end Dialogue

end MultiWallet
