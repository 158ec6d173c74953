import SqlGateway.Proofs.Custody.Client

/-!
# Traces

A driver that is watched keeps a list of all that passed between it and its caller: every probe and
every call, each with its answer. It answers as it would unwatched.
-/

namespace SqlGateway

/-- A probe or a call, with the answer that was given. -/
inductive Exchange where
  | probe (p : Probe) (answer : Bool)
  | call (c : Call) (answer : Except Failure c.Answer)

structure Traced (σ : Type) where
  database : σ
  trace : List Exchange := []

variable {σ α : Type}

/-- The same driver, watched. -/
def Driver.traced (d : Driver σ) : Driver (Traced σ) where
  probe p t :=
    let (answer, database) := d.probe p t.database
    (answer, ⟨database, t.trace ++ [.probe p answer]⟩)
  call c t :=
    let (answer, database) := d.call c t.database
    (answer, ⟨database, t.trace ++ [.call c answer]⟩)
  supply t := d.supply t.database
  supply_call c t := d.supply_call c t.database
  supply_next c t := d.supply_next c t.database
  supply_moreResults i t := d.supply_moreResults i t.database
  supply_probe p t := d.supply_probe p t.database

/-- What has passed in a session whose driver is watched. -/
def Session.trace (s : Session (Traced σ)) : List Exchange :=
  s.database.trace

/-- The session after one more exchange, which left the database as it is given. -/
def Session.extend (s : Session (Traced σ)) (e : Exchange) (database : σ) : Session (Traced σ) :=
  { s with database := ⟨database, s.trace ++ [e]⟩ }

namespace Driver

variable (d : Driver σ)

/-- A probe of a watched driver is on its trace with the answer. -/
theorem traced_ask {P : Session (Traced σ) → Prop} {Q : Bool → Session (Traced σ) → Prop}
    {p : Probe} (h : ∀ s answer database, d.probe p s.database.database = (answer, database) →
      P s → Q answer (s.extend (.probe p answer) database)) :
    Triple P (d.traced.ask p) Q :=
  d.traced.ask_triple fun s answer t hprobe hs => by
    cases hprobe
    exact h s _ _ rfl hs

/-- So is a call, whether it fails or not. -/
theorem traced_perform {P E : Session (Traced σ) → Prop} {c : Call}
    {Q : c.Answer → Session (Traced σ) → Prop}
    (hok : ∀ s answer database, d.call c s.database.database = (.ok answer, database) →
      P s → Q answer (s.extend (.call c (.ok answer)) database))
    (herror : ∀ s f database, d.call c s.database.database = (.error f, database) →
      P s → E (s.extend (.call c (.error f)) database)) :
    Secures P (d.traced.perform c) Q E := by
  refine d.traced.perform_secures (fun s answer t hcall hs => ?_) fun s f t hcall hs => ?_
  all_goals
    have hanswer := congrArg Prod.fst hcall
    have htraced := congrArg Prod.snd hcall
    dsimp only [traced] at hanswer htraced
    subst htraced
    rw [hanswer]
  · exact hok s answer _ (Prod.ext hanswer rfl) hs
  · exact herror s f _ (Prod.ext hanswer rfl) hs

end Driver

/-! ## What has passed since -/

/-- Since the trace was `t`, what has passed has `p`. -/
def Since (t : List Exchange) (p : List Exchange → Prop) (s : Session (Traced σ)) : Prop :=
  ∃ u, s.trace = t ++ u ∧ p u

namespace Since

variable {d : Driver σ} {t : List Exchange} {p p' e : List Exchange → Prop}

theorem refl (s : Session (Traced σ)) : Since s.trace (· = []) s :=
  ⟨[], (List.append_nil _).symm, rfl⟩

theorem mono {s : Session (Traced σ)} (hp : ∀ u, p u → p' u) (h : Since t p s) : Since t p' s := by
  obtain ⟨u, hu, h⟩ := h
  exact ⟨u, hu, hp u h⟩

theorem log (s : Session (Traced σ)) (l : List LogEntry) (h : Since t p s) :
    Since t p { s with log := l } :=
  h

theorem extend {s : Session (Traced σ)} {x : Exchange} {database : σ}
    (h : Since t (fun u => p (u ++ [x])) s) : Since t p (s.extend x database) := by
  obtain ⟨u, hu, h⟩ := h
  refine ⟨u ++ [x], ?_, h⟩
  change s.trace ++ [x] = t ++ (u ++ [x])
  rw [hu, List.append_assoc]

theorem ask {q : Probe} {r : Bool → List Exchange → Prop}
    (h : ∀ u answer, p u → r answer (u ++ [.probe q answer])) :
    Triple (Since t p) (d.traced.ask q) fun answer => Since t (r answer) :=
  d.traced_ask fun _ _ _ _ hs => (hs.mono fun u hu => h u _ hu).extend

theorem perform {c : Call} {q : c.Answer → List Exchange → Prop}
    (hok : ∀ u a, p u → q a (u ++ [.call c (.ok a)]))
    (herror : ∀ u f, p u → e (u ++ [.call c (.error f)])) :
    Secures (Since t p) (d.traced.perform c) (fun a => Since t (q a)) (Since t e) :=
  d.traced_perform (fun _ _ _ _ hs => (hs.mono fun u hu => hok u _ hu).extend)
    fun _ _ _ _ hs => (hs.mono fun u hu => herror u _ hu).extend

end Since

/-! ## Clients -/

/-- A client that has done nothing yet, on a database that is watched. -/
def Client.watched (database : σ) (gateway : Gateway) : Client (Traced σ) α where
  session := { database := { database } }
  gateway

theorem Client.watched_keeping {I : List Holding → Session (Traced σ) → Prop} {database : σ}
    (gateway : Gateway) (h : I [] { database := { database } }) :
    Keeping I id [] (watched database gateway : Client (Traced σ) α) where
  guards := rfl
  keys := List.nodup_nil
  sound _ he := absurd he List.not_mem_nil
  open_ := h

end SqlGateway
