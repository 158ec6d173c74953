import SqlGateway.Reading

/-!
# What is left to fetch

Walking rows and results ends because the driver's supply of them runs out. An act is frugal if it
leaves the supply no greater than it was; acts made of frugal acts are frugal.
-/

namespace SqlGateway

variable {σ ε α β : Type} {d : Driver σ}

/-- The rows and results that may still be moved on to. -/
abbrev Session.supply (d : Driver σ) (s : Session σ) : Nat :=
  d.supply s.database

/-- The act adds nothing to the supply. -/
def Frugal (d : Driver σ) (act : Plain σ α) : Prop :=
  ∀ s, (act s).2.supply d ≤ s.supply d

namespace Frugal

theorem pure (a : α) : Frugal d (Pure.pure a) :=
  fun _ => Nat.le_refl _

theorem bind {act : Plain σ α} {f : α → Plain σ β} (h : Frugal d act)
    (hf : ∀ a, Frugal d (f a)) : Frugal d (act >>= f) :=
  fun s => Nat.le_trans (hf _ _) (h s)

theorem pureAct (a : α) : Frugal d (ExceptT.run (Pure.pure a : Act σ ε α)) :=
  fun _ => Nat.le_refl _

theorem throwAct (e : ε) : Frugal d (ExceptT.run (throw e : Act σ ε α)) :=
  fun _ => Nat.le_refl _

theorem bindAct {act : Act σ ε α} {f : α → Act σ ε β} (h : Frugal d act.run)
    (hf : ∀ a, Frugal d (f a).run) : Frugal d (act >>= f).run := by
  change Frugal d (act.run >>= ExceptT.bindCont f)
  refine bind h fun r => ?_
  cases r with
  | ok a => exact hf a
  | error e => exact throwAct e

theorem lift {act : Plain σ α} (h : Frugal d act) :
    Frugal d (ExceptT.run (liftM act : Act σ ε α)) :=
  fun s => h s

theorem of_modify {f : Session σ → Session σ} (h : ∀ s, (f s).database = s.database) :
    Frugal d (modify f : Plain σ Unit) :=
  fun s => Nat.le_of_eq (congrArg d.supply (h s))

theorem of_get : Frugal d (get : Plain σ (Session σ)) :=
  fun _ => Nat.le_refl _

theorem perform {c : Call} (h : c.executes = false) : Frugal d (d.perform c).run :=
  fun s => d.supply_call c s.database h

theorem openCursor (i : StatementId) : Frugal d (d.openCursor i).run := by
  refine bindAct (lift of_get) fun s => bindAct (perform rfl) fun b => ?_
  cases b with
  | true => exact bindAct (lift (of_modify fun _ => rfl)) fun _ => pureAct _
  | false => exact pureAct _

theorem debug (text : String) : Frugal d (Session.debug text) :=
  of_modify fun _ => rfl

theorem orWarn {act : Act σ Failure Unit} (h : Frugal d act.run) (what : String) :
    Frugal d (orWarn act what) := by
  refine bind h fun r => ?_
  cases r with
  | ok => exact pure _
  | error f => exact of_modify fun _ => rfl

theorem reading {ρ : Type} {A : ρ → Type} {answer : (r : ρ) → Act σ Failure (A r)}
    (h : ∀ r, Frugal d (answer r).run) (p : Reading ρ A α) : Frugal d (p.run answer) := by
  induction p with
  | done a => exact pure a
  | ask r next ih => exact fun s => Nat.le_trans (ih _ _) (h r s)

end Frugal

/-! ## What takes from the supply -/

namespace Driver

theorem supply_next_lt {c : CursorId} {s s' : Session σ}
    (h : (d.perform (.next c)).run s = (.ok true, s')) : s'.supply d < s.supply d := by
  have h1 := congrArg Prod.fst h
  have h2 := congrArg Prod.snd h
  subst h2
  exact d.supply_next c s.database h1

theorem supply_moreResults_lt {i : StatementId} {s s' : Session σ}
    (h : (d.perform (.moreResults i)).run s = (.ok true, s')) : s'.supply d < s.supply d := by
  have h1 := congrArg Prod.fst h
  have h2 := congrArg Prod.snd h
  subst h2
  exact d.supply_moreResults i s.database h1

end Driver

theorem Frugal.le_of_eq {act : Plain σ α} (h : Frugal d act) {s s' : Session σ} {a : α}
    (hs : act s = (a, s')) : s'.supply d ≤ s.supply d := by
  have := h s
  rwa [hs] at this

end SqlGateway
