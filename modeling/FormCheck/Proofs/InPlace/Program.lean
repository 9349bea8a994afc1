import FormCheck.Error
import FormCheck.Event

/-!
Programs that change a state in place. A failure takes nothing back: what a program has changed
before it stays changed, unless it worked on a copy, so it is the order of the steps that decides
what a failure leaves behind.
-/
namespace FormCheck

instance : LawfulMonad Logged := .mk' Logged
  (fun m => congrArg (Logged.mk m.value) (List.append_nil m.events))
  (fun _ _ => rfl)
  (fun m f g => congrArg (Logged.mk _)
    (List.append_assoc m.events (f m.value).events (g (f m.value).value).events))

@[simp] theorem Logged.value_map {α β : Type} (f : α → β) (m : Logged α) :
    (f <$> m).value = f m.value := rfl

/-- A program over a state, which logs and may end early with a mistake. -/
abbrev InPlace (σ α : Type) := ExceptT Mistake (StateT σ Logged) α

namespace InPlace

variable {σ τ α β : Type}

/-- What comes of a program, and the state it leaves, whether or not it fails. -/
def exec (p : InPlace σ α) (s : σ) : Logged (Except Mistake α × σ) := p.run.run s

/-- The state that a program comes to at its end; one that fails has none. -/
def settled (p : InPlace σ Unit) (s : σ) : Logged (Except Mistake σ) := do
  let (result, s) ← p.exec s
  pure (result.map fun _ => s)

def attempt (result : Except Mistake α) : InPlace σ α := ExceptT.mk (pure result)

def alter (f : σ → Logged σ) : InPlace σ Unit :=
  ExceptT.mk fun s => do pure (.ok (), ← f s)

def note (e : Event) : InPlace σ Unit := alter fun s => ⟨s, [e]⟩

/-- A program run on a state of its own, which is gone when it fails. -/
def aside (start : Logged τ) (p : InPlace τ Unit) : InPlace σ τ :=
  ExceptT.mk fun s => do pure (← p.settled (← start), s)

def within (part : σ → τ) (put : σ → τ → σ) (p : InPlace τ α) : InPlace σ α :=
  ExceptT.mk fun s => do
    let (result, t) ← p.exec (part s)
    pure (result, put s t)

def forEach (f : α → InPlace σ Unit) : List α → InPlace σ Unit
  | [] => pure ()
  | x :: xs => do
    f x
    forEach f xs

@[simp] theorem exec_pure (a : α) (s : σ) : (pure a : InPlace σ α).exec s = pure (.ok a, s) := rfl

theorem exec_bind (p : InPlace σ α) (f : α → InPlace σ β) (s : σ) :
    (p >>= f).exec s = p.exec s >>= fun
      | (.ok a, s) => (f a).exec s
      | (.error e, s) => pure (.error e, s) := by
  simp only [exec, ExceptT.run_bind, StateT.run_bind]
  refine bind_congr fun ⟨result, s⟩ => ?_
  cases result <;> rfl

theorem value_exec_bind (p : InPlace σ α) (f : α → InPlace σ β) (s : σ) :
    ((p >>= f).exec s).value =
      match (p.exec s).value with
      | (.ok a, s) => ((f a).exec s).value
      | (.error e, s) => (.error e, s) := by
  rw [exec_bind, Logged.value_bind]
  obtain ⟨result, s⟩ := (p.exec s).value
  cases result <;> rfl

theorem value_settled_eq_ok_iff {p : InPlace σ Unit} {s t : σ} :
    (p.settled s).value = .ok t ↔ (p.exec s).value = (.ok (), t) := by
  rw [settled, Logged.value_bind]
  obtain ⟨result, u⟩ := (p.exec s).value
  cases result <;> simp [Except.map]

theorem value_settled_eq_error_iff {p : InPlace σ Unit} {s : σ} {e : Mistake} :
    (p.settled s).value = .error e ↔ (p.exec s).value.1 = .error e := by
  rw [settled, Logged.value_bind]
  obtain ⟨result, u⟩ := (p.exec s).value
  cases result <;> simp [Except.map]

theorem settled_bind (p : InPlace σ α) (f : α → InPlace σ Unit) (s : σ) :
    (p >>= f).settled s = p.exec s >>= fun
      | (.ok a, s) => (f a).settled s
      | (.error e, _) => pure (.error e) := by
  simp only [settled, exec_bind, bind_assoc]
  refine bind_congr fun ⟨result, s⟩ => ?_
  cases result <;> rfl

theorem settled_bind_unit (p : InPlace σ Unit) (f : Unit → InPlace σ Unit) (s : σ) :
    (p >>= f).settled s = p.settled s >>= fun
      | .ok s => (f ()).settled s
      | .error e => pure (.error e) := by
  rw [settled_bind, settled, bind_assoc]
  refine bind_congr fun ⟨result, s⟩ => ?_
  cases result <;> rfl

theorem settled_forEach_cons (f : α → InPlace σ Unit) (x : α) (xs : List α) (s : σ) :
    (forEach f (x :: xs)).settled s = (f x).settled s >>= fun
      | .ok s => (forEach f xs).settled s
      | .error e => pure (.error e) := settled_bind_unit (f x) _ s

theorem exec_forEach_of_error {f : α → InPlace σ Unit} {next : σ → α → σ} {before rest : List α}
    {x : α} {s left : σ} {e : Mistake}
    (hb : ∀ y ∈ before, ∀ s, ((f y).exec s).value = (.ok (), next s y))
    (hx : ((f x).exec (before.foldl next s)).value = (.error e, left)) :
    ((forEach f (before ++ x :: rest)).exec s).value = (.error e, left) := by
  -- Over the items that succeed; the failing one starts from the state that they lead to.
  induction before generalizing s with
  | nil =>
    rw [List.foldl_nil] at hx
    rw [List.nil_append, forEach, value_exec_bind, hx]
  | cons y before ih =>
    obtain ⟨hy, hbefore⟩ := List.forall_mem_cons.1 hb
    rw [List.cons_append, forEach, value_exec_bind, hy]
    exact ih hbefore hx

@[simp] theorem settled_modify (f : σ → σ) (s : σ) :
    (modify f : InPlace σ Unit).settled s = pure (.ok (f s)) := rfl

@[simp] theorem exec_get (s : σ) : (get : InPlace σ σ).exec s = pure (.ok s, s) := rfl

@[simp] theorem exec_modify (f : σ → σ) (s : σ) :
    (modify f : InPlace σ Unit).exec s = pure (.ok (), f s) := rfl

@[simp] theorem exec_attempt (result : Except Mistake α) (s : σ) :
    (attempt result : InPlace σ α).exec s = pure (result, s) := rfl

@[simp] theorem exec_alter (f : σ → Logged σ) (s : σ) :
    (alter f).exec s = f s >>= fun t => pure (.ok (), t) := rfl

@[simp] theorem settled_alter (f : σ → Logged σ) (s : σ) :
    (alter f).settled s = f s >>= fun t => pure (.ok t) := by
  simp only [settled, exec_alter, bind_assoc, pure_bind]
  rfl

@[simp] theorem exec_note (e : Event) (s : σ) :
    (note e : InPlace σ Unit).exec s = Logged.log e >>= fun _ => pure (.ok (), s) := rfl

@[simp] theorem exec_aside (start : Logged τ) (p : InPlace τ Unit) (s : σ) :
    (aside start p : InPlace σ τ).exec s =
      start >>= fun t => p.settled t >>= fun result => pure (result, s) := rfl

@[simp] theorem exec_within (part : σ → τ) (put : σ → τ → σ) (p : InPlace τ α) (s : σ) :
    (within part put p).exec s =
      p.exec (part s) >>= fun (result, t) => pure (result, put s t) := rfl

/-- The program leaves the state as it is. -/
def Reads (p : InPlace σ α) : Prop := ∀ s, (p.exec s).value.2 = s

/-- When the program fails, it leaves the state as it was. -/
def FailsClean (p : InPlace σ α) : Prop :=
  ∀ s e, (p.exec s).value.1 = .error e → (p.exec s).value.2 = s

theorem reads_pure (a : α) : (pure a : InPlace σ α).Reads := fun _ => rfl

theorem reads_get : (get : InPlace σ σ).Reads := fun _ => rfl

theorem reads_throw (e : Mistake) : (throw e : InPlace σ α).Reads := fun _ => rfl

theorem reads_attempt (result : Except Mistake α) : (attempt result : InPlace σ α).Reads :=
  fun _ => rfl

theorem reads_aside (start : Logged τ) (p : InPlace τ Unit) :
    (aside start p : InPlace σ τ).Reads := fun _ => rfl

theorem Reads.failsClean {p : InPlace σ α} (h : p.Reads) : p.FailsClean := fun s _ _ => h s

theorem failsClean_alter (f : σ → Logged σ) : (alter f).FailsClean := fun _ _ h => nomatch h

theorem failsClean_modify (f : σ → σ) : (modify f : InPlace σ Unit).FailsClean :=
  fun _ _ h => nomatch h

theorem Reads.bind_failsClean {p : InPlace σ α} {f : α → InPlace σ β} (hp : p.Reads)
    (hf : ∀ a, (f a).FailsClean) : (p >>= f).FailsClean := by
  intro s e h
  have hs := hp s
  rw [value_exec_bind] at h ⊢
  generalize (p.exec s).value = run at h hs ⊢
  obtain ⟨result, t⟩ := run
  cases hs
  cases result with
  | error e => rfl
  | ok a => exact hf a _ e h

theorem FailsClean.within {part : σ → τ} {put : σ → τ → σ} (hput : ∀ s, put s (part s) = s)
    {p : InPlace τ α} (hp : p.FailsClean) : (InPlace.within part put p).FailsClean := by
  intro s e h
  rw [exec_within, Logged.value_bind] at h ⊢
  have ht := hp (part s) e h
  simp only [Logged.value_pure, ht, hput]

end InPlace

end FormCheck
