import Upkeep.Proofs.Category.Meaning

/-!
# Transactions

Work on a database is told by what it gives when it succeeds and when it fails (`Gives`), and work that follows on other
work by what each part gives (`Gives.bind`). From what an engine is documented to do it follows what the catalogue's own
steps give:

* `gives_change`: a statement does what it means, or it is refused.
* `gives_transaction`: work in a transaction counts as a whole. If anything fails in it, the records are what they were.
-/

namespace Upkeep.Category
open Database (Trouble Value)

/-! ## Work by its parts -/

namespace Gives

section

variable {ε ε' σ α β : Type} {s : σ} {x : ExceptT ε (StateM σ) α} {good good' : α → σ → Prop} {bad bad' : ε → σ → Prop}

theorem run_bind (x : ExceptT ε (StateM σ) α) (f : α → ExceptT ε (StateM σ) β) (s : σ) :
    (x >>= f).run s = match x.run s with
      | (.ok a, s') => (f a).run s'
      | (.error e, s') => (.error e, s') := by
  change (match x.run s with | (r, s') => (ExceptT.bindCont f r : StateM σ (Except ε β)) s') = _
  rcases x.run s with ⟨_ | a, s'⟩ <;> rfl

theorem run_tryCatch (x : ExceptT ε (StateM σ) α) (f : ε → ExceptT ε (StateM σ) α) (s : σ) :
    (tryCatch x f).run s = match x.run s with
      | (.ok a, s') => (.ok a, s')
      | (.error e, s') => (f e).run s' := by
  change (match x.run s with
    | (r, s') => (match r with
      | .ok a => pure (.ok a)
      | .error e => f e : StateM σ (Except ε α)) s') = _
  rcases x.run s with ⟨_ | a, s'⟩ <;> rfl

theorem mono (h : Gives x s good bad) (hgood : ∀ a s', good a s' → good' a s')
    (hbad : ∀ f s', bad f s' → bad' f s') : Gives x s good' bad' := by
  cases h with
  | ok a s' hrun ha => exact .ok a s' hrun (hgood a s' ha)
  | error f s' hrun hf => exact .error f s' hrun (hbad f s' hf)

theorem and (h : Gives x s good bad) (h' : Gives x s good' bad') :
    Gives x s (fun a s' => good a s' ∧ good' a s') fun f s' => bad f s' ∧ bad' f s' := by
  cases h with
  | ok a s' hrun ha =>
    cases h' with
    | ok _ _ hrun' ha' =>
      cases hrun.symm.trans hrun'
      exact .ok a s' hrun ⟨ha, ha'⟩
    | error _ _ hrun' => cases hrun.symm.trans hrun'
  | error f s' hrun hf =>
    cases h' with
    | ok _ _ hrun' => cases hrun.symm.trans hrun'
    | error _ _ hrun' hf' =>
      cases hrun.symm.trans hrun'
      exact .error f s' hrun ⟨hf, hf'⟩

theorem state (p : σ → Prop) (h : Gives x s (fun _ => p) fun _ => p) : p (x.run s).2 := by
  obtain ⟨a, s', hrun, hs'⟩ | ⟨f, s', hrun, hs'⟩ := h <;> rwa [hrun]

theorem pure {a : α} (h : good a s) : Gives (pure a : ExceptT ε (StateM σ) α) s good bad := .ok a s rfl h

theorem bind {f : α → ExceptT ε (StateM σ) β} {goodNext : β → σ → Prop} (h : Gives x s good bad)
    (hbad : ∀ e s', bad e s' → bad' e s') (hf : ∀ a s', good a s' → Gives (f a) s' goodNext bad') :
    Gives (x >>= f) s goodNext bad' := by
  cases h with
  | error e s' hrun he => exact .error e s' (by rw [run_bind, hrun]) (hbad e s' he)
  | ok a s' hrun ha =>
    have hbind : (x >>= f).run s = (f a).run s' := by rw [run_bind, hrun]
    cases hf a s' ha with
    | ok b s₁ hrun₁ hb => exact .ok b s₁ (hbind.trans hrun₁) hb
    | error e s₁ hrun₁ he => exact .error e s₁ (hbind.trans hrun₁) he

theorem tryCatch {f : ε → ExceptT ε (StateM σ) α} {badFirst : ε → σ → Prop} (h : Gives x s good badFirst)
    (hf : ∀ e s', badFirst e s' → Gives (f e) s' good bad) : Gives (tryCatch x f) s good bad := by
  cases h with
  | ok a s' hrun ha => exact .ok a s' (by rw [run_tryCatch, hrun]) ha
  | error e s' hrun he =>
    have hcatch : (MonadExcept.tryCatch x f).run s = (f e).run s' := by rw [run_tryCatch, hrun]
    cases hf e s' he with
    | ok a s₁ hrun₁ ha => exact .ok a s₁ (hcatch.trans hrun₁) ha
    | error e₁ s₁ hrun₁ he₁ => exact .error e₁ s₁ (hcatch.trans hrun₁) he₁

end

end Gives

/-- What holds of a database still holds of it behind some work, which may have failed. -/
def Keeps {ε σ α : Type} (p : σ → Prop) (x : ExceptT ε (StateM σ) α) : Prop := ∀ s, p s → p (x.run s).2

namespace Keeps

variable {ε σ α β : Type} {p : σ → Prop} {x : ExceptT ε (StateM σ) α}

theorem gives (h : Keeps p x) {s : σ} (hs : p s) : Gives x s (fun _ => p) fun _ => p := by
  have hrun := h s hs
  cases heq : x.run s with
  | mk result s' =>
    rw [heq] at hrun
    cases result with
    | ok a => exact .ok a s' heq hrun
    | error f => exact .error f s' heq hrun

theorem pure {a : α} : Keeps p (pure a : ExceptT ε (StateM σ) α) := fun _ hs => hs

theorem bind {f : α → ExceptT ε (StateM σ) β} (h : Keeps p x) (hf : ∀ a, Keeps p (f a)) : Keeps p (x >>= f) := by
  intro s hs
  have hrun := h s hs
  rw [Gives.run_bind]
  split
  · next a s' heq =>
    rw [heq] at hrun
    exact hf a s' hrun
  · next heq =>
    rw [heq] at hrun
    exact hrun

end Keeps

/-! ## Steps of an engine -/

variable {σ α : Type} {e : Engine σ} {v : View σ} {s : σ}

def RefusedOn (s : σ) (a : Attempt σ α) (task : Option StatementTask) (f : Failure) : Prop :=
  ∃ t s', a.run s = (.error t, s') ∧ f = .statement task t

theorem gives_within {a : Attempt σ α} {task : Option StatementTask} {good : α → σ → Prop} {bad : σ → Prop}
    (h : Gives a s good fun _ s' => bad s') :
    Gives (a.within task) s good fun f s' => RefusedOn s a task f ∧ bad s' := by
  have hwithin : (a.within task).run s = ((a.run s).1.mapError (Failure.statement task), (a.run s).2) := rfl
  cases h with
  | ok x s' hrun hx => exact .ok x s' (by rw [hwithin, hrun]; rfl) hx
  | error t s' hrun hs' => exact .error _ s' (by rw [hwithin, hrun]; rfl) ⟨⟨t, s', hrun, rfl⟩, hs'⟩

namespace Catalogue

theorem keeps_change (h : e.TakesBack v) (rows : List Record) (task : Option StatementTask) (c : Change)
    (ps : List Value) : Keeps (v.kept · = rows) (change e task c ps) := fun s hs => (h.execute c ps s).trans hs

theorem gives_change (h : e.Documented v) {c : Change} {ps : List Value} (hs : Sends c ps)
    (task : Option StatementTask) (s : σ) : Gives (change e task c ps) s
      (fun n s' => c.Does ps (v.rows s) n (v.rows s') ∧ v.kept s' = v.kept s)
      fun f s' => RefusedOn s (e.execute c.text ps) task f ∧ v.kept s' = v.kept s := by
  have hkept := (keeps_change h.toTakesBack (v.kept s) task c ps).gives rfl
  exact ((gives_within (h.does hs s)).and hkept).mono (fun _ _ hn => hn) fun _ _ hf => ⟨hf.1.1, hf.2⟩

/-- Work in a transaction counts as a whole or not at all. It begins with the records that there are, and what it is
relied on for is that it leaves alone what a rollback brings back. -/
theorem gives_transaction (h : e.TakesBack v) (s : σ) (starting keeping : StatementTask) {work : Work σ α}
    (good : α → List Record → Prop) (bad : Failure → Prop)
    (hwork : ∀ s', v.rows s' = v.rows s → v.kept s' = v.rows s →
      Gives work s' (fun a s₁ => good a (v.rows s₁) ∧ v.kept s₁ = v.rows s) fun f s₁ => bad f ∧ v.kept s₁ = v.rows s) :
    Gives (transaction e starting keeping work) s (fun a s' => good a (v.rows s')) fun f s' => v.rows s' = v.rows s ∧
      (RefusedOn s e.start (some starting) f ∨ bad f ∨ ∃ s₁, RefusedOn s₁ e.commit (some keeping) f) := by
  refine (gives_within (h.start s)).bind (fun f s' hf => ⟨hf.2, .inl hf.1⟩) fun _ s' ⟨hrows, hkept⟩ => ?_
  have hwhole : Gives (do
      let a ← work
      e.commit.within (some keeping)
      return a : Work σ α) s' (fun a s₁ => good a (v.rows s₁)) fun f s₁ => v.kept s₁ = v.rows s ∧
        (bad f ∨ ∃ s₁, RefusedOn s₁ e.commit (some keeping) f) := by
    refine (hwork s' hrows hkept).bind (fun f s₁ hf => ⟨hf.2, .inl hf.1⟩) fun a s₁ ⟨ha, hkept⟩ => ?_
    refine (gives_within (h.commit s₁)).bind (fun f s₂ hf => ⟨hf.2.trans hkept, .inr ⟨s₁, hf.1⟩⟩) fun _ s₂ hrows => ?_
    exact Gives.pure (hrows ▸ ha)
  refine hwhole.tryCatch fun f s₁ hf => ?_
  exact .error f (e.rollback s₁) rfl ⟨(h.rollback s₁).trans hf.1, .inr hf.2⟩

theorem taken_back (h : e.TakesBack v) (s : σ) (starting keeping : StatementTask) {work : Work σ α}
    (hwork : ∀ rows, Keeps (v.kept · = rows) work) :
    Gives (transaction e starting keeping work) s (fun _ _ => True) fun _ s' => v.rows s' = v.rows s := by
  refine (gives_transaction h s starting keeping (fun _ _ => True) (fun _ => True) fun s' _ hkept => ?_).mono
    (fun _ _ _ => trivial) fun _ _ hf => hf.1
  exact ((hwork _).gives hkept).mono (fun _ _ hs => ⟨trivial, hs⟩) fun _ _ hs => ⟨trivial, hs⟩

/-! ## Looking up -/

theorem gives_look (f : σ → Except Failure α) (s : σ) : Gives (look f : Work σ α) s
    (fun a s' => f s = .ok a ∧ s' = s) fun x s' => f s = .error x ∧ s' = s := by
  have hget : (get : Work σ σ).run s = (.ok s, s) := rfl
  cases hf : f s with
  | ok a => exact .ok a s (by simp only [look, Gives.run_bind, hget, hf]; rfl) ⟨rfl, rfl⟩
  | error x => exact .error x s (by simp only [look, Gives.run_bind, hget, hf]; rfl) ⟨rfl, rfl⟩

end Catalogue
end Upkeep.Category
