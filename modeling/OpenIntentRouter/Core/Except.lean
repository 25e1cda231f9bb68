/-!
# Computations that may raise

Inversion rules for `Except`: what a successful `do` block went through.
-/
namespace Core.Except

variable {ε α β : Type}

instance decEq [DecidableEq ε] [DecidableEq α] : DecidableEq (Except ε α)
  | .ok a, .ok b => decidable_of_iff (a = b) (by simp)
  | .error a, .error b => decidable_of_iff (a = b) (by simp)
  | .ok _, .error _ => isFalse (by simp)
  | .error _, .ok _ => isFalse (by simp)

variable {f g : α → Except ε β} {x : Except ε α} {b : β} {e : ε} {δ : Type} {l : List α}

theorem bind_eq_ok : (x >>= f) = .ok b ↔ ∃ a, x = .ok a ∧ f a = .ok b := by
  cases x with
  | error e => simp [bind, Except.bind]
  | ok a => simp [bind, Except.bind]

theorem bind_eq_error : (x >>= f) = .error e ↔ x = .error e ∨ ∃ a, x = .ok a ∧ f a = .error e := by
  cases x with
  | error e' => simp [bind, Except.bind]
  | ok a => simp [bind, Except.bind]

theorem map_eq_ok {f : α → β} : (f <$> x) = .ok b ↔ ∃ a, x = .ok a ∧ f a = b := by
  cases x with
  | error e => simp [Functor.map, Except.map]
  | ok a => simp [Functor.map, Except.map]

@[simp] theorem mapError_ok (f : ε → δ) (a : α) : (Except.ok a).mapError f = .ok a := rfl

@[simp] theorem mapError_error (f : ε → δ) (e : ε) :
    (Except.error e : Except ε α).mapError f = .error (f e) := rfl

theorem mapError_eq_ok {f : ε → δ} {a : α} : x.mapError f = .ok a ↔ x = .ok a := by
  cases x with
  | error e => simp
  | ok b => simp

@[simp] theorem ok_bind (a : α) (f : α → Except ε β) : (Except.ok a >>= f) = f a := rfl

@[simp] theorem error_bind (e : ε) (f : α → Except ε β) :
    ((Except.error e : Except ε α) >>= f) = .error e := rfl

/-- `raise e` unless the condition holds. -/
def ensure (c : Bool) (e : ε) : Except ε Unit := if c then .ok () else .error e

theorem ensure_eq_ok {c : Bool} {u : Unit} : ensure c e = .ok u ↔ c = true := by
  unfold ensure
  cases c <;> simp

theorem ensure_eq_error {c : Bool} {e' : ε} : ensure c e = .error e' ↔ c = false ∧ e = e' := by
  unfold ensure
  cases c <;> simp

theorem mem_mapM {out : List β} (h : l.mapM f = .ok out) (hb : b ∈ out) : ∃ a ∈ l, f a = .ok b := by
  induction l generalizing out with
  | nil =>
    cases h
    cases hb
  | cons a l ih =>
    rw [List.mapM_cons] at h
    obtain ⟨first, hfirst, h⟩ := bind_eq_ok.1 h
    obtain ⟨rest, hrest, h⟩ := bind_eq_ok.1 h
    cases h
    rcases List.mem_cons.1 hb with rfl | hb
    · exact ⟨a, List.mem_cons_self, hfirst⟩
    · obtain ⟨c, hc, hfc⟩ := ih hrest hb
      exact ⟨c, List.mem_cons_of_mem _ hc, hfc⟩

theorem mapM_congr (h : ∀ a ∈ l, f a = g a) : l.mapM f = l.mapM g := by
  induction l with
  | nil => rfl
  | cons a l ih =>
    rw [List.mapM_cons, List.mapM_cons, h a List.mem_cons_self,
      ih fun b hb => h b (List.mem_cons_of_mem _ hb)]

/-- A loop whose results are those of another one, changed. -/
theorem mapM_map {γ : Type} {g : α → Except ε γ} {change : β → γ}
    (h : ∀ a ∈ l, g a = (f a).map change) : l.mapM g = (l.mapM f).map (List.map change) := by
  induction l with
  | nil => rfl
  | cons a l ih =>
    rw [List.mapM_cons, List.mapM_cons, h a List.mem_cons_self,
      ih fun b hb => h b (List.mem_cons_of_mem _ hb)]
    cases f a with
    | error e => rfl
    | ok b => cases l.mapM f <;> rfl

theorem mapM_ok_iff : (∃ out, l.mapM f = .ok out) ↔ ∀ a ∈ l, ∃ b, f a = .ok b := by
  induction l with
  | nil => exact iff_of_true ⟨[], rfl⟩ fun _ h => by cases h
  | cons a l ih =>
    rw [List.forall_mem_cons, ← ih, List.mapM_cons]
    constructor
    · rintro ⟨out, h⟩
      obtain ⟨b, hb, h⟩ := bind_eq_ok.1 h
      obtain ⟨rest, hrest, -⟩ := bind_eq_ok.1 h
      exact ⟨⟨b, hb⟩, rest, hrest⟩
    · rintro ⟨⟨b, hb⟩, rest, hrest⟩
      exact ⟨b :: rest, by rw [hb, ok_bind, hrest]; rfl⟩

/-- Loops whose steps raise alike raise alike. -/
theorem mapM_raises_congr {γ : Type} {g : α → Except ε γ}
    (h : ∀ a ∈ l, (f a).map (fun _ => ()) = (g a).map fun _ => ()) :
    (l.mapM f).map (fun _ => ()) = (l.mapM g).map fun _ => () := by
  induction l with
  | nil => rfl
  | cons a l ih =>
    have hhead := h a List.mem_cons_self
    have htail := ih fun b hb => h b (List.mem_cons_of_mem _ hb)
    rw [List.mapM_cons, List.mapM_cons]
    cases hf : f a <;> cases hg : g a <;> rw [hf, hg] at hhead <;> cases hhead
    · rfl
    · rw [ok_bind, ok_bind]
      cases hf : l.mapM f <;> cases hg : l.mapM g <;> rw [hf, hg] at htail <;> cases htail <;> rfl

theorem map_eq_of_raises {y : Except ε β} (f : α → δ) (g : β → δ)
    (h : x.map (fun _ => ()) = y.map fun _ => ()) (hx : ¬∃ a, x = .ok a) : x.map f = y.map g := by
  cases x with
  | ok a => exact absurd ⟨a, rfl⟩ hx
  | error e =>
    cases y with
    | ok b => cases h
    | error e' =>
      cases h
      rfl

end Core.Except
