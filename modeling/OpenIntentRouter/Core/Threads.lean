import Mathlib.Logic.Function.Basic
import OpenIntentRouter.Core.LTS

/-!
# Threads of a shared state

A `Thread` is a program that does one atomic operation after another on a state
it shares. It is a monad, so a program is written line by line as its source is;
`Program` adds exceptions, which do not take the state back. The note of an
operation says what it is about; only conditions on runs look at it.

* `Thread.run`: the thread alone;
* `Team.next`: any number of threads that start, take their operations one at a
  time and may be aborted, between calls of others;
* `Safe`: a rely-guarantee rule with a condition `C` on
  the operations. `G` says what an operation may do, `I` is an invariant, and a
  program is checked by itself against any number of steps of `G` in between.
-/
namespace Core

inductive Thread (N S α : Type) where
  | ret (a : α)
  | op (note : N) (next : S → S) (k : S → Thread N S α)

abbrev Program (N S ε α : Type) := ExceptT ε (Thread N S) α

namespace Thread

variable {N S ε α β : Type}

def bind : Thread N S α → (α → Thread N S β) → Thread N S β
  | ret a, f => f a
  | op note next k, f => op note next fun s => (k s).bind f

instance : Monad (Thread N S) where
  pure := ret
  bind := bind

def run : Thread N S α → S → α × S
  | ret a, s => (a, s)
  | op _ next k, s => run (k s) (next s)

theorem run_bind (x : Thread N S α) (f : α → Thread N S β) (s : S) :
    (x.bind f).run s = (f (x.run s).1).run (x.run s).2 := by
  induction x generalizing s with
  | ret a => rfl
  | op note next k ih => exact ih s (next s)

def note? : Thread N S α → Option N
  | ret _ => none
  | op note _ _ => some note

def live : Thread N S α → Option (Thread N S α)
  | ret _ => none
  | thread => some thread

end Thread

namespace Program

variable {N S ε α β : Type}

def op (note : N) (f : S → α × S) : Program N S ε α :=
  ExceptT.mk (.op note (fun s => (f s).2) fun s => .ret (.ok (f s).1))

def look (note : N) (f : S → α) : Program N S ε α := op note fun s => (f s, s)

def attempt (note : N) (f : S → Except ε (α × S)) : Program N S ε (Except ε α) :=
  op note fun s =>
    match f s with
    | .ok (a, s') => (.ok a, s')
    | .error e => (.error e, s)

def perform (note : N) (f : S → Except ε (α × S)) : Program N S ε α := do
  match ← attempt note f with
  | .ok a => return a
  | .error e => throw e

def run (x : Program N S ε α) (s : S) : Except ε α × S := Thread.run (ExceptT.run x) s

@[simp] theorem run_op (note : N) (f : S → α × S) (s : S) :
    (op note f : Program N S ε α).run s = (.ok (f s).1, (f s).2) := rfl

theorem run_bind (x : Program N S ε α) (f : α → Program N S ε β) (s : S) :
    (x >>= f).run s = match x.run s with
      | (.ok a, s') => (f a).run s'
      | (.error e, s') => (.error e, s') := by
  show Thread.run (Thread.bind (ExceptT.run x) (ExceptT.bindCont f)) s = _
  rw [Thread.run_bind]
  unfold run
  rcases Thread.run (ExceptT.run x) s with ⟨_ | _, _⟩ <;> rfl

end Program

/-! ## Rely-guarantee -/

section RelyGuarantee

variable {N S ε α β : Type} (R : S → S → Prop) (G : N → S → S → Prop) (I : S → Prop)
  (C : N → S → Prop)

def Later : S → S → Prop := Relation.ReflTransGen fun s s' => I s ∧ R s s'

/-- From the state `s`, whatever `R` allows the others to do in between, the
thread does only what `G` allows as long as its operations meet `C`, and replies
as `Q` says. -/
def Thread.Safe (Q : α → S → Prop) : Thread N S α → S → Prop
  | .ret a, s => ∀ s', Later R I s s' → I s' → Q a s'
  | .op note next k, s => ∀ s', Later R I s s' → I s' → C note s' →
      G note s' (next s') ∧ I (next s') ∧ Safe Q (k s') (next s')

def Program.Safe (Q : α → S → Prop) (x : Program N S ε α) (s : S) : Prop :=
  Thread.Safe R G I C (fun r s => ∀ a, r = .ok a → Q a s) (ExceptT.run x) s

variable {R G I C}

theorem Later.refl (s : S) : Later R I s s := Relation.ReflTransGen.refl

variable {s : S} {Q : α → S → Prop} {x : Program N S ε α} {note : N} {f : α → Program N S ε β}

namespace Thread

theorem Safe.bind {Q : β → S → Prop} {f : α → Thread N S β} {x : Thread N S α}
    (hx : Safe R G I C (fun a s => Safe R G I C Q (f a) s) x s) : Safe R G I C Q (x.bind f) s := by
  induction x generalizing s with
  | ret a =>
    show Safe R G I C Q (f a) s
    cases hf : f a with
    | ret b =>
      intro s' h hi
      have hlast : Safe R G I C Q (f a) s' := hx s' h hi
      rw [hf] at hlast
      exact hlast s' (.refl s') hi
    | op note next k =>
      intro s' h hi hc
      have hlast : Safe R G I C Q (f a) s' := hx s' h hi
      rw [hf] at hlast
      exact hlast s' (.refl s') hi hc
  | op note next k ih =>
    intro s' h hi hc
    obtain ⟨hg, hi', hk⟩ := hx s' h hi hc
    exact ⟨hg, hi', ih s' hk⟩

theorem Safe.mono {Q' : α → S → Prop} (hQ : ∀ a s, I s → Q a s → Q' a s) {x : Thread N S α}
    (hx : Safe R G I C Q x s) : Safe R G I C Q' x s := by
  induction x generalizing s with
  | ret a => exact fun s' h hi => hQ a s' hi (hx s' h hi)
  | op note next k ih =>
    intro s' h hi hc
    obtain ⟨hg, hi', hk⟩ := hx s' h hi hc
    exact ⟨hg, hi', ih s' hk⟩

theorem Safe.run {T : S → S → Prop} (hrefl : ∀ s, T s s) (htrans : ∀ {a b c}, T a b → T b c → T a c)
    (hG : ∀ note s s', G note s s' → T s s') (hC : ∀ note s, C note s) {x : Thread N S α} (hi : I s)
    (hx : Safe R G I C Q x s) : Q (x.run s).1 (x.run s).2 ∧ I (x.run s).2 ∧ T s (x.run s).2 := by
  induction x generalizing s with
  | ret a => exact ⟨hx s (.refl s) hi, hi, hrefl s⟩
  | op note next k ih =>
    obtain ⟨hg, hi', hk⟩ := hx s (.refl s) hi (hC note s)
    obtain ⟨hq, hlast, hlater⟩ := ih s hi' hk
    exact ⟨hq, hlast, htrans (hG _ _ _ hg) hlater⟩

end Thread

namespace Program

variable {Q : α → S → Prop} {s : S}

theorem safe_pure {a : α} (h : ∀ s', Later R I s s' → I s' → Q a s') :
    Safe R G I C Q (pure a : Program N S ε α) s :=
  fun s' hs hi _ hb => Except.ok.inj hb ▸ h s' hs hi

theorem safe_throw (e : ε) : Safe R G I C Q (throw e : Program N S ε α) s :=
  fun _ _ _ _ hb => nomatch hb

theorem safe_bind {T : β → S → Prop} (hx : Safe R G I C (fun a s => Safe R G I C T (f a) s) x s) :
    Safe R G I C T (x >>= f) s := by
  refine Thread.Safe.bind (f := ExceptT.bindCont f) (Thread.Safe.mono (fun r s' _ hr => ?_) hx)
  cases r with
  | ok a => exact hr a rfl
  | error e => exact safe_throw e

theorem safe_op {f : S → α × S}
    (h : ∀ s', Later R I s s' → I s' → C note s' → G note s' (f s').2 ∧ I (f s').2 ∧
      ∀ s'', Later R I (f s').2 s'' → I s'' → Q (f s').1 s'') :
    Safe R G I C Q (op note f : Program N S ε α) s := by
  intro s' hs hi hc
  obtain ⟨hg, hi', hq⟩ := h s' hs hi hc
  exact ⟨hg, hi', fun s'' hs' hi'' _ ha => Except.ok.inj ha ▸ hq s'' hs' hi''⟩

end Program

/-- From every state the program does only what `G` allows. -/
def Program.Does (T : S → S → Prop) (x : Program N S ε α) : Prop :=
  ∀ s, x.Safe (fun _ _ => False) (fun _ => T) (fun _ => True) (fun _ _ => True) (fun _ _ => True) s

namespace Program

variable {T : S → S → Prop}

theorem does_pure (a : α) : Does T (pure a : Program N S ε α) :=
  fun _ => safe_pure fun _ _ _ => trivial

theorem does_throw (e : ε) : Does T (throw e : Program N S ε α) := fun _ => safe_throw e

theorem does_bind (hx : Does T x) (hf : ∀ a, Does T (f a)) : Does T (x >>= f) :=
  fun s => safe_bind (Thread.Safe.mono (fun _ s' _ _ a _ => hf a s') (hx s))

theorem does_op {f : S → α × S} (h : ∀ s, T s (f s).2) : Does T (op note f : Program N S ε α) :=
  fun _ => safe_op fun s' _ _ _ => ⟨h s', trivial, fun _ _ _ => trivial⟩

theorem does_attempt {f : S → Except ε (α × S)} (hrefl : ∀ s, T s s)
    (h : ∀ s a s', f s = .ok (a, s') → T s s') :
    Does T (attempt note f : Program N S ε (Except ε α)) :=
  does_op fun s => by
    cases hf : f s with
    | ok r => exact h s r.1 r.2 hf
    | error e => exact hrefl s

theorem does_perform {f : S → Except ε (α × S)} (hrefl : ∀ s, T s s)
    (h : ∀ s a s', f s = .ok (a, s') → T s s') : Does T (perform note f : Program N S ε α) := by
  refine does_bind (does_attempt hrefl h) fun r => ?_
  cases r with
  | ok a => exact does_pure a
  | error e => exact does_throw e

/-- A program that does only what `T` allows, alone. -/
theorem Does.run (hx : Does T x) (hrefl : ∀ s, T s s) (htrans : ∀ {a b c}, T a b → T b c → T a c)
    (s : S) : T s (x.run s).2 :=
  (Thread.Safe.run hrefl htrans (fun _ _ _ h => h) (fun _ _ => trivial) trivial (hx s)).2.2

/-- What follows `x` does only what `T` allows to the state that `x` leaves. -/
theorem Does.after (hf : ∀ a, Does T (f a)) (hrefl : ∀ s, T s s)
    (htrans : ∀ {a b c}, T a b → T b c → T a c) (s : S) : T (x.run s).2 ((x >>= f).run s).2 := by
  rw [run_bind]
  rcases x.run s with ⟨e | a, s'⟩
  · exact hrefl s'
  · exact (hf a).run hrefl htrans s'

end Program
end RelyGuarantee

/-! ## A run amid what others do -/

section Amid

variable {N S ε α β : Type} (others : Nat → S → S)

/-- A run from the operation `n` on; before each operation others change the state. -/
def Thread.runAmid : Thread N S α → Nat → S → α × Nat × S
  | .ret a, n, s => (a, n, s)
  | .op _ next k, n, s => runAmid (k (others n s)) (n + 1) (next (others n s))

def Program.runAmid (x : Program N S ε α) (n : Nat) (s : S) : Except ε α × Nat × S :=
  Thread.runAmid others (ExceptT.run x) n s

theorem Thread.runAmid_bind (x : Thread N S α) (f : α → Thread N S β) (n : Nat) (s : S) :
    (x.bind f).runAmid others n s =
      let (a, m, s') := x.runAmid others n s
      (f a).runAmid others m s' := by
  induction x generalizing n s with
  | ret a => rfl
  | op note next k ih => exact ih (others n s) (n + 1) (next (others n s))

/-- Some run amid what others do comes from `s` to its end in `s'`, with the result `a`. -/
def Program.Ends (x : Program N S ε α) (s : S) (a : α) (s' : S) : Prop :=
  ∃ n m, x.runAmid others n s = (.ok a, m, s')

variable {s s' : S} {a : α}

namespace Program

variable {others}

theorem ends_pure {b : α} (h : Ends others (pure a : Program N S ε α) s b s') : b = a ∧ s' = s := by
  obtain ⟨n, m, h⟩ := h
  cases h
  exact ⟨rfl, rfl⟩

theorem not_ends_throw {e : ε} : ¬Ends others (throw e : Program N S ε α) s a s' := by
  rintro ⟨n, m, h⟩
  cases h

theorem ends_bind {x : Program N S ε α} {f : α → Program N S ε β} {s'' : S} {b : β}
    (h : Ends others (x >>= f) s b s'') :
    ∃ a s', Ends others x s a s' ∧ Ends others (f a) s' b s'' := by
  obtain ⟨n, m, h⟩ := h
  change Thread.runAmid others (Thread.bind (ExceptT.run x) (ExceptT.bindCont f)) n s = _ at h
  rw [Thread.runAmid_bind] at h
  rcases hx : Thread.runAmid others (ExceptT.run x) n s with ⟨e | a, k, s'⟩
  · rw [hx] at h
    cases h
  · rw [hx] at h
    exact ⟨a, s', ⟨n, k, hx⟩, ⟨k, m, h⟩⟩

theorem ends_op {note : N} {f : S → α × S} (h : Ends others (op note f : Program N S ε α) s a s') :
    ∃ n, a = (f (others n s)).1 ∧ s' = (f (others n s)).2 := by
  obtain ⟨n, m, h⟩ := h
  cases h
  exact ⟨n, rfl, rfl⟩

theorem ends_perform {note : N} {f : S → Except ε (α × S)}
    (h : Ends others (perform note f : Program N S ε α) s a s') :
    ∃ n, f (others n s) = .ok (a, s') := by
  obtain ⟨r, s1, hr, h⟩ := ends_bind h
  obtain ⟨n, rfl, rfl⟩ := ends_op hr
  refine ⟨n, ?_⟩
  cases hf : f (others n s) with
  | error e =>
    rw [hf] at h
    exact absurd h not_ends_throw
  | ok b =>
    rw [hf] at h
    obtain ⟨rfl, rfl⟩ := ends_pure h
    rfl

end Program
end Amid

/-! ## What holds of every operation -/

section Every

variable {N S ε α β : Type} {Φ : N → (S → S) → (S → Option N) → Prop}

/-- `Φ` holds of every operation: of its note, its effect and the note of the operation after
it. -/
def Thread.Every (Φ : N → (S → S) → (S → Option N) → Prop) : Thread N S α → Prop
  | .ret _ => True
  | .op note next k => Φ note next (fun s => (k s).note?) ∧ ∀ s, Every Φ (k s)

/-- What holds of an operation at the end of a program holds of it when more follows. -/
def Extends (Φ : N → (S → S) → (S → Option N) → Prop) : Prop :=
  ∀ note next f g, (∀ s n, f s = some n → g s = some n) → Φ note next f → Φ note next g

theorem Thread.Every.bind (hΦ : Extends Φ) {x : Thread N S α} {f : α → Thread N S β}
    (hx : x.Every Φ) (hf : ∀ a, (f a).Every Φ) : (x.bind f).Every Φ := by
  induction x with
  | ret a => exact hf a
  | op note next k ih =>
    refine ⟨hΦ _ _ _ _ (fun s n hn => ?_) hx.1, fun s => ih s (hx.2 s)⟩
    show ((k s).bind f).note? = some n
    cases hk : k s with
    | ret a =>
      rw [hk] at hn
      cases hn
    | op note' next' k' =>
      rw [hk] at hn
      exact hn

variable {note : N} {x : Program N S ε α} {f : S → Except ε (α × S)}

namespace Program

def note? (x : Program N S ε α) : Option N := Thread.note? (ExceptT.run x)

def Every (Φ : N → (S → S) → (S → Option N) → Prop) (x : Program N S ε α) : Prop :=
  Thread.Every Φ (ExceptT.run x)

theorem every_pure (a : α) : Every Φ (pure a : Program N S ε α) := trivial

theorem every_throw (e : ε) : Every Φ (throw e : Program N S ε α) := trivial

theorem every_bind (hΦ : Extends Φ) {f : α → Program N S ε β} (hx : x.Every Φ)
    (hf : ∀ a, (f a).Every Φ) : (x >>= f).Every Φ := by
  refine Thread.Every.bind hΦ hx fun r => ?_
  cases r with
  | ok a => exact hf a
  | error e => exact every_throw e

theorem every_map (hΦ : Extends Φ) (f : α → β) (hx : x.Every Φ) :
    (f <$> x : Program N S ε β).Every Φ := by
  refine Thread.Every.bind hΦ hx fun r => ?_
  cases r <;> exact trivial

theorem every_op {f : S → α × S} (h : Φ note (fun s => (f s).2) fun _ => none) :
    Every Φ (op note f : Program N S ε α) :=
  ⟨h, fun _ => trivial⟩

def effect (f : S → Except ε (α × S)) (s : S) : S :=
  match f s with
  | .ok (_, s') => s'
  | .error _ => s

def after (f : S → Except ε (α × S)) (g : α → Program N S ε β) (s : S) : Option N :=
  match f s with
  | .ok (a, _) => (g a).note?
  | .error _ => none

theorem every_perform_bind {g : α → Program N S ε β} (h : Φ note (effect f) (after f g))
    (hg : ∀ a, (g a).Every Φ) : (perform note f >>= g).Every Φ := by
  refine ⟨(congrArg₂ (Φ note) (funext fun s => ?_) (funext fun s => ?_)).mpr h, fun s => ?_⟩
  · unfold effect
    dsimp only
    cases f s <;> rfl
  · unfold after
    dsimp only
    cases f s <;> rfl
  · dsimp only
    cases f s with
    | ok r => exact hg r.1
    | error e => exact every_throw e

theorem every_perform (h : Φ note (effect f) fun _ => none) :
    (perform note f : Program N S ε α).Every Φ := by
  refine ⟨(congrArg₂ (Φ note) (funext fun s => ?_) (funext fun s => ?_)).mpr h, fun s => ?_⟩
  · unfold effect
    dsimp only
    cases f s <;> rfl
  · dsimp only
    cases f s <;> rfl
  · dsimp only
    cases f s <;> exact trivial

end Program
end Every

/-! ## Teams -/

/-- Threads and the state they share; `none`: the thread has not started or is done. -/
structure Team (ι N S α : Type) where
  shared : S
  proc : ι → Option (Thread N S α)

namespace Team

/-- `call`: what others do to the state. -/
inductive Label (ι A E : Type) where
  | start (i : ι) (a : A)
  | op (i : ι)
  | abort (i : ι)
  | call (e : E)
  deriving DecidableEq

variable {ι N S α A E : Type} [DecidableEq ι]

def goto (t : Team ι N S α) (i : ι) (thread : Thread N S α) : Team ι N S α :=
  { t with proc := Function.update t.proc i thread.live }

def next (progs : A → Thread N S α) (call : E → S → S) (t : Team ι N S α) :
    Label ι A E → Option (Team ι N S α)
  | .start i a => if (t.proc i).isNone then some (t.goto i (progs a)) else none
  | .op i =>
    match t.proc i with
    | some (.op _ f k) => some ({ t with shared := f t.shared }.goto i (k t.shared))
    | _ => none
  | .abort i => if (t.proc i).isSome then some { t with proc := Function.update t.proc i none } else none
  | .call e => some { t with shared := call e t.shared }

def start (s : S) : Team ι N S α := ⟨s, fun _ => none⟩

/-- Threads that run the programs `progs` from a state in `init`. -/
def system (init : S → Prop) (progs : A → Thread N S α) (call : E → S → S) :
    LTS (Team ι N S α) (Label ι A E) :=
  .ofFn (fun t => ∃ s, init s ∧ t = start s) (next progs call)

variable {t : Team ι N S α}

theorem mem_goto {i j : ι} {thread other : Thread N S α} (h : other ∈ (t.goto i thread).proc j) :
    j = i ∧ other = thread ∧ (∃ note, thread.note? = some note) ∨ j ≠ i ∧ other ∈ t.proc j := by
  by_cases hj : j = i
  · subst hj
    simp only [Team.goto, Function.update_self] at h
    cases thread with
    | ret a => cases h
    | op note next k =>
      cases h
      exact .inl ⟨rfl, rfl, note, rfl⟩
  · simp only [Team.goto, Function.update_of_ne hj] at h
    exact .inr ⟨hj, h⟩

/-- What holds of every operation of the programs holds of those that are left. -/
theorem every_next {Φ : N → (S → S) → (S → Option N) → Prop} {progs : A → Thread N S α}
    {call : E → S → S} (hprogs : ∀ a, (progs a).Every Φ) {t' : Team ι N S α} {l : Label ι A E}
    (h : ∀ i, ∀ thread ∈ t.proc i, thread.Every Φ) (hn : next progs call t l = some t') :
    ∀ i, ∀ thread ∈ t'.proc i, thread.Every Φ := by
  intro j other hother
  cases l with
  | start i a =>
    simp only [Team.next] at hn
    split at hn
    · cases hn
      obtain ⟨-, rfl, -⟩ | ⟨-, hmem⟩ := mem_goto hother
      · exact hprogs a
      · exact h j other hmem
    · cases hn
  | op i =>
    simp only [Team.next] at hn
    split at hn
    · next note f k hproc =>
      cases hn
      obtain ⟨-, rfl, -⟩ | ⟨-, hmem⟩ := mem_goto hother
      · exact (h i _ hproc).2 t.shared
      · exact h j other hmem
    · cases hn
  | abort i =>
    simp only [Team.next] at hn
    split at hn
    · cases hn
      by_cases hj : j = i
      · subst hj
        simp only [Function.update_self] at hother
        cases hother
      · simp only [Function.update_of_ne hj] at hother
        exact h j other hother
    · cases hn
  | call e =>
    cases hn
    exact h j other hother

end Team
end Core
