import Mathlib.Data.Set.Lattice
import Mathlib.Order.CompletePartialOrder
import OpenIntentRouter.Core.LTS

/-!
# Database programs, alone and interleaved

A `Prog` is the database side of a client: plain reads, reads that take a row
lock, commits, and a final reply. Writes are collected and become visible at
the commit, all at once; a commit whose write fails (a violated unique key)
rolls the transaction back and goes on elsewhere.

* `Prog.run`: the program alone on the database;
* `Pool.next`: any number of workers, one statement of one worker at a time.
  A read sees what is committed at that moment (READ COMMITTED); `lock k`
  waits until no other worker owns `k`; the locks of a worker are released at
  its commit, its rollback and its reply. `abort` ends a worker at any
  statement (deadlock victim, lost connection);
* `serial`: programs run one after another, each committing;
* `Pool.reachable_once`: a pool of programs that commit once;
* `Safe` and `Pool.sound`: a rely-guarantee rule. `G i h d d'` says what a
  commit of worker `i` holding the locks `h` may do, and each program is
  checked by itself against what the others may do to the rows it has not
  locked.
-/
set_option linter.unusedSectionVars false

namespace Core

/-- `note` says at which statement a worker stands and what it has read so
far; only conditions on runs look at it. -/
inductive Prog (D K N α : Type) where
  | ret (a : α)
  | select (note : N) (f : D → Prog D K N α)
  | lock (note : N) (k : K) (f : D → Prog D K N α)
  | commit (w : D → Option D) (done conflict : Prog D K N α)

namespace Prog

variable {D K N α : Type}

/-- The program alone: every statement sees the same database until the commit. -/
def run : Prog D K N α → D → α × D
  | ret a, d => (a, d)
  | select _ f, d => run (f d) d
  | lock _ _ f, d => run (f d) d
  | commit w done conflict, d =>
    match w d with
    | some d' => run done d'
    | none => run conflict d

@[simp] theorem run_ret (a : α) (d : D) : (ret a : Prog D K N α).run d = (a, d) := rfl
@[simp] theorem run_select (n : N) (f : D → Prog D K N α) (d : D) :
    (select n f).run d = (f d).run d := rfl
@[simp] theorem run_lock (n : N) (k : K) (f : D → Prog D K N α) (d : D) :
    (lock n k f).run d = (f d).run d := rfl
theorem run_commit (w : D → Option D) (done conflict : Prog D K N α) (d : D) :
    (commit w done conflict).run d =
      match w d with
      | some d' => done.run d'
      | none => conflict.run d := rfl

def isRet : Prog D K N α → Bool
  | ret _ => true
  | _ => false

def note? : Prog D K N α → Option N
  | select n _ | lock n _ _ => some n
  | ret _ | commit _ _ _ => none

def commits : Prog D K N α → D → Bool
  | ret _, _ => false
  | select _ f, d => (f d).commits d
  | lock _ _ f, d => (f d).commits d
  | commit w _ conflict, d => (w d).isSome || conflict.commits d

def Silent : Prog D K N α → Prop
  | ret _ => True
  | select _ f => ∀ d, (f d).Silent
  | lock _ _ f => ∀ d, (f d).Silent
  | commit _ _ _ => False

def Once : Prog D K N α → Prop
  | ret _ => True
  | select _ f => ∀ d, (f d).Once
  | lock _ _ f => ∀ d, (f d).Once
  | commit _ done conflict => done.Silent ∧ conflict.Once

theorem Silent.once {q : Prog D K N α} (h : q.Silent) : q.Once := by
  induction q with
  | ret a => trivial
  | select n f ih => exact fun d => ih d (h d)
  | lock n k f ih => exact fun d => ih d (h d)
  | commit w done conflict => exact h.elim

end Prog

section Serial

variable {ι D K N α : Type} (progs : ι → Prog D K N α) (d : D)

/-- The database after the programs of the workers in the list, the last one
first, each alone; `none` if one of them commits nothing. -/
def serial : List ι → Option D
  | [] => some d
  | i :: is => (serial is).bind fun d1 =>
    if (progs i).commits d1 then some ((progs i).run d1).2 else none

end Serial

/-- Workers over one database. `owner`: the lock table; ghost: `commits`, the
workers in the order of their commits, last first. -/
structure Pool (ι D K N α : Type) where
  db : D
  proc : ι → Prog D K N α
  owner : K → Option ι
  commits : List ι

inductive Pool.Label (ι : Type) where
  | stmt (i : ι)
  | abort (i : ι)
  deriving DecidableEq

namespace Pool

variable {ι D K N α : Type} [DecidableEq ι] [DecidableEq K]

def free (owner : K → Option ι) (i : ι) : K → Option ι :=
  fun k => if owner k = some i then none else owner k

/-- Worker `i` goes on with `q`; a reply ends its transaction. -/
def goto (p : Pool ι D K N α) (i : ι) (q : Prog D K N α) : Pool ι D K N α :=
  { p with
    proc := Function.update p.proc i q
    owner := if q.isRet then free p.owner i else p.owner }

/-- One statement of worker `i`, or the end of worker `i` by `aborted`. -/
def next (aborted : α) (p : Pool ι D K N α) : Label ι → Option (Pool ι D K N α)
  | .stmt i =>
    match p.proc i with
    | .ret _ => none
    | .select _ f => some (p.goto i (f p.db))
    | .lock _ k f =>
      if p.owner k = none ∨ p.owner k = some i then
        some ({ p with owner := Function.update p.owner k (some i) }.goto i (f p.db))
      else none
    | .commit w done conflict =>
      match w p.db with
      | some d =>
        some ({ p with db := d, owner := free p.owner i, commits := i :: p.commits }.goto i done)
      | none => some ({ p with owner := free p.owner i }.goto i conflict)
  | .abort i => if (p.proc i).isRet then none else some (p.goto i (.ret aborted))

def start (db : D) (progs : ι → Prog D K N α) : Pool ι D K N α := ⟨db, progs, fun _ => none, []⟩

/-- The workers running `progs` from the database `db`. -/
def system (aborted : α) (db : D) (progs : ι → Prog D K N α) : LTS (Pool ι D K N α) (Label ι) :=
  .ofFn (· = start db progs) (next aborted)

/-- The locks worker `i` holds. -/
def held (p : Pool ι D K N α) (i : ι) : Set K := {k | p.owner k = some i}

/-- The statement a label runs meets the condition `C` of its note. -/
def Meets (C : N → D → Prop) (p : Pool ι D K N α) : Label ι → Prop
  | .abort _ => True
  | .stmt i => ∀ n ∈ (p.proc i).note?, C n p.db

instance (C : N → D → Prop) [∀ n d, Decidable (C n d)] (p : Pool ι D K N α) :
    (l : Label ι) → Decidable (Meets C p l)
  | .abort _ => .isTrue trivial
  | .stmt i => inferInstanceAs (Decidable (∀ n ∈ (p.proc i).note?, C n p.db))

/-! ## One worker alone -/

theorem goto_proc_self (p : Pool ι D K N α) (i : ι) (q : Prog D K N α) :
    (p.goto i q).proc i = q := by
  simp [goto]

theorem goto_proc_ne (p : Pool ι D K N α) {i j : ι} (q : Prog D K N α) (h : j ≠ i) :
    (p.goto i q).proc j = p.proc j := by
  simp [goto, Function.update_of_ne h]

/-! ## Programs that commit once -/

/-- No worker commits twice: those that have committed are silent from then on. -/
structure AllOnce (p : Pool ι D K N α) : Prop where
  once : ∀ i, (p.proc i).Once
  silent : ∀ i ∈ p.commits, (p.proc i).Silent
  nodup : p.commits.Nodup

variable {p : Pool ι D K N α}

theorem AllOnce.goto {i : ι} {q : Prog D K N α} (h : p.AllOnce) (hq : q.Once)
    (hs : i ∈ p.commits → q.Silent) : (p.goto i q).AllOnce := by
  refine ⟨fun j => ?_, fun j hj => ?_, h.nodup⟩ <;> by_cases hji : j = i
  · subst hji
    rw [goto_proc_self]
    exact hq
  · rw [goto_proc_ne p q hji]
    exact h.once j
  · subst hji
    rw [goto_proc_self]
    exact hs hj
  · rw [goto_proc_ne p q hji]
    exact h.silent j hj

theorem AllOnce.next {aborted : α} {p p' : Pool ι D K N α} {l : Label ι} (h : p.AllOnce)
    (hn : next aborted p l = some p') : p'.AllOnce := by
  cases l with
  | abort i =>
    simp only [Pool.next] at hn
    split at hn
    · cases hn
    · cases hn
      exact h.goto trivial fun _ => trivial
  | stmt i =>
    have hi := h.once i
    have hs := h.silent i
    simp only [Pool.next] at hn
    cases hp : p.proc i with
    | ret a => simp [hp] at hn
    | select n f =>
      simp only [hp, Option.some.injEq] at hn hi hs
      subst hn
      exact h.goto (hi _) fun hc => hs hc _
    | lock n k f =>
      simp only [hp] at hn hi hs
      split at hn
      · cases hn
        exact AllOnce.goto ⟨h.once, h.silent, h.nodup⟩ (hi _) fun hc => hs hc _
      · cases hn
    | commit w done conflict =>
      simp only [hp] at hn hi hs
      have hfirst : i ∉ p.commits := fun hc => hs hc
      cases hw : w p.db with
      | none =>
        simp only [hw, Option.some.injEq] at hn
        subst hn
        exact AllOnce.goto ⟨h.once, h.silent, h.nodup⟩ hi.2 fun hc => absurd hc hfirst
      | some d =>
        simp only [hw, Option.some.injEq] at hn
        subst hn
        refine ⟨fun j => ?_, fun j hj => ?_, List.nodup_cons.2 ⟨hfirst, h.nodup⟩⟩ <;>
          by_cases hji : j = i
        · subst hji
          rw [goto_proc_self]
          exact hi.1.once
        · rw [goto_proc_ne _ _ hji]
          exact h.once j
        · subst hji
          rw [goto_proc_self]
          exact hi.1
        · rw [goto_proc_ne _ _ hji]
          exact h.silent j ((List.mem_cons.1 hj).resolve_left hji)

theorem reachable_once {aborted : α} {db : D} {progs : ι → Prog D K N α} (h : ∀ i, (progs i).Once)
    (hp : (system aborted db progs).Reachable p) : p.AllOnce := by
  induction hp with
  | init h0 =>
    cases h0
    exact ⟨h, fun _ hi => absurd hi List.not_mem_nil, List.nodup_nil⟩
  | step _ hst ih => exact ih.next hst

end Pool

/-! ## Rely-guarantee -/

variable {com : Bool}

section RelyGuarantee

variable {ι D K N α : Type} [DecidableEq ι] [DecidableEq K]
variable (G : ι → Set K → D → D → Prop) (C : N → D → Prop)

/-- A commit of another worker, holding none of the locks `h`. -/
def Rely (i : ι) (h : Set K) (d d' : D) : Prop :=
  ∃ j, j ≠ i ∧ ∃ h', Disjoint h h' ∧ G j h' d d'

def Relies (i : ι) (h : Set K) : D → D → Prop := Relation.ReflTransGen (Rely G i h)

/-- From the database `d`, whatever the others commit in between, worker `i` at
this program holding `h` commits only what `G` allows and replies as `Q` says,
provided its statements meet `C`. `com`: it has committed before. -/
def Safe (i : ι) (Q : Bool → α → D → Prop) : Bool → Set K → Prog D K N α → D → Prop
  | com, _, .ret a, d => ∀ d', Relies G i ∅ d d' → Q com a d'
  | com, h, .select n f, d => ∀ d', Relies G i h d d' → C n d' → Safe i Q com h (f d') d'
  | com, h, .lock n k f, d =>
    ∀ d', Relies G i h d d' → C n d' → Safe i Q com (insert k h) (f d') d'
  | com, h, .commit w done conflict, d => ∀ d', Relies G i h d d' →
    match w d' with
    | some d'' => G i h d' d'' ∧ Safe i Q true ∅ done d''
    | none => Safe i Q com ∅ conflict d'

variable {G C}

variable {i j : ι} {h : Set K} {d d' db : D} {q : Prog D K N α} {Q : Bool → α → D → Prop}
  {p : Pool ι D K N α} {aborted : α} {progs : ι → Prog D K N α}

theorem Relies.mono {h' : Set K} (hs : h ⊆ h') (hr : Relies G i h' d d') : Relies G i h d d' := by
  refine Relation.ReflTransGen.mono ?_ _ _ hr
  rintro a b ⟨j, hj, h2, hd, hg⟩
  exact ⟨j, hj, h2, hd.mono_left hs, hg⟩

theorem Relies.keeps {P : D → Prop}
    (hP : ∀ j, j ≠ i → ∀ h', Disjoint h h' → ∀ d d', P d → G j h' d d' → P d')
    (hr : Relies G i h d d') (hd : P d) : P d' := by
  induction hr with
  | refl => exact hd
  | tail _ hst ih =>
    obtain ⟨j, hj, h', hdis, hg⟩ := hst
    exact hP j hj h' hdis _ _ ih hg

theorem Safe.relies (hq : Safe G C i Q com h q d) (hr : Relies G i h d d') :
    Safe G C i Q com h q d' := by
  cases q with
  | ret a => exact fun d2 h2 => hq d2 ((hr.mono (Set.empty_subset h)).trans h2)
  | select n f => exact fun d2 h2 => hq d2 (hr.trans h2)
  | lock n k f => exact fun d2 h2 => hq d2 (hr.trans h2)
  | commit w done conflict => exact fun d2 h2 => hq d2 (hr.trans h2)

theorem Safe.ret_held {h' : Set K} (hr : q.isRet = true) (hq : Safe G C i Q com h q d) :
    Safe G C i Q com h' q d := by
  cases q with
  | ret a => exact hq
  | select n f => cases hr
  | lock n k f => cases hr
  | commit w done conflict => cases hr

theorem Safe.weaken {Q' : Bool → α → D → Prop} (hQ : ∀ com a d, Q com a d → Q' com a d)
    (hq : Safe G C i Q com h q d) : Safe G C i Q' com h q d := by
  induction q generalizing com h d with
  | ret a => exact fun d' hr => hQ _ _ _ (hq d' hr)
  | select n f ih => exact fun d' hr hc => ih d' (hq d' hr hc)
  | lock n k f ih => exact fun d' hr hc => ih d' (hq d' hr hc)
  | commit w done conflict ihd ihc =>
    intro d' hr
    have hw := hq d' hr
    cases hcase : w d' with
    | none =>
      simp only [hcase] at hw ⊢
      exact ihc hw
    | some d'' =>
      simp only [hcase] at hw ⊢
      exact ⟨hw.1, ihd hw.2⟩

namespace Pool

theorem held_free_ne (p : Pool ι D K N α) (h : j ≠ i) (k : K) :
    free p.owner i k = some j ↔ p.owner k = some j := by
  unfold free
  split
  · next hk =>
    simp only [reduceCtorEq, hk, Option.some.injEq, false_iff]
    exact fun e => h e.symm
  · rfl

theorem held_goto_ne (p : Pool ι D K N α) (q : Prog D K N α) (h : j ≠ i) :
    (p.goto i q).held j = p.held j := by
  ext k
  simp only [held, goto, Set.mem_ofPred_eq]
  split
  · exact held_free_ne p h k
  · rfl

theorem held_disjoint (p : Pool ι D K N α) (h : j ≠ i) : Disjoint (p.held j) (p.held i) := by
  rw [Set.disjoint_left]
  intro k hj hi
  simp only [held, Set.mem_ofPred_eq] at hj hi
  exact h (Option.some.inj (hj.symm.trans hi))

variable (G C) in
def AllSafe (Q : ι → Bool → α → D → Prop) (p : Pool ι D K N α) : Prop :=
  ∀ i, Safe G C i (Q i) (decide (i ∈ p.commits)) (p.held i) (p.proc i) p.db

variable {Q : ι → Bool → α → D → Prop}

theorem AllSafe.goto (hi : Safe G C i (Q i) (decide (i ∈ p.commits)) (p.held i) q p.db)
    (hj : ∀ j, j ≠ i → Safe G C j (Q j) (decide (j ∈ p.commits)) (p.held j) (p.proc j) p.db) :
    AllSafe G C Q (p.goto i q) := by
  intro j
  by_cases h : j = i
  · subst h
    rw [goto_proc_self]
    cases hr : q.isRet with
    | true => exact hi.ret_held hr
    | false =>
      have hh : (p.goto j q).held j = p.held j := by simp [held, Pool.goto, hr]
      rw [hh]
      exact hi
  · rw [goto_proc_ne p q h, held_goto_ne p q h]
    exact hj j h

theorem start_safe (db : D) (progs : ι → Prog D K N α)
    (h : ∀ i, Safe G C i (Q i) false ∅ (progs i) db) : AllSafe G C Q (start db progs) := by
  intro i
  have hh : (start db progs).held i = (∅ : Set K) := by ext k; simp [held, start]
  rw [hh]
  simpa [start] using h i

/-- What a step does to the database: nothing, or a commit `G` allows. -/
def Commits (G : ι → Set K → D → D → Prop) (p : Pool ι D K N α) (l : Label ι)
    (p' : Pool ι D K N α) : Prop :=
  (p'.db = p.db ∧ p'.commits = p.commits) ∨
    ∃ i, l = .stmt i ∧ p'.commits = i :: p.commits ∧ G i (p.held i) p.db p'.db

/-- **Soundness.** A step that meets `C` keeps every worker safe, and changes
the database only by a commit that `G` allows its worker. -/
theorem sound (hab : ∀ i com d, Q i com aborted d) {p' : Pool ι D K N α} {l : Label ι}
    (hs : AllSafe G C Q p) (hc : Meets C p l) (hn : next aborted p l = some p') :
    AllSafe G C Q p' ∧ Commits G p l p' := by
  cases l with
  | abort i =>
    simp only [next] at hn
    split at hn
    · cases hn
    · cases hn
      refine ⟨AllSafe.goto ?_ fun j _ => hs j, .inl ⟨rfl, rfl⟩⟩
      exact fun d' _ => hab i _ d'
  | stmt i =>
    have hi := hs i
    simp only [next] at hn
    simp only [Meets] at hc
    cases hp : p.proc i with
    | ret a => simp [hp] at hn
    | select n f =>
      simp only [hp, Option.some.injEq] at hn hi hc
      subst hn
      exact ⟨AllSafe.goto (hi _ .refl (hc n rfl)) fun j _ => hs j, .inl ⟨rfl, rfl⟩⟩
    | lock n k f =>
      simp only [hp] at hn hi hc
      split at hn
      · next hown =>
        cases hn
        have hself : ({ p with owner := Function.update p.owner k (some i) } :
            Pool ι D K N α).held i = insert k (p.held i) := by
          ext k'
          by_cases hk : k' = k
          · simp [held, hk]
          · simp [held, hk]
        refine ⟨AllSafe.goto ?_ fun j hj => ?_, .inl ⟨rfl, rfl⟩⟩
        · rw [hself]
          exact hi _ .refl (hc n rfl)
        · have hother : ({ p with owner := Function.update p.owner k (some i) } :
              Pool ι D K N α).held j = p.held j := by
            ext k'
            by_cases hk : k' = k
            · subst hk
              simp only [held, Set.mem_ofPred_eq, Function.update_self, Option.some.injEq]
              rcases hown with h | h <;> simp [h, Ne.symm hj]
            · simp [held, Function.update_of_ne hk]
          rw [hother]
          exact hs j
      · cases hn
    | commit w done conflict =>
      simp only [hp] at hn hi
      have hi := hi p.db .refl
      have hfree : ({ p with owner := free p.owner i } : Pool ι D K N α).held i = ∅ := by
        ext k
        simp only [held, free, Set.mem_ofPred_eq, Set.mem_empty_iff_false, iff_false]
        split
        · simp
        · next h => exact h
      have hother : ∀ j, j ≠ i →
          ({ p with owner := free p.owner i } : Pool ι D K N α).held j = p.held j := by
        intro j hj
        ext k
        exact held_free_ne p hj k
      cases hw : w p.db with
      | none =>
        simp only [hw, Option.some.injEq] at hn hi
        subst hn
        refine ⟨AllSafe.goto ?_ fun j hj => ?_, .inl ⟨rfl, rfl⟩⟩
        · rw [hfree]
          exact hi
        · rw [hother j hj]
          exact hs j
      | some d =>
        simp only [hw, Option.some.injEq] at hn hi
        subst hn
        refine ⟨AllSafe.goto ?_ fun j hj => ?_, .inr ⟨i, rfl, rfl, hi.1⟩⟩
        · have hh : ({ p with db := d, owner := free p.owner i, commits := i :: p.commits } :
              Pool ι D K N α).held i = ∅ := hfree
          rw [hh]
          simpa using hi.2
        · have hh : ({ p with db := d, owner := free p.owner i, commits := i :: p.commits } :
              Pool ι D K N α).held j = p.held j := hother j hj
          have hmem : decide (j ∈ i :: p.commits) = decide (j ∈ p.commits) := by simp [hj]
          rw [hh]
          simp only [hmem]
          exact (hs j).relies (.single ⟨i, Ne.symm hj, p.held i, held_disjoint p hj, hi.1⟩)

/-- In every pool reached by steps that meet `C` all workers are safe. -/
theorem reachable_safe (hab : ∀ i com d, Q i com aborted d)
    (h : ∀ i, Safe G C i (Q i) false ∅ (progs i) db)
    (hp : ((system aborted db progs).guarded (Meets C)).Reachable p) : AllSafe G C Q p := by
  induction hp with
  | init h0 =>
    cases h0
    exact start_safe db progs h
  | step _ hst ih => exact (sound hab ih hst.1 hst.2).1

/-- What holds initially and is kept by every commit `G` allows. -/
theorem reachable_keeps (hab : ∀ i com d, Q i com aborted d)
    (h : ∀ i, Safe G C i (Q i) false ∅ (progs i) db) {P : D → List ι → Prop} (h0 : P db [])
    (hG : ∀ i h d d' cs, P d cs → G i h d d' → P d' (i :: cs))
    (hp : ((system aborted db progs).guarded (Meets C)).Reachable p) : P p.db p.commits := by
  induction hp with
  | init hs =>
    cases hs
    exact h0
  | step hr hst ih =>
    rcases (sound hab (reachable_safe hab h hr) hst.1 hst.2).2 with ⟨hd, hc⟩ | ⟨i, -, hc, hg⟩
    · rw [hd, hc]
      exact ih
    · rw [hc]
      exact hG _ _ _ _ _ ih hg

/-- A worker that has replied replied as `Q` says. -/
theorem reachable_reply (hab : ∀ i com d, Q i com aborted d)
    (h : ∀ i, Safe G C i (Q i) false ∅ (progs i) db)
    (hp : ((system aborted db progs).guarded (Meets C)).Reachable p) {a : α}
    (hi : p.proc i = .ret a) : Q i (decide (i ∈ p.commits)) a p.db := by
  have hs := reachable_safe hab h hp i
  rw [hi] at hs
  exact hs _ .refl

end Pool
end RelyGuarantee
end Core
