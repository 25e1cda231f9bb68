import OpenIntentRouter.Core.Txn

/-!
# Transactions that pass over locked rows

`Transaction` is a database program with row locks: `skipLocked` is a
`SELECT … FOR UPDATE SKIP LOCKED`, it takes the locks of the rows it finds
that no other worker holds and leaves the others out; `lock` waits for a row
and sees its latest committed version, as an `UPDATE … WHERE` does. A worker
keeps its locks to its commit or its reply.

* `Transaction.run`: the program alone;
* `Workers.next`: any number of workers, a statement at a time;
* `Safe` and `Workers.sound`: what a commit may do, checked program by program
  (`G`, `Relies` as in `Core.Txn`);
* `Settles` and `Workers.inHand_steps`: a row that is due and locked leaves its
  lock settled.
-/
set_option linter.unusedSectionVars false

namespace Core

inductive Transaction (D K α : Type) where
  | ret (a : α)
  | read (f : D → Transaction D K α)
  | skipLocked (rows : D → List K) (limit : Option Nat) (f : D → List K → Transaction D K α)
  | lock (k : K) (f : D → Transaction D K α)
  | commit (w : D → D) (done : Transaction D K α)

namespace Transaction

variable {D K α : Type}

/-- `LIMIT`. -/
def upTo (limit : Option Nat) (rows : List K) : List K :=
  match limit with
  | none => rows
  | some n => rows.take n

theorem upTo_sublist (limit : Option Nat) (rows : List K) : (upTo limit rows).Sublist rows := by
  cases limit with
  | none => exact List.Sublist.refl rows
  | some n => exact List.take_sublist n rows

def run : Transaction D K α → D → α × D
  | ret a, d => (a, d)
  | read f, d => run (f d) d
  | skipLocked rows limit f, d => run (f d (upTo limit (rows d))) d
  | lock _ f, d => run (f d) d
  | commit w done, d => run done (w d)

def isRet : Transaction D K α → Bool
  | ret _ => true
  | _ => false

end Transaction

/-- Workers over one database; `owner` is the lock table. -/
structure Workers (ι D K α : Type) where
  db : D
  proc : ι → Transaction D K α
  owner : K → Option ι

namespace Workers

open Transaction Pool

variable {ι D K α : Type} [DecidableEq ι] [DecidableEq K]

/-- Worker `i` goes on with `q`; a reply ends its transaction. -/
def goto (p : Workers ι D K α) (i : ι) (q : Transaction D K α) : Workers ι D K α :=
  { p with
    proc := Function.update p.proc i q
    owner := if q.isRet then free p.owner i else p.owner }

/-- The rows worker `i` may lock. -/
def unlocked (p : Workers ι D K α) (i : ι) (rows : List K) : List K :=
  rows.filter fun k => decide (p.owner k = none ∨ p.owner k = some i)

/-- Worker `i` owns the rows `ks`, too. -/
def take (p : Workers ι D K α) (i : ι) (ks : List K) : Workers ι D K α :=
  { p with owner := fun k => if k ∈ ks then some i else p.owner k }

/-- One statement of worker `i`, or the end of worker `i` by `aborted`. -/
def next (aborted : α) (p : Workers ι D K α) : Label ι → Option (Workers ι D K α)
  | .stmt i =>
    match p.proc i with
    | .ret _ => none
    | .read f => some (p.goto i (f p.db))
    | .skipLocked rows limit f =>
      let ks := upTo limit (p.unlocked i (rows p.db))
      some ((p.take i ks).goto i (f p.db ks))
    | .lock k f =>
      if p.owner k = none ∨ p.owner k = some i then some ((p.take i [k]).goto i (f p.db)) else none
    | .commit w done => some ({ p with db := w p.db, owner := free p.owner i }.goto i done)
  | .abort i => if (p.proc i).isRet then none else some (p.goto i (.ret aborted))

def start (db : D) (progs : ι → Transaction D K α) : Workers ι D K α := ⟨db, progs, fun _ => none⟩

/-- The workers running `progs` from the database `db`. -/
def system (aborted : α) (db : D) (progs : ι → Transaction D K α) :
    LTS (Workers ι D K α) (Label ι) :=
  .ofFn (· = start db progs) (next aborted)

/-- The locks worker `i` holds. -/
def held (p : Workers ι D K α) (i : ι) : Set K := {k | p.owner k = some i}

theorem goto_proc_self (p : Workers ι D K α) (i : ι) (q : Transaction D K α) :
    (p.goto i q).proc i = q := by
  simp [goto]

theorem goto_proc_ne (p : Workers ι D K α) {i j : ι} (q : Transaction D K α) (h : j ≠ i) :
    (p.goto i q).proc j = p.proc j := by
  simp [goto, Function.update_of_ne h]

theorem free_ne {owner : K → Option ι} {i j : ι} (h : j ≠ i) (k : K) :
    free owner i k = some j ↔ owner k = some j := by
  unfold free
  split
  · next hk =>
    rw [hk]
    simp [Ne.symm h]
  · rfl

theorem free_self (owner : K → Option ι) (i : ι) (k : K) : free owner i k ≠ some i := by
  unfold free
  split
  · simp
  · next h => exact h

/-- A lock stays with its owner until the owner replies. -/
theorem goto_owner {p : Workers ι D K α} {i j : ι} {q : Transaction D K α} {k : K} :
    (p.goto i q).owner k = some j ↔ p.owner k = some j ∧ (j = i → q.isRet = false) := by
  simp only [goto]
  cases hq : q.isRet with
  | false => simp
  | true =>
    rw [if_pos rfl]
    by_cases hj : j = i
    · subst hj
      simp [free_self]
    · simp [free_ne hj, hj]

theorem held_goto_ne (p : Workers ι D K α) {i j : ι} (q : Transaction D K α) (h : j ≠ i) :
    (p.goto i q).held j = p.held j := by
  ext k
  simp only [held, Set.mem_ofPred_eq, goto_owner]
  simp [h]

theorem mem_unlocked {p : Workers ι D K α} {i : ι} {rows : List K} {k : K} :
    k ∈ p.unlocked i rows ↔ k ∈ rows ∧ (p.owner k = none ∨ p.owner k = some i) := by
  simp [unlocked]

theorem held_disjoint (p : Workers ι D K α) {i j : ι} (h : j ≠ i) :
    Disjoint (p.held j) (p.held i) := by
  rw [Set.disjoint_left]
  intro k hj hi
  simp only [held, Set.mem_ofPred_eq] at hj hi
  exact h (Option.some.inj (hj.symm.trans hi))

def Takes (p : Workers ι D K α) (i : ι) (ks : List K) : Prop :=
  ∀ k ∈ ks, p.owner k = none ∨ p.owner k = some i

theorem takes_unlocked (p : Workers ι D K α) (i : ι) (limit : Option Nat) (rows : List K) :
    p.Takes i (upTo limit (p.unlocked i rows)) := by
  intro k hk
  exact (mem_unlocked.1 ((upTo_sublist _ _).subset hk)).2

theorem held_take_self (p : Workers ι D K α) (i : ι) (ks : List K) :
    (p.take i ks).held i = p.held i ∪ {k | k ∈ ks} := by
  ext k
  simp only [held, take, Set.mem_ofPred_eq, Set.mem_union]
  split
  · next hk => simp [hk]
  · next hk => simp [hk]

theorem take_owner_ne {p : Workers ι D K α} {i j : ι} {ks : List K} (h : p.Takes i ks)
    (hj : j ≠ i) (k : K) : (p.take i ks).owner k = some j ↔ p.owner k = some j := by
  simp only [take]
  split
  · next hk => rcases h k hk with ho | ho <;> simp [ho, Ne.symm hj]
  · rfl

theorem held_take_ne {p : Workers ι D K α} {i j : ι} {ks : List K} (h : p.Takes i ks)
    (hj : j ≠ i) : (p.take i ks).held j = p.held j := by
  ext k
  exact take_owner_ne h hj k

theorem next_proc_ne {aborted : α} {p p' : Workers ι D K α} {i j : ι}
    (hn : next aborted p (.stmt i) = some p') (h : j ≠ i) : p'.proc j = p.proc j := by
  simp only [next] at hn
  split at hn
  · cases hn
  · cases hn
    exact goto_proc_ne _ _ h
  · cases hn
    exact goto_proc_ne _ _ h
  · split at hn
    · cases hn
      exact goto_proc_ne _ _ h
    · cases hn
  · cases hn
    exact goto_proc_ne _ _ h

theorem exec_proc_ne {aborted : α} {p p' : Workers ι D K α} {i j : ι} {n : Nat}
    (hn : LTS.exec (next aborted) p (List.replicate n (.stmt i)) = some p') (h : j ≠ i) :
    p'.proc j = p.proc j := by
  induction n generalizing p with
  | zero =>
    cases hn
    rfl
  | succ n ih =>
    rw [List.replicate_succ, LTS.exec, Option.bind_eq_some_iff] at hn
    obtain ⟨p1, h1, hn⟩ := hn
    exact (ih hn).trans (next_proc_ne h1 h)

end Workers

/-! ## Rely-guarantee -/

section RelyGuarantee

open Transaction

variable {ι D K α : Type} [DecidableEq ι] [DecidableEq K] (G : ι → Set K → D → D → Prop)

/-- From the database `d`, whatever the others commit in between, worker `i` at
this program holding `h` commits only what `G` allows. -/
def Transaction.Safe (i : ι) : Set K → Transaction D K α → D → Prop
  | _, .ret _, _ => True
  | h, .read f, d => ∀ d', Relies G i h d d' → Safe i h (f d') d'
  | h, .skipLocked rows _ f, d => ∀ d', Relies G i h d d' → ∀ ks : List K, ks.Sublist (rows d') →
    Safe i (h ∪ {k | k ∈ ks}) (f d' ks) d'
  | h, .lock k f, d => ∀ d', Relies G i h d d' → Safe i (h ∪ {k' | k' ∈ [k]}) (f d') d'
  | h, .commit w done, d => ∀ d', Relies G i h d d' → G i h d' (w d') ∧ Safe i ∅ done (w d')

variable {G}

theorem Transaction.Safe.relies {i : ι} {h : Set K} {q : Transaction D K α} {d d' : D}
    (hq : q.Safe G i h d) (hr : Relies G i h d d') : q.Safe G i h d' := by
  cases q with
  | ret a => trivial
  | read f => exact fun d2 h2 => hq d2 (hr.trans h2)
  | skipLocked rows limit f => exact fun d2 h2 => hq d2 (hr.trans h2)
  | lock k f => exact fun d2 h2 => hq d2 (hr.trans h2)
  | commit w done => exact fun d2 h2 => hq d2 (hr.trans h2)

theorem Transaction.Safe.ret_held {i : ι} {h h' : Set K} {q : Transaction D K α} {d : D}
    (hr : q.isRet = true) (hq : q.Safe G i h d) : q.Safe G i h' d := by
  cases q with
  | ret a => trivial
  | read f => cases hr
  | skipLocked rows limit f => cases hr
  | lock k f => cases hr
  | commit w done => cases hr

namespace Workers

open Pool

variable (G) in
def AllSafe (p : Workers ι D K α) : Prop := ∀ i, (p.proc i).Safe G i (p.held i) p.db

theorem AllSafe.goto {p : Workers ι D K α} {i : ι} {q : Transaction D K α}
    (hi : q.Safe G i (p.held i) p.db)
    (hj : ∀ j, j ≠ i → (p.proc j).Safe G j (p.held j) p.db) : AllSafe G (p.goto i q) := by
  intro j
  by_cases h : j = i
  · subst h
    rw [goto_proc_self]
    cases hr : q.isRet with
    | true => exact hi.ret_held hr
    | false =>
      have hh : (p.goto j q).held j = p.held j := by simp [held, Workers.goto, hr]
      rw [hh]
      exact hi
  · rw [goto_proc_ne p q h, held_goto_ne p q h]
    exact hj j h

/-- What a step does to the database: nothing, or a commit `G` allows. -/
def Commits (G : ι → Set K → D → D → Prop) (p : Workers ι D K α) (l : Label ι)
    (p' : Workers ι D K α) : Prop :=
  p'.db = p.db ∨ ∃ i, l = .stmt i ∧ G i (p.held i) p.db p'.db

theorem AllSafe.take {p : Workers ι D K α} {i : ι} {ks : List K} {q : Transaction D K α}
    (hs : AllSafe G p) (ht : p.Takes i ks) (hq : q.Safe G i (p.held i ∪ {k | k ∈ ks}) p.db) :
    AllSafe G ((p.take i ks).goto i q) := by
  refine AllSafe.goto ?_ fun j hj => ?_
  · rw [held_take_self]
    exact hq
  · rw [held_take_ne ht hj]
    exact hs j

/-- **Soundness.** A step keeps every worker safe, and changes the database only
by a commit that `G` allows its worker. -/
theorem sound {aborted : α} {p p' : Workers ι D K α} {l : Label ι} (hs : AllSafe G p)
    (hn : next aborted p l = some p') : AllSafe G p' ∧ Commits G p l p' := by
  cases l with
  | abort i =>
    simp only [next] at hn
    split at hn
    · cases hn
    · cases hn
      exact ⟨AllSafe.goto trivial fun j _ => hs j, .inl rfl⟩
  | stmt i =>
    have hi := hs i
    simp only [next] at hn
    cases hp : p.proc i with
    | ret a => simp [hp] at hn
    | read f =>
      simp only [hp, Option.some.injEq] at hn hi
      subst hn
      exact ⟨AllSafe.goto (hi _ .refl) fun j _ => hs j, .inl rfl⟩
    | skipLocked rows limit f =>
      simp only [hp, Option.some.injEq] at hn hi
      subst hn
      refine ⟨hs.take (p.takes_unlocked i limit _) (hi _ .refl _ ?_), .inl rfl⟩
      exact (upTo_sublist _ _).trans List.filter_sublist
    | lock k f =>
      simp only [hp] at hn hi
      split at hn
      · next hown =>
        cases hn
        refine ⟨hs.take ?_ (hi _ .refl), .inl rfl⟩
        intro k' hk'
        rw [List.mem_singleton.1 hk']
        exact hown
      · cases hn
    | commit w done =>
      simp only [hp, Option.some.injEq] at hn hi
      subst hn
      obtain ⟨hg, hdone⟩ := hi _ .refl
      refine ⟨AllSafe.goto ?_ fun j hj => ?_, .inr ⟨i, rfl, hg⟩⟩
      · have hh : ({ p with db := w p.db, owner := free p.owner i } : Workers ι D K α).held i = ∅ :=
          Set.eq_empty_of_forall_notMem fun k hk => free_self _ _ _ hk
        rw [hh]
        exact hdone
      · have hh : ({ p with db := w p.db, owner := free p.owner i } : Workers ι D K α).held j =
            p.held j := by
          ext k
          exact free_ne hj k
        rw [hh]
        exact (hs j).relies (.single ⟨i, Ne.symm hj, p.held i, held_disjoint p hj, hg⟩)

theorem reachable_safe {aborted : α} {db : D} {progs : ι → Transaction D K α}
    (h : ∀ i, (progs i).Safe G i ∅ db) {p : Workers ι D K α}
    (hp : (system aborted db progs).Reachable p) : AllSafe G p := by
  induction hp with
  | init h0 =>
    cases h0
    intro i
    have hh : (start db progs).held i = (∅ : Set K) := by ext k; simp [held, start]
    rw [hh]
    exact h i
  | step _ hst ih => exact (sound ih hst).1

theorem reachable_step {aborted : α} {db : D} {progs : ι → Transaction D K α}
    (h : ∀ i, (progs i).Safe G i ∅ db) {p p' : Workers ι D K α} {l : Label ι}
    (hp : (system aborted db progs).Reachable p) (hst : (system aborted db progs).step p l p') :
    Commits G p l p' :=
  (sound (reachable_safe h hp) hst).2

/-- What holds initially and is kept by every commit `G` allows. -/
theorem reachable_keeps {aborted : α} {db : D} {progs : ι → Transaction D K α}
    (h : ∀ i, (progs i).Safe G i ∅ db) {P : D → Prop} (h0 : P db)
    (hG : ∀ i h d d', P d → G i h d d' → P d') {p : Workers ι D K α}
    (hp : (system aborted db progs).Reachable p) : P p.db := by
  induction hp with
  | init hs =>
    cases hs
    exact h0
  | step hr hst ih =>
    rcases reachable_step h hr hst with hd | ⟨i, -, hg⟩
    · rw [hd]
      exact ih
    · exact hG _ _ _ _ ih hg

end Workers
end RelyGuarantee

/-! ## Rows that leave their lock settled -/

section Settling

open Transaction

variable {ι D K α : Type} [DecidableEq ι] [DecidableEq K] (G : ι → Set K → D → D → Prop)
  (Due Final : K → D → Prop)

/-- Whatever the others commit in between, worker `i` at this program goes on to
a commit that leaves row `k` final. -/
def Transaction.Settles (i : ι) (k : K) : Set K → Transaction D K α → D → Prop
  | _, .ret _, _ => False
  | h, .read f, d => ∀ d', Relies G i h d d' → Settles i k h (f d') d'
  | h, .skipLocked rows _ f, d => ∀ d', Relies G i h d d' → ∀ ks : List K, ks.Sublist (rows d') →
    Settles i k (h ∪ {k | k ∈ ks}) (f d' ks) d'
  | h, .lock k' f, d => ∀ d', Relies G i h d d' → Settles i k (h ∪ {k | k ∈ [k']}) (f d') d'
  | h, .commit w _, d => ∀ d', Relies G i h d d' → Final k (w d')

/-- A lock it takes on a due row the program keeps until it settles the row. -/
def Transaction.Keeps (i : ι) : Set K → Transaction D K α → D → Prop
  | _, .ret _, _ => True
  | h, .read f, d => ∀ d', Relies G i h d d' → Keeps i h (f d') d'
  | h, .skipLocked rows _ f, d => ∀ d', Relies G i h d d' → ∀ ks : List K, ks.Sublist (rows d') →
    Keeps i (h ∪ {k | k ∈ ks}) (f d' ks) d' ∧ ((f d' ks).isRet = false → ∀ k ∈ ks, Due k d' →
      (f d' ks).Settles G Final i k (h ∪ {k | k ∈ ks}) d')
  | h, .lock k' f, d => ∀ d', Relies G i h d d' → Keeps i (h ∪ {k | k ∈ [k']}) (f d') d' ∧
    ((f d').isRet = false → ∀ k ∈ [k'], Due k d' →
      (f d').Settles G Final i k (h ∪ {k | k ∈ [k']}) d')
  | h, .commit w done, d => ∀ d', Relies G i h d d' → Keeps i ∅ done (w d')

variable {G Due Final}

theorem Transaction.Settles.isRet {i : ι} {k : K} {h : Set K} {q : Transaction D K α} {d : D}
    (hq : q.Settles G Final i k h d) : q.isRet = false := by
  cases q with
  | ret a => exact hq.elim
  | read f => rfl
  | skipLocked rows limit f => rfl
  | lock k f => rfl
  | commit w done => rfl

theorem Transaction.Settles.relies {i : ι} {k : K} {h : Set K} {q : Transaction D K α} {d d' : D}
    (hq : q.Settles G Final i k h d) (hr : Relies G i h d d') : q.Settles G Final i k h d' := by
  cases q with
  | ret a => exact hq
  | read f => exact fun d2 h2 => hq d2 (hr.trans h2)
  | skipLocked rows limit f => exact fun d2 h2 => hq d2 (hr.trans h2)
  | lock k f => exact fun d2 h2 => hq d2 (hr.trans h2)
  | commit w done => exact fun d2 h2 => hq d2 (hr.trans h2)

theorem Transaction.Keeps.relies {i : ι} {h : Set K} {q : Transaction D K α} {d d' : D}
    (hq : q.Keeps G Due Final i h d) (hr : Relies G i h d d') : q.Keeps G Due Final i h d' := by
  cases q with
  | ret a => trivial
  | read f => exact fun d2 h2 => hq d2 (hr.trans h2)
  | skipLocked rows limit f => exact fun d2 h2 => hq d2 (hr.trans h2)
  | lock k f => exact fun d2 h2 => hq d2 (hr.trans h2)
  | commit w done => exact fun d2 h2 => hq d2 (hr.trans h2)

namespace Workers

open Pool

theorem held_goto_self {p : Workers ι D K α} {i : ι} {q : Transaction D K α}
    (hq : q.isRet = false) : (p.goto i q).held i = p.held i := by
  simp [held, Workers.goto, hq]

variable (G Due Final) in
/-- Worker `i` is going to settle the due rows it has locked. -/
def SettlesHeld (p : Workers ι D K α) (i : ι) : Prop :=
  (p.proc i).Keeps G Due Final i (p.held i) p.db ∧
    ∀ k, p.owner k = some i → Due k p.db → (p.proc i).Settles G Final i k (p.held i) p.db

variable (Due Final) in
def InHand (k : K) (p : Workers ι D K α) : Prop :=
  Final k p.db ∨ ∃ i, p.owner k = some i ∧ Due k p.db

theorem settlesHeld_goto {p : Workers ι D K α} {i : ι} {q : Transaction D K α}
    (hj : ∀ j, j ≠ i → SettlesHeld G Due Final p j)
    (hq : q.isRet = false → q.Keeps G Due Final i (p.held i) p.db ∧
      ∀ k, p.owner k = some i → Due k p.db → q.Settles G Final i k (p.held i) p.db) (j : ι) :
    SettlesHeld G Due Final (p.goto i q) j := by
  by_cases hji : j = i
  · subst hji
    unfold SettlesHeld
    rw [goto_proc_self]
    cases hr : q.isRet with
    | true =>
      refine ⟨?_, fun k hown => ?_⟩
      · cases q with
        | ret a => trivial
        | read f => cases hr
        | skipLocked rows limit f => cases hr
        | lock k f => cases hr
        | commit w done => cases hr
      · have hret := (goto_owner.1 hown).2 rfl
        rw [hr] at hret
        cases hret
    | false =>
      rw [held_goto_self hr]
      exact ⟨(hq hr).1, fun k hown => (hq hr).2 k (goto_owner.1 hown).1⟩
  · unfold SettlesHeld
    rw [goto_proc_ne p q hji, held_goto_ne p q hji]
    exact ⟨(hj j hji).1, fun k hown => (hj j hji).2 k (goto_owner.1 hown).1⟩

theorem settlesHeld_take {p : Workers ι D K α} {i : ι} {ks : List K} {q : Transaction D K α}
    (hj : ∀ j, SettlesHeld G Due Final p j) (ht : p.Takes i ks)
    (hq : q.Keeps G Due Final i (p.held i ∪ {k | k ∈ ks}) p.db)
    (hnew : q.isRet = false → ∀ k ∈ ks, Due k p.db →
      q.Settles G Final i k (p.held i ∪ {k | k ∈ ks}) p.db)
    (hold : ∀ k, p.owner k = some i → Due k p.db →
      q.Settles G Final i k (p.held i ∪ {k | k ∈ ks}) p.db) (j : ι) :
    SettlesHeld G Due Final ((p.take i ks).goto i q) j := by
  refine settlesHeld_goto (fun j hji => ?_) (fun hret => ?_) j
  · unfold SettlesHeld
    rw [held_take_ne ht hji]
    exact ⟨(hj j).1, fun k hown => (hj j).2 k ((take_owner_ne ht hji k).1 hown)⟩
  · rw [held_take_self]
    refine ⟨hq, fun k hown hdue => ?_⟩
    by_cases hk : k ∈ ks
    · exact hnew hret k hk hdue
    · simp only [Workers.take, if_neg hk] at hown
      exact hold k hown hdue

theorem settlesHeld_next {aborted : α} {p p' : Workers ι D K α} {l : Label ι}
    (hsame : ∀ i h d d' k, G i h d d' → k ∉ h → (Due k d' ↔ Due k d)) (hsafe : AllSafe G p)
    (h : ∀ i, SettlesHeld G Due Final p i) (hn : next aborted p l = some p') :
    ∀ i, SettlesHeld G Due Final p' i := by
  cases l with
  | abort i =>
    simp only [Workers.next] at hn
    split at hn
    · cases hn
    · cases hn
      exact settlesHeld_goto (fun j _ => h j) fun hret => by cases hret
  | stmt i =>
    have hi := (h i).1
    have hs := (h i).2
    have hg := hsafe i
    simp only [Workers.next] at hn
    cases hp : p.proc i with
    | ret a => simp [hp] at hn
    | read f =>
      simp only [hp, Option.some.injEq] at hn hi hs
      subst hn
      exact settlesHeld_goto (fun j _ => h j) fun _ =>
        ⟨hi _ .refl, fun k hown hdue => hs k hown hdue _ .refl⟩
    | skipLocked rows limit f =>
      simp only [hp, Option.some.injEq] at hn hi hs
      subst hn
      have hsub := (upTo_sublist limit (p.unlocked i (rows p.db))).trans
        (List.filter_sublist (l := rows p.db))
      exact settlesHeld_take h (p.takes_unlocked i limit _) (hi _ .refl _ hsub).1
        (hi _ .refl _ hsub).2 fun k hown hdue => hs k hown hdue _ .refl _ hsub
    | lock k f =>
      simp only [hp] at hn hi hs
      split at hn
      · next hown =>
        cases hn
        refine settlesHeld_take h ?_ (hi _ .refl).1 (hi _ .refl).2
          fun k hown hdue => hs k hown hdue _ .refl
        intro k' hk'
        rw [List.mem_singleton.1 hk']
        exact hown
      · cases hn
    | commit w done =>
      simp only [hp, Option.some.injEq] at hn hi hg
      subst hn
      refine settlesHeld_goto (fun j hji => ?_) fun _ => ?_
      · have hh : ({ p with db := w p.db, owner := free p.owner i } : Workers ι D K α).held j =
            p.held j := by
          ext k
          exact free_ne hji k
        have hrely : Relies G j (p.held j) p.db (w p.db) :=
          .single ⟨i, Ne.symm hji, p.held i, held_disjoint p hji, (hg _ .refl).1⟩
        unfold SettlesHeld
        rw [hh]
        refine ⟨(h j).1.relies hrely, fun k hown hdue => ?_⟩
        have hown' : p.owner k = some j := (free_ne hji k).1 hown
        have hnot : k ∉ p.held i := Set.disjoint_left.1 (held_disjoint p hji) hown'
        exact ((h j).2 k hown' ((hsame i _ _ _ k (hg _ .refl).1 hnot).1 hdue)).relies hrely
      · have hh : ({ p with db := w p.db, owner := free p.owner i } : Workers ι D K α).held i = ∅ :=
          Set.eq_empty_of_forall_notMem fun k hk => free_self _ _ _ hk
        rw [hh]
        exact ⟨hi _ .refl, fun k hown => absurd hown (free_self _ _ _)⟩

/-- **Leaving the lock settled.** As long as no worker is aborted, a row in
hand stays in hand: it is settled when nobody holds its lock. -/
theorem InHand.next {aborted : α} {p p' : Workers ι D K α} {i : ι} {k : K}
    (hsame : ∀ i h d d' k, G i h d d' → k ∉ h → (Due k d' ↔ Due k d))
    (hfinal : ∀ i h d d', G i h d d' → Final k d → Final k d') (hsafe : AllSafe G p)
    (h : ∀ i, SettlesHeld G Due Final p i) (hn : Workers.next aborted p (.stmt i) = some p')
    (hk : InHand Due Final k p) : InHand Due Final k p' := by
  rcases hk with hk | ⟨j, hown, hdue⟩
  · rcases (sound hsafe hn).2 with hd | ⟨i, -, hg⟩
    · exact .inl (by rw [hd]; exact hk)
    · exact .inl (hfinal _ _ _ _ hg hk)
  · have hset := (h j).2 k hown hdue
    have hg := hsafe i
    -- a program that is going to settle the row does not reply before
    have hstay : ∀ {q : Transaction D K α} {p2 : Workers ι D K α}, p2.db = p.db →
        p2.owner k = some j → (j = i → q.isRet = false) → InHand Due Final k (p2.goto i q) := by
      intro q p2 hdb hown2 hq
      refine .inr ⟨j, goto_owner.2 ⟨hown2, hq⟩, ?_⟩
      show Due k p2.db
      rw [hdb]
      exact hdue
    have htake : ∀ ks : List K, p.Takes i ks → (p.take i ks).owner k = some j := by
      intro ks ht
      simp only [Workers.take]
      split
      · next hmem =>
        rcases ht k hmem with ho | ho
        · rw [ho] at hown
          cases hown
        · rw [← ho]
          exact hown
      · exact hown
    simp only [Workers.next] at hn
    cases hp : p.proc i with
    | ret a => simp [hp] at hn
    | read f =>
      simp only [hp, Option.some.injEq] at hn
      subst hn
      refine hstay rfl hown fun hj => ?_
      subst hj
      rw [hp] at hset
      exact (hset _ .refl).isRet
    | skipLocked rows limit f =>
      simp only [hp, Option.some.injEq] at hn
      subst hn
      refine hstay rfl (htake _ (p.takes_unlocked i limit _)) fun hj => ?_
      subst hj
      rw [hp] at hset
      exact (hset _ .refl _ ((upTo_sublist limit _).trans List.filter_sublist)).isRet
    | lock k' f =>
      simp only [hp] at hn
      split at hn
      · next hfree =>
        cases hn
        refine hstay rfl (htake _ ?_) fun hj => ?_
        · intro k2 hk2
          rw [List.mem_singleton.1 hk2]
          exact hfree
        · subst hj
          rw [hp] at hset
          exact (hset _ .refl).isRet
      · cases hn
    | commit w done =>
      simp only [hp, Option.some.injEq] at hn hg
      subst hn
      by_cases hj : j = i
      · subst hj
        rw [hp] at hset
        exact .inl (hset _ .refl)
      · have hnot : k ∉ p.held i := Set.disjoint_left.1 (held_disjoint p hj) hown
        refine .inr ⟨j, goto_owner.2 ⟨(free_ne hj k).2 hown, fun h => absurd h hj⟩, ?_⟩
        exact (hsame i _ _ _ k (hg _ .refl).1 hnot).2 hdue

variable {aborted : α} {db : D} {progs : ι → Transaction D K α} {p p' : Workers ι D K α}

theorem reachable_settlesHeld (hsame : ∀ i h d d' k, G i h d d' → k ∉ h → (Due k d' ↔ Due k d))
    (hsafe : ∀ i, (progs i).Safe G i ∅ db) (hkeeps : ∀ i, (progs i).Keeps G Due Final i ∅ db)
    (hp : (system aborted db progs).Reachable p) (i : ι) : SettlesHeld G Due Final p i := by
  induction hp generalizing i with
  | init h0 =>
    cases h0
    have hh : (start db progs).held i = (∅ : Set K) := by ext k; simp [held, start]
    unfold SettlesHeld
    rw [hh]
    exact ⟨hkeeps i, fun k hown => by simp [start] at hown⟩
  | step hr hst ih => exact settlesHeld_next hsame (reachable_safe hsafe hr) ih hst i

def uninterrupted (aborted : α) (db : D) (progs : ι → Transaction D K α) :
    LTS (Workers ι D K α) (Label ι) :=
  (system aborted db progs).guarded fun _ l => ∃ i, l = .stmt i

theorem inHand_steps {k : K} (hsame : ∀ i h d d' k, G i h d d' → k ∉ h → (Due k d' ↔ Due k d))
    (hfinal : ∀ i h d d', G i h d d' → Final k d → Final k d')
    (hsafe : ∀ i, (progs i).Safe G i ∅ db) (hkeeps : ∀ i, (progs i).Keeps G Due Final i ∅ db)
    (hp : (system aborted db progs).Reachable p) (hs : (uninterrupted aborted db progs).Steps p p')
    (hk : InHand Due Final k p) : InHand Due Final k p' := by
  suffices h : (system aborted db progs).Reachable p' ∧ InHand Due Final k p' from h.2
  induction hs with
  | refl => exact ⟨hp, hk⟩
  | tail _ hst ih =>
    obtain ⟨l, ⟨i, rfl⟩, hl⟩ := hst
    have hset := reachable_settlesHeld hsame hsafe hkeeps ih.1
    exact ⟨.step ih.1 hl, ih.2.next hsame hfinal (reachable_safe hsafe ih.1) hset hl⟩

end Workers
end Settling
end Core
