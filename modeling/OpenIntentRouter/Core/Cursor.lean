import Mathlib.Data.List.Sort

/-!
# Reading rows from a cursor

`page pos cursor rows` is what `WHERE pos > cursor ORDER BY pos` returns. A
reader that keeps the largest position it has read, and reads the next page
from there, is judged by three facts:

* `page_increasing`: a page lists its rows by strictly increasing positions;
* `eq_of_increasing`: a list in that order is determined by its members;
* `read_append_page`: what has been read up to the cursor, followed by the page
  from the cursor, is the page from the start.
-/
namespace Core.Cursor

variable {α : Type} (pos : α → Int)

def page (cursor : Int) (rows : List α) : List α :=
  (rows.filter fun x => cursor < pos x).insertionSort fun x y => pos x ≤ pos y

def Increasing (xs : List α) : Prop := xs.Pairwise fun x y => pos x < pos y

variable {pos} {cursor start : Int} {rows xs ys : List α} {x : α}

theorem mem_page : x ∈ page pos cursor rows ↔ x ∈ rows ∧ cursor < pos x := by
  simp [page]

theorem Increasing.nodup (h : Increasing pos xs) : xs.Nodup := by
  refine List.Pairwise.imp ?_ h
  intro x y hlt heq
  rw [heq] at hlt
  omega

theorem pairwise_lt_insertionSort {κ : Type} [LinearOrder κ] (key : α → κ)
    (h : (rows.map key).Nodup) :
    (rows.insertionSort fun x y => key x ≤ key y).Pairwise fun x y => key x < key y := by
  have hsorted : (rows.insertionSort fun x y => key x ≤ key y).Pairwise
      fun x y => key x ≤ key y := by
    have : Std.Total fun x y : α => key x ≤ key y := ⟨fun x y => le_total (key x) (key y)⟩
    have : IsTrans α fun x y => key x ≤ key y := ⟨fun _ _ _ => le_trans⟩
    exact List.pairwise_insertionSort _ _
  have hapart := ((List.perm_insertionSort (fun x y => key x ≤ key y) rows).map key).nodup_iff.2 h
  exact (hsorted.and (List.pairwise_map.1 hapart)).imp fun hxy => lt_of_le_of_ne hxy.1 hxy.2

theorem page_increasing (h : (rows.map pos).Nodup) : Increasing pos (page pos cursor rows) :=
  pairwise_lt_insertionSort pos (h.sublist (List.filter_sublist.map pos))

theorem Increasing.append (hx : Increasing pos xs) (hy : Increasing pos ys)
    (h : ∀ x ∈ xs, ∀ y ∈ ys, pos x < pos y) : Increasing pos (xs ++ ys) :=
  List.pairwise_append.2 ⟨hx, hy, h⟩

/-- Two lists by strictly increasing positions with the same members are the same. -/
theorem eq_of_increasing (hx : Increasing pos xs) (hy : Increasing pos ys)
    (h : ∀ x, x ∈ xs ↔ x ∈ ys) : xs = ys := by
  have hperm : xs.Perm ys := (List.perm_ext_iff_of_nodup hx.nodup hy.nodup).2 h
  refine hperm.eq_of_pairwise ?_ hx hy
  intro x y _ _ hxy hyx
  omega

/-- What has been read up to the cursor, with the page from there. -/
theorem read_append_page (h : (rows.map pos).Nodup) (hx : Increasing pos xs)
    (hread : ∀ x, x ∈ xs ↔ x ∈ rows ∧ start < pos x ∧ pos x ≤ cursor) (hstart : start ≤ cursor) :
    xs ++ page pos cursor rows = page pos start rows := by
  have hbelow : ∀ x ∈ xs, ∀ y ∈ page pos cursor rows, pos x < pos y := by
    intro x hmem y hy
    have hle := ((hread x).1 hmem).2.2
    have hlt := (mem_page.1 hy).2
    omega
  refine eq_of_increasing (hx.append (page_increasing h) hbelow) (page_increasing h) ?_
  intro x
  rw [List.mem_append, hread, mem_page, mem_page]
  constructor
  · intro hmem
    rcases hmem with ⟨hrow, hlt, -⟩ | ⟨hrow, hlt⟩
    · exact ⟨hrow, hlt⟩
    · exact ⟨hrow, by omega⟩
  · intro ⟨hrow, hlt⟩
    by_cases hle : pos x ≤ cursor
    · exact .inl ⟨hrow, hlt, hle⟩
    · exact .inr ⟨hrow, by omega⟩

end Core.Cursor
