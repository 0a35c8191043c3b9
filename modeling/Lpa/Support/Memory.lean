import Mathlib.Data.Int.Notation
import Mathlib.Data.List.GetD

/-!
# Support — memory accessed within bounds

Arrays of `n` cells, and strings up to their terminator.  An access outside has no result, and so
has no run of accesses with one outside among them.

* `fill`: a loop that writes one cell after another.  It has a result exactly if every cell is
  there and has a value (`isSome_fill_iff`), and what is in a cell afterwards is that value, or what
  was there before (`getElem_fill`).
* `memcpy`, `memset`: the loops that copy a list and repeat a value.
* `charAt`: the characters of a string and its terminator; `strncmp` compares two.
-/

namespace Memory

variable {α : Type*} {n : ℕ} {m m' : Vector α n} {f : ℕ → Option α} {off k : ℕ}

/-- Writes a cell. -/
def write (m : Vector α n) (i : ℕ) (x : α) : Option (Vector α n) :=
  if h : i < n then some (m.set i x h) else none

/-- Writes `k` cells from `off` on, one after another, the `i`-th of them with `f i`. -/
def fill (f : ℕ → Option α) (off k : ℕ) (m : Vector α n) : Option (Vector α n) :=
  (List.range k).foldlM (fun m i => (f i).bind (write m (off + i))) m

theorem fill_succ : fill f off (k + 1) m =
    (fill f off k m).bind fun m => (f k).bind (write m (off + k)) := by
  simp only [fill, List.range_succ, List.foldlM_append, List.foldlM_cons, List.foldlM_nil,
    bind_pure]
  rfl

/-- **The accesses of the loop** are all within bounds. -/
theorem isSome_fill_iff :
    (fill f off k m).isSome ↔ ∀ i < k, off + i < n ∧ (f i).isSome := by
  induction k with
  | zero => simp [fill]
  | succ k ih =>
      have hlast : ∀ m : Vector α n, ((f k).bind (write m (off + k))).isSome ↔
          off + k < n ∧ (f k).isSome := fun m => by
        cases f k with
        | none => simp
        | some x => by_cases h : off + k < n <;> simp [write, h]
      rw [fill_succ, Nat.forall_lt_succ_right, ← ih]
      cases fill f off k m with
      | none => simp
      | some m₁ => simp [hlast m₁]

/-- **What is in a cell** after the loop. -/
theorem getElem_fill (h : fill f off k m = some m') {i : ℕ} (hi : i < n) :
    some m'[i] = if off ≤ i ∧ i < off + k then f (i - off) else some m[i] := by
  induction k generalizing m' with
  | zero =>
      cases h
      rw [if_neg (by omega)]
  | succ k ih =>
      rw [fill_succ] at h
      obtain ⟨m₁, h₁, h⟩ := Option.bind_eq_some_iff.mp h
      obtain ⟨x, hx, h⟩ := Option.bind_eq_some_iff.mp h
      unfold write at h
      split at h
      · cases h
        rw [Vector.getElem_set]
        by_cases he : off + k = i
        · subst he
          rw [if_pos rfl, if_pos (by omega), Nat.add_sub_cancel_left, hx]
        · rw [if_neg he, ih h₁]
          exact if_congr (by omega) rfl rfl
      · cases h

theorem le_of_fill (h : fill f 0 k m = some m') : k ≤ n := by
  refine Nat.le_of_not_lt fun hn => ?_
  have := (isSome_fill_iff.mp (Option.isSome_of_mem h) n hn).1
  omega

/-- Cells filled from the start on. -/
theorem take_toList_fill {g : ℕ → α} (hf : ∀ i < k, f i = some (g i))
    (h : fill f 0 k m = some m') : m'.toList.take k = (List.range k).map g := by
  have hk := le_of_fill h
  refine List.ext_getElem (by simp [hk]) fun i hi _ => ?_
  have hik : i < k := by
    rw [List.length_take] at hi
    omega
  have hcell := getElem_fill h (Nat.lt_of_lt_of_le hik hk)
  rw [if_pos ⟨Nat.zero_le i, by omega⟩, Nat.sub_zero, hf i hik] at hcell
  simpa using Option.some.inj hcell

/-- `memcpy(m + off, xs, …)`. -/
def memcpy (m : Vector α n) (off : ℕ) (xs : List α) : Option (Vector α n) :=
  fill (xs[·]?) off xs.length m

/-- `memset(m + off, x, k)`. -/
def memset (m : Vector α n) (off : ℕ) (x : α) (k : ℕ) : Option (Vector α n) :=
  fill (fun _ => some x) off k m

section Blocks

variable {xs : List α} {x : α}

theorem isSome_memcpy_iff : (memcpy m off xs).isSome ↔ ∀ i < xs.length, off + i < n := by
  refine isSome_fill_iff.trans (forall₂_congr fun i hi => ?_)
  simp [hi]

theorem isSome_memset_iff : (memset m off x k).isSome ↔ ∀ i < k, off + i < n := by
  refine isSome_fill_iff.trans (forall₂_congr fun i hi => ?_)
  simp

theorem exists_memcpy (m : Vector α n) (h : off + xs.length ≤ n) :
    ∃ m', memcpy m off xs = some m' :=
  Option.isSome_iff_exists.mp (isSome_memcpy_iff.mpr fun i hi => by omega)

theorem exists_memset (m : Vector α n) (x : α) (h : off + k ≤ n) :
    ∃ m', memset m off x k = some m' :=
  Option.isSome_iff_exists.mp (isSome_memset_iff.mpr fun i hi => by omega)

theorem getElem_memcpy (h : memcpy m off xs = some m') {i : ℕ} (hi : i < n) :
    m'[i] = if off ≤ i ∧ i < off + xs.length then xs.getD (i - off) x else m[i] := by
  have hfill := getElem_fill h hi
  split at hfill
  · rw [if_pos ‹_›, List.getD_eq_getElem?_getD, ← hfill]
    rfl
  · rw [if_neg ‹_›]
    exact Option.some.inj hfill

theorem getElem_memset (h : memset m off x k = some m') {i : ℕ} (hi : i < n) :
    m'[i] = if off ≤ i ∧ i < off + k then x else m[i] := by
  have hfill := getElem_fill h hi
  split at hfill
  · rw [if_pos ‹_›]
    exact Option.some.inj hfill
  · rw [if_neg ‹_›]
    exact Option.some.inj hfill

end Blocks

/-! ### Strings -/

section Strings

variable {s : List UInt8} {i : ℕ}

/-- The character at `i`; the terminator is the last there is. -/
def charAt (s : List UInt8) (i : ℕ) : Option UInt8 := (s ++ [0])[i]?

theorem isSome_charAt_iff : (charAt s i).isSome ↔ i ≤ s.length := by
  rw [charAt, isSome_getElem?, List.length_append, List.length_singleton]
  exact Nat.lt_succ_iff

theorem charAt_of_le (h : i ≤ s.length) : charAt s i = some (s.getD i 0) := by
  unfold charAt
  rcases Nat.lt_or_eq_of_le h with hlt | rfl
  · rw [List.getElem?_append_left hlt, List.getD_eq_getElem _ _ hlt, List.getElem?_eq_getElem hlt]
  · simp

end Strings

/-- `strncmp(s, t, n)`: how the characters differ at the first place below `n` where they do; the
end of a string is a character, `NUL`. -/
def strncmp : List UInt8 → List UInt8 → ℕ → ℤ
  | _, _, 0 => 0
  | [], [], _ + 1 => 0
  | [], d :: _, _ + 1 => -d.toNat
  | c :: _, [], _ + 1 => c.toNat
  | c :: s, d :: t, n + 1 => if c = d then strncmp s t n else c.toNat - d.toNat

theorem strncmp_eq_zero_iff {s t : List UInt8} (hs : 0 ∉ s) (ht : 0 ∉ t) (n : ℕ) :
    strncmp s t n = 0 ↔ s.take n = t.take n := by
  have hpos : ∀ {c : UInt8} {s : List UInt8}, 0 ∉ c :: s → c.toNat ≠ 0 := fun h h0 =>
    h (List.mem_cons.mpr (.inl (UInt8.toNat_inj.mp h0.symm)))
  induction n generalizing s t with
  | zero => simp [strncmp]
  | succ n ih =>
      match s, t with
      | [], [] => simp [strncmp]
      | [], d :: t => simpa [strncmp] using hpos ht
      | c :: s, [] => simpa [strncmp] using hpos hs
      | c :: s, d :: t =>
          rw [strncmp, List.take_succ_cons, List.take_succ_cons, List.cons.injEq]
          split
          · rename_i he
            have htail := ih (fun h => hs (List.mem_cons_of_mem _ h)) fun h =>
              ht (List.mem_cons_of_mem _ h)
            exact htail.trans ⟨fun h => ⟨he, h⟩, fun h => h.2⟩
          · rename_i hne
            refine iff_of_false (fun h => hne ?_) fun h => hne h.1
            rw [← UInt8.toNat_inj]
            omega

/-- Compared for the length of the one string, the other has to start with it, no more. -/
theorem strncmp_length_eq_zero_iff {s t : List UInt8} (hs : 0 ∉ s) (ht : 0 ∉ t) :
    strncmp s t t.length = 0 ↔ t <+: s := by
  rw [strncmp_eq_zero_iff hs ht, List.take_length, List.prefix_iff_eq_take, eq_comm]

end Memory
