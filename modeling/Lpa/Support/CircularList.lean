import Mathlib.Data.List.Nodup

/-!
# Support — circular lists

Nodes linked by a pointer each, the last one to the first.  A search starts at the first node and
follows the pointers until it has found what it looks for, or is back where it started; it is given
a number of nodes to look at, and has no result if they do not do.

* `search_eq`: a search finds the first node it looks for, or that there is none, and needs no more
  nodes than the list has.
* `eq_of_search`: with any number, it finds nothing else.
-/

namespace CircularList

variable {N : Type*} {next : N → Option N} {p : N → Bool} {head : Option N} {nodes : List N}

/-- The nodes are linked one after another, and the last one to `head`. -/
def Linked (next : N → Option N) (head : Option N) : List N → Prop
  | [] => True
  | [a] => next a = head
  | a :: b :: nodes => next a = some b ∧ Linked next head (b :: nodes)

/-- `nodes` is a circular list: empty, or linked from its first node back to it, none twice. -/
structure IsRing (next : N → Option N) (nodes : List N) : Prop where
  nodup : nodes.Nodup
  linked : Linked next nodes.head? nodes

theorem isRing_nil : IsRing next [] := ⟨List.nodup_nil, trivial⟩

variable [DecidableEq N]

/-- The search for a node of which `p` holds, at `some a` or at the end of the list. -/
def search (next : N → Option N) (p : N → Bool) (head : Option N) :
    ℕ → Option N → Option (Option N)
  | _, none => some none
  | 0, some _ => none
  | fuel + 1, some a =>
    if p a then some (some a)
    else if next a = head then some none
    else search next p head fuel (next a)

/-- **A search** over the rest of a circular list. -/
theorem search_linked {a : N} {rest : List N} (hlinked : Linked next head (a :: rest))
    (hhead : ∀ b ∈ rest, some b ≠ head) {fuel : ℕ} (hfuel : rest.length < fuel) :
    search next p head fuel (some a) = some ((a :: rest).find? p) := by
  induction rest generalizing a fuel with
  | nil =>
      obtain ⟨fuel, rfl⟩ := Nat.exists_eq_add_one_of_ne_zero (Nat.ne_of_gt hfuel)
      rw [search]
      by_cases hp : p a = true
      · rw [if_pos hp, List.find?_cons_of_pos hp]
      · rw [if_neg hp, if_pos (show next a = head from hlinked), List.find?_cons_of_neg hp,
          List.find?_nil]
  | cons b rest ih =>
      obtain ⟨fuel, rfl⟩ :=
        Nat.exists_eq_add_one_of_ne_zero (Nat.ne_of_gt (Nat.zero_lt_of_lt hfuel))
      obtain ⟨hnext, hlinked⟩ := hlinked
      rw [search]
      by_cases hp : p a = true
      · rw [if_pos hp, List.find?_cons_of_pos hp]
      · have hne : next a ≠ head := by
          rw [hnext]
          exact hhead b List.mem_cons_self
        rw [if_neg hp, if_neg hne, List.find?_cons_of_neg hp, hnext]
        exact ih hlinked (fun c hc => hhead c (List.mem_cons_of_mem b hc)) (by simpa using hfuel)

/-- **A search from the first node** finds the first one there is. -/
theorem search_eq (h : IsRing next nodes) {fuel : ℕ} (hfuel : nodes.length ≤ fuel) :
    search next p nodes.head? fuel nodes.head? = some (nodes.find? p) := by
  cases nodes with
  | nil => cases fuel <;> rfl
  | cons a rest =>
      refine search_linked h.linked (fun b hb heq => ?_) hfuel
      rw [List.head?_cons, Option.some_inj] at heq
      exact (List.nodup_cons.mp h.nodup).1 (heq ▸ hb)

/-- What a search has found, it finds with more nodes to look at. -/
theorem search_mono {a r : Option N} {fuel fuel' : ℕ} (hle : fuel ≤ fuel')
    (h : search next p head fuel a = some r) : search next p head fuel' a = some r := by
  induction fuel generalizing a fuel' with
  | zero =>
      cases a with
      | none => cases fuel' <;> exact h
      | some a => cases h
  | succ fuel ih =>
      cases a with
      | none => cases fuel' <;> exact h
      | some a =>
          obtain ⟨fuel', rfl⟩ :=
            Nat.exists_eq_add_one_of_ne_zero (Nat.ne_of_gt (Nat.zero_lt_of_lt hle))
          rw [search] at h ⊢
          split_ifs at h ⊢ with hp hnext
          · exact h
          · exact h
          · exact ih (Nat.le_of_succ_le_succ hle) h

/-- **Whatever a search finds** is the first node there is. -/
theorem eq_of_search (h : IsRing next nodes) {r : Option N} {fuel : ℕ}
    (hr : search next p nodes.head? fuel nodes.head? = some r) : r = nodes.find? p := by
  have hmono := search_mono (Nat.le_max_left fuel nodes.length) hr
  rw [search_eq h (Nat.le_max_right fuel nodes.length)] at hmono
  exact (Option.some.inj hmono).symm

end CircularList
