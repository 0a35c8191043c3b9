import Mathlib.Data.List.Induction
import Mathlib.Data.List.Nodup
import Mathlib.Logic.Function.Basic

/-!
# Support — state held by key

A table `K → V` on which every operation acts at one key.  What a run of operations leaves at a
key is what the operations on that key alone leave (`run_apply`), so a run made of one stretch of
operations for each entry of a list, the entries having different keys, can be read entry by
entry (`run_flatMap`).  Operations may fail: those that get through to an entry are some of its own
(`on_through`).
-/

namespace Keyed

variable {K V O E : Type*} [DecidableEq K] (key : O → K) (eff : O → V → V)

/-- One operation: its effect at its key. -/
def apply (t : K → V) (o : O) : K → V := Function.update t (key o) (eff o (t (key o)))

/-- A run of operations. -/
def run (t : K → V) (ops : List O) : K → V := ops.foldl (apply key eff) t

/-- The effects of operations one after the other, at one key. -/
def effects (v : V) (ops : List O) : V := ops.foldl (fun v o => eff o v) v

/-- The operations on `k`. -/
def on (k : K) (ops : List O) : List O := ops.filter fun o => key o = k

theorem run_append (t : K → V) (xs ys : List O) :
    run key eff t (xs ++ ys) = run key eff (run key eff t xs) ys :=
  List.foldl_append

/-- **A key sees its own operations only.** -/
theorem run_apply (t : K → V) (ops : List O) (k : K) :
    run key eff t ops k = effects eff (t k) (on key k ops) := by
  induction ops generalizing t with
  | nil => rfl
  | cons o ops ih =>
      refine (ih (apply key eff t o)).trans ?_
      by_cases h : key o = k
      · subst h
        simp [on, effects, apply]
      · simp [on, effects, apply, h, Function.update_of_ne (Ne.symm h)]

/-- Operations that overwrite: the last one stays. -/
theorem effects_const {f : O → V} (v : V) (ops : List O) :
    effects (fun o _ => f o) v ops = (ops.getLast?.map f).getD v := by
  induction ops using List.reverseRecOn with
  | nil => rfl
  | append_singleton ops o _ => simp [effects]

theorem on_append (k : K) (xs ys : List O) : on key k (xs ++ ys) = on key k xs ++ on key k ys :=
  List.filter_append ..

section Entries

variable {key} {id : E → K} {f : E → List O} (hf : ∀ e, ∀ o ∈ f e, key o = id e)
include hf

theorem on_own (e : E) : on key (id e) (f e) = f e :=
  List.filter_eq_self.mpr fun o ho => by simpa using hf e o ho

theorem on_flatMap_of_notMem {k : K} {es : List E} (h : k ∉ es.map id) :
    on key k (es.flatMap f) = [] := by
  refine List.filter_eq_nil_iff.mpr fun o ho => ?_
  obtain ⟨e, he, ho⟩ := List.mem_flatMap.mp ho
  have hk : key o ≠ k := fun hk => h (List.mem_map.mpr ⟨e, he, (hf e o ho).symm.trans hk⟩)
  simpa using hk

/-- Of a run made entry by entry, an entry's key sees the entry's own stretch. -/
theorem on_flatMap {es : List E} (hn : (es.map id).Nodup) {e : E} (he : e ∈ es) :
    on key (id e) (es.flatMap f) = f e := by
  induction es with
  | nil => simp at he
  | cons e' es ih =>
      rw [List.map_cons, List.nodup_cons] at hn
      rw [List.flatMap_cons, on_append]
      rcases List.mem_cons.mp he with rfl | he
      · rw [on_own hf, on_flatMap_of_notMem hf hn.1, List.append_nil]
      · have hne : id e' ≠ id e := fun h => hn.1 (h ▸ List.mem_map_of_mem he)
        have hother : on key (id e) (f e') = [] := by
          refine List.filter_eq_nil_iff.mpr fun o ho => ?_
          simpa [hf e' o ho] using hne
        rw [hother, List.nil_append, ih hn.2 he]

theorem run_flatMap {es : List E} (hn : (es.map id).Nodup) {e : E} (he : e ∈ es) (t : K → V) :
    run key eff t (es.flatMap f) (id e) = effects eff (t (id e)) (f e) := by
  rw [run_apply, on_flatMap hf hn he]

theorem run_flatMap_of_notMem {k : K} {es : List E} (h : k ∉ es.map id) (t : K → V) :
    run key eff t (es.flatMap f) k = t k := by
  rw [run_apply, on_flatMap_of_notMem hf h]
  rfl

end Entries

/-! ### Operations that may fail -/

/-- The operations that get through, of some that are told whether they do. -/
def through (ops : List (O × Bool)) : List O :=
  ops.filterMap fun o => if o.2 then some o.1 else none

theorem through_append (xs ys : List (O × Bool)) : through (xs ++ ys) = through xs ++ through ys :=
  List.filterMap_append

theorem mem_through {o : O} {ops : List (O × Bool)} : o ∈ through ops ↔ (o, true) ∈ ops := by
  refine List.mem_filterMap.trans ⟨?_, fun h => ⟨_, h, rfl⟩⟩
  rintro ⟨⟨o', ok⟩, hmem, h⟩
  cases ok with
  | false => cases h
  | true =>
      cases h
      exact hmem

theorem through_sublist (ops : List (O × Bool)) : (through ops).Sublist (ops.map Prod.fst) := by
  induction ops with
  | nil => exact List.Sublist.slnil
  | cons o ops ih =>
      obtain ⟨o, ok⟩ := o
      cases ok with
      | false => exact ih.cons o
      | true => exact ih.cons_cons o

theorem on_sublist (k : K) {xs ys : List O} (h : xs.Sublist ys) :
    (on key k xs).Sublist (on key k ys) :=
  h.filter _

section Attempts

variable {key} {id : E → K} {f : E → List O} (hf : ∀ e, ∀ o ∈ f e, key o = id e)
variable {ops : List (O × Bool)} {es : List E} (hops : ops.map Prod.fst = es.flatMap f)
include hf hops

/-- **What gets through** to an entry's key are some of the entry's own operations. -/
theorem on_through (hn : (es.map id).Nodup) {e : E} (he : e ∈ es) :
    (on key (id e) (through ops)).Sublist (f e) := by
  have h := on_sublist key (id e) (through_sublist ops)
  rwa [hops, on_flatMap hf hn he] at h

theorem on_through_of_notMem {k : K} (h : k ∉ es.map id) : on key k (through ops) = [] := by
  have hsub := on_sublist key k (through_sublist ops)
  rw [hops, on_flatMap_of_notMem hf h] at hsub
  exact List.sublist_nil.mp hsub

end Attempts

end Keyed
