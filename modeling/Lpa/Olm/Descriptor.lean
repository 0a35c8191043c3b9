import Lpa.Common.Bytes
import Lpa.Olm.Dispatch
import Lpa.Support.Memory

/-!
# Offload manager — the descriptor of a name

`cylpa_find_my_descriptor` goes through a list of descriptors, which ends with one without a name,
and compares each name with the one looked for, up to the length of the latter.

* `cylpaFindMyDescriptor_eq`: it finds the first name that starts with the one looked for.
* `cylpaFindMyDescriptor_exact_iff`: that is the first name equal to it exactly if no other that
  starts with it comes first.
-/

namespace Lpa

/-- A string. -/
structure CString where
  chars : Bytes
  ne_nul : (0 : UInt8) ∉ chars
deriving DecidableEq

/-- `ol_desc_t` with its name. -/
structure NamedDesc (W : Type) where
  name : Option CString
  desc : OlDesc W

section Find

variable {W : Type} (name : CString)

/-- The loop over the list: where it stops, if it does before the list ends. -/
def findLoop (i : ℕ) : List (NamedDesc W) → Option (Option ℕ)
  | [] => none
  | it :: its =>
    match it.name with
    | none => some none
    | some s =>
      if Memory.strncmp s.chars name.chars name.chars.length ≠ 0 then findLoop (i + 1) its
      else some (some i)

/-- `cylpa_find_my_descriptor`: the position of the descriptor in the list, or `NULL`; it has no
result if it reads behind the list. -/
def cylpaFindMyDescriptor (offloadList : Option (List (NamedDesc W))) : Option (Option ℕ) :=
  match offloadList with
  | none => some none
  | some ofldsList => findLoop name 0 ofldsList

/-- The names before the one that ends the list. -/
def descNames : List (NamedDesc W) → List CString
  | [] => []
  | it :: its =>
    match it.name with
    | none => []
    | some s => s :: descNames its

/-- A list that has an end. -/
def Terminated (list : List (NamedDesc W)) : Prop := ∃ it ∈ list, it.name = none

variable {list : List (NamedDesc W)}

theorem findLoop_eq (hend : Terminated list) (i : ℕ) : findLoop name i list =
    some (((descNames list).findIdx? fun s => name.chars <+: s.chars).map (i + ·)) := by
  induction list generalizing i with
  | nil => obtain ⟨it, hit, -⟩ := hend; cases hit
  | cons it its ih =>
      obtain ⟨itName, desc⟩ := it
      cases itName with
      | none => rfl
      | some s =>
          have hits : Terminated its := by
            obtain ⟨it, hit, hnone⟩ := hend
            rcases List.mem_cons.mp hit with rfl | hit
            · cases hnone
            · exact ⟨it, hit, hnone⟩
          simp only [findLoop, descNames, List.findIdx?_cons]
          have hcmp := Memory.strncmp_length_eq_zero_iff s.ne_nul name.ne_nul
          by_cases hs : name.chars <+: s.chars
          · rw [if_neg (not_not.mpr (hcmp.mpr hs))]
            simp [hs]
          · rw [if_pos (mt hcmp.mp hs), ih hits]
            simp only [hs, decide_false, Bool.false_eq_true, if_false, Option.map_map]
            congr 2
            funext j
            simp only [Function.comp_apply]
            omega

/-- **The first name that starts with the one looked for.** -/
theorem cylpaFindMyDescriptor_eq (hend : Terminated list) :
    cylpaFindMyDescriptor name (some list) =
      some ((descNames list).findIdx? fun s => name.chars <+: s.chars) := by
  rw [cylpaFindMyDescriptor, findLoop_eq name hend]
  simp

end Find

/-! ### The first of two kinds -/

/-- The first element with `p` is the first with `q`, which is stronger, exactly if the elements
with `p` alone come behind one with `q`. -/
theorem findIdx?_eq_iff {α : Type*} {p q : α → Bool} (hqp : ∀ a, q a → p a) {xs : List α} :
    xs.findIdx? p = xs.findIdx? q ↔
      ∀ (i : ℕ) a, xs[i]? = some a → p a → ¬ q a → ∃ j < i, ∃ b, xs[j]? = some b ∧ q b := by
  induction xs with
  | nil => simp
  | cons a xs ih =>
      rw [List.findIdx?_cons, List.findIdx?_cons]
      by_cases hq : q a
      · -- both are the first element
        rw [if_pos (hqp a hq), if_pos hq]
        refine iff_of_true rfl fun i b hb _ hqb => ?_
        cases i with
        | zero =>
            obtain rfl := Option.some.inj hb
            exact absurd hq hqb
        | succ i => exact ⟨0, Nat.succ_pos i, a, rfl, hq⟩
      · rw [if_neg hq]
        by_cases hp : p a
        · -- the first element has `p` alone
          rw [if_pos hp]
          refine iff_of_false (fun h => ?_) fun h => ?_
          · obtain ⟨i, -, hi⟩ := Option.map_eq_some_iff.mp h.symm
            exact Nat.succ_ne_zero i hi
          · obtain ⟨j, hj, -⟩ := h 0 a rfl hp hq
            exact Nat.not_lt_zero j hj
        · rw [if_neg hp, (Option.map_injective Nat.succ_injective).eq_iff, ih]
          constructor
          · intro h i b hb hpb hqb
            cases i with
            | zero =>
                obtain rfl := Option.some.inj hb
                exact absurd hpb hp
            | succ i =>
                obtain ⟨j, hj, c, hc, hqc⟩ := h i b hb hpb hqb
                exact ⟨j + 1, Nat.succ_lt_succ hj, c, hc, hqc⟩
          · intro h i b hb hpb hqb
            obtain ⟨j, hj, c, hc, hqc⟩ := h (i + 1) b hb hpb hqb
            cases j with
            | zero =>
                obtain rfl := Option.some.inj hc
                exact absurd hqc hq
            | succ j => exact ⟨j, Nat.lt_of_succ_lt_succ hj, c, hc, hqc⟩

/-! ### Lookup by exact name -/

/-- **Lookup by name**, in a list with an end: it stops, and finds the first descriptor with the
name, or `NULL` if there is none, exactly if no descriptor with another name that starts with it
comes before. -/
theorem cylpaFindMyDescriptor_exact_iff {W : Type} (name : CString) {list : List (NamedDesc W)}
    (hend : Terminated list) :
    (∃ r, cylpaFindMyDescriptor name (some list) = some r) ∧
    (cylpaFindMyDescriptor name (some list) =
        some ((descNames list).findIdx? fun s => s = name) ↔
      ∀ (i : ℕ) s, (descNames list)[i]? = some s → name.chars <+: s.chars → s ≠ name →
        ∃ j < i, (descNames list)[j]? = some name) := by
  rw [cylpaFindMyDescriptor_eq name hend, Option.some.injEq, findIdx?_eq_iff]
  · exact ⟨⟨_, rfl⟩, by simp⟩
  · intro s hs
    rw [decide_eq_true_eq] at hs ⊢
    rw [hs]

/-- `"TKO"`, and `"T"`. -/
def tko : CString := ⟨[84, 75, 79], by decide⟩

def tOnly : CString := ⟨[84], by decide⟩

/-- A descriptor of that name, and the one that ends a list. -/
def descOf (name : Option CString) : NamedDesc Unit := ⟨name, ⟨none, none, none⟩⟩

/-- `"TK"`, and `"TKOX"`. -/
def tk : CString := ⟨[84, 75], by decide⟩

def tkox : CString := ⟨[84, 75, 79, 88], by decide⟩

/-- Three names that start alike. -/
def alikeList : List (NamedDesc Unit) := [descOf tk, descOf tkox, descOf tko, descOf none]

/-- The shortest name, in front of the others, is found; that with a longer one in front of it is
not. -/
theorem cylpaFindMyDescriptor_exact_alike :
    cylpaFindMyDescriptor tk (some alikeList) =
        some ((descNames alikeList).findIdx? fun s => s = tk) ∧
      cylpaFindMyDescriptor tko (some alikeList) ≠
        some ((descNames alikeList).findIdx? fun s => s = tko) := by
  have hend : Terminated alikeList := ⟨descOf none, by simp [alikeList], rfl⟩
  constructor
  · refine (cylpaFindMyDescriptor_exact_iff tk hend).2.mpr fun i s hs _ hne => ?_
    cases i with
    | zero => exact absurd (Option.some.inj hs).symm hne
    | succ i => exact ⟨0, Nat.succ_pos i, rfl⟩
  · intro h
    obtain ⟨j, hj, hname⟩ := (cylpaFindMyDescriptor_exact_iff tko hend).2.mp h 1 tkox rfl
      (by decide) (by decide)
    obtain rfl : j = 0 := Nat.lt_one_iff.mp hj
    exact absurd hname (by decide)

/-- `"T"` is looked for, and `"TKO"` found, in front of it or without it. -/
theorem cylpaFindMyDescriptor_prefix :
    cylpaFindMyDescriptor tOnly (some [descOf tko, descOf tOnly, descOf none]) = some (some 0) ∧
      (descNames [descOf tko, descOf tOnly, descOf none]).findIdx? (fun s => s = tOnly) = some 1 ∧
      cylpaFindMyDescriptor tOnly (some [descOf tko, descOf none]) = some (some 0) ∧
      (descNames [descOf tko, descOf none]).findIdx? (fun s => s = tOnly) = none := by
  decide

end Lpa
