import Lpa.Offload.IpChange
import Mathlib.Data.Multiset.MapFold
import Mathlib.Data.Finset.Basic

/-!
# Offload — clients of the IP-change callback

The functions of `cy_nw_lpa_helper.c` are called with a client's own callback record, but the
connection manager's event reaches one record of the file, and registering and unregistering turn
one flag.  Initialising replaces the function of whoever initialised before; unregistering cuts
everyone off.

* `helper_after`: what any calls leave in the record and the flag.
* `delivered_iff`: an event calls exactly the clients registered if and only if none is, and the
  last of the calls to register or unregister was no registration; or it was one, and the only
  client registered is the one that initialised last.

Clients are of any type; each has its own function and argument.
-/

namespace Lpa

/-- A call of a client to the helper. -/
inductive IpClientCall (K : Type) where
  | init (k : K)
  | register (k : K)
  | unregister (k : K)
deriving DecidableEq

/-- The record and the flag of the file, and whether the connection manager calls it. -/
structure NwIpWorld where
  nw : NwIpHelper
  wcmCallback : Bool
deriving DecidableEq

/-- Before any call. -/
def NwIpWorld.boot : NwIpWorld := ⟨⟨none, none, false⟩, false⟩

/-- What a call to the connection manager does there. -/
def WcmCall.apply (_ : Bool) : WcmCall → Bool
  | .registerEventCallback => true
  | .deregisterEventCallback => false

/-- The helper's new record and flag, and its calls to the connection manager. -/
def NwIpWorld.update (w : NwIpWorld) (r : NwIpHelper × List WcmCall) : NwIpWorld :=
  ⟨r.1, r.2.foldl WcmCall.apply w.wcmCallback⟩

section Clients

variable {K : Type} (client : K → IpCallback)

/-- One call; `client` gives each client's function and argument. -/
def NwIpWorld.next (w : NwIpWorld) : IpClientCall K → NwIpWorld
  | .init k => { w with nw := w.nw.initialize (client k).cbFunc (client k).arg }
  | .register _ => w.update w.nw.register
  | .unregister _ => w.update w.nw.unregister

/-- The world after some calls. -/
def nwIpAfter (calls : List (IpClientCall K)) : NwIpWorld :=
  calls.foldl (NwIpWorld.next client) .boot

/-- What the event calls: nothing, unless the connection manager has the file's callback. -/
def NwIpWorld.delivered (w : NwIpWorld) (event : CyWcmEvent) (eventData : Option CyWcmIpVersion) :
    List IpCallback :=
  if w.wcmCallback then cyWcmEventCallbackFunc event eventData w.nw else []

end Clients

/-! ### What the clients may expect -/

section Expected

variable {K : Type} [DecidableEq K]

/-- The clients registered, after one more call. -/
def registeredNext (s : Finset K) : IpClientCall K → Finset K
  | .init _ => s
  | .register k => insert k s
  | .unregister k => s.erase k

/-- The clients that have registered and not unregistered since. -/
def registeredClients (calls : List (IpClientCall K)) : Finset K := calls.foldl registeredNext ∅

/-- The client that initialised last. -/
def lastInitialized (calls : List (IpClientCall K)) : Option K :=
  calls.foldl (fun last c => match c with | .init k => some k | _ => last) none

/-- The last call to register or unregister was to register. -/
def registeredLast (calls : List (IpClientCall K)) : Bool :=
  calls.foldl (fun last c => match c with
    | .init _ => last | .register _ => true | .unregister _ => false) false

/-- Each client initialises before it registers; those in `done` have. -/
def InitializesFirst (done : Finset K) : List (IpClientCall K) → Prop
  | [] => True
  | .init k :: calls => InitializesFirst (insert k done) calls
  | .register k :: calls => k ∈ done ∧ InitializesFirst done calls
  | .unregister _ :: calls => InitializesFirst done calls

/-- **The functions called are exactly the registered clients'**, each once with its own
argument. -/
def DeliversExactly (client : K → IpCallback) (calls : List (IpClientCall K)) : Prop :=
  (((nwIpAfter client calls).delivered .ipChanged (some .v4) : List IpCallback) :
    Multiset IpCallback) = (registeredClients calls).val.map client

/-- A registration that was the last such call has left its client registered. -/
theorem registeredClients_nonempty {calls : List (IpClientCall K)}
    (h : registeredLast calls = true) : (registeredClients calls).Nonempty := by
  induction calls using List.reverseRecOn with
  | nil => simp [registeredLast] at h
  | append_singleton calls c ih =>
      simp only [registeredLast, registeredClients, List.foldl_append, List.foldl_cons,
        List.foldl_nil] at h ih ⊢
      cases c with
      | init k => exact ih h
      | register k => exact Finset.insert_nonempty k _
      | unregister k => simp at h

end Expected

/-! ### What the helper does -/

section Helper

variable {K : Type} (client : K → IpCallback)

/-- What the helper's record and flag are, given who initialised last and whether the last such
call was to register. -/
def NwIpHelper.of (last : Option K) (registered : Bool) : NwIpHelper where
  cbFunc := last.map fun k => (client k).cbFunc
  arg := last.bind fun k => (client k).arg
  isWcmCallbackRegistered := registered

/-- **The helper after any calls**: it knows who initialised last, and whether the last call to
register or unregister was to register. -/
theorem helper_after (calls : List (IpClientCall K)) :
    nwIpAfter client calls =
      ⟨.of client (lastInitialized calls) (registeredLast calls), registeredLast calls⟩ := by
  induction calls using List.reverseRecOn with
  | nil => rfl
  | append_singleton calls c ih =>
      simp only [nwIpAfter, lastInitialized, registeredLast, List.foldl_append, List.foldl_cons,
        List.foldl_nil] at ih ⊢
      rw [ih]
      cases c with
      | init k => rfl
      | register k =>
          cases List.foldl _ false calls <;> rfl
      | unregister k =>
          cases List.foldl _ false calls <;> rfl

/-- **An event calls** the client that initialised last, if the last call to register or
unregister was to register. -/
theorem delivered_after (calls : List (IpClientCall K)) :
    (nwIpAfter client calls).delivered .ipChanged (some .v4) =
      if registeredLast calls then ((lastInitialized calls).map client).toList else [] := by
  rw [helper_after]
  unfold NwIpWorld.delivered
  cases registeredLast calls with
  | false => rfl
  | true => cases lastInitialized calls <;> rfl

variable [DecidableEq K]

/-- **IP-change callbacks reach exactly the registered clients if and only if** no client is
registered and the last call to register or unregister, if any, was to unregister; or it was to
register, and one client alone is registered, whose function and argument were initialised
last. -/
theorem delivered_iff (calls : List (IpClientCall K)) :
    DeliversExactly client calls ↔
      (registeredLast calls = false ∧ registeredClients calls = ∅) ∨
        (registeredLast calls = true ∧ ∃ k, registeredClients calls = {k} ∧
          (lastInitialized calls).map client = some (client k)) := by
  unfold DeliversExactly
  rw [delivered_after]
  cases hr : registeredLast calls with
  | false =>
      simp only [Bool.false_eq_true, if_false, false_and, or_false, true_and, Multiset.coe_nil]
      rw [eq_comm, Multiset.map_eq_zero, Finset.val_eq_zero]
  | true =>
      simp only [if_true, true_and, Bool.true_eq_false, false_and, false_or]
      cases hl : lastInitialized calls with
      | none =>
          refine iff_of_false (fun h => ?_) (by simp)
          obtain ⟨k, hk⟩ := registeredClients_nonempty hr
          have := (Multiset.map_eq_zero.mp h.symm) ▸ Finset.mem_val.mpr hk
          exact Multiset.notMem_zero k this
      | some j =>
          simp only [Option.map_some, Option.toList_some, Multiset.coe_singleton,
            Option.some.injEq]
          rw [eq_comm, Multiset.map_eq_singleton]
          refine exists_congr fun k => ?_
          rw [← Finset.singleton_val, Finset.val_inj]
          exact and_congr_right fun _ => eq_comm

end Helper

/-- Of two clients that have both initialised and registered, the first is not called. -/
theorem not_deliversExactly :
    ¬ ∀ (K : Type) [DecidableEq K] (client : K → IpCallback) (calls : List (IpClientCall K)),
      InitializesFirst ∅ calls → DeliversExactly client calls := by
  intro h
  have hexact := h Bool (fun k => ⟨.other k.toNat, some k.toNat⟩)
    [.init false, .register false, .init true, .register true] ?_
  · exact absurd hexact (by unfold DeliversExactly; decide)
  · simp [InitializesFirst]

end Lpa
