import Lpa.Tlsoe.Model
import Mathlib.Data.Finset.Option

/-!
# TLS offload — the tear-down undoes the set-up

Waking up, `whd_tlsoe_disable` deregisters the one index the offload has kept, and with NetX Duo
releases the TLS protection, for each connection whose pattern can be deleted, activated or not.

* `tlsoe_undoes`: in every run, a disable undoes what an activation has done exactly if there has
  been one since the last disable and nobody else has deregistered its index; after a wake-up whose
  calls to the driver all succeed nothing of the offload's is registered exactly if no activation
  has overtaken another whose index is still registered.

`activations` reads the history; `At` is what every call and every step of another user keeps.
-/

namespace Lpa.Tlsoe

open Prog (Label Safe Reach Stable)

/-- What the history says: the notification and whether a call to the driver has failed since; the
index of the last activation, and those of activations it has overtaken, as far as nobody has
deregistered them since. -/
structure Activations where
  note : Option OlPmSt
  whdFailed : Bool
  latest : Option UInt16
  overtaken : Finset UInt16
deriving DecidableEq

/-- An activation has registered the handler at `i`. -/
def Activations.register (k : Activations) (i : UInt16) : Activations :=
  { k with latest := some i, overtaken := k.overtaken ∪ k.latest.toFinset }

/-- Somebody has deregistered what was at `i`. -/
def Activations.deregister (k : Activations) (i : UInt16) : Activations :=
  { k with latest := if k.latest = some i then none else k.latest,
           overtaken := k.overtaken.erase i }

/-- A call to the driver has had the result `r`. -/
def Activations.whd (k : Activations) (r : UInt32) : Activations :=
  { k with whdFailed := k.whdFailed || decide (r ≠ whdResultSuccess) }

@[simp] def Activations.next (k : Activations) : Label TlsOp TlsRes OtherUser → Activations
  | .call .nextNotification (st : OlPmSt) => { k with note := some st, whdFailed := false }
  | .call .whdManagementSetEventHandler (i : UInt16) => k.register i
  | .call (.whdWifiDeregisterEventHandler i) (r : UInt32) => (k.deregister i).whd r
  | .call .whdGetWowlCap (r : UInt32 × UInt32) => k.whd r.1
  | .call (.whdSetWowlCap _) (r : UInt32) => k.whd r
  | .call (.whdSetWowlPattern _ _) (r : UInt32) => k.whd r
  | .call .whdWifiGetMacAddress (r : UInt32) => k.whd r
  | .call (.whdWowlActivateSecure _) (r : UInt32) => k.whd r
  | .call .whdWowlGetSecureSessionStatus (r : UInt32) => k.whd r
  | .call .whdWowlClear (r : UInt32) => k.whd r
  | .env (.deregister i) => k.deregister i
  | _ => k

def activations (h : TlsHist) : Activations := h.foldl Activations.next ⟨none, false, none, ∅⟩

@[simp] theorem activations_append (h : TlsHist) (l : Label TlsOp TlsRes OtherUser) :
    activations (h ++ [l]) = (activations h).next l := by
  simp [activations]

/-! ### The event table -/

/-- The table holds the offload's handler at the indices of the activations, the last one of which
is the one it has kept. -/
structure Registered (k : Activations) (s : TlsWorld) : Prop where
  latest : ∀ i, k.latest = some i → s.tlsoeOffloadUpdateEntry = i
  handlers : ∀ i, s.handlers i = some .tlsoeCallbackHandler ↔ k.latest = some i ∨ i ∈ k.overtaken
  kept : s.tlsoeOffloadUpdateEntry ∉ k.overtaken

variable {k : Activations} {s : TlsWorld}

@[simp] theorem whd_latest (r : UInt32) : (k.whd r).latest = k.latest := rfl

@[simp] theorem whd_overtaken (r : UInt32) : (k.whd r).overtaken = k.overtaken := rfl

@[simp] theorem setHandler_entry (i : UInt16) (f : Option TlsHandler) :
    (s.setHandler i f).tlsoeOffloadUpdateEntry = s.tlsoeOffloadUpdateEntry := rfl

/-- **An activation** registers the handler at a free index. -/
theorem Registered.register (hs : Registered k s) {i : UInt16} (hfree : s.handlers i = none) :
    Registered (k.register i)
      { s.setHandler i (some .tlsoeCallbackHandler) with tlsoeOffloadUpdateEntry := i } := by
  have hnot : ¬ (k.latest = some i ∨ i ∈ k.overtaken) := by
    rw [← hs.handlers i, hfree]
    simp
  obtain ⟨hlatest, hovertaken⟩ := not_or.mp hnot
  refine ⟨fun j hj => Option.some.inj hj, fun j => ?_, ?_⟩
  · unfold Activations.register TlsWorld.setHandler
    dsimp only
    by_cases hj : j = i
    · subst hj
      simp
    · rw [Function.update_of_ne hj, hs.handlers j]
      simp [Ne.symm hj, or_comm]
  · simp [Activations.register, hlatest, hovertaken]

/-- **A deregistration**, the offload's or another user's. -/
theorem Registered.deregister (hs : Registered k s) (i : UInt16) :
    Registered (k.deregister i) (s.setHandler i none) := by
  obtain ⟨hlatest, hhandlers, hkept⟩ := hs
  refine ⟨fun j hj => ?_, fun j => ?_, fun hmem => hkept (Finset.mem_of_mem_erase hmem)⟩
  · unfold Activations.deregister at hj
    dsimp only at hj
    split at hj
    · cases hj
    · exact hlatest j hj
  · unfold Activations.deregister TlsWorld.setHandler
    dsimp only
    by_cases hj : j = i
    · subst hj
      rw [Function.update_self]
      split <;> simp_all
    · rw [Function.update_of_ne hj, hhandlers j]
      split
      · rename_i hi
        simp [hi, hj, Ne.symm hj]
      · simp [hj]

/-- Another user registers a handler of his own. -/
theorem Registered.other (hs : Registered k s) {i : UInt16} {h : Handle}
    (hfree : s.handlers i = none) : Registered k (s.setHandler i (some (.other h))) := by
  obtain ⟨hlatest, hhandlers, hkept⟩ := hs
  refine ⟨hlatest, fun j => ?_, hkept⟩
  rw [← hhandlers j]
  unfold TlsWorld.setHandler
  dsimp only
  by_cases hj : j = i
  · subst hj
    simp [hfree]
  · rw [Function.update_of_ne hj]

/-- **What the offload is about to deregister** is its own exactly if it has been activated since
the last deregistration. -/
theorem Registered.entry_iff (hs : Registered k s) :
    s.handlers s.tlsoeOffloadUpdateEntry = some .tlsoeCallbackHandler ↔ k.latest.isSome := by
  rw [hs.handlers, Option.isSome_iff_exists]
  constructor
  · rintro (hl | ho)
    · exact ⟨_, hl⟩
    · exact absurd ho hs.kept
  · rintro ⟨i, hi⟩
    exact .inl (hs.latest i hi ▸ hi)

/-- Once that is done, nothing of the offload's is registered exactly if nothing is left of the
activations that another has overtaken. -/
theorem Registered.none_iff (hs : Registered k s) (hl : k.latest = none) :
    (∀ i, s.handlers i ≠ some .tlsoeCallbackHandler) ↔ k.overtaken = ∅ := by
  rw [Finset.eq_empty_iff_forall_notMem]
  refine forall_congr' fun i => ?_
  rw [Ne, hs.handlers i, hl]
  simp

theorem deregister_entry (hs : Registered k s) :
    (k.deregister s.tlsoeOffloadUpdateEntry).latest = none := by
  unfold Activations.deregister
  dsimp only
  split
  · rfl
  · rename_i hne
    cases hl : k.latest with
    | none => rfl
    | some i => exact absurd (hs.latest i hl ▸ hl) hne

/-! ### Programs -/

/-- Where a run stands, in the notification `note`: with NetX Duo, and unless it has been
`released`, the TLS protection is held for the last activation. -/
structure At (b : TlsBuild) (released : Bool) (note : Option OlPmSt) (h : TlsHist) (s : TlsWorld) :
    Prop where
  note : (activations h).note = note
  registered : Registered (activations h) s
  held : b.stack = .netxduo → released = false → (activations h).latest.isSome →
    0 < s.nxSecureTlsProtection

/-- **Set-up and tear-down**, at a call: what is deregistered and released, and what is left at the
end of a wake-up whose calls to the driver have all succeeded. -/
structure Proper (o : TlsOp) (h : TlsHist) (s : TlsWorld) : Prop where
  deregisters : ∀ i, o = .whdWifiDeregisterEventHandler i →
    (s.handlers i = some .tlsoeCallbackHandler ↔ (activations h).latest.isSome)
  releases : o = .txMutexPut → (activations h).latest.isSome → 0 < s.nxSecureTlsProtection
  cleans : o = .nextNotification → (activations h).note = some .awake →
    (activations h).whdFailed = false →
      ((∀ i, s.handlers i ≠ some .tlsoeCallbackHandler) ↔ (activations h).overtaken = ∅)

/-- Whether a call leaves the activations, the table and the TLS protection alone. -/
abbrev isPlain : TlsOp → Bool
  | .nextNotification => false
  | .txMutexGet => false
  | .txMutexPut => false
  | .whdManagementSetEventHandler => false
  | .whdWifiDeregisterEventHandler _ => false
  | _ => true

/-- Whether something is asked of a call. -/
abbrev isAsked : TlsOp → Bool
  | .nextNotification => true
  | .txMutexPut => true
  | .whdWifiDeregisterEventHandler _ => true
  | _ => false

theorem proper_of_not_asked {o : TlsOp} (ho : isAsked o = false) (h : TlsHist) (s : TlsWorld) :
    Proper o h s :=
  ⟨fun _ e => (by subst e; cases ho), fun e => (by subst e; cases ho),
    fun e => (by subst e; cases ho)⟩

/-- Whether a call undoes what an activation has done. -/
abbrev isDisable : TlsOp → Bool
  | .txMutexPut => true
  | .whdWifiDeregisterEventHandler _ => true
  | _ => false

/-- Every run of the program is proper at its calls, and ends in `Q`. -/
def Undoes {α : Type} (Q : α → TlsHist → TlsWorld → Prop) (p : Tls α) (h : TlsHist)
    (s : TlsWorld) : Prop :=
  Safe tlsSem otherUser Proper Q p h s

section Rules

variable {α β : Type} {b : TlsBuild} {released : Bool} {note : Option OlPmSt} {h : TlsHist}
  {s : TlsWorld}

/-- Another user's step leaves the last activation as it is, or deregisters its index. -/
theorem otherUser_registered {e : OtherUser} {s s' : TlsWorld} (hs : Registered (activations h) s)
    (he : otherUser e s s') : Registered (activations (h ++ [.env e])) s' := by
  rw [activations_append]
  cases e with
  | register i f =>
      obtain ⟨hfree, rfl⟩ := he
      exact hs.other hfree
  | deregister i =>
      obtain rfl := he
      exact hs.deregister i

theorem next_env (e : OtherUser) (k : Activations) : (k.next (.env e)).note = k.note ∧
    (k.next (.env e)).whdFailed = k.whdFailed ∧
      (k.latest = none → (k.next (.env e)).latest = none) := by
  cases e with
  | register i f => exact ⟨rfl, rfl, fun hl => hl⟩
  | deregister i => exact ⟨rfl, rfl, fun hl => by simp [Activations.deregister, hl]⟩

theorem otherUser_entry {e : OtherUser} {s s' : TlsWorld} (he : otherUser e s s') :
    s'.tlsoeOffloadUpdateEntry = s.tlsoeOffloadUpdateEntry := by
  cases e with
  | register i f => exact he.2 ▸ rfl
  | deregister i => exact he ▸ rfl

theorem otherUser_protection {e : OtherUser} {s s' : TlsWorld} (he : otherUser e s s') :
    s'.nxSecureTlsProtection = s.nxSecureTlsProtection := by
  cases e with
  | register i f => exact he.2 ▸ rfl
  | deregister i => exact he ▸ rfl

theorem stable_at (b : TlsBuild) (released : Bool) (note : Option OlPmSt) :
    Stable otherUser (At b released note) := by
  rintro e h s s' ⟨hnote, hreg, hheld⟩ he
  obtain ⟨hnote', -, hl⟩ := next_env e (activations h)
  refine ⟨?_, otherUser_registered hreg he, fun hst hrel hsome => ?_⟩
  · rw [activations_append, hnote', hnote]
  · rw [otherUser_protection he]
    refine hheld hst hrel ?_
    rw [activations_append] at hsome
    cases hlat : (activations h).latest with
    | none =>
        rw [hl hlat] at hsome
        cases hsome
    | some i => rfl

theorem next_plain {o : TlsOp} (ho : isPlain o) (k : Activations) (r : TlsRes o) :
    (k.next (.call o r)).note = k.note ∧ (k.next (.call o r)).latest = k.latest ∧
      (k.next (.call o r)).overtaken = k.overtaken := by
  cases o <;> first | exact ⟨rfl, rfl, rfl⟩ | cases ho

/-- A plain call. -/
theorem At.plain {o : TlsOp} {r : TlsRes o} {s' : TlsWorld} (ho : isPlain o)
    (hat : At b released note h s) (hs : tlsSem o s r s') :
    At b released note (h ++ [.call o r]) s' := by
  obtain ⟨hnote, hlatest, hovertaken⟩ := next_plain ho (activations h) r
  obtain rfl : s' = s := by
    cases o with
    | tlsoeOffloadUpdateEntry => exact hs.2
    | nextNotification => cases ho
    | txMutexGet => cases ho
    | txMutexPut => cases ho
    | whdManagementSetEventHandler => cases ho
    | whdWifiDeregisterEventHandler i => cases ho
    | _ => exact hs
  refine ⟨?_, ⟨?_, ?_, ?_⟩, ?_⟩ <;> rw [activations_append]
  · rw [hnote, hat.note]
  · rw [hlatest]
    exact hat.registered.latest
  · rw [hlatest, hovertaken]
    exact hat.registered.handlers
  · rw [hovertaken]
    exact hat.registered.kept
  · rw [hlatest]
    exact hat.held

theorem Undoes.ret {x : α} (hat : At b released note h s) :
    Undoes (fun _ => At b released note) (.ret x) h s :=
  Safe.ret (stable_at b released note) hat

theorem Undoes.bind {Q : β → TlsHist → TlsWorld → Prop} {p : Tls α} {g : α → Tls β}
    (R : α → TlsHist → TlsWorld → Prop) (hp : Undoes R p h s)
    (hg : ∀ x h s, R x h s → Undoes Q (g x) h s) : Undoes Q (p.bind g) h s :=
  Safe.bind R hp hg

theorem Undoes.plain {p : Tls α} (hp : p.Calls (isPlain · = true))
    (hat : At b released note h s) : Undoes (fun _ => At b released note) p h s :=
  Safe.frame hp (stable_at b released note)
    (fun o h s ho _ => proper_of_not_asked (by cases o <;> first | rfl | cases ho) h s)
    (fun _ _ _ _ _ ho hat hs => hat.plain ho hs) hat

end Rules

/-! ### A connection -/

section Connection

variable {b : TlsBuild} {released : Bool} {note : Option OlPmSt} {h : TlsHist} {s : TlsWorld}

theorem whdTlsoeSetWowlPattern_plain (bits : WowlBits) (port : CyTlsoeOlConnect) :
    (whdTlsoeSetWowlPattern bits port).Calls (isPlain · = true) := by
  simp [whdTlsoeSetWowlPattern, setMissingCap]

theorem whdTlsoeDelWowlPattern_plain (port : CyTlsoeOlConnect) :
    (whdTlsoeDelWowlPattern port).Calls (isPlain · = true) := by
  simp [whdTlsoeDelWowlPattern]

/-- **Registering the handler**: with NetX Duo, the TLS protection is held from then on. -/
theorem registerHandler_undoes (hat : At b false note h s) :
    Undoes (fun _ => At b false note) (registerHandler b.stack) h s := by
  have register : ∀ {h s}, At b false note h s →
      (b.stack = .netxduo → 0 < s.nxSecureTlsProtection) →
        Undoes (fun _ => At b false note) (.call .whdManagementSetEventHandler fun _ => .ret ())
          h s := by
    intro h s hat hheld
    refine Safe.call
      (fun h s => At b false note h s ∧ (b.stack = .netxduo → 0 < s.nxSecureTlsProtection))
      ?_ ⟨hat, hheld⟩ (fun h s _ => proper_of_not_asked rfl h s) ?_
    · rintro e h s s' ⟨hat, hheld⟩ he
      refine ⟨stable_at b false note e h s s' hat he, fun hst => ?_⟩
      rw [otherUser_protection he]
      exact hheld hst
    · rintro h s i _ ⟨⟨hnote, hreg, -⟩, hheld⟩ ⟨hfree, rfl⟩
      refine Undoes.ret (?_ : At b false note _ _)
      refine ⟨?_, ?_, fun hst _ _ => hheld hst⟩ <;> rw [activations_append]
      · exact hnote
      · exact hreg.register hfree
  unfold registerHandler Prog.when
  split
  · refine Safe.call (At b false note) (stable_at b false note) hat
      (fun h s _ => proper_of_not_asked rfl h s) ?_
    rintro h s _ _ ⟨hnote, hreg, -⟩ ⟨rfl, rfl⟩
    refine register ⟨?_, ?_, fun _ _ _ => Nat.succ_pos _⟩ fun _ => Nat.succ_pos _ <;>
      rw [activations_append]
    · exact hnote
    · exact ⟨hreg.latest, hreg.handlers, hreg.kept⟩
  · rename_i hst
    exact register hat fun hst' => absurd hst' hst

/-- **An activation** registers the handler or, where something fails, changes nothing. -/
theorem whdTlsoeActivate_undoes (port : CyTlsoeOlConnect) (hat : At b false note h s) :
    Undoes (fun _ => At b false note) (whdTlsoeActivate b port) h s := by
  refine (Undoes.plain ((Prog.calls_op _).mpr rfl) hat).bind _ fun result h s hat => ?_
  split
  · exact Undoes.ret hat
  refine (Undoes.plain ((Prog.calls_op _).mpr rfl) hat).bind _ fun result h s hat => ?_
  split
  · exact Undoes.ret hat
  refine (Undoes.plain (by simp [destinationMac]) hat).bind _ fun result h s hat => ?_
  split
  · exact Undoes.ret hat
  refine (Undoes.plain ((Prog.calls_op _).mpr rfl) hat).bind _ fun result h s hat => ?_
  split
  · exact Undoes.ret hat
  refine (Undoes.plain ((Prog.calls_op _).mpr rfl) hat).bind _ fun result h s hat => ?_
  split
  · exact Undoes.ret hat
  exact (registerHandler_undoes hat).bind _ fun _ h s hat => Undoes.ret hat

theorem sleepConnection_undoes (port : CyTlsoeOlConnect) (hat : At b false note h s) :
    Undoes (fun _ => At b false note) (sleepConnection b port) h s := by
  refine (Undoes.plain (whdTlsoeSetWowlPattern_plain b.bits port) hat).bind _
    fun result h s hat => ?_
  unfold Prog.when
  split
  · refine (whdTlsoeActivate_undoes port hat).bind _ fun result h s hat => ?_
    refine Undoes.plain ?_ hat
    split
    · exact (whdTlsoeDelWowlPattern_plain port).bind fun _ => trivial
    · trivial
  · exact Undoes.ret hat

/-- After a disable nothing is left of the last activation. -/
structure Disabled (b : TlsBuild) (note : Option OlPmSt) (h : TlsHist) (s : TlsWorld) : Prop where
  at_ : At b false note h s
  latest : (activations h).latest = none

theorem stable_disabled (b : TlsBuild) (note : Option OlPmSt) :
    Stable otherUser (Disabled b note) := by
  rintro e h s s' ⟨hat, hl⟩ he
  refine ⟨stable_at b false note e h s s' hat he, ?_⟩
  rw [activations_append]
  exact (next_env e _).2.2 hl

/-- **The deregistration** of the index the offload has kept. -/
theorem deregister_undoes {ret : UInt32} {entry : UInt16} (hat : At b true note h s)
    (hentry : s.tlsoeOffloadUpdateEntry = entry) :
    Undoes (fun _ => Disabled b note)
      (.call (.whdWifiDeregisterEventHandler entry) fun _ => .ret ret) h s := by
  refine Safe.call (fun h s => At b true note h s ∧ s.tlsoeOffloadUpdateEntry = entry) ?_
    ⟨hat, hentry⟩ ?_ ?_
  · rintro e h s s' ⟨hat, hentry⟩ he
    exact ⟨stable_at b true note e h s s' hat he, (otherUser_entry he).trans hentry⟩
  · rintro h s ⟨hat, rfl⟩
    refine ⟨fun i e => ?_, fun e => (by cases e), fun e => (by cases e)⟩
    cases e
    exact hat.registered.entry_iff
  · rintro h s (r : UInt32) _ ⟨⟨hnote, hreg, -⟩, rfl⟩ rfl
    have hnext : activations (h ++ [.call (.whdWifiDeregisterEventHandler
        s.tlsoeOffloadUpdateEntry) r]) =
          ((activations h).deregister s.tlsoeOffloadUpdateEntry).whd r := activations_append _ _
    have hnone := deregister_entry hreg
    obtain ⟨hlatest, hhandlers, hkept⟩ := hreg.deregister s.tlsoeOffloadUpdateEntry
    refine Safe.ret (stable_disabled b note) ⟨⟨?_, ?_, fun _ _ hsome => ?_⟩, ?_⟩
    · rw [hnext]
      exact hnote
    · rw [hnext]
      exact ⟨hlatest, hhandlers, hkept⟩
    · rw [hnext, whd_latest, hnone] at hsome
      cases hsome
    · rw [hnext]
      exact hnone

/-- **A disable** releases and deregisters what the last activation has taken, if there is one. -/
theorem whdTlsoeDisable_undoes (port : CyTlsoeOlConnect) (hat : At b false note h s) :
    Undoes (fun _ => Disabled b note) (whdTlsoeDisable b port) h s := by
  have clear : ∀ {h s}, At b true note h s → Undoes (fun _ => Disabled b note)
      (.call .whdWowlClear fun ret => .call .tlsoeOffloadUpdateEntry fun entry =>
        .call (.whdWifiDeregisterEventHandler entry) fun _ => .ret ret) h s := by
    intro h s hat
    refine Safe.call (At b true note) (stable_at b true note) hat
      (fun h s _ => proper_of_not_asked rfl h s) fun h s ret s' hat hs => ?_
    refine Safe.call (At b true note) (stable_at b true note) (hat.plain rfl hs)
      (fun h s _ => proper_of_not_asked rfl h s) fun h s entry s' hat hs => ?_
    refine deregister_undoes (hat.plain rfl hs) ?_
    obtain ⟨rfl, rfl⟩ := hs
    rfl
  refine (Undoes.plain (by simp [restoreSocket]) hat).bind _ fun _ h s hat => ?_
  unfold Prog.when
  split
  · rename_i hst
    refine Safe.call (At b false note) (stable_at b false note) hat
      (fun h s hat => ⟨fun i e => (by cases e), fun _ => hat.held hst rfl,
        fun e => (by cases e)⟩) ?_
    rintro h s r _ ⟨hnote, hreg, -⟩ rfl
    refine clear ⟨?_, ?_, fun _ e => (by cases e)⟩ <;> rw [activations_append]
    · exact hnote
    · exact ⟨hreg.latest, hreg.handlers, hreg.kept⟩
  · exact clear ⟨hat.note, hat.registered, fun _ e => (by cases e)⟩

/-- After a connection has been woken up nothing is left of the last activation, unless a call to
the driver has failed. -/
structure Woken (b : TlsBuild) (note : Option OlPmSt) (h : TlsHist) (s : TlsWorld) : Prop where
  at_ : At b false note h s
  latest : (activations h).whdFailed = false → (activations h).latest = none

theorem stable_woken (b : TlsBuild) (note : Option OlPmSt) : Stable otherUser (Woken b note) := by
  rintro e h s s' ⟨hat, hl⟩ he
  refine ⟨stable_at b false note e h s s' hat he, fun hno => ?_⟩
  obtain ⟨-, hwhd, hnone⟩ := next_env e (activations h)
  rw [activations_append] at hno ⊢
  exact hnone (hl (hwhd ▸ hno))

theorem wakeConnection_undoes (port : CyTlsoeOlConnect) (hat : At b false note h s) :
    Undoes (fun _ => Woken b note) (wakeConnection b port) h s := by
  have disable : ∀ {h s}, At b false note h s → Undoes (fun _ => Woken b note)
      ((whdTlsoeDisable b port).bind fun _ => .ret ()) h s := fun hat =>
    (whdTlsoeDisable_undoes port hat).bind _ fun _ h s hd =>
      Safe.ret (stable_woken b note) ⟨hd.at_, fun _ => hd.latest⟩
  unfold wakeConnection whdTlsoeDelWowlPattern
  by_cases hlen : port.pattLen > 0
  · simp only [hlen, if_true, Prog.bind_eq]
    refine Safe.call (At b false note) (stable_at b false note) hat
      (fun h s _ => proper_of_not_asked rfl h s) fun h s (result : UInt32) s' hat hs => ?_
    have hat' := hat.plain rfl hs
    unfold Prog.when
    rw [Prog.ret_bind]
    split
    · exact disable hat'
    · rename_i hfail
      refine Safe.ret (stable_woken b note) ⟨hat', fun hno => ?_⟩
      rw [activations_append] at hno
      simp [Activations.whd, hfail] at hno
  · simp only [hlen, if_false]
    exact disable hat

end Connection

/-! ### Notifications -/

section Notifications

variable {b : TlsBuild} {note : Option OlPmSt} {h : TlsHist} {s : TlsWorld}

/-- What each connection keeps, all of them keep. -/
theorem forPorts_undoes {f : CyTlsoeOlConnect → Tls Unit} {I : TlsHist → TlsWorld → Prop}
    (hst : Stable otherUser I)
    (hf : ∀ port h s, I h s → Undoes (fun _ => I) (f port) h s) (ports : List CyTlsoeOlConnect)
    (hI : I h s) : Undoes (fun _ => I) (forPorts f ports) h s := by
  induction ports generalizing h s with
  | nil => exact Safe.ret hst hI
  | cons port ports ih => exact (hf port h s hI).bind _ fun _ h s hI => ih hI

/-- The connections a notification is about; there are none without a driver. -/
def connections (ports : List CyTlsoeOlConnect) : Option TlsoeOl → List CyTlsoeOlConnect
  | some { whd := some _ } => ports
  | _ => []

theorem cylpaTlsoeOlPm_eq (b : TlsBuild) (ports : List CyTlsoeOlConnect) (ctxt : Option TlsoeOl)
    (st : OlPmSt) : cylpaTlsoeOlPm b ports ctxt st =
      if st = .goingToSleep then forPorts (sleepConnection b) (connections ports ctxt)
      else forPorts (wakeConnection b) (connections ports ctxt) := by
  rcases ctxt with - | ⟨- | whd⟩
  · simp [cylpaTlsoeOlPm, connections, forPorts]
  · simp [cylpaTlsoeOlPm, connections, forPorts]
  · rfl

/-- Between two notifications: nothing is left of the last activation where there are no
connections, and after a wake-up whose calls to the driver have all succeeded. -/
structure Between (b : TlsBuild) (ports : List CyTlsoeOlConnect) (note : Option OlPmSt)
    (h : TlsHist) (s : TlsWorld) : Prop where
  at_ : At b false note h s
  idle : ports = [] → (activations h).latest = none
  woken : note = some .awake → (activations h).whdFailed = false → (activations h).latest = none

theorem stable_between (b : TlsBuild) (ports : List CyTlsoeOlConnect) (note : Option OlPmSt) :
    Stable otherUser (Between b ports note) := by
  rintro e h s s' ⟨hat, hidle, hwoken⟩ he
  obtain ⟨-, hwhd, hnone⟩ := next_env e (activations h)
  refine ⟨stable_at b false note e h s s' hat he, ?_, ?_⟩ <;> rw [activations_append]
  · exact fun hports => hnone (hidle hports)
  · exact fun hnote hno => hnone (hwoken hnote (hwhd ▸ hno))

/-- **A notification**, over its connections. -/
theorem ports_undoes (st : OlPmSt) (ports : List CyTlsoeOlConnect) (hat : At b false (some st) h s)
    (hidle : ports = [] → (activations h).latest = none) :
    Undoes (fun _ => Between b ports (some st))
      (if st = .goingToSleep then forPorts (sleepConnection b) ports
        else forPorts (wakeConnection b) ports) h s := by
  cases ports with
  | nil =>
      have hbetween : Between b [] (some st) h s := ⟨hat, hidle, fun _ _ => hidle rfl⟩
      split <;> exact Safe.ret (stable_between b [] (some st)) hbetween
  | cons port ports =>
      split
      · rename_i hsleep
        refine (forPorts_undoes (stable_at b false _)
          (fun port h s hat => sleepConnection_undoes port hat) _ hat).mono (fun _ _ _ hj => hj) ?_
        exact fun _ h s hat => ⟨hat, fun e => (by cases e), fun e => (by simp [hsleep] at e)⟩
      · refine Safe.mono (Q := fun _ => Woken b (some st)) ?_ (fun _ _ _ hj => hj) ?_
        · refine (wakeConnection_undoes port hat).bind _ fun _ h s hw => ?_
          exact forPorts_undoes (stable_woken b _)
            (fun port h s hw => wakeConnection_undoes port hw.at_) ports hw
        · exact fun _ h s hw => ⟨hw.at_, fun e => (by cases e), fun _ => hw.latest⟩

/-- **One notification after another.** -/
theorem notifications_undoes (ports : List CyTlsoeOlConnect) (ctxt : Option TlsoeOl)
    (hbetween : Between b (connections ports ctxt) note h s) :
    Undoes (fun _ _ _ => True) (notifications b ports ctxt) h s := by
  refine Safe.iter (fun h s => ∃ note, Between b (connections ports ctxt) note h s)
    (fun _ _ _ => True) ?_ ⟨note, hbetween⟩ ?_
    fun _ h s _ => Safe.ret (fun _ _ _ _ _ _ => trivial) trivial
  · rintro e h s s' ⟨note, hb⟩ he
    exact ⟨note, stable_between b _ note e h s s' hb he⟩
  · rintro h s ⟨note, hb⟩
    refine Safe.call (Between b (connections ports ctxt) note) (stable_between b _ note) hb ?_ ?_
    · intro h s hb
      refine ⟨fun i e => (by cases e), fun e => (by cases e), fun _ hnote hno => ?_⟩
      rw [hb.at_.note] at hnote
      exact hb.at_.registered.none_iff (hb.woken hnote hno)
    · rintro h s (st : OlPmSt) _ ⟨⟨-, hreg, hheld⟩, hidle, -⟩ rfl
      rw [Prog.ret_bind, cylpaTlsoeOlPm_eq]
      refine Safe.bind (fun _ => Between b (connections ports ctxt) (some st)) ?_
        fun _ h s hb => Safe.ret ?_ ⟨_, hb⟩
      · refine ports_undoes st _ ⟨?_, ?_, ?_⟩ ?_ <;> rw [activations_append]
        · rfl
        · exact ⟨hreg.latest, hreg.handlers, hreg.kept⟩
        · exact hheld
        · exact hidle
      · rintro e h s s' ⟨note, hb⟩ he
        exact ⟨note, stable_between b _ note e h s s' hb he⟩

end Notifications

/-! ### Runs -/

/-- A run of notifications, so far. -/
abbrev TlsRun := Prog.Config TlsOp TlsRes OtherUser TlsWorld Unit

/-- **The tear-down undoes the set-up and nothing else**, at the call `o`: what is deregistered is
the offload's, what is released is held, and after a wake-up whose calls to the driver have all
succeeded nothing of the offload's is registered. -/
structure UndoesSetUp (o : TlsOp) (h : TlsHist) (s : TlsWorld) : Prop where
  deregisters : ∀ i, o = .whdWifiDeregisterEventHandler i →
    s.handlers i = some .tlsoeCallbackHandler
  releases : o = .txMutexPut → 0 < s.nxSecureTlsProtection
  cleans : o = .nextNotification → (activations h).note = some .awake →
    (activations h).whdFailed = false → ∀ i, s.handlers i ≠ some .tlsoeCallbackHandler

/-- **In turn**, at the call `o`: a connection has been activated since the last disable and its
index not been deregistered by another user; and at the end of such a wake-up no index is still
registered that a later activation has overtaken. -/
structure InTurn (o : TlsOp) (h : TlsHist) : Prop where
  disables : isDisable o → (activations h).latest.isSome
  wakes : o = .nextNotification → (activations h).note = some .awake →
    (activations h).whdFailed = false → (activations h).overtaken = ∅

/-- **TLS offload teardown undoes its own set-up, and only that, exactly if** it comes in turn.
At any call in any run of notifications, whatever the calls answer and the other users do in
between: in turn, the tear-down undoes the set-up; and where it does, and the call is not the
release of the TLS protection that the deregistration is yet to follow, it is in turn. -/
theorem tlsoe_undoes (b : TlsBuild) (ports : List CyTlsoeOlConnect) (ctxt : Option TlsoeOl)
    (s₀ : TlsWorld) (hnone : ∀ i, s₀.handlers i ≠ some .tlsoeCallbackHandler) (c : TlsRun)
    (hrun : Reach tlsSem otherUser ⟨notifications b ports ctxt, [], s₀⟩ c) (o : TlsOp)
    (k : TlsRes o → Tls Unit) (hcall : c.prog = .call o k) :
    (InTurn o c.hist → UndoesSetUp o c.hist c.st) ∧
      (o ≠ .txMutexPut → UndoesSetUp o c.hist c.st → InTurn o c.hist) := by
  have hbetween : Between b (connections ports ctxt) none [] s₀ :=
    ⟨⟨rfl, ⟨fun i e => (by cases e), fun i => by simp [hnone i, activations],
      by simp [activations]⟩, fun _ _ e => (by cases e)⟩, fun _ => rfl, fun e => (by cases e)⟩
  obtain ⟨hdereg, hput, hclean⟩ := (notifications_undoes ports ctxt hbetween c hrun).1 o k hcall
  constructor
  · rintro ⟨hdis, hwake⟩
    refine ⟨fun i e => (hdereg i e).mpr (hdis ?_), fun e => hput e (hdis ?_),
      fun e hnote hno => (hclean e hnote hno).mpr (hwake e hnote hno)⟩
    · subst e
      rfl
    · subst e
      rfl
  · rintro hne ⟨hdis, -, hwake⟩
    refine ⟨fun ho => ?_, fun e hnote hno => (hclean e hnote hno).mp (hwake e hnote hno)⟩
    cases o with
    | whdWifiDeregisterEventHandler i => exact (hdereg i rfl).mp (hdis i rfl)
    | txMutexPut => exact absurd rfl hne
    | _ => cases ho

/-- The usual answers: every notification is `st`, every call succeeds, the handler is registered
at index 3. -/
def tlsUsual (st : OlPmSt) : (o : TlsOp) → TlsHist → TlsWorld → TlsRes o × TlsWorld
  | .nextNotification, _, s => (st, s)
  | .whdGetWowlCap, _, s => ((whdResultSuccess, 0), s)
  | .findMacAddr, _, s => (true, s)
  | .txMutexGet, _, s =>
      (txSuccess, { s with nxSecureTlsProtection := s.nxSecureTlsProtection + 1 })
  | .txMutexPut, _, s =>
      (txSuccess, { s with nxSecureTlsProtection := s.nxSecureTlsProtection - 1 })
  | .whdManagementSetEventHandler, _, s =>
      (3, { s.setHandler 3 (some .tlsoeCallbackHandler) with tlsoeOffloadUpdateEntry := 3 })
  | .tlsoeOffloadUpdateEntry, _, s => (s.tlsoeOffloadUpdateEntry, s)
  | .whdWifiDeregisterEventHandler i, _, s => (whdResultSuccess, s.setHandler i none)
  | .whdSetWowlCap _, _, s => (whdResultSuccess, s)
  | .whdSetWowlPattern _ _, _, s => (whdResultSuccess, s)
  | .whdTlsoeGetSockStats _ _ _, _, s => (whdResultSuccess, s)
  | .whdWifiGetMacAddress, _, s => (whdResultSuccess, s)
  | .cyWcmGetGatewayMacAddress, _, s => (whdResultSuccess, s)
  | .cySocketGetTlsInfo _, _, s => (whdResultSuccess, s)
  | .whdWowlActivateSecure _, _, s => (whdResultSuccess, s)
  | .whdWowlGetSecureSessionStatus, _, s => (whdResultSuccess, s)
  | .cySocketUpdateTlsSequence _, _, s => (whdResultSuccess, s)
  | .whdTlsoeUpdateSockSeq _ _ _, _, s => (whdResultSuccess, s)
  | .whdWowlClear, _, s => (whdResultSuccess, s)

/-- Index 3 is free when it is given. -/
def tlsLegal : TlsOp → TlsWorld → Bool
  | .whdManagementSetEventHandler, s => (s.handlers 3).isNone
  | _, _ => true

theorem tlsUsual_answers (st : OlPmSt) (o : TlsOp) (h : TlsHist) (s : TlsWorld)
    (ho : tlsLegal o s) : tlsSem o s (tlsUsual st o h s).1 (tlsUsual st o h s).2 := by
  cases o with
  | whdManagementSetEventHandler => exact ⟨Option.isNone_iff_eq_none.mp ho, rfl⟩
  | txMutexGet => exact ⟨rfl, rfl⟩
  | tlsoeOffloadUpdateEntry => exact ⟨rfl, rfl⟩
  | _ => rfl

/-- A NetX Duo build with one connection. -/
def oneConnection : TlsRun :=
  ⟨notifications ⟨.netxduo, ⟨1, 2⟩, 5, by decide⟩
    [⟨20, 49152, 8883, "192.168.1.2", 1, 2, [0x30, 0x31]⟩] (some ⟨some 1⟩), [], .boot⟩

/-- Going to sleep and waking up. -/
theorem tlsoe_undoes_one : ∃ c : TlsRun, Reach tlsSem otherUser oneConnection c ∧
    (activations c.hist).note = some .awake ∧ (activations c.hist).whdFailed = false ∧
      UndoesSetUp .nextNotification c.hist c.st := by
  have hrun : Reach tlsSem otherUser oneConnection _ :=
    (Prog.reach_exec_of_legal (tlsUsual_answers .goingToSleep) 13 _ (by decide)).trans
      (Prog.reach_exec_of_legal (tlsUsual_answers .awake) 10 _ (by decide))
  refine ⟨_, hrun, by decide, by decide, ?_⟩
  exact (tlsoe_undoes _ _ _ _ (fun _ => by simp [TlsWorld.boot]) _ hrun .nextNotification _ rfl).1
    ⟨fun e => (by cases e), fun _ _ _ => by decide⟩

/-- What another user does, as a step. -/
def otherReact : OtherUser → TlsWorld → TlsWorld
  | .register i h, s => s.setHandler i (some (.other h))
  | .deregister i, s => s.setHandler i none

/-- Woken up before anything has been activated, the offload deregisters what another user has
registered at the index its variable starts with. -/
theorem tlsoe_not_undoes :
    ¬ ∀ (b : TlsBuild) (ports : List CyTlsoeOlConnect) (ctxt : Option TlsoeOl) (s₀ : TlsWorld)
      (c : TlsRun) (o : TlsOp) (k : TlsRes o → Tls Unit),
      (∀ i, s₀.handlers i ≠ some .tlsoeCallbackHandler) →
      Reach tlsSem otherUser ⟨notifications b ports ctxt, [], s₀⟩ c → c.prog = .call o k →
      UndoesSetUp o c.hist c.st := by
  intro hall
  have hother : Reach tlsSem otherUser oneConnection
      (oneConnection.disturb otherReact (.register 0xff 1)) := Prog.reach_disturb ⟨rfl, rfl⟩
  have hrun := hother.trans
    (Prog.reach_exec_of_legal (tlsUsual_answers .awake) 9 _ (by decide))
  have hown := (hall _ _ _ _ _ (.whdWifiDeregisterEventHandler 0xff) _
    (fun _ => by simp [TlsWorld.boot]) hrun rfl).deregisters _ rfl
  exact absurd hown (by decide)

end Lpa.Tlsoe
