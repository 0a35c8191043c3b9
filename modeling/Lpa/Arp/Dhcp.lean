import Lpa.Arp.Work

/-!
# ARP — the tries for an address

While there is no address but the WLAN is ready, each run of the work starts the timer for another
one, until `cy_dhcp_retry_count` is used up.  The count is set back by a run that finds an address
and by nothing else: an initialisation goes on with what is left of it.

* `startedTimers_after_failures`: how often failing runs in a row start the timer.
* `freshTries_iff`: an initialisation is followed by all the tries exactly if none has been used
  since the last address was found; a run that finds an address always is.
-/

namespace Lpa

/-- What happens to the offload: it is initialised, deinitialised, told of the power mode or of an
IP change, or its work runs. -/
inductive DhcpEvent where
  | init (cfg : ArpOlCfg)
  | deinit
  | pm (st : OlPmSt)
  | ipChange
  | work (a : IpChangeAnswers)
deriving DecidableEq, Repr

/-- One event. -/
def dhcpStep (olInfo : OlInfo) (w : ArpWorld) : DhcpEvent → Option ArpWorld
  | .init cfg => (cylpaArpOlInit (some olInfo) (some cfg) w).map Prod.snd
  | .deinit => cylpaArpOlDeinit olInfo w
  | .pm st => cylpaArpOlPm olInfo w st
  | .ipChange => some (cylpaArpOlNwIpChangeCallback olInfo (some arpOlHandle) w)
  | .work a => some (cylpaArpOlNwIpChangeWork a w).1

/-- The history of the offload from boot. -/
def dhcpRun (olInfo : OlInfo) (es : List DhcpEvent) : Option ArpWorld :=
  es.foldlM (dhcpStep olInfo) .boot

/-! ### Failing runs in a row -/

/-- A run that finds no address while the WLAN is ready. -/
def IpChangeAnswers.Fails (a : IpChangeAnswers) : Prop := a.address = none ∧ a.Ready

instance (a : IpChangeAnswers) : Decidable a.Fails := inferInstanceAs (Decidable (_ ∧ _))

/-- The world after some runs of the work. -/
def afterWork (w : ArpWorld) (as : List IpChangeAnswers) : ArpWorld :=
  as.foldl (fun w a => (cylpaArpOlNwIpChangeWork a w).1) w

/-- How often the timer has been started for another try. -/
def startedTimers (w : ArpWorld) : ℕ := w.calls.count (.startTimer cyArpolDelayForDhcpMs)

/-- **All the tries are there**: failing runs in a row start the timer until
`CY_ARPOL_DHCP_RETRY_COUNT - 1` of them have, and no more. -/
def FreshTries (w : ArpWorld) : Prop :=
  ∀ as : List IpChangeAnswers, (∀ a ∈ as, a.Fails) →
    startedTimers (afterWork w as) =
      startedTimers w + min as.length (cyArpolDhcpRetryCount - 1).toNat

section Failing

variable {w : ArpWorld} {arpOl : ArpOl} {as : List IpChangeAnswers}

/-- **Failing runs in a row** start the timer as long as the count lasts. -/
theorem startedTimers_after_failures (hol : w.ol = some arpOl) (hptr : arpOl.olInfoPtr = true)
    (has : ∀ a ∈ as, a.Fails) : startedTimers (afterWork w as) =
      startedTimers w + min as.length (w.dhcpRetryCount - 1).toNat := by
  induction as generalizing w arpOl with
  | nil => simp [afterWork]
  | cons a as ih =>
      obtain ⟨ha, hready⟩ := has a List.mem_cons_self
      have hwork := cylpaArpOlNwIpChangeWork_none hol hptr ha
      simp only [hready, true_and, ↓reduceIte] at hwork
      have hrest := ih (w := (cylpaArpOlNwIpChangeWork a w).1)
        (cylpaArpOlNwIpChangeWork_ol hol hptr) hptr fun a ha => has a (List.mem_cons_of_mem _ ha)
      have hcount : (cylpaArpOlNwIpChangeWork a w).1.dhcpRetryCount = w.dhcpRetryCount - 1 := by
        rw [hwork]
      have hstarted : startedTimers (cylpaArpOlNwIpChangeWork a w).1 =
          startedTimers w + if w.dhcpRetryCount - 1 > 0 then 1 else 0 := by
        rw [hwork, startedTimers, startedTimers, List.count_append]
        split <;> simp
      change startedTimers (afterWork (cylpaArpOlNwIpChangeWork a w).1 as) = _
      rw [hrest, hcount, hstarted, List.length_cons]
      split <;> omega

/-- All the tries are there exactly if the count is what it is at boot, or more. -/
theorem freshTries_iff_count (hol : w.ol = some arpOl) (hptr : arpOl.olInfoPtr = true) :
    FreshTries w ↔ w.dhcpRetryCount = cyArpolDhcpRetryCount := by
  refine ⟨fun h => ?_, fun h as has => ?_⟩
  · -- one run more than the tries tells too small a count and too large a one
    have hfail : ∀ a ∈ List.replicate 25 (IpChangeAnswers.lost true), a.Fails := fun a ha => by
      rw [List.eq_of_mem_replicate ha]
      decide
    have := h _ hfail
    rw [startedTimers_after_failures hol hptr hfail, List.length_replicate] at this
    simp only [cyArpolDhcpRetryCount] at this ⊢
    omega
  · rw [startedTimers_after_failures hol hptr has, h]

end Failing

/-! ### Histories -/

/-- What a history has to do with the tries: whether the offload has been initialised, and the
tries used since the last address was found. -/
structure DhcpTries where
  initialized : Bool
  used : ℕ

def DhcpTries.next (k : DhcpTries) : DhcpEvent → DhcpTries
  | .init _ => { k with initialized := true }
  | .work a =>
      if k.initialized = false then k
      else if a.address ≠ none then { k with used := 0 }
      else if a.Ready then { k with used := k.used + 1 }
      else k
  | _ => k

/-- The tries after a history from boot. -/
def dhcpTries (es : List DhcpEvent) : DhcpTries := es.foldl DhcpTries.next ⟨false, 0⟩

@[simp] theorem dhcpTries_append (es : List DhcpEvent) (e : DhcpEvent) :
    dhcpTries (es ++ [e]) = (dhcpTries es).next e := by
  simp [dhcpTries]

/-- The count is what the tries have left of it. -/
structure DhcpTries.Inv (k : DhcpTries) (w : ArpWorld) : Prop where
  ol : ∃ arpOl, w.ol = some arpOl ∧ arpOl.olInfoPtr = k.initialized
  count : w.dhcpRetryCount = cyArpolDhcpRetryCount - k.used

section Histories

variable {olInfo : OlInfo} {k : DhcpTries} {w w' : ArpWorld} {e : DhcpEvent} {es : List DhcpEvent}

theorem DhcpTries.inv_boot : Inv ⟨false, 0⟩ .boot := ⟨⟨.cleared, rfl, rfl⟩, by simp [ArpWorld.boot]⟩

/-- **One event** uses up no more of the count than `next` says. -/
theorem DhcpTries.Inv.step (h : k.Inv w) (hstep : dhcpStep olInfo w e = some w') :
    (k.next e).Inv w' := by
  obtain ⟨⟨arpOl, hol, hptr⟩, hcount⟩ := h
  cases e with
  | init cfg =>
      obtain ⟨⟨r, w₁⟩, hinit, rfl⟩ := Option.map_eq_some_iff.mp hstep
      obtain ⟨hkept, state, hol'⟩ := cylpaArpOlInit_state hol hinit
      exact ⟨⟨_, hol', rfl⟩, hkept.trans hcount⟩
  | deinit =>
      simp only [dhcpStep, cylpaArpOlDeinit, hol] at hstep
      split at hstep
      · cases hstep
      split at hstep
      · cases hstep
        exact ⟨⟨arpOl, hol, hptr⟩, hcount⟩
      · cases hstep
        exact ⟨⟨_, rfl, hptr⟩, hcount⟩
  | pm st =>
      obtain ⟨hkept, state, hol'⟩ := cylpaArpOlPm_state hol hstep
      exact ⟨⟨_, hol', hptr⟩, hkept.trans hcount⟩
  | ipChange =>
      simp only [dhcpStep, cylpaArpOlNwIpChangeCallback, hol, Option.some.injEq] at hstep
      split at hstep
      · cases hstep
        exact ⟨⟨arpOl, hol, hptr⟩, hcount⟩
      · cases hstep
        exact ⟨⟨arpOl, hol, hptr⟩, hcount⟩
  | work a =>
      cases hstep
      cases hinit : k.initialized with
      | false =>
          rw [hinit] at hptr
          simpa [DhcpTries.next, hinit, cylpaArpOlNwIpChangeWork, hol, hptr] using
            (⟨⟨arpOl, hol, hptr.trans hinit.symm⟩, hcount⟩ : k.Inv w)
      | true =>
          rw [hinit] at hptr
          have hol' := cylpaArpOlNwIpChangeWork_ol (a := a) hol hptr
          cases ha : a.address with
          | some addr =>
              rw [cylpaArpOlNwIpChangeWork_some hol hptr ha] at hol' ⊢
              simp only [DhcpTries.next, hinit, ha]
              exact ⟨⟨_, hol', hptr⟩, by simp⟩
          | none =>
              rw [cylpaArpOlNwIpChangeWork_none hol hptr ha] at hol' ⊢
              by_cases hready : a.Ready
              · simp only [DhcpTries.next, hinit, ha, hready]
                exact ⟨⟨_, hol', hptr⟩, by simp [hcount]; omega⟩
              · simp only [DhcpTries.next, hinit, ha, hready]
                exact ⟨⟨_, hol', hptr.trans hinit.symm⟩, by simp [hcount]⟩

/-- **Any history.** -/
theorem dhcpTries_inv (hrun : dhcpRun olInfo es = some w) : (dhcpTries es).Inv w := by
  induction es using List.reverseRecOn generalizing w with
  | nil =>
      cases hrun
      exact DhcpTries.inv_boot
  | append_singleton es e ih =>
      rw [dhcpRun, List.foldlM_append] at hrun
      obtain ⟨w₁, hw₁, hlast⟩ := Option.bind_eq_some_iff.mp hrun
      rw [List.foldlM_cons] at hlast
      obtain ⟨w₂, he, hw₂⟩ := Option.bind_eq_some_iff.mp hlast
      cases hw₂
      rw [dhcpTries_append]
      exact (ih hw₁).step he

theorem exists_cylpaArpOlPm (olInfo : OlInfo) (st : OlPmSt)
    (h : ∃ arpOl, w.ol = some arpOl ∧ arpOl.olInfoPtr = true) :
    ∃ w', cylpaArpOlPm olInfo w st = some w' := by
  obtain ⟨arpOl, hol, hptr⟩ := h
  simp only [cylpaArpOlPm, hol, hptr, Bool.true_eq_false, if_false]
  split
  · exact ⟨w, rfl⟩
  split
  · exact ⟨w, rfl⟩
  cases arpOl.config with
  | none => exact ⟨w, rfl⟩
  | some config =>
      by_cases h : (if st = .awake then ArpOlConfigState.awake else .goingToSleep) = arpOl.state
      · exact ⟨w, if_pos h⟩
      · exact ⟨_, if_neg h⟩

/-- An initialisation succeeds whatever went before. -/
theorem exists_cylpaArpOlInit (olInfo : OlInfo) (cfg : ArpOlCfg) {arpOl : ArpOl}
    (hol : w.ol = some arpOl) :
    ∃ w', cylpaArpOlInit (some olInfo) (some cfg) w = some (resultOk, w') := by
  simp only [cylpaArpOlInit, hol]
  split
  · exact ⟨_, rfl⟩
  · exact (exists_cylpaArpOlPm olInfo .awake ⟨_, rfl, rfl⟩).imp fun w' hw' =>
      Option.map_eq_some_iff.mpr ⟨w', hw', rfl⟩

/-- **Initialising again gives all the tries** exactly if none has been used since the last address
was found; and a run of the work that finds an address gives them whatever went before. -/
theorem freshTries_iff (es : List DhcpEvent) (hrun : dhcpRun olInfo es = some w) :
    (∀ cfg, ∃ w', cylpaArpOlInit (some olInfo) (some cfg) w = some (resultOk, w') ∧
      (FreshTries w' ↔ (dhcpTries es).used = 0)) ∧
    ∀ a : IpChangeAnswers, (dhcpTries es).initialized = true → a.address ≠ none →
      FreshTries (cylpaArpOlNwIpChangeWork a w).1 := by
  have hinv := dhcpTries_inv hrun
  obtain ⟨arpOl, hol, hptr⟩ := hinv.ol
  refine ⟨fun cfg => ?_, fun a hinit ha => ?_⟩
  · obtain ⟨w', hw'⟩ := exists_cylpaArpOlInit olInfo cfg hol
    obtain ⟨hkept, state, hol'⟩ := cylpaArpOlInit_state hol hw'
    refine ⟨w', hw', ?_⟩
    rw [freshTries_iff_count hol' rfl, hkept, hinv.count]
    omega
  · rw [hinit] at hptr
    obtain ⟨addr, ha⟩ := Option.ne_none_iff_exists'.mp ha
    rw [freshTries_iff_count (cylpaArpOlNwIpChangeWork_ol hol hptr) hptr,
      cylpaArpOlNwIpChangeWork_some hol hptr ha]

end Histories

/-- A life of the offload in which two runs find no address. -/
def twoFailures : List DhcpEvent :=
  [.init ⟨1, 1, 60⟩, .ipChange, .work (.lost true), .work (.lost true), .deinit]

/-- One more, in which a run finds one. -/
def oneSuccess : List DhcpEvent := [.init ⟨1, 1, 60⟩, .work (.found 5), .deinit]

/-- After the failures an initialisation does not give all the tries, but a run that finds an
address does, and so does an initialisation after such a run. -/
theorem freshTries_twoFailures : ∃ w w' w₁ w₁',
    dhcpRun ⟨some 1, some 1, some 1, 0⟩ twoFailures = some w ∧
    cylpaArpOlInit (some ⟨some 1, some 1, some 1, 0⟩) (some ⟨1, 1, 60⟩) w = some (resultOk, w') ∧
    ¬ FreshTries w' ∧ FreshTries (cylpaArpOlNwIpChangeWork (.found 5) w).1 ∧
    dhcpRun ⟨some 1, some 1, some 1, 0⟩ (twoFailures ++ oneSuccess) = some w₁ ∧
    cylpaArpOlInit (some ⟨some 1, some 1, some 1, 0⟩) (some ⟨1, 1, 60⟩) w₁ =
      some (resultOk, w₁') ∧ FreshTries w₁' := by
  obtain ⟨hinit, hfound⟩ := @freshTries_iff ⟨some 1, some 1, some 1, 0⟩ _ twoFailures rfl
  obtain ⟨w', hw', hfresh⟩ := hinit ⟨1, 1, 60⟩
  obtain ⟨hinit₁, -⟩ := @freshTries_iff ⟨some 1, some 1, some 1, 0⟩ _
    (twoFailures ++ oneSuccess) rfl
  obtain ⟨w₁', hw₁', hfresh₁⟩ := hinit₁ ⟨1, 1, 60⟩
  exact ⟨_, w', _, w₁', rfl, hw', mt hfresh.mp (by decide), hfound _ rfl (by decide), rfl, hw₁',
    hfresh₁.mpr rfl⟩

/-- An initialisation after twenty-five failing runs gives no try at all: the next failing run does
not start the timer. -/
theorem exhausted_after_reinit :
    ∃ w w', dhcpRun ⟨some 1, some 1, some 1, 0⟩
        (.init ⟨1, 1, 60⟩ :: List.replicate 25 (.work (.lost true)) ++ [.deinit]) = some w ∧
      cylpaArpOlInit (some ⟨some 1, some 1, some 1, 0⟩) (some ⟨1, 1, 60⟩) w =
        some (resultOk, w') ∧
      startedTimers (afterWork w' [.lost true]) = startedTimers w' ∧ ¬ FreshTries w' :=
  ⟨_, _, rfl, rfl, by decide, fun h => absurd (h [.lost true] (by decide)) (by decide)⟩

end Lpa
