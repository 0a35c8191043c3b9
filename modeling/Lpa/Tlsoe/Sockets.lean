import Lpa.Keepalive.TkoPacket

/-!
# Tlsoe — the sockets of the two network stacks

`whd_tlsoe_get_sock_stats` finds the socket of a connection when it is offloaded, and
`whd_tlsoe_update_sock_seq` is to write the numbers the firmware has got to back into it.  Both are
written twice, over the lists of LWIP and over the created sockets of NetX Duo; the writer over
NetX Duo does not move on from the first socket.

* `Lwip.resynced`: over LWIP the writer finds the socket the reader finds.
* `Netxduo.updateLoop_cons`: over NetX Duo it finds the first one, or none.
* `Netxduo.resynced_iff`: it is the reader's exactly if that is the first one, up to numbers that
  are there already.
-/

namespace Lpa

/-- What a connection is known by: the ports and the address the other end has been given as. -/
structure SockKey where
  localPort : UInt16
  remotePort : UInt16
  remoteIp : String
deriving DecidableEq, Repr

/-- The socket is read again: what had been read of it, but for the numbers. -/
structure SockSeq.Resynced (seqNum ackNum : UInt32) (seq seq' : SockSeq) : Prop where
  srcip : seq'.srcip = seq.srcip
  dstip : seq'.dstip = seq.dstip
  srcport : seq'.srcport = seq.srcport
  dstport : seq'.dstport = seq.dstport
  rxWindow : seq'.rxWindow = seq.rxWindow
  seqnum : seq'.seqnum = seqNum
  acknum : seq'.acknum = ackNum

/-! ### LWIP -/

/-- `enum tcp_state`. -/
inductive TcpState
  | closed
  | listen
  | synSent
  | synRcvd
  | established
  | finWait1
  | finWait2
  | closeWait
  | closing
  | lastAck
  | timeWait
deriving DecidableEq, Repr

/-- `struct tcp_pcb`. -/
structure TcpPcb where
  localIp : UInt32
  remoteIp : UInt32
  localPort : UInt16
  remotePort : UInt16
  state : TcpState
  rcvNxt : UInt32
  rcvWnd : UInt32
  lastack : UInt32
  sndNxt : UInt32
  sndWl2 : UInt32
  sndLbb : UInt32
deriving DecidableEq, Repr

/-- `tcp_bound_pcbs`, `tcp_active_pcbs` and `tcp_tw_pcbs`. -/
structure TcpPcbLists where
  bound : List TcpPcb
  active : List TcpPcb
  tw : List TcpPcb
deriving DecidableEq, Repr

namespace Lwip

section Lists

variable (aton : String → UInt32) (key : SockKey)

/-- The test of both functions; `aton` is `ip4addr_aton`. -/
def HasKey (list : TcpPcb) : Prop :=
  list.localPort = key.localPort ∧ list.remotePort = key.remotePort ∧
    list.remoteIp = aton key.remoteIp

instance : DecidablePred (HasKey aton key) := fun _ => inferInstanceAs (Decidable (_ ∧ _ ∧ _))

/-- What `whd_tlsoe_get_sock_stats` writes of a socket into `*seq`. -/
def stats (seq : SockSeq) (list : TcpPcb) : SockSeq :=
  { seq with
    srcip := list.localIp
    dstip := list.remoteIp
    srcport := list.localPort
    dstport := list.remotePort
    seqnum := list.sndNxt
    acknum := list.rcvNxt
    rxWindow := list.rcvWnd.toUInt16 }

/-- One of the lists, from `list` on. -/
def findInList : List TcpPcb → Option TcpPcb
  | [] => none
  | list :: next => if HasKey aton key list then some list else findInList next

/-- The lists one after another. -/
def findPcb (pcbs : TcpPcbLists) : Option TcpPcb :=
  findInList aton key pcbs.bound <|> findInList aton key pcbs.active <|>
    findInList aton key pcbs.tw

/-- `whd_tlsoe_get_sock_stats`; nothing is what `1` stands for. -/
def whdTlsoeGetSockStats (pcbs : TcpPcbLists) (seq : SockSeq) : Option SockSeq :=
  (findPcb aton key pcbs).map (stats seq)

/-- What `whd_tlsoe_update_sock_seq` writes into a socket. -/
def resync (seqNum ackNum : UInt32) (reset : UInt8) (list : TcpPcb) : TcpPcb :=
  { list with
    sndNxt := seqNum
    lastack := seqNum
    sndWl2 := seqNum
    sndLbb := seqNum
    rcvNxt := ackNum
    state := if reset ≠ 0 then .finWait2 else list.state }

variable (seqNum ackNum : UInt32) (reset : UInt8)

/-- One of the lists, if the function returns from it. -/
def updateInList : List TcpPcb → Option (List TcpPcb)
  | [] => none
  | list :: next =>
    if HasKey aton key list then some (resync seqNum ackNum reset list :: next)
    else (updateInList next).map (list :: ·)

/-- `whd_tlsoe_update_sock_seq`. -/
def whdTlsoeUpdateSockSeq (pcbs : TcpPcbLists) : TcpPcbLists :=
  ((updateInList aton key seqNum ackNum reset pcbs.bound).map ({ pcbs with bound := · }) <|>
    (updateInList aton key seqNum ackNum reset pcbs.active).map ({ pcbs with active := · }) <|>
    (updateInList aton key seqNum ackNum reset pcbs.tw).map ({ pcbs with tw := · })).getD pcbs

end Lists

variable {aton : String → UInt32} {key : SockKey} {seqNum ackNum : UInt32} {reset : UInt8}

/-- The sockets that have not the key are as they were. -/
def Others (aton : String → UInt32) (key : SockKey) : List TcpPcb → List TcpPcb → Prop :=
  List.Forall₂ fun list list' => ¬ HasKey aton key list → list' = list

theorem others_refl (lists : List TcpPcb) : Others aton key lists lists :=
  List.forall₂_same.mpr fun _ _ _ => rfl

theorem updateInList_eq_none {lists : List TcpPcb} :
    updateInList aton key seqNum ackNum reset lists = none ↔ findInList aton key lists = none := by
  induction lists with
  | nil => exact iff_of_true rfl rfl
  | cons list next ih =>
      rw [updateInList, findInList]
      split
      · exact iff_of_false (Option.some_ne_none _) (Option.some_ne_none _)
      · rw [Option.map_eq_none_iff, ih]

/-- **In a list**, the socket that is written is the one that is found, and is found again. -/
theorem updateInList_eq_some {lists lists' : List TcpPcb}
    (h : updateInList aton key seqNum ackNum reset lists = some lists') :
    ∃ list, findInList aton key lists = some list ∧
      findInList aton key lists' = some (resync seqNum ackNum reset list) ∧
      Others aton key lists lists' := by
  induction lists generalizing lists' with
  | nil => cases h
  | cons list next ih =>
      rw [updateInList] at h
      split at h
      · rename_i hkey
        cases h
        refine ⟨list, if_pos hkey, if_pos hkey, .cons (fun hne => absurd hkey hne) ?_⟩
        exact others_refl next
      · rename_i hkey
        obtain ⟨next', hnext, rfl⟩ := Option.map_eq_some_iff.mp h
        obtain ⟨found, hfound, hfound', hothers⟩ := ih hnext
        refine ⟨found, ?_, ?_, .cons (fun _ => rfl) hothers⟩
        · rw [findInList, if_neg hkey, hfound]
        · rw [findInList, if_neg hkey, hfound']

/-- **A socket is resynced** over LWIP: a second reader reads the numbers that were written, and
the other sockets are as they were. -/
structure Resynced (aton : String → UInt32) (key : SockKey) (seqNum ackNum : UInt32)
    (pcbs pcbs' : TcpPcbLists) : Prop where
  found (before before' seq : SockSeq) :
    whdTlsoeGetSockStats aton key pcbs before = some seq →
      ∃ seq', whdTlsoeGetSockStats aton key pcbs' before' = some seq' ∧
        seq.Resynced seqNum ackNum seq'
  bound : Others aton key pcbs.bound pcbs'.bound
  active : Others aton key pcbs.active pcbs'.active
  tw : Others aton key pcbs.tw pcbs'.tw

/-- What is found is found again, written to, or nothing is found. -/
theorem resynced_found (reset : UInt8) {pcbs pcbs' : TcpPcbLists}
    (h : ∀ list, findPcb aton key pcbs = some list →
      findPcb aton key pcbs' = some (resync seqNum ackNum reset list))
    (before before' : SockSeq) {seq : SockSeq}
    (hseq : whdTlsoeGetSockStats aton key pcbs before = some seq) :
    ∃ seq', whdTlsoeGetSockStats aton key pcbs' before' = some seq' ∧
      seq.Resynced seqNum ackNum seq' := by
  obtain ⟨list, hlist, rfl⟩ := Option.map_eq_some_iff.mp hseq
  refine ⟨stats before' (resync seqNum ackNum reset list), ?_, rfl, rfl, rfl, rfl, rfl, rfl, rfl⟩
  rw [whdTlsoeGetSockStats, h list hlist, Option.map_some]

/-- **Over LWIP** the writer finds the socket the reader finds. -/
theorem resynced (pcbs : TcpPcbLists) : Resynced aton key seqNum ackNum pcbs
    (whdTlsoeUpdateSockSeq aton key seqNum ackNum reset pcbs) := by
  unfold whdTlsoeUpdateSockSeq
  -- a list is looked at only if nothing was found in those before it
  cases hbound : updateInList aton key seqNum ackNum reset pcbs.bound with
  | some bound =>
      obtain ⟨list, hfind, hfind', hothers⟩ := updateInList_eq_some hbound
      refine ⟨fun _ _ _ => resynced_found reset ?_ _ _, hothers, others_refl _, others_refl _⟩
      simp [findPcb, hfind, hfind']
  | none =>
  rw [updateInList_eq_none] at hbound
  cases hactive : updateInList aton key seqNum ackNum reset pcbs.active with
  | some active =>
      obtain ⟨list, hfind, hfind', hothers⟩ := updateInList_eq_some hactive
      refine ⟨fun _ _ _ => resynced_found reset ?_ _ _, others_refl _, hothers, others_refl _⟩
      simp [findPcb, hbound, hfind, hfind']
  | none =>
  rw [updateInList_eq_none] at hactive
  cases htw : updateInList aton key seqNum ackNum reset pcbs.tw with
  | some tw =>
      obtain ⟨list, hfind, hfind', hothers⟩ := updateInList_eq_some htw
      refine ⟨fun _ _ _ => resynced_found reset ?_ _ _, others_refl _, others_refl _, hothers⟩
      simp [findPcb, hbound, hactive, hfind, hfind']
  | none =>
      rw [updateInList_eq_none] at htw
      refine ⟨fun _ _ _ => resynced_found reset ?_ _ _, others_refl _, others_refl _, others_refl _⟩
      simp [findPcb, hbound, hactive, htw]

/-! #### Looking up what has been written -/

/-- Both find the same sockets. -/
def SameSocket (aton : String → UInt32) (key key' : SockKey) : Prop :=
  key.localPort = key'.localPort ∧ key.remotePort = key'.remotePort ∧
    aton key.remoteIp = aton key'.remoteIp

instance (aton : String → UInt32) (key key' : SockKey) : Decidable (SameSocket aton key key') :=
  inferInstanceAs (Decidable (_ ∧ _ ∧ _))

section Update

variable {aton : String → UInt32} {key key' : SockKey} {seqNum ackNum : UInt32} {reset : UInt8}

theorem SameSocket.hasKey_iff (h : SameSocket aton key key') (list : TcpPcb) :
    HasKey aton key list ↔ HasKey aton key' list := by
  obtain ⟨hlocal, hremote, hip⟩ := h
  unfold HasKey
  rw [hlocal, hremote, hip]

theorem SameSocket.of_hasKey {list : TcpPcb} (h : HasKey aton key list)
    (h' : HasKey aton key' list) : SameSocket aton key key' :=
  ⟨h.1.symm.trans h'.1, h.2.1.symm.trans h'.2.1, h.2.2.symm.trans h'.2.2⟩

theorem SameSocket.findPcb_eq (h : SameSocket aton key key') (pcbs : TcpPcbLists) :
    findPcb aton key pcbs = findPcb aton key' pcbs := by
  have hlist : ∀ lists, findInList aton key lists = findInList aton key' lists := by
    intro lists
    induction lists with
    | nil => rfl
    | cons list next ih =>
        rw [findInList, findInList, ih]
        exact if_congr (h.hasKey_iff list) rfl rfl
  unfold findPcb
  rw [hlist, hlist, hlist]

/-- A socket that is written to keeps its key. -/
theorem hasKey_resync (list : TcpPcb) :
    HasKey aton key' (resync seqNum ackNum reset list) ↔ HasKey aton key' list := Iff.rfl

theorem resync_resync {seqNum' ackNum' : UInt32} (list : TcpPcb) :
    resync seqNum ackNum reset (resync seqNum' ackNum' reset list) =
      resync seqNum ackNum reset list := by
  unfold resync
  dsimp only
  split <;> rfl

/-- In a list, a socket of another key is found as before. -/
theorem findInList_updated (hne : ¬ SameSocket aton key key') {lists lists' : List TcpPcb}
    (h : updateInList aton key seqNum ackNum reset lists = some lists') :
    findInList aton key' lists' = findInList aton key' lists := by
  induction lists generalizing lists' with
  | nil => cases h
  | cons list next ih =>
      rw [updateInList] at h
      split at h
      · rename_i hkey
        cases h
        have hkey' : ¬ HasKey aton key' list := fun hkey' => hne (.of_hasKey hkey hkey')
        rw [findInList, findInList, if_neg hkey', if_neg ((hasKey_resync list).not.mpr hkey')]
      · obtain ⟨next', hnext, rfl⟩ := Option.map_eq_some_iff.mp h
        rw [findInList, findInList, ih hnext]

/-- The socket of the key is found again, written to. -/
theorem findPcb_update (pcbs : TcpPcbLists) :
    findPcb aton key (whdTlsoeUpdateSockSeq aton key seqNum ackNum reset pcbs) =
      (findPcb aton key pcbs).map (resync seqNum ackNum reset) := by
  unfold whdTlsoeUpdateSockSeq
  -- a list is looked at only if nothing was found in those before it
  cases hbound : updateInList aton key seqNum ackNum reset pcbs.bound with
  | some bound =>
      obtain ⟨list, hfind, hfind', -⟩ := updateInList_eq_some hbound
      simp [findPcb, hfind, hfind']
  | none =>
  rw [updateInList_eq_none] at hbound
  cases hactive : updateInList aton key seqNum ackNum reset pcbs.active with
  | some active =>
      obtain ⟨list, hfind, hfind', -⟩ := updateInList_eq_some hactive
      simp [findPcb, hbound, hfind, hfind']
  | none =>
  rw [updateInList_eq_none] at hactive
  cases htw : updateInList aton key seqNum ackNum reset pcbs.tw with
  | some tw =>
      obtain ⟨list, hfind, hfind', -⟩ := updateInList_eq_some htw
      simp [findPcb, hbound, hactive, hfind, hfind']
  | none =>
      rw [updateInList_eq_none] at htw
      simp [findPcb, hbound, hactive, htw]

/-- A socket of another key is found as before. -/
theorem findPcb_update_of_ne (hne : ¬ SameSocket aton key key') (pcbs : TcpPcbLists) :
    findPcb aton key' (whdTlsoeUpdateSockSeq aton key seqNum ackNum reset pcbs) =
      findPcb aton key' pcbs := by
  unfold whdTlsoeUpdateSockSeq
  cases hbound : updateInList aton key seqNum ackNum reset pcbs.bound with
  | some bound => simp [findPcb, findInList_updated hne hbound]
  | none =>
  cases hactive : updateInList aton key seqNum ackNum reset pcbs.active with
  | some active => simp [findPcb, findInList_updated hne hactive]
  | none =>
  cases htw : updateInList aton key seqNum ackNum reset pcbs.tw with
  | some tw => simp [findPcb, findInList_updated hne htw]
  | none => rfl

end Update

end Lwip

/-! ### NetX Duo -/

/-- `NX_TCP_ESTABLISHED`. -/
def nxTcpEstablished : UInt32 := 5

/-- `NX_TCP_SOCKET`. -/
structure NxTcpSocket where
  keepaliveEnabled : UInt32
  state : UInt32
  port : UInt16
  connectPort : UInt16
  connectIp : UInt32
  txSequence : UInt32
  rxSequence : UInt32
  rxWindowDefault : UInt32
deriving DecidableEq, Repr

/-- `NX_IP`: the address of its interface and the sockets created, which are counted.  They are
linked in the order of the list. -/
structure NxIp where
  interfaceIpAddress : UInt32
  createdSockets : List NxTcpSocket
  createdSocketsCount : UInt32
  count_eq : createdSocketsCount.toNat = createdSockets.length

namespace Netxduo

section Created

variable (stoip4 : String → UInt32) (key : SockKey)

/-- The socket has the key; `stoip4` gives an address in network order. -/
def HasKey (socket : NxTcpSocket) : Prop :=
  socket.port = key.localPort ∧ socket.connectPort = key.remotePort ∧
    socket.connectIp = hton32 (stoip4 key.remoteIp)

/-- The test of both functions. -/
def Offloaded (socket : NxTcpSocket) : Prop :=
  socket.keepaliveEnabled ≠ 0 ∧ socket.state = nxTcpEstablished ∧ HasKey stoip4 key socket

instance : DecidablePred (Offloaded stoip4 key) :=
  fun _ => inferInstanceAs (Decidable (_ ∧ _ ∧ _ ∧ _ ∧ _))

/-- What `whd_tlsoe_get_sock_stats` writes of a socket into `*seq`. -/
def stats (ip : NxIp) (seq : SockSeq) (socket : NxTcpSocket) : SockSeq :=
  { seq with
    srcip := hton32 ip.interfaceIpAddress
    dstip := hton32 socket.connectIp
    srcport := socket.port
    dstport := socket.connectPort
    seqnum := socket.txSequence
    acknum := socket.rxSequence
    rxWindow := socket.rxWindowDefault.toUInt16 }

/-- The loop of `whd_tlsoe_get_sock_stats`, from the socket at the head of the list on. -/
def getLoop : ℕ → List NxTcpSocket → Option NxTcpSocket
  | 0, _ => none
  | _, [] => none
  | count + 1, socket :: next =>
    if Offloaded stoip4 key socket then some socket else getLoop count next

/-- `whd_tlsoe_get_sock_stats`; nothing is what `1` stands for. -/
def whdTlsoeGetSockStats (ip : NxIp) (seq : SockSeq) : Option SockSeq :=
  (getLoop stoip4 key ip.createdSocketsCount.toNat ip.createdSockets).map (stats ip seq)

variable (seqNum ackNum : UInt32)

/-- What `whd_tlsoe_update_sock_seq` writes into a socket. -/
def resync (socket : NxTcpSocket) : NxTcpSocket :=
  { socket with txSequence := seqNum, rxSequence := ackNum }

/-- The loop of `whd_tlsoe_update_sock_seq`: the socket at the head of the list stays there. -/
def updateLoop : ℕ → List NxTcpSocket → List NxTcpSocket
  | 0, sockets => sockets
  | _, [] => []
  | count + 1, socket :: next =>
    updateLoop count
      ((if Offloaded stoip4 key socket then resync seqNum ackNum socket else socket) :: next)

variable {stoip4 key seqNum ackNum}

theorem find?_offloaded {socket : NxTcpSocket} (h : Offloaded stoip4 key socket)
    (next : List NxTcpSocket) :
    (socket :: next).find? (Offloaded stoip4 key ·) = some socket :=
  List.find?_cons_of_pos (by simpa using h)

/-- The reader reads the first socket that is offloaded. -/
theorem getLoop_eq {count : ℕ} {sockets : List NxTcpSocket} (h : sockets.length ≤ count) :
    getLoop stoip4 key count sockets = sockets.find? (Offloaded stoip4 key ·) := by
  induction sockets generalizing count with
  | nil => cases count <;> rfl
  | cons socket next ih =>
      obtain ⟨count, rfl⟩ := Nat.exists_eq_add_one_of_ne_zero (Nat.ne_of_gt (Nat.zero_lt_of_lt h))
      rw [getLoop]
      split
      · rw [find?_offloaded ‹_›]
      · rw [List.find?_cons_of_neg (by simpa using ‹¬ _›), ih (Nat.le_of_succ_le_succ h)]

/-- A socket that is written to has the key still. -/
theorem offloaded_resync {socket : NxTcpSocket} :
    Offloaded stoip4 key (resync seqNum ackNum socket) ↔ Offloaded stoip4 key socket := Iff.rfl

/-- **The writer** writes to the first socket of all, or to none. -/
theorem updateLoop_cons (count : ℕ) (socket : NxTcpSocket) (next : List NxTcpSocket) :
    updateLoop stoip4 key seqNum ackNum (count + 1) (socket :: next) =
      (if Offloaded stoip4 key socket then resync seqNum ackNum socket else socket) :: next := by
  induction count generalizing socket with
  | zero => rfl
  | succ count ih =>
      rw [updateLoop, ih]
      by_cases h : Offloaded stoip4 key socket
      · rw [if_pos h, if_pos (offloaded_resync.mpr h)]
        rfl
      · rw [if_neg h, if_neg h]

theorem length_updateLoop {count : ℕ} {sockets : List NxTcpSocket} :
    (updateLoop stoip4 key seqNum ackNum count sockets).length = sockets.length := by
  cases sockets with
  | nil => cases count <;> rfl
  | cons socket next =>
      cases count with
      | zero => rfl
      | succ count => rw [updateLoop_cons, List.length_cons, List.length_cons]

/-- `whd_tlsoe_update_sock_seq`; what is reset is left to LWIP. -/
def whdTlsoeUpdateSockSeq (stoip4 : String → UInt32) (key : SockKey) (seqNum ackNum : UInt32)
    (ip : NxIp) : NxIp :=
  { ip with
    createdSockets :=
      updateLoop stoip4 key seqNum ackNum ip.createdSocketsCount.toNat ip.createdSockets
    count_eq := ip.count_eq.trans length_updateLoop.symm }

/-- **A socket is resynced** over NetX Duo: a second reader reads the numbers that were written,
and the other sockets are as they were. -/
structure Resynced (stoip4 : String → UInt32) (key : SockKey) (seqNum ackNum : UInt32)
    (ip ip' : NxIp) : Prop where
  found (before before' seq : SockSeq) :
    whdTlsoeGetSockStats stoip4 key ip before = some seq →
      ∃ seq', whdTlsoeGetSockStats stoip4 key ip' before' = some seq' ∧
        seq.Resynced seqNum ackNum seq'
  others : List.Forall₂ (fun socket socket' => ¬ HasKey stoip4 key socket → socket' = socket)
    ip.createdSockets ip'.createdSockets

/-- The first socket that is offloaded is the first one of all, unless it has the numbers
already. -/
def FirstOrSynced (stoip4 : String → UInt32) (key : SockKey) (seqNum ackNum : UInt32) (ip : NxIp) :
    Prop :=
  ∀ socket, ip.createdSockets.find? (Offloaded stoip4 key ·) = some socket →
    ip.createdSockets.head? = some socket ∨
      socket.txSequence = seqNum ∧ socket.rxSequence = ackNum

theorem whdTlsoeGetSockStats_eq (ip : NxIp) (seq : SockSeq) :
    whdTlsoeGetSockStats stoip4 key ip seq =
      (ip.createdSockets.find? (Offloaded stoip4 key ·)).map (stats ip seq) := by
  rw [whdTlsoeGetSockStats, getLoop_eq ip.count_eq.ge]

/-- The sockets after the writer. -/
theorem createdSockets_update (ip : NxIp) :
    (whdTlsoeUpdateSockSeq stoip4 key seqNum ackNum ip).createdSockets =
      match ip.createdSockets with
      | [] => []
      | socket :: next =>
        (if Offloaded stoip4 key socket then resync seqNum ackNum socket else socket) :: next := by
  obtain ⟨address, sockets, count, hcount⟩ := ip
  cases sockets with
  | nil => cases h : count.toNat <;> simp only [whdTlsoeUpdateSockSeq, h] <;> rfl
  | cons socket next =>
      simp only [whdTlsoeUpdateSockSeq, hcount, List.length_cons, updateLoop_cons]

/-- A first socket that is offloaded is resynced. -/
theorem resynced_of_first {ip : NxIp} {socket : NxTcpSocket} {next : List NxTcpSocket}
    (hsockets : ip.createdSockets = socket :: next) (h : Offloaded stoip4 key socket) :
    Resynced stoip4 key seqNum ackNum ip
      (whdTlsoeUpdateSockSeq stoip4 key seqNum ackNum ip) := by
  have hafter : (whdTlsoeUpdateSockSeq stoip4 key seqNum ackNum ip).createdSockets =
      resync seqNum ackNum socket :: next := by
    rw [createdSockets_update, hsockets]
    exact congrArg (· :: next) (if_pos h)
  refine ⟨fun before before' seq hseq => ?_, ?_⟩
  · rw [whdTlsoeGetSockStats_eq, hsockets, find?_offloaded h] at hseq
    cases hseq
    refine ⟨stats ip before' (resync seqNum ackNum socket), ?_, rfl, rfl, rfl, rfl, rfl, rfl, rfl⟩
    rw [whdTlsoeGetSockStats_eq, hafter, find?_offloaded (offloaded_resync.mpr h)]
    rfl
  · rw [hafter, hsockets]
    exact .cons (fun hne => absurd h.2.2 hne) (List.forall₂_same.mpr fun _ _ _ => rfl)

/-- With another one first, nothing is written. -/
theorem createdSockets_update_of_not {ip : NxIp}
    (h : ∀ socket, ip.createdSockets.head? = some socket → ¬ Offloaded stoip4 key socket) :
    (whdTlsoeUpdateSockSeq stoip4 key seqNum ackNum ip).createdSockets = ip.createdSockets := by
  rw [createdSockets_update]
  cases hsockets : ip.createdSockets with
  | nil => rfl
  | cons socket next => exact congrArg (· :: next) (if_neg (h socket (by rw [hsockets]; rfl)))

/-- **Over NetX Duo** the writer finds the socket the reader finds exactly if that is the first. -/
theorem resynced_iff (ip : NxIp) : Resynced stoip4 key seqNum ackNum ip
      (whdTlsoeUpdateSockSeq stoip4 key seqNum ackNum ip) ↔
    FirstOrSynced stoip4 key seqNum ackNum ip := by
  by_cases hfirst : ∃ socket, ip.createdSockets.head? = some socket ∧ Offloaded stoip4 key socket
  · obtain ⟨socket, hhead, hoff⟩ := hfirst
    obtain ⟨next, hsockets⟩ := List.head?_eq_some_iff.mp hhead
    refine iff_of_true (resynced_of_first hsockets hoff) fun socket' hfind => .inl ?_
    rwa [hsockets, find?_offloaded hoff, ← hhead] at hfind
  · have hnot : ∀ socket, ip.createdSockets.head? = some socket → ¬ Offloaded stoip4 key socket :=
      fun socket hhead hoff => hfirst ⟨socket, hhead, hoff⟩
    have hafter : (whdTlsoeUpdateSockSeq stoip4 key seqNum ackNum ip).createdSockets =
        ip.createdSockets := createdSockets_update_of_not hnot
    have hread : ∀ before, whdTlsoeGetSockStats stoip4 key
        (whdTlsoeUpdateSockSeq stoip4 key seqNum ackNum ip) before =
          (ip.createdSockets.find? (Offloaded stoip4 key ·)).map (stats ip before) := by
      intro before
      rw [whdTlsoeGetSockStats_eq, hafter]
      rfl
    constructor
    · intro h socket hfind
      let before : SockSeq := ⟨⟨.replicate 6 0⟩, ⟨.replicate 6 0⟩, 0, 0, 0, 0, 0, 0, 0⟩
      have hseq : whdTlsoeGetSockStats stoip4 key ip before = some (stats ip before socket) := by
        rw [whdTlsoeGetSockStats_eq, hfind, Option.map_some]
      obtain ⟨seq', hseq', hresynced⟩ := h.found before before _ hseq
      rw [hread, hfind] at hseq'
      cases hseq'
      exact .inr ⟨hresynced.seqnum, hresynced.acknum⟩
    · refine fun h => ⟨fun before before' seq hseq => ?_, ?_⟩
      · rw [whdTlsoeGetSockStats_eq] at hseq
        obtain ⟨socket, hfind, rfl⟩ := Option.map_eq_some_iff.mp hseq
        obtain ⟨hseqNum, hackNum⟩ := (h socket hfind).resolve_left fun hhead =>
          hnot socket hhead (by simpa using List.find?_some hfind)
        refine ⟨stats ip before' socket, ?_, rfl, rfl, rfl, rfl, rfl, hseqNum, hackNum⟩
        rw [hread, hfind, Option.map_some]
      · rw [hafter]
        exact List.forall₂_same.mpr fun _ _ _ => rfl

end Created

end Netxduo

/-- **The socket that was offloaded is the one that is updated**: over LWIP always, and over
NetX Duo exactly if it is the first socket of all, or has the numbers already. -/
theorem updateSockSeq_resyncs_iff (aton : String → UInt32) (key : SockKey)
    (seqNum ackNum : UInt32) :
    (∀ pcbs, Lwip.Resynced aton key seqNum ackNum pcbs
      (Lwip.whdTlsoeUpdateSockSeq aton key seqNum ackNum 0 pcbs)) ∧
    ∀ ip, Netxduo.Resynced aton key seqNum ackNum ip
        (Netxduo.whdTlsoeUpdateSockSeq aton key seqNum ackNum ip) ↔
      Netxduo.FirstOrSynced aton key seqNum ackNum ip :=
  ⟨Lwip.resynced, Netxduo.resynced_iff⟩

/-- Two sockets are offloaded, and the second one is to be updated. -/
theorem updateSockSeq_not_resyncs : ¬ ∀ (aton : String → UInt32) (key : SockKey)
    (seqNum ackNum : UInt32),
    (∀ pcbs, Lwip.Resynced aton key seqNum ackNum pcbs
      (Lwip.whdTlsoeUpdateSockSeq aton key seqNum ackNum 0 pcbs)) ∧
    ∀ ip, Netxduo.Resynced aton key seqNum ackNum ip
      (Netxduo.whdTlsoeUpdateSockSeq aton key seqNum ackNum ip) := by
  intro h
  let mqtt : NxTcpSocket := ⟨1, nxTcpEstablished, 50000, 1883, 0xc0a80101, 100, 200, 22293⟩
  let mqtts : NxTcpSocket := ⟨1, nxTcpEstablished, 50001, 8883, 0xc0a80101, 1000, 2000, 22293⟩
  have hfirst := (Netxduo.resynced_iff _).mp
    ((h (fun _ => 0x0101a8c0) ⟨50001, 8883, "192.168.1.1"⟩ 1001 2001).2
      ⟨0xc0a8010a, [mqtt, mqtts], 2, rfl⟩)
  exact absurd (hfirst mqtts (by decide)) (by decide)

end Lpa
