import Lpa.Keepalive.TkoConfig
import Lpa.Offload.Info
import Lpa.Support.Monitor
import Mathlib.Data.Finset.Basic

/-!
# Keepalive — opening the connections to keep alive

`cy_tcp_create_socket_connection` of `network_activity_handler.c`: a socket is created, bound and
connected, keepalives are set on it, something is sent, and it is handed over to the caller and its
connection entered in the TKO table.  Every call it makes may fail, and other users of the socket
layer open and close sockets of their own at any time.

* `tcpProtocol`: what may be done with the socket in hand, and when.
* `createSocketConnections_keepsTo`: any number of calls keep to it.
* `createSocketConnections_leakFree`: so no socket is lost but one that could not be deleted, none
  is deleted that has been handed over, and the table is what the connections entered make of it.
-/

namespace Lpa.TkoSockets

open Prog (when Label Config Reach)

/-- `CY_RSLT_SUCCESS`. -/
def cyRsltSuccess : UInt32 := 0

/-- What is built in: the network stack, the results for a missing interface and a missing address,
and `cy_nw_str_to_ipv4`. -/
structure SockBuild where
  netxduo : Bool
  cyRsltTcpipError : UInt32
  cyRsltTcpipErrorBadArg : UInt32
  cyNwStrToIpv4 : IpString → UInt32
  error_ne : cyRsltTcpipError ≠ cyRsltSuccess
  badArg_ne : cyRsltTcpipErrorBadArg ≠ cyRsltSuccess

/-- The socket options set. -/
inductive CySocketOption where
  | soTcpKeepaliveEnable
  | soTcpKeepaliveInterval
  | soTcpKeepaliveCount
  | soTcpKeepaliveIdleTime
deriving DecidableEq

/-- The calls made; `setGlobalSocketPtr` hands the socket over. -/
inductive SockOp (max : MaxTko) where
  | netIpAddr
  | nxIpAddressGet
  | cySocketCreate
  | cySocketBind (sock : Handle) (ip : UInt32) (port : UInt16)
  | cySocketConnect (sock : Handle) (ip : UInt32) (port : UInt16)
  | cySocketDelete (sock : Handle)
  | cySocketSetsockopt (sock : Handle) (opt : CySocketOption) (value : ℤ)
  | cySocketSend (sock : Handle)
  | setGlobalSocketPtr (sock : Handle)
  | cylpaTkoOlUpdateConfig (remoteIp : IpString) (remotePort localPort : UInt16)
      (downloaded : CyTkoOlCfg max.val)

/-- What a call answers. -/
@[reducible] def SockRes {max : MaxTko} : SockOp max → Type
  | .netIpAddr => UInt32
  | .nxIpAddressGet => Option UInt32
  | .cySocketCreate => UInt32 × Handle
  | .setGlobalSocketPtr _ => Unit
  | .cylpaTkoOlUpdateConfig .. => Unit
  | _ => UInt32

/-- A program over the socket layer. -/
abbrev Sock (max : MaxTko) (α : Type) := Prog (SockOp max) SockRes α

/-- One call. -/
abbrev op {max : MaxTko} (o : SockOp max) : Sock max (SockRes o) := Prog.op o

/-- The arguments; the pointer to the configuration is not `NULL`. -/
structure SockArgs (max : MaxTko) where
  netIntf : Bool
  remoteIp : IpString
  remotePort : UInt16
  localPort : UInt16
  downloaded : CyTkoOlCfg max.val
  socketKeepaliveEnable : ℤ

section Program

variable {max : MaxTko} (b : SockBuild)

/-- The interface's own address. -/
def localAddress : Sock max (Option UInt32) :=
  if b.netxduo then op .nxIpAddressGet
  else do
    let ip ← op .netIpAddr
    return some ip

/-- Keepalives are set on the socket; what the calls answer is not looked at. -/
def setKeepalive (sock : Handle) (a : SockArgs max) : Sock max Unit := do
  let _ ← op (.cySocketSetsockopt sock .soTcpKeepaliveEnable a.socketKeepaliveEnable)
  let _ ← op (.cySocketSetsockopt sock .soTcpKeepaliveInterval
    (a.downloaded.retryInterval.toNat * 1000))
  let _ ← op (.cySocketSetsockopt sock .soTcpKeepaliveCount a.downloaded.retryCount.toNat)
  let _ ← op (.cySocketSetsockopt sock .soTcpKeepaliveIdleTime
    (a.downloaded.interval.toNat * 1000))
  return

/-- From the connection on: the socket is handed over whether anything could be sent or not. -/
def handOver (sock : Handle) (a : SockArgs max) : Sock max UInt32 := do
  when (a.socketKeepaliveEnable ≠ 0) (setKeepalive sock a)
  let response ← op (.cySocketSend sock)
  op (.setGlobalSocketPtr sock)
  op (.cylpaTkoOlUpdateConfig a.remoteIp a.remotePort a.localPort a.downloaded)
  return response

/-- From the creation of the socket on. -/
def connectSocket (sock : Handle) (ip : UInt32) (a : SockArgs max) : Sock max UInt32 := do
  let response ← op (.cySocketBind sock ip a.localPort)
  if response ≠ cyRsltSuccess then
    let _ ← op (.cySocketDelete sock)
    return response
  else
    let response ← op (.cySocketConnect sock (b.cyNwStrToIpv4 a.remoteIp) a.remotePort)
    if response ≠ cyRsltSuccess then
      let _ ← op (.cySocketDelete sock)
      return response
    else handOver sock a

/-- `cy_tcp_create_socket_connection`. -/
def cyTcpCreateSocketConnection (a : SockArgs max) : Sock max UInt32 :=
  if a.netIntf = false then return b.cyRsltTcpipError
  else do
    let ip ← localAddress b
    match ip with
    | none => return b.cyRsltTcpipErrorBadArg
    | some ip =>
      let (response, sock) ← op .cySocketCreate
      if response ≠ cyRsltSuccess then return response
      else connectSocket b sock ip a

/-- Calls one after the other: what they return. -/
def createSocketConnections : List (SockArgs max) → Sock max (List UInt32)
  | [] => return []
  | a :: as => do
      let response ← cyTcpCreateSocketConnection b a
      let responses ← createSocketConnections as
      return response :: responses

end Program

/-! ### The socket layer -/

/-- The sockets open that were created here, those of other users, those handed over, in order,
those that could not be deleted, and the calls that have filled the TKO table. -/
structure SockWorld (max : MaxTko) where
  ours : Finset Handle
  others : Finset Handle
  handed : List Handle
  undeleted : List Handle
  updates : List (TkoCall max)

variable {max : MaxTko}

/-- The start of the program. -/
def SockWorld.boot (max : MaxTko) : SockWorld max := ⟨∅, ∅, [], [], []⟩

/-- What a call does: a socket just created is one that is not open, and any call may fail; a socket
whose deletion fails stays open. -/
def sockSem : (o : SockOp max) → SockWorld max → SockRes o → SockWorld max → Prop
  | .cySocketCreate, s, (response, sock), s' =>
      if response = cyRsltSuccess then
        sock ∉ s.ours ∧ sock ∉ s.others ∧ s' = { s with ours := insert sock s.ours }
      else s' = s
  | .cySocketDelete sock, s, (response : UInt32), s' =>
      if response = cyRsltSuccess then s' = { s with ours := s.ours.erase sock }
      else s' = { s with undeleted := s.undeleted ++ [sock] }
  | .setGlobalSocketPtr sock, s, _, s' => s' = { s with handed := s.handed ++ [sock] }
  | .cylpaTkoOlUpdateConfig remoteIp remotePort localPort downloaded, s, _, s' =>
      s' = { s with updates := s.updates ++
        [.updateConfig (some remoteIp) remotePort localPort (some downloaded)] }
  | _, s, _, s' => s' = s

/-- What others do at any time. -/
inductive OtherUser where
  | sockets (others : Finset Handle)
  | close (sock : Handle)

/-- Other users open and close sockets of their own, and the application closes one handed over to
it. -/
def otherUser : OtherUser → SockWorld max → SockWorld max → Prop
  | .sockets others, s, s' => Disjoint others s.ours ∧ s' = { s with others := others }
  | .close sock, s, s' =>
      sock ∈ s.handed ∧ s' = { s with ours := s.ours.erase sock, handed := s.handed.erase sock }

/-! ### The protocol -/

/-- The socket in hand, and how far it is. -/
inductive Hand where
  | empty
  | created (sock : Handle)
  | bound (sock : Handle) (localPort : UInt16)
  | refused (sock : Handle)
  | connected (sock : Handle) (ip : UInt32) (remotePort localPort : UInt16)
  | sent (sock : Handle) (ip : UInt32) (remotePort localPort : UInt16)
  | handedOver (ip : UInt32) (remotePort localPort : UInt16)

/-- The socket that would be lost. -/
def Hand.held : Hand → Option Handle
  | .empty => none
  | .created sock => some sock
  | .bound sock _ => some sock
  | .refused sock => some sock
  | .connected sock _ _ _ => some sock
  | .sent sock _ _ _ => some sock
  | .handedOver _ _ _ => none

/-- What may be done with it: it is used only by itself, deleted only if it has been refused, handed
over only once it is connected, and its own connection is entered in the table. -/
def Hand.allows (b : SockBuild) : Hand → SockOp max → Prop
  | .empty, .netIpAddr => True
  | .empty, .nxIpAddressGet => True
  | .empty, .cySocketCreate => True
  | .created sock, .cySocketBind sock' _ _ => sock' = sock
  | .bound sock _, .cySocketConnect sock' _ _ => sock' = sock
  | .refused sock, .cySocketDelete sock' => sock' = sock
  | .connected sock _ _ _, .cySocketSetsockopt sock' _ _ => sock' = sock
  | .connected sock _ _ _, .cySocketSend sock' => sock' = sock
  | .sent sock _ _ _, .setGlobalSocketPtr sock' => sock' = sock
  | .handedOver ip remotePort localPort,
      .cylpaTkoOlUpdateConfig remoteIp remotePort' localPort' _ =>
      b.cyNwStrToIpv4 remoteIp = ip ∧ remotePort' = remotePort ∧ localPort' = localPort
  | _, _ => False

/-- What the answer makes of it. -/
def Hand.next : Hand → (o : SockOp max) → SockRes o → Hand
  | .empty, .cySocketCreate, (response, sock) =>
      if response = cyRsltSuccess then .created sock else .empty
  | .created sock, .cySocketBind _ _ port, (response : UInt32) =>
      if response = cyRsltSuccess then .bound sock port else .refused sock
  | .bound sock localPort, .cySocketConnect _ ip port, (response : UInt32) =>
      if response = cyRsltSuccess then .connected sock ip port localPort else .refused sock
  | .refused _, .cySocketDelete _, _ => .empty
  | .connected sock ip remotePort localPort, .cySocketSend _, _ =>
      .sent sock ip remotePort localPort
  | .sent _ ip remotePort localPort, .setGlobalSocketPtr _, _ =>
      .handedOver ip remotePort localPort
  | .handedOver _ _ _, .cylpaTkoOlUpdateConfig .., _ => .empty
  | q, _, _ => q

/-- The connection entered in the table: none without both ports. -/
def SockOp.enters : SockOp max → List TkoConnection
  | .cylpaTkoOlUpdateConfig remoteIp remotePort localPort _ =>
      if remotePort = 0 ∨ localPort = 0 then [] else [⟨remoteIp, remotePort, localPort⟩]
  | _ => []

/-- **The protocol** of a socket, and the connections entered, the latest first. -/
def tcpProtocol (max : MaxTko) (b : SockBuild) : Monitor (SockOp max) SockRes where
  State := Hand × List TkoConnection
  start := (.empty, [])
  allows q o := q.1.allows b o
  next q o r := (q.1.next o r, o.enters ++ q.2)

/-- The sockets open are the one in hand, those handed over and those that could not be deleted. -/
structure Held (sock : Option Handle) (entered : List TkoConnection) (s : SockWorld max) :
    Prop where
  nodup : (sock.toList ++ (s.handed ++ s.undeleted)).Nodup
  ours : s.ours = (sock.toList ++ (s.handed ++ s.undeleted)).toFinset
  others : Disjoint s.others s.ours
  entered : (TkoCall.history s.updates).recent = entered

theorem Held.kept (sock : Option Handle) (entered : List TkoConnection) :
    Monitor.Kept otherUser (Held sock entered : SockWorld max → Prop) := by
  rintro e s s' hs he
  cases e with
  | sockets others =>
      obtain ⟨hdisj, rfl⟩ := he
      exact ⟨hs.nodup, hs.ours, hdisj, hs.entered⟩
  | close closed =>
      obtain ⟨hmem, rfl⟩ := he
      have hnot : closed ∉ sock.toList := fun h =>
        (List.nodup_append.mp hs.nodup).2.2 closed h closed (List.mem_append_left _ hmem) rfl
      have herase : (sock.toList ++ (s.handed ++ s.undeleted)).erase closed =
          sock.toList ++ (s.handed.erase closed ++ s.undeleted) := by
        rw [List.erase_append_right _ hnot, List.erase_append_left _ hmem]
      refine ⟨herase ▸ hs.nodup.erase closed, ?_, ?_, hs.entered⟩
      · ext x
        rw [← herase]
        simp [hs.ours, hs.nodup.mem_erase_iff, List.mem_toFinset]
      · exact hs.others.mono_right (Finset.erase_subset _ _)

section Follows

variable {b : SockBuild} {q : Hand} {n : List TkoConnection} {o : SockOp max}
variable {s s' : SockWorld max} {h : List (Label (SockOp max) SockRes OtherUser)}

/-- A socket just created is in hand. -/
theorem Held.hold {sock : Handle} (hs : Held none n s) (hours : sock ∉ s.ours)
    (hothers : sock ∉ s.others) :
    Held (some sock) n { s with ours := insert sock s.ours } where
  nodup := by
    have hnot : sock ∉ s.handed ++ s.undeleted := fun h => hours (by
      rw [hs.ours]
      exact List.mem_toFinset.mpr h)
    exact List.nodup_cons.mpr ⟨hnot, hs.nodup⟩
  ours := by
    rw [hs.ours]
    exact (List.toFinset_cons ..).symm
  others := Finset.disjoint_insert_right.mpr ⟨hothers, hs.others⟩
  entered := hs.entered

/-- A socket in hand is deleted. -/
theorem Held.drop {sock : Handle} (hs : Held (some sock) n s) :
    Held none n { s with ours := s.ours.erase sock } where
  nodup := (List.nodup_cons.mp hs.nodup).2
  ours := by
    have hnot : sock ∉ (s.handed ++ s.undeleted).toFinset := fun h =>
      (List.nodup_cons.mp hs.nodup).1 (List.mem_toFinset.mp h)
    have hours : s.ours = insert sock (s.handed ++ s.undeleted).toFinset :=
      hs.ours.trans (List.toFinset_cons ..)
    exact (congrArg (Finset.erase · sock) hours).trans (Finset.erase_insert hnot)
  others := hs.others.mono_right (Finset.erase_subset _ _)
  entered := hs.entered

/-- A socket in hand is put among the others, in any order. -/
theorem Held.put {sock : Handle} {handed undeleted : List Handle} (hs : Held (some sock) n s)
    (hperm : ([sock] ++ (s.handed ++ s.undeleted)).Perm (handed ++ undeleted)) :
    Held none n { s with handed := handed, undeleted := undeleted } where
  nodup := hperm.nodup_iff.mp hs.nodup
  ours := hs.ours.trans (List.toFinset_eq_of_perm _ _ hperm)
  others := hs.others
  entered := hs.entered

/-- It is handed over. -/
theorem Held.hand {sock : Handle} (hs : Held (some sock) n s) :
    Held none n { s with handed := s.handed ++ [sock] } := by
  refine hs.put ?_
  rw [← List.append_assoc]
  exact List.perm_append_comm.append_right _

/-- It could not be deleted. -/
theorem Held.leave {sock : Handle} (hs : Held (some sock) n s) :
    Held none n { s with undeleted := s.undeleted ++ [sock] } := by
  refine hs.put ?_
  rw [← List.append_assoc s.handed]
  exact List.perm_append_comm

/-- A connection is entered, if it has both ports. -/
theorem Held.enter {remoteIp : IpString} {remotePort localPort : UInt16}
    {downloaded : CyTkoOlCfg max.val} (hs : Held none n s) :
    Held none
      (SockOp.enters (.cylpaTkoOlUpdateConfig remoteIp remotePort localPort downloaded) ++ n)
      { s with updates := s.updates ++
          [.updateConfig (some remoteIp) remotePort localPort (some downloaded)] } where
  nodup := hs.nodup
  ours := hs.ours
  others := hs.others
  entered := by
    rw [TkoCall.history_concat, TkoCall.History.next, SockOp.enters]
    split
    · exact hs.entered
    · exact congrArg (List.cons _) hs.entered

/-- **A call that is allowed** keeps the sockets in order. -/
theorem held_next {r : SockRes o} (ho : q.allows b o) (hs : Held q.held n s)
    (hcall : sockSem o s r s') : Held (q.next o r).held (o.enters ++ n) s' := by
  have hsame : s' = s → ∀ sock, Held sock n s → Held sock ([] ++ n) s' := fun h _ hs => h ▸ hs
  cases q with
  | empty =>
      cases o <;> try exact ho.elim
      case netIpAddr => exact hsame hcall none hs
      case nxIpAddressGet => exact hsame hcall none hs
      case cySocketCreate =>
        obtain ⟨response, sock⟩ := r
        by_cases hr : response = cyRsltSuccess
        · rw [sockSem, if_pos hr] at hcall
          obtain ⟨hours, hothers, rfl⟩ := hcall
          rw [Hand.next, if_pos hr]
          exact hs.hold hours hothers
        · rw [sockSem, if_neg hr] at hcall
          rw [Hand.next, if_neg hr]
          exact hsame hcall none hs
  | created sock =>
      cases o <;> try exact ho.elim
      case cySocketBind sock' ip port =>
        have hheld : (Hand.next (.created sock) (.cySocketBind sock' ip port) r).held =
            some sock :=
          (apply_ite Hand.held _ (Hand.bound sock port) (.refused sock)).trans (ite_self _)
        rw [hheld]
        exact hsame hcall (some sock) hs
  | bound sock localPort =>
      cases o <;> try exact ho.elim
      case cySocketConnect sock' ip port =>
        have hheld : (Hand.next (.bound sock localPort) (.cySocketConnect sock' ip port) r).held =
            some sock :=
          (apply_ite Hand.held _ (Hand.connected sock ip port localPort)
            (.refused sock)).trans (ite_self _)
        rw [hheld]
        exact hsame hcall (some sock) hs
  | refused sock =>
      cases o <;> try exact ho.elim
      case cySocketDelete sock' =>
        obtain rfl : sock' = sock := ho
        by_cases hr : r = cyRsltSuccess
        · rw [sockSem, if_pos hr] at hcall
          subst hcall
          exact hs.drop
        · rw [sockSem, if_neg hr] at hcall
          subst hcall
          exact hs.leave
  | connected sock ip remotePort localPort =>
      cases o <;> try exact ho.elim
      case cySocketSetsockopt => exact hsame hcall (some sock) hs
      case cySocketSend => exact hsame hcall (some sock) hs
  | sent sock ip remotePort localPort =>
      cases o <;> try exact ho.elim
      case setGlobalSocketPtr sock' =>
        obtain rfl : sock' = sock := ho
        subst hcall
        exact hs.hand
  | handedOver ip remotePort localPort =>
      cases o <;> try exact ho.elim
      case cylpaTkoOlUpdateConfig =>
        subst hcall
        exact hs.enter

/-- The protocol's state, and the sockets with it. -/
abbrev AtHand (b : SockBuild) (q : Hand) (n : List TkoConnection) :
    List (Label (SockOp max) SockRes OtherUser) → SockWorld max → Prop :=
  (tcpProtocol max b).At (q, n) (Held q.held n)

/-- Every run keeps to the protocol, and ends in `Q`. -/
abbrev KeepsTo {α : Type} (b : SockBuild)
    (Q : α → List (Label (SockOp max) SockRes OtherUser) → SockWorld max → Prop)
    (p : Sock max α) (h : List (Label (SockOp max) SockRes OtherUser)) (s : SockWorld max) :
    Prop :=
  (tcpProtocol max b).Follows sockSem otherUser (fun q => Held q.1.held q.2) Q p h s

/-- **A call.** -/
theorem KeepsTo.call {α : Type}
    {Q : α → List (Label (SockOp max) SockRes OtherUser) → SockWorld max → Prop}
    {k : SockRes o → Sock max α} (hat : AtHand b q n h s) (ho : q.allows b o)
    (hk : ∀ r h s, AtHand b (q.next o r) (o.enters ++ n) h s → KeepsTo b Q (k r) h s) :
    KeepsTo b Q (.call o k) h s :=
  Monitor.Follows.call (fun r => Held (q.next o r).held (o.enters ++ n)) (Held.kept _ _) hat ho
    (fun _ hs => hs) (fun _ _ _ hs hcall => held_next ho hs hcall) hk

theorem KeepsTo.ret {α : Type} {x : α} (hat : AtHand b q n h s) :
    KeepsTo b (fun _ => AtHand b q n) (.ret x) h s :=
  Monitor.Follows.ret (Monitor.At.stable (Held.kept _ _)) hat

/-- The connection a call is for: none without both ports. -/
def SockArgs.connection (a : SockArgs max) : List TkoConnection :=
  if a.remotePort = 0 ∨ a.localPort = 0 then [] else [⟨a.remoteIp, a.remotePort, a.localPort⟩]

/-- The connections of some calls, the latest first. -/
def connections (calls : List (SockArgs max × UInt32)) : List TkoConnection :=
  (calls.flatMap fun call => call.1.connection).reverse

/-- The calls that return success. -/
def successes (calls : List (SockArgs max × UInt32)) : List (SockArgs max × UInt32) :=
  calls.filter fun call => call.2 = cyRsltSuccess

theorem connections_append (xs ys : List (SockArgs max × UInt32)) :
    connections (xs ++ ys) = connections ys ++ connections xs := by
  rw [connections, List.flatMap_append, List.reverse_append]
  rfl

theorem connections_singleton (a : SockArgs max) (response : UInt32) :
    connections [(a, response)] = a.connection := by
  unfold connections SockArgs.connection
  simp only [List.flatMap_singleton]
  split <;> rfl

/-- What some calls with their results leave: no socket in hand, and the connections entered of some
of them, among these all that return success. -/
def Entered (b : SockBuild) (n : List TkoConnection) (calls : List (SockArgs max × UInt32))
    (h : List (Label (SockOp max) SockRes OtherUser)) (s : SockWorld max) : Prop :=
  ∃ done, (successes calls).Sublist done ∧ done.Sublist calls ∧
    AtHand b .empty (connections done ++ n) h s

theorem KeepsTo.ret_entered {a : SockArgs max} {response : UInt32}
    (hentered : Entered b n [(a, response)] h s) :
    KeepsTo b (fun response => Entered b n [(a, response)]) (.ret response) h s := by
  refine Monitor.Follows.ret ?_ hentered
  rintro e h s s' ⟨done, hsucc, hdone, hat⟩ he
  exact ⟨done, hsucc, hdone, Monitor.At.stable (Held.kept _ _) e h s s' hat he⟩

/-- A call that fails enters nothing. -/
theorem KeepsTo.ret_failed {a : SockArgs max} {response : UInt32} (hne : response ≠ cyRsltSuccess)
    (hat : AtHand b .empty n h s) :
    KeepsTo b (fun response => Entered b n [(a, response)]) (.ret response) h s := by
  refine KeepsTo.ret_entered ⟨[], ?_, List.nil_sublist _, hat⟩
  rw [successes, List.filter_cons_of_neg (by simpa using hne), List.filter_nil]

theorem localAddress_keepsTo (hat : AtHand b .empty n h s) :
    KeepsTo b (fun _ => AtHand b .empty n) (localAddress b) h s := by
  unfold localAddress
  split
  · exact KeepsTo.call hat trivial fun ip h s hat => KeepsTo.ret hat
  · exact KeepsTo.call hat trivial fun ip h s hat => KeepsTo.ret hat

variable {sock : Handle} {ip : UInt32} {a : SockArgs max}

theorem setKeepalive_keepsTo {remotePort localPort : UInt16}
    (hat : AtHand b (.connected sock ip remotePort localPort) n h s) :
    KeepsTo b (fun _ => AtHand b (.connected sock ip remotePort localPort) n)
      (setKeepalive sock a) h s := by
  refine KeepsTo.call hat rfl fun _ h s hat => ?_
  refine KeepsTo.call hat rfl fun _ h s hat => ?_
  refine KeepsTo.call hat rfl fun _ h s hat => ?_
  exact KeepsTo.call hat rfl fun _ h s hat => KeepsTo.ret hat

/-- **A connected socket** is handed over and entered. -/
theorem handOver_keepsTo (hip : b.cyNwStrToIpv4 a.remoteIp = ip)
    (hat : AtHand b (.connected sock ip a.remotePort a.localPort) n h s) :
    KeepsTo b (fun response => Entered b n [(a, response)]) (handOver sock a) h s := by
  have hsend : ∀ h s, AtHand b (.connected sock ip a.remotePort a.localPort) n h s →
      KeepsTo b (fun response => Entered b n [(a, response)])
        (.call (.cySocketSend sock) fun response =>
        .call (.setGlobalSocketPtr sock) fun _ =>
          .call (.cylpaTkoOlUpdateConfig a.remoteIp a.remotePort a.localPort a.downloaded)
            fun _ => .ret response) h s := by
    intro h s hat
    refine KeepsTo.call hat rfl fun response h s hat => ?_
    refine KeepsTo.call hat rfl fun _ h s hat => ?_
    refine KeepsTo.call hat ⟨hip, rfl, rfl⟩ fun _ h s hat => KeepsTo.ret_entered ?_
    refine ⟨[(a, response)], List.filter_sublist, List.Sublist.refl _, ?_⟩
    rwa [connections_singleton]
  unfold handOver when
  split
  · exact Monitor.Follows.bind (setKeepalive_keepsTo hat) fun _ => hsend
  · exact hsend h s hat

/-- **A socket just created** is handed over, or deleted. -/
theorem connectSocket_keepsTo (hat : AtHand b (.created sock) n h s) :
    KeepsTo b (fun response => Entered b n [(a, response)]) (connectSocket b sock ip a) h s := by
  -- a socket that has been refused
  have hrefused : ∀ (response : UInt32) h (s : SockWorld max), response ≠ cyRsltSuccess →
      AtHand b (.refused sock) n h s →
      KeepsTo b (fun response => Entered b n [(a, response)])
        (.call (.cySocketDelete sock) fun _ => .ret response) h s :=
    fun response h s hne hat => KeepsTo.call hat rfl fun _ h s hat => KeepsTo.ret_failed hne hat
  refine KeepsTo.call hat rfl fun response h s hat => ?_
  by_cases hbound : response = cyRsltSuccess
  · have hat : AtHand b (.bound sock a.localPort) n h s := by
      rwa [Hand.next, if_pos hbound] at hat
    rw [Prog.ret_bind, if_neg (not_not.mpr hbound)]
    refine KeepsTo.call hat rfl fun response h s hat => ?_
    by_cases hconnected : response = cyRsltSuccess
    · have hat : AtHand b (.connected sock (b.cyNwStrToIpv4 a.remoteIp) a.remotePort
          a.localPort) n h s := by rwa [Hand.next, if_pos hconnected] at hat
      rw [Prog.ret_bind, if_neg (not_not.mpr hconnected)]
      exact handOver_keepsTo rfl hat
    · have hat : AtHand b (.refused sock) n h s := by rwa [Hand.next, if_neg hconnected] at hat
      rw [Prog.ret_bind, if_pos hconnected]
      exact hrefused response h s hconnected hat
  · have hat : AtHand b (.refused sock) n h s := by rwa [Hand.next, if_neg hbound] at hat
    rw [Prog.ret_bind, if_pos hbound]
    exact hrefused response h s hbound hat

/-- **A call** leaves no socket in hand. -/
theorem cyTcpCreateSocketConnection_keepsTo (a : SockArgs max) (hat : AtHand b .empty n h s) :
    KeepsTo b (fun response => Entered b n [(a, response)]) (cyTcpCreateSocketConnection b a)
      h s := by
  unfold cyTcpCreateSocketConnection
  split
  · exact KeepsTo.ret_failed b.error_ne hat
  · refine Monitor.Follows.bind (localAddress_keepsTo hat) fun ip h s hat => ?_
    cases ip with
    | none => exact KeepsTo.ret_failed b.badArg_ne hat
    | some ip =>
        refine KeepsTo.call hat trivial fun created h s hat => ?_
        obtain ⟨response, sock⟩ := created
        change KeepsTo b (fun response => Entered b n [(a, response)])
          (if response ≠ cyRsltSuccess then .ret response else connectSocket b sock ip a) h s
        by_cases hr : response = cyRsltSuccess
        · have hat : AtHand b (.created sock) n h s := by rwa [Hand.next, if_pos hr] at hat
          rw [if_neg (not_not.mpr hr)]
          exact connectSocket_keepsTo hat
        · have hat : AtHand b .empty n h s := by rwa [Hand.next, if_neg hr] at hat
          rw [if_pos hr]
          exact KeepsTo.ret_failed hr hat

/-- What some calls leave, and what they return. -/
def EnteredAll (b : SockBuild) (n : List TkoConnection) (calls : List (SockArgs max))
    (responses : List UInt32) (h : List (Label (SockOp max) SockRes OtherUser))
    (s : SockWorld max) : Prop :=
  responses.length = calls.length ∧ Entered b n (calls.zip responses) h s

theorem KeepsTo.ret_enteredAll {calls : List (SockArgs max)} {responses : List UInt32}
    (hentered : EnteredAll b n calls responses h s) :
    KeepsTo b (EnteredAll b n calls) (.ret responses) h s := by
  refine Monitor.Follows.ret ?_ hentered
  rintro e h s s' ⟨hlen, done, hsucc, hdone, hat⟩ he
  exact ⟨hlen, done, hsucc, hdone, Monitor.At.stable (Held.kept _ _) e h s s' hat he⟩

/-- **Any number of calls** keep to the protocol. -/
theorem createSocketConnections_keepsTo (calls : List (SockArgs max))
    (hat : AtHand b .empty n h s) :
    KeepsTo b (EnteredAll b n calls) (createSocketConnections b calls) h s := by
  induction calls generalizing n h s with
  | nil =>
      exact KeepsTo.ret_enteredAll ⟨rfl, [], List.Sublist.refl _, List.Sublist.refl _, hat⟩
  | cons a as ih =>
      refine Monitor.Follows.bind (cyTcpCreateSocketConnection_keepsTo a hat)
        fun response h s ⟨done, hsucc, hdone, hat⟩ => ?_
      refine Monitor.Follows.bind (ih hat)
        fun responses h s ⟨hlen, done', hsucc', hdone', hat⟩ => ?_
      refine KeepsTo.ret_enteredAll ⟨by rw [List.length_cons, List.length_cons, hlen],
        done ++ done', ?_, hdone.append hdone', ?_⟩
      · have hall : successes ((a :: as).zip (response :: responses)) =
            successes [(a, response)] ++ successes (as.zip responses) := by
          rw [List.zip_cons_cons, successes, ← List.singleton_append, List.filter_append]
          rfl
        rw [hall]
        exact hsucc.append hsucc'
      · rwa [connections_append, List.append_assoc]

end Follows

/-- **No socket is lost.**  Whatever fails, in any number of calls, and whatever other users do
meanwhile: every call of the socket layer is one the protocol allows, so that a socket is deleted
only if it has been refused and is not used after; and in the end the sockets open are those handed
over and not closed since, each handed over once, and those whose deletion has failed.  The TKO
table then holds the connections entered last: they are those with both ports of the calls `done`,
in order, among which are all calls that returned success. -/
theorem createSocketConnections_leakFree (b : SockBuild) (calls : List (SockArgs max))
    (c : Config (SockOp max) SockRes OtherUser (SockWorld max) (List UInt32))
    (hrun : Reach sockSem otherUser ⟨createSocketConnections b calls, [], .boot max⟩ c) :
    (tcpProtocol max b).Accepts c.hist ∧
    (∀ o k, c.prog = .call o k → (tcpProtocol max b).allows ((tcpProtocol max b).after c.hist) o) ∧
    ∀ responses, c.prog = .ret responses →
      c.st.ours = (c.st.handed ++ c.st.undeleted).toFinset ∧
      (c.st.handed ++ c.st.undeleted).Nodup ∧ responses.length = calls.length ∧
      ∃ done t, (successes (calls.zip responses)).Sublist done ∧
        done.Sublist (calls.zip responses) ∧
        c.st.updates.foldlM TkoCall.step (.boot max) = some t ∧
        t.Recent (TkoCall.history c.st.updates) ∧
        (TkoCall.history c.st.updates).recent = connections done := by
  have hstart : AtHand b .empty [] [] (.boot max) :=
    ⟨rfl, List.nodup_nil, rfl, Finset.disjoint_empty_left _, rfl⟩
  have hkeeps := createSocketConnections_keepsTo calls hstart
  refine ⟨hkeeps.accepts Monitor.accepts_nil hrun, fun o k hk => ((hkeeps c hrun).1 o k hk).1,
    fun responses hret => ?_⟩
  obtain ⟨hlen, done, hsucc, hdone, -, hheld⟩ := (hkeeps c hrun).2 responses hret
  obtain ⟨t, ht, hinv⟩ := tkoTableInv_run tkoTableInv_boot c.st.updates
  refine ⟨hheld.ours, hheld.nodup, hlen, done, t, hsucc, hdone, ht, hinv.recent, ?_⟩
  rw [hheld.entered, List.append_nil]

/-! ### A run -/

/-- A socket numbered by what has been called so far, if that is not open. -/
def sockNew (n : ℕ) (s : SockWorld max) : (UInt32 × Handle) × SockWorld max :=
  if n ∉ s.ours ∧ n ∉ s.others then ((cyRsltSuccess, n), { s with ours := insert n s.ours })
  else ((1, 0), s)

/-- The usual answers: sockets are numbered, the peer at the port 1 is not there. -/
def sockUsual : (o : SockOp max) → List (Label (SockOp max) SockRes OtherUser) → SockWorld max →
    SockRes o × SockWorld max
  | .netIpAddr, _, s => (0x0a01a8c0, s)
  | .nxIpAddressGet, _, s => (some 0x0a01a8c0, s)
  | .cySocketCreate, h, s => sockNew h.length s
  | .cySocketBind _ _ _, _, s => (cyRsltSuccess, s)
  | .cySocketConnect _ _ port, _, s => (if port = 1 then 1 else cyRsltSuccess, s)
  | .cySocketDelete sock, _, s => (cyRsltSuccess, { s with ours := s.ours.erase sock })
  | .cySocketSetsockopt _ _ _, _, s => (cyRsltSuccess, s)
  | .cySocketSend _, _, s => (cyRsltSuccess, s)
  | .setGlobalSocketPtr sock, _, s => ((), { s with handed := s.handed ++ [sock] })
  | .cylpaTkoOlUpdateConfig remoteIp remotePort localPort downloaded, _, s =>
      ((), { s with updates := s.updates ++
        [.updateConfig (some remoteIp) remotePort localPort (some downloaded)] })

theorem sockUsual_answers (o : SockOp max) (h : List (Label (SockOp max) SockRes OtherUser))
    (s : SockWorld max) : sockSem o s (sockUsual o h s).1 (sockUsual o h s).2 := by
  cases o with
  | cySocketCreate =>
      change sockSem .cySocketCreate s (sockNew h.length s).1 (sockNew h.length s).2
      unfold sockNew
      split
      · rename_i hfree
        exact ⟨hfree.1, hfree.2, rfl⟩
      · have hne : (1 : UInt32) ≠ cyRsltSuccess := by decide
        simp only [sockSem, if_neg hne]
  | _ => rfl

/-- Four connections at a time. -/
def fourTko : MaxTko := ⟨4, by decide, by decide⟩

/-- The address of a peer. -/
def peerIp : IpString := ⟨[0x31], by decide, by decide⟩

/-- Two connections: the first peer is not there, and the second socket is handed over and its
connection entered. -/
theorem createSocketConnections_leakFree_two :
    ∃ c : Config (SockOp fourTko) SockRes OtherUser (SockWorld fourTko) (List UInt32),
      c.prog = .ret [1, cyRsltSuccess] ∧ c.st.handed.length = 1 ∧
        c.st.ours = (c.st.handed ++ c.st.undeleted).toFinset ∧
        ⟨peerIp, 1883, 50001⟩ ∈ (TkoCall.history c.st.updates).recent := by
  let b : SockBuild := ⟨false, 1, 2, fun _ => 0x0101a8c0, by decide, by decide⟩
  let cfg := (TkoTable.boot fourTko).cfg
  let second : SockArgs fourTko := ⟨true, peerIp, 1883, 50001, cfg, 1⟩
  have hrun : Reach sockSem otherUser
      ⟨createSocketConnections b [⟨true, peerIp, 1, 50000, cfg, 1⟩, second], [], .boot fourTko⟩ _ :=
    Prog.reach_exec sockUsual_answers 40 _
  obtain ⟨hours, -, -, done, t, hsucc, -, -, -, hrecent⟩ :=
    (createSocketConnections_leakFree b _ _ hrun).2.2 [1, cyRsltSuccess] rfl
  have hsecond : (second, cyRsltSuccess) ∈ done := hsucc.subset (by simp [successes])
  refine ⟨_, rfl, rfl, hours, ?_⟩
  rw [hrecent, connections, List.mem_reverse, List.mem_flatMap]
  exact ⟨_, hsecond, List.mem_singleton_self _⟩

end Lpa.TkoSockets
