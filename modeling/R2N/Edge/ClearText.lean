import R2N.Edge.Authentication
import R2N.Edge.Evolution

/-!
# Clear text

A peer record starts without a cipher, and both directions treat a record without one as a peer
that speaks in clear text: `send_to_peer` copies the packet behind the header, and
`handle_incoming_frame` takes the payload as it is.  The edge is followed together with the keys
it has negotiated, that is, installed from a handshake that the registered key of the peer
authenticated.

* `Keyed` — an edge and the keys it has negotiated.
* `NoClearText` — the property of a step: a packet from the device leaves under a negotiated key of
  the peer it is sent to, and bytes for the device were verified under one of the peer they are
  from.
* `CipherReady` — the condition: the record has a cipher whenever traffic with it is handled.
* `KeysNegotiated.step` — every key in a record is a negotiated one.
* **`no_clear_text`** — every run.
* **`device_packet_in_clear_text`** — a packet sent before the handshake.
-/

namespace R2N

open Run

/-- `payload` is accepted under `key` as a ciphertext with its tag, authenticated together with the
header it came with, and `packet` is its content. -/
def OpenedUnder (A : Aead) (key : Key) (h : DataHeader) (payload packet : Bytes) : Prop :=
  ∃ ct tag, payload = ct ++ tag ∧
    A.decryptInPlaceDetached key (nonceBytes h.nonce) (headerAad h) ct tag = some packet

/-- A payload that `decrypt_in_place` accepts is opened under the cipher's key. -/
lemma Cipher.openedUnder_of_decryptInPlace {A : Aead} {c : Cipher} {h : DataHeader}
    {payload packet : Bytes}
    (hok : (c.decryptInPlace A h.nonce (headerAad h) payload).1 = .ok packet) :
    OpenedUnder A c.key h payload packet := by
  unfold decryptInPlace at hok
  split at hok
  · cases hok
  · simp only at hok
    split_ifs at hok
    split at hok
    · cases hok
    · rename_i hopen
      obtain rfl := Except.ok.inj hok
      exact ⟨_, _, (List.take_append_drop _ payload).symm, hopen⟩

namespace DataPlane

/-- A frame for a record with a cipher carries the payload under the key of the record. -/
lemma sendToPeer_sealed {A : Aead} (hA : A.Correct) {E : Etherparse} {dp : DataPlane} {r : PeerRef}
    {packetType : DataPacketType} {payload : Bytes} {targetOverride : Option SocketAddr}
    {flood : Bool} {net : NetAnswer} {c : Cipher} (hc : (dp.heap r).cipher = some c)
    {frame : Bytes × SocketAddr}
    (hframe : (dp.sendToPeer A E r packetType payload targetOverride flood net).frame =
      some frame) :
    ∃ h body, SealedUnder A c.key h payload body ∧ frame.1 = h.wire ++ body := by
  rcases dp.sendToPeer_effect A E r packetType payload targetOverride flood net with
    ⟨-, -, -, hnone⟩ | ⟨hsend, -⟩
  · rw [hnone] at hframe
    cases hframe
  · obtain ⟨room, hroom⟩ := Option.isSome_iff_exists.mp hsend.2.1
    have hwire := dp.sendToPeer_frame A E r packetType payload targetOverride flood net hA hroom
      hsend
    simp only [hc] at hwire
    obtain ⟨body, hsealed, hsent⟩ := hwire
    rw [hsent] at hframe
    exact ⟨_, body, hsealed, by rw [← Option.some.inj hframe]⟩

/-- What a frame of a peer with a cipher writes to the device was verified under the peer's key,
and is not a ping or a pong. -/
lemma handleIncomingFrame_opened {A : Aead} {E : Etherparse} {macos : Bool} {dp : DataPlane}
    {h : DataHeader} {payload : Bytes} {addr : SocketAddr} {io : IncomingIo} {written : Bytes}
    (hwritten : (dp.handleIncomingFrame A E macos h payload addr io).written = some written) :
    ∃ r packet, dp.peers.lookup h.srcNode = some r ∧ h.packetType ≠ .ping ∧ h.packetType ≠ .pong ∧
      (∀ c, (dp.heap r).cipher = some c → OpenedUnder A c.key h payload packet) ∧
      ∃ tun, dp.tun = some tun ∧
        written = preparePacketForLocalTun E macos packet h.packetType tun.ipv4Addr := by
  rw [handleIncomingFrame_written] at hwritten
  obtain ⟨packet, haccepted, hdeliver⟩ := Option.bind_eq_some_iff.mp hwritten
  unfold acceptedPacket at haccepted
  unfold deliverable at hdeliver
  split_ifs at haccepted hdeliver with _ htype _
  push Not at htype
  cases hr : dp.peers.lookup h.srcNode with
  | none => simp [hr] at haccepted
  | some r =>
      obtain ⟨tun, htun, hprepared⟩ := Option.map_eq_some_iff.mp hdeliver
      refine ⟨r, packet, rfl, htype.1, htype.2, fun c hc => ?_, tun, htun, hprepared.symm⟩
      simp only [hr, openPayload, hc] at haccepted
      cases hdec : (c.decryptInPlace A h.nonce (headerAad h) payload).1 with
      | error err => simp [hdec, Except.toOption] at haccepted
      | ok packet' =>
          obtain rfl : packet' = packet := by simpa [hdec, Except.toOption] using haccepted
          exact Cipher.openedUnder_of_decryptInPlace hdec

end DataPlane

/-- An edge, and the keys it has negotiated so far, each with the peer. -/
structure Keyed where
  edge : Edge
  negotiated : List (NodeId × Key)

namespace Keyed

/-- The key a step negotiates: the handshake is complete, and the static key of its other side is
the one registered for the peer. -/
def negotiatedBy (P : Platform) (e : Edge) (i : EdgeInput) : List (NodeId × Key) :=
  ((e.installedBy P i).filter fun ins => ins.session.isHandshakeFinished ∧
    ins.session.remoteStatic = (e.peers.lookup ins.peer).map fun st => st.info.publicKey).toList.map
      fun ins => (ins.peer, ins.key)

def step (P : Platform) (s : Keyed) (i : EdgeInput) : Keyed where
  edge := s.edge.step P i
  negotiated := s.negotiated ++ negotiatedBy P s.edge i

/-- No clear text between the device and a peer in this step. -/
def NoClearText (P : Platform) (s : Keyed) : EdgeInput → Prop
  | .send call => call.fromTun = true → call.peer < s.edge.dataplane.nextRef →
      ∀ frame, (s.edge.sendOutcome P call).frame = some frame →
        ∃ key h body, ((s.edge.dataplane.heap call.peer).info.nodeId, key) ∈ s.negotiated ∧
          SealedUnder P.aead key h call.payload body ∧ frame.1 = h.wire ++ body
  | .data h payload addr io =>
      ∀ written, (s.edge.dataOutcome P h payload addr io).written = some written →
        ∃ key packet tun, (h.srcNode, key) ∈ s.negotiated ∧
          OpenedUnder P.aead key h payload packet ∧ s.edge.dataplane.tun = some tun ∧
          written = preparePacketForLocalTun P.etherparse P.macos packet h.packetType tun.ipv4Addr
  | _ => True

/-- The record has a cipher whenever a packet from the device is sent to it, and whenever a frame
of its peer that is not a ping or a pong is handled. -/
def CipherReady (s : Keyed) : EdgeInput → Prop
  | .send call => call.fromTun = true → call.peer < s.edge.dataplane.nextRef →
      (s.edge.dataplane.heap call.peer).cipher.isSome = true
  | .data h _ _ _ => h.packetType ≠ .ping → h.packetType ≠ .pong →
      ∀ r ∈ s.edge.dataplane.peers.lookup h.srcNode,
        (s.edge.dataplane.heap r).cipher.isSome = true
  | _ => True

instance (s : Keyed) : ∀ i, Decidable (s.CipherReady i)
  | .send _ => inferInstanceAs (Decidable (_ → _ → _))
  | .data _ _ _ _ => inferInstanceAs (Decidable (_ → _ → _))
  | .control _ _ _ | .command _ _ | .finishLeave | .failover _ => isTrue trivial

/-- Every key in a record was negotiated with the peer of the record. -/
structure KeysNegotiated (s : Keyed) : Prop where
  wellFormed : s.edge.dataplane.WellFormed
  pendingBound : s.edge.PendingBound
  key : ∀ r < s.edge.dataplane.nextRef, ∀ c, (s.edge.dataplane.heap r).cipher = some c →
    ((s.edge.dataplane.heap r).info.nodeId, c.key) ∈ s.negotiated

lemma keysNegotiated_of_fresh {s : Keyed} (hpeers : s.edge.peers = ∅)
    (htable : s.edge.dataplane.peers = ∅) (href : s.edge.dataplane.nextRef = 0) :
    s.KeysNegotiated where
  wellFormed := DataPlane.wellFormed_of_empty htable
  pendingBound := Edge.pendingBound_of_empty hpeers
  key := by
    intro r hr
    rw [href] at hr
    exact absurd hr (Nat.not_lt_zero r)

/-- A key that is installed under the condition on registered keys is negotiated. -/
lemma mem_negotiatedBy {P : Platform} {e : Edge} {i : EdgeInput} (he : e.PendingBound)
    (hi : Edge.RegisteredKeys P e i) {id : NodeId} {key : Key}
    (hins : (e.installedBy P i).map (fun ins => (ins.peer, ins.key)) = some (id, key)) :
    (id, key) ∈ negotiatedBy P e i := by
  obtain ⟨ins, hby, hpair⟩ := Option.map_eq_some_iff.mp hins
  have hauth := Edge.installedBy_authentic he hi hby
  unfold negotiatedBy
  rw [hby, Option.filter_some, if_pos (by simpa using hauth), ← hpair]
  exact List.mem_singleton_self _

/-- A step that installs only keys of registered nodes leaves only negotiated keys installed. -/
lemma KeysNegotiated.step {P : Platform} {s : Keyed} (h : s.KeysNegotiated) {i : EdgeInput}
    (hi : Edge.RegisteredKeys P s.edge i) : (s.step P i).KeysNegotiated := by
  rcases Edge.step_evolves P h.wellFormed i with ⟨he, -⟩ | ⟨r, -, -, he, -, -⟩
  · refine ⟨he.wellFormed, h.pendingBound.step hi, fun r hr c hc => List.mem_append.mpr ?_⟩
    rcases he.key r hr c hc with ⟨hlt, hold⟩ | hnew
    · obtain ⟨c₀, hc₀, hkey⟩ := Option.map_eq_some_iff.mp hold
      left
      rw [Keyed.step, he.nodeId r hlt, ← hkey]
      exact h.key r hlt c₀ hc₀
    · exact .inr (mem_negotiatedBy h.pendingBound hi hnew)
  · refine ⟨he.wellFormed h.wellFormed, h.pendingBound.step hi,
      fun r' hr' c hc => List.mem_append.mpr (.inl ?_)⟩
    have hkeys := he.key r'
    rw [show ((s.edge.step P i).dataplane.heap r').cipher = some c from hc] at hkeys
    obtain ⟨c₀, hc₀, hkey⟩ := Option.map_eq_some_iff.mp hkeys.symm
    rw [Keyed.step, he.nodeId r', ← hkey]
    exact h.key r' (he.nextRef ▸ hr') c₀ hc₀

/-- With the invariant and the condition, a step sends and delivers no clear text. -/
lemma noClearText_of_cipherReady {P : Platform} (hA : P.aead.Correct) {s : Keyed}
    (h : s.KeysNegotiated) {i : EdgeInput} (hready : s.CipherReady i) : s.NoClearText P i := by
  cases i with
  | send call =>
      intro htun hlt frame hframe
      obtain ⟨c, hc⟩ := Option.isSome_iff_exists.mp (hready htun hlt)
      obtain ⟨hdr, body, hsealed, hbytes⟩ := DataPlane.sendToPeer_sealed hA hc hframe
      exact ⟨c.key, hdr, body, h.key call.peer hlt c hc, hsealed, hbytes⟩
  | data hdr payload addr io =>
      intro written hwritten
      obtain ⟨r, packet, hr, hping, hpong, hopened, tun, htun, hprepared⟩ :=
        DataPlane.handleIncomingFrame_opened hwritten
      obtain ⟨c, hc⟩ := Option.isSome_iff_exists.mp (hready hping hpong r hr)
      have hmem := h.key r (h.wellFormed.ref_lt _ r hr) c hc
      rw [h.wellFormed.nodeId _ r hr] at hmem
      exact ⟨c.key, packet, tun, hmem, hopened c hc, htun, hprepared⟩
  | _ => trivial

/-! ## Every run -/

/-- **No clear text.**  An edge starts without peers.  As long as a record has its cipher before
traffic with it is handled, and handshakes are by the owners of the registered keys, every packet
from the device that is transmitted is encrypted under a key negotiated with the peer it goes to,
and everything written to the device was verified under a key negotiated with the peer it is
from. -/
theorem no_clear_text (P : Platform) (hA : P.aead.Correct) (e : Edge) (hpeers : e.peers = ∅)
    (htable : e.dataplane.peers = ∅) (href : e.dataplane.nextRef = 0) (inputs : List EdgeInput)
    (hready : Along (step P) (fun s i => Edge.RegisteredKeys P s.edge i ∧ s.CipherReady i)
      ⟨e, []⟩ inputs) :
    Along (step P) (NoClearText P) ⟨e, []⟩ inputs :=
  Along.mono_of_invariant (I := KeysNegotiated) (fun _ _ h hi => h.step hi.1)
    (fun _ _ h hi => noClearText_of_cipherReady hA h hi.2) inputs ⟨e, []⟩
    (keysNegotiated_of_fresh hpeers htable href) hready

open Edge in
/-- Node 1 enters a room, completes a handshake with node 2 and sends it a packet. -/
theorem no_clear_text_after_handshake :
    Along (step .transparent) (NoClearText .transparent) ⟨sample 1, []⟩
      [enterRoom, announce 2, punch, receiveAnswer, sendPacket] :=
  no_clear_text .transparent Aead.transparent_correct (sample 1) rfl rfl rfl _ (by decide)

open Edge in
/-- **Before the handshake** the packet is sent, and is not under a negotiated key. -/
theorem device_packet_in_clear_text :
    ¬ Along (step .transparent) (NoClearText .transparent) ⟨sample 1, []⟩
      [enterRoom, announce 2, sendPacket] := by
  rintro ⟨-, -, hsend, -⟩
  have hframe : ((((sample 1).step .transparent enterRoom).step .transparent
      (announce 2)).sendOutcome .transparent ⟨true, 0, .ipv4, [0x45], none, false,
        .sent⟩).frame.isSome = true := by decide
  obtain ⟨frame, hframe⟩ := Option.isSome_iff_exists.mp hframe
  obtain ⟨key, h, body, hmem, -⟩ := hsend rfl (by decide) frame hframe
  have hnone : ((step .transparent (step .transparent ⟨sample 1, []⟩ enterRoom)
      (announce 2)).negotiated) = [] := by decide
  rw [hnone] at hmem
  cases hmem

end Keyed

end R2N
